import SceneScript.Graph.Reading
import SceneScript.Text.LetterCase
import SceneScript.Text.Split

/-!
Settings: what an export is named and timed by, how global variables are marked, whether named
nodes leave marks, which origins a service admits, and how much is logged.
-/

namespace SceneScript

structure Settings where
  exportFps : Int := 30
  untitledId : String := "untitled"
  globalVarPrefix : String := "global."
  markNamedNodes : Bool := true
  corsAllowedOrigins : String := "*"
  logLevel : String := "INFO"

namespace Settings

def fieldNames : List String :=
  ["export_fps", "untitled_id", "global_var_prefix", "mark_named_nodes", "cors_allowed_origins",
    "log_level"]

def logLevels : List String := ["DEBUG", "INFO", "WARNING", "ERROR", "CRITICAL"]

def positive (value : Json) : Checked Int := do
  let rate ← Field.whole value
  if 0 < rate then .ok rate else Checked.fail .notPositive

/-- A level may be given in any case. -/
def level (value : Json) : Checked String := do
  let name ← Field.text value
  if Text.upper name ∈ logLevels then .ok (Text.upper name)
  else
    let known := (Json.arr (logLevels.map Json.str)).quoted
    Checked.fail (.rejected ("log_level must be one of " ++ known))

def ofFields (fields : Table Json) : Checked Settings :=
  (((((Settings.mk <$> Field.optional fields "export_fps" 30 positive).and
    (Field.optional fields "untitled_id" "untitled" Field.text)).and
    (Field.optional fields "global_var_prefix" "global." Field.text)).and
    (Field.optional fields "mark_named_nodes" true Field.flag)).and
    (Field.optional fields "cors_allowed_origins" "*" Field.text)).and
    (Field.optional fields "log_level" "INFO" level)

/-- One star admits every origin; otherwise the origins are listed with commas. -/
def origins (settings : Settings) : List String :=
  let listed := Text.trim settings.corsAllowedOrigins
  if listed = "*" then ["*"]
  else
    let parts := (Text.splitAt ',' listed.toList).map fun part => Text.trim (String.ofList part)
    parts.filter (· != "")

end Settings

end SceneScript
