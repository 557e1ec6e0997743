import SceneScript.Settings.Basic
import SceneScript.Settings.Dotenv

/-!
Where settings come from. Arguments win over environment variables, these over the names of a
dotenv file, and what none of them gives keeps its default. Names may be written in any case, and
those of variables have a common beginning. Of names that differ in case only, the first argument
counts, and the last variable.
-/

namespace SceneScript

structure Sources where
  args : Table Json := []
  environment : Table String := []
  dotenv : String := ""

namespace Sources

def variableStart : String := "cutscene_"

def argument? (sources : Sources) (field : String) : Option Json :=
  (sources.args.find? fun (name, _) => Text.lower name == field).map (·.2)

/-- The last value of a field; a name without a value takes back the values before it. -/
def given? (pairs : Table (Option String)) (field : String) : Option String :=
  (pairs.reverse.find? fun (name, _) => Text.lower name == variableStart ++ field).bind (·.2)

def environmentValues (sources : Sources) : Table (Option String) :=
  sources.environment.map fun (name, value) => (name, some value)

def dotenvValues (sources : Sources) : Table (Option String) :=
  Dotenv.read sources.environment sources.dotenv

def field? (sources : Sources) (field : String) : Option Json :=
  sources.argument? field <|>
    Json.str <$> given? sources.environmentValues field <|>
    Json.str <$> given? sources.dotenvValues field

def fields (sources : Sources) : Table Json :=
  Settings.fieldNames.filterMap fun name => (sources.field? name).map fun value => (name, value)

def settings (sources : Sources) : Checked Settings := Settings.ofFields sources.fields

end Sources

end SceneScript
