import SceneScript.Json.Basic
import SceneScript.Text.Quoted

/-!
Values as messages show them, on one line: texts inside a value are quoted, and the constants have
names of their own.
-/

namespace SceneScript.Json

mutual

def quoted : Json → String
  | null => "None"
  | bool value => if value then "True" else "False"
  | num value => value.write
  | str value => Text.quoted value
  | arr items => "[" ++ String.intercalate ", " (quotedItems items) ++ "]"
  | obj fields => "\x7b" ++ String.intercalate ", " (quotedFields fields) ++ "\x7d"

def quotedItems : List Json → List String
  | [] => []
  | item :: rest => quoted item :: quotedItems rest

def quotedFields : List (String × Json) → List String
  | [] => []
  | (key, value) :: rest => (Text.quoted key ++ ": " ++ quoted value) :: quotedFields rest

end

/-- A text by itself is shown as it is. -/
def display : Json → String
  | str value => value
  | other => quoted other

end SceneScript.Json
