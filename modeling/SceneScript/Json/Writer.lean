import SceneScript.Json.Basic

/-!
JSON text in its written form: one item or field a line, two spaces deeper than what holds it;
empty arrays and objects on one line. Only quotes, backslashes and controls are escaped.
-/

namespace SceneScript.Json

def hexDigit (value : Nat) : Char := (Nat.digitChar (value % 16))

def escape (c : Char) : List Char :=
  if c = '"' then ['\\', '"']
  else if c = '\\' then ['\\', '\\']
  else if c = '\n' then ['\\', 'n']
  else if c = '\r' then ['\\', 'r']
  else if c = '\t' then ['\\', 't']
  else if c = '\x08' then ['\\', 'b']
  else if c = '\x0c' then ['\\', 'f']
  else if c.toNat < 0x20 then ['\\', 'u', '0', '0', hexDigit (c.toNat / 16), hexDigit c.toNat]
  else [c]

def writeText (text : String) : List Char := '"' :: text.toList.flatMap escape ++ ['"']

def writeNumber : Number → List Char
  | .double .nan => "NaN".toList
  | .double (.infinite negative) => (Double.sign negative ++ "Infinity").toList
  | number => number.write.toList

def newLine (depth : Nat) : List Char := '\n' :: List.replicate (2 * depth) ' '

mutual

def writeAt (depth : Nat) : Json → List Char
  | null => "null".toList
  | bool value => (if value then "true" else "false").toList
  | num value => writeNumber value
  | str value => writeText value
  | arr [] => ['[', ']']
  | arr (item :: rest) =>
      '[' :: newLine (depth + 1) ++ writeAt (depth + 1) item ++ writeItems (depth + 1) rest ++
        newLine depth ++ [']']
  | obj [] => ['\x7b', '\x7d']
  | obj ((key, value) :: rest) =>
      '\x7b' :: newLine (depth + 1) ++ writeText key ++ [':', ' '] ++ writeAt (depth + 1) value ++
        writeFields (depth + 1) rest ++ newLine depth ++ ['\x7d']

/-- The items after the first, each after a comma. -/
def writeItems (depth : Nat) : List Json → List Char
  | [] => []
  | item :: rest => ',' :: newLine depth ++ writeAt depth item ++ writeItems depth rest

def writeFields (depth : Nat) : List (String × Json) → List Char
  | [] => []
  | (key, value) :: rest =>
      ',' :: newLine depth ++ writeText key ++ [':', ' '] ++ writeAt depth value ++
        writeFields depth rest

end

def write (value : Json) : String := String.ofList (writeAt 0 value)

end SceneScript.Json
