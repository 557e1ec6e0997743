import SceneScript.Text.CaseMap
import SceneScript.Text.CaseContext

/-!
Lower and upper case of whole texts. All characters map alone except the capital sigma, whose
lower-case form differs at the end of a word.
-/

namespace SceneScript.Text

def startsCased (chars : List Char) : Bool :=
  match chars.dropWhile isCaseIgnorable with
  | [] => false
  | c :: _ => isCased c

/-- Characters with case stand before, and none follow. -/
def endsWord (before after : List Char) : Bool := startsCased before && !startsCased after

/-- `before` holds what precedes, last character first. -/
def lowerAfter (before : List Char) : List Char → List Char
  | [] => []
  | c :: rest =>
      (if c = '\u03a3' then [if endsWord before rest then '\u03c2' else '\u03c3'] else lowerChar c) ++
        lowerAfter (c :: before) rest

def lower (text : String) : String := String.ofList (lowerAfter [] text.toList)

def upper (text : String) : String := String.ofList (text.toList.flatMap upperChar)

end SceneScript.Text
