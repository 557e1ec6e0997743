import SceneScript.Text.Blank
import SceneScript.Text.LetterCase

/-!
Scene ids from titles: every run of blanks becomes one underscore, and the rest is lower case.
Blanks at the ends count too, so that only an empty title has no id of its own.
-/

namespace SceneScript

namespace Slug

/-- `inRun` says that the character before was a blank. -/
def joinBlanks (inRun : Bool) : List Char → List Char
  | [] => []
  | c :: rest =>
      if Text.isBlank c then
        if inRun then joinBlanks true rest else '_' :: joinBlanks true rest
      else c :: joinBlanks false rest

def ofTitle (title : String) : String :=
  Text.lower (String.ofList (joinBlanks false title.toList))

end Slug

/-- The id of a scene; a missing or empty title falls back to a given one. -/
def slug (title : Option String) (fallback : String) : String :=
  let own := Slug.ofTitle (title.getD "")
  if own = "" then fallback else own

end SceneScript
