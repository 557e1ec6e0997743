import Mathlib.Data.List.DropRight
import SceneScript.Text.Blank

/-!
Blank texts and trimmed ones. Main statements: trimming leaves nothing exactly of a blank text, and
a text is blank when what is left of it is.
-/

namespace SceneScript.Text

theorem trim_eq_empty_iff {text : String} : trim text = "" ↔ isBlankText text = true := by
  have left : trim text =
      String.ofList (List.rdropWhile isBlank (text.toList.dropWhile isBlank)) := rfl
  rw [left, isBlankText, List.all_eq_true]
  constructor
  · intro none
    have nothing : List.rdropWhile isBlank (text.toList.dropWhile isBlank) = [] := by
      simpa using congrArg String.toList none
    -- Nothing is left at the end only if nothing was left at the beginning.
    have blank := List.dropWhile_eq_nil_iff.mpr (List.rdropWhile_eq_nil_iff.mp nothing)
    rw [List.dropWhile_idempotent] at blank
    exact List.dropWhile_eq_nil_iff.mp blank
  · intro blank
    rw [List.dropWhile_eq_nil_iff.mpr blank]
    rfl

theorem isBlankText_of_trim {text : String} (blank : isBlankText (trim text) = true) :
    isBlankText text = true := by
  rw [← trim_eq_empty_iff]
  have kept : (trim text).toList =
      List.rdropWhile isBlank (text.toList.dropWhile isBlank) := by simp [trim, trimBy, List.rdropWhile]
  rw [isBlankText, List.all_eq_true, kept] at blank
  have nothing := List.rdropWhile_eq_nil_iff.mpr blank
  rw [List.rdropWhile_idempotent, ← kept] at nothing
  exact String.toList_eq_nil_iff.mp nothing

end SceneScript.Text
