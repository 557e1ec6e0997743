/-!
Cutting texts: at every separator, and after a given start.
-/

namespace SceneScript.Text

/-- The parts between separators; one more part than there are separators. -/
def splitAt (separator : Char) : List Char → List (List Char)
  | [] => [[]]
  | c :: rest =>
      if c = separator then [] :: splitAt separator rest
      else
        match splitAt separator rest with
        | part :: parts => (c :: part) :: parts
        | [] => [[c]]

def dropCharsStart? : List Char → List Char → Option (List Char)
  | [], chars => some chars
  | _ :: _, [] => none
  | c :: start, d :: chars => if c = d then dropCharsStart? start chars else none

/-- What follows a start, in a text that begins with it. -/
def dropStart? (start text : String) : Option String :=
  (dropCharsStart? start.toList text.toList).map String.ofList

theorem dropCharsStart?_eq_some_iff (start chars rest : List Char) :
    dropCharsStart? start chars = some rest ↔ chars = start ++ rest := by
  induction start generalizing chars with
  | nil => simp [dropCharsStart?]
  | cons c start ih =>
    cases chars with
    | nil => simp [dropCharsStart?]
    | cons d chars =>
      by_cases same : c = d
      · simp [dropCharsStart?, same, ih]
      · simp [dropCharsStart?, same, Ne.symm same]

theorem dropStart?_append (start rest : String) : dropStart? start (start ++ rest) = some rest := by
  simp [dropStart?, (dropCharsStart?_eq_some_iff start.toList _ rest.toList).2]

end SceneScript.Text
