/-!
Blank characters: white space, in and beyond ASCII, and the four separator controls. Trimming and
the tests for empty fields use this class; numerals are trimmed of white space alone.
-/

namespace SceneScript.Text

def isWhiteSpace (c : Char) : Bool :=
  let code := c.toNat
  (0x09 ≤ code && code ≤ 0x0D) || code == 0x20 || code == 0x85 || code == 0xA0 ||
    code == 0x1680 || (0x2000 ≤ code && code ≤ 0x200A) || code == 0x2028 || code == 0x2029 ||
    code == 0x202F || code == 0x205F || code == 0x3000

def isBlank (c : Char) : Bool := isWhiteSpace c || (0x1C ≤ c.toNat && c.toNat ≤ 0x1F)

/-- Drops what the class holds from both ends. -/
def trimBy (drops : Char → Bool) (text : String) : String :=
  String.ofList ((text.toList.dropWhile drops).reverse.dropWhile drops).reverse

def trim (text : String) : String := trimBy isBlank text

def isBlankText (text : String) : Bool := text.toList.all isBlank

theorem isBlank_of_isWhitespace (c : Char) (white : c.isWhitespace = true) : isBlank c = true := by
  simp only [Char.isWhitespace, Bool.or_eq_true, decide_eq_true_eq] at white
  rcases white with ((rfl | rfl) | rfl) | rfl <;> decide

end SceneScript.Text
