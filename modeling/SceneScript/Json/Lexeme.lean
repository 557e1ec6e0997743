import SceneScript.Json.Basic
import SceneScript.Number.Numeral

/-!
The smallest parts of JSON text. `Lexeme.next` reads one from text that does not begin with white
space; it takes at least one character, and what it cannot read is a lexeme too, so that the reader
alone decides which of two faults counts.
-/

namespace SceneScript

/-- What is wrong with a text. -/
inductive Misstep where
  | expectedValue
  | expectedName
  | expectedColon
  | expectedComma
  | extraData
  | unterminatedText
  | controlCharacter
  | unknownEscape
  | badCodePoint
  | byteOrderMark
  deriving DecidableEq, Repr

def Misstep.message : Misstep → String
  | expectedValue => "Expecting value"
  | expectedName => "Expecting property name enclosed in double quotes"
  | expectedColon => "Expecting ':' delimiter"
  | expectedComma => "Expecting ',' delimiter"
  | extraData => "Extra data"
  | unterminatedText => "Unterminated string starting at"
  | controlCharacter => "Invalid control character at"
  | unknownEscape => "Invalid \\escape"
  | badCodePoint => "Invalid \\uXXXX escape"
  | byteOrderMark => "Unexpected UTF-8 BOM (decode using utf-8-sig)"

inductive Lexeme where
  | openArray
  | closeArray
  | openObject
  | closeObject
  | colon
  | comma
  | text (value : String)
  | scalar (value : Json)
  | badText (fault : Misstep)
  | longNumeral (digits : Nat)
  | unknown

namespace Lexeme

def hexDigit? (c : Char) : Option Nat :=
  if c.isDigit then some (c.toNat - '0'.toNat)
  else if 'a' ≤ c ∧ c ≤ 'f' then some (c.toNat - 'a'.toNat + 10)
  else if 'A' ≤ c ∧ c ≤ 'F' then some (c.toNat - 'A'.toNat + 10)
  else none

def hexValue? (digits : List Char) : Option Nat :=
  digits.foldlM (fun value c => (hexDigit? c).map (16 * value + ·)) 0

def shortEscape? : Char → Option Char
  | '"' => some '"'
  | '\\' => some '\\'
  | '/' => some '/'
  | 'b' => some '\x08'
  | 'f' => some '\x0c'
  | 'n' => some '\n'
  | 'r' => some '\r'
  | 't' => some '\t'
  | _ => none

/-- The characters of a text so far, last one first, and the first half of a surrogate pair. -/
structure Spelling where
  done : List Char := []
  half : Option Nat := none

/-- A half without its partner is shown as the replacement character. -/
def Spelling.settle (spelling : Spelling) : List Char :=
  if spelling.half.isSome then '\ufffd' :: spelling.done else spelling.done

def Spelling.push (spelling : Spelling) (c : Char) : Spelling := { done := c :: spelling.settle }

def Spelling.pushCode (spelling : Spelling) (code : Nat) : Spelling :=
  if 0xD800 ≤ code ∧ code < 0xDC00 then { done := spelling.settle, half := some code }
  else if 0xDC00 ≤ code ∧ code < 0xE000 then
    match spelling.half with
    | some high =>
        { done := Char.ofNat (0x10000 + (high - 0xD800) * 0x400 + (code - 0xDC00)) :: spelling.done }
    | none => spelling.push '\ufffd'
  else spelling.push (Char.ofNat code)

/-- The rest of a text after its opening quote, and what follows it. -/
def scanText (spelling : Spelling) : List Char → Except Misstep (String × List Char)
  | [] => .error .unterminatedText
  | '"' :: rest => .ok (String.ofList spelling.settle.reverse, rest)
  | ['\\'] => .error .unterminatedText
  | '\\' :: 'u' :: a :: b :: c :: d :: next :: rest =>
      match hexValue? [a, b, c, d] with
      | some code => scanText (spelling.pushCode code) (next :: rest)
      | none => .error .badCodePoint
  | '\\' :: 'u' :: _ => .error .badCodePoint
  | '\\' :: letter :: rest =>
      match shortEscape? letter with
      | some c => scanText (spelling.push c) rest
      | none => .error .unknownEscape
  | c :: rest =>
      if c.toNat < 0x20 then .error .controlCharacter else scanText (spelling.push c) rest

def digitRun (chars : List Char) : List Char × List Char :=
  (chars.takeWhile Char.isDigit, chars.dropWhile Char.isDigit)

/-- The digits before a fraction: a zero stands alone. -/
def wholePart : List Char → List Char × List Char
  | '0' :: rest => (['0'], rest)
  | chars => digitRun chars

/-- A point counts only before a digit. -/
def fractionPart (chars : List Char) : List Char × List Char :=
  match chars with
  | '.' :: rest => if (digitRun rest).1.isEmpty then ([], chars) else digitRun rest
  | _ => ([], chars)

/-- An exponent counts only if digits end it. -/
def exponentPart (chars : List Char) : Option Int × List Char :=
  match chars with
  | letter :: rest =>
      let (negative, digits) := Numeral.splitSign rest
      let (run, after) := digitRun digits
      if (letter = 'e' ∨ letter = 'E') ∧ run ≠ [] then
        (some (Double.signed negative (Numeral.digitsValue run)), after)
      else (none, chars)
  | [] => (none, [])

/-- A numeral after its sign; whole without fraction and exponent, else a double. -/
def scanNumeral (negative : Bool) (chars : List Char) : Option (Lexeme × List Char) :=
  let (whole, afterWhole) := wholePart chars
  let (fraction, afterFraction) := fractionPart afterWhole
  let (exponent, rest) := exponentPart afterFraction
  if whole.isEmpty then none
  else if fraction.isEmpty && exponent.isNone then
    if Numeral.maxDigits < whole.length then some (longNumeral whole.length, rest)
    else some (scalar (.int (Double.signed negative (Numeral.digitsValue whole))), rest)
  else
    let digits := Numeral.digitsValue (whole ++ fraction)
    let double := Double.ofDecimal negative digits (exponent.getD 0 - fraction.length)
    some (scalar (.num (.double double)), rest)

def scanWord : List Char → Option (Json × List Char)
  | 'n' :: 'u' :: 'l' :: 'l' :: rest => some (.null, rest)
  | 't' :: 'r' :: 'u' :: 'e' :: rest => some (.bool true, rest)
  | 'f' :: 'a' :: 'l' :: 's' :: 'e' :: rest => some (.bool false, rest)
  | 'N' :: 'a' :: 'N' :: rest => some (.num (.double .nan), rest)
  | 'I' :: 'n' :: 'f' :: 'i' :: 'n' :: 'i' :: 't' :: 'y' :: rest =>
      some (.num (.double (.infinite false)), rest)
  | '-' :: 'I' :: 'n' :: 'f' :: 'i' :: 'n' :: 'i' :: 't' :: 'y' :: rest =>
      some (.num (.double (.infinite true)), rest)
  | _ => none

def scanScalar (first : Char) (chars : List Char) : Option (Lexeme × List Char) :=
  match scanWord (first :: chars) with
  | some (value, rest) => some (scalar value, rest)
  | none => if first = '-' then scanNumeral true chars else scanNumeral false (first :: chars)

/-- The lexeme that begins with a character, and the rest; never more than was there. -/
def next (first : Char) (chars : List Char) : Lexeme × List Char :=
  match first with
  | '[' => (openArray, chars)
  | ']' => (closeArray, chars)
  | '\x7b' => (openObject, chars)
  | '\x7d' => (closeObject, chars)
  | ':' => (colon, chars)
  | ',' => (comma, chars)
  | '"' =>
      match scanText {} chars with
      | .ok (value, rest) => (text value, rest)
      | .error fault => (badText fault, chars)
  | _ =>
      match scanScalar first chars with
      | some (lexeme, rest) => (lexeme, rest)
      | none => (unknown, chars)

theorem scanText_length {spelling : Spelling} {chars rest : List Char} {value : String}
    (read : scanText spelling chars = .ok (value, rest)) : rest.length < chars.length := by
  fun_induction scanText spelling chars with
  | case1 | case3 | case5 | case6 | case8 | case9 => simp at read
  | case2 spelling after =>
      simp only [Except.ok.injEq, Prod.mk.injEq] at read
      simp [read.2]
  | case4 spelling a b c d following after code _ ih =>
      have := ih read
      simp only [List.length_cons] at this ⊢
      omega
  | case7 =>
      rename_i ih
      have := ih read
      simp only [List.length_cons] at this ⊢
      omega
  | case10 =>
      rename_i ih
      have := ih read
      simp only [List.length_cons] at this ⊢
      omega

theorem digitRun_length (chars : List Char) :
    (digitRun chars).1.length + (digitRun chars).2.length = chars.length := by
  rw [digitRun, ← List.length_append, List.takeWhile_append_dropWhile]

theorem wholePart_length (chars : List Char) :
    (wholePart chars).1.length + (wholePart chars).2.length = chars.length := by
  unfold wholePart
  split
  · simp only [List.length_cons, List.length_nil]
    omega
  · exact digitRun_length _

theorem fractionPart_length (chars : List Char) :
    (fractionPart chars).2.length ≤ chars.length := by
  unfold fractionPart
  split
  · split
    · exact Nat.le_refl _
    · rename_i rest _
      have := digitRun_length rest
      simp only [List.length_cons]
      omega
  · exact Nat.le_refl _

theorem splitSign_length (chars : List Char) :
    (Numeral.splitSign chars).2.length ≤ chars.length := by
  unfold Numeral.splitSign
  split <;> simp

theorem exponentPart_length (chars : List Char) :
    (exponentPart chars).2.length ≤ chars.length := by
  cases chars with
  | nil => simp [exponentPart]
  | cons letter rest =>
      simp only [exponentPart]
      split
      · have sign := splitSign_length rest
        have run := digitRun_length (Numeral.splitSign rest).2
        simp only [List.length_cons]
        omega
      · exact Nat.le_refl _

theorem scanNumeral_length {negative : Bool} {chars rest : List Char} {lexeme : Lexeme}
    (read : scanNumeral negative chars = some (lexeme, rest)) : rest.length < chars.length := by
  have whole := wholePart_length chars
  have fraction := fractionPart_length (wholePart chars).2
  have exponent := exponentPart_length (fractionPart (wholePart chars).2).2
  simp only [scanNumeral] at read
  by_cases empty : (wholePart chars).1.isEmpty = true
  · simp [empty] at read
  · have taken : 0 < (wholePart chars).1.length := by
      simpa [List.length_pos_iff] using empty
    have same : (exponentPart (fractionPart (wholePart chars).2).2).2 = rest := by
      rw [if_neg empty] at read
      split at read
      · split at read <;> simp_all
      · simp_all
    rw [← same]
    omega

theorem scanWord_length {chars rest : List Char} {value : Json}
    (read : scanWord chars = some (value, rest)) : rest.length < chars.length := by
  unfold scanWord at read
  split at read <;> simp only [Option.some.injEq, Prod.mk.injEq, reduceCtorEq] at read <;>
    simp only [← read.2, List.length_cons] <;> omega

theorem scanScalar_length {first : Char} {chars rest : List Char} {lexeme : Lexeme}
    (read : scanScalar first chars = some (lexeme, rest)) : rest.length ≤ chars.length := by
  unfold scanScalar at read
  split at read
  · rename_i word
    simp only [Option.some.injEq, Prod.mk.injEq] at read
    have := scanWord_length word
    simp only [List.length_cons] at this
    rw [← read.2]
    omega
  · split at read
    · exact Nat.le_of_lt (scanNumeral_length read)
    · have := scanNumeral_length read
      simp only [List.length_cons] at this
      omega

theorem next_length (first : Char) (chars : List Char) :
    (next first chars).2.length ≤ chars.length := by
  unfold next
  split <;> try exact Nat.le_refl _
  · split
    · rename_i read
      exact Nat.le_of_lt (scanText_length read)
    · exact Nat.le_refl _
  · split
    · rename_i read
      exact scanScalar_length read
    · exact Nat.le_refl _

end Lexeme

end SceneScript
