import SceneScript.Number.Basic
import SceneScript.Text.Blank

/-!
Numbers written in text fields. A whole number may have a sign, zeros in front, single underscores
between its digits, and a fraction of zeros; whatever else reads as a decimal, or names an infinity
or the undefined value, is a double.
-/

namespace SceneScript.Numeral

/-- The most digits of a whole number that are read. In a text field a minus counts as one. -/
def maxDigits : Nat := 4300

def digitsValue (digits : List Char) : Nat :=
  digits.foldl (fun value digit => 10 * value + (digit.toNat - '0'.toNat)) 0

/-- A minus is remembered, a plus dropped. -/
def splitSign : List Char → Bool × List Char
  | '-' :: rest => (true, rest)
  | '+' :: rest => (false, rest)
  | rest => (false, rest)

/-- Removes underscores that stand alone inside the text; none where one stands elsewhere. -/
def stripUnderscores : List Char → Option (List Char)
  | [] => some []
  | '_' :: _ => none
  | c :: '_' :: next :: rest =>
      if next = '_' then none else (c :: ·) <$> stripUnderscores (next :: rest)
  | [_, '_'] => none
  | c :: rest => (c :: ·) <$> stripUnderscores rest

/-- What is left behind leading zeros, among which underscores count for nothing. The last of them
stays where nothing else, or only a fraction, follows. -/
def behindZeros (last : Char) : List Char → List Char
  | [] => [last]
  | c :: rest =>
      if c = '0' ∨ c = '_' then behindZeros c rest
      else if c = '.' then last :: c :: rest
      else c :: rest

def withoutZeros : List Char → List Char
  | [] => []
  | c :: rest => if c = '0' then behindZeros c rest else c :: rest

/-- Drops a fraction of zeros. -/
def withoutFraction (chars : List Char) : List Char :=
  match chars.dropWhile (· != '.') with
  | _ :: digit :: digits =>
      if (digit :: digits).all (· == '0') then chars.takeWhile (· != '.') else chars
  | _ => chars

def tidyDigits (chars : List Char) : Option (List Char) :=
  stripUnderscores (withoutFraction (withoutZeros chars))

/-- The canonical spelling of a whole number, as far as there is one. Of two signs in a row none is
dropped. -/
def tidy : List Char → Option (List Char)
  | '+' :: '-' :: _ => none
  | '+' :: rest => tidyDigits rest
  | '-' :: rest => ('-' :: ·) <$> tidyDigits rest
  | rest => tidyDigits rest

def splitMinus : List Char → Bool × List Char
  | '-' :: rest => (true, rest)
  | rest => (false, rest)

/-- A whole number in its canonical spelling: zero, or digits of which the first is not zero. -/
def canonical? (chars : List Char) : Option Int :=
  let (negative, digits) := splitMinus chars
  if digits ≠ [] ∧ digits.all Char.isDigit ∧ (digits.head? = some '0' → digits.length = 1) ∧
      chars.length ≤ maxDigits then
    some (Double.signed negative (digitsValue digits))
  else none

/-- More digits at the front, none of them a leading zero, than are read. -/
def isOverlong (text : String) : Bool :=
  let (negative, rest) := splitMinus text.toList
  let digits := rest.takeWhile Char.isDigit
  digits.head? != some '0' && maxDigits < digits.length + if negative then 1 else 0

def int? (text : String) : Option Int :=
  canonical? text.toList <|>
    (tidy (Text.trimBy Text.isWhiteSpace text).toList).bind canonical?

/-- The power of ten after the digits: nothing, or a letter, a sign and digits. -/
def exponent? : List Char → Option Int
  | [] => some 0
  | letter :: rest =>
      let (negative, digits) := splitSign rest
      if letter.toLower = 'e' && !digits.isEmpty && digits.all Char.isDigit then
        some (Double.signed negative (digitsValue digits))
      else none

def decimal? (negative : Bool) (body : List Char) : Option Double :=
  let whole := body.takeWhile Char.isDigit
  let (fraction, tail) :=
    match body.dropWhile Char.isDigit with
    | '.' :: rest => (rest.takeWhile Char.isDigit, rest.dropWhile Char.isDigit)
    | rest => ([], rest)
  if whole.isEmpty && fraction.isEmpty then none
  else
    (exponent? tail).map fun exponent =>
      Double.ofDecimal negative (digitsValue (whole ++ fraction)) (exponent - fraction.length)

def unsigned? (negative : Bool) (body : List Char) : Option Double :=
  let word := String.ofList (body.map Char.toLower)
  if word = "inf" ∨ word = "infinity" then some (.infinite negative)
  else if word = "nan" then some .nan
  else decimal? negative body

def plainDouble? (chars : List Char) : Option Double :=
  let (negative, body) := splitSign chars
  unsigned? negative body

/-- White space around a double is dropped, or underscores inside one are, but not both. -/
def double? (text : String) : Option Double :=
  plainDouble? (Text.trimBy Text.isWhiteSpace text).toList <|>
    (stripUnderscores text.toList).bind plainDouble?

def number? (text : String) : Option Number :=
  Number.int <$> int? text <|> Number.double <$> double? text

end SceneScript.Numeral
