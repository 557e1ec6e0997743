import SceneScript.Number.Shortest

/-!
How doubles are written. A format fixes from which power of ten on an exponent is written and
whether a whole number keeps its point; below 0.0001 both formats write an exponent, of at least
two digits.
-/

namespace SceneScript

structure DoubleFormat where
  positionalDigits : Nat
  keepsPoint : Bool

namespace DoubleFormat

/-- Documents and action lists: shortest digits, positional below 10^16, `2.0` keeps its point. -/
def full : DoubleFormat := ⟨16, true⟩

/-- Figures in messages: six digits, positional below 10^6, no point after a whole number. -/
def brief : DoubleFormat := ⟨6, false⟩

def zeros (count : Nat) : String := String.ofList (List.replicate count '0')

def writeExponent (exponent : Int) : String :=
  let digits := toString exponent.natAbs
  (if exponent < 0 then "e-" else "e+") ++ zeros (2 - digits.length) ++ digits

/-- `point` is the count of digits before the decimal point. -/
def writeDigits (format : DoubleFormat) (digits : List Char) (point : Int) : String :=
  let text := String.ofList digits
  if point ≤ -4 ∨ (format.positionalDigits : Int) < point then
    match digits with
    | [_] => text ++ writeExponent (point - 1)
    | _ =>
        String.ofList (digits.take 1) ++ "." ++ String.ofList (digits.drop 1) ++
          writeExponent (point - 1)
  else if point ≤ 0 then "0." ++ zeros (-point).toNat ++ text
  else if (digits.length : Int) ≤ point then
    text ++ zeros (point.toNat - digits.length) ++ (if format.keepsPoint then ".0" else "")
  else String.ofList (digits.take point.toNat) ++ "." ++ String.ofList (digits.drop point.toNat)

def writeDecimal (format : DoubleFormat) (decimal : Decimal) : String :=
  let digits := (toString decimal.digits).toList
  format.writeDigits digits (digits.length + decimal.exponent)

end DoubleFormat

namespace Double

def sign (negative : Bool) : String := if negative then "-" else ""

def write : Double → String
  | finite negative units _ => sign negative ++ DoubleFormat.full.writeDecimal (.shortest units)
  | infinite negative => sign negative ++ "inf"
  | nan => "nan"

def writeBrief : Double → String
  | finite negative units _ =>
      sign negative ++ DoubleFormat.brief.writeDecimal (.significant 6 units)
  | infinite negative => sign negative ++ "inf"
  | nan => "nan"

end Double

end SceneScript
