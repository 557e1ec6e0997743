/-!
Binary floating-point numbers of double precision, as exact values. A finite double is a whole
number of units of 2^-1074, the smallest positive one; near a magnitude the doubles are evenly
spaced. `nearest` rounds a ratio to the closest double, ties to an even multiple of the spacing,
and overflows to an infinity.
-/

namespace SceneScript

/-- How many units make 1. -/
def unitsPerOne : Nat := Nat.pow 2 1074

/-- The distance between neighbouring doubles at a magnitude: 53 bits are kept. -/
def spacing (units : Nat) : Nat := Nat.pow 2 (units.log2 - 52)

def Representable (units : Nat) : Prop := units < Nat.pow 2 2098 ∧ units % spacing units = 0

instance (units : Nat) : Decidable (Representable units) :=
  inferInstanceAs (Decidable (_ ∧ _))

inductive Double where
  | finite (negative : Bool) (units : Nat) (fits : Representable units)
  | infinite (negative : Bool)
  | nan
  deriving DecidableEq

/-- The whole number nearest to a ratio; a tie goes to the even one. -/
def roundRatio (numerator denominator : Nat) : Nat :=
  let floor := numerator / denominator
  let twice := 2 * (numerator % denominator)
  if twice < denominator then floor
  else if denominator < twice then floor + 1
  else floor + floor % 2

namespace Double

def ofUnits (negative : Bool) (units : Nat) : Double :=
  if fits : Representable units then .finite negative units fits else .infinite negative

def nearest (negative : Bool) (numerator denominator : Nat) : Double :=
  let scaled := numerator * unitsPerOne
  let step := spacing (scaled / denominator)
  ofUnits negative (roundRatio scaled (denominator * step) * step)

def ofInt (value : Int) : Double := nearest (value < 0) value.natAbs 1

/-- The double nearest to `digits` times a power of ten. The first two answers only save the work
of writing out a power far outside the range. -/
def ofDecimal (negative : Bool) (digits : Nat) (exponent : Int) : Double :=
  if digits = 0 ∨ exponent < -(digits.log2 + 400 : Int) then ofUnits negative 0
  else if 400 < exponent then .infinite negative
  else if 0 ≤ exponent then nearest negative (digits * Nat.pow 10 exponent.toNat) 1
  else nearest negative digits (Nat.pow 10 (-exponent).toNat)

def isFinite : Double → Bool
  | finite .. => true
  | _ => false

/-- Above zero. Neither a zero nor the undefined value is. -/
def isPositive : Double → Bool
  | finite negative units _ => !negative && units != 0
  | infinite negative => !negative
  | nan => false

def isNegative : Double → Bool
  | finite negative units _ => negative && units != 0
  | infinite negative => negative
  | nan => false

def signed (negative : Bool) (magnitude : Nat) : Int :=
  if negative then -(magnitude : Int) else magnitude

/-- The whole number that a double equals, if it has no fractional part. -/
def toInt? : Double → Option Int
  | finite negative units _ =>
      if units % unitsPerOne = 0 then some (signed negative (units / unitsPerOne)) else none
  | _ => none

end Double

end SceneScript
