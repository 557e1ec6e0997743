import SceneScript.Number.Double

/-!
Decimal digits of finite doubles. `shortest` takes the coarsest decimal grid with a point that
reads back as the same double, and on it the point nearest to the value; `significant` rounds to a
given count of digits. Both work in exact arithmetic on units.
-/

namespace SceneScript

/-- A decimal: `digits` times ten to the `exponent`. -/
structure Decimal where
  digits : Nat
  exponent : Int

namespace Decimal

/-- The ratio of a count of units to a power of ten. -/
def onGrid (units : Nat) (exponent : Int) : Nat × Nat :=
  if 0 ≤ exponent then (units, unitsPerOne * Nat.pow 10 exponent.toNat)
  else (units * Nat.pow 10 (-exponent).toNat, unitsPerOne)

/-- The reals that round to a double reach half the spacing up, and half the spacing below down;
the ends belong to it when its multiple of the spacing is even. In quarter units. -/
def readsBack (units position scale : Nat) : Bool :=
  let step := spacing units
  let below := if 1 < step && units == Nat.pow 2 units.log2 then step else 2 * step
  let low := (4 * units - below) * scale
  let high := (4 * units + 2 * step) * scale
  if units / step % 2 = 0 then low ≤ position && position ≤ high
  else low < position && position < high

/-- The point of a grid nearest to a value, among its two neighbours that read back. -/
def pointOn (units : Nat) (exponent : Int) : Option Nat :=
  let (value, grid) := onGrid units exponent
  let scale := if 0 ≤ exponent then 1 else Nat.pow 10 (-exponent).toNat
  let floor := value / grid
  let fits (point : Nat) : Bool := readsBack units (4 * point * grid) scale
  let below := value - floor * grid
  let above := (floor + 1) * grid - value
  let floorFirst := below < above || (below == above && floor % 2 == 0)
  match fits floor, fits (floor + 1) with
  | true, true => some (if floorFirst then floor else floor + 1)
  | true, false => some floor
  | false, true => some (floor + 1)
  | false, false => none

/-- A power of ten at or above every value of this magnitude. -/
def ceiling (units : Nat) : Int :=
  ((units.log2 : Int) - 1073) * 30103 / 100000 + 1

/-- Tries one grid after the other, each ten times finer. -/
def search (units : Nat) (exponent : Int) : Nat → Decimal
  | 0 => ⟨(onGrid units exponent).1 / (onGrid units exponent).2, exponent⟩
  | tries + 1 =>
      match pointOn units exponent with
      | some digits => ⟨digits, exponent⟩
      | none => search units (exponent - 1) tries

/-- The fewest digits that read back; 17 always do. -/
def shortest (units : Nat) : Decimal :=
  if units = 0 then ⟨0, 0⟩ else search units (ceiling units) 20

/-- Drops zeros at the end of the digits. -/
def normalize (digits : Nat) (exponent : Int) : Nat → Decimal
  | 0 => ⟨digits, exponent⟩
  | tries + 1 =>
      if digits != 0 && digits % 10 == 0 then normalize (digits / 10) (exponent + 1) tries
      else ⟨digits, exponent⟩

/-- At most `count` digits, rounded half to even. -/
def significant (count units : Nat) : Decimal :=
  if units = 0 then ⟨0, 0⟩ else
  let fullest := Nat.pow 10 (count - 1)
  let exponents := (List.range 4).map fun (drop : Nat) => ceiling units - count + 1 - drop
  let covers (exponent : Int) : Bool :=
    let (value, grid) := onGrid units exponent
    fullest ≤ value / grid
  let exponent := (exponents.find? covers).getD (ceiling units - count - 3)
  let (value, grid) := onGrid units exponent
  normalize (roundRatio value grid) exponent (count + 1)

end Decimal

end SceneScript
