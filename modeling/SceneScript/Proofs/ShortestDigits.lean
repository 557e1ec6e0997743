import Mathlib.Tactic.Ring
import SceneScript.Number.Shortest

/-!
The shortest digits of a double. The points that count as reading back are those that are rounded to
the double, across the edge of a power of two as well; and on one of the grids that are tried there
is such a point. Main statement: the shortest digits of a finite double are a decimal to which that
double is the nearest one, however many zeros are put behind the digits.
-/

namespace SceneScript

/-- A ratio rounds to a whole number from half below to half above it; both halves count as its own
where it is even. -/
theorem roundRatio_eq {numerator denominator whole : Nat} (positive : 0 < denominator)
    (low : 2 * (whole * denominator) ≤ 2 * numerator + denominator)
    (high : 2 * numerator ≤ 2 * (whole * denominator) + denominator)
    (tie : whole % 2 = 0 ∨ (2 * (whole * denominator) < 2 * numerator + denominator ∧
      2 * numerator < 2 * (whole * denominator) + denominator)) :
    roundRatio numerator denominator = whole := by
  have split := Nat.div_add_mod' numerator denominator
  have rest := Nat.mod_lt numerator positive
  unfold roundRatio
  generalize numerator / denominator = floor at split
  generalize numerator % denominator = excess at split rest
  -- Only the two whole numbers around the ratio are as close as that.
  have near : whole = floor ∨ whole = floor + 1 := by
    by_contra apart
    rcases Nat.lt_or_ge whole floor with less | more
    · have := Nat.mul_le_mul_right denominator (Nat.succ_le_of_lt less)
      rw [Nat.succ_mul whole denominator] at this
      omega
    · have := Nat.mul_le_mul_right denominator (show floor + 2 ≤ whole by omega)
      rw [Nat.add_mul floor 2 denominator] at this
      omega
  rcases near with rfl | rfl
  · generalize whole * denominator = base at *
    dsimp only
    split_ifs <;> omega
  · rw [Nat.succ_mul floor denominator] at low high tie
    generalize floor * denominator = base at *
    dsimp only
    split_ifs <;> omega

section Spacing

variable {units other : Nat}

theorem unitsPerOne_pos : 0 < unitsPerOne := by decide +kernel

theorem spacing_pos (units : Nat) : 0 < spacing units := Nat.two_pow_pos _

theorem spacing_le (positive : 0 < units) : spacing units ≤ units := by
  have bits : 2 ^ (units.log2 - 52) ≤ 2 ^ units.log2 :=
    Nat.pow_le_pow_right Nat.two_pos (Nat.sub_le _ _)
  exact Nat.le_trans bits (Nat.log2_self_le (Nat.ne_of_gt positive))

theorem div_spacing_mul (fits : Representable units) :
    units / spacing units * spacing units = units :=
  Nat.div_mul_cancel (Nat.dvd_of_mod_eq_zero fits.2)

/-- Between two neighbouring powers of two the spacing does not change. -/
theorem spacing_eq_of_le (log : Nat) (low : 2 ^ log ≤ other ∨ log ≤ 52)
    (high : other < 2 ^ (log + 1)) : spacing other = 2 ^ (log - 52) := by
  by_cases small : log ≤ 52
  · have bits : other.log2 ≤ 52 := by
      rcases Nat.eq_zero_or_pos other with rfl | positive
      · decide
      · have := (Nat.log2_lt (Nat.ne_of_gt positive)).mpr high
        omega
    rw [spacing, Nat.sub_eq_zero_of_le bits, Nat.sub_eq_zero_of_le small]
    rfl
  · have above := low.resolve_right small
    have positive : other ≠ 0 := Nat.ne_of_gt (Nat.lt_of_lt_of_le (Nat.two_pow_pos log) above)
    rw [spacing, (Nat.log2_eq_iff positive).mpr ⟨above, high⟩]
    rfl

end Spacing

/-- How far down the reals go that round to a double, in quarters of a unit. Below a power of two
the spacing is halved. -/
def reach (units : Nat) : Nat :=
  if 1 < spacing units ∧ units = 2 ^ units.log2 then spacing units else 2 * spacing units

/-- A ratio in quarters of a unit is among those that round to a double. -/
structure RoundsTo (units position scale : Nat) : Prop where
  low : 4 * (units * scale) ≤ position + reach units * scale
  high : position ≤ 4 * (units * scale) + 2 * (spacing units * scale)
  tie : units / spacing units % 2 = 0 ∨ (4 * (units * scale) < position + reach units * scale ∧
    position < 4 * (units * scale) + 2 * (spacing units * scale))

theorem reach_le {units : Nat} (positive : 0 < units) : reach units ≤ 4 * units := by
  have := spacing_le positive
  unfold reach
  split_ifs <;> omega

theorem reach_le_spacing (units : Nat) : reach units ≤ 2 * spacing units := by
  unfold reach
  split_ifs <;> omega

/-- Only the ratio counts. -/
theorem RoundsTo.rescale {units position scale position' scale' : Nat}
    (near : RoundsTo units position scale) (positive : 0 < scale) (positive' : 0 < scale')
    (same : position * scale' = position' * scale) : RoundsTo units position' scale' := by
  have value : 4 * (units * scale') * scale = 4 * (units * scale) * scale' := by ring
  have low : (position' + reach units * scale') * scale =
      (position + reach units * scale) * scale' := by
    rw [Nat.add_mul, Nat.add_mul, same, Nat.mul_right_comm]
  have high : (4 * (units * scale') + 2 * (spacing units * scale')) * scale =
      (4 * (units * scale) + 2 * (spacing units * scale)) * scale' := by ring
  constructor
  · rw [← Nat.mul_le_mul_right_iff positive, value, low, Nat.mul_le_mul_right_iff positive']
    exact near.low
  · rw [← Nat.mul_le_mul_right_iff positive, high, ← same, Nat.mul_le_mul_right_iff positive']
    exact near.high
  · refine near.tie.imp_right fun apart => ?_
    constructor
    · rw [← Nat.mul_lt_mul_right positive, value, low, Nat.mul_lt_mul_right positive']
      exact apart.1
    · rw [← Nat.mul_lt_mul_right positive, high, ← same, Nat.mul_lt_mul_right positive']
      exact apart.2

theorem spacing_le_reach (units : Nat) : spacing units ≤ reach units := by
  unfold reach
  split_ifs <;> omega

theorem readsBack_iff {units position scale : Nat} (positive : 0 < units) :
    Decimal.readsBack units position scale = true ↔ RoundsTo units position scale := by
  have below : (if 1 < spacing units && units == Nat.pow 2 units.log2 then spacing units
      else 2 * spacing units) = reach units := by
    simp [reach]
  have low : (4 * units - reach units) * scale ≤ position ↔
      4 * (units * scale) ≤ position + reach units * scale := by
    rw [Nat.sub_mul, Nat.sub_le_iff_le_add, Nat.mul_assoc]
  have lower : (4 * units - reach units) * scale < position ↔
      4 * (units * scale) < position + reach units * scale := by
    have := Nat.mul_le_mul_right scale (reach_le positive)
    rw [Nat.sub_mul, ← Nat.mul_assoc]
    omega
  simp only [Decimal.readsBack, below, Nat.add_mul, Nat.mul_assoc 4 units, Nat.mul_assoc 2]
  split_ifs with even
  · simp only [Bool.and_eq_true, decide_eq_true_eq, low]
    exact ⟨fun ends => ⟨ends.1, ends.2, Or.inl even⟩, fun near => ⟨near.low, near.high⟩⟩
  · simp only [Bool.and_eq_true, decide_eq_true_eq, lower]
    refine ⟨fun ends => ⟨Nat.le_of_lt ends.1, Nat.le_of_lt ends.2, Or.inr ends⟩, fun near => ?_⟩
    exact near.tie.resolve_left even

section Nearest

variable {units scaled denominator : Nat}

/-- Multiples of a step differ by the step at least. -/
theorem add_le_of_dvd_of_lt {step less more : Nat} (first : step ∣ less) (second : step ∣ more)
    (below : less < more) : less + step ≤ more := by
  obtain ⟨fewer, rfl⟩ := first
  obtain ⟨several, rfl⟩ := second
  rw [← Nat.mul_succ]
  exact Nat.mul_le_mul_left step (Nat.lt_of_mul_lt_mul_left below)

theorem spacing_dvd_pow {log : Nat} (reaches : units.log2 - 52 ≤ log) : spacing units ∣ 2 ^ log :=
  Nat.pow_dvd_pow 2 reaches

/-- Below a power of two ratios are rounded to half its spacing, and they come up to it all the
same. -/
theorem rounded_below_power (fits : Representable units) (positive : 0 < denominator)
    (given : 0 < units) (wide : 1 < spacing units) (power : units = 2 ^ units.log2)
    (near : RoundsTo units (4 * scaled) denominator) (below : scaled < units * denominator) :
    roundRatio scaled (denominator * spacing (scaled / denominator)) *
      spacing (scaled / denominator) = units := by
  have large : 52 < units.log2 := by
    by_contra small
    rw [spacing, Nat.sub_eq_zero_of_le (Nat.not_lt.mp small)] at wide
    exact Nat.lt_irrefl 1 wide
  obtain ⟨log, next⟩ := Nat.exists_eq_add_of_lt large
  have low := near.low
  rw [reach, if_pos ⟨wide, power⟩] at low
  have twice : spacing units = 2 * 2 ^ log := by
    rw [spacing, next, show 52 + log + 1 - 52 = log + 1 by omega, Nat.pow_eq, Nat.pow_succ']
  have powers : units = 2 * 2 ^ (52 + log) := by rw [power, next, Nat.pow_succ']
  have products : units * denominator = 2 * (2 ^ (52 + log) * denominator) := by
    rw [powers, Nat.mul_assoc]
  have half : spacing (scaled / denominator) = 2 ^ log := by
    have short := Nat.mul_le_mul_right denominator (spacing_le given)
    rw [spacing_eq_of_le (52 + log), Nat.add_sub_cancel_left]
    · refine Or.inl ((Nat.le_div_iff_mul_le positive).mpr ?_)
      omega
    · rw [Nat.div_lt_iff_lt_mul positive, Nat.pow_succ', ← powers]
      exact below
  have whole : 2 * (units / spacing units) * 2 ^ log = units := by
    rw [Nat.mul_right_comm, ← twice, Nat.mul_comm, div_spacing_mul fits]
  have wholes : 2 * (units / spacing units) * (denominator * 2 ^ log) = units * denominator := by
    rw [Nat.mul_left_comm, whole, Nat.mul_comm]
  have halves : spacing units * denominator = 2 * (denominator * 2 ^ log) := by
    rw [twice, Nat.mul_assoc, Nat.mul_comm denominator]
  rw [half, roundRatio_eq (Nat.mul_pos positive (Nat.two_pow_pos log)), whole]
  · rw [wholes]
    omega
  · rw [wholes]
    omega
  · exact Or.inl (Nat.mul_mod_right 2 _)

/-- A ratio in reach of a double is rounded to it. -/
theorem rounded_of_roundsTo (fits : Representable units) (positive : 0 < denominator)
    (given : 0 < units) (near : RoundsTo units (4 * scaled) denominator) :
    roundRatio scaled (denominator * spacing (scaled / denominator)) *
      spacing (scaled / denominator) = units := by
  by_cases edge : 1 < spacing units ∧ units = 2 ^ units.log2 ∧ scaled < units * denominator
  · exact rounded_below_power fits positive given edge.1 edge.2.1 near edge.2.2
  · obtain ⟨low, high, tie⟩ := near
    have ends := Nat.mul_le_mul_right denominator (reach_le_spacing units)
    have apart := Nat.mul_pos (spacing_pos units) positive
    rw [Nat.mul_assoc] at ends
    have same : spacing (scaled / denominator) = spacing units := by
      refine spacing_eq_of_le units.log2 ?_ ?_
      · rw [Nat.le_div_iff_mul_le positive, or_iff_not_imp_right]
        intro large
        have wide : 1 < spacing units := Nat.one_lt_two_pow (by omega)
        rcases Nat.eq_or_lt_of_le (Nat.log2_self_le (Nat.ne_of_gt given)) with power | above
        · rw [power]
          exact Nat.le_of_not_lt fun below => edge ⟨wide, power.symm, below⟩
        · have room := Nat.mul_le_mul_right denominator (add_le_of_dvd_of_lt
            (spacing_dvd_pow (Nat.sub_le _ _)) (Nat.dvd_of_mod_eq_zero fits.2) above)
          rw [Nat.add_mul] at room
          omega
      · have room := Nat.mul_le_mul_right denominator (add_le_of_dvd_of_lt
          (Nat.dvd_of_mod_eq_zero fits.2) (spacing_dvd_pow (by omega)) Nat.lt_log2_self)
        rw [Nat.add_mul] at room
        rw [Nat.div_lt_iff_lt_mul positive]
        omega
    have wholes : units / spacing units * (denominator * spacing units) = units * denominator := by
      rw [Nat.mul_left_comm, div_spacing_mul fits, Nat.mul_comm]
    rw [same, roundRatio_eq (Nat.mul_pos positive (spacing_pos units)), div_spacing_mul fits] <;>
      rw [wholes, Nat.mul_comm denominator] <;> omega

/-- A ratio in reach of a double is nearest to it. -/
theorem Double.nearest_of_roundsTo {numerator : Nat} (fits : Representable units)
    (positive : 0 < denominator) (given : 0 < units)
    (near : RoundsTo units (4 * (numerator * unitsPerOne)) denominator) (negative : Bool) :
    nearest negative numerator denominator = .finite negative units fits := by
  rw [nearest, rounded_of_roundsTo fits positive given near, ofUnits, dif_pos fits]

end Nearest

namespace Decimal

section Grids

variable {units digits tries : Nat} {exponent : Int}

/-- Ten to an exponent as a ratio: one of its terms is 1. -/
theorem onGrid_eq (units : Nat) (exponent : Int) :
    onGrid units exponent =
      (units * 10 ^ (-exponent).toNat, unitsPerOne * 10 ^ exponent.toNat) := by
  unfold onGrid
  split_ifs with whole
  · rw [Int.toNat_of_nonpos (by omega : -exponent ≤ 0), Nat.pow_zero, Nat.mul_one, Nat.pow_eq]
  · rw [Int.toNat_of_nonpos (by omega : exponent ≤ 0), Nat.pow_zero, Nat.mul_one, Nat.pow_eq]

theorem scale_eq (exponent : Int) :
    (if 0 ≤ exponent then 1 else Nat.pow 10 (-exponent).toNat) = 10 ^ (-exponent).toNat := by
  split_ifs with whole
  · rw [Int.toNat_of_nonpos (by omega : -exponent ≤ 0), Nat.pow_zero]
  · rfl

/-- The decimal rounds to the double. -/
def RoundsTo (decimal : Decimal) (units : Nat) : Prop :=
  SceneScript.RoundsTo units (4 * (decimal.digits * 10 ^ decimal.exponent.toNat * unitsPerOne))
    (10 ^ (-decimal.exponent).toNat)

theorem readsBack_point_iff (positive : 0 < units) :
    readsBack units (4 * digits * (unitsPerOne * 10 ^ exponent.toNat)) (10 ^ (-exponent).toNat) =
      true ↔ RoundsTo ⟨digits, exponent⟩ units := by
  rw [readsBack_iff positive, RoundsTo, Nat.mul_comm unitsPerOne, Nat.mul_assoc,
    ← Nat.mul_assoc digits]

theorem roundsTo_of_pointOn (positive : 0 < units) (found : pointOn units exponent = some digits) :
    RoundsTo ⟨digits, exponent⟩ units := by
  rw [← readsBack_point_iff positive]
  simp only [pointOn, onGrid_eq, scale_eq] at found
  split at found
  · rename_i below above
    cases found
    split
    · exact below
    · exact above
  · rename_i below _
    cases found
    exact below
  · rename_i _ above
    cases found
    exact above
  · cases found

/-- On a grid finer than a quarter of the spacing the point below a double reads back. -/
theorem isSome_pointOn (given : 0 < units)
    (fine : 4 * (unitsPerOne * 10 ^ exponent.toNat) ≤ spacing units * 10 ^ (-exponent).toNat) :
    (pointOn units exponent).isSome = true := by
  have below : readsBack units (4 * (units * 10 ^ (-exponent).toNat /
      (unitsPerOne * 10 ^ exponent.toNat)) * (unitsPerOne * 10 ^ exponent.toNat))
        (10 ^ (-exponent).toNat) = true := by
    have grids := Nat.div_mul_le_self (units * 10 ^ (-exponent).toNat)
      (unitsPerOne * 10 ^ exponent.toNat)
    have above : units * 10 ^ (-exponent).toNat < units * 10 ^ (-exponent).toNat /
        (unitsPerOne * 10 ^ exponent.toNat) * (unitsPerOne * 10 ^ exponent.toNat) +
          unitsPerOne * 10 ^ exponent.toNat :=
      Nat.lt_div_mul_add (Nat.mul_pos unitsPerOne_pos (Nat.pow_pos (by decide)))
    have ends := Nat.mul_le_mul_right (10 ^ (-exponent).toNat) (spacing_le_reach units)
    have apart : 0 < spacing units * 10 ^ (-exponent).toNat :=
      Nat.mul_pos (spacing_pos units) (Nat.pow_pos (by decide))
    rw [readsBack_iff given, Nat.mul_assoc 4]
    constructor <;> omega
  simp only [pointOn, onGrid_eq, scale_eq, below]
  split <;> simp_all

/-- The search ends at a grid with a point, if there is one among those that it tries. -/
theorem search_eq (found : (pointOn units (exponent - tries)).isSome = true) :
    ∃ digits grid, search units exponent (tries + 1) = ⟨digits, grid⟩ ∧
      pointOn units grid = some digits ∧ exponent - tries ≤ grid ∧ grid ≤ exponent := by
  induction tries generalizing exponent with
  | zero =>
      obtain ⟨digits, point⟩ := Option.isSome_iff_exists.mp found
      rw [Int.natCast_zero, Int.sub_zero] at point
      exact ⟨digits, exponent, by rw [search, point], point, by omega, Int.le_refl _⟩
  | succ tries ih =>
      rw [search]
      cases point : pointOn units exponent with
      | some digits => exact ⟨digits, exponent, rfl, point, by omega, Int.le_refl _⟩
      | none =>
          obtain ⟨digits, grid, searched, point, low, high⟩ := @ih (exponent - 1)
            (by rwa [Int.sub_sub, Int.add_comm 1])
          exact ⟨digits, grid, searched, point, by omega, by omega⟩

/-- The last grid that is tried is fine enough for every double. -/
theorem fine_enough : ∀ log : Nat, log < 2098 →
    4 * (unitsPerOne * 10 ^ (((log : Int) - 1073) * 30103 / 100000 + 1 - 19).toNat) ≤
      2 ^ (log - 52) * 10 ^ (-(((log : Int) - 1073) * 30103 / 100000 + 1 - 19)).toNat := by
  -- 30103 / 100000 stands for the logarithm of 2: each magnitude is checked by itself.
  decide +kernel

theorem log2_lt {log : Nat} (positive : 0 < log) (below : units < Nat.pow 2 log) :
    units.log2 < log := by
  rcases Nat.eq_zero_or_pos units with rfl | given
  · exact positive
  · exact (Nat.log2_lt (Nat.ne_of_gt given)).mpr below

/-- The shortest digits are on one of the grids that are tried. -/
theorem roundsTo_shortest (fits : Representable units) (given : 0 < units) :
    RoundsTo (shortest units) units ∧
      -342 ≤ (shortest units).exponent ∧ (shortest units).exponent ≤ 309 := by
  have magnitude := log2_lt (by decide) fits.1
  have fine : (pointOn units (ceiling units - (19 : Nat))).isSome = true :=
    isSome_pointOn given (fine_enough units.log2 magnitude)
  obtain ⟨digits, grid, searched, point, low, high⟩ := search_eq fine
  rw [shortest, if_neg (Nat.ne_of_gt given), searched]
  have rounds := roundsTo_of_pointOn given point
  unfold ceiling at low high
  dsimp only
  exact ⟨rounds, by omega, by omega⟩

/-- Zeros behind the digits change nothing if the exponent makes up for them. -/
theorem RoundsTo.shift {decimal : Decimal} (rounds : RoundsTo decimal units) (zeros : Nat) :
    RoundsTo ⟨decimal.digits * 10 ^ zeros, decimal.exponent - zeros⟩ units := by
  have powers : 10 ^ decimal.exponent.toNat * 10 ^ (-(decimal.exponent - zeros)).toNat =
      10 ^ zeros * 10 ^ (decimal.exponent - zeros).toNat * 10 ^ (-decimal.exponent).toNat := by
    rw [← Nat.pow_add, ← Nat.pow_add, ← Nat.pow_add]
    congr 1
    omega
  refine SceneScript.RoundsTo.rescale rounds (Nat.pow_pos (by decide))
    (Nat.pow_pos (by decide)) ?_
  generalize 10 ^ decimal.exponent.toNat = whole at powers ⊢
  generalize 10 ^ (-(decimal.exponent - zeros)).toNat = scale at powers ⊢
  calc
    4 * (decimal.digits * whole * unitsPerOne) * scale =
        4 * decimal.digits * unitsPerOne * (whole * scale) := by ring
    _ = _ := by
        rw [powers]
        ring

/-- Only zero is so close to zero. -/
theorem RoundsTo.digits_ne_zero {decimal : Decimal} (rounds : RoundsTo decimal units)
    (given : 0 < units) : decimal.digits ≠ 0 := by
  intro none
  have low := rounds.low
  have ends := Nat.mul_le_mul_right (10 ^ (-decimal.exponent).toNat) (reach_le_spacing units)
  have apart := Nat.mul_le_mul_right (10 ^ (-decimal.exponent).toNat) (spacing_le given)
  have above : 0 < units * 10 ^ (-decimal.exponent).toNat :=
    Nat.mul_pos given (Nat.pow_pos (by decide))
  rw [none, Nat.zero_mul, Nat.zero_mul] at low
  rw [Nat.mul_assoc] at ends
  omega

theorem eq_zero_of_digits_shortest (fits : Representable units)
    (none : (shortest units).digits = 0) : units = 0 := by
  by_contra positive
  have given := Nat.pos_of_ne_zero positive
  exact (roundsTo_shortest fits given).1.digits_ne_zero given none

end Grids

end Decimal

namespace Double

variable {units : Nat}

/-- The double to which a decimal rounds is what is read, within the range of exponents. -/
theorem ofDecimal_of_roundsTo {decimal : Decimal} (fits : Representable units) (given : 0 < units)
    (rounds : decimal.RoundsTo units) (low : -400 ≤ decimal.exponent) (high : decimal.exponent ≤ 400)
    (negative : Bool) :
    ofDecimal negative decimal.digits decimal.exponent = .finite negative units fits := by
  have positive := rounds.digits_ne_zero given
  have near : SceneScript.RoundsTo units _ _ := rounds
  rw [ofDecimal, if_neg (by omega), if_neg (by omega)]
  split_ifs with whole
  · rw [Int.toNat_of_nonpos (by omega : -decimal.exponent ≤ 0), Nat.pow_zero] at near
    exact nearest_of_roundsTo fits Nat.one_pos given near negative
  · rw [Int.toNat_of_nonpos (by omega : decimal.exponent ≤ 0), Nat.pow_zero, Nat.mul_one] at near
    exact nearest_of_roundsTo fits (Nat.pow_pos (by decide)) given near negative

/-- The shortest digits of a double read back, with some zeros behind them or without. -/
theorem ofDecimal_shortest (negative : Bool) (fits : Representable units) {zeros : Nat}
    (few : zeros ≤ 50) :
    ofDecimal negative ((Decimal.shortest units).digits * 10 ^ zeros)
      ((Decimal.shortest units).exponent - zeros) = .finite negative units fits := by
  rcases Nat.eq_zero_or_pos units with rfl | given
  · have zero : Decimal.shortest 0 = ⟨0, 0⟩ := rfl
    rw [zero, Nat.zero_mul, ofDecimal, if_pos (Or.inl rfl), ofUnits, dif_pos fits]
  · obtain ⟨rounds, low, high⟩ := Decimal.roundsTo_shortest fits given
    exact ofDecimal_of_roundsTo fits given (rounds.shift zeros) (by dsimp only; omega)
      (by dsimp only; omega) negative

end Double

end SceneScript
