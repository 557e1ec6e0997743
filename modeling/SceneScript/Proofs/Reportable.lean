import SceneScript.Proofs.Findings
import SceneScript.Proofs.ShortestDigits

/-!
Which graphs have a report. A wait of less than no time is shown as a double, and a whole number
that is rounded past the doubles is none. Main statement: a graph has a report exactly when no edge
has such a wait, whatever else it holds.
-/

namespace SceneScript

section Rounding

variable {numerator denominator whole : Nat}

theorem le_roundRatio (positive : 0 < denominator) (above : whole * denominator ≤ numerator) :
    whole ≤ roundRatio numerator denominator := by
  have floor := (Nat.le_div_iff_mul_le positive).mpr above
  unfold roundRatio
  dsimp only
  split_ifs <;> omega

theorem two_mul_roundRatio_le (positive : 0 < denominator) :
    2 * (roundRatio numerator denominator * denominator) ≤ 2 * numerator + denominator := by
  have split := Nat.div_add_mod' numerator denominator
  have rest := Nat.mod_lt numerator positive
  unfold roundRatio
  generalize numerator / denominator = floor at split
  generalize numerator % denominator = excess at split rest
  have next : (floor + 1) * denominator = floor * denominator + denominator := Nat.succ_mul _ _
  dsimp only
  split_ifs with low high
  · omega
  · omega
  · rcases Nat.mod_two_eq_zero_or_one floor with even | odd
    · rw [even, Nat.add_zero]
      omega
    · rw [odd]
      omega

theorem roundRatio_le (positive : 0 < denominator) (below : numerator ≤ whole * denominator) :
    roundRatio numerator denominator ≤ whole := by
  have near := @two_mul_roundRatio_le numerator denominator positive
  -- One more than the whole number would be half a step too far.
  by_contra more
  have := Nat.mul_le_mul_right denominator (Nat.succ_le_of_lt (Nat.lt_of_not_le more))
  rw [Nat.succ_mul] at this
  omega

end Rounding

namespace Double

/-- What a magnitude in units is rounded to. -/
def rounded (scaled : Nat) : Nat := roundRatio scaled (spacing scaled) * spacing scaled

variable {scaled : Nat}

/-- Rounding does not leave the powers of two around a magnitude. -/
theorem le_rounded (positive : 0 < scaled) : 2 ^ scaled.log2 ≤ rounded scaled := by
  obtain ⟨count, same⟩ := @spacing_dvd_pow scaled scaled.log2 (Nat.sub_le _ _)
  rw [Nat.mul_comm] at same
  have below := Nat.log2_self_le (Nat.ne_of_gt positive)
  rw [same] at below ⊢
  exact Nat.mul_le_mul_right _ (le_roundRatio (spacing_pos scaled) below)

theorem rounded_le (scaled : Nat) : rounded scaled ≤ 2 ^ (scaled.log2 + 1) := by
  obtain ⟨count, same⟩ := @spacing_dvd_pow scaled (scaled.log2 + 1) (by omega)
  rw [Nat.mul_comm] at same
  have above := Nat.le_of_lt (@Nat.lt_log2_self scaled)
  rw [same] at above ⊢
  exact Nat.mul_le_mul_right _ (roundRatio_le (spacing_pos scaled) above)

/-- What a magnitude is rounded to keeps the spacing there, at the next power of two as well. -/
theorem spacing_dvd_rounded (scaled : Nat) : spacing (rounded scaled) ∣ rounded scaled := by
  rcases Nat.eq_zero_or_pos scaled with rfl | positive
  · exact Nat.dvd_zero _
  rcases Nat.eq_or_lt_of_le (rounded_le scaled) with power | below
  · rw [power]
    exact spacing_dvd_pow (by rw [Nat.log2_two_pow]; omega)
  · rw [spacing_eq_of_le scaled.log2 (Or.inl (le_rounded positive)) below]
    exact Nat.dvd_mul_left _ _

/-- Rounding does not fall below a power of two that is reached. -/
theorem pow_le_rounded {bits : Nat} (reached : 2 ^ bits ≤ scaled) : 2 ^ bits ≤ rounded scaled := by
  have positive : 0 < scaled := Nat.lt_of_lt_of_le (Nat.two_pow_pos bits) reached
  calc
    2 ^ bits ≤ 2 ^ scaled.log2 :=
      Nat.pow_le_pow_right Nat.two_pos ((Nat.le_log2 (Nat.ne_of_gt positive)).mpr reached)
    _ ≤ rounded scaled := le_rounded positive

/-- Less than half the spacing below a power of two, or exactly that half, is rounded up to it. -/
theorem pow_le_rounded_of_close {bits : Nat} (wide : 52 ≤ bits)
    (close : 2 * 2 ^ (bits + 1) ≤ 2 * scaled + 2 ^ (bits - 52)) :
    2 ^ (bits + 1) ≤ rounded scaled := by
  rcases Nat.lt_or_ge scaled (2 ^ (bits + 1)) with below | reached
  · have step := Nat.two_pow_pos (bits - 52)
    have top : 2 ^ (bits + 1) = 2 ^ 53 * 2 ^ (bits - 52) := by
      rw [← Nat.pow_add]
      congr 1
      omega
    have low : 2 ^ bits ≤ scaled := by
      have half : 2 ^ (bits + 1) = 2 * 2 ^ bits := Nat.pow_succ'
      omega
    have up : roundRatio scaled (2 ^ (bits - 52)) = 2 ^ 53 :=
      roundRatio_eq step (by omega) (by omega) (Or.inl (by decide))
    rw [rounded, spacing_eq_of_le bits (Or.inl low) below, up, top]
  · exact pow_le_rounded reached

/-- What is further below a power of two than half the spacing stays below it. -/
theorem rounded_lt_pow {bits : Nat}
    (below : 2 * scaled + 2 ^ (bits - 52) < 2 * 2 ^ (bits + 1)) :
    rounded scaled < 2 ^ (bits + 1) := by
  have step := Nat.two_pow_pos (bits - 52)
  have less : scaled < 2 ^ (bits + 1) := by omega
  have short : scaled.log2 ≤ bits := by
    rcases Nat.eq_zero_or_pos scaled with rfl | positive
    · exact Nat.zero_le _
    · exact Nat.lt_succ_iff.mp ((Nat.log2_lt (Nat.ne_of_gt positive)).mpr less)
  have narrow : spacing scaled ≤ 2 ^ (bits - 52) :=
    Nat.pow_le_pow_right Nat.two_pos (Nat.sub_le_sub_right short 52)
  have near := @two_mul_roundRatio_le scaled _ (spacing_pos scaled)
  rw [rounded]
  omega

theorem rounded_lt_iff {bits : Nat} (wide : 52 ≤ bits) :
    rounded scaled < 2 ^ (bits + 1) ↔ 2 * scaled + 2 ^ (bits - 52) < 2 * 2 ^ (bits + 1) := by
  refine ⟨fun below => ?_, rounded_lt_pow⟩
  by_contra close
  exact Nat.not_lt.mpr (pow_le_rounded_of_close wide (Nat.not_lt.mp close)) below

theorem isFinite_ofUnits_iff {negative : Bool} {units : Nat} :
    (ofUnits negative units).isFinite = true ↔ Representable units := by
  unfold ofUnits
  split_ifs with fits
  · exact iff_of_true rfl fits
  · exact iff_of_false Bool.false_ne_true fits

/-- The least whole number that is rounded past the doubles, halfway from the greatest of them to
the power of two behind it. -/
def bound : Nat := 2 ^ 1024 - 2 ^ 970

theorem isFinite_ofInt_iff {value : Int} :
    (ofInt value).isFinite = true ↔ value.natAbs < bound := by
  have limit : Nat.pow 2 2098 = 2 ^ (2097 + 1) := by decide +kernel
  have top : 2 ^ (2097 + 1) = 2 ^ 1024 * unitsPerOne := by decide +kernel
  have step : 2 ^ (2097 - 52) = 2 * (2 ^ 970 * unitsPerOne) := by decide +kernel
  have fits : Representable (rounded (value.natAbs * unitsPerOne)) ↔
      rounded (value.natAbs * unitsPerOne) < 2 ^ (2097 + 1) := by
    rw [Representable, limit]
    exact and_iff_left (Nat.mod_eq_zero_of_dvd (spacing_dvd_rounded _))
  rw [ofInt, nearest, Nat.div_one, Nat.one_mul, ← rounded, isFinite_ofUnits_iff, fits,
    rounded_lt_iff (by decide), top, step, bound, ← Nat.mul_add, ← Nat.add_mul,
    Nat.mul_lt_mul_left Nat.two_pos, Nat.mul_lt_mul_right unitsPerOne_pos]
  exact Nat.lt_sub_iff_add_lt.symm

theorem bound_pos : 0 < bound := by
  apply Nat.sub_pos_of_lt
  apply Nat.pow_lt_pow_right Nat.one_lt_two
  decide

end Double

theorem Edge.hasUnshowableWait_iff {edge : Edge} :
    edge.HasUnshowableWait ↔
      ∃ seconds, edge.waitSeconds = some (.int seconds) ∧ seconds ≤ -(Double.bound : Int) := by
  refine exists_congr fun seconds => and_congr_right fun _ => ?_
  have positive := Double.bound_pos
  rw [← Bool.not_eq_true, Double.isFinite_ofInt_iff]
  omega

namespace Report

/-- A graph has a report exactly when no edge waits for a whole number of seconds so far below zero
that it is rounded past the doubles. -/
theorem report_exists_iff (settings : Settings) (graph : Graph) :
    ((∃ report, ofGraph settings graph = .ok report) ↔ ∀ edge ∈ graph.edges, ∀ seconds,
        edge.waitSeconds = some (.int seconds) → -(Double.bound : Int) < seconds) ∧
      ∀ fault, ofGraph settings graph = .error fault ↔ ∃ edge ∈ graph.edges, ∃ seconds,
        edge.waitSeconds = some (.int seconds) ∧ seconds ≤ -(Double.bound : Int) := by
  have stuck (fault : NumberFault) : ofGraph settings graph = .error fault ↔ _ :=
    ofGraph_eq_error_iff
  simp only [Edge.hasUnshowableWait_iff] at stuck
  refine ⟨?_, stuck⟩
  have reports : (∃ report, ofGraph settings graph = .ok report) ↔
      ¬ ofGraph settings graph = .error .beyondDoubles := by
    cases ofGraph settings graph with
    | ok report => simp
    | error fault =>
        cases fault
        simp
  rw [reports, stuck]
  push Not
  rfl

/-- The only edge waits for one and more than three hundred zeros below zero. -/
def plungeScene : Graph where
  nodes := [{ id := "s", type := "start" }, { id := "z", type := "end" }]
  edges := [{ id := "e1", source := "s", target := "z", waitSeconds := some (.int (-10 ^ 309)) }]

theorem no_report_plungeScene : ¬ ∃ report, ofGraph {} plungeScene = .ok report := by
  have failed : (ofGraph {} plungeScene).toBool = false := by decide +kernel
  rintro ⟨report, reported⟩
  rw [reported] at failed
  cases failed

end Report

end SceneScript
