import Mathlib.Data.List.Basic
import SceneScript.Json.Reader
import SceneScript.Json.Writer
import SceneScript.Proofs.ShortestDigits

/-!
Numbers written and read. Whichever way the digits of a double are laid out, the numeral has a point
or an exponent, and all zeros that stand in front or behind are made up for. Main statement: a
number that is written, and followed by what may follow a value, is read as the number that it was.
-/

namespace SceneScript

namespace Numeral

/-- Digits of a whole number: a zero stands alone. -/
structure IsWhole (chars : List Char) : Prop where
  given : chars ≠ []
  digits : ∀ c ∈ chars, c.isDigit = true
  lead : chars.head? = some '0' → chars = ['0']

theorem isDigit_of_mem_zeros (count : Nat) : ∀ c ∈ List.replicate count '0', c.isDigit = true := by
  intro c member
  rw [(List.mem_replicate.mp member).2]
  rfl

theorem digitsValue_eq (chars : List Char) : digitsValue chars = Nat.ofDigitChars 10 chars 0 := rfl

@[simp]
theorem digitsValue_toDigits (value : Nat) : digitsValue (Nat.toDigits 10 value) = value :=
  Nat.ofDigitChars_ten_toDigits

/-- Zeros in front count for nothing. -/
theorem digitsValue_replicate_append (count : Nat) (chars : List Char) :
    digitsValue (List.replicate count '0' ++ chars) = digitsValue chars := by
  rw [digitsValue_eq, Nat.ofDigitChars_append, Nat.ofDigitChars_replicate_zero, Nat.mul_zero]
  rfl

theorem digitsValue_append_replicate (chars : List Char) (count : Nat) :
    digitsValue (chars ++ List.replicate count '0') = digitsValue chars * 10 ^ count := by
  rw [digitsValue_eq, Nat.ofDigitChars_append, Nat.ofDigitChars_replicate_zero, Nat.mul_comm]
  rfl

theorem eq_zero_of_head?_toDigits {value : Nat}
    (lead : (Nat.toDigits 10 value).head? = some '0') : value = 0 := by
  induction value using Nat.strongRecOn with
  | ind value ih =>
      rw [Nat.toDigits_eq_if (by decide)] at lead
      split_ifs at lead with small
      · exact Nat.digitChar_eq_zero.mp (Option.some.inj lead)
      · -- The first digit is that of the digits before the last.
        have given : Nat.toDigits 10 (value / 10) ≠ [] :=
          List.ne_nil_of_length_pos Nat.length_toDigits_pos
        rw [List.head?_append_of_ne_nil _ given] at lead
        have := ih (value / 10) (by omega) lead
        omega

theorem isWhole_toDigits (value : Nat) : IsWhole (Nat.toDigits 10 value) where
  given := List.ne_nil_of_length_pos Nat.length_toDigits_pos
  digits := fun _ => Nat.isDigit_of_mem_toDigits (by decide) (by decide)
  lead := fun zero => by rw [eq_zero_of_head?_toDigits zero, Nat.toDigits_zero]

end Numeral

namespace Lexeme

open Numeral

/-- What may follow a value: nothing, a comma, or a new line. -/
def Closed (rest : List Char) : Prop := ∀ c ∈ rest.head?, c = ',' ∨ c = '\n'

variable {digits whole fraction rest : List Char}

theorem digitRun_append (all : ∀ c ∈ digits, c.isDigit = true)
    (stops : ∀ c ∈ rest.head?, c.isDigit = false) : digitRun (digits ++ rest) = (digits, rest) := by
  have none : rest.takeWhile Char.isDigit = [] ∧ rest.dropWhile Char.isDigit = rest := by
    cases rest with
    | nil => exact ⟨rfl, rfl⟩
    | cons c after => simp [stops c rfl]
  rw [digitRun, List.takeWhile_append_of_pos all, List.dropWhile_append_of_pos all, none.1, none.2,
    List.append_nil]

theorem wholePart_append (isWhole : IsWhole whole) (stops : ∀ c ∈ rest.head?, c.isDigit = false) :
    wholePart (whole ++ rest) = (whole, rest) := by
  obtain ⟨given, all, lead⟩ := isWhole
  unfold wholePart
  split
  · rename_i after same
    cases whole with
    | nil => exact (given rfl).elim
    | cons c others =>
        obtain ⟨rfl, rfl⟩ := List.cons.inj same
        obtain ⟨-, rfl⟩ := List.cons.inj (lead rfl)
        rfl
  · exact digitRun_append all stops

theorem signed_natAbs (value : Int) : Double.signed (decide (value < 0)) value.natAbs = value := by
  simp only [Double.signed, decide_eq_true_eq]
  split_ifs <;> omega

theorem writeExponent_toList (exponent : Int) :
    (DoubleFormat.writeExponent exponent).toList =
      'e' :: (if exponent < 0 then '-' else '+') ::
        (List.replicate (2 - (Nat.toDigits 10 exponent.natAbs).length) '0' ++
          Nat.toDigits 10 exponent.natAbs) := by
  rw [DoubleFormat.writeExponent, DoubleFormat.zeros, Nat.toString_eq_ofList_toDigits]
  split_ifs <;> simp

/-- The exponent is read as it is written, whatever zeros fill it up. -/
theorem exponentPart_writeExponent (exponent : Int) (stops : ∀ c ∈ rest.head?, c.isDigit = false) :
    exponentPart ((DoubleFormat.writeExponent exponent).toList ++ rest) = (some exponent, rest) := by
  have isWhole := isWhole_toDigits exponent.natAbs
  have value := digitsValue_replicate_append (2 - (Nat.toDigits 10 exponent.natAbs).length)
    (Nat.toDigits 10 exponent.natAbs)
  rw [digitsValue_toDigits] at value
  rw [writeExponent_toList]
  generalize filled : List.replicate (2 - (Nat.toDigits 10 exponent.natAbs).length) '0' ++
    Nat.toDigits 10 exponent.natAbs = run at value ⊢
  have all : ∀ c ∈ run, c.isDigit = true := by
    rw [← filled]
    exact List.forall_mem_append.mpr ⟨isDigit_of_mem_zeros _, isWhole.digits⟩
  have given : run ≠ [] := by
    rw [← filled]
    exact List.append_ne_nil_of_right_ne_nil _ isWhole.given
  have sign : splitSign ((if exponent < 0 then '-' else '+') :: (run ++ rest)) =
      (decide (exponent < 0), run ++ rest) := by
    by_cases negative : exponent < 0 <;> simp [negative, splitSign]
  simp [exponentPart, sign, digitRun_append all stops, value, signed_natAbs, given]

/-- A point counts only before a digit, and nothing else begins a fraction. -/
theorem fractionPart_of_ne (other : ∀ c ∈ rest.head?, c ≠ '.') : fractionPart rest = ([], rest) := by
  unfold fractionPart
  split
  · exact (other '.' rfl rfl).elim
  · rfl

theorem Closed.stops (closed : Closed rest) : ∀ c ∈ rest.head?, c.isDigit = false ∧ c ≠ '.' := by
  intro c first
  rcases closed c first with rfl | rfl <;> decide

theorem Closed.exponentPart (closed : Closed rest) : exponentPart rest = (none, rest) := by
  cases rest with
  | nil => rfl
  | cons c after =>
      have other : ¬ (c = 'e' ∨ c = 'E') := by
        rintro (rfl | rfl) <;> exact absurd (closed _ rfl) (by decide)
      simp [Lexeme.exponentPart, other]

/-- The written exponent of a numeral that has one. -/
def power : Option Int → List Char
  | some exponent => (DoubleFormat.writeExponent exponent).toList
  | none => []

/-- The written fraction of a numeral, with its point, if it has any. -/
def point (fraction : List Char) : List Char := if fraction = [] then [] else '.' :: fraction

section Parts

variable {exponent : Option Int}

theorem exponentPart_power (closed : Closed rest) :
    exponentPart (power exponent ++ rest) = (exponent, rest) := by
  cases exponent with
  | none => exact closed.exponentPart
  | some value => exact exponentPart_writeExponent value fun c first => (closed.stops c first).1

theorem power_stops (closed : Closed rest) :
    ∀ c ∈ (power exponent ++ rest).head?, c.isDigit = false ∧ c ≠ '.' := by
  cases exponent with
  | none => exact closed.stops
  | some value =>
      intro c first
      rw [power, writeExponent_toList, List.cons_append, List.head?_cons, Option.mem_some] at first
      rw [← first]
      decide

theorem fractionPart_point (all : ∀ c ∈ fraction, c.isDigit = true)
    (stops : ∀ c ∈ rest.head?, c.isDigit = false ∧ c ≠ '.') :
    fractionPart (point fraction ++ rest) = (fraction, rest) := by
  unfold point
  split_ifs with none
  · rw [none]
    exact fractionPart_of_ne fun c first => (stops c first).2
  · have given : ¬ fraction.isEmpty = true := by simpa using none
    rw [List.cons_append, fractionPart, digitRun_append all fun c first => (stops c first).1]
    exact if_neg given

theorem point_stops (stops : ∀ c ∈ rest.head?, c.isDigit = false ∧ c ≠ '.') :
    ∀ c ∈ (point fraction ++ rest).head?, c.isDigit = false := by
  unfold point
  split_ifs
  · exact fun c first => (stops c first).1
  · rintro c first
    cases first
    rfl

/-- A numeral in its parts is scanned part by part. -/
theorem scanNumeral_parts (isWhole : IsWhole whole) (all : ∀ c ∈ fraction, c.isDigit = true)
    (closed : Closed rest) (negative : Bool) :
    scanNumeral negative (whole ++ (point fraction ++ (power exponent ++ rest))) =
      if fraction.isEmpty && exponent.isNone then
        if maxDigits < whole.length then some (longNumeral whole.length, rest)
        else some (scalar (.int (Double.signed negative (digitsValue whole))), rest)
      else some (scalar (.num (.double (.ofDecimal negative (digitsValue (whole ++ fraction))
        (exponent.getD 0 - fraction.length)))), rest) := by
  have stops := @power_stops rest exponent closed
  have given : ¬ whole.isEmpty = true := by simpa using isWhole.given
  simp only [scanNumeral, wholePart_append isWhole (point_stops stops), fractionPart_point all stops,
    exponentPart_power closed, if_neg given]

end Parts

/-- A numeral of a double, in its parts: the digits of a decimal, with zeros behind them that its
exponent makes up for. -/
structure Layout (decimal : Decimal) where
  whole : List Char
  fraction : List Char
  exponent : Option Int
  zeros : Nat
  isWhole : IsWhole whole
  all : ∀ c ∈ fraction, c.isDigit = true
  isDouble : (fraction.isEmpty && exponent.isNone) = false
  value : digitsValue (whole ++ fraction) = decimal.digits * 10 ^ zeros
  scale : exponent.getD 0 - fraction.length = decimal.exponent - zeros
  few : zeros ≤ 16

namespace Layout

variable {decimal : Decimal}

def text (layout : Layout decimal) : List Char :=
  layout.whole ++ (point layout.fraction ++ power layout.exponent)

theorem scanNumeral_text (layout : Layout decimal) (closed : Closed rest) (negative : Bool) :
    scanNumeral negative (layout.text ++ rest) = some (scalar (.num (.double (.ofDecimal negative
      (decimal.digits * 10 ^ layout.zeros) (decimal.exponent - layout.zeros)))), rest) := by
  rw [text, List.append_assoc, List.append_assoc, scanNumeral_parts layout.isWhole layout.all closed,
    layout.isDouble, layout.value, layout.scale]
  rfl

variable {place : Int}

/-- One digit before the point, and an exponent. -/
theorem exists_scientific {first : Char} (all : ∀ c ∈ first :: digits, c.isDigit = true) :
    ∃ layout : Layout ⟨digitsValue (first :: digits), place - (digits.length + 1)⟩,
      layout.text = first :: (point digits ++ power (some (place - 1))) :=
  ⟨{  whole := [first]
      fraction := digits
      exponent := some (place - 1)
      zeros := 0
      isWhole := ⟨by simp, by simpa using all first List.mem_cons_self, by simp⟩
      all := fun c member => all c (List.mem_cons_of_mem first member)
      isDouble := by simp
      value := by simp
      scale := by
        simp only [Option.getD_some]
        omega
      few := by decide }, rfl⟩

/-- Zeros between the point and the digits. -/
theorem exists_fractional (isWhole : IsWhole digits) (low : place ≤ 0) :
    ∃ layout : Layout ⟨digitsValue digits, place - digits.length⟩,
      layout.text = '0' :: '.' :: (List.replicate (-place).toNat '0' ++ digits) := by
  have all : ∀ c ∈ List.replicate (-place).toNat '0' ++ digits, c.isDigit = true :=
    List.forall_mem_append.mpr ⟨isDigit_of_mem_zeros _, isWhole.digits⟩
  have value : digitsValue (['0'] ++ (List.replicate (-place).toNat '0' ++ digits)) =
      digitsValue digits * 10 ^ 0 := by
    rw [← List.append_assoc, ← List.replicate_one, List.replicate_append_replicate,
      digitsValue_replicate_append, Nat.pow_zero, Nat.mul_one]
  have lone : IsWhole ['0'] := ⟨by simp, List.forall_mem_singleton.mpr rfl, fun _ => rfl⟩
  refine ⟨⟨['0'], _, none, 0, lone, all, ?_, value, ?_, by decide⟩, ?_⟩
  · simp [isWhole.given]
  · simp only [Option.getD_none, List.length_append, List.length_replicate]
    omega
  · simp [text, point, power, isWhole.given]

/-- Zeros between the digits and the point, and one behind it. -/
theorem exists_integral (isWhole : IsWhole digits) (lead : digits.head? = some '0' → place = 1)
    (covers : digits.length ≤ place) (high : place ≤ 16) :
    ∃ layout : Layout ⟨digitsValue digits, place - digits.length⟩,
      layout.text = digits ++ List.replicate (place.toNat - digits.length) '0' ++ ['.', '0'] := by
  have given : 0 < digits.length := List.length_pos_iff.mpr isWhole.given
  have whole : IsWhole (digits ++ List.replicate (place.toNat - digits.length) '0') := by
    refine ⟨List.append_ne_nil_of_left_ne_nil isWhole.given _,
      List.forall_mem_append.mpr ⟨isWhole.digits, isDigit_of_mem_zeros _⟩, ?_⟩
    intro zero
    rw [List.head?_append_of_ne_nil _ isWhole.given] at zero
    rw [isWhole.lead zero, lead zero]
    rfl
  have value : digitsValue (digits ++ List.replicate (place.toNat - digits.length) '0' ++ ['0']) =
      digitsValue digits * 10 ^ (place.toNat - digits.length + 1) := by
    rw [List.append_assoc, ← List.replicate_one, List.replicate_append_replicate,
      digitsValue_append_replicate]
  have last : ∀ c ∈ ['0'], c.isDigit = true := List.forall_mem_singleton.mpr rfl
  refine ⟨⟨_, ['0'], none, _, whole, last, by rfl, value, ?_, ?_⟩, ?_⟩
  · simp only [Option.getD_none, List.length_singleton]
    omega
  · omega
  · simp [text, point, power]

/-- The point between digits. -/
theorem exists_mixed (isWhole : IsWhole digits) (low : 0 < place) (high : place < digits.length) :
    ∃ layout : Layout ⟨digitsValue digits, place - digits.length⟩,
      layout.text = digits.take place.toNat ++ '.' :: digits.drop place.toNat := by
  have inside : digits.drop place.toNat ≠ [] := by
    rw [Ne, List.drop_eq_nil_iff]
    omega
  have whole : IsWhole (digits.take place.toNat) := by
    refine ⟨?_, fun c member => isWhole.digits c (List.mem_of_mem_take member), ?_⟩
    · rw [Ne, List.take_eq_nil_iff, not_or]
      exact ⟨by omega, isWhole.given⟩
    · intro zero
      rw [List.head?_take, if_neg (by omega)] at zero
      rw [isWhole.lead zero, List.length_singleton] at high
      omega
  have value : digitsValue (digits.take place.toNat ++ digits.drop place.toNat) =
      digitsValue digits * 10 ^ 0 := by
    rw [List.take_append_drop, Nat.pow_zero, Nat.mul_one]
  refine ⟨⟨_, _, none, 0, whole, fun c member => isWhole.digits c (List.mem_of_mem_drop member), ?_,
    value, ?_, by decide⟩, ?_⟩
  · simp [inside]
  · simp only [Option.getD_none, List.length_drop]
    omega
  · simp [text, point, power, inside]

/-- However the digits are laid out, the text is a numeral with these digits. -/
theorem exists_of_writeDigits (isWhole : IsWhole digits)
    (lead : digits.head? = some '0' → place = 1) :
    ∃ layout : Layout ⟨digitsValue digits, place - digits.length⟩,
      layout.text = (DoubleFormat.full.writeDigits digits place).toList := by
  have limit : ((DoubleFormat.full.positionalDigits : Nat) : Int) = 16 := rfl
  by_cases scientific : place ≤ -4 ∨ (DoubleFormat.full.positionalDigits : Int) < place
  · obtain ⟨first, others, rfl⟩ := List.exists_cons_of_ne_nil isWhole.given
    obtain ⟨layout, same⟩ := @exists_scientific others place first isWhole.digits
    refine ⟨layout, same.trans ?_⟩
    rcases others with _ | ⟨second, more⟩ <;>
      simp [DoubleFormat.writeDigits, scientific, point, power]
  · by_cases below : place ≤ 0
    · obtain ⟨layout, same⟩ := exists_fractional isWhole below
      refine ⟨layout, same.trans ?_⟩
      rw [DoubleFormat.writeDigits.eq_def, if_neg scientific, if_pos below]
      simp [DoubleFormat.zeros]
    · by_cases covers : (digits.length : Int) ≤ place
      · obtain ⟨layout, same⟩ := exists_integral isWhole lead covers (by omega)
        refine ⟨layout, same.trans ?_⟩
        rw [DoubleFormat.writeDigits.eq_def, if_neg scientific, if_neg below, if_pos covers]
        simp [DoubleFormat.zeros, DoubleFormat.full]
      · obtain ⟨layout, same⟩ := exists_mixed isWhole (Int.not_le.mp below) (Int.not_le.mp covers)
        refine ⟨layout, same.trans ?_⟩
        rw [DoubleFormat.writeDigits.eq_def, if_neg scientific, if_neg below, if_neg covers]
        simp

/-- The written digits of a finite double are read as that double. -/
theorem scanNumeral_writeDecimal {units : Nat} (fits : Representable units) (closed : Closed rest)
    (negative : Bool) :
    scanNumeral negative ((DoubleFormat.full.writeDecimal (.shortest units)).toList ++ rest) =
      some (scalar (.num (.double (.finite negative units fits))), rest) := by
  have lead (zero : (Nat.toDigits 10 (Decimal.shortest units).digits).head? = some '0') :
      ((Nat.toDigits 10 (Decimal.shortest units).digits).length : Int) +
        (Decimal.shortest units).exponent = 1 := by
    obtain rfl := Decimal.eq_zero_of_digits_shortest fits (eq_zero_of_head?_toDigits zero)
    rfl
  obtain ⟨layout, written⟩ := exists_of_writeDigits (isWhole_toDigits _) lead
  have few := layout.few
  rw [DoubleFormat.writeDecimal, Nat.toString_eq_ofList_toDigits, String.toList_ofList, ← written,
    scanNumeral_text layout closed]
  generalize layout.zeros = zeros at few ⊢
  rw [digitsValue_toDigits, add_sub_cancel_left, Double.ofDecimal_shortest negative fits (by omega)]

end Layout

section Next

variable {negative : Bool} {first : Char} {chars : List Char} {read : Lexeme × List Char}

theorem exists_digit_of_scanNumeral (scanned : scanNumeral negative chars = some read) :
    ∃ digit others, chars = digit :: others ∧ digit.isDigit = true := by
  cases chars with
  | nil => cases scanned
  | cons digit others =>
      refine ⟨digit, others, rfl, ?_⟩
      by_contra other
      have none : (wholePart (digit :: others)).1 = [] := by
        unfold wholePart
        split
        · rename_i same
          rw [(List.cons.inj same).1] at other
          exact (other rfl).elim
        · rw [digitRun, List.takeWhile_cons_of_neg other]
      simp [scanNumeral, none] at scanned

theorem scanWord_of_isDigit (digit : first.isDigit = true) : scanWord (first :: chars) = none := by
  unfold scanWord
  split <;> simp_all

theorem scanWord_of_minus (digit : first.isDigit = true) :
    scanWord ('-' :: first :: chars) = none := by
  unfold scanWord
  split <;> simp_all

theorem next_of_isDigit (digit : first.isDigit = true)
    (scanned : scanScalar first chars = some read) : next first chars = read := by
  unfold next
  split <;> simp_all

theorem isSpace_of_isDigit (digit : first.isDigit = true) : Json.isSpace first = false := by
  by_contra space
  simp only [Json.isSpace, Bool.not_eq_false, Bool.or_eq_true, beq_iff_eq] at space
  rcases space with ((rfl | rfl) | rfl) | rfl <;> exact absurd digit (by decide)

/-- A numeral is the next lexeme, with its sign. -/
theorem next_of_scanNumeral (scanned : scanNumeral negative chars = some read) :
    ∃ first others, (Double.sign negative).toList ++ chars = first :: others ∧
      Json.isSpace first = false ∧ next first others = read := by
  obtain ⟨digit, others, rfl, isDigit⟩ := exists_digit_of_scanNumeral scanned
  cases negative with
  | true =>
      have scalar : scanScalar '-' (digit :: others) = some read := by
        rw [scanScalar, scanWord_of_minus isDigit]
        exact scanned
      refine ⟨'-', digit :: others, rfl, rfl, ?_⟩
      rw [next.eq_def]
      simp [scalar]
  | false =>
      have apart : digit ≠ '-' := by
        rintro rfl
        cases isDigit
      have scalar : scanScalar digit others = some read := by
        rw [scanScalar, scanWord_of_isDigit isDigit]
        exact (if_neg apart).trans scanned
      exact ⟨digit, others, rfl, isSpace_of_isDigit isDigit, next_of_isDigit isDigit scalar⟩

end Next

theorem toString_toList (value : Int) :
    (toString value).toList =
      (Double.sign (decide (value < 0))).toList ++ Nat.toDigits 10 value.natAbs := by
  cases value with
  | ofNat magnitude => simp [Double.sign, toString, Int.repr]
  | negSucc magnitude => simp [Double.sign, toString, Int.repr, Int.negSucc_lt_zero]

/-- A whole number that has not too many digits to be read is read as it is written. -/
theorem next_int {value : Int} (short : (toString value.natAbs).length ≤ maxDigits)
    (closed : Closed rest) :
    ∃ first others, (toString value).toList ++ rest = first :: others ∧
      Json.isSpace first = false ∧ next first others = (scalar (.int value), rest) := by
  have isWhole := isWhole_toDigits value.natAbs
  have few : ¬ maxDigits < (Nat.toDigits 10 value.natAbs).length := by
    rw [Nat.toString_eq_ofList_toDigits, String.length_ofList] at short
    exact Nat.not_lt.mpr short
  have scanned := @scanNumeral_parts _ [] rest none isWhole (by simp) closed (decide (value < 0))
  simp only [List.isEmpty_nil, Option.isNone_none, Bool.and_self, if_true, if_neg few,
    digitsValue_toDigits, signed_natAbs, point, power, List.nil_append] at scanned
  rw [toString_toList, List.append_assoc]
  exact next_of_scanNumeral scanned

theorem next_finite {negative : Bool} {units : Nat} (fits : Representable units)
    (closed : Closed rest) :
    ∃ first others, (Double.write (.finite negative units fits)).toList ++ rest = first :: others ∧
      Json.isSpace first = false ∧
        next first others = (scalar (.num (.double (.finite negative units fits))), rest) := by
  rw [Double.write, String.toList_append, List.append_assoc]
  exact next_of_scanNumeral (Layout.scanNumeral_writeDecimal fits closed negative)

end Lexeme

end SceneScript
