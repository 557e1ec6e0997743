import Mathlib.Data.List.Basic
import SceneScript.Export.Slug

/-!
Ids of scenes. Lower case is settled: no character of a lower-case text has another lower-case form,
and none of them is blank that was not. Main statement: an id is not empty and holds no blank, it is
its own id, and titles that differ only in their blanks share it; only an empty title takes the
fallback.
-/

namespace SceneScript

namespace Text

namespace CaseRange

variable {range other : CaseRange} {code : Nat}

def image (range : CaseRange) (code : Nat) : Nat := (code + range.offset).toNat

/-- The codes that a range covers, in order. -/
def codes (range : CaseRange) : List Nat :=
  (List.range ((range.last - range.first) / range.step + 1)).map fun position =>
    range.first + range.step * position

/-- All images of a range lie below or above an interval. -/
def misses (range : CaseRange) (low high : Nat) : Bool :=
  Nat.blt (range.image range.last) low || Nat.blt high (range.image range.first)

/-- No image of a range is covered by another. Few ranges have images among the codes of another,
and only of these the images are looked at one by one. -/
def avoids (range other : CaseRange) : Bool :=
  range.misses other.first other.last ||
    range.codes.all fun code => !other.covers (range.image code)

theorem mem_codes (covered : range.covers code = true) : code ∈ range.codes := by
  simp only [covers, Bool.and_eq_true, decide_eq_true_eq, beq_iff_eq] at covered
  obtain ⟨⟨low, high⟩, onStep⟩ := covered
  have whole : range.step * ((code - range.first) / range.step) = code - range.first :=
    Nat.mul_div_cancel' (Nat.dvd_of_mod_eq_zero onStep)
  have within : (code - range.first) / range.step ≤ (range.last - range.first) / range.step :=
    Nat.div_le_div_right (Nat.sub_le_sub_right high range.first)
  refine List.mem_map.mpr ⟨_, List.mem_range.mpr (Nat.lt_succ_of_le within), ?_⟩
  rw [whole, Nat.add_sub_cancel' low]

theorem bounds_of_covers (covered : range.covers code = true) :
    range.image range.first ≤ range.image code ∧ range.image code ≤ range.image range.last := by
  simp only [covers, Bool.and_eq_true, decide_eq_true_eq] at covered
  unfold image
  omega

theorem not_within_of_misses {low high : Nat} (missed : range.misses low high = true)
    (covered : range.covers code = true) :
    ¬ (low ≤ range.image code ∧ range.image code ≤ high) := by
  have bounds := bounds_of_covers covered
  simp only [misses, Bool.or_eq_true, Nat.blt_eq] at missed
  omega

theorem not_covers_of_avoids (avoided : range.avoids other = true)
    (covered : range.covers code = true) : other.covers (range.image code) = false := by
  simp only [avoids, Bool.or_eq_true, List.all_eq_true, Bool.not_eq_true'] at avoided
  rcases avoided with missed | apart
  · have outside := not_within_of_misses missed covered
    simp only [covers, Bool.and_eq_false_iff, decide_eq_false_iff_not]
    omega
  · exact apart code (mem_codes covered)

end CaseRange

def blankIntervals : List (Nat × Nat) :=
  [(0x09, 0x0D), (0x1C, 0x20), (0x85, 0x85), (0xA0, 0xA0), (0x1680, 0x1680), (0x2000, 0x200A),
    (0x2028, 0x2029), (0x202F, 0x202F), (0x205F, 0x205F), (0x3000, 0x3000)]

/-- The images of a range are characters, none of them blank, and have no other lower-case form. -/
def CaseRange.settles (range : CaseRange) : Bool :=
  (range.misses 0xD800 0xDFFF && Nat.blt (range.image range.last) 0x110000) &&
    range.misses 0x130 0x130 && lowerRanges.all range.avoids &&
    blankIntervals.all fun blank => range.misses blank.1 blank.2

theorem settles_of_mem : ∀ range ∈ lowerRanges, range.settles = true := by
  decide +kernel

theorem blankInterval_of_isBlank {c : Char} (blank : isBlank c = true) :
    ∃ interval ∈ blankIntervals, interval.1 ≤ c.toNat ∧ c.toNat ≤ interval.2 := by
  rw [← inRanges_iff]
  simp only [isBlank, isWhiteSpace, Bool.or_eq_true, Bool.and_eq_true, decide_eq_true_eq,
    beq_iff_eq] at blank
  simp only [inRanges, blankIntervals, List.any_cons, List.any_nil, Bool.or_eq_true,
    Bool.and_eq_true, decide_eq_true_eq]
  omega

theorem toNat_image {range : CaseRange} {code : Nat} (settles : range.settles = true)
    (covered : range.covers code = true) :
    (Char.ofNat (range.image code)).toNat = range.image code := by
  simp only [CaseRange.settles, Bool.and_eq_true, Nat.blt_eq] at settles
  have bounds := CaseRange.bounds_of_covers covered
  have outside := CaseRange.not_within_of_misses settles.1.1.1.1 covered
  have valid : (range.image code).isValidChar := by
    unfold Nat.isValidChar
    omega
  rw [Char.ofNat, dif_pos valid]
  rfl

/-- A character that has no other lower-case form. -/
def Settled (c : Char) : Prop := lowerChar c = [c]

theorem settled_of_uncovered {c : Char} (apart : c ≠ '\u0130')
    (uncovered : ∀ range ∈ lowerRanges, range.covers c.toNat = false) : Settled c := by
  have unfound : lowerRanges.find? (·.covers c.toNat) = none := by
    rw [List.find?_eq_none]
    intro range listed covered
    rw [uncovered range listed] at covered
    cases covered
  rw [Settled, lowerChar, if_neg apart, mapCase, unfound]

theorem settled_image {range : CaseRange} {code : Nat} (listed : range ∈ lowerRanges)
    (covered : range.covers code = true) :
    Settled (Char.ofNat (range.image code)) ∧ isBlank (Char.ofNat (range.image code)) = false := by
  have settles := settles_of_mem range listed
  have same := toNat_image settles covered
  simp only [CaseRange.settles, Bool.and_eq_true, List.all_eq_true] at settles
  obtain ⟨⟨⟨-, dotted⟩, avoided⟩, missed⟩ := settles
  constructor
  · apply settled_of_uncovered
    · intro isDotted
      have code := congrArg Char.toNat isDotted
      rw [same] at code
      exact CaseRange.not_within_of_misses dotted covered
        ⟨Nat.le_of_eq code.symm, Nat.le_of_eq code⟩
    · intro other otherListed
      rw [same]
      exact CaseRange.not_covers_of_avoids (avoided other otherListed) covered
  · rw [Bool.eq_false_iff]
    intro blank
    obtain ⟨interval, member, within⟩ := blankInterval_of_isBlank blank
    rw [same] at within
    exact CaseRange.not_within_of_misses (missed interval member) covered within

/-- The lower-case form of a character is settled, and not blank unless the character is. -/
theorem settled_of_mem_lowerChar {c lowered : Char} (member : lowered ∈ lowerChar c) :
    Settled lowered ∧ (isBlank c = false → isBlank lowered = false) := by
  by_cases isDotted : c = '\u0130'
  · subst isDotted
    have forms : lowered = 'i' ∨ lowered = '\u0307' := by simpa [lowerChar] using member
    have plain : lowerChar 'i' = ['i'] ∧ lowerChar '\u0307' = ['\u0307'] := by decide +kernel
    rcases forms with rfl | rfl
    · exact ⟨plain.1, fun _ => by decide⟩
    · exact ⟨plain.2, fun _ => by decide⟩
  cases found : lowerRanges.find? (·.covers c.toNat) with
  | none =>
      have same : lowered = c := by simpa [lowerChar, isDotted, mapCase, found] using member
      subst same
      refine ⟨?_, id⟩
      rw [Settled, lowerChar, if_neg isDotted, mapCase, found]
  | some range =>
      have same : lowered = Char.ofNat (range.image c.toNat) := by
        simpa [lowerChar, isDotted, mapCase, found, CaseRange.image] using member
      have covered : range.covers c.toNat = true := by simpa using List.find?_some found
      have image := settled_image (List.mem_of_find?_eq_some found) covered
      rw [same]
      exact ⟨image.1, fun _ => image.2⟩

/-- No capital sigma is settled, so that a settled text is lowered character by character. -/
theorem lowerAfter_of_settled {before chars : List Char} (settled : ∀ c ∈ chars, Settled c) :
    lowerAfter before chars = chars := by
  induction chars generalizing before with
  | nil => rfl
  | cons c rest ih =>
      have here : lowerChar c = [c] := settled c List.mem_cons_self
      have noSigma : c ≠ '\u03a3' := by
        rintro rfl
        revert here
        decide +kernel
      rw [lowerAfter, if_neg noSigma, here, ih fun other later => settled other (.tail c later)]
      rfl

/-- What is in lower case is settled, and not blank unless the text has blanks. -/
theorem settled_of_mem_lowerAfter {before chars : List Char} {lowered : Char}
    (member : lowered ∈ lowerAfter before chars) :
    Settled lowered ∧ ((∀ c ∈ chars, isBlank c = false) → isBlank lowered = false) := by
  induction chars generalizing before with
  | nil => cases member
  | cons c rest ih =>
      rw [lowerAfter, List.mem_append] at member
      rcases member with here | later
      · by_cases sigma : c = '\u03a3'
        · have forms : lowered = '\u03c2' ∨ lowered = '\u03c3' := by
            rw [if_pos sigma, List.mem_singleton] at here
            split at here
            · exact Or.inl here
            · exact Or.inr here
          have plain : lowerChar '\u03c2' = ['\u03c2'] ∧ lowerChar '\u03c3' = ['\u03c3'] := by
            decide +kernel
          rcases forms with rfl | rfl
          · exact ⟨plain.1, fun _ => by decide⟩
          · exact ⟨plain.2, fun _ => by decide⟩
        · rw [if_neg sigma] at here
          obtain ⟨settled, unblank⟩ := settled_of_mem_lowerChar here
          exact ⟨settled, fun none => unblank (none c List.mem_cons_self)⟩
      · obtain ⟨settled, unblank⟩ := ih later
        exact ⟨settled, fun none => unblank fun other listed => none other (.tail c listed)⟩

theorem lowerAfter_ne_nil {before chars : List Char} (some : chars ≠ []) :
    lowerAfter before chars ≠ [] := by
  cases chars with
  | nil => exact absurd rfl some
  | cons c rest =>
      have first : lowerChar c ≠ [] := by
        unfold lowerChar
        split <;> simp
      rw [lowerAfter]
      split
      · simp
      · simp [first]

end Text

namespace Slug

/-- Texts with the same characters, but for the blanks: where one has some, so has the other. -/
inductive Respaced : List Char → List Char → Prop where
  | nil : Respaced [] []
  | char {c : Char} {one other : List Char} (solid : Text.isBlank c = false)
      (rest : Respaced one other) : Respaced (c :: one) (c :: other)
  | run {blanks others one other : List Char} (some : blanks ≠ []) (someToo : others ≠ [])
      (blank : ∀ c ∈ blanks, Text.isBlank c = true) (blankToo : ∀ c ∈ others, Text.isBlank c = true)
      (rest : Respaced one other) : Respaced (blanks ++ one) (others ++ other)

theorem solid_of_mem_joinBlanks {inRun : Bool} {chars : List Char} {c : Char}
    (member : c ∈ joinBlanks inRun chars) : Text.isBlank c = false := by
  induction chars generalizing inRun with
  | nil => cases member
  | cons first rest ih =>
      rw [joinBlanks] at member
      split at member
      · split at member
        · exact ih member
        · rcases List.mem_cons.mp member with rfl | later
          · decide
          · exact ih later
      · rename_i solid
        rcases List.mem_cons.mp member with rfl | later
        · exact Bool.eq_false_iff.mpr solid
        · exact ih later

theorem joinBlanks_of_solid {chars : List Char} (solid : ∀ c ∈ chars, Text.isBlank c = false) :
    joinBlanks false chars = chars := by
  induction chars with
  | nil => rfl
  | cons c rest ih =>
      rw [joinBlanks, solid c List.mem_cons_self, if_neg Bool.false_ne_true,
        ih fun other later => solid other (.tail c later)]

theorem joinBlanks_ne_nil {chars : List Char} (some : chars ≠ []) :
    joinBlanks false chars ≠ [] := by
  cases chars with
  | nil => exact absurd rfl some
  | cons c rest =>
      rw [joinBlanks]
      split <;> simp

theorem joinBlanks_true_run {blanks rest : List Char}
    (blank : ∀ c ∈ blanks, Text.isBlank c = true) :
    joinBlanks true (blanks ++ rest) = joinBlanks true rest := by
  induction blanks with
  | nil => rfl
  | cons c more ih =>
      rw [List.cons_append, joinBlanks, blank c List.mem_cons_self, if_pos rfl, if_pos rfl,
        ih fun other later => blank other (.tail c later)]

/-- Of a run of blanks it only matters whether one stands right before it. -/
theorem joinBlanks_run {inRun : Bool} {blanks rest : List Char} (some : blanks ≠ [])
    (blank : ∀ c ∈ blanks, Text.isBlank c = true) :
    joinBlanks inRun (blanks ++ rest) =
      if inRun then joinBlanks true rest else '_' :: joinBlanks true rest := by
  cases blanks with
  | nil => exact absurd rfl some
  | cons c more =>
      have after := @joinBlanks_true_run _ rest fun other later => blank other (.tail c later)
      rw [List.cons_append, joinBlanks, blank c List.mem_cons_self, if_pos rfl, after]

theorem joinBlanks_of_respaced {one other : List Char} (respaced : Respaced one other)
    (inRun : Bool) : joinBlanks inRun one = joinBlanks inRun other := by
  induction respaced generalizing inRun with
  | nil => rfl
  | char solid _ ih => simp only [joinBlanks, solid, Bool.false_eq_true, if_false, ih]
  | run some someToo blank blankToo _ ih =>
      rw [joinBlanks_run some blank, joinBlanks_run someToo blankToo, ih]

theorem toList_ofTitle (title : String) :
    (ofTitle title).toList = Text.lowerAfter [] (joinBlanks false title.toList) := by
  rw [ofTitle, Text.lower, String.toList_ofList, String.toList_ofList]

theorem ofTitle_ne_empty {title : String} (some : title ≠ "") : ofTitle title ≠ "" := by
  intro empty
  have chars := toList_ofTitle title
  rw [empty] at chars
  have kept := joinBlanks_ne_nil (String.toList_eq_nil_iff.not.mpr some)
  exact Text.lowerAfter_ne_nil kept chars.symm

theorem solid_of_mem_ofTitle {title : String} {c : Char} (member : c ∈ (ofTitle title).toList) :
    Text.isBlank c = false := by
  rw [toList_ofTitle] at member
  exact (Text.settled_of_mem_lowerAfter member).2 fun other listed => solid_of_mem_joinBlanks listed

/-- An id has no blanks to join, and is in lower case already. -/
theorem ofTitle_ofTitle (title : String) : ofTitle (ofTitle title) = ofTitle title := by
  apply String.toList_injective
  rw [toList_ofTitle, joinBlanks_of_solid fun c member => solid_of_mem_ofTitle member]
  apply Text.lowerAfter_of_settled
  intro c member
  rw [toList_ofTitle] at member
  exact (Text.settled_of_mem_lowerAfter member).1

theorem ofTitle_of_respaced {title again : String} (respaced : Respaced title.toList again.toList) :
    ofTitle title = ofTitle again := by
  rw [ofTitle, ofTitle, joinBlanks_of_respaced respaced]

theorem ofTitle_empty : ofTitle "" = "" := by decide +kernel

end Slug

theorem slug_of_untitled {title : Option String} (untitled : title.getD "" = "")
    (fallback : String) : slug title fallback = fallback := by
  simp only [slug, untitled, Slug.ofTitle_empty, if_true]

theorem slug_some {title : String} (titled : title ≠ "") (fallback : String) :
    slug (some title) fallback = Slug.ofTitle title := by
  simp only [slug, Option.getD_some, Slug.ofTitle_ne_empty titled, if_false]

theorem slug_of_titled {title : Option String} (titled : title.getD "" ≠ "") (fallback : String) :
    slug title fallback = Slug.ofTitle (title.getD "") := by
  simp only [slug, Slug.ofTitle_ne_empty titled, if_false]

/-- Ids are canonical. The fallback is taken exactly for an empty title. Any other title has an id
of its own, which is not empty, holds no blank, is its own id, and is that of every title that
differs only in which blanks stand in a place. -/
theorem slug_canonical (title : Option String) :
    ((∀ fallback, slug title fallback = fallback) ↔ title.getD "" = "") ∧
      (title.getD "" ≠ "" → ∀ fallback,
        slug title fallback ≠ "" ∧
        (∀ c ∈ (slug title fallback).toList, Text.isBlank c = false) ∧
        (∀ other, slug (some (slug title fallback)) other = slug title fallback) ∧
        ∀ again : String, Slug.Respaced (title.getD "").toList again.toList →
          ∀ other, slug (some again) other = slug title fallback) := by
  constructor
  · constructor
    · intro falls
      by_contra titled
      -- An id of its own cannot be equal to two fallbacks.
      have own := slug_of_titled titled
      have one := (own "a").symm.trans (falls "a")
      have other := (own "b").symm.trans (falls "b")
      exact absurd (one.symm.trans other) (by decide)
    · exact slug_of_untitled
  · intro titled fallback
    have filled := Slug.ofTitle_ne_empty titled
    rw [slug_of_titled titled]
    refine ⟨filled, fun c member => Slug.solid_of_mem_ofTitle member, ?_, ?_⟩
    · intro other
      rw [slug_some filled, Slug.ofTitle_ofTitle]
    · intro again respaced other
      have same := Slug.ofTitle_of_respaced respaced
      have titledToo : again ≠ "" := by
        rintro rfl
        exact filled (same.trans Slug.ofTitle_empty)
      rw [slug_some titledToo, same]

/-- Capital sigmas at the start and at the end of a word, two blanks, and the one character whose
lower-case form has two. -/
def harborTitle : String := "\u03a3\u0391\u03a3 \t\u0130"

theorem slug_canonical_harborTitle :
    harborTitle ≠ "" ∧
      Slug.Respaced harborTitle.toList "\u03a3\u0391\u03a3\u2003\u0130".toList ∧
      slug harborTitle "untitled" = "\u03c3\u03b1\u03c2_i\u0307" ∧
      slug harborTitle "untitled" ≠ "" ∧
      (∀ c ∈ (slug harborTitle "untitled").toList, Text.isBlank c = false) ∧
      slug (slug harborTitle "untitled") "untitled" = slug harborTitle "untitled" ∧
      slug "\u03a3\u0391\u03a3\u2003\u0130" "untitled" = slug harborTitle "untitled" := by
  have titled : harborTitle ≠ "" := by decide
  have respaced :
      Slug.Respaced harborTitle.toList "\u03a3\u0391\u03a3\u2003\u0130".toList := by
    have tail : Slug.Respaced ['\u0130'] ['\u0130'] := .char rfl .nil
    have blanks : Slug.Respaced ([' ', '\t'] ++ ['\u0130']) (['\u2003'] ++ ['\u0130']) :=
      .run (by decide) (by decide) (List.all_eq_true.mp (by decide))
        (List.all_eq_true.mp (by decide)) tail
    exact .char rfl (.char rfl (.char rfl blanks))
  obtain ⟨filled, solid, own, shared⟩ :=
    (slug_canonical (some harborTitle)).2 titled "untitled"
  exact ⟨titled, respaced, by decide +kernel, filled, solid, own "untitled",
    shared _ respaced "untitled"⟩

end SceneScript
