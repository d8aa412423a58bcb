import PinnedRun.Proofs.Numeric.Grammar
import PinnedRun.Proofs.Text.Trimming
import PinnedRun.Settings.Environment

/-!
# The timeout that a text gives

A timeout is read from a text with blanks around it, or else the default is taken.

* `TakesDefault value` : every default is taken;
* `Gives value x` : the double is what is read, whatever the default is;
* `positive? value` : what is read, if anything is.

`readPositive_spec` says which texts give which timeout. A decimal literal gives the nearest double,
and since this is compared with zero after it is rounded, the default is taken up to half of the
smallest double.
-/

namespace PinnedRun.Timeout

open Numeric Numeric.NumberText Text

/-- Every default is taken. -/
def TakesDefault (value : Option String) : Prop := ∀ default, readPositive value default = default

/-- The double is read, whatever the default is. -/
def Gives (value : Option String) (x : Binary64) : Prop :=
  ∀ default, readPositive value default = some x

/-- The number greater than zero that is read, if one is. -/
def positive? (value : Option String) : Option Binary64 :=
  (value.filter (! isBlankText ·)).bind fun text =>
    ((read? text).map toBinary64).filter (·.isPositive)

variable {value : Option String} {text : String} {core : List Char} {negative : Bool}
variable {x : Binary64} {q : ℚ}

theorem readPositive_eq_or (value : Option String) (default : Option Binary64) :
    readPositive value default = (positive? value).or default := by
  unfold readPositive positive?
  cases value.filter (! isBlankText ·) with
  | none => rfl
  | some text =>
    cases hread : read? text with
    | none => simp [hread]
    | some number => cases hp : number.toBinary64.isPositive <;> simp [Option.filter_some, hread, hp]

theorem takesDefault_iff : TakesDefault value ↔ positive? value = none := by
  refine ⟨fun h => ?_, fun h default => by rw [readPositive_eq_or, h]; rfl⟩
  have := h none
  rwa [readPositive_eq_or, Option.or_none] at this

theorem gives_iff : Gives value x ↔ positive? value = some x := by
  refine ⟨fun h => ?_, fun h default => by rw [readPositive_eq_or, h]; rfl⟩
  have := h none
  rwa [readPositive_eq_or, Option.or_none] at this

theorem isPositive_of_gives (h : Gives value x) : x.isPositive = true := by
  obtain ⟨text, -, hx⟩ := Option.bind_eq_some_iff.mp (gives_iff.mp h)
  exact (Option.filter_eq_some_iff.mp hx).2

/-! ### Texts with a number -/

/-- What is left of a text without the blanks that may surround a number. -/
structure IsCore (core : List Char) (text : String) : Prop where
  surrounded : Surrounded isOuterBlank core text.toList
  trimmed : IsTrimmed isOuterBlank core

theorem isCore_of_trim (h : trim isOuterBlank text.toList = core) : IsCore core text :=
  ⟨(trim_eq_iff.mp h).1, (trim_eq_iff.mp h).2⟩

theorem IsCore.trim_eq (h : IsCore core text) : trim isOuterBlank text.toList = core :=
  trim_eq_iff.mpr ⟨h.surrounded, h.trimmed⟩

/-- Every text has one core. -/
theorem existsUnique_isCore (text : String) : ∃! core, IsCore core text :=
  ⟨trim isOuterBlank text.toList, isCore_of_trim rfl, fun _ h => h.trim_eq.symm⟩

theorem IsCore.read?_eq (h : IsCore core text) : read? text = readTrimmed? core := by
  rw [read?, h.trim_eq]

theorem IsCore.isBlankText_eq_false (h : IsCore core text) (hc : ∃ c ∈ core, isBlank c = false) :
    isBlankText text = false := by
  obtain ⟨c, hc, hblank⟩ := hc
  obtain ⟨before, after, -, -, htext⟩ := h.surrounded
  rw [isBlankText, List.all_eq_false]
  exact ⟨c, by simp [htext, hc], by simp [hblank]⟩

/-- A text that is not blank is read as its core is. -/
theorem IsCore.positive?_eq (h : IsCore core text) :
    positive? (some text) =
      if isBlankText text then none
      else ((readTrimmed? core).map toBinary64).filter (·.isPositive) := by
  cases hblank : isBlankText text <;> simp [positive?, Option.filter_some, hblank, h.read?_eq]

theorem IsCore.positive?_of_denotes (h : IsCore core text) (hq : Denotes core q) :
    positive? (some text) =
      if 2 ^ (-1075 : ℤ) < q then some (Binary64.ofRat q) else none := by
  have hblank := h.isBlankText_eq_false hq.exists_not_blank
  obtain ⟨negative, l, hread, hdigits, rfl⟩ := denotes_iff.mp hq
  have hpos := l.value_nonneg
  rw [h.positive?_eq, hblank, hread, Option.map_some, Option.filter_some, toBinary64,
    DecimalLiteral.nearest_eq_ofRat hdigits]
  cases negative with
  | true =>
    have hnot : (Binary64.ofRat l.value).neg.isPositive = false := by
      simp [Binary64.neg, Binary64.isPositive, Binary64.negative_ofRat hpos]
    have hneg : ¬(2 : ℚ) ^ (-1075 : ℤ) < -l.value :=
      not_lt.mpr ((neg_nonpos.mpr hpos).trans (by positivity))
    simp only [if_true, hnot, hneg, if_false, Bool.false_eq_true]
  | false => simp only [if_false, Bool.false_eq_true, Binary64.isPositive_ofRat_iff hpos]

/-- A literal leaves the default up to half of the smallest double. -/
theorem IsCore.takesDefault_iff (h : IsCore core text) (hq : Denotes core q) :
    TakesDefault (some text) ↔ q ≤ 2 ^ (-1075 : ℤ) := by
  rw [Timeout.takesDefault_iff, h.positive?_of_denotes hq]
  by_cases hlow : (2 : ℚ) ^ (-1075 : ℤ) < q
  · simp only [if_pos hlow, reduceCtorEq, not_le.mpr hlow]
  · simp only [if_neg hlow, not_lt.mp hlow]

/-- A literal gives infinity from the middle behind the largest finite double on. -/
theorem IsCore.gives_infinity_iff (h : IsCore core text) (hq : Denotes core q) :
    Gives (some text) (.infinity false) ↔ 2 ^ 1024 - 2 ^ 970 ≤ q := by
  rw [gives_iff, h.positive?_of_denotes hq]
  by_cases hlow : (2 : ℚ) ^ (-1075 : ℤ) < q
  · have hpos : 0 < q := lt_trans (by positivity) hlow
    rw [if_pos hlow, Option.some_inj, Binary64.ofRat_eq_infinity_iff hpos.le]
  · have hfinite : ¬(2 : ℚ) ^ 1024 - 2 ^ 970 ≤ q :=
      not_le.mpr ((not_lt.mp hlow).trans_lt smallest_lt_last)
    simp only [if_neg hlow, reduceCtorEq, hfinite]

/-- Between the two a literal gives the nearest double. -/
theorem IsCore.gives_nearest (h : IsCore core text) (hq : Denotes core q)
    (hlow : 2 ^ (-1075 : ℤ) < q) (hhigh : q < 2 ^ 1024 - 2 ^ 970) :
    ∃ x, Gives (some text) x ∧ x.RoundsTo q := by
  have hpos : 0 < q := lt_trans (by positivity) hlow
  refine ⟨.ofRat q, gives_iff.mpr ?_, Binary64.ofRat_roundsTo hpos hhigh⟩
  rw [h.positive?_of_denotes hq, if_pos hlow]

theorem IsCore.positive?_of_saysInfinity (h : IsCore core text)
    (hcore : SaysInfinity core false) : positive? (some text) = some (.infinity false) := by
  rw [h.positive?_eq, h.isBlankText_eq_false hcore.exists_not_blank,
    readTrimmed?_eq_infinity_iff.mpr hcore]
  rfl

/-- What is neither a literal nor infinity is not greater than zero. -/
theorem IsCore.positive?_of_other (h : IsCore core text) (hliteral : ∀ q, ¬Denotes core q)
    (hword : ¬SaysInfinity core false) : positive? (some text) = none := by
  rw [h.positive?_eq]
  split
  · rfl
  cases hread : readTrimmed? core with
  | none => rfl
  | some number =>
    cases number with
    | decimal negative l =>
      obtain ⟨-, _, _, ds, es, e, -, -, hbody, rfl⟩ := readTrimmed?_eq_decimal_iff.mp hread
      exact absurd (denotes_iff.mpr ⟨negative, _, hread, hbody.lt_ten, rfl⟩) (hliteral _)
    | infinity negative =>
      cases negative with
      | true => rfl
      | false => exact absurd (readTrimmed?_eq_infinity_iff.mp hread) hword
    | nan => rfl

theorem positive?_of_isBlankText (h : isBlankText text = true) : positive? (some text) = none := by
  simp [positive?, Option.filter_some, h]

/-- **The timeout is a double greater than zero, correctly rounded, or the default.** Whatever the
variable holds, the default is taken or a double greater than zero is given. If what is left of a
text without the blanks around it is a decimal literal of `q`, then the default is taken up to half
of the smallest double, infinity is given from the middle between the largest finite double and
`2 ^ 1024` on, and the nearest double is given between the two. Of all other texts only the words for
infinity, with a plus or no sign, give something. -/
theorem readPositive_spec (value : Option String) :
    (TakesDefault value ∨
      ∃ x, Gives value x ∧ (x = .infinity false ∨ ∃ r, x.toRat? = some r ∧ 0 < r)) ∧
    (∀ text core, value = some text → IsCore core text →
      (∀ q, Denotes core q →
        (TakesDefault value ↔ q ≤ 2 ^ (-1075 : ℤ)) ∧
        (Gives value (.infinity false) ↔ 2 ^ 1024 - 2 ^ 970 ≤ q) ∧
        (2 ^ (-1075 : ℤ) < q → q < 2 ^ 1024 - 2 ^ 970 → ∃ x, Gives value x ∧ x.RoundsTo q)) ∧
      (SaysInfinity core false → Gives value (.infinity false)) ∧
      ((∀ q, ¬Denotes core q) → ¬SaysInfinity core false → TakesDefault value)) ∧
    (value = none ∨ (∃ text, value = some text ∧ isBlankText text = true) →
      TakesDefault value) := by
  refine ⟨?_, ?_, ?_⟩
  · cases hx : positive? value with
    | none => exact .inl (takesDefault_iff.mpr hx)
    | some x =>
      have hgives := gives_iff.mpr hx
      exact .inr ⟨x, hgives, Binary64.eq_infinity_or_toRat?_pos (isPositive_of_gives hgives)⟩
  · rintro text core rfl hcore
    refine ⟨fun q hq => ?_, fun hword => ?_, fun hliteral hword => ?_⟩
    · exact ⟨hcore.takesDefault_iff hq, hcore.gives_infinity_iff hq, hcore.gives_nearest hq⟩
    · exact gives_iff.mpr (hcore.positive?_of_saysInfinity hword)
    · exact takesDefault_iff.mpr (hcore.positive?_of_other hliteral hword)
  · rintro (rfl | ⟨text, rfl, hblank⟩)
    · exact takesDefault_iff.mpr rfl
    · exact takesDefault_iff.mpr (positive?_of_isBlankText hblank)

/-- Blanks, an underscore, a point and an exponent; and a digit of another script with a minus. -/
theorem readPositive_spec_grouped :
    (∃ x, Gives (some " 1_0.5e-1\n") x ∧ x.RoundsTo (21 / 20)) ∧ TakesDefault (some "-٣") := by
  have hcore : IsCore "1_0.5e-1".toList " 1_0.5e-1\n" := isCore_of_trim (by decide)
  have hcore' : IsCore "-٣".toList "-٣" := isCore_of_trim (by decide)
  have htenth : AreDigits ['1'] [1] := .cons rfl .nil
  have hexponent : IsExponent ['e', '-', '1'] (-1) :=
    .some (.inl rfl) .minus htenth (List.cons_ne_nil _ _)
  have hwhole : AreDigits ['1', '0'] [1, 0] := .cons rfl (.cons rfl .nil)
  have hfraction : AreDigits ['5'] [5] := .cons rfl .nil
  have hbody : IsUnsigned ['1', '0', '.', '5', 'e', '-', '1'] [1, 0] [5] (-1) :=
    .mk hwhole hfraction (.inl rfl) (.inl (List.cons_ne_nil _ _)) hexponent
  have hthree : AreDigits ['٣'] [3] := .cons rfl .nil
  have hbody' : IsUnsigned ['٣'] [3] [] 0 :=
    .mk hthree .nil (.inr ⟨rfl, rfl⟩) (.inl (List.cons_ne_nil _ _)) .none
  have hq : Denotes "1_0.5e-1".toList (21 / 20) := by
    have hplain := ungroup_false_eq_some_iff.mp
      (show ungroup false "1_0.5e-1".toList = some ['1', '0', '.', '5', 'e', '-', '1'] by decide)
    refine ⟨hplain.1, [], false, _, _, _, _, hplain.2, .none, hbody, ?_⟩
    norm_num [decimalValue, Nat.ofDigits]
  have hq' : Denotes "-٣".toList (-3) := by
    have hplain := ungroup_false_eq_some_iff.mp
      (show ungroup false "-٣".toList = some ['-', '٣'] by decide)
    refine ⟨hplain.1, ['-'], true, _, _, _, _, hplain.2, .minus, hbody', ?_⟩
    norm_num [decimalValue, Nat.ofDigits]
  have hread := ((readPositive_spec (some " 1_0.5e-1\n")).2.1 _ _ rfl hcore).1 _ hq
  have hread' := ((readPositive_spec (some "-٣")).2.1 _ _ rfl hcore').1 _ hq'
  refine ⟨hread.2.2 ?_ ?_, hread'.1.mpr ?_⟩
  · have hle : (2 : ℚ) ^ (-1075 : ℤ) ≤ 2 ^ (0 : ℤ) := zpow_le_zpow_right₀ (by norm_num) (by norm_num)
    exact hle.trans_lt (by norm_num)
  · have hone : (1 : ℚ) ≤ 2 ^ 970 := one_le_pow₀ (by norm_num)
    have hpow : (2 : ℚ) ^ 1024 = 2 ^ 54 * 2 ^ 970 := by rw [← pow_add]
    rw [hpow]
    generalize (2 : ℚ) ^ 970 = y at hone ⊢
    linarith
  · exact le_trans (by norm_num) (zpow_nonneg (by norm_num) _)

end PinnedRun.Timeout
