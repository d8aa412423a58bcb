import Mathlib.Data.List.TakeWhile
import Mathlib.Data.Nat.Digits.Lemmas
import PinnedRun.Numeric.DecimalLiteral
import PinnedRun.Proofs.Numeric.Nearest

/-!
# The double nearest to a decimal literal

A literal of scale `s`, its leading zeros aside, is below `10 ^ s` and not below a tenth of it
(`DecimalLiteral.value_lt_scale`, `DecimalLiteral.scale_le_value`). So a literal that is set aside
because of its scale rounds to infinity or to zero anyway, and in every case the double that is found
is the value of the literal rounded (`DecimalLiteral.nearest_eq_ofRat`).
-/

namespace PinnedRun.Numeric

theorem ofDigits_append_singleton (ds : List ℕ) (d : ℕ) :
    ofDigits (ds ++ [d]) = 10 * ofDigits ds + d := by
  simp [ofDigits, List.foldl_append]

/-- Digits denote the number that they are written down as. -/
theorem ofDigits_eq (ds : List ℕ) : ofDigits ds = Nat.ofDigits 10 ds.reverse := by
  induction ds using List.reverseRecOn with
  | nil => rfl
  | append_singleton ds d ih =>
    rw [ofDigits_append_singleton, ih, List.reverse_append, List.reverse_singleton,
      List.singleton_append, Nat.ofDigits_cons]
    exact Nat.add_comm _ _

theorem ofDigits_append (ds es : List ℕ) :
    ofDigits (ds ++ es) = ofDigits ds * 10 ^ es.length + ofDigits es := by
  rw [ofDigits_eq, List.reverse_append, Nat.ofDigits_append, List.length_reverse, ← ofDigits_eq,
    ← ofDigits_eq]
  ring

/-- Zeros in front do not count. -/
theorem ofDigits_dropWhile (ds : List ℕ) : ofDigits (ds.dropWhile (· == 0)) = ofDigits ds := by
  induction ds with
  | nil => rfl
  | cons d ds ih =>
    by_cases hd : d = 0
    · rw [List.dropWhile_cons_of_pos (by simpa using hd), ih, hd]
      rfl
    · rw [List.dropWhile_cons_of_neg (by simpa using hd)]

namespace DecimalLiteral

variable (l : DecimalLiteral)

theorem value_eq : l.value = ofDigits l.digits * 10 ^ l.exponent := by
  rw [value, Rat.mkRat_eq_div, Nat.pow_eq, Nat.pow_eq]
  push_cast
  rw [div_eq_iff (by positivity), mul_assoc, ← zpow_natCast, ← zpow_natCast,
    ← zpow_add₀ (by norm_num)]
  congr 2
  omega

theorem value_nonneg : 0 ≤ l.value := by
  rw [value_eq]
  positivity

variable {l}

theorem value_lt_scale (h : ∀ d ∈ l.digits, d < 10) : l.value < 10 ^ l.scale := by
  have hlt : ofDigits l.digits < 10 ^ (l.digits.dropWhile (· == 0)).length := by
    rw [← ofDigits_dropWhile, ofDigits_eq, ← List.length_reverse]
    refine Nat.ofDigits_lt_base_pow_length (by norm_num) fun d hd => h d ?_
    exact (List.dropWhile_sublist _).subset (List.mem_reverse.mp hd)
  rw [value_eq, scale, zpow_add₀ (by norm_num), zpow_natCast]
  have : (ofDigits l.digits : ℚ) < 10 ^ (l.digits.dropWhile (· == 0)).length := by
    exact_mod_cast hlt
  gcongr

theorem scale_le_value (h : l.digits.all (· == 0) = false) : 10 ^ (l.scale - 1) ≤ l.value := by
  have hne : l.digits.dropWhile (· == 0) ≠ [] := by
    rw [Ne, List.dropWhile_eq_nil_iff, ← List.all_eq_true, h]
    decide
  have hlast : (l.digits.dropWhile (· == 0)).reverse.getLast (by simpa using hne) ≠ 0 := by
    have := List.head_dropWhile_not (· == 0) hne
    rw [List.getLast_reverse]
    simpa using this
  have hle : 10 ^ (l.digits.dropWhile (· == 0)).length ≤ 10 * ofDigits l.digits := by
    rw [← ofDigits_dropWhile, ofDigits_eq, ← List.length_reverse]
    exact Nat.pow_length_le_mul_ofDigits (b := 8) (by simpa using hne) hlast
  have hle : (10 : ℚ) ^ (l.digits.dropWhile (· == 0)).length / 10 ≤ ofDigits l.digits := by
    rw [div_le_iff₀' (by norm_num)]
    exact_mod_cast hle
  rw [value_eq, scale, add_sub_right_comm, zpow_add₀ (by norm_num), zpow_sub_one₀ (by norm_num),
    zpow_natCast, ← div_eq_mul_inv]
  gcongr

theorem value_of_all_zero (h : l.digits.all (· == 0) = true) : l.value = 0 := by
  have hnil : l.digits.dropWhile (· == 0) = [] :=
    List.dropWhile_eq_nil_iff.mpr (List.all_eq_true.mp h)
  rw [value_eq, ← ofDigits_dropWhile, hnil]
  simp [ofDigits]

/-- A literal of a scale over 320 is beyond all finite doubles. -/
theorem infinity_le_value (h : l.digits.all (· == 0) = false) (hscale : 320 < l.scale) :
    2 ^ 1024 - 2 ^ 970 ≤ l.value := by
  calc (2 : ℚ) ^ 1024 - 2 ^ 970 ≤ 2 ^ 1024 := sub_le_self _ (by positivity)
    _ = (2 ^ 16) ^ 64 := by rw [← pow_mul]
    _ ≤ (10 ^ 5) ^ 64 := pow_le_pow_left₀ (by norm_num) (by norm_num) 64
    _ = 10 ^ (320 : ℤ) := by rw [← pow_mul, ← zpow_natCast]; rfl
    _ ≤ 10 ^ (l.scale - 1) := zpow_le_zpow_right₀ (by norm_num) (by omega)
    _ ≤ l.value := scale_le_value h

/-- A literal of a scale under -340 is nearest to zero. -/
theorem value_le_smallest (h : ∀ d ∈ l.digits, d < 10) (hscale : l.scale < -340) :
    l.value ≤ 2 ^ (-1075 : ℤ) := by
  have hpow : (2 : ℚ) ^ 1075 ≤ 10 ^ 340 :=
    calc (2 : ℚ) ^ 1075 ≤ 2 ^ (13 * 85) := pow_le_pow_right₀ (by norm_num) (by norm_num)
      _ = (2 ^ 13) ^ 85 := pow_mul _ _ _
      _ ≤ (10 ^ 4) ^ 85 := pow_le_pow_left₀ (by norm_num) (by norm_num) 85
      _ = 10 ^ 340 := by rw [← pow_mul]
  calc l.value ≤ 10 ^ l.scale := (value_lt_scale h).le
    _ ≤ 10 ^ (-340 : ℤ) := zpow_le_zpow_right₀ (by norm_num) (by omega)
    _ = (10 ^ 340)⁻¹ := zpow_neg_coe_of_pos _ (by norm_num)
    _ ≤ (2 ^ 1075)⁻¹ := inv_anti₀ (by positivity) hpow
    _ = 2 ^ (-1075 : ℤ) := (zpow_neg_coe_of_pos _ (by norm_num)).symm

/-- The double that is found is the value rounded. -/
theorem nearest_eq_ofRat (h : ∀ d ∈ l.digits, d < 10) : l.nearest = .ofRat l.value := by
  have hvalue := l.value_nonneg
  unfold nearest
  split_ifs with hall hhigh hlow
  · refine ((Binary64.ofRat_eq_zero_iff hvalue).mpr ?_).symm
    rw [value_of_all_zero hall]
    positivity
  · have hle := infinity_le_value (Bool.eq_false_iff.mpr hall) hhigh
    exact ((Binary64.ofRat_eq_infinity_iff hvalue).mpr hle).symm
  · exact ((Binary64.ofRat_eq_zero_iff hvalue).mpr (value_le_smallest h hlow)).symm
  · rfl

end DecimalLiteral

end PinnedRun.Numeric
