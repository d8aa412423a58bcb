import PinnedRun.Proofs.Numeric.Magnitude

/-!
# Rounding to the nearest double

* `IsNearestCode q code` : among all codes, those from infinity on taken for numbers as well, none is
  nearer to `q`, and the code is even where another one is as near;
* `Binary64.RoundsTo q x` : the same said of doubles, that is, `x` is the finite double nearest to
  `q`, a tie going to an even significand.

The code that a quotient is rounded to is the nearest one, cut off at infinity
(`nearestCode_eq_min`). In front of a middle between two codes stands what rounds down, and behind it
what rounds up (`IsNearestCode.le_iff_of_even`, `IsNearestCode.le_iff_of_odd`). So zero and infinity
have their shares of the rationals (`Binary64.magnitude_ofRat_eq_zero_iff`,
`Binary64.magnitude_ofRat_eq_infinityCode_iff`), and everything else is rounded to the nearest finite
double (`Binary64.ofRat_roundsTo`).
-/

namespace PinnedRun.Numeric

/-! ### The place of a quotient -/

theorem two_zpow_mul_toNat (k : ℤ) : (2 : ℚ) ^ k * 2 ^ (-k).toNat = 2 ^ k.toNat := by
  rw [← zpow_natCast, ← zpow_natCast, ← zpow_add₀ (by norm_num)]
  congr 1
  omega

theorem two_zpow_le_div_iff {a b : ℕ} (hb : 0 < b) (k : ℤ) :
    (2 : ℚ) ^ k ≤ a / b ↔ b * Nat.pow 2 k.toNat ≤ a * Nat.pow 2 (-k).toNat := by
  have hb' : (0 : ℚ) < b := by exact_mod_cast hb
  have hpos : (0 : ℚ) < 2 ^ (-k).toNat := by positivity
  rw [le_div_iff₀ hb', ← mul_le_mul_iff_left₀ hpos, mul_right_comm, two_zpow_mul_toNat, mul_comm,
    Nat.pow_eq, Nat.pow_eq]
  exact_mod_cast Iff.rfl

/-- The exponent of a quotient is that of the highest power of two that it reaches. -/
theorem binaryExponent_spec {a b : ℕ} (ha : 0 < a) (hb : 0 < b) :
    (2 : ℚ) ^ binaryExponent a b ≤ a / b ∧ (a : ℚ) / b < 2 ^ (binaryExponent a b + 1) := by
  have hb' : (0 : ℚ) < b := by exact_mod_cast hb
  have hlow (n : ℕ) (hn : 0 < n) : (2 : ℚ) ^ (n.log2 : ℤ) ≤ n := by
    exact_mod_cast Nat.log2_self_le hn.ne'
  have hhigh (n : ℕ) : (n : ℚ) < 2 ^ ((n.log2 : ℤ) + 1) := by
    exact_mod_cast Nat.lt_log2_self
  set k : ℤ := a.log2 - b.log2 with hk
  have hupper : (a : ℚ) / b < 2 ^ (k + 1) := by
    rw [div_lt_iff₀ hb']
    calc (a : ℚ) < 2 ^ ((a.log2 : ℤ) + 1) := hhigh a
      _ = 2 ^ (k + 1) * 2 ^ (b.log2 : ℤ) := by rw [← zpow_add₀ (by norm_num)]; congr 1; omega
      _ ≤ 2 ^ (k + 1) * b := by gcongr; exact hlow b hb
  have hlower : (2 : ℚ) ^ (k - 1) ≤ a / b := by
    rw [le_div_iff₀ hb']
    calc (2 : ℚ) ^ (k - 1) * b ≤ 2 ^ (k - 1) * 2 ^ ((b.log2 : ℤ) + 1) := by
          gcongr; exact (hhigh b).le
      _ = 2 ^ (a.log2 : ℤ) := by rw [← zpow_add₀ (by norm_num)]; congr 1; omega
      _ ≤ a := hlow a ha
  have hexp : binaryExponent a b = if (2 : ℚ) ^ k ≤ a / b then k else k - 1 := by
    rw [binaryExponent, ← hk]
    exact if_congr (two_zpow_le_div_iff hb k).symm rfl rfl
  by_cases h : (2 : ℚ) ^ k ≤ a / b
  · rw [hexp, if_pos h]
    exact ⟨h, hupper⟩
  · rw [hexp, if_neg h, sub_add_cancel]
    exact ⟨hlower, not_le.mp h⟩

/-! ### Rounding to a whole number -/

theorem roundHalfEven_eq_or (a b : ℕ) :
    roundHalfEven a b = a / b ∨ roundHalfEven a b = a / b + 1 := by
  unfold roundHalfEven
  grind

/-- A number half a unit away is even. -/
theorem roundHalfEven_even_of_dist {a b : ℕ} (hb : 0 < b)
    (h : |(a : ℚ) / b - roundHalfEven a b| = 1 / 2) : roundHalfEven a b % 2 = 0 := by
  refine roundHalfEven_even ?_
  have hb' : (0 : ℚ) < b := by exact_mod_cast hb
  have hdiv : (a : ℚ) / b = (a / b : ℕ) + (a % b : ℕ) / (b : ℚ) := by
    rw [div_eq_iff hb'.ne', add_mul, div_mul_cancel₀ _ hb'.ne']
    exact_mod_cast (Nat.div_add_mod' a b).symm
  have hrem : (a % b : ℕ) / (b : ℚ) = 1 / 2 := by
    obtain hr | hr := roundHalfEven_eq_or a b
    · rw [hdiv, hr, add_sub_cancel_left] at h
      rwa [abs_of_nonneg (by positivity)] at h
    · have hlt : (a % b : ℕ) / (b : ℚ) < 1 := by
        rw [div_lt_one hb']
        exact_mod_cast Nat.mod_lt a hb
      rw [hdiv, hr, abs_eq (by norm_num)] at h
      push_cast at h hlt ⊢
      obtain h | h := h <;> linarith
  rw [div_eq_div_iff hb'.ne' (by norm_num)] at hrem
  have : (a % b) * 2 = 1 * b := by exact_mod_cast hrem
  omega

/-- The rounded quotient is at most half a unit away. -/
theorem abs_sub_roundHalfEven_le (a : ℕ) {b : ℕ} (hb : 0 < b) :
    |(a : ℚ) / b - roundHalfEven a b| ≤ 1 / 2 := by
  have hb' : (0 : ℚ) < b := by exact_mod_cast hb
  have hlow : (2 * a : ℚ) ≤ 2 * (roundHalfEven a b * b) + b := by
    exact_mod_cast two_mul_le_roundHalfEven hb
  have hhigh : 2 * (roundHalfEven a b * b : ℚ) ≤ 2 * a + b := by
    exact_mod_cast roundHalfEven_le hb
  rw [abs_le]
  constructor
  · rw [neg_le_sub_iff_le_add, ← sub_le_iff_le_add, le_div_iff₀ hb']
    linarith
  · rw [sub_le_iff_le_add, div_le_iff₀ hb']
    linarith

/-- No whole number is nearer to the quotient, and the rounded one is even where another one is as
near. -/
theorem roundHalfEven_nearest (a : ℕ) {b : ℕ} (hb : 0 < b) (t : ℕ) :
    |(a : ℚ) / b - roundHalfEven a b| ≤ |(a : ℚ) / b - t| ∧
      (|(a : ℚ) / b - roundHalfEven a b| = |(a : ℚ) / b - t| →
        roundHalfEven a b % 2 = 0 ∨ t = roundHalfEven a b) := by
  by_cases ht : t = roundHalfEven a b
  · exact ⟨by rw [ht], fun _ => .inr ht⟩
  have hhalf := abs_sub_roundHalfEven_le a hb
  have hone : (1 : ℚ) ≤ |(t : ℚ) - roundHalfEven a b| := by
    have hne : (t : ℤ) - roundHalfEven a b ≠ 0 := by omega
    exact_mod_cast Int.one_le_abs hne
  have htri : |(t : ℚ) - roundHalfEven a b| ≤
      |(a : ℚ) / b - roundHalfEven a b| + |(a : ℚ) / b - t| := by
    have h := abs_sub ((a : ℚ) / b - roundHalfEven a b) ((a : ℚ) / b - t)
    rwa [sub_sub_sub_cancel_left] at h
  refine ⟨by linarith, fun heq => .inl (roundHalfEven_even_of_dist hb ?_)⟩
  linarith

/-! ### The nearest code -/

/-- No code stands for a number nearer to `q`, and this one is even where another one is as near. -/
def IsNearestCode (q : ℚ) (code : ℕ) : Prop :=
  ∀ n, |q - magnitudeValue code| ≤ |q - magnitudeValue n| ∧
    (|q - magnitudeValue code| = |q - magnitudeValue n| → code % 2 = 0 ∨ n = code)

/-- Counted in units of the last place, a quotient has 53 binary digits in front of the point, or
fewer if the place is the lowest one. -/
theorem exists_scaled {a b : ℕ} (ha : 0 < a) (hb : 0 < b) :
    ∃ k : ℕ, placeExponent a b = k - 1074 ∧
      let u := a * Nat.pow 2 (-placeExponent a b).toNat
      let v := b * Nat.pow 2 (placeExponent a b).toNat
      0 < v ∧ (a : ℚ) / b = u / v * placeValue k ∧ (u : ℚ) / v < 2 * 2 ^ 52 ∧
        (k = 0 ∨ (2 : ℚ) ^ 52 ≤ u / v) := by
  obtain ⟨hlow, hhigh⟩ := binaryExponent_spec ha hb
  have hplace : placeExponent a b = max (-1074) (binaryExponent a b - 52) := rfl
  obtain ⟨k, hk⟩ : ∃ k : ℕ, placeExponent a b = k - 1074 :=
    ⟨(placeExponent a b + 1074).toNat, by omega⟩
  refine ⟨k, hk, ?_⟩
  intro u v
  have hv : 0 < v := Nat.mul_pos hb (Nat.pow_pos (by norm_num))
  have hscaled : (a : ℚ) / b = u / v * placeValue k := by
    have hv' : (v : ℚ) ≠ 0 := by exact_mod_cast hv.ne'
    have hb' : (b : ℚ) ≠ 0 := by exact_mod_cast hb.ne'
    rw [div_mul_eq_mul_div, div_eq_div_iff hb' hv', placeValue, ← hk]
    simp only [u, v, Nat.pow_eq]
    push_cast
    rw [← two_zpow_mul_toNat]
    ring
  refine ⟨hv, hscaled, ?_, ?_⟩
  · rw [← mul_lt_mul_iff_left₀ (placeValue_pos k), ← hscaled]
    refine hhigh.trans_le ?_
    rw [placeValue, show (2 : ℚ) * 2 ^ 52 = 2 ^ (53 : ℤ) by norm_num, ← zpow_add₀ (by norm_num)]
    exact zpow_le_zpow_right₀ (by norm_num) (by omega)
  · by_cases hk0 : k = 0
    · exact .inl hk0
    · right
      rw [← mul_le_mul_iff_left₀ (placeValue_pos k), ← hscaled]
      refine le_trans (le_of_eq ?_) hlow
      rw [placeValue, show (2 : ℚ) ^ 52 = 2 ^ (52 : ℤ) by norm_num, ← zpow_add₀ (by norm_num)]
      congr 1
      omega

/-- A number of units of the last place is rounded to the nearest code: with 53 binary digits in
front of the point, or fewer if the place is the lowest one, no number with a higher or a lower place
is nearer than the rounded one. -/
theorem isNearestCode_scaled {u v k : ℕ} (hv : 0 < v) (hlt : (u : ℚ) / v < 2 * 2 ^ 52)
    (hge : k = 0 ∨ (2 : ℚ) ^ 52 ≤ u / v) :
    IsNearestCode (u / v * placeValue k) (k * 2 ^ 52 + roundHalfEven u v) := by
  set m := roundHalfEven u v with hm
  have hhalf := abs_le.mp (abs_sub_roundHalfEven_le u hv)
  have hmlt : m ≤ 2 * 2 ^ 52 := by
    have : (m : ℚ) < 2 * 2 ^ 52 + 1 := by linarith
    exact Nat.lt_succ_iff.mp (by exact_mod_cast this)
  have hmge : k = 0 ∨ 2 ^ 52 ≤ m := by
    refine hge.imp_right fun hge => ?_
    have : (2 : ℚ) ^ 52 < m + 1 := by linarith
    exact Nat.lt_succ_iff.mp (by exact_mod_cast this)
  intro n
  obtain ⟨j, t, rfl, ht, hj⟩ := exists_block n
  have hpos := placeValue_pos k
  have hdist : ∀ x : ℚ,
      |(u : ℚ) / v * placeValue k - x * placeValue k| = |u / v - x| * placeValue k := by
    intro x
    rw [← sub_mul, abs_mul, abs_of_pos hpos]
  rw [magnitudeValue_grid hmlt hmge, magnitudeValue_grid ht.le hj, hdist]
  by_cases hkj : k ≤ j
  · -- the other number is a multiple of the place
    obtain ⟨i, rfl⟩ := Nat.exists_eq_add_of_le hkj
    have hother : (t : ℚ) * placeValue (k + i) = (t * 2 ^ i : ℕ) * placeValue k := by
      rw [placeValue_add]
      push_cast
      ring
    rw [hother, hdist, mul_le_mul_iff_left₀ hpos, mul_left_inj' hpos.ne']
    obtain ⟨hle, htie⟩ := roundHalfEven_nearest u hv (t * 2 ^ i)
    refine ⟨hle, fun heq => (htie heq).imp (fun heven => by omega) fun hsame => ?_⟩
    refine magnitudeValue_strictMono.injective ?_
    rw [magnitudeValue_grid hmlt hmge, magnitudeValue_grid ht.le hj, hother, hsame]
  · -- the other number is below the least one with this place
    obtain ⟨i, rfl⟩ := Nat.exists_eq_add_of_lt (not_le.mp hkj)
    have hge : (2 : ℚ) ^ 52 ≤ u / v := hge.resolve_left (by omega)
    obtain ⟨y, hother, hy⟩ := exists_below j i ht
    have hleast := (roundHalfEven_nearest u hv (2 ^ 52)).1
    rw [Nat.cast_pow, Nat.cast_ofNat] at hleast
    have hlt : |(u : ℚ) / v - m| < |(u : ℚ) / v - y| := by
      rw [abs_of_nonneg (sub_nonneg.mpr hge)] at hleast
      rw [abs_of_pos (sub_pos.mpr (hy.trans_le hge))]
      exact hleast.trans_lt (sub_lt_sub_left hy _)
    rw [hother, hdist, mul_le_mul_iff_left₀ hpos, mul_left_inj' hpos.ne']
    exact ⟨hlt.le, fun heq => absurd heq hlt.ne⟩

/-- The code that is found is the nearest one of all codes, cut off at infinity. -/
theorem nearestCode_eq_min (a : ℕ) {b : ℕ} (hb : 0 < b) :
    ∃ code, nearestCode a b = min infinityCode code ∧ IsNearestCode (a / b) code := by
  obtain rfl | ha := Nat.eq_zero_or_pos a
  · refine ⟨0, by simp [nearestCode], fun n => ⟨?_, fun _ => .inl rfl⟩⟩
    have hzero : magnitudeValue 0 = 0 := by simpa using magnitudeValue_of_lt (m := 0) (by norm_num)
    simp [hzero]
  obtain ⟨k, hk, hv, hscaled, hlt, hge⟩ := exists_scaled ha hb
  have hk' : (placeExponent a b + 1074).toNat = k := by omega
  rw [hscaled]
  refine ⟨_, ?_, isNearestCode_scaled hv hlt hge⟩
  rw [nearestCode, if_neg ha.ne', ← hk']
  rfl

namespace IsNearestCode

variable {q : ℚ} {code n : ℕ}

/-- Below the middle to the next code, and at the middle if the code is even, nothing above it is
nearest. -/
theorem le_of_le_midpoint (h : IsNearestCode q code) (hq : q ≤ midpoint n)
    (htie : q = midpoint n → n % 2 = 0) : code ≤ n := by
  by_contra hcode
  have hcode : n + 1 ≤ code := by omega
  have hgap : magnitudeValue n < magnitudeValue (n + 1) :=
    magnitudeValue_strictMono (Nat.lt_succ_self n)
  have habove : magnitudeValue (n + 1) ≤ magnitudeValue code :=
    magnitudeValue_strictMono.monotone hcode
  obtain ⟨hle, heven⟩ := h n
  rw [midpoint] at hq htie
  have hfar : |q - magnitudeValue code| = magnitudeValue code - q := by
    rw [abs_of_nonpos (by linarith), neg_sub]
  have hnear : |q - magnitudeValue n| ≤ magnitudeValue (n + 1) - q :=
    abs_le.mpr ⟨by linarith, by linarith⟩
  have hnext : code = n + 1 :=
    magnitudeValue_strictMono.injective (le_antisymm (by linarith) habove)
  have htie' : q = (magnitudeValue n + magnitudeValue (n + 1)) / 2 := by
    obtain hn | hn := le_abs'.mp (hfar ▸ hle) <;> linarith
  have := heven (le_antisymm hle (by linarith))
  have := htie htie'
  omega

/-- Above the middle to the next code, and at the middle if the code is odd, nothing up to it is
nearest. -/
theorem lt_of_midpoint_le (h : IsNearestCode q code) (hq : midpoint n ≤ q)
    (htie : q = midpoint n → n % 2 = 1) : n < code := by
  by_contra hcode
  have hcode : code ≤ n := by omega
  have hgap : magnitudeValue n < magnitudeValue (n + 1) :=
    magnitudeValue_strictMono (Nat.lt_succ_self n)
  have hbelow : magnitudeValue code ≤ magnitudeValue n :=
    magnitudeValue_strictMono.monotone hcode
  obtain ⟨hle, heven⟩ := h (n + 1)
  rw [midpoint] at hq htie
  have hfar : |q - magnitudeValue code| = q - magnitudeValue code := by
    rw [abs_of_nonneg (by linarith)]
  have hnear : |q - magnitudeValue (n + 1)| ≤ q - magnitudeValue n :=
    abs_le.mpr ⟨by linarith, by linarith⟩
  have hsame : code = n :=
    magnitudeValue_strictMono.injective (le_antisymm hbelow (by linarith))
  have htie' : q = (magnitudeValue n + magnitudeValue (n + 1)) / 2 := by
    obtain hn | hn := le_abs'.mp (hfar ▸ hle) <;> linarith
  have := heven (le_antisymm hle (by linarith))
  have := htie htie'
  omega

/-- An even code keeps what lies in the middle to the next one. -/
theorem le_iff_of_even (h : IsNearestCode q code) (hn : n % 2 = 0) :
    code ≤ n ↔ q ≤ midpoint n := by
  refine ⟨fun hcode => ?_, fun hq => h.le_of_le_midpoint hq fun _ => hn⟩
  by_contra hq
  have := h.lt_of_midpoint_le (not_le.mp hq).le fun he => absurd he (not_le.mp hq).ne'
  omega

/-- An odd code leaves to the next one what lies in the middle. -/
theorem le_iff_of_odd (h : IsNearestCode q code) (hn : n % 2 = 1) :
    code ≤ n ↔ q < midpoint n := by
  refine ⟨fun hcode => ?_, fun hq => h.le_of_le_midpoint hq.le fun he => absurd he hq.ne⟩
  by_contra hq
  have := h.lt_of_midpoint_le (not_lt.mp hq) fun _ => hn
  omega

end IsNearestCode

/-- What rounds to zero. -/
theorem nearestCode_eq_zero_iff (a : ℕ) {b : ℕ} (hb : 0 < b) :
    nearestCode a b = 0 ↔ (a : ℚ) / b ≤ 2 ^ (-1075 : ℤ) := by
  obtain ⟨code, hcode, hnearest⟩ := nearestCode_eq_min a hb
  have hinf : infinityCode ≠ 0 := by decide
  rw [← midpoint_zero, ← hnearest.le_iff_of_even rfl, hcode]
  omega

/-- What rounds to infinity. -/
theorem nearestCode_eq_infinityCode_iff (a : ℕ) {b : ℕ} (hb : 0 < b) :
    nearestCode a b = infinityCode ↔ (2 : ℚ) ^ 1024 - 2 ^ 970 ≤ a / b := by
  obtain ⟨code, hcode, hnearest⟩ := nearestCode_eq_min a hb
  have hinf : 0 < infinityCode := by decide
  rw [← midpoint_last, ← not_lt, ← hnearest.le_iff_of_odd (by decide), hcode]
  omega

/-! ### Rounding a rational -/

namespace Binary64

/-- The finite number nearest to a rational, a tie going to an even significand. -/
def RoundsTo (q : ℚ) (x : Binary64) : Prop :=
  ∃ v, x.toRat? = some v ∧ ∀ (y : Binary64) (u : ℚ), y.toRat? = some u →
    |q - v| ≤ |q - u| ∧ (|q - v| = |q - u| → x.magnitude % 2 = 0 ∨ u = v)

variable {q : ℚ}

theorem natAbs_num_div_den (hq : 0 ≤ q) : (q.num.natAbs : ℚ) / q.den = q := by
  have hnum : ((q.num.natAbs : ℤ) : ℚ) = q.num := by
    rw [Int.natAbs_of_nonneg (Rat.num_nonneg.mpr hq)]
  rw [← Int.cast_natCast, hnum, Rat.num_div_den]

theorem magnitude_ofRat_eq_zero_iff (hq : 0 ≤ q) :
    (ofRat q).magnitude = 0 ↔ q ≤ 2 ^ (-1075 : ℤ) := by
  conv_rhs => rw [← natAbs_num_div_den hq]
  exact nearestCode_eq_zero_iff _ q.den_pos

theorem magnitude_ofRat_eq_infinityCode_iff (hq : 0 ≤ q) :
    (ofRat q).magnitude = infinityCode ↔ 2 ^ 1024 - 2 ^ 970 ≤ q := by
  conv_rhs => rw [← natAbs_num_div_den hq]
  exact nearestCode_eq_infinityCode_iff _ q.den_pos

theorem negative_ofRat (hq : 0 ≤ q) : (ofRat q).negative = false :=
  decide_eq_false (not_lt.mpr hq)

/-- Of the doubles without minus sign the magnitude tells which one is found. -/
theorem ofRat_eq_iff (hq : 0 ≤ q) {x : Binary64} (hx : x.negative = false) :
    ofRat q = x ↔ (ofRat q).magnitude = x.magnitude := by
  refine ⟨congrArg _, fun h => ?_⟩
  have hsign := negative_ofRat hq
  generalize ofRat q = y at h hsign
  obtain ⟨negative, magnitude, _⟩ := y
  obtain ⟨negative', magnitude', _⟩ := x
  subst h hx hsign
  rfl

theorem ofRat_eq_zero_iff (hq : 0 ≤ q) : ofRat q = zero ↔ q ≤ 2 ^ (-1075 : ℤ) :=
  (ofRat_eq_iff hq rfl).trans (magnitude_ofRat_eq_zero_iff hq)

theorem ofRat_eq_infinity_iff (hq : 0 ≤ q) :
    ofRat q = infinity false ↔ 2 ^ 1024 - 2 ^ 970 ≤ q :=
  (ofRat_eq_iff hq rfl).trans (magnitude_ofRat_eq_infinityCode_iff hq)

theorem ofRat_roundsTo (hq : 0 < q) (hfinite : q < 2 ^ 1024 - 2 ^ 970) :
    RoundsTo q (ofRat q) := by
  obtain ⟨code, hcode, hnearest⟩ := nearestCode_eq_min q.num.natAbs q.den_pos
  rw [natAbs_num_div_den hq.le] at hnearest
  have hmag : (ofRat q).magnitude = min infinityCode code := hcode
  have hlt : code < infinityCode := by
    by_contra hge
    have := (magnitude_ofRat_eq_infinityCode_iff hq.le).mp (by omega)
    exact absurd this (not_le.mpr hfinite)
  have hmag : (ofRat q).magnitude = code := by omega
  have hneg := negative_ofRat hq.le
  refine ⟨magnitudeValue code, ?_, fun y u hu => ?_⟩
  · simp [toRat?, isFinite, hmag, hneg, hlt]
  · rw [hmag]
    obtain ⟨hle, htie⟩ := hnearest y.magnitude
    have hn := magnitudeValue_nonneg y.magnitude
    unfold toRat? at hu
    split at hu
    · obtain rfl := Option.some.inj hu
      by_cases hy : y.negative = true
      · -- below zero a number of this magnitude is farther away
        have hbelow : |q - -magnitudeValue y.magnitude| = q + magnitudeValue y.magnitude := by
          rw [sub_neg_eq_add, abs_of_nonneg (by linarith)]
        have hfar : |q - magnitudeValue y.magnitude| ≤ q + magnitudeValue y.magnitude :=
          abs_le.mpr ⟨by linarith, by linarith⟩
        rw [if_pos hy, hbelow]
        refine ⟨hle.trans hfar, fun heq => (htie (by linarith)).imp_right fun h => ?_⟩
        rw [h] at hfar hle heq ⊢
        obtain hv | hv := abs_cases (q - magnitudeValue code) <;> linarith
      · rw [if_neg hy]
        exact ⟨hle, fun heq => (htie heq).imp_right fun h => by rw [h]⟩
    · cases hu

theorem isPositive_ofRat_iff (hq : 0 ≤ q) :
    (ofRat q).isPositive = true ↔ 2 ^ (-1075 : ℤ) < q := by
  have hle : (ofRat q).magnitude ≤ infinityCode := nearestCode_le _ _
  rw [← not_le, ← magnitude_ofRat_eq_zero_iff hq, isPositive, negative_ofRat hq]
  simp [hle, Nat.pos_iff_ne_zero]

/-- What is greater than zero is infinity or has a value that is greater than zero. -/
theorem eq_infinity_or_toRat?_pos {x : Binary64} (h : x.isPositive = true) :
    x = infinity false ∨ ∃ r, x.toRat? = some r ∧ 0 < r := by
  simp only [isPositive, Bool.and_eq_true, Bool.not_eq_true', decide_eq_true_eq] at h
  obtain ⟨⟨hsign, hpos⟩, hle⟩ := h
  obtain hlt | heq := Nat.lt_or_eq_of_le hle
  · refine .inr ⟨magnitudeValue x.magnitude, by simp [toRat?, isFinite, hlt, hsign], ?_⟩
    exact (magnitudeValue_nonneg 0).trans_lt (magnitudeValue_strictMono hpos)
  · obtain ⟨negative, magnitude, _⟩ := x
    subst hsign heq
    exact .inl rfl

end Binary64

end PinnedRun.Numeric
