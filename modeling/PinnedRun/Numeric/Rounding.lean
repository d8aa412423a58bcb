/-!
# Rounding a quotient to a whole number

`roundHalfEven a b` is the whole number nearest to `a / b`; a quotient half-way between two goes
to the even one. Its laws say that it is at most half a unit away and, on a tie, even.
-/

namespace PinnedRun.Numeric

/-- The whole number nearest to `a / b`, a tie going to the even neighbour. -/
def roundHalfEven (a b : Nat) : Nat :=
  if 2 * (a % b) < b then a / b
  else if b < 2 * (a % b) then a / b + 1
  else if a / b % 2 = 0 then a / b
  else a / b + 1

/-- The rounded number is at most half a unit too low. -/
theorem two_mul_le_roundHalfEven {a b : Nat} (hb : 0 < b) :
    2 * a ≤ 2 * (roundHalfEven a b * b) + b := by
  have h := Nat.div_add_mod a b
  have hc : a / b * b = b * (a / b) := Nat.mul_comm _ _
  have hr := Nat.mod_lt a hb
  unfold roundHalfEven
  split
  · omega
  split
  · rw [Nat.add_mul]; omega
  split
  · omega
  · rw [Nat.add_mul]; omega

/-- The rounded number is at most half a unit too high. -/
theorem roundHalfEven_le {a b : Nat} (hb : 0 < b) :
    2 * (roundHalfEven a b * b) ≤ 2 * a + b := by
  have h := Nat.div_add_mod a b
  have hc : a / b * b = b * (a / b) := Nat.mul_comm _ _
  have hr := Nat.mod_lt a hb
  unfold roundHalfEven
  split
  · omega
  split
  · rw [Nat.add_mul]; omega
  split
  · omega
  · rw [Nat.add_mul]; omega

/-- On a tie the rounded number is even. -/
theorem roundHalfEven_even {a b : Nat} (htie : 2 * (a % b) = b) :
    roundHalfEven a b % 2 = 0 := by
  unfold roundHalfEven
  split
  · omega
  split
  · omega
  split
  · assumption
  · omega

end PinnedRun.Numeric
