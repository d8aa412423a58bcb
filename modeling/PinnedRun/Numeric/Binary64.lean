import PinnedRun.Numeric.Rounding

/-!
# Binary numbers of 64 bits

`Binary64` holds the sign and the 63 bits below it. The 63 bits, read as one number, are the
*magnitude code*: `magnitudeValue` is the exact rational that a code below `infinityCode` stands
for, and it grows with the code.

* `toRat?` is the exact value of a finite number;
* `ofRat` is the number nearest to a rational, a tie going to the even code, beyond the largest
  finite number by half a unit or more an infinity;
* `add`, `sub` and `times` round the exact result once;
* `isPositive` holds of what is greater than zero, infinity included.
-/

namespace PinnedRun.Numeric

/-- The code of infinity: all exponent bits, no fraction bit. -/
def infinityCode : Nat := 2047 * Nat.pow 2 52

/-- The code of the number that is not one. -/
def nanCode : Nat := infinityCode + Nat.pow 2 51

/-- A binary number of 64 bits: its sign bit and the code in the other 63. -/
structure Binary64 where
  negative : Bool
  magnitude : Nat
  magnitude_lt : magnitude < Nat.pow 2 63
deriving DecidableEq

/-- The exact value of a finite code: a multiple of `2 ^ -1074` below the first exponent, then a
significand of 53 bits with a growing exponent. -/
def magnitudeValue (code : Nat) : Rat :=
  let exponent : Nat := code / Nat.pow 2 52
  let fraction : Nat := code % Nat.pow 2 52
  if exponent = 0 then mkRat fraction (Nat.pow 2 1074)
  else mkRat ((Nat.pow 2 52 + fraction) * Nat.pow 2 exponent) (Nat.pow 2 1075)

/-- The exponent of the highest power of two that is at most `a / b`, for positive `a` and `b`. -/
def binaryExponent (a b : Nat) : Int :=
  let k : Int := a.log2 - b.log2
  if b * Nat.pow 2 k.toNat ≤ a * Nat.pow 2 (-k).toNat then k else k - 1

/-- The exponent of the last place of a number near `a / b`: 53 bits, but no place below
`2 ^ -1074`. -/
def placeExponent (a b : Nat) : Int := max (-1074) (binaryExponent a b - 52)

/-- The code of the finite number or infinity nearest to `a / b`. -/
def nearestCode (a b : Nat) : Nat :=
  if a = 0 then 0
  else
    let place := placeExponent a b
    let significand := roundHalfEven (a * Nat.pow 2 (-place).toNat) (b * Nat.pow 2 place.toNat)
    min infinityCode ((place + 1074).toNat * Nat.pow 2 52 + significand)

theorem nearestCode_le (a b : Nat) : nearestCode a b ≤ infinityCode := by
  unfold nearestCode
  split
  · exact Nat.zero_le _
  · exact Nat.min_le_left _ _

namespace Binary64

/-- A number from its sign and a code up to infinity. -/
def ofCode (negative : Bool) (code : Nat) (h : code ≤ infinityCode) : Binary64 :=
  ⟨negative, code, Nat.lt_of_le_of_lt h (by decide)⟩

/-- Zero without a sign. -/
def zero : Binary64 := ofCode false 0 (by decide)

/-- Infinity of a sign. -/
def infinity (negative : Bool) : Binary64 := ofCode negative infinityCode (Nat.le_refl _)

/-- The number that is not one. -/
def nan : Binary64 := ⟨false, nanCode, by decide⟩

instance : Inhabited Binary64 := ⟨zero⟩

/-- All 64 bits. -/
def bits (x : Binary64) : Nat := (if x.negative then Nat.pow 2 63 else 0) + x.magnitude

/-- Neither infinite nor not a number. -/
def isFinite (x : Binary64) : Bool := x.magnitude < infinityCode

/-- One of the two infinities. -/
def isInfinite (x : Binary64) : Bool := x.magnitude == infinityCode

/-- The exact value of a finite number. -/
def toRat? (x : Binary64) : Option Rat :=
  if x.isFinite then
    some (if x.negative then -magnitudeValue x.magnitude else magnitudeValue x.magnitude)
  else none

/-- The number nearest to a rational. -/
def ofRat (q : Rat) : Binary64 :=
  ofCode (q < 0) (nearestCode q.num.natAbs q.den) (nearestCode_le _ _)

/-- The number nearest to an integer. -/
def ofInt (n : Int) : Binary64 := ofRat n

/-- Greater than zero. -/
def isPositive (x : Binary64) : Bool :=
  !x.negative && 0 < x.magnitude && x.magnitude ≤ infinityCode

/-- Less than zero. -/
def isNegative (x : Binary64) : Bool :=
  x.negative && 0 < x.magnitude && x.magnitude ≤ infinityCode

/-- The number with the other sign. -/
def neg (x : Binary64) : Binary64 := { x with negative := !x.negative }

/-- The sum, rounded once. Two infinities of different signs have none. -/
def add (x y : Binary64) : Binary64 :=
  match x.toRat?, y.toRat? with
  | some a, some b =>
    if a + b = 0 then ofCode (x.negative && y.negative) 0 (by decide) else ofRat (a + b)
  | some _, none => y
  | none, some _ => x
  | none, none => if x = y then x else nan

/-- The difference, rounded once. -/
def sub (x y : Binary64) : Binary64 := x.add y.neg

/-- The multiple by a positive whole number, rounded once. -/
def times (x : Binary64) (k : Nat) : Binary64 :=
  match x.toRat? with
  | some a => if a = 0 then x else ofRat (a * k)
  | none => x

/-- A key that orders the numbers other than `nan` by value, both zeros being equal. -/
def orderKey (x : Binary64) : Int := if x.negative then -x.magnitude else x.magnitude

/-- The smaller of two numbers, the first of equal ones. -/
def smaller (x y : Binary64) : Binary64 := if y.orderKey < x.orderKey then y else x

/-- The larger of two numbers, the first of equal ones. -/
def larger (x y : Binary64) : Binary64 := if x.orderKey < y.orderKey then y else x

end Binary64

end PinnedRun.Numeric
