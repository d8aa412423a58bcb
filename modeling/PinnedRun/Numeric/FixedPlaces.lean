import PinnedRun.Numeric.Binary64

/-!
# Numbers with a fixed count of places

`fixedPlaces` writes a number with a given count of digits behind the point. The exact value is
rounded once, half to even, and the sign bit is shown also where only zeros are left.
-/

namespace PinnedRun.Numeric

/-- A whole number with `places` of its digits behind the point. -/
def withPoint (places n : Nat) : List Char :=
  let fraction := Nat.toDigits 10 (n % Nat.pow 10 places)
  Nat.toDigits 10 (n / Nat.pow 10 places) ++
    '.' :: (List.replicate (places - fraction.length) '0' ++ fraction)

/-- The number with `places` digits behind the point. -/
def fixedPlaces (places : Nat) (x : Binary64) : String :=
  let sign := if x.negative then "-" else ""
  match x.toRat? with
  | some q =>
    let scaled := roundHalfEven (q.num.natAbs * Nat.pow 10 places) q.den
    sign ++ String.ofList (withPoint places scaled)
  | none => if x.isInfinite then sign ++ "inf" else "nan"

end PinnedRun.Numeric
