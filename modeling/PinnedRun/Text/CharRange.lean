/-!
# Tables of character ranges

A class of characters is given by the ranges of its code points. `CharRange.covers` decides
whether a character falls into one of them.
-/

namespace PinnedRun.Text

/-- The code points from `first` to `last`, both included. -/
structure CharRange where
  first : Nat
  last : Nat
deriving Repr, DecidableEq

namespace CharRange

/-- The character lies in the range. -/
def contains (r : CharRange) (c : Char) : Bool := r.first ≤ c.toNat && c.toNat ≤ r.last

/-- The character lies in one of the ranges. -/
def covers (table : List CharRange) (c : Char) : Bool := table.any (·.contains c)

end CharRange

end PinnedRun.Text
