import PinnedRun.Keyed
import PinnedRun.Numeric.Binary64
import PinnedRun.Text.Blank
import PinnedRun.Text.Split

/-!
# Attributes

Attributes are named values; setting a name again replaces its value.

* `Attributes.get?` is the view of attributes and `get?_set` says what setting a name does to it, so
  of names that are set in turn the last value of each stays (`get?_setAll`);
* `Attributes.ofCommaList` reads the attributes in a list `key=value,key=value`, where the last
  value of a key wins and a piece without equals sign says nothing.
-/

namespace PinnedRun.Telemetry

/-- Named values, each name once. -/
abbrev Attributes (α : Type) := List (String × α)

/-- A value that a span carries. -/
inductive AttributeValue where
  | text (s : String)
  | integer (n : Int)
  | flag (b : Bool)
  | real (x : Numeric.Binary64)
deriving DecidableEq

namespace Attributes

variable {α : Type}

/-- The value of a name. -/
def get? (attributes : Attributes α) (name : String) : Option α :=
  (attributes.find? (·.1 = name)).map (·.2)

/-- Gives a name a value. -/
def set (attributes : Attributes α) (name : String) (value : α) : Attributes α :=
  (name, value) :: attributes.filter (·.1 ≠ name)

/-- Gives names their values in turn. -/
def setAll (attributes : Attributes α) (pairs : List (String × α)) : Attributes α :=
  pairs.foldl (fun a p => a.set p.1 p.2) attributes

/-- Only the name that is set changes its value. -/
theorem get?_set (attributes : Attributes α) (name : String) (value : α) (other : String) :
    (attributes.set name value).get? other =
      if other = name then some value else attributes.get? other := by
  by_cases h : other = name
  · simp [get?, set, h]
  · simp only [get?, set, List.find?_cons, Ne.symm h, decide_false, h, if_false]
    exact congrArg _ (Keyed.find?_filter_ne h)

theorem get?_cons (name : String) (value : α) (attributes : Attributes α) (other : String) :
    get? ((name, value) :: attributes) other =
      if name = other then some value else get? attributes other := by
  by_cases h : name = other <;> simp [get?, h]

theorem get?_append (attributes more : Attributes α) (name : String) :
    get? (attributes ++ more) name = (get? attributes name).or (get? more name) := by
  rw [get?, List.find?_append, Option.map_or]
  rfl

/-- Without the pairs of a name only this name has no value. -/
theorem get?_filter_ne (attributes : Attributes α) (name other : String) :
    get? (attributes.filter (·.1 ≠ name)) other =
      if other = name then none else attributes.get? other := by
  by_cases h : other = name
  · rw [if_pos h, get?, Option.map_eq_none_iff, List.find?_eq_none]
    simp +contextual [h]
  · rw [if_neg h]
    exact congrArg _ (Keyed.find?_filter_ne h)

theorem setAll_append (attributes : Attributes α) (pairs more : List (String × α)) :
    attributes.setAll (pairs ++ more) = (attributes.setAll pairs).setAll more :=
  List.foldl_append

/-- Of names that are set in turn the last value of each stays. -/
theorem get?_setAll (attributes : Attributes α) (pairs : List (String × α)) (name : String) :
    (attributes.setAll pairs).get? name =
      (get? pairs.reverse name).or (attributes.get? name) := by
  induction pairs generalizing attributes with
  | nil => rfl
  | cons p pairs ih =>
    have hstep : attributes.setAll (p :: pairs) = (attributes.set p.1 p.2).setAll pairs := rfl
    rw [hstep, ih, get?_set, List.reverse_cons, get?_append, get?_cons]
    by_cases h : name = p.1
    · simp [h]
    · simp [h, Ne.symm h, get?]

theorem unique_setAll {attributes : Attributes α} (h : Keyed.Unique attributes)
    (pairs : List (String × α)) : Keyed.Unique (attributes.setAll pairs) := by
  induction pairs generalizing attributes with
  | nil => exact h
  | cons p pairs ih => exact ih (h.cons_filter p.1 p.2)

/-- The key and the value in a piece of a list, without the blanks around them. -/
def ofPiece? (piece : List Char) : Option (String × String) :=
  (Text.cutFirst? '=' piece).map fun (key, value) =>
    (String.ofList (Text.trim Text.isBlank key), String.ofList (Text.trim Text.isBlank value))

/-- The pairs in a list, in order. -/
def pairsOfCommaList (list : String) : List (String × String) :=
  (Text.pieces ',' list.toList).filterMap ofPiece?

/-- Attributes with those of a list set over them. -/
def ofCommaList (attributes : Attributes String) (list : String) : Attributes String :=
  attributes.setAll (pairsOfCommaList list)

end Attributes

end PinnedRun.Telemetry
