import PinnedRun.Telemetry.Attributes

/-!
# The ledger of metrics

The ledger counts fetches and test runs by their result, and keeps the distribution of three
amounts. Negative amounts are not counted into a distribution.

* `Tally.add` and `Distribution.record` enter one result and one amount;
* `Ledger.metrics` lists what has data, by name.
-/

namespace PinnedRun.Telemetry

open Numeric (Binary64)

/-- The result that a counter distinguishes. -/
inductive Result where
  | success
  | failed
  /-- Failed by a fault of a kind. -/
  | failedBy (errorType : String)
deriving Repr, DecidableEq

namespace Result

/-- The result as attributes. -/
def attributes : Result → Attributes String
  | success => [("status", "success")]
  | failed => [("status", "failed")]
  | failedBy errorType => [("error_type", errorType), ("status", "failed")]

/-- A key that puts results into the order in which they are listed. -/
def key : Result → String
  | success => "status:success"
  | failed => "status:failed"
  | failedBy errorType => "error_type:" ++ errorType

end Result

/-- How often each result came, each result once. -/
abbrev Tally := List (Result × Nat)

namespace Tally

/-- How often a result came. -/
def count (t : Tally) (r : Result) : Nat := ((t.find? (·.1 = r)).map (·.2)).getD 0

/-- One more of a result. -/
def add (t : Tally) (r : Result) : Tally := (r, t.count r + 1) :: t.filter (·.1 ≠ r)

end Tally

/-- Count, sum and range of amounts. -/
structure Distribution (α : Type) where
  count : Nat
  sum : α
  least : α
  greatest : α
deriving Repr, DecidableEq

/-- Enters an amount into a distribution, which is none as long as it is without amounts. -/
def Distribution.record {α : Type} [Add α] [Min α] [Max α] :
    Option (Distribution α) → α → Distribution α
  | none, x => ⟨1, x, x, x⟩
  | some d, x => ⟨d.count + 1, d.sum + x, min d.least x, max d.greatest x⟩

instance : Add Binary64 := ⟨Binary64.add⟩

instance : Min Binary64 := ⟨Binary64.smaller⟩

instance : Max Binary64 := ⟨Binary64.larger⟩

/-- What has been counted and measured. -/
structure Ledger where
  fetches : Tally := []
  fetchLatency : Option (Distribution Binary64) := none
  fetchSize : Option (Distribution Int) := none
  testRuns : Tally := []
  testDuration : Option (Distribution Binary64) := none
deriving DecidableEq

namespace Ledger

/-- Enters a duration, unless it is negative. -/
def recordDuration (d : Option (Distribution Binary64)) (x : Binary64) :
    Option (Distribution Binary64) :=
  if x.isNegative then d else some (Distribution.record d x)

/-- Enters a size, unless it is negative. -/
def recordSize (d : Option (Distribution Int)) (n : Int) : Option (Distribution Int) :=
  if n < 0 then d else some (Distribution.record d n)

/-- A fetch that wrote a number of bytes. -/
def addFetch (l : Ledger) (bytes : Int) (duration : Binary64) : Ledger :=
  { l with
    fetches := l.fetches.add .success
    fetchLatency := recordDuration l.fetchLatency duration
    fetchSize := recordSize l.fetchSize bytes }

/-- A step that failed by a kind of fault; every step but the fetch counts as a test run. -/
def addFailure (l : Ledger) (step errorType : String) : Ledger :=
  if step = "fetch" then { l with fetches := l.fetches.add (.failedBy errorType) }
  else { l with testRuns := l.testRuns.add (.failedBy errorType) }

/-- A test run that ended with an exit code. -/
def addExit (l : Ledger) (exitCode : Int) (duration : Binary64) : Ledger :=
  { l with
    testRuns := l.testRuns.add (if exitCode = 0 then .success else .failed)
    testDuration := recordDuration l.testDuration duration }

end Ledger

/-- What a metric reports. -/
inductive Points where
  | counts (points : List (Attributes String × Nat))
  | distribution (d : Distribution Binary64)
deriving DecidableEq

/-- A metric as it is exported. -/
structure Metric where
  name : String
  unit : String
  description : String
  points : Points
deriving DecidableEq

namespace Ledger

/-- The points of a tally in the order of their attributes, if there are any. -/
def countPoints? (t : Tally) : Option Points :=
  if t = [] then none
  else
    some (.counts ((t.mergeSort fun a b => a.1.key ≤ b.1.key).map fun e => (e.1.attributes, e.2)))

/-- A distribution of whole numbers as one of doubles. -/
def toReal (d : Distribution Int) : Distribution Binary64 :=
  ⟨d.count, .ofInt d.sum, .ofInt d.least, .ofInt d.greatest⟩

/-- The metrics that have data, by name. -/
def metrics (l : Ledger) : List Metric :=
  [(l.fetchLatency.map .distribution).map
      (⟨"toolchain_runner_fetch_latency_ms", "ms",
        "Toolchain pin fetch latency in milliseconds", ·⟩),
    (l.fetchSize.map (.distribution ∘ toReal)).map
      (⟨"toolchain_runner_fetch_size_bytes", "By",
        "Size of the fetched toolchain pin in bytes", ·⟩),
    (countPoints? l.fetches).map
      (⟨"toolchain_runner_fetches_total", "1", "Total number of toolchain pin fetches", ·⟩),
    (l.testDuration.map .distribution).map
      (⟨"toolchain_runner_test_duration_ms", "ms",
        "Test command duration in milliseconds", ·⟩),
    (countPoints? l.testRuns).map
      (⟨"toolchain_runner_test_runs_total", "1", "Total number of test command runs", ·⟩)
  ].filterMap id

end Ledger

end PinnedRun.Telemetry
