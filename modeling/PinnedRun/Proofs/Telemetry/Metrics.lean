import PinnedRun.Telemetry.Ledger

/-!
# Reading metrics

What is delivered is read by name: `valueAt` is the value of a counter at a point, `samples` the
number of amounts of a distribution. Read this way the metrics of a ledger tell what the ledger
holds (`valueAt_fetches`, `valueAt_testRuns`, `samples_fetchLatency` and their like), as long as its
tallies have each result once.

* `Tally.value?` is the value at a result, if it came; `count_add` says what one more of a result
  does to how often results came;
* `Ledger.Unique l` : the tallies of the ledger have each result once.
-/

namespace PinnedRun.Telemetry

/-- The value at the point with some attributes. -/
def Points.value? : Points → Attributes String → Option Nat
  | counts points, attributes => (points.find? (·.1 = attributes)).map (·.2)
  | distribution _, _ => none

/-- How many amounts there are. -/
def Points.samples : Points → Nat
  | counts _ => 0
  | distribution d => d.count

/-- What a metric reports. -/
def points? (ms : List Metric) (name : String) : Option Points :=
  (ms.find? (·.name = name)).map (·.points)

/-- The value of a counter at the point with some attributes. -/
def valueAt (ms : List Metric) (name : String) (attributes : Attributes String) : Option Nat :=
  (points? ms name).bind (·.value? attributes)

/-- How many amounts a distribution holds. -/
def samples (ms : List Metric) (name : String) : Nat := ((points? ms name).map (·.samples)).getD 0

/-! ### Tallies -/

namespace Tally

/-- How often a result came, if it came. -/
def value? (t : Tally) (r : Result) : Option Nat := (t.find? (·.1 = r)).map (·.2)

theorem unique_add {t : Tally} (h : Keyed.Unique t) (r : Result) : Keyed.Unique (t.add r) :=
  h.cons_filter r _

/-- One more of a result. -/
theorem count_add (t : Tally) (r other : Result) :
    (t.add r).count other = t.count other + if r = other then 1 else 0 := by
  by_cases h : r = other
  · subst h
    simp [count, add]
  · simp only [count, add, List.find?_cons, h, decide_false, if_false, Nat.add_zero]
    exact congrArg (fun e => (e.map (·.2)).getD 0) (Keyed.find?_filter_ne (Ne.symm h))

/-- A result that came once has the value 1. -/
theorem value?_eq_one_iff (t : Tally) (r : Result) : t.value? r = some 1 ↔ t.count r = 1 := by
  unfold value? count
  cases (t.find? (·.1 = r)).map (·.2) <;> simp

end Tally

theorem Result.attributes_injective {r other : Result} (h : r.attributes = other.attributes) :
    r = other := by
  cases r <;> cases other <;> simp_all [attributes]

/-! ### Ledgers -/

namespace Ledger

theorem value?_countPoints {t : Tally} (h : Keyed.Unique t) (r : Result) :
    (countPoints? t).bind (·.value? r.attributes) = t.value? r := by
  unfold countPoints?
  split
  · rename_i hn
    rw [hn]
    rfl
  · rw [Option.bind_some, Points.value?, Keyed.find?_map_key Result.attributes_injective,
      Option.map_map, ← Keyed.find?_perm h (List.mergeSort_perm ..).symm]
    rfl

theorem points?_cons {α : Type} {o : Option α} {f : α → Metric} {n : String}
    {os : List (Option Metric)} {name : String} (hn : ∀ x, (f x).name = n) :
    points? ((o.map f :: os).filterMap id) name =
      if n = name then (o.map fun x => (f x).points).or (points? (os.filterMap id) name)
      else points? (os.filterMap id) name := by
  cases o with
  | none => simp
  | some x =>
    by_cases h : n = name
    · simp [points?, hn, h]
    · simp [points?, hn, h]

/-- What the metrics of a ledger report, by name. -/
theorem points?_metrics (l : Ledger) (name : String) :
    points? l.metrics name =
      if name = "toolchain_runner_fetch_latency_ms" then l.fetchLatency.map .distribution
      else if name = "toolchain_runner_fetch_size_bytes" then
        l.fetchSize.map (.distribution ∘ toReal)
      else if name = "toolchain_runner_fetches_total" then countPoints? l.fetches
      else if name = "toolchain_runner_test_duration_ms" then l.testDuration.map .distribution
      else if name = "toolchain_runner_test_runs_total" then countPoints? l.testRuns
      else none := by
  unfold metrics
  rw [points?_cons (n := "toolchain_runner_fetch_latency_ms"),
    points?_cons (n := "toolchain_runner_fetch_size_bytes"),
    points?_cons (n := "toolchain_runner_fetches_total"),
    points?_cons (n := "toolchain_runner_test_duration_ms"),
    points?_cons (n := "toolchain_runner_test_runs_total")]
  · -- no name stands twice, so what comes after the metric with the name reports nothing under it
    have hnil : points? (List.filterMap id []) name = none := rfl
    simp only [hnil, Option.or_none, eq_comm (a := name), Option.map_map]
    repeat'
      split
      · rename_i h
        subst h
        simp [Option.map_id', Function.comp_def]
    rfl
  all_goals exact fun _ => rfl

/-- The tallies have each result once. -/
structure Unique (l : Ledger) : Prop where
  fetches : Keyed.Unique l.fetches
  testRuns : Keyed.Unique l.testRuns

theorem unique_empty : Unique {} := ⟨List.nodup_nil, List.nodup_nil⟩

variable {l : Ledger}

theorem valueAt_fetches (h : l.Unique) (r : Result) :
    valueAt l.metrics "toolchain_runner_fetches_total" r.attributes = l.fetches.value? r := by
  rw [valueAt, points?_metrics]
  exact value?_countPoints h.fetches r

theorem valueAt_testRuns (h : l.Unique) (r : Result) :
    valueAt l.metrics "toolchain_runner_test_runs_total" r.attributes = l.testRuns.value? r := by
  rw [valueAt, points?_metrics]
  exact value?_countPoints h.testRuns r

theorem samples_fetchLatency (l : Ledger) :
    samples l.metrics "toolchain_runner_fetch_latency_ms" =
      (l.fetchLatency.map (·.count)).getD 0 := by
  rw [samples, points?_metrics, if_pos rfl, Option.map_map]
  rfl

theorem samples_fetchSize (l : Ledger) :
    samples l.metrics "toolchain_runner_fetch_size_bytes" =
      (l.fetchSize.map (·.count)).getD 0 := by
  rw [samples, points?_metrics, if_neg (by decide), if_pos rfl, Option.map_map]
  rfl

end Ledger

end PinnedRun.Telemetry
