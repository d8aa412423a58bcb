import PinnedRun.Proofs.Telemetry.Restart

/-!
# Metrics count what is recorded

What telemetry delivers at the stop counts every record of the session once, under its result, and
measures every amount that is not negative once (`session_counts`). The tallies are conserved along
entries: each entry adds one to the value of its result and to no other.

* `Counts es ms` : the metrics `ms` count and measure the entries `es`, and nothing else;
* `summary xs` are count, sum and range of a list of amounts.
-/

namespace PinnedRun.Telemetry

open Numeric (Binary64)

/-! ### What the records of a session come to -/

/-- The value of a counter for something that came `n` times; a counter has no value for what never
came. -/
def counted (n : Nat) : Option Nat := if n = 0 then none else some n

/-- Count, sum and range of amounts, unless there are none. -/
def summary {α : Type} [Add α] [Min α] [Max α] : List α → Option (Distribution α)
  | [] => none
  | x :: xs => some ⟨xs.length + 1, xs.foldl (· + ·) x, xs.foldl min x, xs.foldl max x⟩

namespace Entry

/-- The entry is one of a fetch that succeeded. -/
def isFetch : Entry → Bool
  | fetch _ _ => true
  | _ => false

/-- The entry is one of a step that is not the fetch and failed by a kind of fault. -/
def breaksBy (errorType : String) : Entry → Bool
  | failure step kind => step ≠ "fetch" && kind = errorType
  | _ => false

/-- The entry is one of a test run with an exit code of a kind. -/
def exits (p : Int → Bool) : Entry → Bool
  | exit exitCode _ => p exitCode
  | _ => false

/-- The time that a fetch took, unless it is negative. -/
def latency? : Entry → Option Binary64
  | fetch _ duration => if duration.isNegative then none else some duration
  | _ => none

/-- The size of what a fetch wrote, unless it is negative. -/
def size? : Entry → Option Int
  | fetch bytes _ => if bytes < 0 then none else some bytes
  | _ => none

/-- The time that a test run took, unless it is negative. -/
def duration? : Entry → Option Binary64
  | exit _ duration => if duration.isNegative then none else some duration
  | _ => none

end Entry

/-- Metrics count entries by their results and measure their amounts, each once, and have nothing
else to say. -/
structure Counts (es : List Entry) (ms : List Metric) : Prop where
  fetched : valueAt ms "toolchain_runner_fetches_total" [("status", "success")] =
    counted (es.countP (·.isFetch))
  unfetched : ∀ errorType,
    valueAt ms "toolchain_runner_fetches_total"
      [("error_type", errorType), ("status", "failed")] =
        counted (es.count (.failure "fetch" errorType))
  fetches : ∀ attributes, valueAt ms "toolchain_runner_fetches_total" attributes ≠ none →
    attributes = [("status", "success")] ∨
      ∃ errorType, attributes = [("error_type", errorType), ("status", "failed")]
  passed : valueAt ms "toolchain_runner_test_runs_total" [("status", "success")] =
    counted (es.countP (·.exits (· = 0)))
  failed : valueAt ms "toolchain_runner_test_runs_total" [("status", "failed")] =
    counted (es.countP (·.exits (· ≠ 0)))
  broken : ∀ errorType,
    valueAt ms "toolchain_runner_test_runs_total"
      [("error_type", errorType), ("status", "failed")] =
        counted (es.countP (·.breaksBy errorType))
  testRuns : ∀ attributes, valueAt ms "toolchain_runner_test_runs_total" attributes ≠ none →
    attributes = [("status", "success")] ∨ attributes = [("status", "failed")] ∨
      ∃ errorType, attributes = [("error_type", errorType), ("status", "failed")]
  latency : points? ms "toolchain_runner_fetch_latency_ms" =
    (summary (es.filterMap (·.latency?))).map .distribution
  size : points? ms "toolchain_runner_fetch_size_bytes" =
    (summary (es.filterMap (·.size?))).map (.distribution ∘ Ledger.toReal)
  duration : points? ms "toolchain_runner_test_duration_ms" =
    (summary (es.filterMap (·.duration?))).map .distribution
  /-- Each metric stands once, and a counter has each point once. -/
  names : (ms.map (·.name)).Nodup
  points : ∀ name points, points? ms name = some (.counts points) → (points.map (·.1)).Nodup

/-! ### Counters -/

namespace Tally

variable {t : Tally}

/-- What is in the tally came at least once. -/
def Positive (t : Tally) : Prop := ∀ e ∈ t, 0 < e.2

theorem positive_add (h : t.Positive) (r : Result) : (t.add r).Positive := by
  intro e he
  obtain rfl | he := List.mem_cons.mp he
  · exact Nat.succ_pos _
  · exact h e (List.mem_filter.mp he).1

theorem value?_eq_counted (h : t.Positive) (r : Result) : t.value? r = counted (t.count r) := by
  unfold value? count
  cases hf : t.find? (·.1 = r) with
  | none => rfl
  | some e =>
    have hpos : 0 < e.2 := h e (List.mem_of_find?_eq_some hf)
    simp [counted, Nat.ne_of_gt hpos]

end Tally

namespace Ledger

variable (es : List Entry)

theorem positive_enterAll :
    (enterAll {} es).fetches.Positive ∧ (enterAll {} es).testRuns.Positive :=
  have hnil : Tally.Positive [] := fun _ he => nomatch he
  tallies_enterAll (P := Tally.Positive) es (fun _ r h => Tally.positive_add h r) ⟨hnil, hnil⟩

theorem unique_entries : (enterAll {} es).Unique := unique_enterAll es unique_empty

/-- The counter of fetches has the number of entries of a fetch with a result. -/
theorem fetches_conserved (r : Result) :
    valueAt (enterAll {} es).metrics "toolchain_runner_fetches_total" r.attributes =
      counted (es.countP fun e => e.ofFetch && e.result = r) := by
  rw [valueAt_fetches (unique_entries es), Tally.value?_eq_counted (positive_enterAll es).1,
    count_fetches_enterAll]
  exact congrArg counted (Nat.zero_add _)

/-- The counter of test runs has the number of entries of a test run with a result. -/
theorem testRuns_conserved (r : Result) :
    valueAt (enterAll {} es).metrics "toolchain_runner_test_runs_total" r.attributes =
      counted (es.countP fun e => !e.ofFetch && e.result = r) := by
  rw [valueAt_testRuns (unique_entries es), Tally.value?_eq_counted (positive_enterAll es).2,
    count_testRuns_enterAll]
  exact congrArg counted (Nat.zero_add _)

/-- Only results have values. -/
theorem exists_result_of_value {t : Tally} {attributes : Attributes String}
    (h : (countPoints? t).bind (·.value? attributes) ≠ none) :
    ∃ r : Result, attributes = r.attributes := by
  unfold countPoints? at h
  split at h
  · exact absurd rfl h
  · rw [Option.bind_some, Points.value?] at h
    obtain ⟨p, hp⟩ := Option.ne_none_iff_exists'.mp h
    obtain ⟨q, hq, -⟩ := Option.map_eq_some_iff.mp hp
    obtain ⟨e, -, rfl⟩ := List.mem_map.mp (List.mem_of_find?_eq_some hq)
    have ha := List.find?_some hq
    exact ⟨e.1, (of_decide_eq_true ha).symm⟩

theorem nodup_countPoints {t : Tally} (h : Keyed.Unique t) {points : List (Attributes String × Nat)}
    (hp : countPoints? t = some (.counts points)) : (points.map (·.1)).Nodup := by
  unfold countPoints? at hp
  split at hp
  · cases hp
  · obtain rfl := Points.counts.inj (Option.some.inj hp)
    have hp := (List.mergeSort_perm t fun a b => a.1.key ≤ b.1.key).map fun e => e.1.attributes
    rw [List.map_map]
    refine hp.nodup_iff.mpr (List.pairwise_map.mpr ?_)
    exact (List.pairwise_map.mp h).imp fun hn ha => hn (Result.attributes_injective ha)

/-! ### Distributions -/

section

variable {α : Type} [Add α] [Min α] [Max α]

theorem foldl_record (xs : List α) (d : Distribution α) :
    xs.foldl (fun d x => some (Distribution.record d x)) (some d) =
      some ⟨d.count + xs.length, xs.foldl (· + ·) d.sum, xs.foldl min d.least,
        xs.foldl max d.greatest⟩ := by
  induction xs generalizing d with
  | nil => rfl
  | cons x xs ih =>
    refine (ih _).trans ?_
    simp [Distribution.record, Nat.add_assoc, Nat.add_comm 1]

/-- A distribution that takes an amount from some entries becomes the summary of the amounts. -/
theorem summary_enterAll {field : Ledger → Option (Distribution α)} {amount? : Entry → Option α}
    (hnil : field {} = none)
    (hstep : ∀ (e : Entry) l, field (e.enter l) =
      match amount? e with
      | some x => some (Distribution.record (field l) x)
      | none => field l) :
    field (enterAll {} es) = summary (es.filterMap amount?) := by
  have hrun : ∀ l : Ledger, field (l.enterAll es) =
      (es.filterMap amount?).foldl (fun d x => some (Distribution.record d x)) (field l) := by
    induction es with
    | nil => exact fun _ => rfl
    | cons e es ih =>
      intro l
      have hl : field (l.enterAll (e :: es)) = field ((e.enter l).enterAll es) := rfl
      rw [hl, ih, hstep, List.filterMap_cons]
      cases amount? e <;> rfl
  rw [hrun, hnil]
  cases es.filterMap amount? with
  | nil => rfl
  | cons x xs =>
    refine (foldl_record xs _).trans ?_
    simp [summary, Distribution.record, Nat.add_comm 1]

end

theorem fetchLatency_enterAll :
    (enterAll {} es).fetchLatency = summary (es.filterMap (·.latency?)) := by
  refine summary_enterAll es rfl fun e l => ?_
  cases e with
  | fetch bytes duration =>
    simp only [Entry.enter, addFetch, recordDuration, Entry.latency?]
    cases duration.isNegative <;> rfl
  | failure step errorType =>
    simp only [Entry.enter, addFailure, Entry.latency?]
    split <;> rfl
  | exit exitCode duration => rfl

theorem fetchSize_enterAll : (enterAll {} es).fetchSize = summary (es.filterMap (·.size?)) := by
  refine summary_enterAll es rfl fun e l => ?_
  cases e with
  | fetch bytes duration =>
    simp only [Entry.enter, addFetch, recordSize, Entry.size?]
    by_cases h : bytes < 0 <;> simp [h]
  | failure step errorType =>
    simp only [Entry.enter, addFailure, Entry.size?]
    split <;> rfl
  | exit exitCode duration => rfl

theorem testDuration_enterAll :
    (enterAll {} es).testDuration = summary (es.filterMap (·.duration?)) := by
  refine summary_enterAll es rfl fun e l => ?_
  cases e with
  | fetch bytes duration => rfl
  | failure step errorType =>
    simp only [Entry.enter, addFailure, Entry.duration?]
    split <;> rfl
  | exit exitCode duration =>
    simp only [Entry.enter, addExit, recordDuration, Entry.duration?]
    cases duration.isNegative <;> rfl

/-! ### The list of metrics -/

theorem names_sublist_cons {α : Type} {o : Option α} {f : α → Metric} {n : String}
    {os : List (Option Metric)} {names : List String} (hn : ∀ x, (f x).name = n)
    (h : ((os.filterMap id).map (·.name)).Sublist names) :
    (((o.map f :: os).filterMap id).map (·.name)).Sublist (n :: names) := by
  cases o with
  | none => exact h.cons _
  | some x =>
    have hc := h.cons_cons (f x).name
    rw [hn] at hc
    simpa [hn] using hc

theorem nodup_names (l : Ledger) : (l.metrics.map (·.name)).Nodup := by
  have h : (l.metrics.map (·.name)).Sublist ["toolchain_runner_fetch_latency_ms",
      "toolchain_runner_fetch_size_bytes", "toolchain_runner_fetches_total",
      "toolchain_runner_test_duration_ms", "toolchain_runner_test_runs_total"] := by
    unfold metrics
    iterate 5 refine names_sublist_cons (fun _ => rfl) ?_
    exact .slnil
  exact List.Nodup.sublist h (by decide)

/-- A counter has each point once. -/
theorem nodup_points {l : Ledger} {name : String} {points : List (Attributes String × Nat)}
    (hu : l.Unique) (h : points? l.metrics name = some (.counts points)) :
    (points.map (·.1)).Nodup := by
  have hother : ∀ {α : Type} {o : Option α} {f : α → Distribution Binary64},
      o.map (Points.distribution ∘ f) ≠ some (.counts points) := by
    intro α o f ho
    cases o <;> cases ho
  -- of the five names two are those of counters
  rw [points?_metrics] at h
  split at h
  · exact absurd h (hother (f := id))
  split at h
  · exact absurd h hother
  split at h
  · exact nodup_countPoints hu.fetches h
  split at h
  · exact absurd h (hother (f := id))
  split at h
  · exact nodup_countPoints hu.testRuns h
  · cases h

end Ledger

/-! ### The metrics of a session -/

/-- The metrics of entries count them. -/
theorem counts_metrics (es : List Entry) : Counts es (Ledger.enterAll {} es).metrics where
  fetched := by
    refine (Ledger.fetches_conserved es .success).trans (congrArg counted ?_)
    refine List.countP_congr fun e _ => ?_
    cases e <;> simp [Entry.ofFetch, Entry.result, Entry.isFetch]
  unfetched errorType := by
    refine (Ledger.fetches_conserved es (.failedBy errorType)).trans (congrArg counted ?_)
    refine List.countP_congr fun e _ => ?_
    cases e <;> simp [Entry.ofFetch, Entry.result]
  fetches attributes h := by
    have hv := h
    rw [valueAt, Ledger.points?_metrics] at hv
    obtain ⟨r, rfl⟩ := Ledger.exists_result_of_value hv
    cases r with
    | success => exact .inl rfl
    | failed =>
      -- an entry of a fetch is never merely failed
      rw [Ledger.fetches_conserved] at h
      refine absurd (congrArg counted (List.countP_eq_zero.mpr fun e _ => ?_)) h
      cases e <;> simp [Entry.ofFetch, Entry.result]
    | failedBy errorType => exact .inr ⟨errorType, rfl⟩
  passed := by
    refine (Ledger.testRuns_conserved es .success).trans (congrArg counted ?_)
    refine List.countP_congr fun e _ => ?_
    cases e <;> simp [Entry.ofFetch, Entry.result, Entry.exits]
  failed := by
    refine (Ledger.testRuns_conserved es .failed).trans (congrArg counted ?_)
    refine List.countP_congr fun e _ => ?_
    cases e <;> simp [Entry.ofFetch, Entry.result, Entry.exits]
  broken errorType := by
    refine (Ledger.testRuns_conserved es (.failedBy errorType)).trans (congrArg counted ?_)
    refine List.countP_congr fun e _ => ?_
    cases e with
    | exit exitCode duration =>
      by_cases hc : exitCode = 0 <;> simp [Entry.result, Entry.breaksBy, hc]
    | _ => simp [Entry.ofFetch, Entry.result, Entry.breaksBy]
  testRuns attributes h := by
    rw [valueAt, Ledger.points?_metrics] at h
    obtain ⟨r, rfl⟩ := Ledger.exists_result_of_value h
    cases r with
    | success => exact .inl rfl
    | failed => exact .inr (.inl rfl)
    | failedBy errorType => exact .inr (.inr ⟨errorType, rfl⟩)
  latency := by
    rw [Ledger.points?_metrics, if_pos rfl, Ledger.fetchLatency_enterAll]
  size := by
    rw [Ledger.points?_metrics, if_neg (by decide), if_pos rfl, Ledger.fetchSize_enterAll]
  duration := by
    rw [Ledger.points?_metrics, if_neg (by decide), if_neg (by decide), if_neg (by decide),
      if_pos rfl, Ledger.testDuration_enterAll]
  names := Ledger.nodup_names _
  points _ _ h := Ledger.nodup_points (Ledger.unique_entries es) h

/-- **The metrics of a session count every record once.** Telemetry with an endpoint is started
once, any activities record fetches, faults and test runs, and telemetry is stopped, while no
exporter fails. What is delivered counts these records by their results and measures all their
amounts that are not negative, each once. -/
theorem session_counts {s : TelemetrySettings} {w : World} (hh : w.telemetry.handles = {})
    (hu : w.telemetry.registry.Unused) (he : s.enabled = true) (hn : s.endpoint?.isSome = true)
    (hq : w.Quiet) (activities : List Activity) :
    let v := performEach activities (start s w).2
    (start s w).1 = .ok () ∧ (stop v).1 = .ok () ∧
      ∃ ms, (stop v).2.telemetry.registry.metrics = w.telemetry.registry.metrics ++ ms ∧
        Counts (entries true activities) ms := by
  intro v
  obtain ⟨-, hdelivered⟩ := delivers_of_first he hq hh hu hn activities
  exact ⟨(start_of_quiet he hq).1, stop_fst_of_quiet (quiet_performEach he hq activities),
    _, hdelivered, counts_metrics _⟩

/-- Two records on one span, one of them with a negative size, and a failure in a nested span. -/
theorem session_counts_of_nested :
    let s : TelemetrySettings := { enabled := true, endpoint := some "http://collector:4317" }
    let activities : List Activity :=
      [.span "fetch" [] [.fetched 7 (.ofInt 2), .fetched (-1) (.ofInt 3),
        .span "tests" [] [.failed "tests" (.runtime "broken"), .raise (.runtime "broken")]],
      .exited 3 (.ofInt 5)]
    ({} : World).telemetry.handles = {} ∧ ({} : World).telemetry.registry.Unused ∧
      s.enabled = true ∧ s.endpoint?.isSome = true ∧ ({} : World).Quiet ∧
      ∃ ms, (stop (performEach activities (start s {}).2)).2.telemetry.registry.metrics = ms ∧
        Counts [.fetch 7 (.ofInt 2), .fetch (-1) (.ofInt 3), .failure "tests" "RuntimeError",
          .exit 3 (.ofInt 5)] ms := by
  intro s activities
  have hu : ({} : World).telemetry.registry.Unused := ⟨rfl, rfl, rfl, rfl⟩
  have hq : ({} : World).Quiet := ⟨fun _ => rfl, fun _ => rfl⟩
  have hn : s.endpoint?.isSome = true := by decide
  obtain ⟨-, -, ms, hms, hc⟩ := session_counts rfl hu rfl hn hq activities
  exact ⟨rfl, hu, rfl, hn, hq, ms, hms.trans (List.nil_append ms), hc⟩

end PinnedRun.Telemetry
