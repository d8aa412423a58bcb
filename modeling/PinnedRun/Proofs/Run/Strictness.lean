import PinnedRun.Proofs.Run.Footprint
import PinnedRun.Proofs.Run.Order
import PinnedRun.Proofs.Telemetry.Counting

/-!
# Strict and lenient runs

A run is strict if it aborts after a failed fetch, and lenient if it goes on to the tests. The
setting is read at one point, so the two are the same run unless they come to that point with a
failed fetch. If they do, they have the fetch in common and differ in the tests
(`Run.strict_against_lenient`).

* `Run.FetchFails s p w` : the run comes to the end of a fetch that has failed;
* `Run.DifferInTests s p w strict lenient` : what the two runs have in common and in which way they
  differ then.
-/

namespace PinnedRun

open PinnedRun.Action

namespace Settings

/-- The settings, but a failed fetch ends the run. -/
def strict (s : Settings) : Settings := { s with abortOnFetchFailure := true }

/-- The settings, but a failed fetch does not end the run. -/
def lenient (s : Settings) : Settings := { s with abortOnFetchFailure := false }

@[simp] theorem telemetry_strict (s : Settings) : s.strict.telemetry = s.telemetry := rfl

@[simp] theorem telemetry_lenient (s : Settings) : s.lenient.telemetry = s.telemetry := rfl

end Settings

namespace Run

open Telemetry (Entry Footprint Ledger Metric Span enterAll_append enterAll_eq
  outstanding_of_start points? spanName spanless_enterAll start_course stopFault stop_reports)

/-- Telemetry can be started, the fetch fails with a fault of its own, and the session can be
closed. -/
structure FetchFails (s : Settings) (p : Plan) (w : World) : Prop where
  prepared : (prepare s w).1 = .ok ()
  closing : w.replies.closing = none
  failed : ∃ e, (fetchPlanned s p w).1 = .error e ∧ e.fault.isFetch = true

/-- The metrics of test runs. -/
def testMetrics : List String :=
  ["toolchain_runner_test_duration_ms", "toolchain_runner_test_runs_total"]

/-- Both runs have delivered the span of the fetch, if there is one, and the lenient one after it
that of the tests, if there is one. -/
def SpansDiffer (before strict lenient : List Span) : Prop :=
  ∃ fetched tested, strict = before ++ fetched ∧ lenient = before ++ fetched ++ tested ∧
    (fetched.length ≤ 1 ∧ ∀ span ∈ fetched, span.name = spanName "fetch") ∧
    tested.length ≤ 1 ∧ ∀ span ∈ tested, span.name = spanName "tests"

/-- Both runs have delivered the same metrics apart from those of test runs, of which the strict one
has delivered none. -/
def MetricsDiffer (before strict lenient : List Metric) : Prop :=
  ∃ ms ms', strict = before ++ ms ∧ lenient = before ++ ms' ∧
    (∀ name ∉ testMetrics, points? ms name = points? ms' name) ∧
    ∀ name ∈ testMetrics, points? ms name = none

/-- After a failed fetch the two runs have the request, the closing, the volume and what telemetry
says of the fetch in common. The strict one ends with 1 and has nothing of tests, the lenient one
has launched the command once. -/
structure DifferInTests (s : Settings) (p : Plan) (w : World) (strict lenient : Run) : Prop where
  requests : strict.world.calls =
    w.calls ++ [.get p.remote.url s.fetch.timeout s.fetch.verifyTls, .close]
  launches : lenient.world.calls = strict.world.calls ++ [.launch p.command.words]
  volume : lenient.world.volume = strict.world.volume
  exitCode : strict.summary.exitCode = some 1
  spans : SpansDiffer w.telemetry.registry.spans strict.world.telemetry.registry.spans
    lenient.world.telemetry.registry.spans
  metrics : MetricsDiffer w.telemetry.registry.metrics strict.world.telemetry.registry.metrics
    lenient.world.telemetry.registry.metrics

variable {s : Settings} {p : Plan} {w : World} {r : Run}

/-! ### Without a failed fetch -/

theorem fetchFails_iff (h : (prepare s w).1 = .ok ()) :
    FetchFails s p w ↔ fetched s p w = .ok false := by
  rw [fetched_eq_ok_iff]
  exact ⟨fun hf => ⟨hf.closing, hf.failed⟩, fun hf => ⟨h, hf.1, hf.2⟩⟩

/-- The two runs have the steps up to the end of the fetch in common, and both go on to the tests
then. -/
theorem steps_eq_of_not_fetchFails (h : ¬ FetchFails s p r.world) :
    steps s.strict p r = steps s.lenient p r := by
  refine bind_congr_of_ok fun _ r₁ h₁ => bind_congr_of_ok fun t r₂ h₂ => ?_
  have hprepared : prepare s r.world = (.ok (), r₁.world) := of_onWorld h₁
  have hfetch : fetchStep s p r₁.world = (.ok t, r₂.world) := of_onWorld h₂
  obtain ⟨hf, -, -⟩ := fetchStep_of_prepare (p := p) hprepared
  have hsuccess : t.success = true := by
    rw [fetchFails_iff (congrArg (·.1) hprepared), ← hf, hfetch] at h
    exact Bool.of_not_eq_false fun hn => h (congrArg Except.ok hn)
  rw [hsuccess]
  rfl

theorem run_eq_of_not_fetchFails (h : ¬ FetchFails s p r.world) :
    run s.strict p r = run s.lenient p r := by
  rw [run, run, ensure_apply, ensure_apply, handle_apply, handle_apply,
    steps_eq_of_not_fetchFails h]

/-! ### After a failed fetch -/

/-- A fetch that has failed came to ask the server. -/
theorem ne_empty_of_isFetch {e : Failure} (h : (fetchPlanned s p w).1 = .error e)
    (he : e.fault.isFetch = true) : p.remote.url ≠ "" ∧ p.destination ≠ "" := by
  unfold fetchPlanned Fetch.fetch at h
  split at h
  · cases h
    cases he
  · rename_i hu
    split at h
    · cases h
      cases he
    · rename_i hd
      exact ⟨hu, fun hn => hd (decide_eq_true hn)⟩

/-- After a failed fetch the steps are those of the tests, or none. -/
theorem steps_of_fetchFails (h : FetchFails s p r.world) :
    ∃ v t u, prepare s r.world = (.ok (), v) ∧ fetchStep s p v = (.ok t, u) ∧
      steps s.strict p r = giveUp ⟨u, r.summary.add t⟩ ∧
      steps s.lenient p r = goOn (testsStep p) p t ⟨u, r.summary.add t⟩ := by
  obtain ⟨v, hv⟩ : ∃ v, prepare s r.world = (.ok (), v) := ⟨_, Prod.ext h.prepared rfl⟩
  obtain ⟨hf, -, -⟩ := fetchStep_of_prepare (p := p) hv
  rw [(fetchFails_iff h.prepared).mp h] at hf
  generalize hq : fetchStep s p v = q at hf
  obtain ⟨e | t, u⟩ := q
  · cases hf
  · have hsuccess : t.success = false := Except.ok.inj hf
    have hsteps : ∀ s', prepare s' = prepare s → fetchStep s' p = fetchStep s p →
        steps s' p r = (if !t.success && s'.abortOnFetchFailure then giveUp
          else goOn (testsStep p) p t) ⟨u, r.summary.add t⟩ := by
      intro s' hp hs
      rw [steps, hp, hs, bind_of_ok (onWorld_of hv)]
      exact stepsBy_of_ok hq
    refine ⟨v, t, u, hv, hq, ?_, ?_⟩
    · rw [hsteps s.strict rfl rfl, hsuccess]
      rfl
    · rw [hsteps s.lenient rfl rfl, hsuccess]
      rfl

theorem reached_of_fetchFails (h : FetchFails s p w) :
    reached s.strict p w = (fetchPlanned s p w).2.closed ∧
      reached s.lenient p w = (fetchPlanned s p w).2.closed.launched p.command.words := by
  have hp : ∀ s', prepare s' = prepare s → fetched s' p = fetched s p →
      fetchPlanned s' p = fetchPlanned s p → reached s' p w =
        if s'.abortOnFetchFailure then (fetchPlanned s p w).2.closed
        else (fetchPlanned s p w).2.closed.launched p.command.words := by
    intro s' hp hf hs
    rw [reached, hp, h.prepared]
    dsimp only
    rw [reachedReady, hf, (fetchFails_iff h.prepared).mp h, hs]
    rfl
  exact ⟨hp s.strict rfl rfl rfl, hp s.lenient rfl rfl rfl⟩

/-- The tests after a failed fetch leave at most their own span and their own entries. -/
theorem footprint_goOn (t : StepResult) (r : Run) :
    Footprint false "tests" r.world.telemetry
      (goOn (testsStep p) p t r).2.world.telemetry := by
  obtain ⟨v, hv, -, -⟩ := warn_apply (p := p) t r.world
  have ht : v.telemetry = r.world.telemetry := by
    have hk := keeps_telemetry_warn (p := p) (t := t) r.world
    rwa [hv] at hk
  have hk : ∀ tested : TestRun, Keeps (fun r : Run => r.world.telemetry) (do
      collect tested.toStepResult
      conclude tested.exitCode) :=
    fun _ => Keeps.bind (fun _ => rfl) fun _ _ => rfl
  rw [goOn, bind_of_ok (onWorld_of hv),
    snd_bind_of_keeps (f := fun r : Run => r.world.telemetry) hk, ← ht]
  exact footprint_testsStep v

/-! ### What a run delivers -/

section

variable {es es' : List Entry}

/-- Entries of test runs show in the metrics of test runs only, and entries of a fetch do not. -/
theorem points?_append (hf : ∀ e ∈ es, e.ofFetch = true) (ht : ∀ e ∈ es', e.ofFetch = false) :
    (∀ name ∉ testMetrics, points? (Ledger.enterAll {} es).metrics name =
        points? (Ledger.enterAll {} (es ++ es')).metrics name) ∧
      ∀ name ∈ testMetrics, points? (Ledger.enterAll {} es).metrics name = none := by
  obtain ⟨hfetches, hlatency, hsize⟩ := Ledger.fetches_enterAll ht (Ledger.enterAll {} es)
  have hruns : (Ledger.enterAll {} es).testRuns = [] := Ledger.testRuns_enterAll hf {}
  have hduration : (Ledger.enterAll {} es).testDuration = none := by
    have hnone : es.filterMap (·.duration?) = [] := by
      refine List.filterMap_eq_nil_iff.mpr fun e he => ?_
      cases e with
      | exit exitCode duration => cases hf _ he
      | _ => rfl
    rw [Ledger.testDuration_enterAll, hnone]
    rfl
  constructor
  · intro name hn
    obtain ⟨hd, hr⟩ : name ≠ "toolchain_runner_test_duration_ms" ∧
        name ≠ "toolchain_runner_test_runs_total" := by
      simpa [testMetrics] using hn
    rw [Ledger.points?_metrics, Ledger.points?_metrics, Ledger.enterAll_append, hfetches, hlatency,
      hsize, if_neg hd, if_neg hr, if_neg hd, if_neg hr]
  · intro name hn
    obtain rfl | rfl : name = "toolchain_runner_test_duration_ms" ∨
        name = "toolchain_runner_test_runs_total" := by
      simpa [testMetrics] using hn
    · rw [Ledger.points?_metrics, hduration]
      rfl
    · rw [Ledger.points?_metrics, hruns]
      rfl

end

/-- A run delivers the spans of its steps, and the metrics that they leave unless the stop fails. -/
theorem delivered_run (hh : r.world.telemetry.handles.traceProvider = none) :
    (run s p r).2.world.telemetry.registry.spans =
        (steps s p r).2.world.telemetry.registry.spans ∧
      (run s p r).2.world.telemetry.registry.metrics =
        (steps s p r).2.world.telemetry.registry.metrics ++
          if (stopFault s.telemetry r.world.replies).isNone then
            (steps s p r).2.world.telemetry.outstanding
          else [] := by
  have ht : (beforeStop s p r).world.telemetry = (steps s p r).2.world.telemetry :=
    congrArg (·.1) (reports_body r)
  rw [← flushFault_beforeStop hh, run_apply, ← ht]
  exact stop_reports (beforeStop s p r).world

/-- If the steps have made entries since the start of telemetry, the run delivers the metrics of
these, or none; which of the two does not depend on the steps. -/
theorem metrics_run_of_entered {u : Telemetry} {delivers : Bool} {es : List Entry}
    (hh : r.world.telemetry.handles.traceProvider = none)
    (hu : ∀ es, (u.enterAll es).outstanding =
      if delivers then (Ledger.enterAll {} es).metrics else [])
    (ht : (steps s p r).2.world.telemetry.spanless = (u.enterAll es).spanless) :
    (run s p r).2.world.telemetry.registry.metrics = u.registry.metrics ++
      if (stopFault s.telemetry r.world.replies).isNone && delivers then
        (Ledger.enterAll {} es).metrics
      else [] := by
  have ho : (steps s p r).2.world.telemetry.outstanding = (u.enterAll es).outstanding := by
    have hs := congrArg Telemetry.outstanding ht
    exact hs
  have hm : (steps s p r).2.world.telemetry.registry.metrics = u.registry.metrics := by
    obtain ⟨m, hm⟩ := enterAll_eq u es
    have hs := congrArg (·.registry.metrics) ht
    rw [hm] at hs
    exact hs
  rw [(delivered_run hh).2, hm, ho, hu]
  cases (stopFault s.telemetry r.world.replies).isNone <;> rfl

/-! ### Both runs -/

theorem acts_of_fetchFails (h : FetchFails s p r.world) :
    (run s.strict p r).2.world.calls =
        r.world.calls ++ [.get p.remote.url s.fetch.timeout s.fetch.verifyTls, .close] ∧
      (run s.lenient p r).2.world.calls =
        (run s.strict p r).2.world.calls ++ [.launch p.command.words] ∧
      (run s.lenient p r).2.world.volume = (run s.strict p r).2.world.volume := by
  obtain ⟨e, he, hf⟩ := h.failed
  obtain ⟨hu, hd⟩ := ne_empty_of_isFetch he hf
  obtain ⟨hstrict, hlenient⟩ := reached_of_fetchFails h
  refine ⟨?_, ?_, ?_⟩
  · rw [calls_run, hstrict]
    exact calls_closed_fetchPlanned hu hd r.world
  · rw [calls_run, calls_run, hstrict, hlenient]
    rfl
  · rw [volume_run, volume_run, hstrict, hlenient]
    rfl

theorem exitCode_of_fetchFails (h : FetchFails s p r.world) :
    (run s.strict p r).2.summary.exitCode = some 1 := by
  have he : ending s.strict p r.world = .ok 1 := by
    have hp : (prepare s.strict r.world).1 = .ok () := h.prepared
    have hf : fetched s.strict p r.world = .ok false := (fetchFails_iff h.prepared).mp h
    rw [ending, hp]
    dsimp only
    rw [endingReady, hf]
    rfl
  have hs : (run s.strict p r).2.settled = _ := settled_run r
  rwa [he] at hs

theorem telemetry_of_prepare {v : World} (h : prepare s w = (.ok (), v))
    (hm : w.telemetry.handles.meterProvider = none) :
    v.telemetry.registry.spans = w.telemetry.registry.spans ∧
      v.telemetry.registry.metrics = w.telemetry.registry.metrics ∧
      ∃ delivers : Bool, ∀ es, (v.telemetry.enterAll es).outstanding =
        if delivers then (Ledger.enterAll {} es).metrics else [] := by
  have hc := start_course s.telemetry (w.report .debug .runner "Initializing runner components")
  rw [prepare, log_bind_apply] at h
  rw [h, World.telemetry_report] at hc
  exact outstanding_of_start hc hm

/-- After a failed fetch the strict run leaves the footprint of the fetch, and the lenient one that
of the tests on top of it. -/
theorem footprints_of_fetchFails (h : FetchFails s p r.world) :
    ∃ v u, prepare s r.world = (.ok (), v) ∧
      Footprint true "fetch" v.telemetry u ∧
      (steps s.strict p r).2.world.telemetry = u ∧
      Footprint false "tests" u (steps s.lenient p r).2.world.telemetry := by
  obtain ⟨v, t, u, hv, ht, hstrict, hlenient⟩ := steps_of_fetchFails h
  have hfetch := footprint_fetchStep (s := s) (p := p) v
  rw [ht] at hfetch
  refine ⟨v, u.telemetry, hv, hfetch, ?_, ?_⟩
  · rw [hstrict]
    exact World.telemetry_report ..
  · rw [hlenient]
    exact footprint_goOn t ⟨u, r.summary.add t⟩

theorem spans_of_fetchFails (h : FetchFails s p r.world)
    (hh : r.world.telemetry.handles = {}) :
    SpansDiffer r.world.telemetry.registry.spans
      (run s.strict p r).2.world.telemetry.registry.spans
      (run s.lenient p r).2.world.telemetry.registry.spans := by
  obtain ⟨v, u, hv, hfetch, hstrict, htests⟩ := footprints_of_fetchFails h
  obtain ⟨fetched, hfetched, hone⟩ := hfetch.spans
  obtain ⟨tested, htested, hone'⟩ := htests.spans
  obtain ⟨hspans, -, -⟩ := telemetry_of_prepare hv (congrArg Telemetry.Handles.meterProvider hh)
  have hp : r.world.telemetry.handles.traceProvider = none :=
    congrArg Telemetry.Handles.traceProvider hh
  refine ⟨fetched, tested, ?_, ?_, hone, hone'⟩
  · rw [(delivered_run hp).1, hstrict, hfetched, hspans]
  · rw [(delivered_run hp).1, htested, hfetched, hspans]

theorem metrics_of_fetchFails (h : FetchFails s p r.world)
    (hh : r.world.telemetry.handles = {}) :
    MetricsDiffer r.world.telemetry.registry.metrics
      (run s.strict p r).2.world.telemetry.registry.metrics
      (run s.lenient p r).2.world.telemetry.registry.metrics := by
  obtain ⟨v, u, hv, ⟨⟨es, hes, hu⟩, -⟩, hstrict, ⟨⟨es', hes', hentered⟩, -⟩⟩ :=
    footprints_of_fetchFails h
  obtain ⟨-, hmetrics, delivers, hd⟩ :=
    telemetry_of_prepare hv (congrArg Telemetry.Handles.meterProvider hh)
  have hp : r.world.telemetry.handles.traceProvider = none :=
    congrArg Telemetry.Handles.traceProvider hh
  have hlenient : (steps s.lenient p r).2.world.telemetry.spanless =
      (v.telemetry.enterAll (es ++ es')).spanless := by
    rw [hentered, spanless_enterAll, hu, ← spanless_enterAll, enterAll_append]
  obtain ⟨hsame, hnone⟩ := points?_append hes hes'
  -- both runs deliver what they have entered, or neither does
  have hruns := metrics_run_of_entered (s := s.strict) (p := p) hp hd (hstrict ▸ hu)
  have hrunl := metrics_run_of_entered (s := s.lenient) (p := p) hp hd hlenient
  rw [hmetrics, Settings.telemetry_strict] at hruns
  rw [hmetrics, Settings.telemetry_lenient] at hrunl
  refine ⟨_, _, hruns, hrunl, ?_⟩
  cases (stopFault s.telemetry r.world.replies).isNone && delivers with
  | true => exact ⟨hsame, hnone⟩
  | false => exact ⟨fun _ _ => rfl, fun _ _ => rfl⟩

/-- **A strict run differs from a lenient one only after a failed fetch.** Unless the run comes to
the end of a fetch that has failed, the two are the same run, with the same end. Otherwise they have
the fetch in common, and differ in the tests. -/
theorem strict_against_lenient (s : Settings) (p : Plan) (w : World) :
    let r := ofPlan p w
    let strict := run s.strict p r
    let lenient := run s.lenient p r
    (¬ FetchFails s p r.world → strict = lenient) ∧
      (FetchFails s p r.world → DifferInTests s p w strict.2 lenient.2) := by
  intro r strict lenient
  refine ⟨run_eq_of_not_fetchFails, fun h => ?_⟩
  obtain ⟨hrequests, hlaunches, hvolume⟩ := acts_of_fetchFails h
  exact ⟨hrequests, hlaunches, hvolume, exitCode_of_fetchFails h, spans_of_fetchFails h rfl,
    metrics_of_fetchFails h rfl⟩

/-- A request that fails while telemetry exports: the strict run leaves the command alone. -/
theorem strict_against_lenient_of_unreachable :
    let s : Settings :=
      { telemetry := { enabled := true, endpoint := some "http://collector:4317" } }
    let w : World := { replies := { requests := [⟨0, .error (.request .connection "refused")⟩] } }
    FetchFails s usualPlan w ∧
      DifferInTests s usualPlan w (run s.strict usualPlan (.ofPlan usualPlan w)).2
        (run s.lenient usualPlan (.ofPlan usualPlan w)).2 := by
  intro s w
  have h : FetchFails s usualPlan w := ⟨rfl, rfl, _, rfl, rfl⟩
  exact ⟨h, (strict_against_lenient s usualPlan w).2 h⟩

end Run

end PinnedRun
