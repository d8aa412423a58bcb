import PinnedRun.Proofs.Run.Order
import PinnedRun.Proofs.Run.StepReports
import PinnedRun.Proofs.Run.Bare

/-!
# The reports of a run agree

A run reports on its steps by spans, by metrics and by its summary. If telemetry exports, these
reports agree with each other and with what happened (`Run.reports_agree`): `FetchAgrees` says so
for the fetch and `TestsAgree` for the tests.
-/

namespace PinnedRun.Run

open PinnedRun.Action
open Telemetry (Entry Exporting Ledger Metric Span Tally samples valueAt)

/-! ### The fetch -/

section

variable {s : Settings} {p : Plan} {w : World} {fetched : Except Failure FetchResult}
  {closing : Option Fault} {span span' : Span} {r : Except Failure StepResult} {es : List Entry}

namespace FetchEnd

theorem ofFetch (h : FetchEnd fetched closing span r span' es) : ∀ e ∈ es, e.ofFetch = true := by
  cases h <;> simp [Entry.ofFetch]

theorem name (h : FetchEnd fetched closing span r span' es) {t : StepResult} (ht : r = .ok t) :
    t.name = "fetch" := by
  cases h <;> cases ht <;> rfl

theorem origin (h : FetchEnd fetched closing span r span' es) :
    (span'.close r).origin = span.origin := by
  rw [Span.origin_close]
  cases h <;> simp [Span.fetched, Span.failed]

theorem status_iff (h : FetchEnd fetched closing span r span' es) (hs : span.status ≠ .ok) :
    (span'.close r).status = .ok ↔ r.toOption.any (·.success) = true := by
  have hfailed : ∀ f, (span.failed "fetch" f).status ≠ .ok := by
    intro f
    rw [Span.status_failed hs]
    exact nofun
  cases h with
  | succeeded result hf hc => exact ⟨fun _ => rfl, fun _ => Span.status_fetched ..⟩
  | failed e hf he hc durationMs => exact ⟨fun h => absurd h (hfailed _), nofun⟩
  | failedUnclosed e hf he f hc =>
    exact ⟨fun h => absurd h (Span.status_close_ne_ok (hfailed _) _), nofun⟩
  | unclosed result hf f hc => exact ⟨fun h => absurd h (Span.status_close_ne_ok hs _), nofun⟩
  | brokenOff e hf he other => exact ⟨fun h => absurd h (Span.status_close_ne_ok hs _), nofun⟩

theorem success_iff (h : FetchEnd fetched closing span r span' es) :
    (Ledger.enterAll {} es).fetches.count .success = 1 ↔ r.toOption.any (·.success) = true := by
  rw [Ledger.count_fetches_enterAll]
  cases h <;>
    simp [Entry.ofFetch, Entry.result, Tally.count, Except.toOption, succeededFetch, failedFetch]

theorem fetchSize_iff (h : FetchEnd fetched closing span r span' es) :
    ((Ledger.enterAll {} es).fetchSize.map (·.count)).getD 0 = 1 ↔
      r.toOption.any (·.success) = true := by
  cases h with
  | succeeded result =>
    have hn : ¬(result.bytesWritten : Int) < 0 := by omega
    simp [Ledger.enterAll, Entry.enter, Ledger.addFetch, Ledger.recordSize, hn,
      Telemetry.Distribution.record, Except.toOption, succeededFetch]
  | _ =>
    simp [Ledger.enterAll, Entry.enter, Ledger.addFailure, Except.toOption, failedFetch]

theorem fetchLatency_iff (h : FetchEnd fetched closing span r span' es)
    (hd : ∀ result, fetched = .ok result → result.durationMs.isNegative = false) :
    ((Ledger.enterAll {} es).fetchLatency.map (·.count)).getD 0 = 1 ↔
      r.toOption.any (·.success) = true := by
  cases h with
  | succeeded result hf hc =>
    simp [Ledger.enterAll, Entry.enter, Ledger.addFetch, Ledger.recordDuration, hd result hf,
      Telemetry.Distribution.record, Except.toOption, succeededFetch]
  | _ =>
    simp [Ledger.enterAll, Entry.enter, Ledger.addFailure, Except.toOption, failedFetch]

theorem failed_iff (h : FetchEnd fetched closing span r span' es) :
    (Ledger.enterAll {} es).fetches.count (.failedBy "FetchError") = 1 ↔
      ∃ e, fetched = .error e ∧ e.fault.isFetch = true := by
  rw [Ledger.count_fetches_enterAll]
  cases h with
  | succeeded result hf | unclosed result hf => simp [Entry.result, Tally.count, hf]
  | failed e hf he | failedUnclosed e hf he =>
    have hc : e.fault.className = "FetchError" := Fault.className_of_isFetch he
    simp [Entry.ofFetch, Entry.result, Tally.count, hf, he, hc]
  | brokenOff e hf he => simp [Tally.count, hf, he]

/-- After a fault of the fetch and a session that closes, all three reports quote the fault. -/
theorem described (h : FetchEnd fetched closing span r span' es) (hs : span.status ≠ .ok)
    (hevents : span.events = []) {e : Failure} (he : fetched = .error e)
    (hf : e.fault.isFetch = true) (hc : closing = none) :
    (span'.close r).status = .error e.fault.message ∧
      (span'.close r).events.filter (·.name = "fetch_failed") = [Span.failure "fetch" e.fault] ∧
      r.toOption.bind (·.error) = some e.fault.message := by
  cases h with
  | succeeded result hf' => exact nomatch he.symm.trans hf'
  | unclosed result hf' => exact nomatch he.symm.trans hf'
  | failed other hf' =>
    obtain rfl := Except.error.inj (he.symm.trans hf')
    refine ⟨Span.status_failed hs .., ?_, rfl⟩
    simp [Span.close, Span.events_failed, hevents, Span.failure]
  | failedUnclosed other hf' he' f hc' => exact nomatch hc.symm.trans hc'
  | brokenOff other hf' he' =>
    obtain rfl := Except.error.inj (he.symm.trans hf')
    exact nomatch hf.symm.trans he'

/-- A run comes to the launch exactly if its fetch step ends with a result that is tolerated. -/
theorem launches_iff (hp : (prepare s w).1 = .ok ())
    (h : FetchEnd (fetchPlanned s p w).1 w.replies.closing span r span' es) :
    Launches s p w ↔ ∃ t, r = .ok t ∧ (!t.success && s.abortOnFetchFailure) = false := by
  rw [Run.launches_iff hp]
  simp only [fetched_eq_ok_iff]
  cases h with
  | succeeded result hf hc =>
    exact ⟨fun _ => ⟨_, rfl, rfl⟩, fun _ => ⟨true, ⟨hc, result, hf⟩, Bool.false_ne_true⟩⟩
  | failed e hf he hc durationMs =>
    simp [hf, hc, he, failedFetch]
  | failedUnclosed e hf he f hc | unclosed result hf f hc => simp [hc]
  | brokenOff e hf he other => simp [hf, he]

end FetchEnd

end

/-! ### The tests -/

section

variable {c : TestCommand} {launched : Except Fault Int} {span span' : Span}
  {r : Except Failure TestRun} {es : List Entry}

/-- A launch that fails is a fault of the step exactly if it has an exit code. -/
theorem refusal_isLaunch_iff (c : TestCommand) (f : Fault) :
    (∃ message command exitCode, (refusal c f).fault = .launch message command exitCode) ↔
      ∃ exitCode, launchEnding (.error f) = .ok exitCode := by
  rw [launchEnding_error c]
  generalize refusal c f = e
  obtain ⟨f, cause⟩ := e
  cases f <;> simp

namespace TestsEnd

theorem ofFetch (h : TestsEnd c launched span r span' es) : ∀ e ∈ es, e.ofFetch = false := by
  cases h <;> simp [Entry.ofFetch]

theorem origin (h : TestsEnd c launched span r span' es) :
    (span'.close r).origin = span.origin := by
  rw [Span.origin_close]
  cases h <;> simp [Span.exited, Span.failed]

theorem status_iff (h : TestsEnd c launched span r span' es) (hs : span.status ≠ .ok) :
    (span'.close r).status = .ok ↔ launched = .ok 0 := by
  cases h with
  | exited n hn =>
    rw [hn, Except.ok.injEq, ← Launch.exitCode_eq_zero_iff]
    exact Span.status_exited_iff hs _
  | refused f hf message command exitCode =>
    have hstatus := Span.status_failed hs "tests" (.launch message command exitCode)
    exact ⟨fun h => (nomatch hstatus.symm.trans h), fun h => (nomatch hf.symm.trans h)⟩
  | brokenOff f hf =>
    exact ⟨fun h => absurd h (Span.status_close_ne_ok hs _), fun h => nomatch hf.symm.trans h⟩

/-- A command that exits with 0 settles the exit code. -/
theorem exitCode_of_zero (h : TestsEnd c launched span r span' es) (hl : launched = .ok 0) :
    r.map (·.exitCode) = .ok 0 := by
  cases h with
  | exited n hn =>
    obtain rfl := Except.ok.inj (hl.symm.trans hn)
    rfl
  | refused f hf | brokenOff f hf => exact nomatch hl.symm.trans hf

variable {l : Ledger} (hl : l.testRuns = [])

include hl

theorem success_iff (h : TestsEnd c launched span r span' es) :
    (l.enterAll es).testRuns.count .success = 1 ↔ launched = .ok 0 := by
  rw [Ledger.count_testRuns_enterAll, hl]
  cases h with
  | exited n hn =>
    rw [hn, Except.ok.injEq, ← Launch.exitCode_eq_zero_iff]
    by_cases h0 : Launch.exitCode n = 0 <;> simp [Entry.ofFetch, Entry.result, Tally.count, h0]
  | refused f hf => simp [Entry.result, Tally.count, hf]
  | brokenOff f hf => simp [Tally.count, hf]

theorem failed_iff (h : TestsEnd c launched span r span' es) :
    (l.enterAll es).testRuns.count .failed = 1 ↔ ∃ n, n ≠ 0 ∧ launched = .ok n := by
  rw [Ledger.count_testRuns_enterAll, hl]
  cases h with
  | exited n hn =>
    have hfailed : (∃ m, m ≠ 0 ∧ launched = .ok m) ↔ Launch.exitCode n ≠ 0 := by
      rw [hn, ne_eq, Launch.exitCode_eq_zero_iff]
      simp
    rw [hfailed]
    by_cases h0 : Launch.exitCode n = 0 <;> simp [Entry.ofFetch, Entry.result, Tally.count, h0]
  | refused f hf => simp [Entry.result, Tally.count, hf]
  | brokenOff f hf => simp [Tally.count, hf]

theorem refused_iff (h : TestsEnd c launched span r span' es) :
    (l.enterAll es).testRuns.count (.failedBy "LaunchError") = 1 ↔
      ∃ f exitCode, launched = .error f ∧ launchEnding (.error f) = .ok exitCode := by
  rw [Ledger.count_testRuns_enterAll, hl]
  cases h with
  | exited n hn =>
    by_cases h0 : Launch.exitCode n = 0 <;> simp [Entry.result, Tally.count, hn, h0]
  | refused f hf message command exitCode hr =>
    obtain ⟨code, hc⟩ := (refusal_isLaunch_iff c f).mp ⟨_, _, _, hr⟩
    simp [Entry.ofFetch, Entry.result, Tally.count, hf, hc]
  | brokenOff f hf hr =>
    have hn : ∀ code, launchEnding (.error f) ≠ .ok code := by
      intro code hc
      obtain ⟨message, command, exitCode, he⟩ := (refusal_isLaunch_iff c f).mpr ⟨code, hc⟩
      exact hr _ _ _ he
    simp [Tally.count, hf, hn]

end TestsEnd

end

/-! ### Both steps -/

section

variable {s : Settings} {p : Plan} {fetched : Except Failure FetchResult} {closing : Option Fault}
  {launched : Except Fault Int} {e : Except Failure Int} {results : List StepResult}
  {spans : List Span} {es : List Entry}

/-- The steps report on the fetch first, and then on the tests if the fetch step ends with a result
that is tolerated. -/
theorem StepsEnd.parts (h : StepsEnd s p fetched closing launched e results spans es) :
    ∃ r span es₁ rest es₂, FetchEnd fetched closing (fetchSpan p) r span es₁ ∧
      spans = span.close r :: rest ∧ es = es₁ ++ es₂ ∧
      results.find? (·.name = "fetch") = r.toOption ∧
      ((rest = [] ∧ es₂ = [] ∧
          ¬ ∃ t, r = .ok t ∧ (!t.success && s.abortOnFetchFailure) = false) ∨
        (∃ t, r = .ok t ∧ (!t.success && s.abortOnFetchFailure) = false) ∧
          ∃ x span', TestsEnd p.command launched (testsSpan p) x span' es₂ ∧
            rest = [span'.close x] ∧ e = x.map (·.exitCode)) := by
  cases h with
  | fetchBrokenOff hf =>
    exact ⟨_, _, _, [], [], hf, rfl, (List.append_nil _).symm, rfl, .inl ⟨rfl, rfl, by simp⟩⟩
  | gaveUp hf ha =>
    refine ⟨_, _, _, [], [], hf, rfl, (List.append_nil _).symm, ?_, .inl ⟨rfl, rfl, ?_⟩⟩
    · simp [hf.name rfl, Except.toOption]
    · simpa using ha
  | testsBrokenOff hf ha ht =>
    refine ⟨_, _, _, _, _, hf, rfl, rfl, ?_, .inr ⟨⟨_, rfl, ha⟩, _, _, ht, rfl, rfl⟩⟩
    simp [hf.name rfl, Except.toOption]
  | tested hf ha ht =>
    refine ⟨_, _, _, _, _, hf, rfl, rfl, ?_, .inr ⟨⟨_, rfl, ha⟩, _, _, ht, rfl, rfl⟩⟩
    simp [hf.name rfl, Except.toOption]

end

/-! ### The whole run -/

variable {s : Settings} {p : Plan}

theorem prepare_of_quiet {w : World} (hq : w.Quiet) : ∃ v, prepare s w = (.ok (), v) := by
  have h := (lockstep_prepare (s := s) w w ⟨rfl, World.quiet_iff.mp hq⟩).1
  exact ⟨(prepare s w).2, Prod.ext h rfl⟩

theorem exporting_prepare {w v : World} (hh : w.telemetry.handles = {})
    (hu : w.telemetry.registry.Unused) (he : s.telemetry.enabled = true)
    (hn : s.telemetry.endpoint?.isSome = true) (h : prepare s w = (.ok (), v)) :
    Exporting w.telemetry {} [] [] v.telemetry := by
  rw [prepare, log_bind_apply] at h
  have ht := World.telemetry_report w .debug .runner "Initializing runner components"
  have hx := Telemetry.exporting_start (ht ▸ hh) (ht ▸ hu) he hn h
  rwa [ht] at hx

/-- What is left of the reports of the steps at the end of a run whose exporters do not fail. -/
theorem run_reports {t₀ : Telemetry} {l : Ledger} {ended : List Span} {r : Run}
    (hq : r.world.Quiet) (hh : r.world.telemetry.handles = {})
    (hx : Exporting t₀ l [] ended (steps s p r).2.world.telemetry) :
    (run s p r).1 = brokenOff (steps s p r).1 ∧
      (run s p r).2.summary.results = (steps s p r).2.summary.results ∧
      (run s p r).2.world.telemetry.registry.openSpans = [] ∧
      (run s p r).2.world.telemetry.registry.spans = t₀.registry.spans ++ ended ∧
      (run s p r).2.world.telemetry.registry.metrics = t₀.registry.metrics ++ l.metrics := by
  obtain ⟨htelemetry, hresults⟩ := Prod.mk.inj (reports_body (s := s) (p := p) r)
  have hf : Telemetry.flushFault (beforeStop s p r).world = none := by
    rw [flushFault_beforeStop (congrArg Telemetry.Handles.traceProvider hh), Telemetry.stopFault,
      hq.2]
    exact ite_self _
  have hstop := Exporting.stop (v := (beforeStop s p r).world) (htelemetry ▸ hx) hf
  rw [run_fst, Telemetry.stop_fst, hf, steps_fst, run_apply]
  exact ⟨rfl, hresults, hstop⟩

/-- The reports on the fetch: its span, the metrics and the figures of the summary. -/
structure FetchAgrees (s : Settings) (p : Plan) (w : World) (o : Overview) (ms : List Metric)
    (span : Span) : Prop where
  origin : span.name = "toolchain_runner.fetch" ∧ span.parent = none
  status : span.status = .ok ↔ o.fetchSucceeded = true
  counted : valueAt ms "toolchain_runner_fetches_total" [("status", "success")] = some 1 ↔
    o.fetchSucceeded = true
  measured : samples ms "toolchain_runner_fetch_size_bytes" = 1 ↔ o.fetchSucceeded = true
  timed : (∀ result, (fetchPlanned s p w).1 = .ok result → result.durationMs.isNegative = false) →
    (samples ms "toolchain_runner_fetch_latency_ms" = 1 ↔ o.fetchSucceeded = true)
  failed : valueAt ms "toolchain_runner_fetches_total"
      [("error_type", "FetchError"), ("status", "failed")] = some 1 ↔
    ∃ e, (fetchPlanned s p w).1 = .error e ∧ e.fault.isFetch = true
  /-- All three quote a fault of the fetch, unless the session cannot be closed after it. -/
  described : ∀ e, (fetchPlanned s p w).1 = .error e → e.fault.isFetch = true →
    w.replies.closing = none →
    span.status = .error e.fault.message ∧
      span.events.filter (·.name = "fetch_failed") = [⟨"fetch_failed",
        [("error.type", "FetchError"), ("error.message", e.fault.message)]⟩] ∧
      o.fetchError = some e.fault.message

/-- The reports on the tests: their span, if they are run, the metrics and the end of the run. -/
structure TestsAgree (s : Settings) (p : Plan) (w : World) (ending : Except Failure Int)
    (ms : List Metric) (spans : List Span) : Prop where
  entered : Launches s p w → ∃ span, spans = [span] ∧
    (span.name = "toolchain_runner.tests" ∧ span.parent = none) ∧
    (span.status = .ok ↔ w.nextLaunch.result = .ok 0)
  skipped : ¬ Launches s p w → spans = []
  returned : Launches s p w → w.nextLaunch.result = .ok 0 → ending = .ok 0
  counted : valueAt ms "toolchain_runner_test_runs_total" [("status", "success")] = some 1 ↔
    Launches s p w ∧ w.nextLaunch.result = .ok 0
  failed : valueAt ms "toolchain_runner_test_runs_total" [("status", "failed")] = some 1 ↔
    Launches s p w ∧ ∃ n, n ≠ 0 ∧ w.nextLaunch.result = .ok n
  refused : valueAt ms "toolchain_runner_test_runs_total"
      [("error_type", "LaunchError"), ("status", "failed")] = some 1 ↔
    Launches s p w ∧ ∃ f exitCode, w.nextLaunch.result = .error f ∧
      launchEnding (.error f) = .ok exitCode

theorem FetchEnd.agrees {w : World} {r : Except Failure StepResult} {span : Span} {es : List Entry}
    {o : Overview} {l : Ledger}
    (h : FetchEnd (fetchPlanned s p w).1 w.replies.closing (fetchSpan p) r span es)
    (ho : o.fetchSucceeded = r.toOption.any (·.success))
    (hoe : o.fetchError = r.toOption.bind (·.error)) (hl : l.Unique)
    (hfetches : l.fetches = (Ledger.enterAll {} es).fetches ∧
      l.fetchLatency = (Ledger.enterAll {} es).fetchLatency ∧
      l.fetchSize = (Ledger.enterAll {} es).fetchSize) :
    FetchAgrees s p w o l.metrics (span.close r) := by
  obtain ⟨hf, hlatency, hsize⟩ := hfetches
  have hs : (fetchSpan p).status ≠ .ok := by
    rw [fetchSpan, Span.status_begun]
    exact nofun
  have horigin := h.origin.trans (Span.origin_begun ..)
  refine ⟨Prod.mk.inj horigin, ?_, ?_, ?_, ?_, ?_, ?_⟩
  · rw [ho]
    exact h.status_iff hs
  · rw [ho, ← h.success_iff, ← hf, ← Tally.value?_eq_one_iff, ← Ledger.valueAt_fetches hl]
    rfl
  · rw [ho, Ledger.samples_fetchSize, hsize]
    exact h.fetchSize_iff
  · intro hd
    rw [ho, Ledger.samples_fetchLatency, hlatency]
    exact h.fetchLatency_iff hd
  · rw [← h.failed_iff, ← hf, ← Tally.value?_eq_one_iff, ← Ledger.valueAt_fetches hl]
    rfl
  · intro e he hfetch hc
    rw [hoe]
    have hd := h.described hs (Span.events_begun ..) he hfetch hc
    rw [Span.failure, Fault.className_of_isFetch hfetch] at hd
    exact hd

/-- A run that does not come to the launch reports nothing on tests. -/
theorem testsAgree_of_not_launches {w : World} {ending : Except Failure Int} {l : Ledger}
    (hn : ¬ Launches s p w) (hl : l.Unique) (hr : l.testRuns = []) :
    TestsAgree s p w ending l.metrics [] := by
  have hvalue : ∀ r, valueAt l.metrics "toolchain_runner_test_runs_total"
      (Telemetry.Result.attributes r) ≠ some 1 := by
    intro r
    rw [Ledger.valueAt_testRuns hl, hr]
    exact nofun
  refine ⟨fun h => absurd h hn, fun _ => rfl, fun h => absurd h hn, ?_, ?_, ?_⟩
  · exact ⟨fun h => absurd h (hvalue .success), fun h => absurd h.1 hn⟩
  · exact ⟨fun h => absurd h (hvalue .failed), fun h => absurd h.1 hn⟩
  · exact ⟨fun h => absurd h (hvalue (.failedBy "LaunchError")), fun h => absurd h.1 hn⟩

theorem TestsEnd.agrees {w : World} {x : Except Failure TestRun} {span : Span} {es : List Entry}
    {ending : Except Failure Int} {l : Ledger} (hlaunches : Launches s p w)
    (h : TestsEnd p.command w.nextLaunch.result (testsSpan p) x span es)
    (hending : ending = Run.brokenOff (x.map (·.exitCode))) (hl : (l.enterAll es).Unique)
    (hr : l.testRuns = []) :
    TestsAgree s p w ending (l.enterAll es).metrics [span.close x] := by
  have hs : (testsSpan p).status ≠ .ok := by
    rw [testsSpan, Span.status_begun]
    exact nofun
  have horigin := h.origin.trans (Span.origin_begun ..)
  refine ⟨fun _ => ⟨_, rfl, Prod.mk.inj horigin, h.status_iff hs⟩,
    fun hn => absurd hlaunches hn, fun _ hzero => ?_, ?_, ?_, ?_⟩
  · rw [hending, h.exitCode_of_zero hzero]
    rfl
  · rw [and_iff_right hlaunches, ← h.success_iff hr, ← Tally.value?_eq_one_iff,
      ← Ledger.valueAt_testRuns hl]
    rfl
  · rw [and_iff_right hlaunches, ← h.failed_iff hr, ← Tally.value?_eq_one_iff,
      ← Ledger.valueAt_testRuns hl]
    rfl
  · rw [and_iff_right hlaunches, ← h.refused_iff hr, ← Tally.value?_eq_one_iff,
      ← Ledger.valueAt_testRuns hl]
    rfl

/-- **The reports of a run agree.** In a first run with telemetry that exports and exporters that do
not fail, the span of the fetch is delivered, and after it that of the tests exactly if the run
comes to the launch, each once and without parent; no span stays open. The status of each span, the
metrics and the summary agree with each other and with what the fetch and the command came to. -/
theorem reports_agree {w : World} (he : s.telemetry.enabled = true)
    (hn : s.telemetry.endpoint?.isSome = true) (hq : w.Quiet)
    (hu : w.telemetry.registry.Unused) (p : Plan) :
    let r := Run.ofPlan p w
    let q := run s p r
    ∃ span rest ms,
      q.2.world.telemetry.registry.openSpans = [] ∧
      q.2.world.telemetry.registry.spans = w.telemetry.registry.spans ++ span :: rest ∧
      q.2.world.telemetry.registry.metrics = w.telemetry.registry.metrics ++ ms ∧
      FetchAgrees s p r.world (q.2.summary.overview q.2.world.reading) ms span ∧
      TestsAgree s p r.world q.1 ms rest := by
  intro r q
  obtain ⟨v, hv⟩ := prepare_of_quiet (s := s) (w := r.world) hq
  have hx := exporting_prepare (w := r.world) rfl hu he hn hv
  obtain ⟨results, spans, es, hsteps, hresults, hx⟩ := steps_end (p := p) hv hx rfl
  obtain ⟨hend, hsummary, hopen, hspans, hmetrics⟩ := run_reports hq rfl hx
  obtain ⟨e, span, es₁, rest, es₂, hfetch, rfl, rfl, hfind, htests⟩ := hsteps.parts
  have hl := FetchEnd.launches_iff (congrArg Prod.fst hv) hfetch
  have hunique := Telemetry.unique_enterAll (es₁ ++ es₂) Ledger.unique_empty
  have hruns := Ledger.testRuns_enterAll hfetch.ofFetch {}
  -- the ledger is that of the fetch with the entries of the tests on top
  rw [Ledger.enterAll_append] at hmetrics hunique
  have hresult : q.2.summary.result? "fetch" = e.toOption := by
    rw [Summary.result?, hsummary, hresults, hfind]
  have ho : ∀ now, (q.2.summary.overview now).fetchSucceeded = e.toOption.any (·.success) :=
    fun _ => congrArg (·.any (·.success)) hresult
  have hoe : ∀ now, (q.2.summary.overview now).fetchError = e.toOption.bind (·.error) :=
    fun _ => congrArg (·.bind (·.error)) hresult
  refine ⟨span.close e, rest, _, hopen, hspans, hmetrics, ?_, ?_⟩
  · -- what the tests enter comes after the entries of the fetch and leaves them alone
    refine hfetch.agrees (ho _) (hoe _) hunique (Ledger.fetches_enterAll ?_ _)
    obtain ⟨-, rfl, -⟩ | ⟨-, x, span', htest, -⟩ := htests
    · exact nofun
    · exact htest.ofFetch
  · obtain ⟨rfl, rfl, hskip⟩ | ⟨hgo, x, span', htest, rfl, hcode⟩ := htests
    · exact testsAgree_of_not_launches (fun h => hskip (hl.mp h)) hunique hruns
    · exact htest.agrees (hl.mpr hgo) (hcode ▸ hend) hunique hruns

/-- The server does not have the file, the run goes on, and the command succeeds: the first span and
the summary quote the same fault, which is counted once, and so is the success of the tests. -/
theorem reports_agree_of_missing_file :
    let s : Settings :=
      { telemetry := { enabled := true, endpoint := some "http://collector:4317" } }
    let w : World := { replies := { requests := [⟨0, .ok ⟨404, ⟨#[]⟩⟩⟩] } }
    s.telemetry.enabled = true ∧ s.telemetry.endpoint?.isSome = true ∧ w.Quiet ∧
      w.telemetry.registry.Unused ∧
      ∃ ending r, run s usualPlan (.ofPlan usualPlan w) = (ending, r) ∧ ending = .ok 0 ∧
        ∃ message fetch tests,
          r.world.telemetry.registry.spans = [fetch, tests] ∧
          fetch.status = .error message ∧ tests.status = .ok ∧
          (r.summary.overview r.world.reading).fetchError = some message ∧
          valueAt r.world.telemetry.registry.metrics "toolchain_runner_fetches_total"
            [("error_type", "FetchError"), ("status", "failed")] = some 1 ∧
          valueAt r.world.telemetry.registry.metrics "toolchain_runner_test_runs_total"
            [("status", "success")] = some 1 := by
  intro s w
  have hq : w.Quiet := ⟨fun _ => rfl, fun _ => rfl⟩
  have hu : w.telemetry.registry.Unused := ⟨rfl, rfl, rfl, rfl⟩
  have hagree := reports_agree (s := s) rfl rfl hq hu usualPlan
  dsimp only at hagree
  generalize hv : Run.ofPlan usualPlan w = v at hagree
  generalize hrun : run s usualPlan v = q at hagree
  obtain ⟨ending, r⟩ := q
  obtain ⟨fetch, rest, ms, -, hspans, hmetrics, hf, ht⟩ := hagree
  have hfetched : ∃ e, (fetchPlanned s usualPlan v.world).1 = .error e ∧ e.fault.isFetch = true :=
    hv ▸ ⟨_, rfl, rfl⟩
  have hl : Launches s usualPlan v.world := ⟨hv ▸ rfl, hv ▸ rfl, .inr ⟨rfl, hfetched⟩⟩
  have hzero : v.world.nextLaunch.result = .ok 0 := hv ▸ rfl
  have hcounted := hf.failed.mpr hfetched
  obtain ⟨e, he, hfault⟩ := hfetched
  obtain ⟨hstatus, -, herror⟩ := hf.described e he hfault (hv ▸ rfl)
  obtain ⟨tests, rfl, -, htests⟩ := ht.entered hl
  obtain rfl : _ = ms := hmetrics
  exact ⟨rfl, rfl, hq, hu, ending, r, rfl, ht.returned hl hzero, e.fault.message, fetch, tests,
    hspans, hstatus, htests.mpr hzero, herror, hcounted, ht.counted.mpr ⟨hl, hzero⟩⟩

end PinnedRun.Run
