import PinnedRun.Proofs.Run.Course
import PinnedRun.Proofs.Telemetry.Exporting

/-!
# What the steps report

Each step of a run reports in three places: by its end, by its span, and by its entries in the
ledger. `FetchEnd` and `TestsEnd` list which three go together, by what the fetch, the closing of
the session and the launch come to, and `StepsEnd` does so for both steps. With telemetry that
exports, these are the reports of the steps (`Run.steps_end`).
-/

namespace PinnedRun

open PinnedRun.Action
open Telemetry (Entry Exporting Span)

/-! ### What the fetch and the launch leave alone -/

theorem keeps_telemetry_log {level : Level} {source : Source} {message : String} :
    Keeps World.telemetry (log level source message) := fun w => w.telemetry_report ..

theorem Fetch.keeps_telemetry_fetch {s : FetchSettings} {url : String} {d : Destination} :
    Keeps World.telemetry (fetch s url d) := by
  have hfail : ∀ {α : Type} {e : Failure}, Keeps World.telemetry (fail e : Action World α) :=
    fun _ => rfl
  have hwrite : ∀ {path content}, Keeps World.telemetry (writeFile path content) := by
    intro path content w
    unfold writeFile
    cases w.volume.write path content <;> rfl
  refine .ite hfail (.ite hfail ?_)
  refine Keeps.bind (fun _ => rfl) fun _ => keeps_telemetry_log.bind fun _ => Keeps.bind ?_ fun _ =>
    .ite ?_ ?_
  · exact Keeps.handle (fun _ => rfl) fun _ => .ite (keeps_telemetry_log.bind fun _ => hfail) hfail
  · refine (hwrite.handle fun _ => .ite (keeps_telemetry_log.bind fun _ => hfail) hfail).bind
      fun _ => ?_
    exact Keeps.bind (fun _ => rfl) fun _ => keeps_telemetry_log.bind fun _ => keeps_pure _
  · exact keeps_telemetry_log.bind fun _ => hfail

theorem TestCommand.keeps_telemetry_run {c : TestCommand} : Keeps World.telemetry c.run := by
  have hfail : ∀ {e : Failure}, Keeps World.telemetry (fail e : Action World Int) := fun _ => rfl
  refine keeps_telemetry_log.bind fun _ => Keeps.bind ?_ fun _ =>
    keeps_telemetry_log.bind fun _ => keeps_pure _
  refine Keeps.handle (fun _ => rfl) fun e => .ite ?_ (.ite ?_ hfail)
  · exact keeps_telemetry_log.bind fun _ => hfail
  · exact keeps_telemetry_log.bind fun _ => hfail

theorem Fault.className_of_isFetch {f : Fault} (h : f.isFetch = true) :
    f.className = "FetchError" := by
  cases f <;> first | rfl | cases h

namespace Run

variable {s : Settings} {p : Plan} {t₀ : Telemetry} {l : Telemetry.Ledger}
  {span : Span} {opened ended : List Span} {w : World}

/-! ### The fetch -/

/-- How the fetch step ends, what it makes of its span, and its entries, by the end of the fetch and
the fault of closing the session. -/
inductive FetchEnd (fetched : Except Failure FetchResult) (closing : Option Fault) (span : Span) :
    Except Failure StepResult → Span → List Entry → Prop where
  | succeeded (r : FetchResult) (hf : fetched = .ok r) (hc : closing = none) :
    FetchEnd fetched closing span (.ok (succeededFetch r))
      (span.fetched r.bytesWritten r.durationMs) [.fetch r.bytesWritten r.durationMs]
  | failed (e : Failure) (hf : fetched = .error e) (he : e.fault.isFetch = true)
      (hc : closing = none) (durationMs : Numeric.Binary64) :
    FetchEnd fetched closing span (.ok (failedFetch e.fault durationMs))
      (span.failed "fetch" e.fault) [.failure "fetch" e.fault.className]
  | failedUnclosed (e : Failure) (hf : fetched = .error e) (he : e.fault.isFetch = true) (f : Fault)
      (hc : closing = some f) :
    FetchEnd fetched closing span (.error ⟨f, none⟩)
      (span.failed "fetch" e.fault) [.failure "fetch" e.fault.className]
  | unclosed (r : FetchResult) (hf : fetched = .ok r) (f : Fault) (hc : closing = some f) :
    FetchEnd fetched closing span (.error ⟨f, none⟩) span []
  | brokenOff (e : Failure) (hf : fetched = .error e) (he : e.fault.isFetch = false)
      (other : Failure) :
    FetchEnd fetched closing span (.error other) span []

/-- What the fetch step does within its span. -/
theorem fetchBody_end (h : Exporting t₀ l (span :: opened) ended w.telemetry)
    (start : Numeric.Binary64) :
    ∃ r u span' es, (tryFetch s p start >>= concludeFetch) w = (r, u) ∧
      FetchEnd (fetchPlanned s p w).1 w.replies.closing span r span' es ∧
      Exporting t₀ (l.enterAll es) (span' :: opened) ended u.telemetry := by
  have hclosing := closing_fetchPlanned (s := s) (p := p) w
  have htelemetry : (fetchPlanned s p w).2.telemetry = w.telemetry :=
    Fetch.keeps_telemetry_fetch w
  generalize hq : fetchPlanned s p w = q at hclosing htelemetry
  obtain ⟨r, v⟩ := q
  have hv : Exporting t₀ l (span :: opened) ended v.closed.telemetry := htelemetry.symm ▸ h
  -- a fault of closing the session takes the place of whatever the fetch came to
  rw [← hclosing]
  cases r with
  | ok result =>
    have ht : tryFetch s p start w = (orClosing v (.ok (.ok result)), v.closed) :=
      tryFetch_of_ok hq
    cases hc : v.replies.closing with
    | none =>
      rw [orClosing, hc] at ht
      refine ⟨_, _, _, _, bind_of_ok ht, .succeeded result rfl rfl, ?_⟩
      rw [snd_bind_of_keeps (f := World.telemetry)
        fun _ => keeps_telemetry_log.bind fun _ => keeps_pure _]
      exact hv.recordFetch result.bytesWritten result.durationMs
    | some f =>
      rw [orClosing, hc] at ht
      exact ⟨_, _, _, _, bind_of_error ht, .unclosed result rfl f rfl, hv⟩
  | error e =>
    cases he : e.fault.isFetch with
    | false =>
      have ht : tryFetch s p start w = (orClosing v (.error e), v.closed) :=
        tryFetch_of_error hq he
      cases hc : v.replies.closing with
      | none =>
        rw [orClosing, hc] at ht
        exact ⟨_, _, _, _, bind_of_error ht, .brokenOff e rfl he e, hv⟩
      | some f =>
        rw [orClosing, hc] at ht
        exact ⟨_, _, _, _, bind_of_error ht, .brokenOff e rfl he ⟨f, none⟩, hv⟩
    | true =>
      have ht := tryFetch_of_isFetch start hq he
      have hrecord := hv.recordFailure "fetch" e.fault
      cases hc : v.replies.closing with
      | none =>
        rw [orClosing, hc] at ht
        exact ⟨_, _, _, _, bind_of_ok ht, .failed e rfl he rfl _, hrecord⟩
      | some f =>
        rw [orClosing, hc] at ht
        exact ⟨_, _, _, _, bind_of_error ht, .failedUnclosed e rfl he f rfl, hrecord⟩

/-! ### The tests -/

/-- How the step that runs the tests ends, what it makes of its span, and its entries, by what the
launch comes to. -/
inductive TestsEnd (c : TestCommand) (launched : Except Fault Int) (span : Span) :
    Except Failure TestRun → Span → List Entry → Prop where
  | exited (n : Int) (hn : launched = .ok n) (durationMs : Numeric.Binary64) :
    TestsEnd c launched span (.ok ⟨Launch.exitCode n, durationMs, none⟩)
      (span.exited (Launch.exitCode n)) [.exit (Launch.exitCode n) durationMs]
  | refused (f : Fault) (hf : launched = .error f) (message : String) (command : List String)
      (exitCode : Int) (hl : (refusal c f).fault = .launch message command exitCode)
      (durationMs : Numeric.Binary64) :
    TestsEnd c launched span (.ok ⟨exitCode, durationMs, some message⟩)
      (span.failed "tests" (.launch message command exitCode)) [.failure "tests" "LaunchError"]
  | brokenOff (f : Fault) (hf : launched = .error f)
      (hl : ∀ message command exitCode, (refusal c f).fault ≠ .launch message command exitCode) :
    TestsEnd c launched span (.error (refusal c f)) span []

/-- What the step that runs the tests does within its span. -/
theorem testsBody_end (h : Exporting t₀ l (span :: opened) ended w.telemetry)
    (start : Numeric.Binary64) :
    ∃ r u span' es, (tryTests p start >>= concludeTests) w = (r, u) ∧
      TestsEnd p.command w.nextLaunch.result span r span' es ∧
      Exporting t₀ (l.enterAll es) (span' :: opened) ended u.telemetry := by
  obtain ⟨he, -⟩ := command_apply p.command w
  have htelemetry : (p.command.run w).2.telemetry = w.telemetry :=
    TestCommand.keeps_telemetry_run w
  generalize hq : p.command.run w = q at he htelemetry
  obtain ⟨r, v⟩ := q
  have hv : Exporting t₀ l (span :: opened) ended v.telemetry := htelemetry.symm ▸ h
  cases hl : w.nextLaunch.result with
  | ok n =>
    rw [hl] at he
    obtain rfl : r = .ok (Launch.exitCode n) := he
    have ht : tryTests p start w =
        (.ok ⟨Launch.exitCode n, elapsedMs start v.reading, none⟩, v) :=
      handle_of_ok (bind_of_ok hq)
    exact ⟨_, _, _, _, bind_of_ok ht, .exited n rfl _, hv.recordExit _ _⟩
  | error f =>
    rw [hl] at he
    obtain rfl : r = .error (refusal p.command f) := he
    have ht : tryTests p start w = recoverTests start (refusal p.command f) v :=
      handle_of_error (bind_of_error hq)
    -- only a refusal with an exit code is recorded, any other leaves the span as it is
    obtain ⟨message, command, exitCode, hf, hr⟩ | ⟨hf, hr⟩ :=
      recoverTests_apply start (refusal p.command f) v
    · rw [hr, hf] at ht
      have hrecord := hv.recordFailure "tests" (.launch message command exitCode)
      exact ⟨_, _, _, _, bind_of_ok ht, .refused f rfl _ _ _ hf _, hrecord⟩
    · rw [hr] at ht
      exact ⟨_, _, _, _, bind_of_error ht, .brokenOff f rfl hf, hv⟩

/-! ### Both steps -/

/-- The span of the fetch when it begins. -/
def fetchSpan (p : Plan) : Span :=
  .begun [] "fetch" [("http.url", .text p.remote.url), ("file.path", .text p.destination)]

/-- The span of the tests when it begins. -/
def testsSpan (p : Plan) : Span := .begun [] "tests" [("process.command", .text p.command.line)]

theorem keeps_telemetry_warn {t : StepResult} : Keeps World.telemetry (warn p t) :=
  .ite (keeps_pure _) keeps_telemetry_log

theorem fetchStep_end (h : Exporting t₀ l [] ended w.telemetry) :
    ∃ r u span es, fetchStep s p w = (r, u) ∧
      FetchEnd (fetchPlanned s p w).1 w.replies.closing (fetchSpan p) r span es ∧
      Exporting t₀ (l.enterAll es) [] (ended ++ [span.close r]) u.telemetry := by
  let v := w.onTelemetry (·.beginSpan "fetch"
    [("http.url", .text p.remote.url), ("file.path", .text p.destination)])
  have hv : Exporting t₀ l [fetchSpan p] ended v.telemetry := h.beginSpan _ _
  obtain ⟨r, u, span, es, hb, hend, hu⟩ := fetchBody_end (s := s) (p := p) hv w.reading
  obtain ⟨u', hs, hu'⟩ := h.inSpan rfl hb hu
  rw [fetchPlanned_fst (v := v) (w := w) rfl] at hend
  exact ⟨r, u', span, es, hs, hend, hu'⟩

theorem testsStep_end (h : Exporting t₀ l [] ended w.telemetry) :
    ∃ r u span es, testsStep p w = (r, u) ∧
      TestsEnd p.command w.nextLaunch.result (testsSpan p) r span es ∧
      Exporting t₀ (l.enterAll es) [] (ended ++ [span.close r]) u.telemetry := by
  let v := w.onTelemetry (·.beginSpan "tests" [("process.command", .text p.command.line)])
  have hv : Exporting t₀ l [testsSpan p] ended v.telemetry := h.beginSpan _ _
  obtain ⟨r, u, span, es, hb, hend, hu⟩ := testsBody_end (p := p) hv w.reading
  obtain ⟨u', hs, hu'⟩ := h.inSpan rfl hb hu
  exact ⟨r, u', span, es, hs, hend, hu'⟩

/-- How the steps end, and what they report: the results of the steps, their spans, and their
entries. -/
inductive StepsEnd (s : Settings) (p : Plan) (fetched : Except Failure FetchResult)
    (closing : Option Fault) (launched : Except Fault Int) :
    Except Failure Int → List StepResult → List Span → List Entry → Prop where
  | fetchBrokenOff {e : Failure} {span : Span} {es : List Entry}
      (hf : FetchEnd fetched closing (fetchSpan p) (.error e) span es) :
    StepsEnd s p fetched closing launched (.error e) [] [span.leave e.fault] es
  | gaveUp {t : StepResult} {span : Span} {es : List Entry}
      (hf : FetchEnd fetched closing (fetchSpan p) (.ok t) span es)
      (ha : (!t.success && s.abortOnFetchFailure) = true) :
    StepsEnd s p fetched closing launched (.ok 1) [t] [span] es
  | testsBrokenOff {t : StepResult} {e : Failure} {span span' : Span} {es es' : List Entry}
      (hf : FetchEnd fetched closing (fetchSpan p) (.ok t) span es)
      (ha : (!t.success && s.abortOnFetchFailure) = false)
      (ht : TestsEnd p.command launched (testsSpan p) (.error e) span' es') :
    StepsEnd s p fetched closing launched (.error e) [t] [span, span'.leave e.fault] (es ++ es')
  | tested {t : StepResult} {x : TestRun} {span span' : Span} {es es' : List Entry}
      (hf : FetchEnd fetched closing (fetchSpan p) (.ok t) span es)
      (ha : (!t.success && s.abortOnFetchFailure) = false)
      (ht : TestsEnd p.command launched (testsSpan p) (.ok x) span' es') :
    StepsEnd s p fetched closing launched (.ok x.exitCode) [t, x.toStepResult] [span, span']
      (es ++ es')

/-- **With telemetry that exports, the steps report as `StepsEnd` says.** -/
theorem steps_end {r : Run} {v : World} (h : prepare s r.world = (.ok (), v))
    (hx : Exporting t₀ {} [] [] v.telemetry) (hr : r.summary.results = []) :
    ∃ results spans es,
      StepsEnd s p (fetchPlanned s p r.world).1 r.world.replies.closing r.world.nextLaunch.result
        (steps s p r).1 results spans es ∧
      (steps s p r).2.summary.results = results ∧
      Exporting t₀ (Telemetry.Ledger.enterAll {} es) [] spans
        (steps s p r).2.world.telemetry := by
  have ho := outside_of_prepare h
  obtain ⟨fetched, u, span, es, hfetch, hend, hu⟩ := fetchStep_end (s := s) (p := p) hx
  obtain ⟨-, hafter, -⟩ := fetchStep_apply (s := s) (p := p) (hasTracer_of_prepare h) ho
  rw [hfetch] at hafter
  have hn : u.nextLaunch = r.world.nextLaunch :=
    (nextLaunch_of_outside hafter).trans (nextLaunch_closed_fetchPlanned _)
  have hclosing : v.replies.closing = r.world.replies.closing :=
    congrArg (·.closing) (World.outside_eq_iff.mp ho).1
  rw [fetchPlanned_fst ho, hclosing] at hend
  rw [steps, bind_of_ok (onWorld_of h)]
  cases fetched with
  | error e =>
    rw [stepsBy, bind_of_error (onWorld_of hfetch)]
    exact ⟨[], _, es, .fetchBrokenOff hend, hr, hu⟩
  | ok t =>
    rw [stepsBy_of_ok hfetch]
    have hresults : (r.summary.add t).results = [t] := by rw [Summary.add, hr, List.nil_append]
    cases ha : !t.success && s.abortOnFetchFailure with
    | true =>
      refine ⟨[t], _, es, .gaveUp hend ha, hresults, ?_⟩
      exact (World.telemetry_report ..).symm ▸ hu
    | false =>
      obtain ⟨u₁, hw, ho₁, -⟩ := warn_apply (p := p) t u
      have hu₁ : u₁.telemetry = u.telemetry := by
        have hk := keeps_telemetry_warn (p := p) (t := t) u
        rwa [hw] at hk
      obtain ⟨tested, u₂, span', es', htests, htend, hu₂⟩ := testsStep_end (p := p) (hu₁ ▸ hu)
      rw [nextLaunch_of_outside ho₁, hn] at htend
      have hgo : goOn (testsStep p) p t ⟨u, r.summary.add t⟩ =
          (onWorld (testsStep p) >>= fun tested => do
            collect tested.toStepResult
            conclude tested.exitCode) ⟨u₁, r.summary.add t⟩ := bind_of_ok (onWorld_of hw)
      rw [if_neg Bool.false_ne_true, hgo]
      rw [← Telemetry.Ledger.enterAll_append] at hu₂
      cases tested with
      | error e =>
        rw [bind_of_error (onWorld_of htests)]
        exact ⟨[t], _, _, .testsBrokenOff hend ha htend, hresults, hu₂⟩
      | ok x =>
        rw [bind_of_ok (onWorld_of htests)]
        refine ⟨[t, x.toStepResult], _, _, .tested hend ha htend, ?_, hu₂⟩
        exact congrArg (· ++ [x.toStepResult]) hresults

end Run

end PinnedRun
