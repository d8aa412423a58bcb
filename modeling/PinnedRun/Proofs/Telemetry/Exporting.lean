import PinnedRun.Proofs.Telemetry.Metrics
import PinnedRun.Proofs.Telemetry.Release

/-!
# Telemetry that exports

After a first start with an endpoint whose exporters do not fail, telemetry exports: spans that end
are delivered, and records are entered into the ledger that a stop delivers as metrics
(`exporting_start`, `Exporting.stop`). In between an action in a span delivers that span once, as
the action and the fault that leaves it have made it (`Exporting.inSpan`).

* `Exporting t₀ l opened ended t` : the telemetry `t` exports; since `t₀` the spans `ended` have
  been delivered, the spans `opened` are open, and the ledger is `l`;
* `Span.fetched`, `Span.failed` and `Span.exited` are what the three records do to a span.
-/

namespace PinnedRun.Telemetry

open Numeric (Binary64)
open PinnedRun.Action

/-! ### Spans -/

namespace Span

/-- The name of a span and that of its parent. -/
def origin (s : Span) : String × Option String := (s.name, s.parent)

/-- A span that has just begun within open spans. -/
def begun (opened : List Span) (name : String) (attributes : List (String × AttributeValue)) :
    Span :=
  ({ name := spanName name, parent := opened.head?.map (·.name) } : Span).setAttributes attributes

/-- The span of a fetch that succeeded. -/
def fetched (bytes : Int) (duration : Binary64) (s : Span) : Span :=
  ((s.setAttribute "fetch.bytes" (.integer bytes)).setAttribute
    "fetch.duration_ms" (.real duration)).setStatus .ok

/-- The event of a step that failed. -/
def failure (step : String) (f : Fault) : Event :=
  ⟨step ++ "_failed", [("error.type", f.className), ("error.message", f.message)]⟩

/-- The span of a step that failed. -/
def failed (step : String) (f : Fault) (s : Span) : Span :=
  ((s.addEvent (failure step f)).setStatus (.error f.message)).recordFault f

/-- The span of a test run that ended with an exit code. -/
def exited (exitCode : Int) (s : Span) : Span :=
  (s.setAttribute "process.exit_code" (.integer exitCode)).setStatus
    (if exitCode = 0 then .ok else .error ("exit code " ++ toString exitCode))

/-- The span as the end of what it stands for leaves it. -/
def close {α : Type} (s : Span) : Except Failure α → Span
  | .ok _ => s
  | .error e => s.leave e.fault

variable (s : Span)

@[simp] theorem origin_setStatus (status : Status) : (s.setStatus status).origin = s.origin := by
  unfold setStatus
  split <;> rfl

@[simp] theorem origin_setAttribute (name : String) (value : AttributeValue) :
    (s.setAttribute name value).origin = s.origin := by
  unfold setAttribute
  split <;> rfl

@[simp] theorem status_setAttribute (name : String) (value : AttributeValue) :
    (s.setAttribute name value).status = s.status := by
  unfold setAttribute
  split <;> rfl

@[simp] theorem origin_recordFault (f : Fault) : (s.recordFault f).origin = s.origin := rfl

@[simp] theorem origin_addEvent (e : Event) : (s.addEvent e).origin = s.origin := rfl

@[simp] theorem status_recordFault (f : Fault) : (s.recordFault f).status = s.status := rfl

@[simp] theorem events_setAttribute (name : String) (value : AttributeValue) :
    (s.setAttribute name value).events = s.events := by
  unfold setAttribute
  split <;> rfl

@[simp] theorem events_setStatus (status : Status) : (s.setStatus status).events = s.events := by
  unfold setStatus
  split <;> rfl

theorem setAttributes_frame (pairs : List (String × AttributeValue)) :
    (s.setAttributes pairs).origin = s.origin ∧ (s.setAttributes pairs).status = s.status ∧
      (s.setAttributes pairs).events = s.events := by
  unfold setAttributes
  induction pairs generalizing s with
  | nil => exact ⟨rfl, rfl, rfl⟩
  | cons p pairs ih =>
    obtain ⟨ho, hs, he⟩ := ih (s.setAttribute p.1 p.2)
    exact ⟨ho.trans (s.origin_setAttribute ..), hs.trans (s.status_setAttribute ..),
      he.trans (s.events_setAttribute ..)⟩

variable {s}

/-- A status that is not good is replaced. -/
theorem status_setStatus (h : s.status ≠ .ok) (status : Status) :
    (s.setStatus status).status = status := by
  unfold setStatus
  rw [if_neg h]

theorem status_begun (opened : List Span) (name : String)
    (attributes : List (String × AttributeValue)) :
    (begun opened name attributes).status = .unset := (setAttributes_frame _ _).2.1

theorem events_begun (opened : List Span) (name : String)
    (attributes : List (String × AttributeValue)) :
    (begun opened name attributes).events = [] := (setAttributes_frame _ _).2.2

theorem origin_begun (opened : List Span) (name : String)
    (attributes : List (String × AttributeValue)) :
    (begun opened name attributes).origin = (spanName name, opened.head?.map (·.name)) :=
  (setAttributes_frame _ _).1

@[simp] theorem origin_close {α : Type} (r : Except Failure α) : (s.close r).origin = s.origin := by
  cases r with
  | ok a => rfl
  | error e =>
    unfold close leave
    dsimp only
    split
    · simp
    · rfl

/-- A fault that leaves a span does not make its status good. -/
theorem status_close_ne_ok {α : Type} (h : s.status ≠ .ok) (r : Except Failure α) :
    (s.close r).status ≠ .ok := by
  cases r with
  | ok a => exact h
  | error e =>
    unfold close leave
    dsimp only
    split
    · rw [status_setStatus (by simpa using h)]
      exact nofun
    · exact h

theorem status_fetched (bytes : Int) (duration : Binary64) :
    (s.fetched bytes duration).status = .ok := by
  unfold fetched setStatus
  split
  · assumption
  · rfl

theorem status_failed (h : s.status ≠ .ok) (step : String) (f : Fault) :
    (s.failed step f).status = .error f.message := by
  unfold failed
  rw [status_recordFault]
  exact status_setStatus (s := s.addEvent _) h _

theorem events_failed (step : String) (f : Fault) :
    (s.failed step f).events = s.events ++ [failure step f, ⟨"exception",
      [("exception.type", f.qualifiedName), ("exception.message", f.message)]⟩] := by
  unfold failed recordFault
  simp [addEvent]

theorem status_exited_iff (h : s.status ≠ .ok) (exitCode : Int) :
    (s.exited exitCode).status = .ok ↔ exitCode = 0 := by
  unfold exited
  rw [status_setStatus (by simpa using h)]
  split <;> simp [*]

end Span

/-! ### An action in a span -/

/-- Where spans are received, an action in a span ends as it does by itself once the span has begun,
and then the span is closed. -/
theorem inSpan_apply {α : Type} {w v : World} {name : String}
    {attributes : List (String × AttributeValue)} {x : Action World α} {r : Except Failure α}
    (htracer : w.telemetry.handles.tracer = true) (htracing : w.telemetry.isTracing = true)
    (hn : reservedName? attributes = none)
    (hx : x (w.onTelemetry (·.beginSpan name attributes)) = (r, v)) :
    inSpan name attributes x w =
      (r, v.onTelemetry fun t => (t.onSpan (·.close r)).endSpan) := by
  -- spans are received, so there is a provider and the span begins
  have hinstalled : w.telemetry.registry.tracing.installed.isNone = false := by
    unfold isTracing Providers.current at htracing
    cases hi : w.telemetry.registry.tracing.installed with
    | none => simp [hi] at htracing
    | some i => rfl
  unfold inSpan
  rw [hn]
  dsimp only
  rw [htracer, if_pos rfl]
  unfold traced
  rw [hinstalled, hx]
  cases r with
  | ok a =>
    have hid : v.telemetry.onSpan (·.close (.ok a : Except Failure α)) = v.telemetry := by
      have hclose : (fun s : Span => s.close (.ok a : Except Failure α)) = id := rfl
      rw [hclose]
      simp only [onSpan, onRegistry, List.modifyHead_id, id]
    simp [World.onTelemetry, hid]
  | error e => rfl

/-! ### The invariant -/

/-- The telemetry `t` exports. Since `t₀` the spans `ended` have been delivered, the spans `opened`
are open, the innermost first, and the ledger `l` holds what has been entered. -/
structure Exporting (t₀ : Telemetry) (l : Ledger) (opened ended : List Span) (t : Telemetry) :
    Prop where
  metered : ∃ i, Metered i { exports := true, ledger := l } t
  tracer : t.handles.tracer = true
  tracing : t.isTracing = true
  openSpans : t.registry.openSpans = opened
  spans : t.registry.spans = t₀.registry.spans ++ ended
  metrics : t.registry.metrics = t₀.registry.metrics

namespace Exporting

variable {t₀ t : Telemetry} {l : Ledger} {span : Span} {opened ended : List Span}

theorem beginSpan (h : Exporting t₀ l opened ended t) (name : String)
    (attributes : List (String × AttributeValue)) :
    Exporting t₀ l (.begun opened name attributes :: opened) ended
      (t.beginSpan name attributes) where
  metered := h.metered.imp fun _ h => { h with }
  tracer := h.tracer
  tracing := h.tracing
  openSpans := by
    rw [← h.openSpans]
    rfl
  spans := h.spans
  metrics := h.metrics

theorem onSpan (h : Exporting t₀ l opened ended t) (f : Span → Span) :
    Exporting t₀ l (opened.modifyHead f) ended (t.onSpan f) where
  metered := h.metered.imp fun _ h => { h with }
  tracer := h.tracer
  tracing := h.tracing
  openSpans := congrArg (List.modifyHead f) h.openSpans
  spans := h.spans
  metrics := h.metrics

theorem endSpan (h : Exporting t₀ l opened ended t) :
    Exporting t₀ l opened.tail (ended ++ opened.head?.toList) t.endSpan where
  metered := h.metered.imp fun _ h => { h with }
  tracer := h.tracer
  tracing := h.tracing
  openSpans := congrArg List.tail h.openSpans
  spans := by
    simp [Telemetry.endSpan, onRegistry, h.tracing, h.openSpans, h.spans]
  metrics := h.metrics

/-- A span ends as the end of what it stands for closes it. -/
theorem close {α : Type} (h : Exporting t₀ l opened ended t) (r : Except Failure α) :
    Exporting t₀ l opened.tail (ended ++ (opened.head?.map (·.close r)).toList)
      (t.onSpan (·.close r)).endSpan := by
  have hended := (h.onSpan (·.close r)).endSpan
  rwa [List.head?_modifyHead, List.tail_modifyHead] at hended

theorem onLedger (h : Exporting t₀ l opened ended t) (e : Entry) :
    Exporting t₀ (e.enter l) opened ended (t.onLedger e.enter) := by
  obtain ⟨m, hm⟩ := onLedger_eq t e.enter
  have hmetered := h.metered.imp fun _ h => h.onLedger (f := e.enter) rfl
  rw [hm] at hmetered ⊢
  exact ⟨hmetered, h.tracer, h.tracing, h.openSpans, h.spans, h.metrics⟩

/-! A record changes the innermost span and makes one entry. -/

section

variable {w : World} (h : Exporting t₀ l (span :: opened) ended w.telemetry)

include h

theorem recordFetch (bytes : Int) (duration : Binary64) :
    Exporting t₀ (l.enterAll [.fetch bytes duration]) (span.fetched bytes duration :: opened) ended
      (Telemetry.recordFetch bytes duration w).2.telemetry :=
  (h.onSpan (·.fetched bytes duration)).onLedger (.fetch bytes duration)

theorem recordFailure (step : String) (f : Fault) :
    Exporting t₀ (l.enterAll [.failure step f.className]) (span.failed step f :: opened) ended
      (Telemetry.recordFailure step f w).2.telemetry :=
  (h.onSpan (·.failed step f)).onLedger (.failure step f.className)

theorem recordExit (exitCode : Int) (duration : Binary64) :
    Exporting t₀ (l.enterAll [.exit exitCode duration]) (span.exited exitCode :: opened) ended
      (Telemetry.recordExit exitCode duration w).2.telemetry :=
  (h.onSpan (·.exited exitCode)).onLedger (.exit exitCode duration)

end

/-- An action that delivers no other spans delivers its own one, as it leaves it. -/
theorem inSpan {α : Type} {w v : World} {name : String}
    {attributes : List (String × AttributeValue)} {x : Action World α} {r : Except Failure α}
    {l' : Ledger} (h : Exporting t₀ l opened ended w.telemetry)
    (hn : reservedName? attributes = none)
    (hx : x (w.onTelemetry (·.beginSpan name attributes)) = (r, v))
    (hv : Exporting t₀ l' (span :: opened) ended v.telemetry) :
    ∃ u, Telemetry.inSpan name attributes x w = (r, u) ∧
      Exporting t₀ l' opened (ended ++ [span.close r]) u.telemetry :=
  ⟨_, inSpan_apply h.tracer h.tracing hn hx, hv.close r⟩

end Exporting

/-! ### From the start to the stop -/

variable {s : TelemetrySettings} {t₀ : Telemetry} {l : Ledger} {w v : World} {ended : List Span}

/-- **The first start with an endpoint that comes to its end makes telemetry that exports.** -/
theorem exporting_start (hh : w.telemetry.handles = {}) (hu : w.telemetry.registry.Unused)
    (he : s.enabled = true) (hn : s.endpoint?.isSome = true) (h : start s w = (.ok (), v)) :
    Exporting w.telemetry {} [] [] v.telemetry := by
  have h₀ : Unmetered w.telemetry w.telemetry :=
    unmetered_self ((congrArg Handles.instrumented hh).trans hu.instrumented.symm)
  obtain ⟨e, v', hv, -⟩ | ⟨t, v', hv, ht, hmade⟩ := start_cases he h₀
  · exact nomatch h.symm.trans hv
  · obtain rfl : v = v' := congrArg Prod.snd (h.symm.trans hv)
    rw [hn] at hmade
    refine ⟨⟨_, hmade ▸ metered_makeMeterProvider (ht.metering ▸ hu.metering)⟩,
      hasTracer_of_start h, isTracing_of_start he h hu.tracing, ?_, ?_, ?_⟩ <;> rw [hmade]
    · exact ht.openSpans.trans hu.openSpans
    · exact ht.spans.trans (List.append_nil _).symm
    · exact ht.metrics

/-- A stop that does not fail delivers the metrics of the ledger. -/
theorem Exporting.stop (h : Exporting t₀ l [] ended v.telemetry) (hf : flushFault v = none) :
    (stop v).2.telemetry.registry.openSpans = [] ∧
      (stop v).2.telemetry.registry.spans = t₀.registry.spans ++ ended ∧
      (stop v).2.telemetry.registry.metrics = t₀.registry.metrics ++ l.metrics := by
  obtain ⟨tracing, metering, instrumented, hs, -⟩ := telemetry_stop hf
  obtain ⟨i, hm⟩ := h.metered
  have ho : v.telemetry.outstanding = l.metrics := hm.outstanding
  rw [hs]
  exact ⟨h.openSpans, h.spans, by rw [ho, h.metrics]⟩

/-! ### What entries count -/

variable (es : List Entry) (r : Result)

theorem Ledger.count_fetches_enterAll (l : Ledger) :
    (l.enterAll es).fetches.count r =
      l.fetches.count r + es.countP fun e => e.ofFetch && e.result = r := by
  induction es generalizing l with
  | nil => rfl
  | cons e es ih =>
    have hstep : (e.enter l).fetches.count r =
        l.fetches.count r + if e.ofFetch && e.result = r then 1 else 0 := by
      cases he : e.ofFetch with
      | true => simp [(Entry.enter_of_fetch he l).1, Tally.count_add]
      | false => simp [(Entry.enter_of_test he l).2.1]
    rw [List.countP_cons, Nat.add_comm (List.countP ..), ← Nat.add_assoc, ← hstep]
    exact ih (e.enter l)

theorem Ledger.count_testRuns_enterAll (l : Ledger) :
    (l.enterAll es).testRuns.count r =
      l.testRuns.count r + es.countP fun e => !e.ofFetch && e.result = r := by
  induction es generalizing l with
  | nil => rfl
  | cons e es ih =>
    have hstep : (e.enter l).testRuns.count r =
        l.testRuns.count r + if !e.ofFetch && e.result = r then 1 else 0 := by
      cases he : e.ofFetch with
      | true => simp [(Entry.enter_of_fetch he l).2.1]
      | false => simp [(Entry.enter_of_test he l).1, Tally.count_add]
    rw [List.countP_cons, Nat.add_comm (List.countP ..), ← Nat.add_assoc, ← hstep]
    exact ih (e.enter l)

/-- What one more result preserves of a tally holds of both tallies after entries. -/
theorem tallies_enterAll {P : Tally → Prop} (hadd : ∀ t r, P t → P (t.add r)) {l : Ledger}
    (h : P l.fetches ∧ P l.testRuns) : P (l.enterAll es).fetches ∧ P (l.enterAll es).testRuns := by
  induction es generalizing l with
  | nil => exact h
  | cons e es ih =>
    refine ih ?_
    cases he : e.ofFetch with
    | true =>
      obtain ⟨hf, hr, -⟩ := Entry.enter_of_fetch he l
      exact ⟨hf ▸ hadd _ _ h.1, hr ▸ h.2⟩
    | false =>
      obtain ⟨hr, hf, -⟩ := Entry.enter_of_test he l
      exact ⟨hf ▸ h.1, hr ▸ hadd _ _ h.2⟩

theorem unique_enterAll {l : Ledger} (h : l.Unique) : (l.enterAll es).Unique := by
  obtain ⟨hf, hr⟩ := tallies_enterAll (P := Keyed.Unique) es (fun _ r h => Tally.unique_add h r)
    ⟨h.fetches, h.testRuns⟩
  exact ⟨hf, hr⟩

end PinnedRun.Telemetry
