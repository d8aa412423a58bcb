import PinnedRun.Proofs.Telemetry.Spans

/-!
# What activities enter into the ledger

Spans aside, performing an activity does nothing but make entries in the ledger of the installed
provider of metrics. Which entries these are, and which fault comes out, is told by
`Activity.tally`, which knows neither spans nor providers (`lockstep_perform`).

* `Entry` is what a record enters, `Telemetry.enterAll` makes entries in turn;
* `Entered v w es` : spans aside, `w` is the world `v` after the entries `es`;
* `Metered i p t` : entries go to the provider of metrics with the number `i`, which is `p`.
-/

namespace PinnedRun.Telemetry

open Numeric (Binary64)
open PinnedRun.Action

/-- What a record enters into the ledger. -/
inductive Entry where
  | fetch (bytes : Int) (duration : Binary64)
  | failure (step errorType : String)
  | exit (exitCode : Int) (duration : Binary64)
deriving DecidableEq

/-- Makes an entry. -/
def Entry.enter : Entry → Ledger → Ledger
  | fetch bytes duration, l => l.addFetch bytes duration
  | failure step errorType, l => l.addFailure step errorType
  | exit exitCode duration, l => l.addExit exitCode duration

/-- The entry is one of a fetch, and not one of a test run. -/
def Entry.ofFetch : Entry → Bool
  | fetch _ _ => true
  | failure step _ => step = "fetch"
  | exit _ _ => false

/-- The result that an entry counts. -/
def Entry.result : Entry → Result
  | fetch _ _ => .success
  | failure _ errorType => .failedBy errorType
  | exit exitCode _ => if exitCode = 0 then .success else .failed

/-- A ledger with entries made in turn. -/
def Ledger.enterAll (l : Ledger) (es : List Entry) : Ledger := es.foldl (fun l e => e.enter l) l

theorem Ledger.enterAll_append (l : Ledger) (es es' : List Entry) :
    l.enterAll (es ++ es') = (l.enterAll es).enterAll es' := List.foldl_append

/-- An entry of a fetch counts its result with the fetches, and leaves what is known of test runs
alone. -/
theorem Entry.enter_of_fetch {e : Entry} (h : e.ofFetch = true) (l : Ledger) :
    (e.enter l).fetches = l.fetches.add e.result ∧ (e.enter l).testRuns = l.testRuns ∧
      (e.enter l).testDuration = l.testDuration := by
  cases e with
  | fetch bytes duration => exact ⟨rfl, rfl, rfl⟩
  | failure step errorType =>
    have hs : step = "fetch" := of_decide_eq_true h
    simp [enter, result, Ledger.addFailure, hs]
  | exit exitCode duration => cases h

/-- An entry of a test run counts its result with the test runs, and leaves what is known of fetches
alone. -/
theorem Entry.enter_of_test {e : Entry} (h : e.ofFetch = false) (l : Ledger) :
    (e.enter l).testRuns = l.testRuns.add e.result ∧ (e.enter l).fetches = l.fetches ∧
      (e.enter l).fetchLatency = l.fetchLatency ∧ (e.enter l).fetchSize = l.fetchSize := by
  cases e with
  | fetch bytes duration => cases h
  | failure step errorType =>
    have hs : step ≠ "fetch" := of_decide_eq_false h
    simp [enter, result, Ledger.addFailure, hs]
  | exit exitCode duration => exact ⟨rfl, rfl, rfl, rfl⟩

theorem Ledger.fetches_enterAll {es : List Entry} (h : ∀ e ∈ es, e.ofFetch = false) (l : Ledger) :
    (l.enterAll es).fetches = l.fetches ∧ (l.enterAll es).fetchLatency = l.fetchLatency ∧
      (l.enterAll es).fetchSize = l.fetchSize := by
  induction es generalizing l with
  | nil => exact ⟨rfl, rfl, rfl⟩
  | cons e es ih =>
    obtain ⟨he, hes⟩ := List.forall_mem_cons.1 h
    obtain ⟨-, hfetches, hlatency, hsize⟩ := Entry.enter_of_test he l
    obtain ⟨hf, hl, hs⟩ := ih hes (e.enter l)
    exact ⟨hf.trans hfetches, hl.trans hlatency, hs.trans hsize⟩

theorem Ledger.testRuns_enterAll {es : List Entry} (h : ∀ e ∈ es, e.ofFetch = true) (l : Ledger) :
    (l.enterAll es).testRuns = l.testRuns := by
  induction es generalizing l with
  | nil => rfl
  | cons e es ih =>
    obtain ⟨he, hes⟩ := List.forall_mem_cons.1 h
    exact (ih hes _).trans (Entry.enter_of_fetch he l).2.1

/-- The telemetry with entries made in turn. -/
def enterAll (t : Telemetry) (es : List Entry) : Telemetry :=
  es.foldl (fun t e => t.onLedger e.enter) t

/-- Notes an entry. -/
def note (e : Entry) : Action (List Entry) Unit := Action.change (· ++ [e])

mutual

/-- The entries that an activity makes and the fault that comes out of it, with or without a
tracer. -/
def Activity.tally (tracer : Bool) : Activity → Action (List Entry) Unit
  | .fetched bytes duration => note (.fetch bytes duration)
  | .failed step fault => note (.failure step fault.className)
  | .exited exitCode duration => note (.exit exitCode duration)
  | .raise fault => fail ⟨fault, none⟩
  | .span _ attributes body =>
    match reservedName? attributes with
    | some reserved => fail ⟨reservedFault reserved, none⟩
    | none => if tracer then tallyAll tracer body else fail ⟨notStarted, none⟩
  | .guarded body => (tallyAll tracer body).handle fun _ => pure ()

/-- The same for activities in turn, up to the first fault. -/
def tallyAll (tracer : Bool) : List Activity → Action (List Entry) Unit
  | [] => pure ()
  | a :: rest => do
    a.tally tracer
    tallyAll tracer rest

end

/-- The entries that activities make, each of which is performed, whether the ones before it ended
well or not. -/
def entries (tracer : Bool) (activities : List Activity) : List Entry :=
  activities.foldl (fun es a => (a.tally tracer es).2) []

/-- The world after activities, each of which is performed. -/
def performEach (activities : List Activity) (w : World) : World :=
  activities.foldl (fun w a => (a.perform w).2) w

/-- Spans aside, the world `w` is the world `v` after entries. -/
def Entered (v w : World) (es : List Entry) : Prop :=
  w.onTelemetry spanless = v.onTelemetry fun t => (t.enterAll es).spanless

variable {v w : World} {t : Telemetry} {es : List Entry} {f : Ledger → Ledger}

theorem spanless_onLedger : (t.onLedger f).spanless = t.spanless.onLedger f := by
  have ht : t.spanless.handles = t.handles := rfl
  simp only [onLedger, ht]
  split <;> rfl

/-- A change of the ledger changes the providers of metrics only. -/
theorem onLedger_eq (t : Telemetry) (f : Ledger → Ledger) :
    ∃ m, t.onLedger f = t.onRegistry fun r => { r with metering := m } := by
  unfold onLedger
  split
  · exact ⟨_, rfl⟩
  · exact ⟨t.registry.metering, rfl⟩

/-- What lasts through each change of the ledger lasts through entries. -/
theorem enterAll_induction {P : Telemetry → Prop} (hstep : ∀ t f, P t → P (t.onLedger f))
    (h : P t) (es : List Entry) : P (t.enterAll es) := by
  induction es generalizing t with
  | nil => exact h
  | cons e es ih => exact ih (hstep t e.enter h)

/-- Entries change the providers of metrics only. -/
theorem enterAll_eq (t : Telemetry) (es : List Entry) :
    ∃ m, t.enterAll es = t.onRegistry fun r => { r with metering := m } := by
  refine enterAll_induction (P := fun u => ∃ m, u = t.onRegistry fun r => { r with metering := m })
    ?_ ⟨t.registry.metering, rfl⟩ es
  rintro _ f ⟨m, rfl⟩
  obtain ⟨m', hm⟩ := onLedger_eq (t.onRegistry fun r => { r with metering := m }) f
  exact ⟨m', hm⟩

theorem handles_enterAll (t : Telemetry) (es : List Entry) :
    (t.enterAll es).handles = t.handles := by
  obtain ⟨m, hm⟩ := enterAll_eq t es
  rw [hm]
  rfl

theorem handles_onLedger : (t.onLedger f).handles = t.handles := by
  obtain ⟨m, hm⟩ := onLedger_eq t f
  rw [hm]
  rfl

theorem Entered.refl (w : World) : Entered w w [] := rfl

theorem Entered.handles (h : Entered v w es) : w.telemetry.handles = v.telemetry.handles := by
  have h := congrArg (fun w : World => w.telemetry.handles) h
  exact h.trans (handles_enterAll _ es)

theorem Entered.tracing (h : Entered v w es) :
    w.telemetry.registry.tracing = v.telemetry.registry.tracing := by
  have h := congrArg (fun w : World => w.telemetry.registry.tracing) h
  refine h.trans ?_
  obtain ⟨m, hm⟩ := enterAll_eq v.telemetry es
  change (v.telemetry.enterAll es).registry.tracing = _
  rw [hm]
  rfl

theorem Entered.replies (h : Entered v w es) : w.replies = v.replies := by
  have h := congrArg World.replies h
  exact h

theorem ignoresSpans_entered : IgnoresSpans (Entered v) := by
  intro w es f hf h
  have hw := congrArg (fun t => { w with telemetry := t }) (hf w.telemetry)
  exact Eq.trans hw h

theorem lockstep_record (e : Entry) {f : Span → Span} :
    Lockstep (Entered v) (change fun t => (t.onSpan f).onLedger e.enter) (note e) := by
  intro w es h
  refine ⟨rfl, ?_⟩
  have hw : w.telemetry.spanless = (v.telemetry.enterAll es).spanless :=
    congrArg World.telemetry h
  have hs : ((w.telemetry.onSpan f).onLedger e.enter).spanless =
      (v.telemetry.enterAll (es ++ [e])).spanless := by
    rw [spanless_onLedger, onlySpans_onSpan, hw, ← spanless_onLedger]
    simp [enterAll]
  have h' := congrArg (fun u : World => u.onTelemetry fun _ =>
    (v.telemetry.enterAll (es ++ [e])).spanless) h
  exact (congrArg (fun t => { w with telemetry := t }) hs).trans h'

variable {tracer : Bool}

mutual

/-- **Spans aside, an activity makes the entries of its tally, and ends the same way.** -/
theorem lockstep_perform (ht : v.telemetry.handles.tracer = tracer) (a : Activity) :
    Lockstep (Entered v) a.perform (a.tally tracer) :=
  match a with
  | .fetched bytes duration => lockstep_record (.fetch bytes duration)
  | .failed step fault => lockstep_record (.failure step fault.className)
  | .exited exitCode duration => lockstep_record (.exit exitCode duration)
  | .raise fault => lockstep_fail _
  | .span name attributes body => by
    have hbody := lockstep_performAll ht body
    rw [Activity.perform, Activity.tally]
    intro w es h
    have hw : w.telemetry.handles.tracer = tracer := h.handles ▸ ht
    unfold inSpan
    cases reservedName? attributes with
    | some reserved => exact ⟨rfl, h⟩
    | none =>
      dsimp only
      rw [hw]
      cases tracer with
      | false => exact ⟨rfl, h⟩
      | true => exact ignoresSpans_entered.traced hbody w es h
  | .guarded body => (lockstep_performAll ht body).handle fun _ => lockstep_pure ()

theorem lockstep_performAll (ht : v.telemetry.handles.tracer = tracer) (as : List Activity) :
    Lockstep (Entered v) (performAll as) (tallyAll tracer as) :=
  match as with
  | [] => lockstep_pure ()
  | a :: rest => (lockstep_perform ht a).bind fun _ => lockstep_performAll ht rest

end

theorem entered_performEach (ht : v.telemetry.handles.tracer = tracer) (as : List Activity) :
    Entered v (performEach as v) (entries tracer as) := by
  have h : ∀ {w es}, Entered v w es →
      Entered v (performEach as w) (as.foldl (fun es a => (a.tally tracer es).2) es) := by
    induction as with
    | nil => exact fun h => h
    | cons a as ih => exact fun h => ih (lockstep_perform ht a _ _ h).2
  exact h (.refl v)

/-! ### The ledger -/

/-- Entries go to the provider of metrics with the number `i`, which is `p` and is also the one that
the run holds on to. -/
structure Metered (i : Nat) (p : MeterProvider) (t : Telemetry) : Prop where
  instruments : t.handles.instruments = true
  meterProvider : t.handles.meterProvider = some i
  installed : t.registry.metering.installed = some i
  provider : t.registry.metering.all[i]? = some p

variable {i : Nat} {p : MeterProvider}

theorem Metered.onLedger (h : Metered i p t) (hr : p.running = true) :
    Metered i { p with ledger := f p.ledger } (t.onLedger f) where
  instruments := by rw [handles_onLedger, h.instruments]
  meterProvider := by rw [handles_onLedger, h.meterProvider]
  installed := by
    simp [Telemetry.onLedger, h.instruments, onRegistry, Providers.modifyCurrent, h.installed,
      Providers.modify]
  provider := by
    simp [Telemetry.onLedger, h.instruments, onRegistry, Providers.modifyCurrent, h.installed,
      Providers.modify, h.provider, hr]

theorem Metered.enterAll (h : Metered i p t) (hr : p.running = true) (es : List Entry) :
    Metered i { p with ledger := p.ledger.enterAll es } (t.enterAll es) := by
  induction es generalizing t p with
  | nil => exact h
  | cons e es ih => exact ih (h.onLedger (f := e.enter) hr) hr

/-- What no entry changes, entries in turn do not change. -/
theorem enterAll_of_onLedger (h : ∀ f, t.onLedger f = t) (es : List Entry) : t.enterAll es = t := by
  refine enterAll_induction (P := (· = t)) ?_ rfl es
  rintro _ f rfl
  exact h f

theorem enterAll_of_not_installed (h : t.registry.metering.installed = none) (es : List Entry) :
    t.enterAll es = t := by
  refine enterAll_of_onLedger (fun f => ?_) es
  unfold onLedger
  split
  · simp [onRegistry, Providers.modifyCurrent, h]
  · rfl

end PinnedRun.Telemetry
