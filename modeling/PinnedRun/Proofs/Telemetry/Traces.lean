import PinnedRun.Proofs.Telemetry.Exporting

/-!
# The spans that activities end

Which spans activities end, and what these carry, is told by `Activity.trace`, which knows neither
providers nor a world. Activities of telemetry that exports deliver these spans, each once and in
the order in which they end (`lockstep_trace`, `exports_performEach`).

* `Trace` are spans on their way, `Trace.within` does something within a new one;
* `ended activities` are the spans that activities end;
* `Follows R` : records and the two ends of a span keep the relation `R` between a world and spans on
  their way, so activities keep it as well (`Follows.lockstep_perform`).
-/

namespace PinnedRun.Telemetry

open PinnedRun.Action

/-- Spans on their way: those that are open, the innermost first, and those that have ended. -/
structure Trace where
  opened : List Span := []
  ended : List Span := []

namespace Trace

/-- Changes the innermost open span. -/
def onSpan (tr : Trace) (f : Span → Span) : Trace := { tr with opened := tr.opened.modifyHead f }

/-- Does something within a new span, which ends as the end of the action closes it. -/
def within {α : Type} (name : String) (attributes : List (String × AttributeValue))
    (x : Action Trace α) : Action Trace α := fun tr =>
  match x { tr with opened := .begun tr.opened name attributes :: tr.opened } with
  | (r, tr) => (r, ⟨tr.opened.tail, tr.ended ++ (tr.opened.head?.map (·.close r)).toList⟩)

end Trace

mutual

/-- What an activity does to spans on their way, with the fault that comes out of it. -/
def Activity.trace : Activity → Action Trace Unit
  | .fetched bytes duration => Action.change (·.onSpan (·.fetched bytes duration))
  | .failed step fault => Action.change (·.onSpan (·.failed step fault))
  | .exited exitCode _ => Action.change (·.onSpan (·.exited exitCode))
  | .raise fault => fail ⟨fault, none⟩
  | .span name attributes body =>
    match reservedName? attributes with
    | some reserved => fail ⟨reservedFault reserved, none⟩
    | none => Trace.within name attributes (traceAll body)
  | .guarded body => (traceAll body).handle fun _ => pure ()

/-- The same for activities in turn, up to the first fault. -/
def traceAll : List Activity → Action Trace Unit
  | [] => pure ()
  | a :: rest => do
    a.trace
    traceAll rest

end

/-- The spans that activities end, each of which is performed, whether the ones before it ended well
or not. -/
def ended (activities : List Activity) : List Span :=
  (activities.foldl (fun (tr : Trace) a => (a.trace tr).2) {}).ended

/-- Where spans are received, records and the two ends of a span keep a relation between a world and
spans on their way. -/
structure Follows (R : World → Trace → Prop) : Prop where
  tracer : ∀ {w tr}, R w tr → w.telemetry.handles.tracer = true
  tracing : ∀ {w tr}, R w tr → w.telemetry.isTracing = true
  /-- A record changes the innermost span and makes an entry. -/
  record : ∀ {w tr} (e : Entry) (f : Span → Span), R w tr →
    R (w.onTelemetry fun t => (t.onSpan f).onLedger e.enter) (tr.onSpan f)
  beginSpan : ∀ {w tr} (name : String) (attributes : List (String × AttributeValue)), R w tr →
    R (w.onTelemetry (·.beginSpan name attributes))
      ⟨.begun tr.opened name attributes :: tr.opened, tr.ended⟩
  endSpan : ∀ {w tr} (r : Except Failure Unit), R w tr →
    R (w.onTelemetry fun t => (t.onSpan (·.close r)).endSpan)
      ⟨tr.opened.tail, tr.ended ++ (tr.opened.head?.map (·.close r)).toList⟩

variable {R : World → Trace → Prop} {t₀ : Telemetry} {w : World}

theorem Follows.lockstep_record (hR : Follows R) (e : Entry) (f : Span → Span) :
    Lockstep R (change fun t => (t.onSpan f).onLedger e.enter) (Action.change (·.onSpan f)) :=
  fun _ _ h => ⟨rfl, hR.record e f h⟩

/-- A span around what keeps the relation keeps it as well. -/
theorem Follows.lockstep_within (hR : Follows R) {name : String}
    {attributes : List (String × AttributeValue)} {x : Action World Unit} {y : Action Trace Unit}
    (hn : reservedName? attributes = none) (hx : Lockstep R x y) :
    Lockstep R (inSpan name attributes x) (Trace.within name attributes y) := by
  intro w tr h
  obtain ⟨he, hv⟩ := hx _ _ (hR.beginSpan name attributes h)
  generalize hp : x (w.onTelemetry (·.beginSpan name attributes)) = p at he hv
  generalize hq : y ⟨.begun tr.opened name attributes :: tr.opened, tr.ended⟩ = q at he hv
  obtain ⟨r, v⟩ := p
  obtain ⟨r', tr'⟩ := q
  obtain rfl : r = r' := he
  rw [inSpan_apply (hR.tracer h) (hR.tracing h) hn hp, Trace.within, hq]
  exact ⟨rfl, hR.endSpan r hv⟩

mutual

/-- An activity keeps what records and spans keep, and ends as its trace does. -/
theorem Follows.lockstep_perform (hR : Follows R) (a : Activity) : Lockstep R a.perform a.trace :=
  match a with
  | .fetched bytes duration => hR.lockstep_record (.fetch bytes duration) _
  | .failed step fault => hR.lockstep_record (.failure step fault.className) _
  | .exited exitCode duration => hR.lockstep_record (.exit exitCode duration) _
  | .raise fault => lockstep_fail _
  | .span name attributes body => by
    have hbody : Lockstep R (performAll body) (traceAll body) := hR.lockstep_performAll body
    rw [Activity.perform, Activity.trace]
    cases hn : reservedName? attributes with
    | some reserved =>
      intro w tr h
      unfold inSpan
      rw [hn]
      exact ⟨rfl, h⟩
    | none => exact hR.lockstep_within hn hbody
  | .guarded body => (hR.lockstep_performAll body).handle fun _ => lockstep_pure ()

theorem Follows.lockstep_performAll (hR : Follows R) (as : List Activity) :
    Lockstep R (performAll as) (traceAll as) :=
  match as with
  | [] => lockstep_pure ()
  | a :: rest => (hR.lockstep_perform a).bind fun _ => hR.lockstep_performAll rest

end

/-! ### What is delivered -/

/-- Since `t₀` the spans that have ended on their way have been delivered. -/
def Exports (t₀ : Telemetry) (w : World) (tr : Trace) : Prop :=
  ∃ l, Exporting t₀ l tr.opened tr.ended w.telemetry

theorem follows_exports : Follows (Exports t₀) where
  tracer := fun ⟨_, h⟩ => h.tracer
  tracing := fun ⟨_, h⟩ => h.tracing
  record := fun e f ⟨l, h⟩ => ⟨e.enter l, (h.onSpan f).onLedger e⟩
  beginSpan := fun name attributes ⟨l, h⟩ => ⟨l, h.beginSpan name attributes⟩
  endSpan := fun r ⟨l, h⟩ => ⟨l, h.close r⟩

/-- **Telemetry that exports delivers the spans that an activity ends, and the activity ends the
same way.** -/
theorem lockstep_trace (a : Activity) : Lockstep (Exports t₀) a.perform a.trace :=
  follows_exports.lockstep_perform a

/-- Activities deliver the spans that they end. -/
theorem exports_performEach {l : Ledger} (h : Exporting t₀ l [] [] w.telemetry)
    (as : List Activity) :
    (performEach as w).telemetry.registry.spans = t₀.registry.spans ++ ended as := by
  have hrun : ∀ w tr, Exports t₀ w tr →
      Exports t₀ (performEach as w) (as.foldl (fun (tr : Trace) a => (a.trace tr).2) tr) := by
    induction as with
    | nil => exact fun _ _ h => h
    | cons a as ih => exact fun w tr h => ih _ _ (lockstep_trace a w tr h).2
  obtain ⟨l', hv⟩ := hrun w {} ⟨l, h⟩
  exact hv.spans

end PinnedRun.Telemetry
