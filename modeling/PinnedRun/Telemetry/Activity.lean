import PinnedRun.Telemetry.Lifecycle

/-!
# What is recorded of an activity

`inSpan` does an action within a span, and three operations record in the innermost span and in the
ledger how a step went. An `Activity` is a tree of spans, records and faults, as something to be
performed.

Two attribute names are reserved, and a span that is to begin with one of them is refused before
anything is done (`reservedName?`).
-/

namespace PinnedRun.Telemetry

open Numeric (Binary64)
open PinnedRun.Action

/-- The fault of tracing before telemetry has been started. -/
def notStarted : Fault := .runtime "OTEL not initialized"

/-- The names that an attribute of a new span cannot have, since the parts of the request for the
span itself go by them. -/
def reservedNames : List String := ["self", "name"]

/-- The first reserved name among those of attributes. -/
def reservedName? (attributes : List (String × AttributeValue)) : Option String :=
  (attributes.map (·.1)).find? (· ∈ reservedNames)

/-- The fault of a span that is to begin with an attribute of a reserved name. -/
def reservedFault (name : String) : Fault :=
  .wrongType
    ("OTELInstrumentation.step_span() got multiple values for argument '" ++ name ++ "'")

/-- Does an action within a new span that the tracer begins, which records the fault that leaves
it. Without a provider of spans the action is done without one. -/
def traced {α : Type} (name : String) (attributes : List (String × AttributeValue))
    (body : Action World α) : Action World α := fun w =>
  if w.telemetry.registry.tracing.installed.isNone then body w
  else
    match body (w.onTelemetry (·.beginSpan name attributes)) with
    | (.ok a, w) => (.ok a, w.onTelemetry endSpan)
    | (.error e, w) =>
      (.error e, w.onTelemetry fun t => (t.onSpan (·.leave e.fault)).endSpan)

/-- Does an action within a new span, unless an attribute has a reserved name or telemetry has not
been started. -/
def inSpan {α : Type} (name : String) (attributes : List (String × AttributeValue))
    (body : Action World α) : Action World α := fun w =>
  match reservedName? attributes with
  | some reserved => (.error ⟨reservedFault reserved, none⟩, w)
  | none =>
    if w.telemetry.handles.tracer then traced name attributes body w
    else (.error ⟨notStarted, none⟩, w)

/-- Records a fetch that succeeded. -/
def recordFetch (bytes : Int) (duration : Binary64) : Action World Unit :=
  change fun t =>
    (t.onSpan fun s =>
      ((s.setAttribute "fetch.bytes" (.integer bytes)).setAttribute
        "fetch.duration_ms" (.real duration)).setStatus .ok).onLedger (·.addFetch bytes duration)

/-- Records a step that ended with a fault. -/
def recordFailure (step : String) (f : Fault) : Action World Unit :=
  change fun t =>
    (t.onSpan fun s =>
      ((s.addEvent ⟨step ++ "_failed",
        [("error.type", f.className), ("error.message", f.message)]⟩).setStatus
          (.error f.message)).recordFault f).onLedger (·.addFailure step f.className)

/-- Records the exit code of a test run. -/
def recordExit (exitCode : Int) (duration : Binary64) : Action World Unit :=
  change fun t =>
    (t.onSpan fun s =>
      (s.setAttribute "process.exit_code" (.integer exitCode)).setStatus
        (if exitCode = 0 then .ok else .error ("exit code " ++ toString exitCode))).onLedger
          (·.addExit exitCode duration)

/-- Something to be performed and recorded. -/
inductive Activity where
  | fetched (bytes : Int) (duration : Binary64)
  | failed (step : String) (fault : Fault)
  | exited (exitCode : Int) (duration : Binary64)
  | raise (fault : Fault)
  | span (name : String) (attributes : List (String × AttributeValue)) (body : List Activity)
  /-- Activities whose fault, if one comes out, is dropped. -/
  | guarded (body : List Activity)

mutual

/-- Performs an activity. -/
def Activity.perform : Activity → Action World Unit
  | .fetched bytes duration => recordFetch bytes duration
  | .failed step fault => recordFailure step fault
  | .exited exitCode duration => recordExit exitCode duration
  | .raise fault => fail ⟨fault, none⟩
  | .span name attributes body => inSpan name attributes (performAll body)
  | .guarded body => (performAll body).handle fun _ => pure ()

/-- Performs activities in turn, up to the first fault. -/
def performAll : List Activity → Action World Unit
  | [] => pure ()
  | a :: rest => do
    a.perform
    performAll rest

end

end PinnedRun.Telemetry
