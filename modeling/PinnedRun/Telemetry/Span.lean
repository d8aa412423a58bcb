import PinnedRun.Fault
import PinnedRun.Telemetry.Attributes

/-!
# Spans

A span is a named stretch of the run with attributes, events and a status. A status that is good
stays; any other can be replaced. An ordinary fault that leaves the stretch is recorded as an event
and as an error status.

* `Span.setStatus`, `Span.setAttribute` and `Span.addEvent` change a span;
* `Span.recordFault` adds the event of a fault, `Span.leave` ends a stretch that a fault leaves.
-/

namespace PinnedRun.Telemetry

/-- How a stretch went. -/
inductive Status where
  | unset
  | ok
  | error (description : String)
deriving Repr, DecidableEq

/-- Something that happened within a stretch. -/
structure Event where
  name : String
  attributes : Attributes String
deriving Repr, DecidableEq

/-- A stretch of the run. -/
structure Span where
  name : String
  parent : Option String
  attributes : Attributes AttributeValue := []
  status : Status := .unset
  events : List Event := []
deriving DecidableEq

namespace Span

/-- Changes the status, unless it is good already. -/
def setStatus (s : Span) (status : Status) : Span :=
  if s.status = .ok then s else { s with status := status }

/-- Sets an attribute; a value without a name is dropped. -/
def setAttribute (s : Span) (name : String) (value : AttributeValue) : Span :=
  if name = "" then s else { s with attributes := s.attributes.set name value }

/-- Sets attributes in turn. -/
def setAttributes (s : Span) (pairs : List (String × AttributeValue)) : Span :=
  pairs.foldl (fun s p => s.setAttribute p.1 p.2) s

/-- Adds an event at the end. -/
def addEvent (s : Span) (event : Event) : Span := { s with events := s.events ++ [event] }

/-- Adds the event of a fault. -/
def recordFault (s : Span) (f : Fault) : Span :=
  s.addEvent ⟨"exception",
    [("exception.type", f.qualifiedName), ("exception.message", f.message)]⟩

/-- Ends a stretch that a fault leaves; an interrupt leaves no trace. -/
def leave (s : Span) (f : Fault) : Span :=
  if f.isOrdinary then (s.recordFault f).setStatus (.error f.headline) else s

end Span

end PinnedRun.Telemetry
