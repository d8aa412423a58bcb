import PinnedRun.Settings.Basic
import PinnedRun.Telemetry.Ledger
import PinnedRun.Telemetry.Span

/-!
# Providers and what they deliver

Spans and metrics reach an exporter through a provider. The first provider of each kind that is
installed stays installed; spans and amounts go to the installed provider as long as it runs, and
a provider made later is only kept to be shut down.

* `Registry` holds the providers, what has been exported, and the spans that are open;
* `Handles` is what a run holds on to: which providers it made last and whether it may trace;
* `Telemetry` is both together, with the operations on spans and amounts.
-/

namespace PinnedRun

namespace Telemetry

/-- Where spans or metrics are exported to. -/
inductive Exporter where
  | console
  | otlpTrace
  | otlpMetric
deriving Repr, DecidableEq

/-- An exporter as it was set up. -/
structure ExporterSetup where
  exporter : Exporter
  endpoint : Option String
  insecure : Bool
deriving Repr, DecidableEq

/-- A provider of spans. -/
structure TraceProvider where
  exporter : Option Exporter := none
  running : Bool := true
deriving Repr, DecidableEq

/-- A provider of metrics, with what it has been given. -/
structure MeterProvider where
  exports : Bool
  running : Bool := true
  ledger : Ledger := {}
deriving DecidableEq

/-- Providers of one kind, in the order in which they were made, and which one is installed. -/
structure Providers (α : Type) where
  all : List α := []
  installed : Option Nat := none
deriving DecidableEq

namespace Providers

variable {α : Type}

/-- The installed provider. -/
def current (p : Providers α) : Option α := p.installed.bind (p.all[·]?)

/-- One more provider; its number is the count of those before it. -/
def add (p : Providers α) (x : α) : Providers α := { p with all := p.all ++ [x] }

/-- Installs a provider, unless one is installed already. -/
def install (p : Providers α) (i : Nat) : Providers α :=
  { p with installed := p.installed.or (some i) }

/-- Changes a provider. -/
def modify (p : Providers α) (i : Nat) (f : α → α) : Providers α :=
  { p with all := p.all.modify i f }

/-- Changes the installed provider. -/
def modifyCurrent (p : Providers α) (f : α → α) : Providers α :=
  match p.installed with
  | some i => p.modify i f
  | none => p

end Providers

/-- All providers and what they were set up with and delivered. -/
structure Registry where
  tracing : Providers TraceProvider := {}
  metering : Providers MeterProvider := {}
  /-- The client for requests is instrumented. -/
  instrumented : Bool := false
  resources : List (Attributes String) := []
  setups : List ExporterSetup := []
  /-- The spans that have begun and not ended, the innermost first. -/
  openSpans : List Span := []
  spans : List Span := []
  metrics : List Metric := []
deriving DecidableEq

/-- What a run holds on to. -/
structure Handles where
  tracer : Bool := false
  meter : Bool := false
  traceProvider : Option Nat := none
  meterProvider : Option Nat := none
  instruments : Bool := false
  instrumented : Bool := false
deriving Repr, DecidableEq

end Telemetry

/-- The telemetry of a run. -/
structure Telemetry where
  registry : Telemetry.Registry := {}
  handles : Telemetry.Handles := {}
deriving DecidableEq

namespace Telemetry

/-- Changes the registry. -/
def onRegistry (t : Telemetry) (f : Registry → Registry) : Telemetry :=
  { t with registry := f t.registry }

/-- Changes the handles. -/
def onHandles (t : Telemetry) (f : Handles → Handles) : Telemetry :=
  { t with handles := f t.handles }

/-! ### Spans -/

/-- The installed provider of spans receives them. -/
def isTracing (t : Telemetry) : Bool := t.registry.tracing.current.any (·.running)

/-- The name of a step's span. -/
def spanName (name : String) : String := "toolchain_runner." ++ name

/-- Begins a span within the innermost open one. -/
def beginSpan (t : Telemetry) (name : String)
    (attributes : List (String × AttributeValue)) : Telemetry :=
  t.onRegistry fun r =>
    let span : Span := { name := spanName name, parent := r.openSpans.head?.map (·.name) }
    { r with openSpans := span.setAttributes attributes :: r.openSpans }

/-- Changes the innermost open span. -/
def onSpan (t : Telemetry) (f : Span → Span) : Telemetry :=
  t.onRegistry fun r => { r with openSpans := r.openSpans.modifyHead f }

/-- Ends the innermost open span and delivers it. -/
def endSpan (t : Telemetry) : Telemetry :=
  t.onRegistry fun r =>
    { r with
      openSpans := r.openSpans.tail
      spans := if t.isTracing then r.spans ++ r.openSpans.head?.toList else r.spans }

/-! ### Amounts -/

/-- Enters something into the ledger of the installed provider of metrics, if there are
instruments and the provider runs. -/
def onLedger (t : Telemetry) (f : Ledger → Ledger) : Telemetry :=
  if t.handles.instruments then
    t.onRegistry fun r =>
      { r with metering := r.metering.modifyCurrent fun p =>
          if p.running then { p with ledger := f p.ledger } else p }
  else t

/-- Stops a provider of metrics; what it holds is delivered the first time. -/
def stopMetering (t : Telemetry) (i : Nat) : Telemetry :=
  t.onRegistry fun r =>
    { r with
      metering := r.metering.modify i fun p => { p with running := false }
      metrics := r.metrics ++
        match r.metering.all[i]? with
        | some p => if p.exports && p.running then p.ledger.metrics else []
        | none => [] }

end Telemetry

end PinnedRun
