import PinnedRun.Action

/-!
# Starting and stopping telemetry

When telemetry is disabled, starting it only makes a tracer, a meter and instruments that lead
nowhere. Otherwise a provider of spans and one of metrics are made, each with an exporter, and the
client for requests is instrumented. An exporter that cannot be set up ends the start at that point.

Stopping shuts down the providers in the same order. If an exporter fails while its provider of
spans shuts down, the stop ends there, and the rest stays as it is. A provider of metrics is taken
to shut down without a fault.

* `Telemetry.resource` is what the telemetry says about its origin;
* `Telemetry.start` and `Telemetry.stop` are the two ends.
-/

namespace PinnedRun.Telemetry

open PinnedRun.Action

/-- Changes the telemetry of the world. -/
def change (f : Telemetry → Telemetry) : Action World Unit := Action.change (·.onTelemetry f)

/-- The attributes of the origin: the service name, and the listed attributes over it. -/
def resource (s : TelemetrySettings) : Attributes String :=
  Attributes.ofCommaList [("service.name", s.serviceName)] (s.resourceAttributes.getD "")

/-- Sets up an exporter. -/
def setUp (s : TelemetrySettings) (exporter : Exporter) : Action World Unit := fun w =>
  let endpoint := if exporter = .console then none else s.endpoint
  (match w.replies.setup exporter with
    | some fault => .error ⟨fault, none⟩
    | none => .ok (),
    w.onTelemetry (·.onRegistry fun r =>
      { r with setups := r.setups ++ [⟨exporter, endpoint, s.insecure⟩] }))

/-- Makes a provider of spans without exporter. -/
def makeTraceProvider (t : Telemetry) : Telemetry where
  registry := { t.registry with tracing := t.registry.tracing.add {} }
  handles := { t.handles with traceProvider := some t.registry.tracing.all.length }

/-- Connects the last provider of spans with its exporter, installs it if it is the first, and
lets the run trace. -/
def connectTraceProvider (exporter : Exporter) (t : Telemetry) : Telemetry where
  registry :=
    { t.registry with
      tracing :=
        match t.handles.traceProvider with
        | some i =>
          (t.registry.tracing.modify i fun p => { p with exporter := some exporter }).install i
        | none => t.registry.tracing }
  handles := { t.handles with tracer := true }

/-- The exporter of spans. -/
def spanExporter (s : TelemetrySettings) : Exporter :=
  if s.endpoint?.isSome then .otlpTrace else .console

/-- Where spans are exported to, in words. -/
def tracingNotice (s : TelemetrySettings) : String :=
  match s.endpoint? with
  | some endpoint => "Configuring OTLP trace exporter: " ++ endpoint
  | none => "Using console trace exporter (no OTLP endpoint configured)"

/-- Makes the provider of spans. -/
def startTracing (s : TelemetrySettings) : Action World Unit := do
  change makeTraceProvider
  log .info .telemetry (tracingNotice s)
  setUp s (spanExporter s)
  change (connectTraceProvider (spanExporter s))

/-- Puts instruments on the client for requests. -/
def putInstruments (t : Telemetry) : Telemetry :=
  ⟨{ t.registry with instrumented := true }, { t.handles with instrumented := true }⟩

/-- Instruments the client for requests, unless it is so already. -/
def startInstrumenting (s : TelemetrySettings) : Action World Unit := do
  let instrumented ← gets (·.telemetry.handles.instrumented)
  if !s.instrumentRequests then
    log .info .telemetry "Requests auto-instrumentation disabled"
  else if instrumented then pure ()
  else do
    change putInstruments
    log .info .telemetry "Enabled OpenTelemetry requests auto-instrumentation"

/-- Makes and installs a provider of metrics, with a meter and instruments for it. -/
def makeMeterProvider (exports : Bool) (t : Telemetry) : Telemetry where
  registry :=
    { t.registry with
      metering :=
        (t.registry.metering.add { exports := exports }).install t.registry.metering.all.length }
  handles :=
    { t.handles with
      meterProvider := some t.registry.metering.all.length
      meter := true
      instruments := true }

/-- Sets up the exporter of metrics, if there is an endpoint for it. -/
def setUpMetering (s : TelemetrySettings) : Action World Unit :=
  match s.endpoint? with
  | some endpoint => do
    log .info .telemetry ("Configuring OTLP metric exporter: " ++ endpoint)
    setUp s .otlpMetric
  | none => log .info .telemetry "No OTLP endpoint configured, metrics will not be exported"

/-- Makes the provider of metrics. -/
def startMetering (s : TelemetrySettings) : Action World Unit := do
  setUpMetering s
  change (makeMeterProvider s.endpoint?.isSome)

/-- Starts the telemetry. -/
def start (s : TelemetrySettings) : Action World Unit :=
  if !s.enabled then do
    log .debug .telemetry "OpenTelemetry export disabled, using no-op providers"
    change (·.onHandles fun h => { h with tracer := true, meter := true, instruments := true })
  else do
    log .info .telemetry "Initializing OpenTelemetry instrumentation"
    change (·.onRegistry fun r => { r with resources := r.resources ++ [resource s] })
    startTracing s
    startInstrumenting s
    startMetering s
    log .info .telemetry "OpenTelemetry instrumentation initialized"

/-- The fault that shutting down a provider of spans ends with: that of its exporter, the first
time. -/
def shutdownFault (w : World) (i : Nat) : Option Fault :=
  match w.telemetry.registry.tracing.all[i]? with
  | some p => if p.running then p.exporter.bind w.replies.shutdown else none
  | none => none

/-- Shuts down a provider of spans. -/
def shutDownTracing (i : Nat) : Action World Unit := fun w =>
  (match shutdownFault w i with
    | some fault => .error ⟨fault, none⟩
    | none => .ok (),
    w.onTelemetry (·.onRegistry fun r =>
      { r with tracing := r.tracing.modify i fun p => { p with running := false } }))

/-- Shuts down the provider of spans that the run made last. -/
def stopTracing : Action World Unit := do
  match ← gets (·.telemetry.handles.traceProvider) with
  | some i => do
    shutDownTracing i
    change (·.onHandles fun h => { h with traceProvider := none })
  | none => pure ()

/-- Shuts down the provider of metrics that the run made last. This is taken to succeed, whatever
`Replies.shutdown` says of the exporter of metrics. -/
def releaseMetering (t : Telemetry) : Telemetry :=
  match t.handles.meterProvider with
  | some i => (t.stopMetering i).onHandles fun h => { h with meterProvider := none }
  | none => t

/-- Takes the instruments off the client for requests, if the run put them there. -/
def releaseInstruments (t : Telemetry) : Telemetry :=
  if t.handles.instrumented then
    ⟨{ t.registry with instrumented := false }, { t.handles with instrumented := false }⟩
  else t

/-- Stops the telemetry. -/
def stop : Action World Unit := do
  stopTracing
  change releaseMetering
  change releaseInstruments

end PinnedRun.Telemetry
