import PinnedRun.Proofs.Telemetry.Release

/-!
# The lifetime of telemetry

Telemetry may be started and stopped any number of times, with activities in between, and
exporters may fail at any of these times. What one start can do is said once, by `start_course`;
what holds through records and spans holds through activities (`Lasting.perform`).

* `Operation` is what is done with telemetry, `operate` does operations in turn;
* `StartCourse` lists the ways in which a start goes, with the telemetry that it leaves;
* `Lasting P` : records and spans preserve `P`.
-/

namespace PinnedRun

open PinnedRun.Action

namespace Telemetry

/-- What is done with telemetry. -/
inductive Operation where
  | start
  | stop
  | perform (a : Activity)

/-- Does an operation under some settings. -/
def Operation.act (s : TelemetrySettings) : Operation → Action World Unit
  | start => Telemetry.start s
  | stop => Telemetry.stop
  | perform a => a.perform

/-- The world after operations, each of which is done, whether the ones before it ended well or
not. -/
def operate (s : TelemetrySettings) (operations : List Operation) (w : World) : World :=
  operations.foldl (fun w o => (o.act s w).2) w

variable {s : TelemetrySettings} {w : World} {t t' : Telemetry}

theorem operate_append (operations more : List Operation) :
    operate s (operations ++ more) w = operate s more (operate s operations w) :=
  List.foldl_append

theorem operate_perform (activities : List Activity) :
    operate s (activities.map .perform) w = performEach activities w := by
  unfold operate performEach
  rw [List.foldl_map]
  rfl

/-! ### How a start goes -/

/-- The telemetry after an exporter has been asked for, whether it can be set up or not. -/
def askFor (s : TelemetrySettings) (exporter : Exporter) (t : Telemetry) : Telemetry :=
  t.onRegistry fun r =>
    { r with setups := r.setups ++
        [⟨exporter, if exporter = .console then none else s.endpoint, s.insecure⟩] }

/-- The telemetry of a start that has come to the connection of the exporter of spans. -/
def beforeConnecting (s : TelemetrySettings) (t : Telemetry) : Telemetry :=
  askFor s (spanExporter s)
    (makeTraceProvider (t.onRegistry fun r => { r with resources := r.resources ++ [resource s] }))

/-- The telemetry after the client for requests has been seen to. -/
def instrument (s : TelemetrySettings) (t : Telemetry) : Telemetry :=
  if s.instrumentRequests && !t.handles.instrumented then putInstruments t else t

/-- The telemetry of a start that has come to the provider of metrics. -/
def beforeMetering (s : TelemetrySettings) (t : Telemetry) : Telemetry :=
  let t := instrument s (connectTraceProvider (spanExporter s) (beforeConnecting s t))
  if s.endpoint?.isSome then askFor s .otlpMetric t else t

/-- How a start ends and which telemetry it leaves, by what the exporters do when they are set
up. -/
inductive StartCourse (s : TelemetrySettings) (setup : Exporter → Option Fault) (t : Telemetry) :
    Except Failure Unit → Telemetry → Prop where
  | disabled (he : s.enabled = false) :
    StartCourse s setup t (.ok ())
      (t.onHandles fun h => { h with tracer := true, meter := true, instruments := true })
  | untraced (he : s.enabled = true) (f : Fault) (hf : setup (spanExporter s) = some f) :
    StartCourse s setup t (.error ⟨f, none⟩) (beforeConnecting s t)
  | unmetered (he : s.enabled = true) (ht : setup (spanExporter s) = none)
      (hn : s.endpoint?.isSome = true) (f : Fault) (hf : setup .otlpMetric = some f) :
    StartCourse s setup t (.error ⟨f, none⟩) (beforeMetering s t)
  | complete (he : s.enabled = true) (ht : setup (spanExporter s) = none)
      (hm : s.endpoint?.isSome = true → setup .otlpMetric = none) :
    StartCourse s setup t (.ok ()) (makeMeterProvider s.endpoint?.isSome (beforeMetering s t))

/-- From the world `w` the action comes to an end and leaves some telemetry, with the replies to
come as they were. -/
def Leads (x : Action World Unit) (w : World) (r : Except Failure Unit) (t : Telemetry) : Prop :=
  ∃ v, x w = (r, v) ∧ v.telemetry = t ∧ v.replies = w.replies

section

variable {x : Action World Unit} {f : Unit → Action World Unit} {r : Except Failure Unit}

theorem Leads.bind (hx : Leads x w (.ok ()) t)
    (hf : ∀ v, v.telemetry = t → v.replies = w.replies → Leads (f ()) v r t') :
    Leads (x >>= f) w r t' := by
  obtain ⟨v, hv, ht, hr⟩ := hx
  obtain ⟨u, hu, ht', hr'⟩ := hf v ht hr
  exact ⟨u, (bind_of_ok hv).trans hu, ht', hr'.trans hr⟩

theorem Leads.bind_error {e : Failure} (hx : Leads x w (.error e) t) :
    Leads (x >>= f) w (.error e) t := by
  obtain ⟨v, hv, h⟩ := hx
  exact ⟨v, bind_of_error hv, h⟩

theorem leads_log {level : Level} {source : Source} {message : String} :
    Leads (log level source message) w (.ok ()) w.telemetry :=
  ⟨_, rfl, w.telemetry_report .., w.replies_report ..⟩

theorem leads_change {g : Telemetry → Telemetry} :
    Leads (change g) w (.ok ()) (g w.telemetry) := ⟨_, rfl, rfl, rfl⟩

theorem leads_setUp_of_none {exporter : Exporter} (h : w.replies.setup exporter = none) :
    Leads (setUp s exporter) w (.ok ()) (askFor s exporter w.telemetry) := by
  refine ⟨w.onTelemetry (askFor s exporter), ?_, rfl, rfl⟩
  unfold setUp
  rw [h]
  rfl

theorem leads_setUp_of_some {exporter : Exporter} {f : Fault}
    (h : w.replies.setup exporter = some f) :
    Leads (setUp s exporter) w (.error ⟨f, none⟩) (askFor s exporter w.telemetry) := by
  refine ⟨w.onTelemetry (askFor s exporter), ?_, rfl, rfl⟩
  unfold setUp
  rw [h]
  rfl

end

theorem leads_startTracing_of_none (h : w.replies.setup (spanExporter s) = none)
    (ht : w.telemetry = t.onRegistry fun r => { r with resources := r.resources ++ [resource s] }) :
    Leads (startTracing s) w (.ok ())
      (connectTraceProvider (spanExporter s) (beforeConnecting s t)) := by
  refine leads_change.bind fun v hv hr => leads_log.bind fun u hu hr' => ?_
  refine (leads_setUp_of_none (by rw [hr', hr, h])).bind fun v' hv' _ => ?_
  rw [beforeConnecting, ← ht, ← hv, ← hu, ← hv']
  exact leads_change

theorem leads_startTracing_of_some {f : Fault} (h : w.replies.setup (spanExporter s) = some f)
    (ht : w.telemetry = t.onRegistry fun r => { r with resources := r.resources ++ [resource s] }) :
    Leads (startTracing s) w (.error ⟨f, none⟩) (beforeConnecting s t) := by
  refine leads_change.bind fun v hv hr => leads_log.bind fun u hu hr' => ?_
  rw [beforeConnecting, ← ht, ← hv, ← hu]
  exact (leads_setUp_of_some (by rw [hr', hr, h])).bind_error

theorem leads_pure : Leads (pure ()) w (.ok ()) w.telemetry := ⟨w, rfl, rfl, rfl⟩

theorem leads_startInstrumenting :
    Leads (startInstrumenting s) w (.ok ()) (instrument s w.telemetry) := by
  have hs : startInstrumenting s w =
      (if !s.instrumentRequests then log .info .telemetry "Requests auto-instrumentation disabled"
        else if w.telemetry.handles.instrumented then pure ()
        else do
          change putInstruments
          log .info .telemetry "Enabled OpenTelemetry requests auto-instrumentation") w := rfl
  unfold Leads instrument
  rw [hs]
  cases s.instrumentRequests with
  | false => exact leads_log
  | true =>
    cases w.telemetry.handles.instrumented with
    | true => exact leads_pure
    | false => exact leads_change.bind fun v hv _ => hv ▸ leads_log

/-- The last step before the provider of metrics is made. -/
theorem leads_setUpMetering_of_none
    (h : s.endpoint?.isSome = true → w.replies.setup .otlpMetric = none)
    (ht : w.telemetry =
      instrument s (connectTraceProvider (spanExporter s) (beforeConnecting s t))) :
    Leads (setUpMetering s) w (.ok ()) (beforeMetering s t) := by
  unfold setUpMetering beforeMetering
  rw [← ht]
  cases hn : s.endpoint? with
  | none => exact leads_log
  | some endpoint =>
    rw [hn] at h
    refine leads_log.bind fun v hv hr => ?_
    rw [← hv]
    exact leads_setUp_of_none (by rw [hr, h rfl])

theorem leads_setUpMetering_of_some {f : Fault} (hn : s.endpoint?.isSome = true)
    (h : w.replies.setup .otlpMetric = some f)
    (ht : w.telemetry =
      instrument s (connectTraceProvider (spanExporter s) (beforeConnecting s t))) :
    Leads (setUpMetering s) w (.error ⟨f, none⟩) (beforeMetering s t) := by
  unfold setUpMetering beforeMetering
  rw [← ht]
  obtain ⟨endpoint, hn⟩ := Option.isSome_iff_exists.mp hn
  rw [hn]
  refine leads_log.bind fun v hv hr => ?_
  dsimp only [Option.isSome_some]
  rw [if_pos rfl, ← hv]
  exact leads_setUp_of_some (by rw [hr, h])

/-- Once tracing has been started, what is left before the metering is to see to the client for
requests and to the exporter of metrics. -/
theorem leads_startUnmetered_of_traced {r : Except Failure Unit}
    (ht : w.replies.setup (spanExporter s) = none)
    (hm : ∀ v, v.telemetry =
        instrument s (connectTraceProvider (spanExporter s) (beforeConnecting s w.telemetry)) →
      v.replies = w.replies → Leads (setUpMetering s) v r t) :
    Leads (startUnmetered s) w r t := by
  refine leads_log.bind fun v₁ hv₁ hr₁ => leads_change.bind fun v₂ hv₂ hr₂ => ?_
  have hr₂ : v₂.replies = w.replies := hr₂.trans hr₁
  refine (leads_startTracing_of_none (t := w.telemetry) (by rw [hr₂, ht]) ?_).bind
    fun v₃ hv₃ hr₃ => leads_startInstrumenting.bind fun v₄ hv₄ hr₄ => ?_
  · rw [hv₂, hv₁]
  · exact hm v₄ (by rw [hv₄, hv₃]) (hr₄.trans (hr₃.trans hr₂))

theorem leads_startUnmetered_of_some {f : Fault} (h : w.replies.setup (spanExporter s) = some f) :
    Leads (startUnmetered s) w (.error ⟨f, none⟩) (beforeConnecting s w.telemetry) := by
  refine leads_log.bind fun v₁ hv₁ hr₁ => leads_change.bind fun v₂ hv₂ hr₂ => ?_
  refine (leads_startTracing_of_some (t := w.telemetry) ?_ ?_).bind_error
  · rw [hr₂, hr₁, h]
  · rw [hv₂, hv₁]

/-- **How a start goes.** -/
theorem start_course (s : TelemetrySettings) (w : World) :
    StartCourse s w.replies.setup w.telemetry (start s w).1 (start s w).2.telemetry := by
  have hcourse : ∃ r t, Leads (start s) w r t ∧ StartCourse s w.replies.setup w.telemetry r t := by
    cases he : s.enabled with
    | false =>
      have hs : start s = (do
          log .debug .telemetry "OpenTelemetry export disabled, using no-op providers"
          change (·.onHandles fun h =>
            { h with tracer := true, meter := true, instruments := true })) := by
        unfold start
        rw [he]
        rfl
      refine ⟨_, _, ?_, .disabled he⟩
      rw [hs]
      exact leads_log.bind fun v hv _ => hv ▸ leads_change
    | true =>
      rw [start_of_enabled he]
      cases ht : w.replies.setup (spanExporter s) with
      | some f => exact ⟨_, _, (leads_startUnmetered_of_some ht).bind_error, .untraced he f ht⟩
      | none =>
        by_cases hm : s.endpoint?.isSome = true → w.replies.setup .otlpMetric = none
        · refine ⟨_, _, ?_, .complete he ht hm⟩
          refine (leads_startUnmetered_of_traced ht fun v hv hr =>
            leads_setUpMetering_of_none (by rwa [hr]) hv).bind fun v hv _ => ?_
          exact leads_change.bind fun u hu _ => by rw [← hv, ← hu]; exact leads_log
        · obtain ⟨hn, hm⟩ := Classical.not_imp.mp hm
          obtain ⟨f, hf⟩ := Option.ne_none_iff_exists'.mp hm
          refine ⟨_, _, Leads.bind_error ?_, .unmetered he ht hn f hf⟩
          exact leads_startUnmetered_of_traced ht fun v hv hr =>
            leads_setUpMetering_of_some hn (by rw [hr, hf]) hv
  obtain ⟨r, t, ⟨v, hv, rfl, -⟩, hc⟩ := hcourse
  rwa [hv]

/-- What a start has left alone when metering is about to start. -/
theorem beforeMetering_frame (s : TelemetrySettings) (t : Telemetry) :
    (beforeMetering s t).registry.metering = t.registry.metering ∧
      (beforeMetering s t).registry.spans = t.registry.spans ∧
      (beforeMetering s t).registry.metrics = t.registry.metrics ∧
      (beforeMetering s t).handles.traceProvider = some t.registry.tracing.all.length := by
  unfold beforeMetering instrument
  dsimp only
  split <;> split <;> exact ⟨rfl, rfl, rfl, rfl⟩

/-! ### What lasts through activities -/

/-- What holds of a world goes on holding through records and spans. -/
structure Lasting (P : World → Prop) : Prop where
  record : ∀ {f : Span → Span} {e : Entry},
    Preserves P (change fun t => (t.onSpan f).onLedger e.enter)
  inSpan : ∀ {name : String} {attributes : List (String × AttributeValue)} {x : Action World Unit},
    Preserves P x → Preserves P (inSpan name attributes x)

section

variable {P : World → Prop}

/-- What lasts while a span begins, changes and ends goes on holding through actions in spans. -/
theorem preserves_inSpan {α : Type} {name : String} {attributes : List (String × AttributeValue)}
    {x : Action World α} (hx : Preserves P x)
    (hbegin : ∀ w, P w → P (w.onTelemetry (·.beginSpan name attributes)))
    (hon : ∀ w f, P w → P (w.onTelemetry (·.onSpan f)))
    (hend : ∀ w, P w → P (w.onTelemetry endSpan)) :
    Preserves P (inSpan name attributes x) := by
  have htraced : Preserves P (traced name attributes x) := by
    intro w h
    unfold traced
    split
    · exact hx w h
    · have h := hx _ (hbegin w h)
      generalize x (w.onTelemetry (·.beginSpan name attributes)) = q at *
      obtain ⟨e | a, v⟩ := q
      · exact hend _ (hon v (·.leave e.fault) h)
      · exact hend v h
  intro w h
  unfold Telemetry.inSpan
  split
  · exact h
  · split
    · exact htraced w h
    · exact h

mutual

/-- What records and spans preserve, activities preserve. -/
theorem Lasting.perform (h : Lasting P) (a : Activity) : Preserves P a.perform :=
  match a with
  | .fetched bytes duration => h.record (e := .fetch bytes duration)
  | .failed step fault => h.record (e := .failure step fault.className)
  | .exited exitCode duration => h.record (e := .exit exitCode duration)
  | .raise _ => preserves_fail _
  | .span _ _ body => h.inSpan (h.performAll body)
  | .guarded body => (h.performAll body).handle fun _ => preserves_pure _

theorem Lasting.performAll (h : Lasting P) (as : List Activity) : Preserves P (performAll as) :=
  match as with
  | [] => preserves_pure _
  | a :: rest => (h.perform a).bind fun _ => h.performAll rest

end

theorem Lasting.performEach (h : Lasting P) (as : List Activity) (hw : P w) :
    P (performEach as w) := by
  induction as generalizing w with
  | nil => exact hw
  | cons a as ih => exact ih (h.perform a w hw)

end

/-- As long as no provider is installed and no span is open, activities leave telemetry alone. -/
theorem lasting_of_unused (hu : t.registry.Unused) : Lasting fun w => w.telemetry = t where
  record := by
    rintro f e w rfl
    have ho : w.telemetry.registry.openSpans.modifyHead f = w.telemetry.registry.openSpans := by
      rw [hu.openSpans]
      rfl
    have hs : w.telemetry.onSpan f = w.telemetry := by
      unfold onSpan onRegistry
      dsimp only
      rw [ho]
    have he : w.telemetry.enterAll [e] = w.telemetry := enterAll_of_not_installed hu.metering [e]
    exact (congrArg (·.onLedger e.enter) hs).trans he
  inSpan := by
    rintro name attributes x hx w rfl
    have hi : w.telemetry.registry.tracing.installed.isNone = true := by rw [hu.tracing]; rfl
    unfold inSpan traced
    rw [hi, if_pos rfl]
    split
    · rfl
    · split
      · exact hx w rfl
      · rfl

/-- A stop where nothing is held leaves telemetry alone. -/
theorem telemetry_stop_of_released (ht : w.telemetry.handles.traceProvider = none)
    (hm : w.telemetry.handles.meterProvider = none)
    (hi : w.telemetry.handles.instrumented = false) : (stop w).2.telemetry = w.telemetry := by
  have hf : flushFault w = none := by
    unfold flushFault
    rw [ht]
    rfl
  rw [stop_of_flushFault_eq_none hf]
  simp [World.onTelemetry, releaseTracing, releaseMetering, releaseInstruments, ht, hm, hi]

end Telemetry

end PinnedRun
