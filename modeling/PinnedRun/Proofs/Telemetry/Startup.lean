import PinnedRun.Proofs.Telemetry.Lifecycle

/-!
# What a start leaves behind

Metering is what telemetry starts last. Up to there the start leaves metrics and spans alone
(`Unmetered`), so if an exporter cannot be set up, nothing is metered; otherwise the start has ended
with a provider of metrics made and installed (`start_cases`).

* `Registry.Unused` : nothing has been installed, and no span is open;
* `Unmetered t₀ t` : the telemetry `t` has been started from `t₀` up to the metering.
-/

namespace PinnedRun

open PinnedRun.Action

theorem Action.bind_bind {σ α β γ : Type} (x : Action σ α) (f : α → Action σ β)
    (g : β → Action σ γ) : x >>= f >>= g = x >>= fun a => f a >>= g := by
  funext s
  simp only [bind_apply]
  rcases x s with ⟨e | a, t⟩ <;> rfl

namespace Telemetry

/-- Nothing is installed, the client for requests is bare, and no span is open. -/
structure Registry.Unused (r : Registry) : Prop where
  tracing : r.tracing.installed = none
  metering : r.metering.installed = none
  instrumented : r.instrumented = false
  openSpans : r.openSpans = []

/-- The telemetry `t` has been started from `t₀`, but metering has not. -/
structure Unmetered (t₀ t : Telemetry) : Prop where
  metering : t.registry.metering = t₀.registry.metering
  meterProvider : t.handles.meterProvider = t₀.handles.meterProvider
  metrics : t.registry.metrics = t₀.registry.metrics
  openSpans : t.registry.openSpans = t₀.registry.openSpans
  spans : t.registry.spans = t₀.registry.spans
  instrumented : t.handles.instrumented = t.registry.instrumented

variable {s : TelemetrySettings} {w : World} {t₀ : Telemetry}

theorem unmetered_self (h : t₀.handles.instrumented = t₀.registry.instrumented) :
    Unmetered t₀ t₀ := ⟨rfl, rfl, rfl, rfl, rfl, h⟩

theorem preserves_log {P : Telemetry → Prop} {level : Level} {source : Source} {message : String} :
    Preserves (fun w => P w.telemetry) (log level source message) := by
  intro w h
  change P (w.report level source message).telemetry
  rwa [World.telemetry_report]

/-- A start without export makes a tracer, a meter and instruments that lead nowhere. -/
theorem telemetry_start_of_disabled (he : s.enabled = false) :
    (start s w).2.telemetry =
      w.telemetry.onHandles fun h =>
        { h with tracer := true, meter := true, instruments := true } := by
  have hs : start s w = (.ok (), (w.report .debug .telemetry
      "OpenTelemetry export disabled, using no-op providers").onTelemetry
        (·.onHandles fun h => { h with tracer := true, meter := true, instruments := true })) := by
    unfold start
    rw [he]
    rfl
  rw [hs, World.onTelemetry, World.telemetry_report]

/-- What comes before the metering in a start. -/
def startUnmetered (s : TelemetrySettings) : Action World Unit := do
  log .info .telemetry "Initializing OpenTelemetry instrumentation"
  change (·.onRegistry fun r => { r with resources := r.resources ++ [resource s] })
  startTracing s
  startInstrumenting s
  setUpMetering s

theorem start_of_enabled (he : s.enabled = true) :
    start s = (do
      startUnmetered s
      change (makeMeterProvider s.endpoint?.isSome)
      log .info .telemetry "OpenTelemetry instrumentation initialized") := by
  simp only [start, he, startUnmetered, startMetering, bind_bind, Bool.not_true, Bool.false_eq_true,
    if_false]

theorem preserves_startUnmetered :
    Preserves (fun w => Unmetered t₀ w.telemetry) (startUnmetered s) := by
  have hset : ∀ exporter,
      Preserves (fun w => Unmetered t₀ w.telemetry) (setUp s exporter) := fun _ _ h => { h with }
  have hchange : ∀ {f : Telemetry → Telemetry}, (∀ t, Unmetered t₀ t → Unmetered t₀ (f t)) →
      Preserves (fun w => Unmetered t₀ w.telemetry) (change f) := fun hf =>
    preserves_change fun w => hf w.telemetry
  refine preserves_log.bind fun _ => (hchange fun t h => ?_).bind fun _ =>
    Preserves.bind ?_ fun _ => Preserves.bind ?_ fun _ => ?_
  · exact { h with }
  · refine (hchange fun t h => ?_).bind fun _ => preserves_log.bind fun _ => (hset _).bind fun _ =>
      hchange fun t h => ?_
    · exact { h with }
    · exact { h with }
  · refine Preserves.bind (fun _ h => h) fun instrumented => .ite preserves_log <|
      .ite (preserves_pure _) <| (hchange fun t h => ?_).bind fun _ => preserves_log
    exact { h with instrumented := rfl }
  · unfold setUpMetering
    split
    · exact preserves_log.bind fun _ => hset _
    · exact preserves_log

/-- **How a start with export enabled goes.** Either it fails before anything is metered, or it ends
with a provider of metrics. -/
theorem start_cases (he : s.enabled = true) (h : Unmetered t₀ w.telemetry) :
    (∃ e v, start s w = (.error e, v) ∧ Unmetered t₀ v.telemetry) ∨
    ∃ u v, start s w = (.ok (), v) ∧ Unmetered t₀ u ∧
      v.telemetry = makeMeterProvider s.endpoint?.isSome u := by
  have hu := preserves_startUnmetered (s := s) w h
  rw [start_of_enabled he]
  generalize hq : startUnmetered s w = q at hu
  obtain ⟨e | _, v⟩ := q
  · exact .inl ⟨e, v, bind_of_error hq, hu⟩
  · refine .inr ⟨v.telemetry, _, bind_of_ok hq, hu, ?_⟩
    exact World.telemetry_report ..

end Telemetry

end PinnedRun
