import PinnedRun.Proofs.Telemetry.Entries
import PinnedRun.Proofs.Telemetry.Startup

/-!
# What a stop releases

A stop releases what a start and the activities after it have acquired, and delivers the metrics
that have been recorded, unless the exporter of spans fails: then the stop ends before anything has
been released (`released_iff`). In any case a second stop releases everything.

* `Released w ms u` : in `u` nothing is held, and the metrics `ms` have been delivered since `w`;
* `Held w ms t` : the telemetry `t` can be released and will deliver `ms`;
* `recorded s w activities` are the metrics of activities after a start.
-/

namespace PinnedRun.Telemetry

open PinnedRun.Action

variable {s : TelemetrySettings} {w v : World} {t : Telemetry} {ms : List Metric}

/-! ### Stopping -/

/-- The providers of spans and the handle on them after the one that the run made last has been shut
down. -/
def releaseTracing (t : Telemetry) : Telemetry :=
  match t.handles.traceProvider with
  | some i =>
    ⟨{ t.registry with
        tracing := t.registry.tracing.modify i fun p => { p with running := false } },
      { t.handles with traceProvider := none }⟩
  | none => t

theorem stop_of_flushFault_eq_none (h : flushFault w = none) :
    stop w = (.ok (), w.onTelemetry (releaseInstruments ∘ releaseMetering ∘ releaseTracing)) := by
  unfold flushFault at h
  simp only [stop, stopTracing, bind_apply, gets_apply]
  cases hi : w.telemetry.handles.traceProvider with
  | none => simp [change, World.onTelemetry, releaseTracing, hi]
  | some i =>
    rw [hi, Option.bind_some] at h
    simp [shutDownTracing, h, change, World.onTelemetry, onRegistry, onHandles, releaseTracing, hi]

/-- A stop that fails has marked the provider of spans as shut down, and nothing else. -/
theorem stop_of_flushFault_eq_some {f : Fault} (h : flushFault w = some f) :
    ∃ i, w.telemetry.handles.traceProvider = some i ∧
      stop w = (.error ⟨f, none⟩, w.onTelemetry (·.onRegistry fun r =>
        { r with tracing := r.tracing.modify i fun p => { p with running := false } })) := by
  unfold flushFault at h
  simp only [stop, stopTracing, bind_apply, gets_apply]
  cases hi : w.telemetry.handles.traceProvider with
  | none =>
    rw [hi] at h
    cases h
  | some i =>
    rw [hi, Option.bind_some] at h
    simp [shutDownTracing, h]

/-- The metrics that the provider of metrics the run holds on to has not delivered. -/
def outstanding (t : Telemetry) : List Metric :=
  match t.handles.meterProvider.bind (t.registry.metering.all[·]?) with
  | some p => if p.exports && p.running then p.ledger.metrics else []
  | none => []

theorem releaseTracing_apply (t : Telemetry) :
    ∃ tracing, releaseTracing t =
      ⟨{ t.registry with tracing := tracing }, { t.handles with traceProvider := none }⟩ := by
  obtain ⟨r, tracer, meter, traceProvider, meterProvider, instruments, instrumented⟩ := t
  cases traceProvider with
  | none => exact ⟨r.tracing, rfl⟩
  | some i => exact ⟨_, rfl⟩

theorem releaseMetering_apply (t : Telemetry) :
    ∃ metering, releaseMetering t =
      ⟨{ t.registry with metering := metering, metrics := t.registry.metrics ++ t.outstanding },
        { t.handles with meterProvider := none }⟩ := by
  obtain ⟨r, tracer, meter, traceProvider, meterProvider, instruments, instrumented⟩ := t
  unfold releaseMetering outstanding
  cases meterProvider with
  | none => exact ⟨r.metering, by simp⟩
  | some i => exact ⟨_, rfl⟩

/-- The client for requests is bare afterwards, unless someone else has instrumented it. -/
theorem releaseInstruments_apply (t : Telemetry) :
    ∃ instrumented, releaseInstruments t =
        ⟨{ t.registry with instrumented := instrumented },
          { t.handles with instrumented := false }⟩ ∧
      (t.handles.instrumented = t.registry.instrumented → instrumented = false) := by
  obtain ⟨r, tracer, meter, traceProvider, meterProvider, instruments, instrumented⟩ := t
  cases instrumented with
  | true => exact ⟨false, rfl, fun _ => rfl⟩
  | false => exact ⟨r.instrumented, rfl, fun h => h.symm⟩

/-- What a stop that does not fail leaves: no handles on providers, and the outstanding metrics
delivered. -/
theorem telemetry_stop (h : flushFault v = none) :
    ∃ tracing metering instrumented,
      (stop v).2.telemetry =
        ⟨{ v.telemetry.registry with
            tracing := tracing
            metering := metering
            instrumented := instrumented
            metrics := v.telemetry.registry.metrics ++ v.telemetry.outstanding },
          { v.telemetry.handles with
            traceProvider := none
            meterProvider := none
            instrumented := false }⟩ ∧
      (v.telemetry.handles.instrumented = v.telemetry.registry.instrumented →
        instrumented = false) := by
  -- the three stages change different parts, so what one leaves is what the next one finds
  obtain ⟨tracing, ht⟩ := releaseTracing_apply v.telemetry
  obtain ⟨metering, hm⟩ := releaseMetering_apply (releaseTracing v.telemetry)
  obtain ⟨instrumented, hi, hbare⟩ :=
    releaseInstruments_apply (releaseMetering (releaseTracing v.telemetry))
  have hs : (stop v).2.telemetry =
      releaseInstruments (releaseMetering (releaseTracing v.telemetry)) := by
    rw [stop_of_flushFault_eq_none h]
    rfl
  rw [hm, ht] at hi hbare
  exact ⟨tracing, metering, instrumented, by rw [hs, hm, ht, hi]; rfl, hbare⟩

/-- A stop delivers the outstanding metrics unless it fails, and no spans. -/
theorem stop_reports (w : World) :
    (stop w).2.telemetry.registry.spans = w.telemetry.registry.spans ∧
      (stop w).2.telemetry.registry.metrics =
        w.telemetry.registry.metrics ++
          if (flushFault w).isNone then w.telemetry.outstanding else [] := by
  cases hf : flushFault w with
  | none =>
    obtain ⟨_, _, _, hs, -⟩ := telemetry_stop hf
    rw [hs]
    exact ⟨rfl, rfl⟩
  | some f =>
    obtain ⟨_, -, hs⟩ := stop_of_flushFault_eq_some hf
    rw [hs]
    exact ⟨rfl, (List.append_nil _).symm⟩

theorem Metered.outstanding {i : Nat} {p : MeterProvider} (h : Metered i p t) :
    t.outstanding = if p.exports && p.running then p.ledger.metrics else [] := by
  unfold Telemetry.outstanding
  rw [h.meterProvider, Option.bind_some, h.provider]

/-! ### What is held and what has been released -/

/-- The telemetry can be released: it is clear whether the client for requests is instrumented, and
the metrics that are outstanding since `w` are `ms`. -/
structure Held (w : World) (ms : List Metric) (t : Telemetry) : Prop where
  instrumented : t.handles.instrumented = t.registry.instrumented
  metrics : t.registry.metrics ++ t.outstanding = w.telemetry.registry.metrics ++ ms

/-- Nothing is held any more, and metrics have been delivered since `w`. -/
structure Released (w : World) (ms : List Metric) (u : World) : Prop where
  traceProvider : u.telemetry.handles.traceProvider = none
  meterProvider : u.telemetry.handles.meterProvider = none
  handle : u.telemetry.handles.instrumented = false
  client : u.telemetry.registry.instrumented = false
  metrics : u.telemetry.registry.metrics = w.telemetry.registry.metrics ++ ms

theorem Released.flushFault {u : World} (h : Released w ms u) : flushFault u = none := by
  rw [Telemetry.flushFault, h.traceProvider]
  rfl

theorem Released.held {u : World} (h : Released w ms u) : Held w ms u.telemetry where
  instrumented := h.handle.trans h.client.symm
  metrics := by
    rw [outstanding, h.meterProvider, h.metrics]
    exact List.append_nil _

/-- A stop that does not fail releases what is held. -/
theorem Held.released (h : Held w ms v.telemetry) (hf : flushFault v = none) :
    Released w ms (stop v).2 := by
  obtain ⟨tracing, metering, instrumented, hs, hbare⟩ := telemetry_stop hf
  refine ⟨?_, ?_, ?_, ?_, ?_⟩ <;> rw [hs]
  · exact hbare h.instrumented
  · exact h.metrics

/-- A stop that fails releases nothing; what is held stays so, and stopping once more does not
fail. -/
theorem Held.stop_of_some (h : Held w ms v.telemetry) {f : Fault} (hf : flushFault v = some f) :
    (stop v).2.telemetry.handles.traceProvider ≠ none ∧ Held w ms (stop v).2.telemetry ∧
      flushFault (stop v).2 = none := by
  obtain ⟨i, hi, hs⟩ := stop_of_flushFault_eq_some hf
  rw [hs]
  refine ⟨by simp [World.onTelemetry, onRegistry, hi], ⟨h.instrumented, h.metrics⟩, ?_⟩
  simp only [flushFault, shutdownFault, World.onTelemetry, onRegistry, hi, Option.bind_some,
    Providers.modify, List.getElem?_modify_eq]
  cases v.telemetry.registry.tracing.all[i]? <;> rfl

theorem Held.released_stop_iff (h : Held w ms v.telemetry) :
    Released w ms (stop v).2 ↔ flushFault v = none := by
  cases hf : flushFault v with
  | none => exact ⟨fun _ => rfl, fun _ => h.released hf⟩
  | some f =>
    refine ⟨fun hr => ?_, fun hn => nomatch hn⟩
    exact absurd hr.traceProvider (h.stop_of_some hf).1

theorem Held.released_stop_stop (h : Held w ms v.telemetry) :
    Released w ms (stop (stop v).2).2 := by
  cases hf : flushFault v with
  | none =>
    have hr := h.released hf
    exact hr.held.released hr.flushFault
  | some f =>
    obtain ⟨-, hh, hf'⟩ := h.stop_of_some hf
    exact hh.released hf'

/-! ### What is held after a start and activities -/

/-- The metrics of activities after a start: those of their entries, if the start has come to its
end and there is an endpoint to export metrics to. -/
def recorded (s : TelemetrySettings) (w : World) (activities : List Activity) : List Metric :=
  if s.enabled && s.endpoint?.isSome && (start s w).1.isOk then
    (Ledger.enterAll {} (entries true activities)).metrics
  else []

theorem metered_makeMeterProvider {exports : Bool}
    (h : t.registry.metering.installed = none) :
    Metered t.registry.metering.all.length { exports := exports }
      (makeMeterProvider exports t) where
  instruments := rfl
  meterProvider := rfl
  installed := by simp [makeMeterProvider, Providers.add, Providers.install, h]
  provider := by simp [makeMeterProvider, Providers.add, Providers.install]

theorem held_spanless_iff : Held w ms t.spanless ↔ Held w ms t :=
  ⟨fun h => ⟨h.instrumented, h.metrics⟩, fun h => ⟨h.instrumented, h.metrics⟩⟩

theorem Held.of_entered {u : World} {es : List Entry} (h : Held w ms (u.telemetry.enterAll es))
    (he : Entered u v es) : Held w ms v.telemetry := by
  have ht : v.telemetry.spanless = (u.telemetry.enterAll es).spanless :=
    congrArg World.telemetry he
  rwa [← held_spanless_iff, ht, held_spanless_iff]

/-- What is not metered holds no metrics. -/
theorem Held.of_unmetered (hi : t.handles.instrumented = t.registry.instrumented)
    (hm : t.registry.metrics = w.telemetry.registry.metrics) (hp : t.handles.meterProvider = none) :
    Held w [] t where
  instrumented := hi
  metrics := by
    rw [outstanding, hp, hm]
    rfl

theorem Held.of_metered {i : Nat} {p : MeterProvider} (h : Metered i p t)
    (hi : t.handles.instrumented = t.registry.instrumented)
    (hm : t.registry.metrics = w.telemetry.registry.metrics) :
    Held w (if p.exports && p.running then p.ledger.metrics else []) t :=
  ⟨hi, by rw [h.outstanding, hm]⟩

variable (hh : w.telemetry.handles = {}) (hu : w.telemetry.registry.Unused)

include hh hu

theorem held_performEach (activities : List Activity) :
    Held w (recorded s w activities) (performEach activities (start s w).2).telemetry := by
  have h₀ : Unmetered w.telemetry w.telemetry :=
    unmetered_self ((congrArg Handles.instrumented hh).trans hu.instrumented.symm)
  have hp₀ : w.telemetry.handles.meterProvider = none := congrArg Handles.meterProvider hh
  -- without a provider of metrics entries are lost, and nothing has been recorded
  have hlost : ∀ v, v.telemetry.registry.metering.installed = none →
      Held w [] v.telemetry → Held w [] (performEach activities v).telemetry := by
    intro v hv h
    refine Held.of_entered ?_ (entered_performEach rfl activities)
    rwa [enterAll_of_not_installed hv]
  cases he : s.enabled with
  | false =>
    have hs := telemetry_start_of_disabled (w := w) he
    have hr : recorded s w activities = [] := by simp [recorded, he]
    rw [hr]
    refine hlost _ ?_ (.of_unmetered ?_ ?_ ?_) <;> rw [hs]
    · exact hu.metering
    · exact h₀.instrumented
    · rfl
    · exact hp₀
  | true =>
    obtain ⟨e, v, hv, h⟩ | ⟨u, v, hv, h, ht⟩ := start_cases he h₀
    · have hr : recorded s w activities = [] := by
        simp [recorded, hv, Except.isOk, Except.toBool]
      rw [hr, hv]
      refine hlost v (h.metering ▸ hu.metering) ?_
      exact .of_unmetered h.instrumented h.metrics (h.meterProvider.trans hp₀)
    · have hm : Metered _ { exports := s.endpoint?.isSome } v.telemetry :=
        ht ▸ metered_makeMeterProvider (h.metering ▸ hu.metering)
      have hes := hm.enterAll rfl (entries true activities)
      obtain ⟨m, hadd⟩ := enterAll_eq v.telemetry (entries true activities)
      have hheld := Held.of_metered (w := w) hes (by rw [hadd, ht]; exact h.instrumented)
        (by rw [hadd, ht]; exact h.metrics)
      have hr : recorded s w activities = if s.endpoint?.isSome && true then
          (Ledger.enterAll {} (entries true activities)).metrics else [] := by
        simp [recorded, he, hv, Except.isOk, Except.toBool]
      have htracer : v.telemetry.handles.tracer = true := hasTracer_of_start hv
      rw [hr, hv]
      exact hheld.of_entered (entered_performEach htracer activities)

/-- **A stop releases everything exactly if the exporter of spans does not fail.** Telemetry is
started once, to whichever end, and any activities follow. The stop ends with the fault of the
exporter of spans, if there is one. It releases the providers and the instruments and delivers the
metrics of the activities exactly if there is none; stopping once more always does. A provider of
metrics is taken to shut down without a fault, so nothing is said of an exporter of metrics that
fails then. -/
theorem released_iff (s : TelemetrySettings) (activities : List Activity) :
    let v := performEach activities (start s w).2
    let ms := recorded s w activities
    (stop v).1 = stopEnd (stopFault s w.replies) ∧
      (Released w ms (stop v).2 ↔ stopFault s w.replies = none) ∧
      Released w ms (stop (stop v).2).2 := by
  intro v ms
  have hheld : Held w ms v.telemetry := held_performEach hh hu activities
  have hentered : Entered (start s w).2 v _ := entered_performEach rfl activities
  have hf : flushFault v = stopFault s w.replies :=
    (flushFault_congr hentered.handles hentered.tracing
      (congrArg (·.shutdown) hentered.replies)).trans
        (flushFault_start (congrArg Handles.traceProvider hh))
  exact ⟨hf ▸ stop_fst v, hf ▸ hheld.released_stop_iff, hheld.released_stop_stop⟩

omit hh hu

/-- A fetch that failed in its span, and one that succeeded after it. -/
theorem released_iff_of_two_fetches :
    let s : TelemetrySettings := { enabled := true, endpoint := some "http://collector:4317" }
    let activities : List Activity :=
      [.span "fetch" [] [.failed "fetch" (.runtime "reset"), .raise (.runtime "reset")],
        .fetched 7 (.ofInt 2)]
    let u := (stop (performEach activities (start s {}).2)).2
    ({} : World).telemetry.handles = {} ∧ ({} : World).telemetry.registry.Unused ∧
      Released {} (recorded s {} activities) u ∧
      recorded s {} activities = (Ledger.enterAll {}
        [.failure "fetch" "RuntimeError", .fetch 7 (.ofInt 2)]).metrics := by
  intro s activities u
  have hu : ({} : World).telemetry.registry.Unused := ⟨rfl, rfl, rfl, rfl⟩
  obtain ⟨-, hr, -⟩ := released_iff rfl hu s activities
  exact ⟨rfl, hu, hr.mpr rfl, rfl⟩

/-- If the exporter of spans fails to shut down, the stop ends there: both providers and the
instruments are still held, and a fetch that has been recorded is not delivered. -/
theorem held_after_flush_failure :
    let w : World := { replies := { shutdown := fun
      | .otlpTrace => some (.runtime "flush failed")
      | _ => none } }
    let s : TelemetrySettings := { enabled := true, endpoint := some "http://collector:4317" }
    let activities : List Activity := [.fetched 7 (.ofInt 2)]
    let q := stop (performEach activities (start s w).2)
    q.1 = .error ⟨.runtime "flush failed", none⟩ ∧
      q.2.telemetry.handles.traceProvider = some 0 ∧
      q.2.telemetry.handles.meterProvider = some 0 ∧
      q.2.telemetry.handles.instrumented = true ∧ q.2.telemetry.registry.instrumented = true ∧
      q.2.telemetry.registry.metrics = [] ∧ recorded s w activities ≠ [] ∧
      ¬ Released w (recorded s w activities) q.2 := by
  refine ⟨rfl, rfl, rfl, rfl, rfl, rfl, ?_, ?_⟩
  · exact List.cons_ne_nil _ _
  · intro h
    exact nomatch h.traceProvider

end PinnedRun.Telemetry
