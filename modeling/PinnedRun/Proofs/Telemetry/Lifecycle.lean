import PinnedRun.Proofs.World.Outside
import PinnedRun.Telemetry.Activity

/-!
# How telemetry starts and stops

Starting and stopping telemetry leave the outside of the world alone (`keeps_outside_start`,
`keeps_outside_stop`), and how it starts depends on the replies to come only (`lockstep_start`).

* `Telemetry.flushFault w` is the fault that stopping the telemetry ends with in the world `w`
  (`stop_fst`);
* `Telemetry.stopFault` tells it from the settings and the replies to come: it is the fault of the
  exporter of spans, provided that this exporter could be set up (`flushFault_start`).
-/

namespace PinnedRun

open PinnedRun.Action

namespace Telemetry

open World (outside)

variable {γ : Type} {s : TelemetrySettings} {w : World}

/-- What `f` reads off the world does not change any more once tracing has been started. -/
structure Settled (f : World → γ) : Prop where
  log : ∀ {level source message}, Keeps f (log level source message)
  setUp : ∀ {exporter}, Keeps f (setUp s exporter)
  putInstruments : Keeps f (change putInstruments)
  makeMeterProvider : ∀ {exports}, Keeps f (change (makeMeterProvider exports))

variable {f : World → γ}

theorem Settled.startInstrumenting (h : Settled (s := s) f) : Keeps f (startInstrumenting s) := by
  refine Keeps.bind (fun _ => rfl) fun instrumented => .ite h.log (.ite (keeps_pure _) ?_)
  exact h.putInstruments.bind fun _ => h.log

theorem Settled.startMetering (h : Settled (s := s) f) : Keeps f (startMetering s) := by
  refine Keeps.bind ?_ fun _ => h.makeMeterProvider
  unfold setUpMetering
  split
  · exact h.log.bind fun _ => h.setUp
  · exact h.log

/-! ### The world outside -/

theorem keeps_outside_change {g : Telemetry → Telemetry} : Keeps outside (change g) :=
  keeps_change fun _ => World.outside_onTelemetry g

theorem settled_outside : Settled (s := s) outside where
  log _ := World.outside_report ..
  setUp _ := rfl
  putInstruments := keeps_outside_change
  makeMeterProvider := keeps_outside_change

theorem keeps_outside_startTracing : Keeps outside (startTracing s) :=
  keeps_outside_change.bind fun _ => (settled_outside (s := s)).log.bind fun _ =>
    settled_outside.setUp.bind fun _ => keeps_outside_change

theorem keeps_outside_start : Keeps outside (start s) := by
  have h : Settled (s := s) outside := settled_outside
  refine .ite ?_ ?_
  · exact h.log.bind fun _ => keeps_outside_change
  · exact h.log.bind fun _ => keeps_outside_change.bind fun _ =>
      keeps_outside_startTracing.bind fun _ => h.startInstrumenting.bind fun _ =>
      h.startMetering.bind fun _ => h.log

theorem keeps_outside_stop : Keeps outside stop := by
  refine Keeps.bind ?_ fun _ => keeps_outside_change.bind fun _ => keeps_outside_change
  refine Keeps.bind (fun _ => rfl) fun provider => ?_
  split
  · exact Keeps.bind (fun _ => rfl) fun _ => keeps_outside_change
  · exact keeps_pure _

/-! ### How starting ends -/

/-- Two worlds with the same replies to come. -/
def SameReplies (w v : World) : Prop := w.replies = v.replies

theorem lockstep_log {level : Level} {source : Source} {message message' : String} :
    Lockstep SameReplies (log level source message) (log level source message') := by
  intro w v h
  exact ⟨rfl, (World.replies_report ..).trans (h.trans (World.replies_report ..).symm)⟩

theorem lockstep_change {f g : Telemetry → Telemetry} :
    Lockstep SameReplies (change f) (change g) := fun _ _ h => ⟨rfl, h⟩

theorem lockstep_setUp {exporter : Exporter} :
    Lockstep SameReplies (setUp s exporter) (setUp s exporter) := by
  intro w v h
  refine ⟨?_, h⟩
  simp only [setUp, show w.replies = v.replies from h]

theorem startInstrumenting_fst (w : World) : (startInstrumenting s w).1 = .ok () := by
  unfold startInstrumenting
  rw [bind_apply, gets_apply]
  dsimp only
  split
  · rfl
  · split <;> rfl

theorem lockstep_startInstrumenting :
    Lockstep SameReplies (startInstrumenting s) (startInstrumenting s) := by
  -- which branch is taken may differ between the worlds, but every branch ends alike
  intro w v h
  have hk : ∀ w, (startInstrumenting s w).2.replies = w.replies := fun w =>
    (World.outside_eq_iff.mp (settled_outside.startInstrumenting (s := s) w)).1
  refine ⟨?_, (hk w).trans (h.trans (hk v).symm)⟩
  rw [startInstrumenting_fst, startInstrumenting_fst]

/-- How telemetry starts depends on the settings and the replies to come only. -/
theorem lockstep_start : Lockstep SameReplies (start s) (start s) := by
  refine .ite ?_ ?_
  · exact lockstep_log.bind fun _ => lockstep_change
  · refine lockstep_log.bind fun _ => lockstep_change.bind fun _ => ?_
    refine Lockstep.bind ?_ fun _ => lockstep_startInstrumenting.bind fun _ => ?_
    · exact lockstep_change.bind fun _ => lockstep_log.bind fun _ =>
        lockstep_setUp.bind fun _ => lockstep_change
    · refine Lockstep.bind ?_ fun _ => lockstep_log
      refine Lockstep.bind ?_ fun _ => lockstep_change
      unfold setUpMetering
      split
      · exact lockstep_log.bind fun _ => lockstep_setUp
      · exact lockstep_log

/-! ### How stopping ends -/

/-- The fault that stopping the telemetry ends with. -/
def flushFault (w : World) : Option Fault :=
  w.telemetry.handles.traceProvider.bind (shutdownFault w)

/-- The end of a stop, by the fault that it meets. -/
def stopEnd : Option Fault → Except Failure Unit
  | some fault => .error ⟨fault, none⟩
  | none => .ok ()

theorem stop_fst (w : World) : (stop w).1 = stopEnd (flushFault w) := by
  simp only [stop, stopTracing, bind_apply, gets_apply, flushFault]
  cases w.telemetry.handles.traceProvider with
  | none => rfl
  | some i =>
    simp only [bind_apply, shutDownTracing, Option.bind_some]
    cases shutdownFault w i <;> rfl

theorem flushFault_congr {v : World} (hh : w.telemetry.handles = v.telemetry.handles)
    (ht : w.telemetry.registry.tracing = v.telemetry.registry.tracing)
    (hr : w.replies.shutdown = v.replies.shutdown) : flushFault w = flushFault v := by
  have h : shutdownFault w = shutdownFault v := by
    funext i
    simp only [shutdownFault, ht, hr]
  simp only [flushFault, hh, h]

theorem settled_flushFault : Settled (s := s) flushFault where
  log _ :=
    flushFault_congr (congrArg (·.handles) (World.telemetry_report ..))
      (congrArg (·.registry.tracing) (World.telemetry_report ..))
      (congrArg (·.shutdown) (World.replies_report ..))
  setUp _ := rfl
  putInstruments _ := rfl
  makeMeterProvider _ := rfl

theorem flushFault_of_provider {i : Nat} {p : TraceProvider}
    (hi : w.telemetry.handles.traceProvider = some i)
    (hp : w.telemetry.registry.tracing.all[i]? = some p) (hr : p.running = true) :
    flushFault w = p.exporter.bind w.replies.shutdown := by
  simp [flushFault, shutdownFault, hi, hp, hr]

theorem flushFault_startTracing :
    flushFault (startTracing s w).2 =
      if (w.replies.setup (spanExporter s)).isNone then w.replies.shutdown (spanExporter s)
      else none := by
  have hr : ((w.onTelemetry makeTraceProvider).report .info .telemetry
      (tracingNotice s)).replies = w.replies := by rw [World.replies_report]; rfl
  simp only [startTracing, bind_apply, change, change_apply, log, setUp, hr]
  cases w.replies.setup (spanExporter s) with
  | some fault =>
    -- the provider that has been made is left without exporter
    refine flushFault_of_provider (p := {}) (i := w.telemetry.registry.tracing.all.length) ?_ ?_ rfl
    · simp [World.onTelemetry, onRegistry, makeTraceProvider]
    · simp [World.onTelemetry, onRegistry, makeTraceProvider, Providers.add]
  | none =>
    refine (flushFault_of_provider (p := { exporter := some (spanExporter s) })
      (i := w.telemetry.registry.tracing.all.length) ?_ ?_ rfl).trans ?_
    · simp [World.onTelemetry, onRegistry, makeTraceProvider, connectTraceProvider]
    · simp [World.onTelemetry, onRegistry, makeTraceProvider, connectTraceProvider, Providers.add,
        Providers.modify, Providers.install]
    · simp [World.onTelemetry]

/-- The fault that telemetry stops with under some settings: that of the exporter of spans, unless
this exporter could not be set up. -/
def stopFault (s : TelemetrySettings) (r : Replies) : Option Fault :=
  if s.enabled && (r.setup (spanExporter s)).isNone then r.shutdown (spanExporter s) else none

/-- **How telemetry stops is settled before it starts.** -/
theorem flushFault_start (h : w.telemetry.handles.traceProvider = none) :
    flushFault (start s w).2 = stopFault s w.replies := by
  have hs : Settled (s := s) flushFault := settled_flushFault
  unfold start stopFault
  cases s.enabled with
  | false =>
    rw [if_pos (by rfl), log_bind_apply]
    simp [change, flushFault, World.onTelemetry, onHandles, h]
  | true =>
    -- nothing after tracing has been started changes the fault any more
    rw [if_neg (by simp), log_bind_apply, change, change_bind_apply,
      snd_bind_of_keeps fun _ => hs.startInstrumenting.bind fun _ =>
        hs.startMetering.bind fun _ => hs.log,
      flushFault_startTracing]
    simp [World.onTelemetry]

/-! ### Whether a run may trace -/

/-- The run holds on to a tracer. -/
def hasTracer (w : World) : Bool := w.telemetry.handles.tracer

theorem settled_hasTracer : Settled (s := s) hasTracer where
  log _ := congrArg (·.handles.tracer) (World.telemetry_report ..)
  setUp _ := rfl
  putInstruments _ := rfl
  makeMeterProvider _ := rfl

theorem hasTracer_of_startTracing {w' : World} (h : startTracing s w = (.ok (), w')) :
    hasTracer w' = true := by
  simp only [startTracing, bind_eq_ok_iff] at h
  obtain ⟨_, _, -, _, _, -, _, v, -, hv⟩ := h
  exact (congrArg (fun r => hasTracer r.2) hv).symm

/-- A start with export enabled that comes to its end has started tracing, and what is settled then
is as it is in the end. -/
theorem startTracing_of_start {w' : World} (he : s.enabled = true)
    (h : start s w = (.ok (), w')) :
    ∃ u v, startTracing s u = (.ok (), v) ∧
      u.telemetry.registry.tracing = w.telemetry.registry.tracing ∧
      ∀ {γ : Type} {f : World → γ}, Settled (s := s) f → f w' = f v := by
  unfold start at h
  rw [he, if_neg (by simp), log_bind_apply, change, change_bind_apply, bind_eq_ok_iff] at h
  obtain ⟨_, v, hv, h⟩ := h
  refine ⟨_, v, hv, congrArg (·.registry.tracing) (World.telemetry_report ..), fun hs => ?_⟩
  have hlog : Keeps _ (log .info .telemetry "OpenTelemetry instrumentation initialized") := hs.log
  have hk := (hs.startInstrumenting.bind fun _ => hs.startMetering.bind fun _ => hlog) v
  rwa [h] at hk

/-- Once telemetry has been started, the run may trace, whether it exports or not. -/
theorem hasTracer_of_start {w' : World} (h : start s w = (.ok (), w')) : hasTracer w' = true := by
  cases he : s.enabled with
  | false =>
    unfold start at h
    rw [he, if_pos (by rfl), log_bind_apply] at h
    exact (congrArg (fun r => hasTracer r.2) h).symm
  | true =>
    obtain ⟨_, _, hv, -, hs⟩ := startTracing_of_start he h
    exact (hs settled_hasTracer).trans (hasTracer_of_startTracing hv)

/-! ### Whether spans are received -/

theorem settled_tracing : Settled (s := s) fun w => w.telemetry.registry.tracing where
  log _ := congrArg (·.registry.tracing) (World.telemetry_report ..)
  setUp _ := rfl
  putInstruments _ := rfl
  makeMeterProvider _ := rfl

theorem isTracing_of_startTracing {w' : World} (h : startTracing s w = (.ok (), w'))
    (hn : w.telemetry.registry.tracing.installed = none) : w'.telemetry.isTracing = true := by
  simp only [startTracing, bind_apply, change, change_apply, log, setUp] at h
  generalize Replies.setup _ (spanExporter s) = fault at h
  cases fault with
  | some fault => cases h
  | none =>
    obtain rfl := (Prod.mk.inj h).2
    simp [isTracing, World.onTelemetry, onRegistry, connectTraceProvider, makeTraceProvider,
      Providers.current, Providers.install, Providers.modify, Providers.add, hn]

/-- The first start with export enabled that comes to its end makes the provider that receives
spans. -/
theorem isTracing_of_start {w' : World} (he : s.enabled = true) (h : start s w = (.ok (), w'))
    (hn : w.telemetry.registry.tracing.installed = none) : w'.telemetry.isTracing = true := by
  obtain ⟨u, v, hv, hu, hs⟩ := startTracing_of_start he h
  have ht := isTracing_of_startTracing hv (hu ▸ hn)
  rwa [isTracing, ← hs settled_tracing] at ht

end Telemetry

end PinnedRun
