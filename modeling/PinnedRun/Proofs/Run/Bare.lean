import PinnedRun.Proofs.Run.Course

/-!
# A run without telemetry

`World.work` is the world without its telemetry and without the log records that telemetry writes.
As long as no exporter fails, starting and stopping telemetry does not show in the work, and neither
do spans and records, so a run does the work of `Run.bareRun`, which knows no telemetry
(`Run.lockstep_run`), and so do runs that differ in the settings of the telemetry
(`Run.lockstep_run_withTelemetry`).

* `SameWork w t` : the same work has been done in both worlds, and no exporter fails;
* `Unnoticed x` : the action `x` ends well and does no work.
-/

namespace PinnedRun

open PinnedRun.Action

namespace World

/-- The world without its telemetry and without the log records of telemetry. -/
def work (w : World) : World :=
  { w with log := w.log.filter (·.source ≠ .telemetry), telemetry := {} }

variable {w : World} {level : Level} {source : Source} {message : String}

theorem quiet_iff {w : World} : w.Quiet ↔ w.exporters = (fun _ => none, fun _ => none) := by
  simp [Quiet, exporters, funext_iff]

@[simp] theorem work_work (w : World) : w.work.work = w.work := by simp [work]

theorem work_report_telemetry : (w.report level .telemetry message).work = w.work := by
  obtain h | h := w.report_eq_or level .telemetry message <;> rw [h]
  simp [work]

theorem work_report_of_ne (h : source ≠ .telemetry) :
    (w.report level source message).work = w.work.report level source message := by
  have ht : w.work.threshold = w.threshold := rfl
  unfold report
  rw [ht]
  split
  · simp [work, h]
  · rfl

end World

theorem view_work : View World.work where
  now w := ⟨rfl, w.work_work.symm⟩
  log {level source message} w := by
    refine ⟨rfl, ?_⟩
    change (w.report level source message).work = (w.work.report level source message).work
    by_cases h : source = .telemetry
    · rw [h, World.work_report_telemetry, World.work_report_telemetry, World.work_work]
    · rw [World.work_report_of_ne h, World.work_report_of_ne h, World.work_work]
  request w := ⟨rfl, by simp [World.work, request, receive, World.advance]⟩
  closeSession w := ⟨rfl, by simp [World.work, closeSession]⟩
  launch w := ⟨rfl, by simp [World.work, launch, receive, World.advance]⟩
  writeFile {path content} w := by
    have hv : w.work.volume = w.volume := rfl
    simp only [Fetch.writeFile, hv]
    cases w.volume.write path content <;> exact ⟨rfl, by simp [World.work]⟩
  onTelemetry _ _ := rfl

/-- The same work has been done in both worlds, and no exporter fails. -/
abbrev SameWork : World → World → Prop :=
  Seen World.work World.exporters (fun _ => none, fun _ => none)

theorem coupling_sameWork : Coupling SameWork :=
  view_work.coupling (unmoved_wiring_exporters.map Prod.snd)

theorem SameWork.right {w t : World} (h : SameWork w t) : SameWork t t :=
  ⟨rfl, (congrArg World.exporters h.1.symm : t.work.exporters = _).trans h.2⟩

/-- The same work has been done in both worlds, no exporter fails, and the first world may trace. -/
abbrev SameWorkTraced : World → World → Prop :=
  Seen World.work (fun w => (Telemetry.hasTracer w, w.exporters))
    (true, fun _ => none, fun _ => none)

theorem overlooks_sameWorkTraced : Overlooks SameWorkTraced :=
  view_work.overlooks (unmoved_wiring_exporters.map fun k => (k.1.1.tracer, k.2))
    fun _ h => congrArg Prod.fst h

theorem sameWorkTraced_of_hasTracer {w t : World} (h : SameWork w t)
    (ht : Telemetry.hasTracer w = true) : SameWorkTraced w t :=
  ⟨h.1, Prod.ext ht h.2⟩

theorem sameWork_of_traced {w t : World} (h : SameWorkTraced w t) : SameWork w t :=
  ⟨h.1, congrArg Prod.snd h.2⟩

/-! ### What goes unnoticed -/

/-- The action ends well and does no work, as long as no exporter fails. -/
def Unnoticed (x : Action World Unit) : Prop := Lockstep SameWork x (pure ())

theorem Unnoticed.bind {x : Action World Unit} {f : Unit → Action World Unit}
    (hx : Unnoticed x) (hf : ∀ a, Unnoticed (f a)) : Unnoticed (x >>= f) :=
  Lockstep.bind hx hf

theorem Unnoticed.gets_bind {γ : Type} {g : World → γ} {f : γ → Action World Unit}
    (hf : ∀ a, Unnoticed (f a)) : Unnoticed (gets g >>= f) :=
  fun w t h => hf (g w) w t h

theorem Unnoticed.ite {p : Prop} [Decidable p] {x y : Action World Unit} (hx : Unnoticed x)
    (hy : Unnoticed y) : Unnoticed (if p then x else y) := by
  split
  · exact hx
  · exact hy

theorem unnoticed_pure : Unnoticed (pure ()) := lockstep_pure ()

theorem unnoticed_log {level : Level} {message : String} :
    Unnoticed (log level .telemetry message) := fun w _ h =>
  ⟨rfl, World.work_report_telemetry.trans h.1,
    (congrArg (fun r : Replies => (r.setup, r.shutdown)) (w.replies_report ..)).trans h.2⟩

namespace Telemetry

variable {s : TelemetrySettings}

theorem unnoticed_change {f : Telemetry → Telemetry} : Unnoticed (change f) :=
  fun _ _ h => ⟨rfl, h⟩

theorem unnoticed_setUp {exporter : Exporter} : Unnoticed (setUp s exporter) := by
  intro w t h
  refine ⟨?_, h⟩
  have hx : w.replies.setup exporter = none := (World.quiet_iff.mpr h.2).1 exporter
  simp only [setUp, hx]
  rfl

theorem unnoticed_startTracing : Unnoticed (startTracing s) :=
  unnoticed_change.bind fun _ => unnoticed_log.bind fun _ => unnoticed_setUp.bind fun _ =>
    unnoticed_change

theorem unnoticed_startInstrumenting : Unnoticed (startInstrumenting s) :=
  .gets_bind fun _ => .ite unnoticed_log <| .ite unnoticed_pure <|
    unnoticed_change.bind fun _ => unnoticed_log

theorem unnoticed_startMetering : Unnoticed (startMetering s) := by
  refine Unnoticed.bind ?_ fun _ => unnoticed_change
  unfold setUpMetering
  split
  · exact unnoticed_log.bind fun _ => unnoticed_setUp
  · exact unnoticed_log

theorem unnoticed_start : Unnoticed (start s) :=
  .ite (unnoticed_log.bind fun _ => unnoticed_change) <|
    unnoticed_log.bind fun _ => unnoticed_change.bind fun _ => unnoticed_startTracing.bind fun _ =>
      unnoticed_startInstrumenting.bind fun _ => unnoticed_startMetering.bind fun _ =>
        unnoticed_log

theorem unnoticed_shutDownTracing {i : Nat} : Unnoticed (shutDownTracing i) := by
  intro w t h
  refine ⟨?_, h⟩
  have hf : shutdownFault w i = none := by
    have hx := (World.quiet_iff.mpr h.2).2
    unfold shutdownFault
    split
    · split
      · exact Option.bind_eq_none_iff.mpr fun x _ => hx x
      · rfl
    · rfl
  simp only [shutDownTracing, hf]
  rfl

theorem unnoticed_stop : Unnoticed stop := by
  refine Unnoticed.bind (.gets_bind fun provider => ?_) fun _ =>
    unnoticed_change.bind fun _ => unnoticed_change
  split
  · exact unnoticed_shutDownTracing.bind fun _ => unnoticed_change
  · exact unnoticed_pure

end Telemetry

/-! ### The bare run -/

namespace Run

variable {s : Settings} {p : Plan}

/-- A run that neither starts nor stops telemetry and has no spans. -/
def bareRun (s : Settings) (p : Plan) : Action Run Int :=
  ((do
      onWorld (log .debug .runner "Initializing runner components")
      stepsBy (fetchAlone s p) (testsAlone p) s p : Action Run Int).handle breakOff).ensure
    printSummary

theorem lockstep_prepare :
    Lockstep SameWork (prepare s) (log .debug .runner "Initializing runner components") :=
  coupling_sameWork.log.bind fun _ => Telemetry.unnoticed_start

theorem lockstep_steps :
    Lockstep (Alike SameWork) (steps s p) (do
      onWorld (log .debug .runner "Initializing runner components")
      stepsBy (fetchAlone s p) (testsAlone p) s p) := by
  intro r t h
  obtain ⟨he, hw⟩ := lockstep_prepare (s := s) r.world t.world h.1
  obtain ⟨v, hv⟩ : ∃ v, prepare s r.world = (.ok (), v) := ⟨(prepare s r.world).2, Prod.ext he rfl⟩
  obtain ⟨u, hu⟩ : ∃ u, log .debug .runner "Initializing runner components" t.world = (.ok (), u) :=
    ⟨_, rfl⟩
  rw [hv, hu] at hw
  -- from here on the run may trace, so that its spans are overlooked
  have hR := overlooks_sameWorkTraced
  have ht : SameWorkTraced v u := sameWorkTraced_of_hasTracer hw (hasTracer_of_prepare hv)
  have hsteps := lockstep_stepsBy hR.toCoupling (lockstep_fetchStep (s := s) (p := p) hR)
    (lockstep_testsStep (p := p) hR) s p
  obtain ⟨hend, hwork, hsummary⟩ := hsteps { r with world := v } { t with world := u } ⟨ht, h.2⟩
  rw [steps, bind_of_ok (onWorld_of hv), bind_of_ok (onWorld_of hu)]
  exact ⟨hend, sameWork_of_traced hwork, hsummary⟩

theorem lockstep_printSummary : Lockstep (Alike SameWork) printSummary printSummary := by
  rintro ⟨w, summary⟩ ⟨v, _⟩ ⟨⟨hw, hq⟩, rfl⟩
  refine ⟨rfl, ⟨?_, hq⟩, rfl⟩
  simp only [World.work, World.mk.injEq] at hw
  obtain ⟨hr, ht, hv, hl, hf, hc, hp, -⟩ := hw
  simp only [printSummary, change_apply, World.work, World.reading, hr, ht, hv, hl, hf, hc, hp]

/-- **As long as no exporter fails, a run does the work of one without telemetry.** -/
theorem lockstep_run : Lockstep (Alike SameWork) (run s p) (bareRun s p) := by
  refine (lockstep_steps.handle coupling_sameWork.breakOff).ensure ?_
  exact lockstep_printSummary.bind fun _ => lockstep_onWorld Telemetry.unnoticed_stop

theorem bareRun_withTelemetry {t : TelemetrySettings} :
    bareRun { s with telemetry := t } p = bareRun s p := rfl

/-- **As long as no exporter fails, the settings of the telemetry do not count for a run.** -/
theorem lockstep_run_withTelemetry {t : TelemetrySettings} :
    Lockstep (Alike SameWork) (run s p) (run { s with telemetry := t } p) := by
  intro r r' h
  -- both runs are in lockstep with the bare run from `r'`, which is the same for both
  obtain ⟨he, hw, hs⟩ := lockstep_run (s := s) (p := p) r r' h
  obtain ⟨he', hw', hs'⟩ := lockstep_run (s := { s with telemetry := t }) (p := p) r' r'
    ⟨h.1.right, rfl⟩
  rw [bareRun_withTelemetry] at he' hw' hs'
  exact ⟨he.trans he'.symm, ⟨hw.1.trans hw'.1.symm, hw.2⟩, hs.trans hs'.symm⟩

end Run

end PinnedRun
