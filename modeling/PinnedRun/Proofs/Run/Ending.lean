import PinnedRun.Proofs.Run.Course

/-!
# The end of a run

The exit code of a run is put into the summary when it is settled. Two things come after that: the
summary is printed, and telemetry is stopped. So the summary and what is printed of it tell the exit
code of the steps (`Settles`, `Run.printed_run`), while the fault of a stop takes the place of the
exit code in the end of the run (`Run.run_fst`).
-/

namespace PinnedRun

open PinnedRun.Action

/-- The exit code in the summary of a run. -/
def Run.settled (r : Run) : Option Int := r.summary.exitCode

/-- The exit code in the summary after an end, by what stood there before. -/
def settledBy (before : Option Int) : Except Failure Int → Option Int
  | .ok exitCode => some exitCode
  | .error _ => before

/-- The exit code that an action ends with stands in the summary; a failure leaves it as it is. -/
def Settles (x : Action Run Int) : Prop := ∀ r, (x r).2.settled = settledBy r.settled (x r).1

theorem settles_conclude (exitCode : Int) : Settles (Run.conclude exitCode) := fun _ => rfl

theorem settles_fail (e : Failure) : Settles (fail e) := fun _ => rfl

theorem Settles.bind {α : Type} {x : Action Run α} {f : α → Action Run Int}
    (hx : Keeps Run.settled x) (hf : ∀ a, Settles (f a)) : Settles (x >>= f) := by
  intro r
  have hr := hx r
  rw [bind_apply]
  generalize x r = q at *
  obtain ⟨e | a, r'⟩ := q
  · exact hr
  · exact (hf a r').trans (congrArg (settledBy · (f a r').1) hr)

theorem Settles.handle {x : Action Run Int} {f : Failure → Action Run Int} (hx : Settles x)
    (hf : ∀ e, Settles (f e)) : Settles (x.handle f) := by
  intro r
  have hr := hx r
  rw [handle_apply]
  generalize x r = q at *
  obtain ⟨e | a, r'⟩ := q
  · exact (hf e r').trans (congrArg (settledBy · (f e r').1) hr)
  · exact hr

theorem Settles.ite {p : Prop} [Decidable p] {x y : Action Run Int} (hx : Settles x)
    (hy : Settles y) : Settles (if p then x else y) := by
  split
  · exact hx
  · exact hy

namespace Run

variable {s : Settings} {p : Plan}

theorem keeps_settled_onWorld {α : Type} {x : Action World α} : Keeps settled (onWorld x) :=
  fun _ => rfl

theorem settles_giveUp : Settles giveUp :=
  .bind keeps_settled_onWorld fun _ => settles_conclude _

theorem settles_goOn (tests : Action World TestRun) (fetched : StepResult) :
    Settles (goOn tests p fetched) :=
  .bind keeps_settled_onWorld fun _ => .bind keeps_settled_onWorld fun _ =>
    .bind (fun _ => rfl) fun _ => settles_conclude _

theorem settles_steps : Settles (steps s p) :=
  .bind keeps_settled_onWorld fun _ => .bind keeps_settled_onWorld fun _ =>
    .bind (fun _ => rfl) fun _ => .ite settles_giveUp (settles_goOn _ _)

theorem settles_breakOff (e : Failure) : Settles (breakOff e) :=
  .ite (.bind keeps_settled_onWorld fun _ => settles_conclude _) (settles_fail e)

/-! ### What comes before the end -/

/-- The steps, broken off by the first ordinary fault that comes out of them. -/
def body (s : Settings) (p : Plan) : Action Run Int := (steps s p).handle breakOff

theorem settles_body : Settles (body s p) := settles_steps.handle settles_breakOff

/-- What an ordinary fault breaks off ends with 1. -/
def brokenOff : Except Failure Int → Except Failure Int
  | .ok exitCode => .ok exitCode
  | .error e => if e.fault.isOrdinary then .ok 1 else .error e

theorem breakOff_apply (e : Failure) (r : Run) :
    (breakOff e r).1 = brokenOff (.error e) ∧
      (breakOff e r).2.world.outside = r.world.outside ∧
      (breakOff e r).2.world.wiring = r.world.wiring := by
  unfold breakOff brokenOff
  dsimp only
  split
  · refine ⟨rfl, World.outside_report .., ?_⟩
    exact congrArg (fun v => (v.handles, v.registry.tracing)) (World.telemetry_report ..)
  · exact ⟨rfl, rfl, rfl⟩

theorem body_apply (r : Run) :
    (body s p r).1 = brokenOff (ending s p r.world) ∧
      (body s p r).2.world.outside = (reached s p r.world).outside ∧
      (body s p r).2.world.wiring = (prepare s r.world).2.wiring := by
  -- all three are those of the steps, and breaking off adds no more than a record
  rw [← steps_fst, ← outside_steps, ← wiring_steps, body, handle_apply]
  generalize steps s p r = q
  obtain ⟨e | exitCode, r'⟩ := q
  · exact breakOff_apply e r'
  · exact ⟨rfl, rfl, rfl⟩

/-- Breaking off leaves the telemetry and the results of the steps alone. -/
theorem keeps_reports_breakOff (e : Failure) :
    Keeps (fun r : Run => (r.world.telemetry, r.summary.results)) (breakOff e) := by
  unfold breakOff
  refine .ite ?_ fun _ => rfl
  exact Keeps.bind (fun r => congrArg (·, r.summary.results) (World.telemetry_report ..)) fun _ =>
    fun _ => rfl

theorem reports_body (r : Run) :
    ((body s p r).2.world.telemetry, (body s p r).2.summary.results) =
      ((steps s p r).2.world.telemetry, (steps s p r).2.summary.results) :=
  snd_handle_of_keeps keeps_reports_breakOff r

/-- A run at the point where its telemetry is stopped. -/
def beforeStop (s : Settings) (p : Plan) (r : Run) : Run := (printSummary (body s p r).2).2

theorem flushFault_beforeStop {r : Run} (h : r.world.telemetry.handles.traceProvider = none) :
    Telemetry.flushFault (beforeStop s p r).world =
      Telemetry.stopFault s.telemetry r.world.replies := by
  obtain ⟨-, ho, hw⟩ := body_apply (s := s) (p := p) r
  have hr : (body s p r).2.world.replies.shutdown = r.world.replies.shutdown :=
    (congrArg (·.shutdown) (World.outside_eq_iff.mp ho).1).trans (shutdown_reached r.world)
  have hp : (prepare s r.world).2.replies.shutdown = r.world.replies.shutdown :=
    congrArg (·.shutdown) (World.outside_eq_iff.mp (keeps_outside_prepare (s := s) r.world)).1
  -- neither the steps nor the summary touch what a stop depends on
  have hf : Telemetry.flushFault (beforeStop s p r).world =
      Telemetry.flushFault (prepare s r.world).2 :=
    Telemetry.flushFault_congr (congrArg (·.1) hw) (congrArg (·.2) hw) (hr.trans hp.symm)
  rw [hf, prepare, log_bind_apply, Telemetry.flushFault_start, World.replies_report]
  rwa [World.telemetry_report]

/-! ### The end -/

/-- An end, or the failure of the stop in the place of it. -/
def orStop (e : Except Failure Int) : Except Failure Unit → Except Failure Int
  | .ok _ => e
  | .error f => .error f

theorem run_apply (r : Run) :
    run s p r =
      (orStop (body s p r).1 (Telemetry.stop (beforeStop s p r).world).1,
        { beforeStop s p r with world := (Telemetry.stop (beforeStop s p r).world).2 }) := by
  have hf : finish (body s p r).2 =
      ((Telemetry.stop (beforeStop s p r).world).1,
        { beforeStop s p r with world := (Telemetry.stop (beforeStop s p r).world).2 }) := rfl
  have hr : run s p r = (body s p).ensure finish r := rfl
  rw [hr, ensure_apply, hf]
  cases (Telemetry.stop (beforeStop s p r).world).1 <;> rfl

theorem run_fst (r : Run) :
    (run s p r).1 =
      orStop (brokenOff (ending s p r.world)) (Telemetry.stop (beforeStop s p r).world).1 := by
  rw [run_apply, (body_apply r).1]

theorem settled_run (r : Run) :
    (run s p r).2.settled = settledBy r.settled (brokenOff (ending s p r.world)) := by
  rw [run_apply, ← (body_apply r).1]
  exact settles_body r

/-- The summary that is printed is that of the run, whatever comes after. -/
theorem printed_run (r : Run) :
    ∃ now, (run s p r).2.world.printed =
      r.world.printed ++ ((run s p r).2.summary.overview now).text := by
  obtain ⟨-, ho, -⟩ := body_apply (s := s) (p := p) r
  obtain ⟨-, -, -, -, hb⟩ := World.outside_eq_iff.mp ho
  obtain ⟨-, -, -, -, hs⟩ :=
    World.outside_eq_iff.mp (Telemetry.keeps_outside_stop (beforeStop s p r).world)
  refine ⟨(body s p r).2.world.reading, ?_⟩
  rw [run_apply]
  exact hs.trans (congrArg (· ++ _) (hb.trans (printed_reached r.world)))

/-- What follows the steps of a run neither acts on the outside nor writes. -/
theorem run_frame (r : Run) :
    (run s p r).2.world.calls = (reached s p r.world).calls ∧
      (run s p r).2.world.volume = (reached s p r.world).volume := by
  obtain ⟨-, ho, -⟩ := body_apply (s := s) (p := p) r
  obtain ⟨-, -, hbv, hbc, -⟩ := World.outside_eq_iff.mp ho
  obtain ⟨-, -, hsv, hsc, -⟩ :=
    World.outside_eq_iff.mp (Telemetry.keeps_outside_stop (beforeStop s p r).world)
  rw [run_apply]
  exact ⟨hsc.trans hbc, hsv.trans hbv⟩

theorem calls_run (r : Run) : (run s p r).2.world.calls = (reached s p r.world).calls :=
  (run_frame r).1

theorem volume_run (r : Run) : (run s p r).2.world.volume = (reached s p r.world).volume :=
  (run_frame r).2

end Run

end PinnedRun
