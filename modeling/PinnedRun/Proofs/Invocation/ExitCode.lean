import PinnedRun.Invocation
import PinnedRun.Proofs.Run.Ending

/-!
# The exit code of an invocation

Every invocation whose command line is accepted ends with an exit code. As long as stopping
telemetry does not fail, this is the code of a table that is read from the settings and from what
the outside parties do (`Invocation.tableCode`, `Invocation.invoke_ending`).

A stop that fails goes before the table: it replaces the code that the run has settled and printed,
unless it happens to be the same (`Invocation.ending_eq_settled_iff`).
-/

namespace PinnedRun.Invocation

open PinnedRun.Action

/-- The exit code for a fault that comes out. -/
def faultCode (f : Fault) : Int := if f.isOrdinary then 1 else 130

/-- The exit code for what a launch comes to. -/
def launchCode : Except Fault Int → Int
  | .ok n => if n < 0 then 128 - n else n
  | .error f =>
    if f.isMissingFile then 127
    else if f.isSystem then 126
    else
      match f with
      | .launch _ _ exitCode => exitCode
      | f => faultCode f

/-- The exit code for a plan, by what comes first: a fault of the start of telemetry, of closing
the session, of the fetch, or what the launch comes to. -/
def planCode (s : Settings) (p : Plan) (w : World) : Int :=
  match (Telemetry.start s.telemetry w).1 with
  | .error e => faultCode e.fault
  | .ok _ =>
    match w.replies.closing with
    | some f => faultCode f
    | none =>
      match (Fetch.fetch s.fetch p.remote.url (.text p.destination) w).1 with
      | .ok _ => launchCode w.nextLaunch.result
      | .error e =>
        if e.fault.isFetch then
          if s.abortOnFetchFailure then 1 else launchCode w.nextLaunch.result
        else faultCode e.fault

/-- The exit code of an invocation, unless stopping telemetry fails. -/
def tableCode (e : Environment) (a : Options.Arguments) (w : World) : Int :=
  match planned e a with
  | .error _ => 1
  | .ok (s, p) => planCode s p w

/-- The run of a plan in the world of an invocation. -/
def begun (a : Options.Arguments) (p : Plan) (w : World) : Run := Run.ofPlan p (adjustLog a w)

variable {e : Environment} {a : Options.Arguments} {s : Settings} {p : Plan}

theorem outside_begun (w : World) : (begun a p w).world.outside = w.outside := by
  unfold begun adjustLog
  split <;> rfl

theorem carryOut_apply (w : World) :
    carryOut s p w = ((Run.run s p (.ofPlan p w)).1, (Run.run s p (.ofPlan p w)).2.world) := rfl

theorem attempt_of_planned (h : planned e a = .ok (s, p)) : attempt e a = carryOut s p := by
  unfold attempt
  rw [h]
  rfl

theorem attempt_of_unusable {reason : Unusable} (h : planned e a = .error reason) :
    attempt e a = fail ⟨.unusable reason, none⟩ := by
  unfold attempt
  rw [h]
  rfl

/-- A fault that comes out leaves a record: an error, or that an interrupt ended the invocation. -/
theorem concludeFault_record (f : Failure) (w : World) :
    ∃ level message,
      concludeFault f w = (.ok (faultCode f.fault), w.report level .runner message) ∧
      (level = .error ∨
        faultCode f.fault = 130 ∧ level = .info ∧ message = "Interrupted by user") := by
  obtain ⟨f, cause⟩ := f
  unfold concludeFault faultCode
  dsimp only
  cases hi : f.isInterrupt with
  | true =>
    obtain ⟨message, rfl⟩ : ∃ message, f = .interrupt message := by
      cases f <;> simp_all [Fault.isInterrupt]
    exact ⟨.info, _, rfl, .inr ⟨rfl, rfl, rfl⟩⟩
  | false =>
    have ho : f.isOrdinary = true := by
      cases f <;> simp_all [Fault.isInterrupt, Fault.isOrdinary]
    rw [ho]
    split
    · exact ⟨.error, _, rfl, .inl rfl⟩
    · exact ⟨.error, _, rfl, .inl rfl⟩

theorem concludeFault_apply (f : Failure) (w : World) :
    ∃ v, concludeFault f w = (.ok (faultCode f.fault), v) ∧ v.outside = w.outside := by
  obtain ⟨level, message, h, -⟩ := concludeFault_record f w
  exact ⟨_, h, World.outside_report ..⟩

theorem lockstep_concludeFault {R : World → World → Prop} (h : Coupling R) (f : Failure) :
    Lockstep R (concludeFault f) (concludeFault f) :=
  .ite (h.log.bind fun _ => lockstep_pure _) <|
    .ite (h.log.bind fun _ => lockstep_pure _) <|
      .ite (h.log.bind fun _ => lockstep_pure _) (lockstep_fail f)

/-- The exit code for the end of an attempt. -/
def codeOf : Except Failure Int → Int
  | .ok exitCode => exitCode
  | .error e => faultCode e.fault

/-- What follows an accepted command line once the log has been adjusted. -/
def conduct (e : Environment) (a : Options.Arguments) : Action World Int :=
  (attempt e a).handle concludeFault

variable {commandLine : List String}

theorem invoke_of_accepted (h : Options.read commandLine = .accepted a) (w : World) :
    invoke e commandLine w =
      ⟨(conduct e a (adjustLog a w)).1, "", (conduct e a (adjustLog a w)).2⟩ := by
  unfold invoke
  rw [h]
  rfl

theorem invoke_apply (h : Options.read commandLine = .accepted a) (w : World) :
    (invoke e commandLine w).ending = .ok (codeOf (attempt e a (adjustLog a w)).1) ∧
      (invoke e commandLine w).world.outside = (attempt e a (adjustLog a w)).2.outside := by
  rw [invoke_of_accepted h]
  unfold conduct
  generalize hq : attempt e a (adjustLog a w) = q
  obtain ⟨f | exitCode, v⟩ := q
  · obtain ⟨v', hv, ho⟩ := concludeFault_apply f v
    rw [handle_of_error hq, hv]
    exact ⟨rfl, ho⟩
  · rw [handle_of_ok hq]
    exact ⟨rfl, rfl⟩

theorem codeOf_brokenOff (r : Except Failure Int) : codeOf (Run.brokenOff r) = codeOf r := by
  cases r with
  | ok exitCode => rfl
  | error f =>
    unfold Run.brokenOff
    dsimp only
    split
    · rename_i ho
      exact (if_pos ho).symm
    · rfl

theorem codeOf_launchEnding (r : Except Fault Int) :
    codeOf (Run.launchEnding r) = launchCode r := by
  cases r with
  | ok n => rfl
  | error f =>
    unfold Run.launchEnding launchCode
    dsimp only
    split
    · rfl
    · split
      · rfl
      · cases f <;> rfl

theorem prepare_fst (w : World) (v : World) (h : v.outside = w.outside) :
    (Run.prepare s v).1 = (Telemetry.start s.telemetry w).1 := by
  rw [Run.prepare, log_bind_apply]
  refine (Telemetry.lockstep_start _ _ ?_).1
  exact (World.replies_report ..).trans (World.outside_eq_iff.mp h).1

theorem codeOf_ending (w : World) (v : World) (h : v.outside = w.outside) :
    codeOf (Run.ending s p v) = planCode s p w := by
  unfold Run.ending planCode
  rw [prepare_fst w v h]
  cases (Telemetry.start s.telemetry w).1 with
  | error f => rfl
  | ok _ =>
    have hc : v.replies.closing = w.replies.closing :=
      congrArg (·.closing) (World.outside_eq_iff.mp h).1
    -- from here on both sides go by closing the session, the fetch and the launch in this order
    unfold Run.endingReady Run.fetched Run.orClosing
    rw [hc, Run.fetchPlanned_fst h, Run.nextLaunch_of_outside h]
    cases w.replies.closing with
    | some f => rfl
    | none =>
      unfold Run.fetchPlanned
      dsimp only
      cases (Fetch.fetch s.fetch p.remote.url (.text p.destination) w).1 with
      | ok _ => exact codeOf_launchEnding _
      | error f =>
        dsimp only
        cases f.fault.isFetch with
        | false => rfl
        | true =>
          cases s.abortOnFetchFailure with
          | false => exact codeOf_launchEnding _
          | true => rfl

theorem ending_of_planned (h : Options.read commandLine = .accepted a)
    (hp : planned e a = .ok (s, p)) (w : World) :
    (invoke e commandLine w).ending =
      .ok (codeOf (Run.orStop (Run.brokenOff (Run.ending s p (begun a p w).world))
        (Telemetry.stop (Run.beforeStop s p (begun a p w)).world).1)) := by
  rw [(invoke_apply h w).1, attempt_of_planned hp, carryOut_apply, Run.run_fst]
  rfl

theorem stop_beforeStop (w : World) :
    (Telemetry.stop (Run.beforeStop s p (begun a p w)).world).1 =
      Telemetry.stopEnd (Telemetry.stopFault s.telemetry w.replies) := by
  have hr : (begun a p w).world.replies = w.replies := (World.outside_eq_iff.mp (outside_begun w)).1
  rw [Telemetry.stop_fst, Run.flushFault_beforeStop (r := begun a p w) rfl, hr]

/-- **Every invocation ends with an exit code, and the table says which** as long as stopping
telemetry does not fail. -/
theorem invoke_ending (h : Options.read commandLine = .accepted a) (w : World) :
    ∃ code, (invoke e commandLine w).ending = .ok code ∧
      ((∀ s p, planned e a = .ok (s, p) →
          (Telemetry.stop (Run.beforeStop s p (begun a p w)).world).1 = .ok ()) →
        code = tableCode e a w) := by
  refine ⟨_, (invoke_apply h w).1, fun hstop => ?_⟩
  unfold tableCode
  cases hp : planned e a with
  | error reason =>
    rw [attempt_of_unusable hp]
    rfl
  | ok q =>
    obtain ⟨s, p⟩ := q
    have hb : Run.ofPlan p (adjustLog a w) = begun a p w := rfl
    rw [attempt_of_planned hp, carryOut_apply, Run.run_fst, hb, hstop s p hp]
    exact (codeOf_brokenOff _).trans (codeOf_ending w _ (outside_begun w))

/-- A command that a signal ends after a fetch that is declined. -/
theorem invoke_ending_of_signal :
    let w : World := { replies :=
      { requests := [⟨0, .ok ⟨404, ⟨#[]⟩⟩⟩], launches := [⟨0, .ok (-9)⟩] } }
    Options.read [] = .accepted {} ∧ (invoke (fun _ => none) [] w).ending = .ok 137 := by
  intro w
  have hstop : ∀ s p, planned (fun _ => none) {} = .ok (s, p) →
      (Telemetry.stop (Run.beforeStop s p (begun {} p w)).world).1 = .ok () := by
    intro s p _
    have hf : Telemetry.stopFault s.telemetry w.replies = none := by
      unfold Telemetry.stopFault
      split <;> rfl
    rw [stop_beforeStop, hf]
    rfl
  have ht : tableCode (fun _ => none) {} w = 137 := by decide +kernel
  have hr : Options.read [] = .accepted {} := by decide
  obtain ⟨code, hc, htable⟩ := invoke_ending (e := fun _ => none) hr w
  exact ⟨hr, by rw [hc, htable hstop, ht]⟩

/-! ### A stop that fails -/

theorem settled_eq_some_iff {r : Except Failure Int} {exitCode : Int} :
    settledBy none r = some exitCode ↔ r = .ok exitCode := by
  cases r <;> simp [settledBy]

/-- **The exit code that a run settles and prints is that of the invocation, unless stopping
telemetry fails by a fault that has another one.** -/
theorem ending_eq_settled_iff (h : Options.read commandLine = .accepted a)
    (hp : planned e a = .ok (s, p)) (w : World) {exitCode : Int}
    (hc : (Run.run s p (begun a p w)).2.summary.exitCode = some exitCode) :
    (∃ now, (invoke e commandLine w).world.printed =
        w.printed ++ ((Run.run s p (begun a p w)).2.summary.overview now).text ∧
      ((Run.run s p (begun a p w)).2.summary.overview now).exitCode = some exitCode) ∧
    (∀ f, Telemetry.stopFault s.telemetry w.replies = some f →
      (invoke e commandLine w).ending = .ok (faultCode f)) ∧
    ((invoke e commandLine w).ending = .ok exitCode ↔
      ∀ f, Telemetry.stopFault s.telemetry w.replies = some f → faultCode f = exitCode) := by
  have hb : Run.brokenOff (Run.ending s p (begun a p w).world) = .ok exitCode := by
    rw [← settled_eq_some_iff, ← hc]
    exact (Run.settled_run (begun a p w)).symm
  have he := ending_of_planned h hp w
  rw [hb, stop_beforeStop] at he
  refine ⟨?_, fun f hf => ?_, ?_⟩
  · obtain ⟨now, hn⟩ := Run.printed_run (s := s) (p := p) (begun a p w)
    obtain ⟨-, -, -, -, hw⟩ := World.outside_eq_iff.mp (outside_begun (a := a) (p := p) w)
    obtain ⟨-, -, -, -, hi⟩ := World.outside_eq_iff.mp (invoke_apply (e := e) h w).2
    rw [attempt_of_planned hp, carryOut_apply] at hi
    exact ⟨now, hi.trans (hn.trans (congrArg (· ++ _) hw)), hc⟩
  · rw [he, hf]
    rfl
  · rw [he]
    -- without a fault of the stop the settled code comes out, otherwise that of the fault
    cases Telemetry.stopFault s.telemetry w.replies with
    | none => exact ⟨fun _ _ hf => (nomatch hf), fun _ => rfl⟩
    | some f =>
      constructor
      · intro hcode g hg
        obtain rfl : f = g := Option.some.inj hg
        exact Except.ok.inj hcode
      · intro hf
        exact congrArg Except.ok (hf f rfl)

theorem eq_ok_of_toOption {ε α : Type} {x : Except ε α} {b : α} (h : x.toOption = some b) :
    x = .ok b := by
  cases x with
  | ok _ => exact congrArg Except.ok (Option.some.inj h)
  | error _ => exact nomatch h

/-- The settings of an environment that only turns telemetry on. -/
def tracedSettings : Settings := { telemetry := { enabled := true } }

/-- Tests that fail with 3 before an interrupt stops the exporter: 3 is settled, 130 comes out. -/
theorem ending_eq_settled_iff_of_interrupt :
    let e := Environment.set (fun _ => none) "OTEL_ENABLED" "true"
    let w : World := { replies :=
      { launches := [⟨0, .ok 3⟩], shutdown := fun _ => some (.interrupt "") } }
    planned e {} = .ok (tracedSettings, Run.usualPlan) ∧
      (Run.run tracedSettings Run.usualPlan (begun {} Run.usualPlan w)).2.summary.exitCode =
        some 3 ∧
      (invoke e [] w).ending = .ok 130 := by
  intro e w
  have hp : planned e {} = .ok (tracedSettings, Run.usualPlan) :=
    eq_ok_of_toOption (by decide +kernel)
  have hc : (Run.run tracedSettings Run.usualPlan (begun {} Run.usualPlan w)).2.summary.exitCode =
      some 3 := by decide +kernel
  have hr : Options.read [] = .accepted {} := by decide
  obtain ⟨-, hf, -⟩ := ending_eq_settled_iff hr hp w hc
  exact ⟨hp, hc, hf (.interrupt "") rfl⟩

/-- The tests succeed and the summary says so, but an exporter that fails to flush makes the exit
code 1. -/
theorem settled_exitCode_replaced :
    let e := Environment.set (fun _ => none) "OTEL_ENABLED" "true"
    let w : World := { replies :=
      { requests := [⟨0, .ok ⟨200, ⟨#[]⟩⟩⟩], shutdown := fun _ => some (.runtime "flush failed") } }
    planned e {} = .ok (tracedSettings, Run.usualPlan) ∧
      (Run.run tracedSettings Run.usualPlan (begun {} Run.usualPlan w)).2.summary.exitCode =
        some 0 ∧
      (invoke e [] w).ending = .ok 1 := by
  intro e w
  exact ⟨eq_ok_of_toOption (by decide +kernel), by decide +kernel,
    eq_ok_of_toOption (by decide +kernel)⟩

end PinnedRun.Invocation
