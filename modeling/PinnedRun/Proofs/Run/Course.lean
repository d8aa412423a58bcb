import PinnedRun.Proofs.Fetch.Overwrite
import PinnedRun.Proofs.Run.Coupling

/-!
# The course of a run

How the steps of a run end, and what they do outside, is settled by the start of telemetry, the
fetch, the closing of the session and the launch, each in the world that the run begins with.

* `Run.ending` is the end of the steps, `Run.reached` the world after them;
* `Run.steps_fst` and `Run.outside_steps` say that these are the end and the world of the steps,
  whatever spans and records come in between.
-/

namespace PinnedRun.Run

open PinnedRun.Action

variable {s : Settings} {p : Plan} {w : World}

/-- An end, or the fault of closing the session in the place of it. -/
def orClosing {α : Type} (w : World) (r : Except Failure α) : Except Failure α :=
  match w.replies.closing with
  | some f => .error ⟨f, none⟩
  | none => r

/-- Whether the fetch step succeeds, or the failure that it ends with. The session is closed in any
case. -/
def fetched (s : Settings) (p : Plan) (w : World) : Except Failure Bool :=
  orClosing w <|
    match (fetchPlanned s p w).1 with
    | .ok _ => .ok true
    | .error e => if e.fault.isFetch then .ok false else .error e

/-- The exit code for what a launch comes to, or the failure. -/
def launchEnding : Except Fault Int → Except Failure Int
  | .ok n => .ok (Launch.exitCode n)
  | .error f =>
    if f.isMissingFile then .ok 127
    else if f.isSystem then .ok 126
    else
      match f with
      | .launch _ _ exitCode => .ok exitCode
      | _ => .error ⟨f, none⟩

/-- How the steps end once telemetry has been started. -/
def endingReady (s : Settings) (p : Plan) (w : World) : Except Failure Int :=
  match fetched s p w with
  | .error e => .error e
  | .ok success =>
    if !success && s.abortOnFetchFailure then .ok 1 else launchEnding w.nextLaunch.result

/-- The world after the steps once telemetry has been started. -/
def reachedReady (s : Settings) (p : Plan) (w : World) : World :=
  match fetched s p w with
  | .error _ => (fetchPlanned s p w).2.closed
  | .ok success =>
    if !success && s.abortOnFetchFailure then (fetchPlanned s p w).2.closed
    else (fetchPlanned s p w).2.closed.launched p.command.words

/-- How the steps end. -/
def ending (s : Settings) (p : Plan) (w : World) : Except Failure Int :=
  match (prepare s w).1 with
  | .error e => .error e
  | .ok _ => endingReady s p w

/-- The world after the steps, apart from its log and its telemetry. -/
def reached (s : Settings) (p : Plan) (w : World) : World :=
  match (prepare s w).1 with
  | .error _ => w
  | .ok _ => reachedReady s p w

/-- The plan that the default settings lead to. -/
def usualPlan : Plan where
  remote := ⟨"https://raw.githubusercontent.com/EmbarkStudios/rust-gpu", "main", "rust-toolchain"⟩
  destination := "rust-toolchain"
  command := ⟨["cargo", "test"], List.cons_ne_nil _ _⟩

theorem fetched_eq_ok_iff (success : Bool) :
    fetched s p w = .ok success ↔ w.replies.closing = none ∧
      match success with
      | true => ∃ r, (fetchPlanned s p w).1 = .ok r
      | false => ∃ e, (fetchPlanned s p w).1 = .error e ∧ e.fault.isFetch = true := by
  unfold fetched orClosing
  cases w.replies.closing with
  | some f => simp
  | none =>
    cases (fetchPlanned s p w).1 with
    | ok r => cases success <;> simp
    | error e =>
      cases he : e.fault.isFetch <;> cases success <;> simp [he]

/-! ### The steps without spans -/

/-- The fetch step without its span. -/
def fetchAlone (s : Settings) (p : Plan) : Action World StepResult := do
  let start ← now
  tryFetch s p start >>= concludeFetch

/-- The step that runs the tests, without its span. -/
def testsAlone (p : Plan) : Action World TestRun := do
  let start ← now
  tryTests p start >>= concludeTests

theorem lockstep_fetchStep {R : World → World → Prop} (h : Overlooks R) :
    Lockstep R (fetchStep s p) (fetchAlone s p) :=
  h.now.bind fun _ => h.inSpan rfl <| h.tryFetch.bind fun _ => h.concludeFetch

theorem lockstep_testsStep {R : World → World → Prop} (h : Overlooks R) :
    Lockstep R (testsStep p) (testsAlone p) :=
  h.now.bind fun _ => h.inSpan rfl <| h.tryTests.bind fun _ => h.concludeTests

/-- The fetch of a plan in a world. -/
def fetchAttempt (s : Settings) (p : Plan) (w : World) : Fetch.Attempt :=
  ⟨s.fetch, ⟨p.remote.url, .text p.destination⟩, w⟩

/-- How a fetch ends depends on the outside only. -/
theorem fetchPlanned_fst {v : World} (h : v.outside = w.outside) :
    (fetchPlanned s p v).1 = (fetchPlanned s p w).1 :=
  ((coupling_shadows (k := v.wiring)).fetch v w ⟨h, rfl⟩).1

theorem fetchPlanned_frame (w : World) :
    ∃ requests, (fetchPlanned s p w).2.replies = { w.replies with requests := requests } ∧
      (fetchPlanned s p w).2.calls =
        w.calls ++ Fetch.calls s.fetch p.remote.url (.text p.destination) ∧
      (fetchPlanned s p w).2.printed = w.printed :=
  Fetch.fetch_frame s.fetch p.remote.url (.text p.destination) w

theorem closing_fetchPlanned (w : World) :
    (fetchPlanned s p w).2.replies.closing = w.replies.closing := by
  obtain ⟨_, h, -, -⟩ := fetchPlanned_frame (s := s) (p := p) w
  exact congrArg (·.closing) h

theorem orClosing_congr {α : Type} {v : World} (h : v.replies.closing = w.replies.closing)
    (r : Except Failure α) : orClosing v r = orClosing w r := by
  unfold orClosing
  rw [h]

/-- Closing the session at the end lets the end stand, or puts its own fault in the place of it. -/
theorem ensure_closeSession_of {α : Type} {x : Action World α} {r : Except Failure α} {v : World}
    (h : x w = (r, v)) : x.ensure closeSession w = (orClosing v r, v.closed) := by
  rw [ensure_apply, h]
  unfold orClosing
  cases hc : v.replies.closing with
  | some f => rw [closeSession_of_some hc]
  | none => rw [closeSession_of_none hc]

theorem tryFetch_of_ok {start : Numeric.Binary64} {r : FetchResult} {v : World}
    (h : fetchPlanned s p w = (.ok r, v)) :
    tryFetch s p start w = (orClosing v (.ok (.ok r)), v.closed) :=
  ensure_closeSession_of (handle_of_ok (bind_of_ok h))

theorem tryFetch_of_error {start : Numeric.Binary64} {e : Failure} {v : World}
    (h : fetchPlanned s p w = (.error e, v)) (he : e.fault.isFetch = false) :
    tryFetch s p start w = (orClosing v (.error e), v.closed) := by
  refine ensure_closeSession_of ((handle_of_error (bind_of_error h)).trans ?_)
  rw [recoverFetch, he]
  rfl

theorem tryFetch_of_isFetch (start : Numeric.Binary64) {e : Failure} {v : World}
    (h : fetchPlanned s p w = (.error e, v)) (he : e.fault.isFetch = true) :
    tryFetch s p start w =
      (orClosing v (.ok (.error (failedFetch e.fault (elapsedMs start v.reading)))),
        (Telemetry.recordFailure "fetch" e.fault v).2.closed) := by
  have hr : recoverFetch start e v =
      (.ok (.error (failedFetch e.fault (elapsedMs start v.reading))),
        (Telemetry.recordFailure "fetch" e.fault v).2) := by
    rw [recoverFetch, he]
    rfl
  exact ensure_closeSession_of ((handle_of_error (bind_of_error h)).trans hr)

/-- What the fetch step ends with, its duration included. -/
def fetchResult (s : Settings) (p : Plan) (w : World) : Except Failure StepResult :=
  orClosing w <|
    match fetchPlanned s p w with
    | (.ok r, _) => .ok (succeededFetch r)
    | (.error e, v) =>
      if e.fault.isFetch then .ok (failedFetch e.fault (elapsedMs w.reading v.reading))
      else .error e

theorem map_fetchResult (w : World) : (fetchResult s p w).map (·.success) = fetched s p w := by
  unfold fetchResult fetched orClosing
  generalize fetchPlanned s p w = q
  obtain ⟨e | r, v⟩ := q
  · cases w.replies.closing <;> cases he : e.fault.isFetch <;> simp [Except.map, failedFetch, he]
  · cases w.replies.closing <;> rfl

theorem fetchAlone_fst (w : World) : (fetchAlone s p w).1 = fetchResult s p w := by
  have hc := closing_fetchPlanned (s := s) (p := p) w
  have ha : fetchAlone s p w = (tryFetch s p w.reading >>= concludeFetch) w := rfl
  rw [ha, bind_apply]
  unfold fetchResult
  generalize hq : fetchPlanned s p w = q at *
  obtain ⟨e | r, v⟩ := q
  · rw [← orClosing_congr hc]
    cases he : e.fault.isFetch with
    | false =>
      rw [tryFetch_of_error hq he]
      unfold orClosing
      cases v.replies.closing <;> simp [he]
    | true =>
      rw [tryFetch_of_isFetch w.reading hq he]
      unfold orClosing
      cases v.replies.closing <;> simp [he, concludeFetch]
  · rw [← orClosing_congr hc, tryFetch_of_ok hq]
    unfold orClosing
    cases v.replies.closing <;> rfl

theorem keeps_change_of_ignores {γ : Type} {f : World → γ}
    (hf : ∀ w g, f (World.onTelemetry w g) = f w) {g : Telemetry → Telemetry} :
    Keeps f (Telemetry.change g) :=
  keeps_change fun w => hf w g

theorem keeps_recoverFetch {γ : Type} {f : World → γ}
    (hf : ∀ w g, f (World.onTelemetry w g) = f w) (start : Numeric.Binary64) (e : Failure) :
    Keeps f (recoverFetch start e) :=
  .ite ((keeps_change_of_ignores hf).bind fun _ => Keeps.bind (fun _ => rfl) fun _ => keeps_pure _)
    fun _ => rfl

/-- What does not show in the telemetry is after the attempt as the fetch and the closing of the
session leave it. -/
theorem snd_tryFetch {γ : Type} {f : World → γ}
    (hf : ∀ w g, f (World.onTelemetry w g).closed = f w.closed) (start : Numeric.Binary64)
    (w : World) : f (tryFetch s p start w).2 = f (fetchPlanned s p w).2.closed := by
  have hclosed : (tryFetch s p start w).2 = _ := congrArg Prod.snd (ensure_closeSession_of rfl)
  rw [hclosed]
  exact (snd_handle_of_keeps (f := fun w => f w.closed) (keeps_recoverFetch hf start) w).trans
    (snd_bind_of_keeps (f := fun w => f w.closed) (fun _ => keeps_pure _) w)

theorem outside_concludeFetch (x : Except StepResult FetchResult) :
    Keeps World.outside (concludeFetch x) := by
  cases x with
  | error failed => exact keeps_pure _
  | ok r =>
    exact Telemetry.keeps_outside_change.bind fun _ =>
      Keeps.bind (fun _ => World.outside_report ..) fun _ => keeps_pure _

theorem fetchAlone_apply (w : World) :
    (fetchAlone s p w).1.map (·.success) = fetched s p w ∧
      (fetchAlone s p w).2.outside = (fetchPlanned s p w).2.closed.outside := by
  refine ⟨?_, ?_⟩
  · rw [fetchAlone_fst, map_fetchResult]
  · have ha : fetchAlone s p w = (tryFetch s p w.reading >>= concludeFetch) w := rfl
    rw [ha, snd_bind_of_keeps outside_concludeFetch]
    exact snd_tryFetch (fun _ _ => rfl) w.reading w

/-! ### The tests -/

/-- The failure that a command ends with, by the fault of its launch. -/
def refusal (c : TestCommand) (f : Fault) : Failure :=
  if f.isMissingFile then ⟨c.notFoundFault, some f⟩
  else if f.isSystem then ⟨c.notStartedFault f, some f⟩
  else ⟨f, none⟩

theorem refuse_apply (c : TestCommand) (f : Fault) (w : World) :
    (c.refuse ⟨f, none⟩ w).1 = .error (refusal c f) ∧
      (c.refuse ⟨f, none⟩ w).2.outside = w.outside := by
  unfold TestCommand.refuse refusal
  dsimp only
  split
  · exact ⟨rfl, World.outside_report ..⟩
  · split
    · exact ⟨rfl, World.outside_report ..⟩
    · exact ⟨rfl, rfl⟩

/-- A command that cannot be launched ends with its refusal. -/
theorem command_of_error {c : TestCommand} {f : Fault} (h : w.nextLaunch.result = .error f) :
    c.run w = c.refuse ⟨f, none⟩
      ((w.report .info .command ("Running test command: " ++ c.line)).launched c.words) := by
  let v := w.report .info .command ("Running test command: " ++ c.line)
  have hn : v.nextLaunch = w.nextLaunch := by simp [v, World.nextLaunch]
  have hl : launch c.words v = (.error ⟨f, none⟩, v.launched c.words) := by
    rw [launch_apply, hn, h]
    rfl
  have hr : (launch c.words).handle c.refuse v = c.refuse ⟨f, none⟩ (v.launched c.words) :=
    handle_of_error hl
  obtain ⟨he, -⟩ := refuse_apply c f (v.launched c.words)
  generalize c.refuse ⟨f, none⟩ (v.launched c.words) = q at *
  obtain ⟨e | code, u⟩ := q
  · rw [TestCommand.run, log_bind_apply]
    exact bind_of_error hr
  · cases he

theorem command_apply (c : TestCommand) (w : World) :
    (c.run w).1 = (w.nextLaunch.result.mapError (refusal c)).map Launch.exitCode ∧
      (c.run w).2.outside = (w.launched c.words).outside := by
  -- the launch happens in the world `v`, which has one record more than `w`
  let v := w.report .info .command ("Running test command: " ++ c.line)
  have hn : v.nextLaunch = w.nextLaunch := by simp [v, World.nextLaunch]
  have ho : (v.launched c.words).outside = (w.launched c.words).outside :=
    World.outside_launched (World.outside_report ..) _
  cases hr : w.nextLaunch.result with
  | ok n =>
    have hl : launch c.words v = (.ok n, v.launched c.words) := by
      rw [launch_apply, hn, hr]
      rfl
    rw [TestCommand.run, log_bind_apply, bind_of_ok (handle_of_ok hl), log_bind_apply]
    exact ⟨rfl, (World.outside_report ..).trans ho⟩
  | error f =>
    obtain ⟨he, hv⟩ := refuse_apply c f (v.launched c.words)
    rw [command_of_error hr]
    exact ⟨he, hv.trans ho⟩

/-- The exit code for a launch that fails is that of the refusal, if this is one of the step. -/
theorem launchEnding_error (c : TestCommand) (f : Fault) :
    launchEnding (.error f) =
      match (refusal c f).fault with
      | .launch _ _ exitCode => .ok exitCode
      | _ => .error (refusal c f) := by
  unfold launchEnding refusal
  dsimp only
  split
  · rfl
  · split
    · rfl
    · cases f <;> rfl

/-- How the step that runs the tests ends, by the end of the command. -/
inductive CommandTold : Except Failure Int → Except Failure TestRun → Prop where
  | exited (exitCode : Int) (durationMs : Numeric.Binary64) :
    CommandTold (.ok exitCode) (.ok ⟨exitCode, durationMs, none⟩)
  | refused (e : Failure) (message : String) (command : List String) (exitCode : Int)
      (he : e.fault = .launch message command exitCode) (durationMs : Numeric.Binary64) :
    CommandTold (.error e) (.ok ⟨exitCode, durationMs, some message⟩)
  | brokenOff (e : Failure)
      (he : ∀ message command exitCode, e.fault ≠ .launch message command exitCode) :
    CommandTold (.error e) (.error e)

theorem concludeTests_fst (t : TestRun) (w : World) : (concludeTests t w).1 = .ok t := by
  unfold concludeTests
  split <;> rfl

theorem recoverTests_apply (start : Numeric.Binary64) (e : Failure) (w : World) :
    (∃ message command exitCode, e.fault = .launch message command exitCode ∧
      recoverTests start e w = (.ok ⟨exitCode, elapsedMs start w.reading, some message⟩,
        (Telemetry.recordFailure "tests" e.fault w).2)) ∨
    (∀ message command exitCode, e.fault ≠ .launch message command exitCode) ∧
      recoverTests start e w = (.error e, w) := by
  obtain ⟨f, cause⟩ := e
  cases f with
  | launch message command exitCode => exact .inl ⟨message, command, exitCode, rfl, rfl⟩
  | _ => exact .inr ⟨nofun, rfl⟩

theorem testsAlone_told (w : World) :
    CommandTold (p.command.run w).1 (testsAlone p w).1 := by
  have ha : testsAlone p w = (tryTests p w.reading >>= concludeTests) w := rfl
  rw [ha, bind_apply]
  generalize hq : p.command.run w = q
  obtain ⟨e | exitCode, v⟩ := q
  · have ht : tryTests p w.reading w = recoverTests w.reading e v :=
      handle_of_error (bind_of_error hq)
    rw [ht]
    obtain ⟨message, command, exitCode, he, hr⟩ | ⟨he, hr⟩ := recoverTests_apply w.reading e v
    · rw [hr]
      dsimp only
      rw [concludeTests_fst]
      exact .refused e message command exitCode he _
    · rw [hr]
      exact .brokenOff e he
  · have ht : tryTests p w.reading w =
        (.ok ⟨exitCode, elapsedMs w.reading v.reading, none⟩, v) :=
      handle_of_ok (bind_of_ok hq)
    rw [ht]
    dsimp only
    rw [concludeTests_fst]
    exact .exited exitCode _

theorem CommandTold.launchEnding_eq {c : TestCommand} {r : Except Fault Int}
    {r' : Except Failure TestRun}
    (h : CommandTold ((r.mapError (refusal c)).map Launch.exitCode) r') :
    r'.map (·.exitCode) = launchEnding r := by
  cases r with
  | ok n =>
    cases h
    rfl
  | error f =>
    change CommandTold (.error (refusal c f)) r' at h
    rw [launchEnding_error c]
    cases h with
    | refused e message command exitCode he durationMs =>
      rw [he]
      rfl
    | brokenOff e he =>
      split
      · exact absurd ‹_› (he _ _ _)
      · rfl

theorem keeps_recoverTests {γ : Type} {f : World → γ}
    (hf : ∀ w g, f (World.onTelemetry w g) = f w) (start : Numeric.Binary64) (e : Failure) :
    Keeps f (recoverTests start e) := by
  unfold recoverTests
  split
  · exact (keeps_change_of_ignores hf).bind fun _ => Keeps.bind (fun _ => rfl) fun _ => keeps_pure _
  · exact fun _ => rfl

theorem keeps_concludeTests {γ : Type} {f : World → γ}
    (hf : ∀ w g, f (World.onTelemetry w g) = f w) (t : TestRun) : Keeps f (concludeTests t) :=
  .ite ((keeps_change_of_ignores hf).bind fun _ => keeps_pure _) (keeps_pure _)

/-- What does not show in the telemetry is after the tests as the command leaves it. -/
theorem snd_testsBody {γ : Type} {f : World → γ} (hf : ∀ w g, f (World.onTelemetry w g) = f w)
    (start : Numeric.Binary64) (w : World) :
    f ((tryTests p start >>= concludeTests) w).2 = f (p.command.run w).2 := by
  rw [snd_bind_of_keeps (keeps_concludeTests hf)]
  exact (snd_handle_of_keeps (keeps_recoverTests hf start) w).trans
    (snd_bind_of_keeps (fun _ => Keeps.bind (fun _ => rfl) fun _ => keeps_pure _) w)

theorem testsAlone_apply (w : World) :
    (testsAlone p w).1.map (·.exitCode) = launchEnding w.nextLaunch.result ∧
      (testsAlone p w).2.outside = (w.launched p.command.words).outside := by
  obtain ⟨he, ho⟩ := command_apply p.command w
  have htold := testsAlone_told (p := p) w
  rw [he] at htold
  exact ⟨htold.launchEnding_eq, (snd_testsBody (fun _ _ => rfl) w.reading w).trans ho⟩

/-! ### Both steps -/

theorem onWorld_of {α : Type} {x : Action World α} {r : Run} {e : Except Failure α} {v : World}
    (h : x r.world = (e, v)) : onWorld x r = (e, { r with world := v }) := by
  rw [onWorld, within_apply, h]

theorem of_onWorld {α : Type} {x : Action World α} {r r' : Run} {e : Except Failure α}
    (h : onWorld x r = (e, r')) : x r.world = (e, r'.world) :=
  Prod.ext (congrArg (·.1) h) (congrArg (·.2.world) h)

/-- The steps after the fetch step has ended with a result. -/
theorem stepsBy_of_ok {fetch : Action World StepResult} {tests : Action World TestRun} {r : Run}
    {t : StepResult} {u : World} (h : fetch r.world = (.ok t, u)) :
    stepsBy fetch tests s p r =
      (if !t.success && s.abortOnFetchFailure then giveUp else goOn tests p t)
        ⟨u, r.summary.add t⟩ :=
  bind_of_ok (onWorld_of h)

theorem nextReply_of_outside {v : World} (h : w.outside = v.outside) :
    w.nextReply = v.nextReply :=
  congrArg (·.requests.headD unreachable) (World.outside_eq_iff.mp h).1

theorem nextLaunch_of_outside {v : World} (h : w.outside = v.outside) :
    w.nextLaunch = v.nextLaunch :=
  congrArg (·.launches.headD ⟨0, .ok 0⟩) (World.outside_eq_iff.mp h).1

theorem nextLaunch_closed_fetchPlanned (w : World) :
    (fetchPlanned s p w).2.closed.nextLaunch = w.nextLaunch := by
  obtain ⟨_, h, -, -⟩ := fetchPlanned_frame (s := s) (p := p) w
  exact congrArg (·.launches.headD ⟨0, .ok 0⟩) h

/-- A fetch with an address and a destination has asked once when its session is closed. -/
theorem calls_closed_fetchPlanned (hu : p.remote.url ≠ "") (hd : p.destination ≠ "") (w : World) :
    (fetchPlanned s p w).2.closed.calls =
      w.calls ++ [.get p.remote.url s.fetch.timeout s.fetch.verifyTls, .close] := by
  obtain ⟨_, -, hcalls, -⟩ := fetchPlanned_frame (s := s) (p := p) w
  have hg : Fetch.calls s.fetch p.remote.url (.text p.destination) =
      [.get p.remote.url s.fetch.timeout s.fetch.verifyTls] :=
    if_pos ⟨hu, decide_eq_false hd⟩
  rw [World.closed, hcalls, hg, List.append_assoc]
  rfl

theorem warn_apply (t : StepResult) (w : World) :
    ∃ v, warn p t w = (.ok (), v) ∧ v.outside = w.outside ∧ v.wiring = w.wiring := by
  unfold warn
  split
  · exact ⟨w, rfl, rfl, rfl⟩
  · refine ⟨_, rfl, World.outside_report .., ?_⟩
    exact congrArg (fun t => (t.handles, t.registry.tracing)) (World.telemetry_report ..)

theorem goOn_apply (t : StepResult) (r : Run) :
    (goOn (testsAlone p) p t r).1 = launchEnding r.world.nextLaunch.result ∧
      (goOn (testsAlone p) p t r).2.world.outside =
        (r.world.launched p.command.words).outside := by
  obtain ⟨v, hv, ho, -⟩ := warn_apply (p := p) t r.world
  obtain ⟨he, hw⟩ := testsAlone_apply (p := p) v
  rw [goOn, bind_of_ok (onWorld_of hv), ← nextLaunch_of_outside ho, ← he]
  generalize hq : testsAlone p v = q at *
  obtain ⟨e | tested, v'⟩ := q
  · rw [bind_of_error (onWorld_of hq)]
    exact ⟨rfl, hw.trans (World.outside_launched ho _)⟩
  · rw [bind_of_ok (onWorld_of hq)]
    exact ⟨rfl, hw.trans (World.outside_launched ho _)⟩

theorem stepsBy_alone_apply (r : Run) :
    (stepsBy (fetchAlone s p) (testsAlone p) s p r).1 = endingReady s p r.world ∧
      (stepsBy (fetchAlone s p) (testsAlone p) s p r).2.world.outside =
        (reachedReady s p r.world).outside := by
  obtain ⟨he, ho⟩ := fetchAlone_apply (s := s) (p := p) r.world
  rw [stepsBy, endingReady, reachedReady, ← he]
  generalize hq : fetchAlone s p r.world = q at *
  obtain ⟨e | t, v⟩ := q
  · rw [bind_of_error (onWorld_of hq)]
    exact ⟨rfl, ho⟩
  · rw [bind_of_ok (onWorld_of hq)]
    change ((if !t.success && s.abortOnFetchFailure then giveUp
        else goOn (testsAlone p) p t) ⟨v, r.summary.add t⟩).1 = _ ∧
      ((if !t.success && s.abortOnFetchFailure then giveUp
        else goOn (testsAlone p) p t) ⟨v, r.summary.add t⟩).2.world.outside = _
    dsimp only [Except.map]
    split
    · exact ⟨rfl, (World.outside_report ..).trans ho⟩
    · obtain ⟨hg, hw⟩ := goOn_apply (p := p) t ⟨v, r.summary.add t⟩
      refine ⟨hg.trans ?_, hw.trans (World.outside_launched ho _)⟩
      rw [nextLaunch_of_outside ho, nextLaunch_closed_fetchPlanned]

/-! ### The steps with their spans -/

theorem keeps_outside_prepare : Keeps World.outside (prepare s) :=
  Keeps.bind (fun _ => World.outside_report ..) fun _ => Telemetry.keeps_outside_start

theorem outside_of_prepare {v : World} (h : prepare s w = (.ok (), v)) :
    v.outside = w.outside := by
  have hk := keeps_outside_prepare (s := s) w
  rwa [h] at hk

theorem hasTracer_of_prepare {v : World} (h : prepare s w = (.ok (), v)) :
    Telemetry.hasTracer v = true := by
  rw [prepare, log_bind_apply] at h
  exact Telemetry.hasTracer_of_start h

/-- In a world that may trace, the fetch step goes as it would without its span. -/
theorem fetchStep_apply {v : World} (h : Telemetry.hasTracer v = true)
    (ho : v.outside = w.outside) :
    (fetchStep s p v).1.map (·.success) = fetched s p w ∧
      (fetchStep s p v).2.outside = (fetchPlanned s p w).2.closed.outside ∧
      (fetchStep s p v).2.wiring = v.wiring := by
  obtain ⟨hend, hafter, hwiring⟩ :=
    lockstep_fetchStep (s := s) (p := p) (overlooks_shadows (k := v.wiring) h) v w ⟨ho, rfl⟩
  obtain ⟨he, ha⟩ := fetchAlone_apply (s := s) (p := p) w
  exact ⟨hend ▸ he, hafter.trans ha, hwiring⟩

theorem fetchStep_of_no_tracer (h : Telemetry.hasTracer w = false) :
    fetchStep s p w = (.error ⟨Telemetry.notStarted, none⟩, w) := by
  have hn : w.telemetry.handles.tracer = false := h
  have hi : fetchStep s p w = Telemetry.inSpan "fetch"
      [("http.url", .text p.remote.url), ("file.path", .text p.destination)]
      (tryFetch s p w.reading >>= concludeFetch) w := rfl
  rw [hi, Telemetry.inSpan, hn]
  rfl

/-- Once telemetry has been started, the steps go as they would without any. -/
theorem steps_of_prepare {r : Run} {v : World} (h : prepare s r.world = (.ok (), v)) :
    (steps s p r).1 = endingReady s p r.world ∧
      Shadows v.wiring (steps s p r).2.world (reachedReady s p r.world) := by
  have ho : v.outside = r.world.outside := outside_of_prepare h
  -- the run is compared with one of the bare steps from where telemetry had not been started
  have hk : Overlooks (Shadows v.wiring) := overlooks_shadows (hasTracer_of_prepare h)
  obtain ⟨he, hw⟩ := stepsBy_alone_apply (s := s) (p := p) r
  obtain ⟨he', hw', -⟩ :=
    lockstep_stepsBy hk.toCoupling (lockstep_fetchStep hk) (lockstep_testsStep hk) s p
      { r with world := v } r ⟨⟨ho, rfl⟩, rfl⟩
  rw [steps, bind_of_ok (onWorld_of h)]
  exact ⟨he'.trans he, hw'.1.trans hw, hw'.2⟩

/-- **How the steps end is settled by what they do outside.** -/
theorem steps_fst (r : Run) : (steps s p r).1 = ending s p r.world := by
  unfold ending
  generalize hq : prepare s r.world = q
  obtain ⟨e | _, v⟩ := q
  · rw [steps, bind_of_error (onWorld_of hq)]
  · exact (steps_of_prepare hq).1

theorem outside_steps (r : Run) :
    (steps s p r).2.world.outside = (reached s p r.world).outside := by
  unfold reached
  generalize hq : prepare s r.world = q
  obtain ⟨e | _, v⟩ := q
  · have hk := keeps_outside_prepare (s := s) r.world
    rw [steps, bind_of_error (onWorld_of hq)]
    rwa [hq] at hk
  · exact (steps_of_prepare hq).2.1

theorem wiring_steps (r : Run) :
    (steps s p r).2.world.wiring = (prepare s r.world).2.wiring := by
  generalize hq : prepare s r.world = q
  obtain ⟨e | _, v⟩ := q
  · rw [steps, bind_of_error (onWorld_of hq)]
  · exact (steps_of_prepare hq).2.2

/-! ### What the steps leave alone -/

theorem printed_reached (w : World) : (reached s p w).printed = w.printed := by
  obtain ⟨_, -, -, h⟩ := fetchPlanned_frame (s := s) (p := p) w
  unfold reached reachedReady
  split
  · rfl
  · split
    · exact h
    · split <;> exact h

/-- The steps change the volume as their fetch does, if they come to it. -/
theorem volume_reached (w : World) :
    (reached s p w).volume = w.volume ∨ (reached s p w).volume = (fetchPlanned s p w).2.volume := by
  unfold reached reachedReady
  split
  · exact .inl rfl
  · split
    · exact .inr rfl
    · split <;> exact .inr rfl

theorem shutdown_reached (w : World) :
    (reached s p w).replies.shutdown = w.replies.shutdown := by
  obtain ⟨_, hr, -, -⟩ := fetchPlanned_frame (s := s) (p := p) w
  have h : (fetchPlanned s p w).2.replies.shutdown = w.replies.shutdown :=
    congrArg (·.shutdown) hr
  unfold reached reachedReady
  split
  · rfl
  · split
    · exact h
    · split <;> exact h

end PinnedRun.Run
