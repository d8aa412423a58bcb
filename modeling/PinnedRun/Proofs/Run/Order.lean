import PinnedRun.Proofs.Action.Delegation
import PinnedRun.Proofs.Run.Ending
import PinnedRun.Proofs.Settings.Completeness

/-!
# The order of the calls of a run

A run asks the server once, then closes the session once, and then launches the command at most
once; it makes no call at all if telemetry cannot be started (`Run.calls_in_order`).

What the launch finds is said by letting the way to launch a command vary (`Run.runBy`). A run that
comes to the launch delegates to it, in a world whose volume holds what has been fetched
(`Run.FoundByLaunch`), and a run that does not come to it does not depend on it.
-/

namespace PinnedRun

open PinnedRun.Action

/-- The request for the file of the settings. -/
def FetchSettings.requestCall (s : FetchSettings) : Call :=
  .get (s.baseUrl ++ "/" ++ s.branch ++ "/" ++ s.filePath) s.timeout s.verifyTls

/-- A way to launch a command. -/
abbrev Launcher := List String → Action World Int

/-- Runs the command by a way to launch it. -/
def TestCommand.runBy (launcher : Launcher) (c : TestCommand) : Action World Int := do
  log .info .command ("Running test command: " ++ c.line)
  let returnCode ← (launcher c.words).handle c.refuse
  let code := Launch.exitCode returnCode
  log .info .command ("Test command exited with code " ++ toString code)
  pure code

namespace Run

/-- Runs the command of a plan by a way to launch it. -/
def tryTestsBy (launcher : Launcher) (p : Plan) (start : Numeric.Binary64) :
    Action World TestRun :=
  (do
      let code ← p.command.runBy launcher
      let stop ← now
      pure ⟨code, elapsedMs start stop, none⟩ : Action World TestRun).handle (recoverTests start)

/-- The step that runs the tests, by a way to launch the command. -/
def testsStepBy (launcher : Launcher) (p : Plan) : Action World TestRun := do
  let start ← now
  Telemetry.inSpan "tests" [("process.command", .text p.command.line)]
    (tryTestsBy launcher p start >>= concludeTests)

/-- Makes ready and does the steps, by a way to launch the command. -/
def readyStepsBy (launcher : Launcher) (s : Settings) (p : Plan) : Action Run Int := do
  onWorld (prepare s)
  stepsBy (fetchStep s p) (testsStepBy launcher p) s p

/-- The whole run, by a way to launch the command. -/
def runBy (launcher : Launcher) (s : Settings) (p : Plan) : Action Run Int :=
  ((readyStepsBy launcher s p).handle breakOff).ensure finish

theorem runBy_launch (s : Settings) (p : Plan) : runBy launch s p = run s p := rfl

end Run

/-! ### Where the launch stands -/

namespace Telemetry

variable {α : Type} {name : String} {attributes : List (String × AttributeValue)} {w : World}

/-- The world in which a span is done. -/
def opened (name : String) (attributes : List (String × AttributeValue)) (w : World) : World :=
  if w.telemetry.registry.tracing.installed.isNone then w
  else w.onTelemetry (·.beginSpan name attributes)

theorem outside_opened : (opened name attributes w).outside = w.outside := by
  unfold opened
  split <;> rfl

/-- What does not show in the telemetry is after a span as the action in it leaves it. -/
theorem snd_inSpan {γ : Type} {f : World → γ} (hf : ∀ w g, f (World.onTelemetry w g) = f w)
    (ht : hasTracer w = true) (hn : reservedName? attributes = none) (x : Action World α) :
    f (inSpan name attributes x w).2 = f (x (opened name attributes w)).2 := by
  have htracer : w.telemetry.handles.tracer = true := ht
  simp only [inSpan, hn, htracer, if_true, traced, opened]
  split
  · rfl
  · generalize x (w.onTelemetry (·.beginSpan name attributes)) = q
    obtain ⟨e | a, v⟩ := q
    · exact hf v fun t => (t.onSpan (·.leave e.fault)).endSpan
    · exact hf v endSpan

theorem delegates_inSpan {β γ τ : Type} {x : (γ → Action τ β) → Action World α}
    {g : τ → World} {c : γ} {t : τ} (ht : hasTracer w = true)
    (hn : reservedName? attributes = none)
    (h : Delegates World.outside g x (opened name attributes w) c t) :
    Delegates World.outside g (fun operation => inSpan name attributes (x operation)) w c t :=
  fun operation => (snd_inSpan (fun _ _ => rfl) ht hn (x operation)).trans (h operation)

end Telemetry

theorem TestCommand.keeps_outside_refuse (c : TestCommand) (e : Failure) :
    Keeps World.outside (c.refuse e) :=
  .ite (fun _ => World.outside_report ..)
    (.ite (fun _ => World.outside_report ..) fun _ => rfl)

theorem TestCommand.delegates_runBy (c : TestCommand) (w : World) :
    Delegates World.outside World.outside (fun launcher : Launcher => c.runBy launcher) w c.words
      (w.report .info .command ("Running test command: " ++ c.line)) := by
  refine .after rfl ?_
  refine ((delegates_self World.outside c.words _).handle c.keeps_outside_refuse).bind fun _ => ?_
  exact Keeps.bind (fun _ => World.outside_report ..) fun _ => keeps_pure _

namespace Run

variable {s : Settings} {p : Plan} {w : World}

theorem delegates_tryTestsBy (start : Numeric.Binary64) (w : World) :
    Delegates World.outside World.outside (tryTestsBy · p start) w p.command.words
      (w.report .info .command ("Running test command: " ++ p.command.line)) := by
  refine ((p.command.delegates_runBy w).bind fun _ => ?_).handle
    (keeps_recoverTests (fun _ _ => rfl) start)
  exact Keeps.bind (fun _ => rfl) fun _ => keeps_pure _

/-- The step that runs the tests delegates to the launch within its span. -/
theorem delegates_testsStepBy (ht : Telemetry.hasTracer w = true) :
    ∃ v, v.outside = w.outside ∧
      Delegates World.outside World.outside (testsStepBy · p) w p.command.words v := by
  -- the launch happens within the span, after a record of its own
  let u := Telemetry.opened "tests" [("process.command", .text p.command.line)] w
  let v := u.report .info .command ("Running test command: " ++ p.command.line)
  have hv : v.outside = w.outside := (World.outside_report ..).trans Telemetry.outside_opened
  have hd : Delegates World.outside World.outside
      (fun launcher => tryTestsBy launcher p w.reading >>= concludeTests) u p.command.words v :=
    (delegates_tryTestsBy w.reading u).bind (keeps_concludeTests fun _ _ => rfl)
  exact ⟨v, hv, .after rfl (Telemetry.delegates_inSpan ht rfl hd)⟩

theorem hasTracer_congr {v : World} (h : v.wiring = w.wiring) :
    Telemetry.hasTracer v = Telemetry.hasTracer w :=
  congrArg (·.1.tracer) h

theorem delegates_onWorld {α β γ τ : Type} {x : (γ → Action τ β) → Action World α} {g : τ → World}
    {r : Run} {c : γ} {t : τ} (h : Delegates World.outside g x r.world c t) :
    Delegates (fun r : Run => r.world.outside) g (fun operation => onWorld (x operation)) r c t :=
  h

theorem delegates_goOn (t : StepResult) {r : Run} (ht : Telemetry.hasTracer r.world = true) :
    ∃ v, v.outside = r.world.outside ∧
      Delegates (fun r : Run => r.world.outside) World.outside
        (fun launcher => goOn (testsStepBy launcher p) p t) r p.command.words v := by
  obtain ⟨u, hu, ho, hk⟩ := warn_apply (p := p) t r.world
  obtain ⟨v, hv, hd⟩ := delegates_testsStepBy (p := p) ((hasTracer_congr hk).trans ht)
  refine ⟨v, hv.trans ho, .after (onWorld_of hu) ?_⟩
  refine (delegates_onWorld hd).bind fun tested => ?_
  exact Keeps.bind (fun _ => rfl) fun _ => fun _ => rfl

/-! ### Whether a run comes to the launch -/

/-- A run comes to the launch: it has been made ready, the session closes, and the fetch succeeds or
fails by a fault of its own that the settings tolerate. -/
structure Launches (s : Settings) (p : Plan) (w : World) : Prop where
  prepared : (prepare s w).1 = .ok ()
  closing : w.replies.closing = none
  fetched : (∃ result, (fetchPlanned s p w).1 = .ok result) ∨
    s.abortOnFetchFailure = false ∧
      ∃ e, (fetchPlanned s p w).1 = .error e ∧ e.fault.isFetch = true

theorem launches_iff (h : (prepare s w).1 = .ok ()) :
    Launches s p w ↔ ∃ success, fetched s p w = .ok success ∧
      ¬ (!success && s.abortOnFetchFailure) = true := by
  constructor
  · rintro ⟨-, hc, hr | ⟨ha, he⟩⟩
    · exact ⟨true, (fetched_eq_ok_iff true).mpr ⟨hc, hr⟩, by simp⟩
    · exact ⟨false, (fetched_eq_ok_iff false).mpr ⟨hc, he⟩, by simp [ha]⟩
  · rintro ⟨success, hf, ha⟩
    obtain ⟨hc, hr⟩ := (fetched_eq_ok_iff success).mp hf
    cases success with
    | true => exact ⟨h, hc, .inl hr⟩
    | false => exact ⟨h, hc, .inr ⟨by simpa using ha, hr⟩⟩

theorem readyStepsBy_of_ok {launcher : Launcher} {r : Run} {u : World}
    (h : prepare s r.world = (.ok (), u)) :
    readyStepsBy launcher s p r =
      stepsBy (fetchStep s p) (testsStepBy launcher p) s p { r with world := u } :=
  bind_of_ok (onWorld_of h)

/-- Once the run has been made ready, the fetch step goes as it would in the world before. -/
theorem fetchStep_of_prepare {u : World} (h : prepare s w = (.ok (), u)) :
    (fetchStep s p u).1.map (·.success) = fetched s p w ∧
      (fetchStep s p u).2.outside = (fetchPlanned s p w).2.closed.outside ∧
      Telemetry.hasTracer (fetchStep s p u).2 = true := by
  have ht := hasTracer_of_prepare h
  obtain ⟨he, ho, hw⟩ := fetchStep_apply (s := s) (p := p) ht (outside_of_prepare h)
  exact ⟨he, ho, (hasTracer_congr hw).trans ht⟩

/-- A run that does not come to the launch does not depend on the way to launch. -/
theorem runBy_eq_of_not_launches {r : Run} (h : ¬ Launches s p r.world) (launcher : Launcher) :
    runBy launcher s p r = run s p r := by
  have hsteps : readyStepsBy launcher s p r = readyStepsBy launch s p r := by
    refine bind_congr_of_ok fun _ r₁ h₁ => bind_congr_of_ok fun t r₂ h₂ => ?_
    have hprepared : prepare s r.world = (.ok (), r₁.world) := of_onWorld h₁
    have hfetch : fetchStep s p r₁.world = (.ok t, r₂.world) := of_onWorld h₂
    obtain ⟨hf, -, -⟩ := fetchStep_of_prepare (p := p) hprepared
    rw [hfetch] at hf
    -- the fetch step has failed and is not tolerated
    have habort : (!t.success && s.abortOnFetchFailure) = true := by
      rw [launches_iff (congrArg (·.1) hprepared)] at h
      exact Decidable.byContradiction fun ha => h ⟨t.success, hf.symm, ha⟩
    rw [if_pos habort, if_pos habort]
  rw [← runBy_launch, runBy, runBy, ensure_apply, ensure_apply, handle_apply, handle_apply, hsteps]

theorem keeps_acts_breakOff (e : Failure) :
    Keeps (fun r : Run => (r.world.calls, r.world.volume)) (breakOff e) := by
  intro r
  have h := congrArg (fun w : World => (w.calls, w.volume)) (breakOff_apply e r).2.1
  exact h

theorem keeps_acts_finish : Keeps (fun r : Run => (r.world.calls, r.world.volume)) finish := by
  refine Keeps.bind (fun _ => rfl) fun _ r => ?_
  have h := congrArg (fun w : World => (w.calls, w.volume)) (Telemetry.keeps_outside_stop r.world)
  exact h

/-- A run that comes to the launch delegates to it after the session has been closed. -/
theorem delegates_runBy {r : Run} (h : Launches s p r.world) :
    ∃ v, v.outside = (fetchPlanned s p r.world).2.closed.outside ∧
      Delegates (fun r : Run => (r.world.calls, r.world.volume)) (fun w => (w.calls, w.volume))
        (runBy · s p) r p.command.words v := by
  obtain ⟨success, hsuccess, ha⟩ := (launches_iff h.prepared).mp h
  obtain ⟨u, hu⟩ : ∃ u, prepare s r.world = (.ok (), u) := ⟨_, Prod.ext h.prepared rfl⟩
  obtain ⟨hf, ho, ht⟩ := fetchStep_of_prepare (p := p) hu
  rw [hsuccess] at hf
  generalize hq : fetchStep s p u = q at hf ho ht
  obtain ⟨e | t, u'⟩ := q
  · cases hf
  · obtain rfl : t.success = success := Except.ok.inj hf
    obtain ⟨v, hv, hd⟩ := delegates_goOn (p := p) t (r := ⟨u', r.summary.add t⟩) ht
    have hgo : ∀ launcher, readyStepsBy launcher s p r =
        goOn (testsStepBy launcher p) p t ⟨u', r.summary.add t⟩ := by
      intro launcher
      rw [readyStepsBy_of_ok hu, stepsBy_of_ok hq, if_neg ha]
    have hsteps : Delegates (fun r : Run => r.world.outside) World.outside
        (readyStepsBy · s p) r p.command.words v := fun launcher =>
      (congrArg (fun q => q.2.world.outside) (hgo launcher)).trans (hd launcher)
    have hbody := hsteps.map fun w => (w.calls, w.volume)
    exact ⟨v, hv.trans ho, (hbody.handle keeps_acts_breakOff).ensure keeps_acts_finish⟩

/-! ### The calls -/

theorem reached_of_not_launches (hp : (prepare s w).1 = .ok ()) (h : ¬ Launches s p w) :
    reached s p w = (fetchPlanned s p w).2.closed := by
  rw [launches_iff hp] at h
  unfold reached reachedReady
  rw [hp]
  dsimp only
  cases hf : fetched s p w with
  | error e => rfl
  | ok success => exact if_pos (Decidable.byContradiction fun ha => h ⟨success, hf, ha⟩)

/-- What a launch finds: the server has been asked, the session has been closed, and the volume is
as before, apart from the file that has been fetched. -/
structure FoundByLaunch (s : Settings) (p : Plan) (w v : World) : Prop where
  calls : v.calls = w.calls ++ [s.fetch.requestCall, .close]
  fetched : ∀ result, (fetchPlanned s p w).1 = .ok result →
    ∃ response, w.nextReply.result = .ok response ∧ ∀ l, v.volume.lookup l =
      if l = w.volume.resolve (.ofText p.destination) then some (.file response.body)
      else w.volume.lookup l
  failed : ∀ e, (fetchPlanned s p w).1 = .error e → v.volume = w.volume

theorem calls_closed_of_ofSettings (h : Plan.ofSettings s = .ok p) (w : World) :
    (fetchPlanned s p w).2.closed.calls = w.calls ++ [s.fetch.requestCall, .close] := by
  obtain ⟨hremote, hdestination, -⟩ := Plan.eq_of_ofSettings h
  have hurl : p.remote.url =
      s.fetch.baseUrl ++ "/" ++ s.fetch.branch ++ "/" ++ s.fetch.filePath := by
    rw [hremote]
    rfl
  have hne := FetchSettings.destination_ne_empty hdestination
  rw [calls_closed_fetchPlanned (RemoteFile.url_ne_empty _) hne, hurl]
  rfl

theorem foundByLaunch_of_outside (h : Plan.ofSettings s = .ok p) {v : World}
    (hv : v.outside = (fetchPlanned s p w).2.closed.outside) : FoundByLaunch s p w v := by
  obtain ⟨-, -, hvolume, hcalls, -⟩ := World.outside_eq_iff.mp hv
  have hafter : v.volume = (fetchAttempt s p w).after.volume := hvolume
  refine ⟨hcalls.trans (calls_closed_of_ofSettings h w), fun result hr => ?_, fun e he => ?_⟩
  · obtain ⟨response, hreply, hlookup⟩ :=
      Fetch.Attempt.lookup_after_of_ok (a := fetchAttempt s p w) hr
    exact ⟨response, hreply, hafter ▸ hlookup⟩
  · exact hafter.trans (Fetch.Attempt.volume_after_of_error (a := fetchAttempt s p w) he)

/-- **A run asks once, then closes once, then launches at most once.** If telemetry cannot be
started it makes no call. The command is launched exactly if the run comes to the launch, in a world
that holds what has been fetched and nothing else that is new; otherwise the way to launch a command
does not matter. -/
theorem calls_in_order (h : Plan.ofSettings s = .ok p) (r : Run) :
    (∀ e, (prepare s r.world).1 = .error e → (run s p r).2.world.calls = r.world.calls) ∧
    ((prepare s r.world).1 = .ok () → ¬ Launches s p r.world →
      (run s p r).2.world.calls = r.world.calls ++ [s.fetch.requestCall, .close]) ∧
    (¬ Launches s p r.world → ∀ launcher, runBy launcher s p r = run s p r) ∧
    (Launches s p r.world →
      (run s p r).2.world.calls =
        r.world.calls ++ [s.fetch.requestCall, .close, .launch s.command] ∧
      ∃ v, FoundByLaunch s p r.world v ∧ ∀ launcher : Launcher,
        (runBy launcher s p r).2.world.calls = (launcher s.command v).2.calls ∧
          (runBy launcher s p r).2.world.volume = (launcher s.command v).2.volume) := by
  refine ⟨fun e he => ?_, fun hp hl => ?_, runBy_eq_of_not_launches, fun hl => ?_⟩
  · rw [calls_run, reached, he]
  · rw [calls_run, reached_of_not_launches hp hl]
    exact calls_closed_of_ofSettings h r.world
  · obtain ⟨v, hv, hd⟩ := delegates_runBy hl
    have hfound := foundByLaunch_of_outside h hv
    rw [(Plan.eq_of_ofSettings h).2.2] at hd
    have hby : ∀ launcher : Launcher,
        (runBy launcher s p r).2.world.calls = (launcher s.command v).2.calls ∧
          (runBy launcher s p r).2.world.volume = (launcher s.command v).2.volume :=
      fun launcher => Prod.mk.inj (hd launcher)
    refine ⟨?_, v, hfound, hby⟩
    have hcalls := (hby launch).1
    rw [runBy_launch, launch_apply] at hcalls
    rw [hcalls, World.launched, hfound.calls, List.append_assoc]
    rfl

/-- A launch after a fetch that has succeeded finds the pinned file. -/
theorem calls_in_order_of_success :
    let w : World := { replies := { requests := [⟨0, .ok ⟨200, ⟨#[1]⟩⟩⟩] } }
    let r : Run := .ofPlan usualPlan w
    Plan.ofSettings {} = .ok usualPlan ∧ Launches {} usualPlan r.world ∧
      ∃ v, v.volume.lookup ["work", "rust-toolchain"] = some (.file ⟨#[1]⟩) ∧
        ∀ launcher : Launcher, (runBy launcher {} usualPlan r).2.world.calls =
          (launcher ["cargo", "test"] v).2.calls := by
  intro w r
  have hp : Plan.ofSettings {} = .ok usualPlan := by rfl
  have hfetched : ∃ result, (fetchPlanned {} usualPlan r.world).1 = .ok result := ⟨_, rfl⟩
  have hl : Launches {} usualPlan r.world := ⟨rfl, rfl, .inl hfetched⟩
  obtain ⟨-, -, -, hlaunch⟩ := calls_in_order hp r
  obtain ⟨-, v, hv, hby⟩ := hlaunch hl
  obtain ⟨result, hresult⟩ := hfetched
  obtain ⟨response, hreply, hlookup⟩ := hv.fetched result hresult
  obtain rfl : ⟨200, ⟨#[1]⟩⟩ = response := Except.ok.inj hreply
  exact ⟨hp, hl, v, hlookup _, fun launcher => (hby launcher).1⟩

end Run

end PinnedRun
