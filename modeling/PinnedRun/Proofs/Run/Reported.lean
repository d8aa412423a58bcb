import PinnedRun.Proofs.Run.Journal
import PinnedRun.Proofs.Run.Order

/-!
# Failures that a run reports in the log

A fetch that fails by a fault of its own leaves an error record, unless the request had failed by
this very fault (`Fetch.reported_fetch`), and so does a command that the system cannot launch
(`TestCommand.reported_run`). What comes afterwards only adds to the log. So a run that ends with an
exit code has either had this code from its command, or leaves an error record
(`Run.reported_run`).

* `Reported P l w` : since the log was `l`, a record with `P` has been added in the world `w`.
-/

namespace PinnedRun

open PinnedRun.Action

/-- Since the log was `l`, a record with `P` has been added. -/
def Reported (P : Record → Prop) (l : List Record) (w : World) : Prop :=
  ∃ records, w.log = l ++ records ∧ ∃ r ∈ records, P r

/-- The record reports an error. -/
def Record.IsError (r : Record) : Prop := r.level = .error

/-- The record reports an error of the fetch. -/
def Record.IsFetchError (r : Record) : Prop := r.level = .error ∧ r.source = .fetcher

section

variable {P : Record → Prop} {l l' : List Record} {w v : World}

/-- What has been reported stays so while the log grows. -/
theorem Reported.mono (h : Reported P l w) (hv : w.log <+: v.log) : Reported P l v := by
  obtain ⟨records, hw, r, hr, hP⟩ := h
  obtain ⟨more, hv⟩ := hv
  refine ⟨records ++ more, ?_, r, List.mem_append_left more hr, hP⟩
  rw [← hv, hw, List.append_assoc]

theorem Reported.earlier (h : Reported P l' w) (hl : l <+: l') : Reported P l w := by
  obtain ⟨records, hw, r, hr, hP⟩ := h
  obtain ⟨more, hl⟩ := hl
  refine ⟨more ++ records, ?_, r, List.mem_append_right more hr, hP⟩
  rw [hw, ← hl, List.append_assoc]

theorem log_prefix_report (level : Level) (source : Source) (message : String) :
    w.log <+: (w.report level source message).log := by
  obtain h | h := w.report_eq_or level source message
  · simp only [h, List.prefix_rfl]
  · simp only [h, List.prefix_append]

/-- Errors matter enough for every log. -/
theorem log_report_error (source : Source) (message : String) :
    (w.report .error source message).log = w.log ++ [⟨.error, source, message⟩] := by
  have h : w.threshold.rank ≤ Level.error.rank := by cases w.threshold <;> decide
  rw [World.report, if_pos h]

theorem reported_report {source : Source} {message : String} (hP : P ⟨.error, source, message⟩)
    (hl : l <+: w.log) : Reported P l (w.report .error source message) :=
  Reported.earlier ⟨_, log_report_error source message, _, List.mem_singleton_self _, hP⟩ hl

end

/-! ### The fetch and the command -/

/-- **A fetch that fails by a fault of its own reports it**, unless the fault is that of the request
itself. -/
theorem Fetch.reported_fetch {s : FetchSettings} {url : String} {d : Destination} {w : World}
    {e : Failure} (h : (fetch s url d w).1 = .error e) (hf : e.fault.isFetch = true)
    (hr : w.nextReply.result ≠ .error e.fault) :
    Reported Record.IsFetchError w.log (fetch s url d w).2 := by
  by_cases hne : url ≠ "" ∧ d.isEmpty = false
  · rw [fetch_of_ne hne.1 hne.2] at h ⊢
    have hc := fetchTo_course s url d.toPath w
    have hl : w.log <+: (replied s url d.toPath w).log := log_prefix_report ..
    generalize fetchTo s url d.toPath w = p at *
    obtain ⟨r, w'⟩ := p
    cases hc with
    | unanswered f _ _ => exact reported_report ⟨rfl, rfl⟩ hl
    | brokenOff f hr' _ =>
      obtain rfl := Except.error.inj h
      exact absurd hr' hr
    | declined response _ _ => exact reported_report ⟨rfl, rfl⟩ hl
    | refused response _ _ f _ _ => exact reported_report ⟨rfl, rfl⟩ hl
    | unwritable response _ _ f hw _ =>
      obtain rfl := Except.error.inj h
      exact nomatch (Volume.isFetch_of_write hw).symm.trans hf
    | written response _ _ v _ => cases h
  · obtain ⟨reason, hfail⟩ := fetch_of_empty (s := s) hne
    rw [hfail] at h
    obtain rfl := Except.error.inj h
    cases hf

/-- A command that the system cannot launch is reported. -/
theorem TestCommand.reported_run {c : TestCommand} {w : World} {f : Fault}
    (h : w.nextLaunch.result = .error f) (hf : f.isMissingFile = true ∨ f.isSystem = true) :
    Reported Record.IsError w.log (c.run w).2 := by
  have hl : w.log <+:
      ((w.report .info .command ("Running test command: " ++ c.line)).launched c.words).log :=
    log_prefix_report ..
  rw [Run.command_of_error h, TestCommand.refuse]
  dsimp only
  split
  · exact reported_report rfl hl
  · rename_i hm
    rw [if_pos (hf.resolve_left hm)]
    exact reported_report rfl hl

/-- What comes after an action and only adds to a log keeps what the action has added. -/
theorem prefix_bind {σ α β : Type} {g : σ → List Record} {x : Action σ α} {f : α → Action σ β}
    (hf : ∀ a s, g s <+: g (f a s).2) (s : σ) : g (x s).2 <+: g ((x >>= f) s).2 := by
  rw [bind_apply]
  generalize x s = q
  obtain ⟨e | a, s'⟩ := q
  · exact List.prefix_rfl
  · exact hf a s'

theorem Telemetry.log_opened {name : String} {attributes : List (String × AttributeValue)}
    {w : World} : (opened name attributes w).log = w.log := by
  unfold opened
  split <;> rfl

namespace Run

variable {s : Settings} {p : Plan} {w : World}

/-! ### The steps -/

/-- The fetch step calls the fetch in a world like the one it begins in, and keeps all that the
fetch adds to the log. -/
theorem log_fetchStep (ht : Telemetry.hasTracer w = true) :
    ∃ v, v.outside = w.outside ∧ v.log = w.log ∧
      (fetchPlanned s p v).2.log <+: (fetchStep s p w).2.log := by
  let attributes : List (String × Telemetry.AttributeValue) :=
    [("http.url", .text p.remote.url), ("file.path", .text p.destination)]
  let v := Telemetry.opened "fetch" attributes w
  have hstep : fetchStep s p w =
      Telemetry.inSpan "fetch" attributes (tryFetch s p w.reading >>= concludeFetch) w := rfl
  have htry : (tryFetch s p w.reading v).2.log = (fetchPlanned s p v).2.log :=
    snd_tryFetch (f := World.log) (fun _ _ => rfl) w.reading v
  have hconclude : ∀ x, Grows (concludeFetch x) := fun _ =>
    grows_of_lockstep fun _ => coupling_alongside.concludeFetch
  refine ⟨v, Telemetry.outside_opened, Telemetry.log_opened, ?_⟩
  rw [hstep, Telemetry.snd_inSpan (f := World.log) (fun _ _ => rfl) ht rfl, ← htry]
  exact prefix_bind (fun x u => (hconclude x u).2) v

/-- A step that runs the tests reports a command that the system cannot launch. -/
theorem reported_testsStep (ht : Telemetry.hasTracer w = true) {f : Fault}
    (h : w.nextLaunch.result = .error f) (hf : f.isMissingFile = true ∨ f.isSystem = true) :
    Reported Record.IsError w.log (testsStep p w).2 := by
  let attributes : List (String × Telemetry.AttributeValue) :=
    [("process.command", .text p.command.line)]
  let v := Telemetry.opened "tests" attributes w
  have hstep : testsStep p w =
      Telemetry.inSpan "tests" attributes (tryTests p w.reading >>= concludeTests) w := rfl
  have hrun : (testsStep p w).2.log = (p.command.run v).2.log := by
    rw [hstep, Telemetry.snd_inSpan (f := World.log) (fun _ _ => rfl) ht rfl]
    exact snd_testsBody (f := World.log) (fun _ _ => rfl) w.reading v
  have hn : v.nextLaunch = w.nextLaunch := nextLaunch_of_outside Telemetry.outside_opened
  have hv : v.log = w.log := Telemetry.log_opened
  obtain ⟨records, hlog, hr⟩ := TestCommand.reported_run (c := p.command) (hn ▸ h) hf
  exact ⟨records, hrun.trans (hv ▸ hlog), hr⟩

theorem grows_prepare : Grows (prepare s) := grows_of_lockstep fun _ => lockstep_prepare_alongside

theorem grows_fetchStep : Grows (fetchStep s p) :=
  grows_of_lockstep fun _ => lockstep_fetchStep_alongside

theorem isMissingFile_or_isSystem_of_launchEnding {f : Fault} {exitCode : Int}
    (h : launchEnding (.error f) = .ok exitCode)
    (hl : ∀ message command exitCode, f ≠ .launch message command exitCode) :
    f.isMissingFile = true ∨ f.isSystem = true := by
  unfold launchEnding at h
  dsimp only at h
  split at h
  · exact .inl ‹_›
  · split at h
    · exact .inr ‹_›
    · cases f with
      | launch message command exitCode => exact absurd rfl (hl message command exitCode)
      | _ => cases h

/-- Steps that go on to the tests report a command that the system cannot launch. -/
theorem reported_goOn (t : StepResult) {r : Run} (ht : Telemetry.hasTracer r.world = true)
    {f : Fault} (h : r.world.nextLaunch.result = .error f)
    (hf : f.isMissingFile = true ∨ f.isSystem = true) :
    Reported Record.IsError r.world.log (goOn (testsStep p) p t r).2.world := by
  obtain ⟨v, hv, ho, hk⟩ := warn_apply (p := p) t r.world
  have hw : r.world.log <+: v.log := by
    have hgrows : Grows (warn p t) := grows_of_lockstep fun _ => coupling_alongside.warn
    have hlog := (hgrows r.world).2
    rwa [hv] at hlog
  have hreported := reported_testsStep (p := p) ((hasTracer_congr hk).trans ht)
    (nextLaunch_of_outside ho ▸ h) hf
  rw [goOn, bind_of_ok (onWorld_of hv)]
  generalize hq : testsStep p v = q at hreported
  obtain ⟨e | x, u⟩ := q
  · rw [bind_of_error (onWorld_of hq)]
    exact hreported.earlier hw
  · rw [bind_of_ok (onWorld_of hq)]
    exact hreported.earlier hw

/-- Steps that come to an exit code have come through the fetch step. -/
theorem exists_fetchStep_of_steps {r : Run} {exitCode : Int}
    (h : (steps s p r).1 = .ok exitCode) :
    ∃ u t v, prepare s r.world = (.ok (), u) ∧ fetchStep s p u = (.ok t, v) ∧
      steps s p r = (if !t.success && s.abortOnFetchFailure then giveUp
        else goOn (testsStep p) p t) ⟨v, r.summary.add t⟩ := by
  have hs : steps s p r = (.ok exitCode, (steps s p r).2) := Prod.ext h rfl
  rw [steps, bind_eq_ok_iff] at hs
  obtain ⟨_, r₁, h₁, hs⟩ := hs
  rw [stepsBy, bind_eq_ok_iff] at hs
  obtain ⟨t, r₂, h₂, -⟩ := hs
  have hfetch : fetchStep s p r₁.world = (.ok t, r₂.world) := of_onWorld h₂
  refine ⟨r₁.world, t, r₂.world, of_onWorld h₁, hfetch, ?_⟩
  rw [steps, bind_of_ok (onWorld_of (of_onWorld h₁))]
  exact stepsBy_of_ok hfetch

/-- Steps that come to an exit code have it from the command, or report an error. -/
theorem reported_steps {r : Run} {exitCode : Int} (h : (steps s p r).1 = .ok exitCode)
    (hl : ∀ message command exitCode,
      r.world.nextLaunch.result ≠ .error (.launch message command exitCode)) :
    (Launches s p r.world ∧ ∃ n, r.world.nextLaunch.result = .ok n ∧
        exitCode = Launch.exitCode n) ∨
      Reported Record.IsError r.world.log (steps s p r).2.world := by
  obtain ⟨u, t, v, hu, hv, hs⟩ := exists_fetchStep_of_steps h
  obtain ⟨hf, ho, ht⟩ := fetchStep_of_prepare (p := p) hu
  have hlog : r.world.log <+: v.log := by
    have h₁ := (grows_prepare (s := s) r.world).2
    have h₂ := (grows_fetchStep (s := s) (p := p) u).2
    rw [hu] at h₁
    rw [hv] at h₂
    exact h₁.trans h₂
  rw [hv] at hf ho ht
  by_cases ha : (!t.success && s.abortOnFetchFailure) = true
  · rw [hs, if_pos ha]
    exact .inr (reported_report rfl hlog)
  · have hp : (prepare s r.world).1 = .ok () := congrArg Prod.fst hu
    have hending : launchEnding r.world.nextLaunch.result = .ok exitCode := by
      rw [← h, steps_fst, ending, hp, endingReady, ← hf]
      exact (if_neg ha).symm
    rw [hs, if_neg ha]
    cases hr : r.world.nextLaunch.result with
    | ok n =>
      rw [hr] at hending
      have hlaunches := (launches_iff hp).mpr ⟨t.success, hf.symm, ha⟩
      exact .inl ⟨hlaunches, n, rfl, (Except.ok.inj hending).symm⟩
    | error f =>
      -- the exit code is that of a launch that failed, so the system has refused it
      rw [hr] at hending
      have hfault := isMissingFile_or_isSystem_of_launchEnding hending fun m c x he =>
        hl m c x (by rw [hr, he])
      have hn : v.nextLaunch = r.world.nextLaunch :=
        (nextLaunch_of_outside ho).trans (nextLaunch_closed_fetchPlanned _)
      have hgo := reported_goOn (p := p) t (r := ⟨v, r.summary.add t⟩) ht
        ((congrArg Reply.result hn).trans hr) hfault
      exact .inr (hgo.earlier hlog)

/-- After the fetch step the steps only add to the log. -/
theorem log_fetchStep_steps {r : Run} {u : World} (h : prepare s r.world = (.ok (), u)) :
    (fetchStep s p u).2.log <+: (steps s p r).2.world.log := by
  rw [steps, bind_of_ok (onWorld_of h)]
  refine prefix_bind (x := onWorld (fetchStep s p)) (g := fun r : Run => r.world.log)
    (fun t r => ?_) { r with world := u }
  exact log_of_lockstep (fun _ => lockstep_collect.bind fun _ =>
    .ite coupling_alongside.giveUp
      (lockstep_goOn coupling_alongside lockstep_testsStep_alongside p t)) r

/-! ### The whole run -/

theorem reported_breakOff {l : List Record} {e : Failure} {r : Run} {exitCode : Int}
    (h : (breakOff e r).1 = .ok exitCode) (hl : l <+: r.world.log) :
    Reported Record.IsError l (breakOff e r).2.world := by
  unfold breakOff at h ⊢
  split
  · exact reported_report rfl hl
  · rename_i ho
    rw [if_neg ho] at h
    cases h

theorem reported_body {r : Run} {exitCode : Int} (h : (body s p r).1 = .ok exitCode)
    (hl : ∀ message command exitCode,
      r.world.nextLaunch.result ≠ .error (.launch message command exitCode)) :
    (Launches s p r.world ∧ ∃ n, r.world.nextLaunch.result = .ok n ∧
        exitCode = Launch.exitCode n) ∨
      Reported Record.IsError r.world.log (body s p r).2.world := by
  have hlog := log_of_lockstep (fun _ => lockstep_steps_alongside (s := s) (p := p)) r
  have hsteps := @reported_steps s p r exitCode
  rw [body, handle_apply] at h ⊢
  generalize steps s p r = q at *
  obtain ⟨e | code, r'⟩ := q
  · exact .inr (reported_breakOff h hlog)
  · exact hsteps h hl

theorem log_steps_body (r : Run) : (steps s p r).2.world.log <+: (body s p r).2.world.log := by
  rw [body, handle_apply]
  generalize steps s p r = q
  obtain ⟨e | exitCode, r'⟩ := q
  · exact log_of_lockstep (fun _ => coupling_alongside.breakOff e) r'
  · exact List.prefix_rfl

theorem grows_stop : Grows Telemetry.stop :=
  grows_of_lockstep fun _ => Telemetry.lockstep_stop_alongside

theorem log_run (r : Run) : (body s p r).2.world.log <+: (run s p r).2.world.log := by
  rw [run_apply]
  exact (grows_stop (beforeStop s p r).world).2

/-- **A run that ends with an exit code has it from its command, or reports an error**, as long as
the fault of the launch is not itself one of the step. -/
theorem reported_run {r : Run} {exitCode : Int} (h : (run s p r).1 = .ok exitCode)
    (hl : ∀ message command exitCode,
      r.world.nextLaunch.result ≠ .error (.launch message command exitCode)) :
    (Launches s p r.world ∧ ∃ n, r.world.nextLaunch.result = .ok n ∧
        exitCode = Launch.exitCode n) ∨
      Reported Record.IsError r.world.log (run s p r).2.world := by
  have hbody : (body s p r).1 = .ok exitCode := by
    rw [run_apply] at h
    dsimp only at h
    cases hs : (Telemetry.stop (beforeStop s p r).world).1 with
    | error e => rw [hs] at h; cases h
    | ok _ => rw [hs] at h; exact h
  obtain hcommand | hreported := reported_body hbody hl
  · exact .inl hcommand
  · exact .inr (hreported.mono (log_run r))

/-- A run whose fetch fails by a fault of its own reports it, whatever comes afterwards. -/
theorem reported_fetch_run {r : Run} (hp : (prepare s r.world).1 = .ok ()) {e : Failure}
    (h : (fetchPlanned s p r.world).1 = .error e) (hf : e.fault.isFetch = true)
    (hr : r.world.nextReply.result ≠ .error e.fault) :
    Reported Record.IsFetchError r.world.log (run s p r).2.world := by
  obtain ⟨u, hu⟩ : ∃ u, prepare s r.world = (.ok (), u) := ⟨_, Prod.ext hp rfl⟩
  obtain ⟨v, hv, hlog, hstep⟩ := log_fetchStep (s := s) (p := p) (hasTracer_of_prepare hu)
  have ho : v.outside = r.world.outside := hv.trans (outside_of_prepare hu)
  have hn : v.nextReply = r.world.nextReply := nextReply_of_outside ho
  have hfetch : Reported Record.IsFetchError v.log (fetchPlanned s p v).2 :=
    Fetch.reported_fetch ((fetchPlanned_fst ho).trans h) hf (hn ▸ hr)
  have hprepare := (grows_prepare (s := s) r.world).2
  rw [hu] at hprepare
  have hend := (log_fetchStep_steps (p := p) hu).trans ((log_steps_body r).trans (log_run r))
  exact ((hfetch.mono hstep).earlier (hlog ▸ hprepare)).mono hend

end Run

end PinnedRun
