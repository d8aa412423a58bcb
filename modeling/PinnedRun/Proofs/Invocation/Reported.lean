import PinnedRun.Proofs.Invocation.Verbosity
import PinnedRun.Proofs.Run.Reported

/-!
# No invocation fails in silence

An invocation whose command line is accepted ends with the exit code of its command, or it leaves an
error record, or its last record is that an interrupt ended it (`Invocation.failures_are_reported`).

* `Invocation.Completes` : the invocation has its exit code from a command that has completed;
* `Invocation.conduct_course` : a fault that comes out leaves the last record of the invocation.
-/

namespace PinnedRun.Invocation

open PinnedRun.Action

variable {e : Environment} {a : Options.Arguments} {commandLine : List String} {w : World}

/-- The run has come to its end without a fault, its command has completed, and the exit code is
that for the return code of the command. -/
def Completes (e : Environment) (a : Options.Arguments) (w : World) (exitCode : Int) : Prop :=
  ∃ s p n, planned e a = .ok (s, p) ∧ Run.Launches s p (begun a p w).world ∧
    w.nextLaunch.result = .ok n ∧ (Run.run s p (begun a p w)).1 = .ok exitCode ∧
    exitCode = Launch.exitCode n

/-- The record that an interrupt ended the invocation. -/
def interrupted : Record := ⟨.info, .runner, "Interrupted by user"⟩

theorem grows_attempt : Grows (attempt e a) := grows_of_lockstep fun _ => lockstep_attempt_alongside

/-- The attempt ends with an exit code, or its fault is put on record. -/
theorem conduct_course (e : Environment) (a : Options.Arguments) (w : World) :
    (∃ exitCode, (attempt e a w).1 = .ok exitCode ∧
      conduct e a w = (.ok exitCode, (attempt e a w).2)) ∨
    ∃ exitCode level message,
      conduct e a w = (.ok exitCode, (attempt e a w).2.report level .runner message) ∧
      (level = .error ∨ exitCode = 130 ∧ level = .info ∧ message = "Interrupted by user") := by
  unfold conduct
  generalize hq : attempt e a w = q
  obtain ⟨f | exitCode, v⟩ := q
  · obtain ⟨level, message, hf, hlevel⟩ := concludeFault_record f v
    exact .inr ⟨_, level, message, (handle_of_error hq).trans hf, hlevel⟩
  · exact .inl ⟨exitCode, rfl, handle_of_ok hq⟩

theorem log_attempt_conduct (w : World) : (attempt e a w).2.log <+: (conduct e a w).2.log := by
  obtain ⟨exitCode, -, h⟩ | ⟨exitCode, level, message, h, -⟩ := conduct_course e a w
  · simp only [h, List.prefix_rfl]
  · simp only [h, log_prefix_report]

theorem log_adjustLog : (adjustLog a w).log = w.log := by
  unfold adjustLog
  split <;> rfl

theorem log_begun (p : Plan) : (begun a p w).world.log = w.log := log_adjustLog

theorem nextLaunch_begun (p : Plan) : (begun a p w).world.nextLaunch = w.nextLaunch :=
  Run.nextLaunch_of_outside (outside_begun w)

/-- An attempt that ends with an exit code has it from its command, or reports an error. -/
theorem reported_attempt {exitCode : Int} (h : (attempt e a (adjustLog a w)).1 = .ok exitCode)
    (hl : ∀ message command exitCode,
      w.nextLaunch.result ≠ .error (.launch message command exitCode)) :
    Completes e a w exitCode ∨ Reported Record.IsError w.log (attempt e a (adjustLog a w)).2 := by
  cases hp : planned e a with
  | error reason =>
    rw [attempt_of_unusable hp] at h
    cases h
  | ok sp =>
    obtain ⟨s, p⟩ := sp
    rw [attempt_of_planned hp, carryOut_apply] at h ⊢
    have hn := nextLaunch_begun (a := a) (w := w) p
    obtain ⟨hlaunches, n, hcode, hexit⟩ | hreported :=
      Run.reported_run (r := begun a p w) h (by rw [hn]; exact hl)
    · exact .inl ⟨s, p, n, hp, hlaunches, hn ▸ hcode, h, hexit⟩
    · rw [log_begun] at hreported
      exact .inr hreported

/-- An invocation without a verbose log and one with it keep the record of an interrupt. -/
theorem log_report_interrupted (hw : w.threshold.rank ≤ Level.info.rank) :
    (w.report .info .runner "Interrupted by user").log = w.log ++ [interrupted] := by
  rw [World.report, if_pos hw]
  rfl

theorem threshold_adjustLog (hw : w.threshold = .info) :
    (adjustLog a w).threshold.rank ≤ Level.info.rank := by
  unfold adjustLog
  split
  · exact Nat.zero_le _
  · exact Nat.le_of_eq (congrArg Level.rank hw)

/-- **No failure is silent.** If an invocation does not have its exit code from its command, there
is an error record, or its last record is that an interrupt ended it, provided that the launch does
not fail by a fault of the step itself. A fetch that fails by a fault of its own leaves an error
record of the fetch during the call, which is still there in the end, whatever the invocation goes
on to do. -/
theorem failures_are_reported (h : Options.read commandLine = .accepted a)
    (hw : w.threshold = .info) :
    (∃ exitCode, (invoke e commandLine w).ending = .ok exitCode ∧
      ((∀ message command exitCode,
          w.nextLaunch.result ≠ .error (.launch message command exitCode)) →
        ¬ Completes e a w exitCode →
        Reported Record.IsError w.log (invoke e commandLine w).world ∨
          exitCode = 130 ∧ ∃ records,
            (invoke e commandLine w).world.log = w.log ++ records ++ [interrupted])) ∧
    (∀ s p f, planned e a = .ok (s, p) → (Run.prepare s w).1 = .ok () →
      (Run.fetchPlanned s p w).1 = .error f → f.fault.isFetch = true →
      w.nextReply.result ≠ .error f.fault →
        Reported Record.IsFetchError w.log (invoke e commandLine w).world) ∧
    ∀ s url d v f, (Fetch.fetch s url d v).1 = .error f → f.fault.isFetch = true →
      v.nextReply.result ≠ .error f.fault →
        Reported Record.IsFetchError v.log (Fetch.fetch s url d v).2 := by
  rw [invoke_of_accepted h]
  refine ⟨?_, fun s p f hp hs hf hfetch hr => ?_, fun s url d v f => Fetch.reported_fetch⟩
  · obtain ⟨exitCode, hok, hc⟩ | ⟨exitCode, level, message, hc, hlevel⟩ :=
      conduct_course e a (adjustLog a w)
    · refine ⟨exitCode, congrArg Prod.fst hc, fun hl hn => .inl ?_⟩
      rw [hc]
      exact (reported_attempt hok hl).resolve_left hn
    · refine ⟨exitCode, congrArg Prod.fst hc, fun _ _ => ?_⟩
      obtain ⟨hthreshold, hlog⟩ := grows_attempt (e := e) (a := a) (adjustLog a w)
      rw [log_adjustLog] at hlog
      rw [hc]
      obtain rfl | ⟨rfl, rfl, rfl⟩ := hlevel
      · exact .inl (reported_report rfl hlog)
      · obtain ⟨records, hrecords⟩ := hlog
        refine .inr ⟨rfl, records, ?_⟩
        rw [hrecords]
        exact log_report_interrupted (hthreshold ▸ threshold_adjustLog hw)
  · have hb : (begun a p w).world.outside = w.outside := outside_begun w
    have hprepared : (Run.prepare s (begun a p w).world).1 = .ok () :=
      (prepare_fst w _ hb).trans ((prepare_fst w w rfl).symm.trans hs)
    have hn : (begun a p w).world.nextReply = w.nextReply := Run.nextReply_of_outside hb
    have hrun := Run.reported_fetch_run (r := begun a p w) hprepared
      ((Run.fetchPlanned_fst hb).trans hf) hfetch (hn ▸ hr)
    have hlog := log_attempt_conduct (e := e) (a := a) (adjustLog a w)
    rw [attempt_of_planned hp, carryOut_apply] at hlog
    rw [log_begun] at hrun
    exact hrun.mono hlog

/-- A command that is not found. -/
theorem failures_are_reported_of_missing_command :
    let w : World := { replies :=
      { launches := [⟨0, .error (.system (.numbered 2 "No such file or directory" "cargo"))⟩] } }
    Options.read [] = .accepted {} ∧ w.threshold = .info ∧
      (invoke (fun _ => none) [] w).ending = .ok 127 ∧
      Reported Record.IsError [] (invoke (fun _ => none) [] w).world := by
  intro w
  have hread : Options.read [] = .accepted {} := by decide
  have hend : (invoke (fun _ => none) [] w).ending = .ok 127 :=
    eq_ok_of_toOption (by decide +kernel)
  have hn : ¬ Completes (fun _ => none) {} w 127 := by
    rintro ⟨s, p, n, -, -, hn, -⟩
    cases hn
  obtain ⟨⟨code, hcode, hreported⟩, -, -⟩ :=
    failures_are_reported (e := fun _ => none) hread (w := w) rfl
  obtain rfl : 127 = code := Except.ok.inj (hend.symm.trans hcode)
  obtain h | ⟨h, -⟩ := hreported (fun _ _ _ hl => nomatch hl) hn
  · exact ⟨hread, rfl, hend, h⟩
  · cases h

end PinnedRun.Invocation
