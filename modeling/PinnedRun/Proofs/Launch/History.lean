import PinnedRun.Proofs.Run.Course

/-!
# Launches in a row

A session launches one command again and again, while the words that it was made from may grow. What
a launch is reported as depends on nothing but the reply that it takes: the launch with the number
`k` takes the reply with this number, names the words that the session was begun with, and is
reported as a shell would report it, whatever the turns before it were (`Session.takeAll_reports`).

* `Reported program arguments o r` : a launch of the program that comes to `o` is reported as `r`;
* `World.launchOutcome` is what the launch with a number will come to;
* `Turn.launches` and `Turn.added` tell what turns do to the replies and to the configured words.
-/

namespace PinnedRun

/-- What the launch with a number, counted from zero, will come to. -/
def World.launchOutcome (w : World) (k : Nat) : Except Fault Int :=
  (w.replies.launches[k]?.map (·.result)).getD (.ok 0)

namespace Launch

open Run (refusal)

/-- What a launch of a program is reported as, by what it comes to. -/
inductive Reported (program : String) (arguments : List String) :
    Except Fault Int → Except Failure Int → Prop where
  /-- The program has ended by itself. -/
  | exited {n : Int} (h : 0 ≤ n) : Reported program arguments (.ok n) (.ok n)
  /-- A signal has ended the program. -/
  | signalled {n : Int} (h : n < 0) : Reported program arguments (.ok n) (.ok (128 - n))
  /-- There is no such program. -/
  | notFound {f : Fault} (h : f.isMissingFile = true) :
    Reported program arguments (.error f)
      (.error ⟨.launch ("Command not found: " ++ program) (program :: arguments) 127, some f⟩)
  /-- The system refuses to start the program for another reason. -/
  | notStarted {f : Fault} (h : f.isMissingFile = false) (hs : f.isSystem = true) :
    Reported program arguments (.error f)
      (.error ⟨.launch ("Could not start " ++ program ++ ": " ++ f.message)
        (program :: arguments) 126, some f⟩)
  /-- Any other fault comes out as it is. -/
  | brokenOff {f : Fault} (h : f.isSystem = false) :
    Reported program arguments (.error f) (.error ⟨f, none⟩)

/-- How often turns launch the command. -/
def Turn.launches (turns : List Turn) : Nat := turns.count .launch

/-- The words that turns add to the configured ones. -/
def Turn.added (turns : List Turn) : List String :=
  turns.filterMap fun
    | .launch => none
    | .extend word => some word

/-- What the command reports of a launch. -/
def report (c : TestCommand) (o : Except Fault Int) : Except Failure Int :=
  (o.mapError (refusal c)).map exitCode

theorem reported_report {program : String} {arguments : List String} {c : TestCommand}
    (hc : c.words = program :: arguments) (o : Except Fault Int) :
    Reported program arguments o (report c o) := by
  have hp : c.program = program := by simp [TestCommand.program, hc]
  cases o with
  | ok n =>
    by_cases hn : n < 0
    · have hr : report c (.ok n) = .ok (128 - n) := congrArg Except.ok (if_pos hn)
      rw [hr]
      exact .signalled hn
    · have hr : report c (.ok n) = .ok n := congrArg Except.ok (if_neg hn)
      rw [hr]
      exact .exited (Int.not_lt.mp hn)
  | error f =>
    change Reported program arguments (.error f) (.error (refusal c f))
    unfold refusal
    split
    · rename_i h
      rw [TestCommand.notFoundFault, hp, hc]
      exact .notFound h
    · split
      · rename_i h hs
        rw [TestCommand.notStartedFault, hp, hc]
        exact .notStarted (Bool.eq_false_iff.mpr h) hs
      · rename_i hs
        exact .brokenOff (Bool.eq_false_iff.mpr hs)

namespace Session

/-- A launch takes the next reply, and leaves what the session is about alone. -/
theorem take_launch (s : Session) :
    (s.take .launch).1 = some (report s.command (s.world.launchOutcome 0)) ∧
      (s.take .launch).2.configured = s.configured ∧
      (s.take .launch).2.command = s.command ∧
      (s.take .launch).2.world.outside = (s.world.launched s.command.words).outside := by
  obtain ⟨hr, ho⟩ := Run.command_apply s.command s.world
  have hn : s.world.nextLaunch.result = s.world.launchOutcome 0 := by
    unfold World.nextLaunch World.launchOutcome
    cases s.world.replies.launches <;> rfl
  rw [hn] at hr
  exact ⟨congrArg some hr, rfl, rfl, ho⟩

/-- What turns come to, by the replies that the session has when they begin. -/
theorem takeAll_apply (turns : List Turn) (s : Session) :
    (s.takeAll turns).1 =
        (List.range (Turn.launches turns)).map (report s.command <| s.world.launchOutcome ·) ∧
      (s.takeAll turns).2.command = s.command ∧
      (s.takeAll turns).2.configured = s.configured ++ Turn.added turns ∧
      (s.takeAll turns).2.world.calls =
        s.world.calls ++ List.replicate (Turn.launches turns) (.launch s.command.words) ∧
      (s.takeAll turns).2.world.replies.launches =
        s.world.replies.launches.drop (Turn.launches turns) := by
  induction turns generalizing s with
  | nil => simp [takeAll, Turn.launches, Turn.added]
  | cons t ts ih =>
    obtain ⟨hr, hc, hw, hcalls, hreplies⟩ := ih (s.take t).2
    have hstep : s.takeAll (t :: ts) =
        ((s.take t).1.toList ++ ((s.take t).2.takeAll ts).1, ((s.take t).2.takeAll ts).2) := rfl
    rw [hstep]
    cases t with
    | extend word =>
      have hcount : Turn.launches (.extend word :: ts) = Turn.launches ts :=
        List.count_cons_of_ne (by simp)
      have hadded : Turn.added (.extend word :: ts) = [word] ++ Turn.added ts := rfl
      rw [hcount, hadded, ← List.append_assoc]
      exact ⟨hr, hc, hw, hcalls, hreplies⟩
    | launch =>
      obtain ⟨hfst, hconfigured, hcommand, houtside⟩ := s.take_launch
      obtain ⟨hlater, -, -, hmade, -⟩ := World.outside_eq_iff.mp houtside
      have hcount : Turn.launches (.launch :: ts) = Turn.launches ts + 1 := List.count_cons_self
      -- the replies of the later launches are those behind the one that was taken
      have htail : ∀ k, (s.take .launch).2.world.launchOutcome k = s.world.launchOutcome (k + 1) := by
        intro k
        unfold World.launchOutcome
        rw [hlater]
        simp [World.launched]
      rw [hcount]
      refine ⟨?_, hc.trans hcommand, hw.trans (by rw [hconfigured]; rfl), ?_, ?_⟩
      · rw [hr, hfst, hcommand, List.range_succ_eq_map]
        simp [htail]
      · rw [hcalls, hcommand, hmade]
        simp [World.launched, List.replicate_succ]
      · rw [hreplies, hlater]
        simp [World.launched]

/-- **A launch is reported as a shell would report it, whatever has happened before.** For one
program with its arguments there is one way to report what a launch comes to, in every world and
after any turns: the launch with the number `k` takes the reply with this number, and every launch
names the words that the session was begun with. An exit code is never negative, and zero only for
the return code zero. -/
theorem takeAll_reports (program : String) (arguments : List String) :
    ∃ report : Except Fault Int → Except Failure Int,
      (∀ o, Reported program arguments o (report o)) ∧
      (∀ n, ∃ code, report (.ok n) = .ok code ∧ 0 ≤ code ∧ (code = 0 ↔ n = 0)) ∧
      ∀ (w : World) (turns : List Turn), ∃ s s',
        begin? (program :: arguments) w = .ok s ∧
        s.takeAll turns =
          ((List.range (Turn.launches turns)).map (report <| w.launchOutcome ·), s') ∧
        s'.world.calls = w.calls ++
          List.replicate (Turn.launches turns) (.launch (program :: arguments)) ∧
        s'.world.replies.launches = w.replies.launches.drop (Turn.launches turns) ∧
        s'.command.words = program :: arguments ∧
        s'.configured = program :: arguments ++ Turn.added turns := by
  let c : TestCommand := ⟨program :: arguments, List.cons_ne_nil _ _⟩
  refine ⟨report c, reported_report rfl, fun n => ?_, fun w turns => ?_⟩
  · exact ⟨exitCode n, rfl, exitCode_nonneg n, exitCode_eq_zero_iff⟩
  · let s : Session := ⟨program :: arguments, c, w⟩
    obtain ⟨hr, hc, hw, hcalls, hreplies⟩ := takeAll_apply turns s
    refine ⟨s, (s.takeAll turns).2, rfl, Prod.ext hr rfl, hcalls, hreplies, ?_, hw⟩
    exact congrArg TestCommand.words hc

end Session

end Launch

end PinnedRun
