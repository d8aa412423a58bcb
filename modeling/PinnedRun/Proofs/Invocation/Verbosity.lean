import PinnedRun.Proofs.Invocation.ExitCode
import PinnedRun.Proofs.Options.Occurrence
import PinnedRun.Proofs.Run.Journal

/-!
# Verbosity shows in the log only

A command line that begins with the option for a verbose log says what the rest of it says, and that
the log is verbose (`Options.read_cons_verbose`). So the invocation goes the same way, and leaves
the same world behind apart from its journal. The log of the invocation without the option is that
of the invocation with it, less its debug records (`Invocation.invoke_verbose`).
-/

namespace PinnedRun

open PinnedRun.Action

namespace Options

/-- The command line is accepted and asks for a verbose log. -/
def Outcome.isVerbose : Outcome → Bool
  | .accepted a => a.verbose
  | .help | .rejected _ => false

/-- Asking for a verbose log goes with every occurrence of an option. -/
theorem commutes_verbose : Commutes (·.apply (.verbose, none)) where
  apply a o := by
    obtain ⟨s, value⟩ := o
    cases s <;> rfl
  command _ _ := rfl

/-- **An option in front does not change how the rest of a command line is read.** -/
theorem read_cons_verbose (commandLine : List String) :
    read ("-v" :: commandLine) = (read commandLine).map (·.apply (.verbose, none)) := by
  have hs : Spells "-v" (.verbose, none) := .alone (by decide) rfl (by decide)
  rw [← readOn_empty, readOn_cons hs]
  exact readOn_map commutes_verbose {} commandLine

end Options

/-- The world without its journal. -/
def World.unrecorded (w : World) : World := w.withJournal ⟨.info, []⟩

namespace Invocation

variable {j k : Journal} {e : Environment} {a : Options.Arguments} {s : Settings} {p : Plan}

theorem lockstep_carryOut_alongside : Lockstep (Alongside j k) (carryOut s p) (carryOut s p) := by
  rintro _ _ ⟨v, notes, rfl, rfl⟩
  have hr : Run.Alike (Alongside j k) (.ofPlan p (v.withJournal (j.noteAll notes)))
      (.ofPlan p (v.withJournal (k.noteAll notes))) :=
    ⟨⟨v.onTelemetry (·.onHandles fun _ => {}), notes, rfl, rfl⟩, rfl⟩
  obtain ⟨he, hw, -⟩ := Run.lockstep_run_alongside (s := s) (p := p) _ _ hr
  exact ⟨he, hw⟩

theorem lockstep_attempt_alongside : Lockstep (Alongside j k) (attempt e a) (attempt e a) := by
  cases hp : planned e a with
  | error reason =>
    rw [attempt_of_unusable hp]
    exact lockstep_fail _
  | ok sp =>
    rw [attempt_of_planned hp]
    exact lockstep_carryOut_alongside

theorem lockstep_conduct : Lockstep (Alongside j k) (conduct e a) (conduct e a) :=
  lockstep_attempt_alongside.handle (lockstep_concludeFault coupling_alongside)

theorem grows_conduct : Grows (conduct e a) := grows_of_lockstep fun _ => lockstep_conduct

/-- What is done does not depend on how verbose the log is. -/
theorem conduct_verbose : conduct e (a.apply (.verbose, none)) = conduct e a := rfl

/-- A command line that is not accepted is answered the same way, and nothing is logged. -/
theorem invoke_of_not_accepted {commandLine : List String}
    (h : ∀ a, Options.read commandLine ≠ .accepted a) (w : World) :
    invoke e ("-v" :: commandLine) w = invoke e commandLine w ∧
      (invoke e commandLine w).world.log = w.log := by
  unfold invoke
  rw [Options.read_cons_verbose]
  -- the texts are long, and what they say does not matter
  generalize Options.helpText = text
  cases hr : Options.read commandLine with
  | accepted a => exact absurd hr (h a)
  | help => exact ⟨rfl, rfl⟩
  | rejected reason => exact ⟨rfl, rfl⟩

theorem adjustLog_verbose (w : World) :
    adjustLog (a.apply (.verbose, none)) w = w.withJournal ⟨.debug, w.log⟩ := rfl

theorem kept_debug (l notes : List Record) : Journal.kept ⟨.debug, l⟩ notes = notes := by
  simp [Journal.kept, Level.rank]

theorem kept_info (l notes : List Record) :
    Journal.kept ⟨.info, l⟩ notes = notes.filter (·.level ≠ .debug) := by
  refine List.filter_congr fun r _ => ?_
  cases r.level <;> rfl

/-- **Verbosity is observational.** With the option for a verbose log in front, a command line ends
the invocation alike and leaves the same world behind apart from its journal: calls, volume, what is
printed, spans and metrics. The log of the invocation without the option has the same records less
those for debugging, or the same records if the rest of the command line asks for them too. -/
theorem invoke_verbose (e : Environment) (commandLine : List String) {w : World}
    (hw : w.threshold = .info) :
    let verbose := invoke e ("-v" :: commandLine) w
    let plain := invoke e commandLine w
    verbose.ending = plain.ending ∧ verbose.errorText = plain.errorText ∧
      verbose.world.unrecorded = plain.world.unrecorded ∧
      ∃ records, verbose.world.log = w.log ++ records ∧
        plain.world.log = w.log ++
          if (Options.read commandLine).isVerbose then records
          else records.filter (·.level ≠ .debug) := by
  intro verbose plain
  by_cases h : ∃ a, Options.read commandLine = .accepted a
  · obtain ⟨a, hr⟩ := h
    have hread := Options.read_cons_verbose commandLine
    rw [hr] at hread
    have hverbose : verbose = _ := invoke_of_accepted hread w
    have hplain : plain = _ := invoke_of_accepted hr w
    rw [conduct_verbose, adjustLog_verbose] at hverbose
    rw [hverbose, hplain, hr, Options.Outcome.isVerbose, adjustLog]
    cases ha : a.verbose with
    | true =>
      obtain ⟨-, records, hrecords⟩ :=
        grows_conduct (e := e) (a := a) (w.withJournal ⟨.debug, w.log⟩)
      exact ⟨rfl, rfl, rfl, records, hrecords.symm, hrecords.symm⟩
    | false =>
      -- two journals that hold the same before, and keep different parts of the same notes
      have hw' : w.withJournal ⟨.info, w.log⟩ = w := by rw [← hw]; rfl
      obtain ⟨he, v, notes, hv, hk⟩ := exists_notes (k := ⟨.info, w.log⟩)
        (lockstep_conduct (j := ⟨.debug, w.log⟩) (e := e) (a := a)) w
      rw [hw'] at he hk
      refine ⟨he, rfl, ?_, notes, ?_, ?_⟩
      · exact (congrArg World.unrecorded hv).trans (congrArg World.unrecorded hk).symm
      · exact (congrArg World.log hv).trans (congrArg (w.log ++ ·) (kept_debug _ _))
      · exact (congrArg World.log hk).trans (congrArg (w.log ++ ·) (kept_info _ _))
  · obtain ⟨hv, hlog⟩ := invoke_of_not_accepted (e := e) (fun a ha => h ⟨a, ha⟩) w
    have heq : verbose = plain := hv
    rw [heq]
    exact ⟨rfl, rfl, rfl, [], by simpa using hlog, by simpa using hlog⟩

/-- The log of the default settings, with debug records and without. -/
theorem invoke_verbose_of_defaults :
    let w : World := {}
    w.threshold = .info ∧
      (invoke (fun _ => none) ["-v"] w).ending = (invoke (fun _ => none) [] w).ending ∧
      ∃ records, (invoke (fun _ => none) ["-v"] w).world.log = records ∧
        (invoke (fun _ => none) [] w).world.log = records.filter (·.level ≠ .debug) := by
  intro w
  obtain ⟨hend, -, -, records, hverbose, hplain⟩ := invoke_verbose (fun _ => none) [] (w := w) rfl
  have hread : (Options.read []).isVerbose = false := by decide
  rw [hread] at hplain
  exact ⟨rfl, hend, records, hverbose, hplain⟩

end Invocation

end PinnedRun
