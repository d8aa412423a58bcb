import PinnedRun.Options.Help
import PinnedRun.Options.Reading
import PinnedRun.Run
import PinnedRun.Settings.Override

/-!
# A whole invocation

An invocation reads the command line, settles the settings and carries out the run. It ends with an
exit code: a command line that is rejected with 2, help with 0, an interrupt with 130, and any other
fault that comes out with 1.

* `Invocation.perform` is what follows an accepted command line;
* `Invocation.invoke` is the whole, with what goes to the error channel.
-/

namespace PinnedRun

/-- The version of the program. -/
def version : String := "0.1.0"

namespace Invocation

open PinnedRun.Action

/-- Carries out a plan. -/
def carryOut (s : Settings) (p : Plan) : Action World Int := fun w =>
  match Run.run s p (Run.ofPlan p w) with
  | (r, run) => (r, run.world)

/-- The settings and the plan of an invocation. -/
def planned (e : Environment) (a : Options.Arguments) : Except Unusable (Settings × Plan) := do
  let settings ← Settings.resolve e a
  let plan ← Plan.ofSettings settings
  pure (settings, plan)

/-- Settles the settings and carries out the run. -/
def attempt (e : Environment) (a : Options.Arguments) : Action World Int := do
  let (settings, plan) ← ofExcept (planned e a)
  carryOut settings plan

/-- Ends with the exit code for a fault that comes out, after the log record that goes with it:
unusable values first, then the interrupt, then every other ordinary fault. -/
def concludeFault (e : Failure) : Action World Int :=
  if e.fault.isUnusable then do
    log .error .runner ("Configuration error: " ++ e.fault.message)
    pure 1
  else if e.fault.isInterrupt then do
    log .info .runner "Interrupted by user"
    pure 130
  else if e.fault.isOrdinary then do
    log .error .runner ("Unexpected error: " ++ e.fault.message)
    pure 1
  else fail e

/-- The world with the log as verbose as a command line says. -/
def adjustLog (a : Options.Arguments) (w : World) : World :=
  if a.verbose then { w with threshold := .debug } else w

/-- What follows an accepted command line. -/
def perform (e : Environment) (a : Options.Arguments) : Action World Int := do
  change (adjustLog a)
  (attempt e a).handle concludeFault

end Invocation

/-- How an invocation ends. -/
structure Invocation where
  ending : Except Failure Int
  errorText : String
  world : World

namespace Invocation

/-- The exit code; a fault that nothing takes in counts as 1. -/
def exitCode (i : Invocation) : Int :=
  match i.ending with
  | .ok code => code
  | .error _ => 1

/-- The whole invocation for a command line. -/
def invoke (e : Environment) (commandLine : List String) (w : World) : Invocation :=
  match Options.read commandLine with
  | .rejected reason => ⟨.ok 2, Options.rejectionText reason, w⟩
  | .help => ⟨.ok 0, "", { w with printed := w.printed ++ Options.helpText }⟩
  | .accepted a =>
    match perform e a w with
    | (ending, w) => ⟨ending, "", w⟩

end Invocation

end PinnedRun
