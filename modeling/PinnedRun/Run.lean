import PinnedRun.Fetch
import PinnedRun.Launch
import PinnedRun.Summary
import PinnedRun.Telemetry.Activity

/-!
# A run

A run fetches the pinned file and then runs the test command, each as a step within a span. A
failed fetch does not stop the run unless the settings say so. Whatever happens, the summary is
printed and telemetry is stopped at the end.

* `Plan` is what a run has been told to do, fixed before it begins;
* `Run.fetchStep` and `Run.testsStep` are the steps, `Run.run` the whole.

The settings are read again where they are needed, so that a later change of them counts for all
that the plan does not fix.
-/

namespace PinnedRun

open Numeric (Binary64)

/-- What a run has been told to do. -/
structure Plan where
  remote : RemoteFile
  destination : String
  command : TestCommand
deriving DecidableEq

/-- The plan that settings lead to. -/
def Plan.ofSettings (s : Settings) : Except Unusable Plan := do
  let remote ← s.fetch.remoteFile
  let destination ← s.fetch.destination
  let command ← TestCommand.ofWords? s.command
  pure ⟨remote, destination, command⟩

/-- A run under way. -/
structure Run where
  world : World
  summary : Summary

/-- How the test command went. -/
structure TestRun where
  exitCode : Int
  durationMs : Binary64
  error : Option String
deriving DecidableEq

/-- The result of the step that runs the tests. -/
def TestRun.toStepResult (t : TestRun) : StepResult where
  name := "tests"
  success := t.error.isNone && t.exitCode = 0
  durationMs := t.durationMs
  error := t.error
  exitCode := some t.exitCode

namespace Run

open PinnedRun.Action

/-- A run that has not begun; it holds on to nothing of the telemetry yet. -/
def ofPlan (p : Plan) (w : World) : Run where
  world := w.onTelemetry (·.onHandles fun _ => {})
  summary := { url := p.remote.url, destination := p.destination, startTime := w.reading }

/-- Does an action on the world of a run. -/
def onWorld {α : Type} (x : Action World α) : Action Run α :=
  within world (fun w r => { r with world := w }) x

/-- Makes ready for the steps. -/
def prepare (s : Settings) : Action World Unit := do
  log .debug .runner "Initializing runner components"
  Telemetry.start s.telemetry

/-! ### The fetch -/

/-- The result of a fetch that failed. -/
def failedFetch (f : Fault) (durationMs : Binary64) : StepResult :=
  { name := "fetch", success := false, durationMs := durationMs, error := f.message }

/-- The result of a fetch that succeeded. -/
def succeededFetch (r : FetchResult) : StepResult :=
  { name := "fetch", success := true, durationMs := r.durationMs }

/-- Fetches what the plan says. -/
def fetchPlanned (s : Settings) (p : Plan) : Action World FetchResult :=
  Fetch.fetch s.fetch p.remote.url (.text p.destination)

/-- Goes on after a fetch that failed: a fault of the fetch is recorded and makes the step fail, any
other fault comes out. -/
def recoverFetch (start : Binary64) (e : Failure) :
    Action World (Except StepResult FetchResult) :=
  if e.fault.isFetch then do
    Telemetry.recordFailure "fetch" e.fault
    let stop ← now
    pure (.error (failedFetch e.fault (elapsedMs start stop)))
  else fail e

/-- Fetches and closes the session in any case. -/
def tryFetch (s : Settings) (p : Plan) (start : Binary64) :
    Action World (Except StepResult FetchResult) :=
  ((do
      let result ← fetchPlanned s p
      pure (.ok result) : Action World (Except StepResult FetchResult)).handle
    (recoverFetch start)).ensure closeSession

/-- Takes in what the fetch came to. -/
def concludeFetch : Except StepResult FetchResult → Action World StepResult
  | .error failed => pure failed
  | .ok result => do
    Telemetry.recordFetch result.bytesWritten result.durationMs
    log .info .runner
      ("Fetched " ++ result.url ++ " (" ++ toString result.bytesWritten ++ " bytes) into " ++
        result.destination.toText)
    pure (succeededFetch result)

/-- Fetches the pinned file. -/
def fetchStep (s : Settings) (p : Plan) : Action World StepResult := do
  let start ← now
  Telemetry.inSpan "fetch"
    [("http.url", .text p.remote.url), ("file.path", .text p.destination)]
    (tryFetch s p start >>= concludeFetch)

/-! ### The tests -/

/-- Goes on after a command that failed: that it could not be started is recorded and makes the step
fail, any other fault comes out. -/
def recoverTests (start : Binary64) (e : Failure) : Action World TestRun :=
  match e.fault with
  | .launch message _ exitCode => do
    Telemetry.recordFailure "tests" e.fault
    let stop ← now
    pure ⟨exitCode, elapsedMs start stop, some message⟩
  | _ => fail e

/-- Runs the command. -/
def tryTests (p : Plan) (start : Binary64) : Action World TestRun :=
  (do
      let code ← p.command.run
      let stop ← now
      pure ⟨code, elapsedMs start stop, none⟩ : Action World TestRun).handle (recoverTests start)

/-- Records the exit code of a command that was started. -/
def concludeTests (t : TestRun) : Action World TestRun := do
  if t.error.isNone then Telemetry.recordExit t.exitCode t.durationMs
  pure t

/-- Runs the test command. -/
def testsStep (p : Plan) : Action World TestRun := do
  let start ← now
  Telemetry.inSpan "tests" [("process.command", .text p.command.line)]
    (tryTests p start >>= concludeTests)

/-! ### The whole -/

/-- Adds the result of a step to the summary. -/
def collect (r : StepResult) : Action Run Unit :=
  change fun run => { run with summary := run.summary.add r }

/-- Ends with an exit code and puts it into the summary. -/
def conclude (exitCode : Int) : Action Run Int := do
  change fun run => { run with summary := { run.summary with exitCode := some exitCode } }
  pure exitCode

/-- Says that the tests run in spite of a failed fetch. -/
def warn (p : Plan) (fetched : StepResult) : Action World Unit :=
  if fetched.success then pure ()
  else
    log .warning .runner
      ("Fetch failed, running tests with existing " ++ p.destination ++ ": " ++
        fetched.error.getD "None")

/-- Ends without the tests. -/
def giveUp : Action Run Int := do
  onWorld (log .error .runner "Aborting due to fetch failure (ABORT_ON_FETCH_FAILURE=true)")
  conclude 1

/-- Goes on to the tests, and ends with their exit code. -/
def goOn (tests : Action World TestRun) (p : Plan) (fetched : StepResult) : Action Run Int := do
  onWorld (warn p fetched)
  let tested ← onWorld tests
  collect tested.toStepResult
  conclude tested.exitCode

/-- Both steps, or the first one only if it fails and the settings say so. -/
def stepsBy (fetch : Action World StepResult) (tests : Action World TestRun) (s : Settings)
    (p : Plan) : Action Run Int := do
  let fetched ← onWorld fetch
  collect fetched
  if !fetched.success && s.abortOnFetchFailure then giveUp else goOn tests p fetched

/-- Makes ready and does the steps. -/
def steps (s : Settings) (p : Plan) : Action Run Int := do
  onWorld (prepare s)
  stepsBy (fetchStep s p) (testsStep p) s p

/-- Ends a run that an ordinary fault breaks off. -/
def breakOff (e : Failure) : Action Run Int :=
  if e.fault.isOrdinary then do
    onWorld (log .error .runner ("Fatal error in runner: " ++ e.fault.message))
    conclude 1
  else fail e

/-- Prints the summary. -/
def printSummary : Action Run Unit :=
  change fun run =>
    { run with world := { run.world with
        printed := run.world.printed ++ (run.summary.overview run.world.reading).text } }

/-- What is done at the end of a run in any case. -/
def finish : Action Run Unit := do
  printSummary
  onWorld Telemetry.stop

/-- The whole run, with the exit code it ends with. -/
def run (s : Settings) (p : Plan) : Action Run Int :=
  ((steps s p).handle breakOff).ensure finish

end Run

end PinnedRun
