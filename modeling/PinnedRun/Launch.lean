import PinnedRun.Action

/-!
# Launching the test command

The exit code of the command is reported the way a shell would: a signal that ended it counts from
128 on, a command that is not found has 127 and one that cannot be started 126.

* `Launch.exitCode` turns a return code into an exit code;
* `TestCommand.run` launches the command;
* `Launch.Session` is a command that is launched again and again while the words that it was made
  from may grow.
-/

namespace PinnedRun

/-- A command of at least one word. -/
structure TestCommand where
  words : List String
  words_ne_nil : words ≠ []
deriving DecidableEq

namespace Launch

/-- The exit code for a return code, which is negative for the number of a signal. -/
def exitCode (returnCode : Int) : Int := if returnCode < 0 then 128 - returnCode else returnCode

theorem exitCode_nonneg (n : Int) : 0 ≤ exitCode n := by
  unfold exitCode; split <;> omega

theorem exitCode_eq_zero_iff {n : Int} : exitCode n = 0 ↔ n = 0 := by
  unfold exitCode; split <;> omega

end Launch

namespace TestCommand

open PinnedRun.Action

/-- The command with the given words, unless there are none. -/
def ofWords? : List String → Except Unusable TestCommand
  | [] => .error .emptyCommand
  | w :: ws => .ok ⟨w :: ws, List.cons_ne_nil w ws⟩

/-- The program to start. -/
def program (c : TestCommand) : String := c.words.head c.words_ne_nil

/-- The words with spaces between. -/
def line (c : TestCommand) : String := " ".intercalate c.words

/-- The fault of a command that is not found. -/
def notFoundFault (c : TestCommand) : Fault :=
  .launch ("Command not found: " ++ c.program) c.words 127

/-- The fault of a command that cannot be started. -/
def notStartedFault (c : TestCommand) (cause : Fault) : Fault :=
  .launch ("Could not start " ++ c.program ++ ": " ++ cause.message) c.words 126

/-- Reports why the command did not start. -/
def refuse (c : TestCommand) (e : Failure) : Action World Int :=
  if e.fault.isMissingFile then do
    log .error .command ("Test command not found: " ++ c.program)
    fail ⟨c.notFoundFault, some e.fault⟩
  else if e.fault.isSystem then do
    log .error .command ("Could not start test command: " ++ e.fault.message)
    fail ⟨c.notStartedFault e.fault, some e.fault⟩
  else fail e

/-- Launches the command and waits for its exit code. -/
def run (c : TestCommand) : Action World Int := do
  log .info .command ("Running test command: " ++ c.line)
  let returnCode ← (launch c.words).handle c.refuse
  let code := Launch.exitCode returnCode
  log .info .command ("Test command exited with code " ++ toString code)
  pure code

end TestCommand

/-! ### Launching again and again -/

namespace Launch

/-- Configured words and the command that was made from them, which has its own copy. -/
structure Session where
  configured : List String
  command : TestCommand
  world : World

/-- What happens in a session. -/
inductive Turn where
  /-- The command is launched. -/
  | launch
  /-- The configured words get one more. -/
  | extend (word : String)
deriving Repr, DecidableEq

namespace Session

/-- A session for configured words, unless there are none. -/
def begin? (configured : List String) (w : World) : Except Unusable Session :=
  (TestCommand.ofWords? configured).map (⟨configured, ·, w⟩)

/-- Takes a turn; a launch has a result. -/
def take (s : Session) : Turn → Option (Except Failure Int) × Session
  | .launch =>
    match s.command.run s.world with
    | (r, w) => (some r, { s with world := w })
  | .extend word => (none, { s with configured := s.configured ++ [word] })

/-- Takes turns one after the other, also after a launch that has failed, and lists the results of
the launches. -/
def takeAll (s : Session) : List Turn → List (Except Failure Int) × Session
  | [] => ([], s)
  | t :: ts =>
    match s.take t with
    | (r, s) =>
      match s.takeAll ts with
      | (rs, s) => (r.toList ++ rs, s)

end Session

end Launch

end PinnedRun
