import PinnedRun.Invocation

/-!
# The command line

The program rehearses an invocation: it takes the command line and the variables of its own
process, and carries the invocation out in a world where no server answers and every command that
is launched ends at once. What the invocation prints goes to the output, the log and what is said
of a rejected command line to the error channel, and its exit code is that of the program.
-/

namespace PinnedRun

/-- The variables of the process that settings are read from. -/
def readEnvironment : IO Environment := do
  let values ← Settings.variables.mapM fun name => do
    pure (name, ← IO.getEnv name)
  pure fun name => (values.lookup name).join

/-- A log record as a line. -/
def Record.line (r : Record) : String :=
  r.source.name ++ " - " ++ r.level.name ++ " - " ++ r.message

end PinnedRun

open PinnedRun in
/-- Rehearses the invocation of a command line. -/
def main (commandLine : List String) : IO UInt32 := do
  let invocation := Invocation.invoke (← readEnvironment) commandLine {}
  for record in invocation.world.log do
    IO.eprintln record.line
  IO.eprint invocation.errorText
  IO.print invocation.world.printed
  pure (invocation.exitCode % 256).toNat.toUInt32
