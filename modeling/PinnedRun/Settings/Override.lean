import PinnedRun.Options.Basic
import PinnedRun.Settings.Environment

/-!
# Settings of a command line

What a command line says goes over what the environment says. An option with an empty value and a
command without words say nothing; a double dash in front of the command is not part of it.

* `Arguments.words` is the command that a command line names;
* `Settings.override` lets a command line go over settings;
* `Settings.resolve` reads the environment and lets the command line go over it.
-/

namespace PinnedRun

/-- The text of a value, if there is any. -/
def Options.textOf? : Option Options.Value → Option String
  | some (.text s) => if s = "" then none else some s
  | some .removed | none => none

/-- The words of the command. -/
def Options.Arguments.words (a : Options.Arguments) : List String :=
  match a.command with
  | "--" :: rest => rest
  | command => command

/-- The settings of the fetch with a command line over them. -/
def FetchSettings.override (s : FetchSettings) (a : Options.Arguments) : FetchSettings :=
  { s with
    baseUrl := (Options.textOf? a.baseUrl).getD s.baseUrl
    branch := (Options.textOf? a.branch).getD s.branch
    filePath := (Options.textOf? a.filePath).getD s.filePath
    output := (Options.textOf? a.output).or s.output }

/-- The settings with a command line over them. -/
def Settings.override (s : Settings) (a : Options.Arguments) : Settings :=
  { s with
    fetch := s.fetch.override a
    abortOnFetchFailure := a.abortOnFetchFailure || s.abortOnFetchFailure
    command := if a.words = [] then s.command else a.words }

/-- The settings of the environment with a command line over them. The environment is read as a
whole first, so that a wrong test command counts also where the command line replaces it. -/
def Settings.resolve (e : Environment) (a : Options.Arguments) : Except Unusable Settings :=
  (Settings.ofEnvironment e).map (·.override a)

end PinnedRun
