import PinnedRun.Invocation
import PinnedRun.Proofs.Options.Occurrence

/-!
# Settings that can be given in two ways

Four texts and the flag for a failed fetch can be given on the command line, by an option, and in
the environment, by a variable. Both ways come to the same: `Given.put` is what giving a setting
does to the settings, and it is what the occurrence of its option does (`Settings.override_apply`)
as well as what setting its variable does (`Settings.ofEnvironment_set`).

So a command line that gives settings in any order, also one of them several times, leads where the
variables lead that are set to the same values (`Invocation.invoke_arguments`).
-/

namespace PinnedRun

open Options (Arguments Occurrence Spells Switch readOn textOf?)

/-- The settings that hold a text and have both an option and a variable. -/
inductive TextSetting where
  | baseUrl
  | branch
  | filePath
  | output
deriving DecidableEq

namespace TextSetting

/-- The option for a setting. -/
def switch : TextSetting → Switch
  | baseUrl => .baseUrl
  | branch => .branch
  | filePath => .filePath
  | output => .output

/-- How the option is spelled out. -/
def spelling : TextSetting → String
  | baseUrl => "--base-url"
  | branch => "--branch"
  | filePath => "--file"
  | output => "--output"

/-- The variable for a setting. -/
def variableName : TextSetting → String
  | baseUrl => "TOOLCHAIN_BASE_URL"
  | branch => "TOOLCHAIN_BRANCH"
  | filePath => "TOOLCHAIN_FILE"
  | output => "TOOLCHAIN_OUTPUT"

theorem mem_table (t : TextSetting) : (t.spelling, t.switch) ∈ Switch.table := by
  cases t <;> decide

end TextSetting

/-- A setting that is given: a text with its value, or the flag. -/
inductive Given where
  | text (setting : TextSetting) (value : String)
  | abortOnFetchFailure
deriving DecidableEq

namespace Given

/-- The argument that gives the setting. -/
def argument : Given → String
  | text t value => t.spelling ++ "=" ++ value
  | abortOnFetchFailure => "--abort-on-fetch-failure"

/-- The occurrence that the argument stands for. -/
def occurrence : Given → Occurrence
  | text t value => (t.switch, some (.text value))
  | abortOnFetchFailure => (.abortOnFetchFailure, none)

/-- The variable that gives the setting. -/
def variableName : Given → String
  | text t _ => t.variableName
  | abortOnFetchFailure => "ABORT_ON_FETCH_FAILURE"

/-- What the variable is set to. -/
def value : Given → String
  | text _ value => value
  | abortOnFetchFailure => "true"

/-- What giving the setting does to the settings. -/
def put : Given → Settings → Settings
  | text .baseUrl value, s => { s with fetch := { s.fetch with baseUrl := value } }
  | text .branch value, s => { s with fetch := { s.fetch with branch := value } }
  | text .filePath value, s => { s with fetch := { s.fetch with filePath := value } }
  | text .output value, s => { s with fetch := { s.fetch with output := some value } }
  | abortOnFetchFailure, s => { s with abortOnFetchFailure := true }

/-- A text that is not empty, and not the double dash that is removed where it is a value. -/
def Usable : Given → Prop
  | text _ value => value ≠ "" ∧ value ≠ "--"
  | abortOnFetchFailure => True

instance (g : Given) : Decidable g.Usable := by
  cases g <;> unfold Usable <;> infer_instance

variable {g : Given}

theorem variableName_ne (g : Given) : g.variableName ≠ "TEST_COMMAND" := by
  cases g with
  | text t value => cases t <;> simp [variableName, TextSetting.variableName]
  | abortOnFetchFailure => simp [variableName]

theorem spells (h : g.Usable) : Spells g.argument g.occurrence := by
  cases g with
  | text t value =>
    have hs : t.switch.takesValue = true := by cases t <;> rfl
    have hv : Options.Value.ofAttached value = .text value := if_neg h.2
    have h := Spells.attached t.mem_table hs value
    rwa [hv] at h
  | abortOnFetchFailure => exact .alone (by decide) rfl (by decide)

end Given

/-- The environment with the variables of given settings set in turn. -/
def Environment.give (e : Environment) (given : List Given) : Environment :=
  given.foldl (fun e g => e.set g.variableName g.value) e

/-- What a command line says that gives settings in turn. -/
def Options.Arguments.give (a : Arguments) (given : List Given) : Arguments :=
  given.foldl (fun a g => a.apply g.occurrence) a

variable {g : Given} {given : List Given}

/-- If giving one setting puts it into the settings that are read off, giving several of them puts
them in turn. -/
theorem Given.foldl_put {α : Type} {step : α → Given → α} {read : α → Except Unusable Settings}
    (h : ∀ g ∈ given, ∀ a, read (step a g) = (read a).map g.put) (a : α) :
    read (given.foldl step a) = given.foldl (fun r g => r.map g.put) (read a) := by
  induction given generalizing a with
  | nil => rfl
  | cons g given ih =>
    obtain ⟨hg, hrest⟩ := List.forall_mem_cons.1 h
    rw [List.foldl_cons, List.foldl_cons, ← hg]
    exact ih hrest (step a g)

/-! ### By an option -/

theorem Settings.override_apply (h : g.Usable) (s : Settings) (a : Arguments) :
    s.override (a.apply g.occurrence) = g.put (s.override a) := by
  have hw : (a.apply g.occurrence).words = a.words := by
    rw [Arguments.words, Arguments.words, Arguments.command_apply]
  cases g with
  | text t value =>
    have ht : textOf? (some (.text value)) = some value := if_neg h.1
    rw [Settings.override, hw]
    cases t <;> simp [Settings.override, FetchSettings.override, Given.occurrence, Given.put,
      TextSetting.switch, Arguments.apply, ht]
  | abortOnFetchFailure =>
    rw [Settings.override, hw]
    simp [Settings.override, FetchSettings.override, Given.occurrence, Given.put, Arguments.apply]

theorem Settings.resolve_apply (h : g.Usable) (e : Environment) (a : Arguments) :
    Settings.resolve e (a.apply g.occurrence) = (Settings.resolve e a).map g.put := by
  unfold Settings.resolve
  cases Settings.ofEnvironment e with
  | error reason => rfl
  | ok s => exact congrArg Except.ok (Settings.override_apply h s a)

theorem Settings.resolve_give (h : ∀ g ∈ given, g.Usable) (e : Environment) (a : Arguments) :
    Settings.resolve e (a.give given) =
      given.foldl (fun r g => r.map g.put) (Settings.resolve e a) :=
  Given.foldl_put (fun g hg => Settings.resolve_apply (h g hg) e) a

/-- Giving settings makes a command line neither verbose nor gives it a command. -/
theorem Options.Arguments.give_frame (a : Arguments) (given : List Given) :
    (a.give given).verbose = a.verbose ∧ (a.give given).command = a.command := by
  induction given generalizing a with
  | nil => exact ⟨rfl, rfl⟩
  | cons g given ih =>
    obtain ⟨hv, hc⟩ := ih (a.apply g.occurrence)
    refine ⟨hv.trans ?_, hc.trans (Arguments.command_apply a g.occurrence)⟩
    match g with
    | .text .baseUrl _ | .text .branch _ | .text .filePath _ | .text .output _
    | .abortOnFetchFailure => rfl

theorem Options.Arguments.eq_of_command_eq_nil {a : Arguments} (h : a.command = []) :
    { a with command := [] } = a := by
  cases a
  cases h
  rfl

/-- A command line of arguments that give settings is accepted. -/
theorem Options.read_arguments (h : ∀ g ∈ given, g.Usable) :
    Options.read (given.map Given.argument) = .accepted (Arguments.give {} given) := by
  have hr := Options.readOn_append (fun g hg => Given.spells (h g hg)) {} []
  rw [List.append_nil, Options.readOn_empty, Options.readOn_nil] at hr
  have hc : (Arguments.give {} given).command = [] := (Arguments.give_frame {} given).2
  exact hr.trans (congrArg Options.Outcome.accepted (Arguments.eq_of_command_eq_nil hc))

/-! ### By a variable -/

theorem Settings.ofEnvironment_set (h : g.Usable) (e : Environment) :
    Settings.ofEnvironment (e.set g.variableName g.value) =
      (Settings.ofEnvironment e).map g.put := by
  -- the test command is read first, and reading it may fail, so its variable must not be among them
  have hcommand : e.set g.variableName g.value "TEST_COMMAND" = e "TEST_COMMAND" :=
    if_neg g.variableName_ne.symm
  unfold Settings.ofEnvironment
  rw [hcommand]
  cases readCommand (e "TEST_COMMAND") with
  | error reason => rfl
  | ok words =>
    refine congrArg Except.ok ?_
    cases g with
    | text t value =>
      have hv : readText (some value) = some value := by simp [readText, h.1]
      cases t <;> simp [Environment.set, FetchSettings.ofEnvironment,
        TelemetrySettings.ofEnvironment, Given.variableName, Given.value, Given.put,
        TextSetting.variableName, hv]
    | abortOnFetchFailure =>
      have hv : readFlag (some "true") false = true := by decide
      simp [Environment.set, FetchSettings.ofEnvironment, TelemetrySettings.ofEnvironment,
        Given.variableName, Given.value, Given.put, hv]

theorem Settings.ofEnvironment_give (h : ∀ g ∈ given, g.Usable) (e : Environment) :
    Settings.ofEnvironment (e.give given) =
      given.foldl (fun r g => r.map g.put) (Settings.ofEnvironment e) :=
  Given.foldl_put (fun g hg => Settings.ofEnvironment_set (h g hg)) e

/-- A command line that says nothing leaves the settings of the environment. -/
theorem Settings.resolve_empty (e : Environment) :
    Settings.resolve e {} = Settings.ofEnvironment e := by
  unfold Settings.resolve
  cases Settings.ofEnvironment e with
  | error reason => rfl
  | ok s => rfl

/-! ### Both ways -/

theorem Settings.resolve_give_eq (h : ∀ g ∈ given, g.Usable) (e : Environment) :
    Settings.resolve e (Arguments.give {} given) = Settings.resolve (e.give given) {} := by
  rw [Settings.resolve_give h, Settings.resolve_empty, Settings.resolve_empty,
    Settings.ofEnvironment_give h]

namespace Invocation

variable {e other : Environment} {a b : Arguments} {commandLine commandLine' : List String}

/-- Command lines that are equally verbose and lead to the same settings make for the same
invocation. -/
theorem invoke_congr (ha : Options.read commandLine = .accepted a)
    (hb : Options.read commandLine' = .accepted b) (hv : a.verbose = b.verbose)
    (hs : Settings.resolve e a = Settings.resolve other b) (w : World) :
    invoke e commandLine w = invoke other commandLine' w := by
  have hp : planned e a = planned other b := by rw [planned, planned, hs]
  have hadjust : adjustLog a = adjustLog b := by
    funext w
    rw [adjustLog, adjustLog, hv]
  have hperform : perform e a = perform other b := by
    rw [perform, perform, attempt, attempt, hp, hadjust]
  rw [invoke, invoke, ha, hb]
  dsimp only
  rw [hperform]

/-- **Options and variables are two ways to give the same settings.** Whatever settings are given,
and in whatever order, the command line that gives them is accepted and leads to the settings, or to
the fault, that an empty command line leads to once their variables are set to the same values. So
the whole invocations are the same. -/
theorem invoke_arguments (e : Environment) (h : ∀ g ∈ given, g.Usable) :
    ∃ a b, Options.read (given.map Given.argument) = .accepted a ∧
      Options.read [] = .accepted b ∧
      Settings.resolve e a = Settings.resolve (e.give given) b ∧
      ∀ w, invoke e (given.map Given.argument) w = invoke (e.give given) [] w := by
  have ha := Options.read_arguments h
  have hb : Options.read [] = .accepted {} := rfl
  have hs := Settings.resolve_give_eq h e
  exact ⟨_, _, ha, hb, hs, invoke_congr ha hb (Arguments.give_frame {} given).1 hs⟩

/-- Values that begin with a dash, hold equals signs and spaces, or look like an option, and an
output that is given twice. -/
theorem invoke_arguments_of_odd_values :
    let given : List Given := [.text .output "-o x", .text .baseUrl "--file=a b",
      .abortOnFetchFailure, .text .branch "-", .text .output "a/../=b"]
    (∀ g ∈ given, g.Usable) ∧
      given.map Given.argument = ["--output=-o x", "--base-url=--file=a b",
        "--abort-on-fetch-failure", "--branch=-", "--output=a/../=b"] ∧
      ∃ a b, Options.read (given.map Given.argument) = .accepted a ∧
        a.output = some (.text "a/../=b") ∧ Options.read [] = .accepted b ∧
        Settings.resolve (fun _ => none) a =
          Settings.resolve (Environment.give (fun _ => none) given) b := by
  intro given
  have h : ∀ g ∈ given, g.Usable := by decide
  obtain ⟨a, b, ha, hb, hs, -⟩ := invoke_arguments (fun _ => none) h
  have hread := (Options.read_arguments h).symm.trans ha
  obtain rfl := Options.Outcome.accepted.inj hread
  exact ⟨h, by decide, _, b, ha, by decide, hb, hs⟩

end Invocation

end PinnedRun
