import PinnedRun.Options.Reading
import PinnedRun.Proofs.Settings.Completeness

/-!
# What a command line takes over from the environment

A command line goes over the variables whose settings it names (`Arguments.overrides`). What such a
variable holds does not show in the settings (`Settings.override_ofEnvironment_congr`). It still
counts in one place, since the environment is read as a whole before: two environments that agree
apart from these variables come to the same exactly if their test commands fail alike, also where
the command line replaces them (`Settings.resolve_eq_iff_commandFault?`).
-/

namespace PinnedRun

open Options (Arguments textOf?)

/-- The command line names the setting of a variable. -/
def Options.Arguments.overrides (a : Arguments) : String → Bool
  | "TOOLCHAIN_BASE_URL" => (textOf? a.baseUrl).isSome
  | "TOOLCHAIN_BRANCH" => (textOf? a.branch).isSome
  | "TOOLCHAIN_FILE" => (textOf? a.filePath).isSome
  | "TOOLCHAIN_OUTPUT" => (textOf? a.output).isSome
  | "ABORT_ON_FETCH_FAILURE" => a.abortOnFetchFailure
  | "TEST_COMMAND" => !a.words.isEmpty
  | _ => false

/-- Two environments differ at most in variables whose settings a command line names. -/
def Options.Arguments.AgreeApart (a : Arguments) (e other : Environment) : Prop :=
  ∀ name, a.overrides name = false → e name = other name

/-- Why the test command of an environment cannot be read, if it cannot. -/
def Environment.commandFault? (e : Environment) : Option Unusable :=
  match readCommand (e "TEST_COMMAND") with
  | .ok _ => none
  | .error reason => some reason

/-- The settings of an environment with a test command in the place of its own. -/
def Settings.ofEnvironmentWith (e : Environment) (command : List String) : Settings where
  fetch := .ofEnvironment e
  command := command
  abortOnFetchFailure := readFlag (e "ABORT_ON_FETCH_FAILURE") false
  telemetry := .ofEnvironment e

variable {a : Arguments} {e other : Environment}

theorem Options.Arguments.agreeApart_set (a : Arguments) {name : String}
    (h : a.overrides name = true) (e : Environment) (value : String) :
    a.AgreeApart (e.set name value) e := by
  intro n hn
  have hne : n ≠ name := by
    rintro rfl
    exact nomatch h.symm.trans hn
  exact if_neg hne

theorem Environment.commandFault?_eq_some_iff {reason : Unusable} :
    e.commandFault? = some reason ↔ readCommand (e "TEST_COMMAND") = .error reason := by
  unfold Environment.commandFault?
  cases readCommand (e "TEST_COMMAND") <;> simp

theorem getD_congr_of_none {α : Type} {given : Option α} {x y : α}
    (h : given.isSome = false → x = y) : given.getD x = given.getD y := by
  cases given with
  | none => exact h rfl
  | some _ => rfl

theorem or_congr_of_none {α : Type} {given x y : Option α}
    (h : given.isSome = false → x = y) : given.or x = given.or y := by
  cases given with
  | none => exact h rfl
  | some _ => rfl

theorem FetchSettings.override_ofEnvironment_congr (h : a.AgreeApart e other) :
    (FetchSettings.ofEnvironment e).override a =
      (FetchSettings.ofEnvironment other).override a := by
  have hbase : (textOf? a.baseUrl).isSome = false →
      e "TOOLCHAIN_BASE_URL" = other "TOOLCHAIN_BASE_URL" := h "TOOLCHAIN_BASE_URL"
  have hbranch : (textOf? a.branch).isSome = false →
      e "TOOLCHAIN_BRANCH" = other "TOOLCHAIN_BRANCH" := h "TOOLCHAIN_BRANCH"
  have hfile : (textOf? a.filePath).isSome = false →
      e "TOOLCHAIN_FILE" = other "TOOLCHAIN_FILE" := h "TOOLCHAIN_FILE"
  have houtput : (textOf? a.output).isSome = false →
      e "TOOLCHAIN_OUTPUT" = other "TOOLCHAIN_OUTPUT" := h "TOOLCHAIN_OUTPUT"
  have htimeout : e "TOOLCHAIN_TIMEOUT_SECONDS" = other "TOOLCHAIN_TIMEOUT_SECONDS" := h _ rfl
  have hverify : e "TOOLCHAIN_VERIFY_TLS" = other "TOOLCHAIN_VERIFY_TLS" := h _ rfl
  simp only [FetchSettings.override, FetchSettings.ofEnvironment, FetchSettings.mk.injEq]
  refine ⟨?_, ?_, ?_, ?_, by rw [htimeout], by rw [hverify]⟩
  · exact getD_congr_of_none fun hn => by rw [hbase hn]
  · exact getD_congr_of_none fun hn => by rw [hbranch hn]
  · exact getD_congr_of_none fun hn => by rw [hfile hn]
  · exact or_congr_of_none fun hn => by rw [houtput hn]

theorem TelemetrySettings.ofEnvironment_congr (h : a.AgreeApart e other) :
    TelemetrySettings.ofEnvironment e = TelemetrySettings.ofEnvironment other := by
  simp only [TelemetrySettings.ofEnvironment, h "OTEL_ENABLED" rfl, h "OTEL_SERVICE_NAME" rfl,
    h "OTEL_EXPORTER_OTLP_ENDPOINT" rfl, h "OTEL_RESOURCE_ATTRIBUTES" rfl,
    h "OTEL_INSTRUMENT_REQUESTS" rfl, h "OTEL_EXPORTER_OTLP_INSECURE" rfl]

/-- What a command line goes over does not show in the settings. -/
theorem Settings.override_ofEnvironment_congr (h : a.AgreeApart e other)
    {words others : List String} (hw : a.words = [] → words = others) :
    (Settings.ofEnvironmentWith e words).override a =
      (Settings.ofEnvironmentWith other others).override a := by
  have habort : a.abortOnFetchFailure = false →
      e "ABORT_ON_FETCH_FAILURE" = other "ABORT_ON_FETCH_FAILURE" := h "ABORT_ON_FETCH_FAILURE"
  simp only [Settings.override, Settings.ofEnvironmentWith, Settings.mk.injEq]
  refine ⟨FetchSettings.override_ofEnvironment_congr h, ?_, ?_,
    TelemetrySettings.ofEnvironment_congr h⟩
  · split
    · rename_i ha
      exact hw ha
    · rfl
  · cases ha : a.abortOnFetchFailure with
    | true => rfl
    | false => rw [habort ha]

theorem Settings.resolve_eq_map (e : Environment) (a : Arguments) :
    Settings.resolve e a =
      (readCommand (e "TEST_COMMAND")).map fun words =>
        (Settings.ofEnvironmentWith e words).override a := by
  unfold Settings.resolve Settings.ofEnvironment
  cases readCommand (e "TEST_COMMAND") <;> rfl

/-- **Environments that agree apart from what a command line names come to the same exactly if
their test commands fail alike.** -/
theorem Settings.resolve_eq_iff_commandFault? (h : a.AgreeApart e other) :
    Settings.resolve e a = Settings.resolve other a ↔ e.commandFault? = other.commandFault? := by
  have hw : ∀ words others, readCommand (e "TEST_COMMAND") = .ok words →
      readCommand (other "TEST_COMMAND") = .ok others → a.words = [] → words = others := by
    -- a command line without words leaves the test command to the environments
    intro words others hr hr' ha
    have hcommand : e "TEST_COMMAND" = other "TEST_COMMAND" :=
      h "TEST_COMMAND" (by simp [Options.Arguments.overrides, ha])
    rw [hcommand, hr'] at hr
    exact (Except.ok.inj hr).symm
  rw [Settings.resolve_eq_map, Settings.resolve_eq_map]
  unfold Environment.commandFault?
  cases hr : readCommand (e "TEST_COMMAND") with
  | error reason =>
    cases hr' : readCommand (other "TEST_COMMAND") <;> simp [Except.map]
  | ok words =>
    cases hr' : readCommand (other "TEST_COMMAND") with
    | error reason => simp [Except.map]
    | ok others =>
      simp [Except.map, Settings.override_ofEnvironment_congr h (hw words others hr hr')]

/-- A command line that names a command, and an environment that names another one. -/
theorem Settings.resolve_eq_iff_commandFault?_of_words :
    let a : Arguments := { command := ["--", "true"] }
    let e := Environment.set (fun _ => none) "TEST_COMMAND" "make check"
    Options.read ["--", "true"] = .accepted a ∧ a.AgreeApart e (fun _ => none) ∧
      Settings.resolve e a = Settings.resolve (fun _ => none) a := by
  intro a e
  have hr : Options.read ["--", "true"] = .accepted a := by decide +kernel
  have hagree : a.AgreeApart e (fun _ => none) := a.agreeApart_set rfl _ _
  have hfault : e.commandFault? = Environment.commandFault? fun _ => none := by decide +kernel
  exact ⟨hr, hagree, (Settings.resolve_eq_iff_commandFault? hagree).mpr hfault⟩

/-- A test command that does not split into words is an error although the command line puts
another one in its place. -/
theorem Settings.replaced_command_counts :
    let a : Arguments := { command := ["--", "true"] }
    let e := Environment.set (fun _ => none) "TEST_COMMAND" "make \"all"
    Options.read ["--", "true"] = .accepted a ∧ a.AgreeApart e (fun _ => none) ∧
      Settings.resolve e a = .error (.unsplittable .unclosedQuote) ∧
      Settings.resolve (fun _ => none) a = .ok { command := ["true"] } := by
  intro a e
  have hr : Options.read ["--", "true"] = .accepted a := by decide +kernel
  have hagree : a.AgreeApart e (fun _ => none) := a.agreeApart_set rfl _ _
  have hfault : e.commandFault? = some (.unsplittable .unclosedQuote) := by decide +kernel
  exact ⟨hr, hagree, Settings.resolve_eq_error_iff.mpr
    (Environment.commandFault?_eq_some_iff.mp hfault), rfl⟩

end PinnedRun
