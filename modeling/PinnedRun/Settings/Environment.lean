import PinnedRun.Settings.Basic
import PinnedRun.Numeric.DecimalLiteral

/-!
# Settings from environment variables

Each setting has a variable. A variable that is not set gives the default, and so does one whose
value does not fit: a flag that is none of eight words, a number that is not greater than zero, an
empty address. Only the test command has wrong values, since it has to split into words.

* `readFlag` and `readPositive` read the value of a variable against a default;
* `readCommand` splits the test command;
* `Settings.ofEnvironment` reads all settings.
-/

namespace PinnedRun

open Numeric (Binary64 NumberText)

/-- The variables that are set. -/
abbrev Environment := String → Option String

namespace Environment

/-- The environment with a variable set. -/
def set (e : Environment) (name value : String) : Environment :=
  fun n => if n = name then some value else e n

end Environment

/-! ### Single values -/

/-- The words for a flag that is on. -/
def onWords : List String := ["1", "true", "yes", "on"]

/-- The words for a flag that is off. -/
def offWords : List String := ["0", "false", "no", "off"]

/-- A flag: one of the words in any case of its letters, or else the default. -/
def readFlag (value : Option String) (default : Bool) : Bool :=
  let word := NumberText.asciiLower (value.getD "").toList
  if word ∈ onWords then true else if word ∈ offWords then false else default

/-- A number greater than zero, or else the default. -/
def readPositive (value : Option String) (default : Option Binary64) : Option Binary64 :=
  match value.filter (! Text.isBlankText ·) with
  | none => default
  | some text =>
    match NumberText.read? text with
    | none => default
    | some number => if number.toBinary64.isPositive then some number.toBinary64 else default

/-- A text that is not empty. -/
def readText (value : Option String) : Option String := value.filter (· ≠ "")

/-- A command: the words of the value, or the default command if the value is blank. -/
def readCommand (value : Option String) : Except Unusable (List String) :=
  match value.filter (! Text.isBlankText ·) with
  | none => .ok defaultCommand
  | some line => (Shell.Words.split line).mapError .unsplittable

/-! ### All settings -/

/-- The variables that settings are read from. -/
def Settings.variables : List String :=
  ["TOOLCHAIN_BASE_URL", "TOOLCHAIN_BRANCH", "TOOLCHAIN_FILE", "TOOLCHAIN_OUTPUT",
    "TOOLCHAIN_TIMEOUT_SECONDS", "TOOLCHAIN_VERIFY_TLS", "TEST_COMMAND",
    "ABORT_ON_FETCH_FAILURE", "OTEL_ENABLED", "OTEL_SERVICE_NAME",
    "OTEL_EXPORTER_OTLP_ENDPOINT", "OTEL_RESOURCE_ATTRIBUTES", "OTEL_INSTRUMENT_REQUESTS",
    "OTEL_EXPORTER_OTLP_INSECURE"]

/-- The settings of the fetch. -/
def FetchSettings.ofEnvironment (e : Environment) : FetchSettings :=
  let usual : FetchSettings := {}
  { baseUrl := (readText (e "TOOLCHAIN_BASE_URL")).getD usual.baseUrl
    branch := (readText (e "TOOLCHAIN_BRANCH")).getD usual.branch
    filePath := (readText (e "TOOLCHAIN_FILE")).getD usual.filePath
    output := readText (e "TOOLCHAIN_OUTPUT")
    timeout := readPositive (e "TOOLCHAIN_TIMEOUT_SECONDS") none
    verifyTls := readFlag (e "TOOLCHAIN_VERIFY_TLS") true }

/-- The settings of the telemetry; the texts are taken as they are, also if they are empty. -/
def TelemetrySettings.ofEnvironment (e : Environment) : TelemetrySettings :=
  let usual : TelemetrySettings := {}
  { enabled := readFlag (e "OTEL_ENABLED") false
    serviceName := (e "OTEL_SERVICE_NAME").getD usual.serviceName
    endpoint := e "OTEL_EXPORTER_OTLP_ENDPOINT"
    resourceAttributes := e "OTEL_RESOURCE_ATTRIBUTES"
    instrumentRequests := readFlag (e "OTEL_INSTRUMENT_REQUESTS") true
    insecure := readFlag (e "OTEL_EXPORTER_OTLP_INSECURE") true }

/-- All settings; the test command is the only one that can be wrong. -/
def Settings.ofEnvironment (e : Environment) : Except Unusable Settings :=
  (readCommand (e "TEST_COMMAND")).map fun command =>
    { fetch := .ofEnvironment e
      command := command
      abortOnFetchFailure := readFlag (e "ABORT_ON_FETCH_FAILURE") false
      telemetry := .ofEnvironment e }

/-- No other variable counts. -/
theorem Settings.ofEnvironment_congr {e e' : Environment}
    (h : ∀ name ∈ Settings.variables, e name = e' name) :
    Settings.ofEnvironment e = Settings.ofEnvironment e' := by
  simp only [Settings.variables, List.forall_mem_cons] at h
  obtain ⟨h₁, h₂, h₃, h₄, h₅, h₆, h₇, h₈, h₉, h₁₀, h₁₁, h₁₂, h₁₃, h₁₄, -⟩ := h
  simp only [Settings.ofEnvironment, FetchSettings.ofEnvironment,
    TelemetrySettings.ofEnvironment, *]

end PinnedRun
