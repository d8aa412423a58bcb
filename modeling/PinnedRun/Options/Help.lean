import PinnedRun.Options.Rejection

/-!
# Usage and help

`usage` is the short form that goes before a rejection (`rejectionText`), `helpText` the long form
with a row for each option.
-/

namespace PinnedRun.Options

/-- The name of the program in its own texts. -/
def programName : String := "toolchain-runner"

/-- Lines of text, each with its end. -/
def lines (ls : List String) : String := String.join (ls.map (· ++ "\n"))

/-- Spaces up to a column. -/
def spaces (n : Nat) : String := String.ofList (List.replicate n ' ')

/-- The short form. -/
def usage : String :=
  lines
    ["usage: " ++ programName ++ " [-h] [--base-url BASE_URL] [--branch BRANCH]",
      spaces 24 ++ "[--file FILE_PATH] [--output OUTPUT]",
      spaces 24 ++ "[--abort-on-fetch-failure] [--verbose]",
      spaces 24 ++ "..."]

/-- What an option does. -/
def Switch.explanation : Switch → String
  | help => "show this help message and exit"
  | baseUrl => "Raw-content base URL"
  | branch => "Branch to fetch the toolchain pin from"
  | filePath => "File path on the branch"
  | output => "Local file name to write"
  | abortOnFetchFailure => "Do not run the tests when the fetch fails"
  | verbose => "Enable verbose logging"

/-- The column where explanations start. -/
def explanationColumn : Nat := 24

/-- A row of the help: what is explained, and the explanation in its column, on the next line if
there are not two spaces left before it. -/
def row (heading explanation : String) : String :=
  let start := "  " ++ heading
  if start.length + 2 ≤ explanationColumn then
    start ++ spaces (explanationColumn - start.length) ++ explanation
  else start ++ "\n" ++ spaces explanationColumn ++ explanation

/-- An option as its row shows it: each spelling with the value it takes. -/
def Switch.heading (s : Switch) : String :=
  ", ".intercalate <| s.spellings.map fun spelling =>
    match s.placeholder? with
    | some placeholder => spelling ++ " " ++ placeholder
    | none => spelling

/-- The variables that set what no option sets, and an example. -/
def closing : String :=
  lines
    ["Environment Variables:",
      "  TOOLCHAIN_BASE_URL         Raw-content base URL (default: rust-gpu on GitHub)",
      "  TOOLCHAIN_BRANCH           Branch to fetch from (default: main)",
      "  TOOLCHAIN_FILE             File path on the branch (default: rust-toolchain)",
      "  TOOLCHAIN_OUTPUT           Local file name (default: basename of TOOLCHAIN_FILE)",
      "  TOOLCHAIN_TIMEOUT_SECONDS  HTTP timeout in seconds (default: none)",
      "  TOOLCHAIN_VERIFY_TLS       Verify TLS certificates (default: true)",
      "",
      "  TEST_COMMAND               Test command line (default: cargo test)",
      "  ABORT_ON_FETCH_FAILURE     Skip tests when the fetch fails (default: false)",
      "",
      "  OTEL_ENABLED               Export telemetry (default: false)",
      "  OTEL_SERVICE_NAME          Service name for telemetry (default: toolchain-runner)",
      "  OTEL_EXPORTER_OTLP_ENDPOINT  OTLP exporter endpoint",
      "  OTEL_EXPORTER_OTLP_INSECURE  Use insecure connection for OTLP (default: true)",
      "  OTEL_RESOURCE_ATTRIBUTES   Additional resource attributes",
      "  OTEL_INSTRUMENT_REQUESTS   Instrument requests (default: true)",
      "",
      "Anything after \"--\" replaces the test command, e.g.",
      "  " ++ programName ++ " -- cargo test --release",
      spaces 8]

/-- The long form. -/
def helpText : String :=
  usage ++
    lines
      ["", "Fetch a toolchain pin, then run the test suite", "", "positional arguments:",
        row "command" "Test command to run instead of the configured one", "", "options:"] ++
    lines (Switch.all.map fun s => row s.heading s.explanation) ++ "\n" ++ closing

/-- What a rejected command line is answered with. -/
def rejectionText (reason : Rejection) : String :=
  usage ++ programName ++ ": error: " ++ reason.message ++ "\n"

end PinnedRun.Options
