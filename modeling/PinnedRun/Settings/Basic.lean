import PinnedRun.Fault
import PinnedRun.Numeric.Binary64
import PinnedRun.Text.Split

/-!
# Settings of a run

`Settings` holds what a run is configured by: which file to fetch and where to, the test command,
whether a failed fetch ends the run, and the telemetry.

* `RemoteFile` is a file on a branch of a host that serves raw content, with its `url` and
  `basename`;
* `FetchSettings.remoteFile` and `FetchSettings.destination` derive the file to fetch and the local
  name from the settings, or say which part is missing.
-/

namespace PinnedRun

open Numeric (Binary64)

/-- A file on a branch of a host that serves raw content. -/
structure RemoteFile where
  baseUrl : String
  branch : String
  filePath : String
deriving Repr, DecidableEq

namespace RemoteFile

/-- The address of the file: its three parts with slashes between, taken verbatim. -/
def url (f : RemoteFile) : String := f.baseUrl ++ "/" ++ f.branch ++ "/" ++ f.filePath

/-- The part of the file path behind its last slash. -/
def basename (f : RemoteFile) : String := String.ofList (Text.afterLast '/' f.filePath.toList)

/-- What is said of an attempt to change a part of a file; no part can be changed, nor one added. -/
def changeRefusal (part : String) : String := "cannot assign to field " ++ Text.quoted part

end RemoteFile

/-- Which file to fetch, where to, and how. -/
structure FetchSettings where
  baseUrl : String := "https://raw.githubusercontent.com/EmbarkStudios/rust-gpu"
  branch : String := "main"
  filePath : String := "rust-toolchain"
  output : Option String := none
  timeout : Option Binary64 := none
  verifyTls : Bool := true
deriving DecidableEq

namespace FetchSettings

/-- The file to fetch; the first part that is empty is reported. -/
def remoteFile (s : FetchSettings) : Except Unusable RemoteFile :=
  if s.baseUrl = "" then .error .emptyBaseUrl
  else if s.branch = "" then .error .emptyBranch
  else if s.filePath = "" then .error .emptyFilePath
  else .ok ⟨s.baseUrl, s.branch, s.filePath⟩

/-- The local name: the output if one is given, else the basename of the file. -/
def destination (s : FetchSettings) : Except Unusable String :=
  match s.output.filter (· ≠ "") with
  | some output => .ok output
  | none =>
    s.remoteFile.bind fun file =>
      if file.basename = "" then .error (.noLocalName s.filePath) else .ok file.basename

end FetchSettings

/-- What telemetry reports and where to. -/
structure TelemetrySettings where
  enabled : Bool := false
  serviceName : String := "toolchain-runner"
  endpoint : Option String := none
  resourceAttributes : Option String := none
  instrumentRequests : Bool := true
  insecure : Bool := true
deriving Repr, DecidableEq

/-- The endpoint to export to, if it is not empty. -/
def TelemetrySettings.endpoint? (s : TelemetrySettings) : Option String :=
  s.endpoint.filter (· ≠ "")

/-- The command that runs unless another one is set. -/
def defaultCommand : List String := ["cargo", "test"]

/-- What a run is configured by. -/
structure Settings where
  fetch : FetchSettings := {}
  command : List String := defaultCommand
  abortOnFetchFailure : Bool := false
  telemetry : TelemetrySettings := {}
deriving DecidableEq

end PinnedRun
