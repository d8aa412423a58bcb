import PinnedRun.Text.Quoted
import PinnedRun.Shell.Words

/-!
# Faults

`Fault` lists what can go wrong, as causes: unusable values, refusals of the operating system,
failed requests, an interrupt of the user, and the three faults of the run's own steps.

* `Fault.message` is the text and `Fault.className` the word for the kind of fault;
* `isSystem`, `isRequest`, `isUnusable` and `isStep` place a fault in the overlapping families that
  the steps tell apart; every fault but `interrupt` is an ordinary one (`isOrdinary`);
* `Failure` is a fault on its way out of an action, with the fault that led to it.
-/

namespace PinnedRun

/-- Values that cannot be used. -/
inductive Unusable where
  | emptyUrl
  | emptyDestination
  | emptyBaseUrl
  | emptyBranch
  | emptyFilePath
  | noLocalName (filePath : String)
  | emptyCommand
  | unsplittable (fault : Shell.SplitFault)
  | embeddedNul
  | other (message : String)
deriving Repr, DecidableEq

/-- The text of the fault. -/
def Unusable.message : Unusable → String
  | emptyUrl => "url must not be empty"
  | emptyDestination => "destination must not be empty"
  | emptyBaseUrl => "Toolchain base URL must not be empty"
  | emptyBranch => "Toolchain branch must not be empty"
  | emptyFilePath => "Toolchain file path must not be empty"
  | noLocalName filePath => "Cannot derive a local file name from " ++ Text.quoted filePath
  | emptyCommand => "Test command must not be empty"
  | unsplittable fault => fault.message
  | embeddedNul => "embedded null byte"
  | other message => message

/-- Refusals of the operating system: with a number, a text and maybe the file concerned, or as a
text only. -/
inductive SystemFault where
  | numbered (number : Int) (text : String) (file : Option String)
  | plain (message : String)
deriving Repr, DecidableEq

namespace SystemFault

/-- The text of the fault. -/
def message : SystemFault → String
  | numbered number text none => "[Errno " ++ toString number ++ "] " ++ text
  | numbered number text (some file) =>
    "[Errno " ++ toString number ++ "] " ++ text ++ ": " ++ Text.quoted file
  | plain message => message

/-- The word for the kind of refusal, by its number. -/
def className : SystemFault → String
  | numbered 1 _ _ | numbered 13 _ _ => "PermissionError"
  | numbered 2 _ _ => "FileNotFoundError"
  | numbered 3 _ _ => "ProcessLookupError"
  | numbered 4 _ _ => "InterruptedError"
  | numbered 10 _ _ => "ChildProcessError"
  | numbered 11 _ _ | numbered 114 _ _ | numbered 115 _ _ => "BlockingIOError"
  | numbered 17 _ _ => "FileExistsError"
  | numbered 20 _ _ => "NotADirectoryError"
  | numbered 21 _ _ => "IsADirectoryError"
  | numbered 32 _ _ | numbered 108 _ _ => "BrokenPipeError"
  | numbered 103 _ _ => "ConnectionAbortedError"
  | numbered 104 _ _ => "ConnectionResetError"
  | numbered 110 _ _ => "TimeoutError"
  | numbered 111 _ _ => "ConnectionRefusedError"
  | _ => "OSError"

/-- The refusal says that a file does not exist. -/
def isMissingFile : SystemFault → Bool
  | numbered number _ _ => number == 2
  | plain _ => false

end SystemFault

/-- Kinds of failed requests. -/
inductive RequestFault where
  | general
  | connection
  | timeout
  | connectTimeout
  | readTimeout
  | secureChannel
  | proxy
  | status
  | tooManyRedirects
  | invalidUrl
  | missingScheme
  | invalidScheme
  | chunkedEncoding
  | contentDecoding
deriving Repr, DecidableEq

/-- The word for the kind of failed request. -/
def RequestFault.className : RequestFault → String
  | general => "RequestException"
  | connection => "ConnectionError"
  | timeout => "Timeout"
  | connectTimeout => "ConnectTimeout"
  | readTimeout => "ReadTimeout"
  | secureChannel => "SSLError"
  | proxy => "ProxyError"
  | status => "HTTPError"
  | tooManyRedirects => "TooManyRedirects"
  | invalidUrl => "InvalidURL"
  | missingScheme => "MissingSchema"
  | invalidScheme => "InvalidSchema"
  | chunkedEncoding => "ChunkedEncodingError"
  | contentDecoding => "ContentDecodingError"

/-- The request failed because its address cannot be used. -/
def RequestFault.isAddressFault : RequestFault → Bool
  | invalidUrl | missingScheme | invalidScheme => true
  | _ => false

/-- What can go wrong. -/
inductive Fault where
  /-- A value that cannot be used. -/
  | unusable (reason : Unusable)
  /-- A text that cannot be encoded; it counts as unusable. -/
  | encoding (message : String)
  /-- A value of the wrong type. -/
  | wrongType (message : String)
  /-- An operation out of turn, or any other fault of the program. -/
  | runtime (message : String)
  /-- A refusal of the operating system. -/
  | system (fault : SystemFault)
  /-- A failed request; it counts as a refusal of the system too. -/
  | request (kind : RequestFault) (message : String)
  /-- The user's interrupt. -/
  | interrupt (message : String)
  /-- A fault of a step without further data. -/
  | step (message : String)
  /-- The pinned file could not be fetched or written; `status` is the server's answer, if any. -/
  | fetch (message url : String) (status : Option Int)
  /-- The command could not be started; `exitCode` is what a shell would report. -/
  | launch (message : String) (command : List String) (exitCode : Int)
deriving Repr, DecidableEq

namespace Fault

/-- The text of the fault. -/
def message : Fault → String
  | unusable reason => reason.message
  | system fault => fault.message
  | request _ message => message
  | fetch message _ _ => message
  | launch message _ _ => message
  | encoding message | wrongType message | runtime message | interrupt message | step message =>
    message

/-- The word for the kind of fault. -/
def className : Fault → String
  | unusable _ => "ValueError"
  | encoding _ => "UnicodeError"
  | wrongType _ => "TypeError"
  | runtime _ => "RuntimeError"
  | system fault => fault.className
  | request kind _ => kind.className
  | interrupt _ => "KeyboardInterrupt"
  | step _ => "ProcessError"
  | fetch _ _ _ => "FetchError"
  | launch _ _ _ => "LaunchError"

/-- The word for the kind of fault with the package that defines it. -/
def qualifiedName : Fault → String
  | request kind _ => "requests.exceptions." ++ kind.className
  | f@(step _) | f@(fetch _ _ _) | f@(launch _ _ _) => "toolchain_runner.errors." ++ f.className
  | f => f.className

/-- A failed request. -/
def isRequest : Fault → Bool
  | request _ _ => true
  | _ => false

/-- An unusable value; an address that a request fails by is one. -/
def isUnusable : Fault → Bool
  | unusable _ | encoding _ => true
  | request kind _ => kind.isAddressFault
  | _ => false

/-- A refusal of the system; a failed request is one. -/
def isSystem : Fault → Bool
  | system _ | request _ _ => true
  | _ => false

/-- A refusal because a file does not exist. -/
def isMissingFile : Fault → Bool
  | system fault => fault.isMissingFile
  | _ => false

/-- A fault of the fetch. -/
def isFetch : Fault → Bool
  | fetch _ _ _ => true
  | _ => false

/-- A fault of one of the run's steps. -/
def isStep : Fault → Bool
  | step _ | fetch _ _ _ | launch _ _ _ => true
  | _ => false

/-- The user's interrupt. -/
def isInterrupt : Fault → Bool
  | interrupt _ => true
  | _ => false

/-- Every fault except the user's interrupt. -/
def isOrdinary : Fault → Bool
  | interrupt _ => false
  | _ => true

/-- The text by which a trace names the fault. -/
def headline (f : Fault) : String := f.className ++ ": " ++ f.message

end Fault

/-- A fault on its way out of an action. `cause` is the fault that was met first, where the one
that comes out was made from it. -/
structure Failure where
  fault : Fault
  cause : Option Fault := none
deriving Repr, DecidableEq

end PinnedRun
