import PinnedRun.Action
import PinnedRun.Numeric.FixedPlaces
import PinnedRun.Volume.Write

/-!
# Fetching a file

A fetch asks the server once and, if the answer is a success, writes the body as a whole. It fails
before it asks if the address or the destination is empty. A failed request, an answer that is no
success, and a refused write come out as a fault of the fetch that names the address; what the
server answered tells which of them it was. Any other fault comes out as it is.

* `Fetch.contact` asks the server, `Fetch.store` writes the body;
* `Fetch.fetch` does the whole.
-/

namespace PinnedRun

open Numeric (Binary64)

/-- A local file as it is named: by a text or by a path. -/
inductive Destination where
  | text (s : String)
  | path (p : Path)
deriving DecidableEq

namespace Destination

/-- The path that is named. -/
def toPath : Destination → Path
  | text s => .ofText s
  | path p => p

/-- The empty text; a path is never empty, since it is written as a dot at least. -/
def isEmpty : Destination → Bool
  | text s => s = ""
  | path _ => false

end Destination

/-- What a fetch has done. -/
structure FetchResult where
  url : String
  destination : Path
  bytesWritten : Nat
  status : Int
  durationMs : Binary64
deriving DecidableEq

/-- The milliseconds between two readings of the clock. -/
def elapsedMs (start stop : Binary64) : Binary64 := (stop.sub start).times 1000

namespace Fetch

open PinnedRun.Action

/-- An answer that is a success. -/
def isSuccess (status : Int) : Bool := 200 ≤ status && status < 300

/-- The fault of a fetch that got no answer. -/
def unansweredFault (url : String) (cause : Fault) : Fault :=
  .fetch ("Could not fetch " ++ url ++ ": " ++ cause.message) url none

/-- The fault of a fetch whose answer was no success. -/
def statusFault (url : String) (status : Int) : Fault :=
  .fetch ("Could not fetch " ++ url ++ ": HTTP " ++ toString status) url (some status)

/-- The fault of a fetch whose file could not be written. -/
def unwrittenFault (url : String) (status : Int) (path : Path) (cause : Fault) : Fault :=
  .fetch ("Could not write " ++ path.toText ++ ": " ++ cause.message) url (some status)

/-- A fault of the request that counts as one of the fetch. -/
def isContactFault (f : Fault) : Bool := f.isRequest || f.isUnusable

/-- Asks the server. -/
def contact (s : FetchSettings) (url : String) : Action World Response :=
  (request url s.timeout s.verifyTls).handle fun e =>
    if isContactFault e.fault then do
      log .error .fetcher ("Fetch failed: " ++ e.fault.headline)
      fail ⟨unansweredFault url e.fault, some e.fault⟩
    else fail e

/-- Writes a file on the volume. -/
def writeFile (path : Path) (content : ByteArray) : Action World Unit := fun w =>
  match w.volume.write path content with
  | .ok volume => (.ok (), { w with volume := volume })
  | .error fault => (.error ⟨fault, none⟩, w)

/-- Writes the body of an answer. -/
def store (url : String) (path : Path) (response : Response) : Action World Unit :=
  (writeFile path response.body).handle fun e =>
    if e.fault.isSystem then do
      log .error .fetcher ("Could not write " ++ path.toText ++ ": " ++ e.fault.message)
      fail ⟨unwrittenFault url response.status path e.fault, some e.fault⟩
    else fail e

/-- Takes in an answer: the body of a success is written. -/
def accept (url : String) (path : Path) (start : Binary64) (response : Response) :
    Action World FetchResult :=
  if isSuccess response.status then do
    store url path response
    let stop ← now
    let duration := elapsedMs start stop
    log .debug .fetcher
      ("Wrote " ++ toString response.body.size ++ " bytes to " ++ path.toText ++ " in " ++
        Numeric.fixedPlaces 2 duration ++ "ms")
    pure ⟨url, path, response.body.size, response.status, duration⟩
  else do
    log .error .fetcher ("Fetch failed: HTTP " ++ toString response.status ++ " for " ++ url)
    fail ⟨statusFault url response.status, none⟩

/-- Fetches a file that has an address to a path. -/
def fetchTo (s : FetchSettings) (url : String) (path : Path) : Action World FetchResult := do
  let start ← now
  log .info .fetcher ("Fetching " ++ url ++ " -> " ++ path.toText)
  let response ← contact s url
  accept url path start response

/-- Fetches a file. -/
def fetch (s : FetchSettings) (url : String) (destination : Destination) :
    Action World FetchResult :=
  if url = "" then fail ⟨.unusable .emptyUrl, none⟩
  else if destination.isEmpty then fail ⟨.unusable .emptyDestination, none⟩
  else fetchTo s url destination.toPath

end Fetch

end PinnedRun
