import PinnedRun.Fault
import PinnedRun.Path
import PinnedRun.Volume.Basic

/-!
# Writing a file

A path is resolved name by name. Going on from a location needs a directory there; a double dot
leads to the parent, and the root is its own parent. A name takes up to 255 bytes and a path less
than 4096. The last location may hold a file or nothing, but no directory.

* `Volume.target` is the location that a path resolves to, or why it resolves to none;
* `Volume.write` replaces what stands there by a file, as a whole.
-/

namespace PinnedRun

/-- Why a path cannot be written to. -/
inductive Refusal where
  | missing
  | notDirectory
  | isDirectory
  | nameTooLong
deriving Repr, DecidableEq

/-- The fault that reports a refusal for a path. -/
def Refusal.fault (path : String) : Refusal → SystemFault
  | missing => .numbered 2 "No such file or directory" path
  | notDirectory => .numbered 20 "Not a directory" path
  | isDirectory => .numbered 21 "Is a directory" path
  | nameTooLong => .numbered 36 "File name too long" path

namespace Volume

/-- The longest name in bytes. -/
def nameLimit : Nat := 255

/-- The number of bytes from which on a path is too long. -/
def pathLimit : Nat := 4096

/-- One name further from a location. -/
def step (v : Volume) (here : Location) (name : String) : Except Refusal Location :=
  match v.lookup here with
  | none => .error .missing
  | some (.file _) => .error .notDirectory
  | some .directory =>
    if name = ".." then .ok here.dropLast
    else if nameLimit < name.utf8ByteSize then .error .nameTooLong
    else .ok (here ++ [name])

/-- All names in turn from a location. -/
def walk (v : Volume) (here : Location) : List String → Except Refusal Location
  | [] => .ok here
  | name :: names => (v.step here name).bind (v.walk · names)

/-- The location where a path starts. -/
def startOf (v : Volume) : Path.Start → Location
  | .here => v.home
  | .root | .doubleRoot => []

/-- The location that a path resolves to for writing. -/
def target (v : Volume) (p : Path) : Except Refusal Location :=
  if pathLimit ≤ p.toText.utf8ByteSize then .error .nameTooLong
  else
    (v.walk (v.startOf p.start) p.names).bind fun l =>
      if v.lookup l = some .directory then .error .isDirectory else .ok l

/-- The volume after a path has been written, or the fault that leaves it as it is. -/
def write (v : Volume) (p : Path) (content : ByteArray) : Except Fault Volume :=
  if '\x00' ∈ p.toText.toList then .error (.unusable .embeddedNul)
  else
    match v.target p with
    | .ok l => .ok (v.put l (.file content))
    | .error refusal => .error (.system (refusal.fault p.toText))

end Volume

end PinnedRun
