import PinnedRun.Keyed

/-!
# Volumes

A volume is a tree of directories and files with a working directory, its *home*. A location is
the list of names that lead from the root to an entry; the root itself is always a directory.

* `lookup` is the view through which a volume is read, and `lookup_put` says what `put` does to it;
* `makeDirectories` adds the directories that are missing on the way to a location;
* `files` and `directories` list what lies below the home;
* `WellFormed` says that every entry lies in a directory and that no location has two entries.
-/

namespace PinnedRun

/-- The names from the root to an entry. -/
abbrev Location := List String

/-- Contents are compared byte by byte. -/
instance decidableEqContent : DecidableEq ByteArray := ByteArray.decEq

/-- What a location can hold. -/
inductive Node where
  | directory
  | file (content : ByteArray)
deriving DecidableEq

/-- A tree of directories and files with a working directory. -/
structure Volume where
  home : Location
  entries : List (Location × Node)
deriving DecidableEq

namespace Volume

/-- What a location holds. -/
def lookup (v : Volume) (l : Location) : Option Node :=
  if l = [] then some .directory else (v.entries.find? (·.1 = l)).map (·.2)

/-- Replaces what a location holds. -/
def put (v : Volume) (l : Location) (n : Node) : Volume :=
  { v with entries := (l, n) :: v.entries.filter (·.1 ≠ l) }

/-- Only the location that is put changes. -/
theorem lookup_put (v : Volume) {l : Location} (hl : l ≠ []) (n : Node) (m : Location) :
    (v.put l n).lookup m = if m = l then some n else v.lookup m := by
  by_cases hm : m = l
  · subst hm
    simp [lookup, put, hl]
  · simp only [lookup, put, hm, if_false, List.find?_cons, Ne.symm hm, decide_false]
    split
    · rfl
    · exact congrArg _ (Keyed.find?_filter_ne hm)

/-- Adds the directories that are missing from a location along some names. -/
def makeDirectories (v : Volume) (base : Location) : List String → Volume
  | [] => v
  | name :: names =>
    let l := base ++ [name]
    (if (v.lookup l).isNone then v.put l .directory else v).makeDirectories l names

/-- The volume that holds nothing but its home. -/
def bare (home : Location) : Volume := (⟨home, []⟩ : Volume).makeDirectories [] home

/-- Adds a directory below the home, with those on the way to it. -/
def addDirectory (v : Volume) (names : List String) : Volume := v.makeDirectories v.home names

/-- Adds a file below the home, with the directories on the way to it. -/
def addFile (v : Volume) (names : List String) (content : ByteArray) : Volume :=
  (v.makeDirectories v.home names.dropLast).put (v.home ++ names) (.file content)

/-- The names from the home to a location properly below it. -/
def belowHome? (v : Volume) (l : Location) : Option (List String) :=
  (v.home.isPrefixOf? l).filter (! ·.isEmpty)

/-- The files below the home. -/
def files (v : Volume) : List (List String × ByteArray) :=
  v.entries.filterMap fun
    | (l, .file content) => (v.belowHome? l).map (·, content)
    | (_, .directory) => none

/-- The directories below the home. -/
def directories (v : Volume) : List (List String) :=
  v.entries.filterMap fun
    | (l, .directory) => v.belowHome? l
    | (_, .file _) => none

/-- Every entry lies in a directory, the home is a directory, and no location has two entries. -/
structure WellFormed (v : Volume) : Prop where
  parent : ∀ l name node, v.lookup (l ++ [name]) = some node → v.lookup l = some .directory
  home : v.lookup v.home = some .directory
  unique : (v.entries.map (·.1)).Nodup

end Volume

end PinnedRun
