/-!
# Options of the command line

A `Switch` is an option of the command line. It has one or two spellings, and some switches take a
value. `Arguments` is what a command line says in the end; a `Rejection` is why it says nothing.

* `Switch.ofSpelling?` finds the switch with a spelling;
* `Arguments.apply` enters one occurrence of a switch; a later occurrence replaces an earlier one.
-/

namespace PinnedRun.Options

/-- The options. -/
inductive Switch where
  | help
  | baseUrl
  | branch
  | filePath
  | output
  | abortOnFetchFailure
  | verbose
deriving Repr, DecidableEq

namespace Switch

/-- All options in the order in which they are listed. -/
def all : List Switch :=
  [help, baseUrl, branch, filePath, output, abortOnFetchFailure, verbose]

/-- The spellings of an option in the order in which they are shown. -/
def spellings : Switch → List String
  | help => ["-h", "--help"]
  | baseUrl => ["--base-url"]
  | branch => ["--branch"]
  | filePath => ["--file"]
  | output => ["--output", "-o"]
  | abortOnFetchFailure => ["--abort-on-fetch-failure"]
  | verbose => ["--verbose", "-v"]

/-- The name of the value that an option takes. -/
def placeholder? : Switch → Option String
  | baseUrl => some "BASE_URL"
  | branch => some "BRANCH"
  | filePath => some "FILE_PATH"
  | output => some "OUTPUT"
  | help | abortOnFetchFailure | verbose => none

/-- The option takes a value. -/
def takesValue (s : Switch) : Bool := s.placeholder?.isSome

/-- All spellings with their options, in the order in which they are listed. -/
def table : List (String × Switch) := all.flatMap fun s => s.spellings.map (·, s)

/-- The option with a spelling. -/
def ofSpelling? (spelling : String) : Option Switch :=
  (table.find? (·.1 = spelling)).map (·.2)

/-- The option as faults name it. -/
def title (s : Switch) : String := "/".intercalate s.spellings

end Switch

/-- A value given with an option. -/
inductive Value where
  | text (s : String)
  /-- The value was a lone double dash in one argument with its option, which is taken for the
  separator and removed. -/
  | removed
deriving Repr, DecidableEq

/-- The value that an argument gives, when it stands in one argument with its option. -/
def Value.ofAttached (s : String) : Value := if s = "--" then .removed else .text s

/-- What a command line says. -/
structure Arguments where
  baseUrl : Option Value := none
  branch : Option Value := none
  filePath : Option Value := none
  output : Option Value := none
  abortOnFetchFailure : Bool := false
  verbose : Bool := false
  command : List String := []
deriving Repr, DecidableEq

/-- One occurrence of a switch, with its value if it takes one. -/
abbrev Occurrence := Switch × Option Value

/-- Enters an occurrence of a switch. -/
def Arguments.apply (a : Arguments) : Occurrence → Arguments
  | (.baseUrl, value) => { a with baseUrl := value }
  | (.branch, value) => { a with branch := value }
  | (.filePath, value) => { a with filePath := value }
  | (.output, value) => { a with output := value }
  | (.abortOnFetchFailure, _) => { a with abortOnFetchFailure := true }
  | (.verbose, _) => { a with verbose := true }
  | (.help, _) => a

end PinnedRun.Options
