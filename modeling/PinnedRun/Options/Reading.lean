import PinnedRun.Options.Token

/-!
# Reading a command line

Options are read from left to right. The first argument that is not one begins the command, and
all that follows belongs to it. A short option without value may have further short ones attached
to it, up to one that takes the rest as its value.

* `cluster` spells out an option with something attached;
* `Arguments.enter` takes in what an argument spells, unless it asks for help;
* `read` reads the whole command line, with one of three outcomes.
-/

namespace PinnedRun.Options

/-- What comes of reading a command line. -/
inductive Outcome where
  | accepted (arguments : Arguments)
  | help
  | rejected (reason : Rejection)
deriving Repr, DecidableEq

/-- One or more options that an argument spells: all but the last take no value, and the value of
the last may be attached. -/
structure Cluster where
  flags : List Switch
  last : Switch
  attached : Option String
deriving Repr, DecidableEq

/-- Spells out an option with a text attached. -/
def cluster (switch : Switch) (isShort : Bool) : List Char → Except Rejection Cluster
  | [] =>
    if switch.takesValue then .ok ⟨[], switch, some ""⟩
    else .error (.needlessValue switch "")
  | c :: rest =>
    if switch.takesValue then .ok ⟨[], switch, some (String.ofList (c :: rest))⟩
    else if !isShort then .error (.needlessValue switch (String.ofList (c :: rest)))
    else
      match Switch.ofSpelling? (String.ofList ['-', c]) with
      | none => .error (.needlessValue switch (String.ofList (c :: rest)))
      | some next =>
        (if rest = [] then .ok ⟨[], next, none⟩ else cluster next true rest).map fun k =>
          { k with flags := switch :: k.flags }

/-- The options that an argument spells. -/
def Cluster.ofOption (switch : Switch) (spelling : String) :
    Option String → Except Rejection Cluster
  | none => .ok ⟨[], switch, none⟩
  | some value => cluster switch (spelling.toList.drop 1 |>.head? |>.any (· ≠ '-')) value.toList

/-- The last option still needs the next argument as its value. -/
def Cluster.needsValue (k : Cluster) : Bool := k.attached.isNone && k.last.takesValue

/-- The occurrences that a cluster stands for, given the value of its last option. -/
def Cluster.occurrences (k : Cluster) (value : Option Value) : List Occurrence :=
  k.flags.map (·, none) ++ [(k.last, value)]

/-- The arguments after some occurrences, unless one of them asks for help. -/
def Arguments.enter (arguments : Arguments) (occurrences : List Occurrence) : Option Arguments :=
  if occurrences.any (·.1 = .help) then none else some (occurrences.foldl .apply arguments)

/-- The end of reading: what looked like an option and was none is rejected together. -/
def finish (arguments : Arguments) (unknown command : List String) : Outcome :=
  if unknown = [] then .accepted { arguments with command := command }
  else .rejected (.unrecognized unknown)

/-- Reads classified arguments into what has been read so far. -/
def readFrom (arguments : Arguments) (unknown : List String) : List (String × Token) → Outcome
  | [] => finish arguments unknown []
  | (argument, .word) :: rest => finish arguments unknown (argument :: rest.map (·.1))
  | (argument, .separator) :: rest => finish arguments unknown (argument :: rest.map (·.1))
  | (argument, .unknown) :: rest => readFrom arguments (unknown ++ [argument]) rest
  | (_, .option switch spelling attached) :: rest =>
    match Cluster.ofOption switch spelling attached with
    | .error reason => .rejected reason
    | .ok k =>
      if k.needsValue then
        match rest with
        | (value, .word) :: rest =>
          match arguments.enter (k.occurrences (some (.text value))) with
          | none => .help
          | some arguments => readFrom arguments unknown rest
        | _ => .rejected (.missingValue k.last)
      else
        match arguments.enter (k.occurrences (k.attached.map .ofAttached)) with
        | none => .help
        | some arguments => readFrom arguments unknown rest

/-- Reads a command line. -/
def read (commandLine : List String) : Outcome :=
  match Token.ofCommandLine commandLine with
  | .error reason => .rejected reason
  | .ok tokens => readFrom {} [] tokens

end PinnedRun.Options
