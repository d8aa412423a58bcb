import PinnedRun.Options.Rejection
import PinnedRun.Text.DecimalDigit
import PinnedRun.Text.Split

/-!
# What an argument is

Before a command line is read, each argument up to the first double dash is classified by itself.
It is an option if it is a spelling, or a spelling with a value behind an equals sign, or the
beginning of exactly one long spelling, or a short spelling with something attached to it. A text
without leading dash is a word, and so are a lone dash, a negative number and a text with a space.
Anything else with a leading dash is unknown. The beginning of several long spellings is rejected.

* `Token.ofArgument` classifies one argument;
* `Token.ofCommandLine` classifies all of them: from the double dash on, all are words.
-/

namespace PinnedRun.Options

open PinnedRun.Text

/-- What an argument is. -/
inductive Token where
  | word
  /-- The double dash after which all arguments are words. -/
  | separator
  /-- An option as it is spelled out, with a value if one is attached. -/
  | option (switch : Switch) (spelling : String) (attached : Option String)
  /-- It looks like an option and is none. -/
  | unknown
deriving Repr, DecidableEq

namespace Token

/-- Digits in one or more places and nothing else. -/
def isDigits (cs : List Char) : Bool := !cs.isEmpty && cs.all isDecimalDigit

/-- The text without the line feed that it may end with. -/
def dropFinalNewline (cs : List Char) : List Char :=
  if cs.getLast? = some '\n' then cs.dropLast else cs

/-- A minus sign, digits, and maybe a point with digits behind it; a final line feed counts for
nothing. -/
def isNegativeNumber : List Char → Bool
  | '-' :: rest =>
    let body := dropFinalNewline rest
    isDigits body ||
      match body.dropWhile isDecimalDigit with
      | '.' :: places => isDigits places
      | _ => false
  | _ => false

/-- The spellings that an argument may mean without being one, each with the value attached. A
long one may be cut short; a short one may have its value attached. -/
def abbreviations (argument : List Char) : List (Switch × String × Option String) :=
  match argument with
  | '-' :: '-' :: _ =>
    let (start, attached) :=
      match cutFirst? '=' argument with
      | some (start, value) => (start, some (String.ofList value))
      | none => (argument, none)
    (Switch.table.filter fun e => start.isPrefixOf e.1.toList).map fun e => (e.2, e.1, attached)
  | '-' :: c :: rest =>
    (Switch.table.filter fun e => e.1.toList = ['-', c]).map fun e =>
      (e.2, e.1, some (String.ofList rest))
  | _ => []

/-- The spelling before the equals sign of an argument, with the value behind it. -/
def spelledWithValue? (argument : List Char) : Option Token :=
  match cutFirst? '=' argument with
  | none => none
  | some (spelling, value) =>
    (Switch.ofSpelling? (String.ofList spelling)).map fun s =>
      .option s (String.ofList spelling) (some (String.ofList value))

/-- What an argument with a leading dash is that is no spelling, with or without a value. -/
def ofAbbreviation (argument : String) : Except Rejection Token :=
  match abbreviations argument.toList with
  | [(s, spelling, attached)] => .ok (.option s spelling attached)
  | [] =>
    if isNegativeNumber argument.toList ∨ ' ' ∈ argument.toList then .ok .word else .ok .unknown
  | several => .error (.ambiguous argument (several.map (·.2.1)))

/-- What an argument is by itself. -/
def ofArgument (argument : String) : Except Rejection Token :=
  match argument.toList with
  | '-' :: rest =>
    match Switch.ofSpelling? argument with
    | some s => .ok (.option s argument none)
    | none =>
      if rest = [] then .ok .word
      else
        match spelledWithValue? argument.toList with
        | some token => .ok token
        | none => ofAbbreviation argument
  | _ => .ok .word

/-- The arguments with what they are. -/
def ofCommandLine : List String → Except Rejection (List (String × Token))
  | [] => .ok []
  | argument :: rest =>
    if argument = "--" then .ok ((argument, .separator) :: rest.map (·, .word))
    else
      (ofArgument argument).bind fun token =>
        (ofCommandLine rest).map ((argument, token) :: ·)

end Token

end PinnedRun.Options
