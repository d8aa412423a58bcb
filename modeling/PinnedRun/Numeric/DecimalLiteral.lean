import PinnedRun.Text.Blank
import PinnedRun.Text.DecimalDigit
import PinnedRun.Numeric.Binary64

/-!
# Numbers written as text

A decimal literal is a sign, digits with an optional point, and an optional exponent. Single
underscores may stand between two digits, and the digits may be of any script. Beside literals
the words `inf`, `infinity` and `nan` are numbers, in any case of their letters.

* `DecimalLiteral.value` is the exact rational that a literal denotes;
* `DecimalLiteral.nearest` is the double nearest to it, found without writing out a power of ten
  that is far out of range;
* `NumberText.read?` reads a text, with the blanks around it removed.
-/

namespace PinnedRun.Numeric

open PinnedRun.Text

/-- Digits, most significant first, and the power of ten that the last one counts. -/
structure DecimalLiteral where
  digits : List Nat
  exponent : Int
deriving Repr, DecidableEq

/-- The number that digits denote, most significant first. -/
def ofDigits (digits : List Nat) : Nat := digits.foldl (fun n d => 10 * n + d) 0

namespace DecimalLiteral

/-- The exact value. -/
def value (l : DecimalLiteral) : Rat :=
  mkRat (ofDigits l.digits * Nat.pow 10 l.exponent.toNat) (Nat.pow 10 (-l.exponent).toNat)

/-- The count of digits before the point once the literal is written without exponent and without
leading zeros: a value other than zero is below ten to this power and not below a tenth of it. -/
def scale (l : DecimalLiteral) : Int := (l.digits.dropWhile (· == 0)).length + l.exponent

/-- The nearest double. A scale over 320 is beyond all finite doubles and one under -340 is closer
to zero than to any other. -/
def nearest (l : DecimalLiteral) : Binary64 :=
  if l.digits.all (· == 0) then .zero
  else if 320 < l.scale then .infinity false
  else if l.scale < -340 then .zero
  else .ofRat l.value

end DecimalLiteral

/-- What a text of a number says. -/
inductive NumberText where
  | decimal (negative : Bool) (literal : DecimalLiteral)
  | infinity (negative : Bool)
  | nan
deriving Repr, DecidableEq

namespace NumberText

/-- The double that is read. -/
def toBinary64 : NumberText → Binary64
  | .decimal negative literal => if negative then literal.nearest.neg else literal.nearest
  | .infinity negative => .infinity negative
  | .nan => .nan

/-! ### Reading -/

/-- Removes the underscores, each of which has to stand between two digits; `afterDigit` says that
a digit has just been read. -/
def ungroup (afterDigit : Bool) : List Char → Option (List Char)
  | [] => some []
  | '_' :: c :: rest =>
    if afterDigit && isDecimalDigit c then (ungroup true rest).map (c :: ·) else none
  | c :: rest => if c = '_' then none else (ungroup (isDecimalDigit c) rest).map (c :: ·)

/-- A sign in front, minus as `true`. -/
def readSign : List Char → Bool × List Char
  | '-' :: rest => (true, rest)
  | '+' :: rest => (false, rest)
  | cs => (false, cs)

/-- The digits in front, as numbers. -/
def leadingDigits (cs : List Char) : List Nat := (cs.takeWhile isDecimalDigit).filterMap digitValue?

/-- What follows the digits in front. -/
def afterDigits (cs : List Char) : List Char := cs.dropWhile isDecimalDigit

/-- An exponent that ends the text: nothing, or the letter, a sign and digits. -/
def readExponent? : List Char → Option Int
  | [] => some 0
  | c :: rest =>
    if c = 'e' ∨ c = 'E' then
      let (negative, cs) := readSign rest
      if cs.isEmpty || !(afterDigits cs).isEmpty then none
      else
        let n : Int := ofDigits (leadingDigits cs)
        some (if negative then -n else n)
    else none

/-- Digits behind a point, if there is one, and the rest. -/
def readFraction : List Char → List Nat × List Char
  | '.' :: rest => (leadingDigits rest, afterDigits rest)
  | cs => ([], cs)

/-- A literal without sign that takes the whole text. -/
def readLiteral? (cs : List Char) : Option DecimalLiteral :=
  let whole := leadingDigits cs
  let (fraction, rest) := readFraction (afterDigits cs)
  if whole.isEmpty && fraction.isEmpty then none
  else (readExponent? rest).map fun e => ⟨whole ++ fraction, e - fraction.length⟩

/-- The letters of the range `A` to `Z` in lower case. -/
def asciiLower (cs : List Char) : String := String.ofList (cs.map Char.toLower)

/-- The blanks that may surround a number: of the ASCII characters only the six ASCII blanks, and
all blanks beyond ASCII. -/
def isOuterBlank (c : Char) : Bool := if isAscii c then isAsciiBlank c else isBlank c

/-- A number without blanks around it. -/
def readTrimmed? (cs : List Char) : Option NumberText :=
  match ungroup false cs with
  | none => none
  | some plain =>
    let (negative, body) := readSign plain
    let word := asciiLower body
    if word = "inf" ∨ word = "infinity" then some (.infinity negative)
    else if word = "nan" then some .nan
    else (readLiteral? body).map (.decimal negative)

/-- The number that a text says, if it says one. -/
def read? (s : String) : Option NumberText :=
  readTrimmed? (trim isOuterBlank s.toList)

end NumberText

end PinnedRun.Numeric
