/-!
# Shell words

A command line is split into words the way a shell does it. Words are separated by spaces, tabs,
carriage returns and line feeds. A backslash makes the next character ordinary, single quotes do
so with everything up to the next single quote, and between double quotes a backslash counts only
before a double quote or another backslash. A pair of quotes makes a word even if nothing stands
between.

* `Words.scan` reads a command line from inside one of the six reading states; in the states that
  are inside a word the head of the result is the rest of that word;
* `Words.split` reads from between two words; a line with more than separators has a word
  (`split_ne_nil`).
-/

namespace PinnedRun.Shell

/-- Why a command line has no words. -/
inductive SplitFault where
  /-- The line ends inside quotes. -/
  | unclosedQuote
  /-- The line ends after a backslash. -/
  | unfinishedEscape
deriving Repr, DecidableEq

namespace SplitFault

/-- The text of the fault. -/
def message : SplitFault → String
  | unclosedQuote => "No closing quotation"
  | unfinishedEscape => "No escaped character"

end SplitFault

/-- The characters that separate words. -/
def isSeparator (c : Char) : Bool := c = ' ' || c = '\t' || c = '\r' || c = '\n'

namespace Words

/-- Where the reading stands. -/
inductive State where
  /-- Between two words. -/
  | between
  /-- In a word, outside quotes. -/
  | inWord
  /-- Between single quotes. -/
  | inSingle
  /-- Between double quotes. -/
  | inDouble
  /-- After a backslash outside quotes. -/
  | escaped
  /-- After a backslash between double quotes. -/
  | escapedInDouble
deriving Repr, DecidableEq

/-- Puts a character in front of the first word. -/
def push (c : Char) : List (List Char) → List (List Char)
  | [] => [[c]]
  | w :: ws => (c :: w) :: ws

/-- The words of the rest of a line. -/
def scan : State → List Char → Except SplitFault (List (List Char))
  | .between, [] => .ok []
  | .between, c :: cs =>
    if isSeparator c then scan .between cs
    else if c = '\\' then scan .escaped cs
    else if c = '\'' then scan .inSingle cs
    else if c = '"' then scan .inDouble cs
    else (scan .inWord cs).map (push c)
  | .inWord, [] => .ok [[]]
  | .inWord, c :: cs =>
    if isSeparator c then (scan .between cs).map ([] :: ·)
    else if c = '\\' then scan .escaped cs
    else if c = '\'' then scan .inSingle cs
    else if c = '"' then scan .inDouble cs
    else (scan .inWord cs).map (push c)
  | .inSingle, [] => .error .unclosedQuote
  | .inSingle, c :: cs =>
    if c = '\'' then scan .inWord cs else (scan .inSingle cs).map (push c)
  | .inDouble, [] => .error .unclosedQuote
  | .inDouble, c :: cs =>
    if c = '"' then scan .inWord cs
    else if c = '\\' then scan .escapedInDouble cs
    else (scan .inDouble cs).map (push c)
  | .escaped, [] => .error .unfinishedEscape
  | .escaped, c :: cs => (scan .inWord cs).map (push c)
  | .escapedInDouble, [] => .error .unfinishedEscape
  | .escapedInDouble, c :: cs =>
    if c = '"' ∨ c = '\\' then (scan .inDouble cs).map (push c)
    else (scan .inDouble cs).map fun ws => push '\\' (push c ws)

/-- The words of a command line. -/
def split (line : String) : Except SplitFault (List String) :=
  (scan .between line.toList).map (·.map String.ofList)

/-! ### Lines with words -/

theorem push_ne_nil (c : Char) (ws : List (List Char)) : push c ws ≠ [] := by
  cases ws <;> simp [push]

theorem ne_nil_of_map {x : Except SplitFault (List (List Char))}
    {f : List (List Char) → List (List Char)} {ws : List (List Char)} (hf : ∀ us, f us ≠ [])
    (h : x.map f = .ok ws) : ws ≠ [] := by
  cases x with
  | error fault => cases h
  | ok us =>
    obtain rfl : f us = ws := Except.ok.inj h
    exact hf us

/-- What is read from inside a word has the rest of that word at its head. -/
theorem scan_ne_nil {state : State} (hs : state ≠ .between) {cs : List Char}
    {ws : List (List Char)} (h : scan state cs = .ok ws) : ws ≠ [] := by
  induction cs generalizing state ws with
  | nil => cases state <;> simp_all [scan, eq_comm]
  | cons c cs ih =>
    -- the rest is read from inside the same word, or the word at its head is a new one
    have inside : ∀ st, st ≠ .between → scan st cs = .ok ws → ws ≠ [] := fun _ hs h => ih hs h
    have pushed : ∀ d st, (scan st cs).map (push d) = .ok ws → ws ≠ [] :=
      fun d _ h => ne_nil_of_map (push_ne_nil d) h
    cases state with
    | between => exact absurd rfl hs
    | inWord =>
      have ended : ∀ st, (scan st cs).map ([] :: ·) = .ok ws → ws ≠ [] :=
        fun _ h => ne_nil_of_map (fun us => List.cons_ne_nil _ us) h
      grind [scan]
    | inSingle | inDouble | escaped => grind [scan]
    | escapedInDouble =>
      have kept : ∀ st, ((scan st cs).map fun us => push '\\' (push c us)) = .ok ws → ws ≠ [] :=
        fun _ h => ne_nil_of_map (fun us => push_ne_nil _ _) h
      grind [scan]

theorem scan_between_ne_nil {cs : List Char} {ws : List (List Char)}
    (h : scan .between cs = .ok ws) {c : Char} (hc : c ∈ cs) (hs : isSeparator c = false) :
    ws ≠ [] := by
  induction cs with
  | nil => cases hc
  | cons d cs ih =>
    simp only [scan] at h
    split at h
    · -- the character that counts stands further on
      rename_i hd
      rcases List.mem_cons.1 hc with rfl | hc
      · exact absurd hd (by simp [hs])
      · exact ih h hc
    · split at h
      · exact scan_ne_nil (by simp) h
      · split at h
        · exact scan_ne_nil (by simp) h
        · split at h
          · exact scan_ne_nil (by simp) h
          · exact ne_nil_of_map (push_ne_nil d) h

/-- A line that holds more than separators splits into at least one word. -/
theorem split_ne_nil {line : String} {ws : List String} (h : split line = .ok ws) {c : Char}
    (hc : c ∈ line.toList) (hs : isSeparator c = false) : ws ≠ [] := by
  unfold split at h
  cases hscan : scan .between line.toList with
  | error fault => rw [hscan] at h; cases h
  | ok us =>
    rw [hscan] at h
    obtain rfl : us.map String.ofList = ws := Except.ok.inj h
    simpa using scan_between_ne_nil hscan hc hs

end Words

end PinnedRun.Shell
