import Mathlib.Data.List.Induction
import PinnedRun.Shell.Words

/-!
# The grammar of a command line

A line is a row of words with separators between them, before the first and behind the last. A word
is one or more parts in a row, and each part is written in one of four ways: an ordinary character,
a character behind a backslash, a stretch between single quotes, or one between double quotes.

* `DoubleQuoted`, `Part` and `Word` relate what is written to the text that it stands for, and
  `Line` relates a line to its words;
* `BreaksOff fault` holds of the lines that end too early: behind a backslash, or inside quotes.

Every line is in the grammar or breaks off (`line_or_breaksOff`). Both are recognised by reading, so
no line is in the grammar in two ways, and the grammar says exactly which words are read from a line
(`Words.split_eq_ok_iff`) and why there are none (`Words.split_eq_error_iff`).
-/

namespace PinnedRun.Shell

/-- A character that stands for itself outside quotes. -/
def IsOrdinary (c : Char) : Prop := isSeparator c = false ∧ c ≠ '\\' ∧ c ≠ '\'' ∧ c ≠ '"'

/-- What stands between double quotes, and its text. A backslash counts only before a double quote
or another backslash. -/
inductive DoubleQuoted : List Char → List Char → Prop
  | nil : DoubleQuoted [] []
  | plain {c : Char} {source text : List Char} (hq : c ≠ '"') (hb : c ≠ '\\')
    (h : DoubleQuoted source text) : DoubleQuoted (c :: source) (c :: text)
  | dropped {c : Char} {source text : List Char} (hc : c = '"' ∨ c = '\\')
    (h : DoubleQuoted source text) : DoubleQuoted ('\\' :: c :: source) (c :: text)
  | kept {c : Char} {source text : List Char} (hc : ¬(c = '"' ∨ c = '\\'))
    (h : DoubleQuoted source text) : DoubleQuoted ('\\' :: c :: source) ('\\' :: c :: text)

/-- A part of a word, and its text. -/
inductive Part : List Char → List Char → Prop
  | ordinary {c : Char} (h : IsOrdinary c) : Part [c] [c]
  | escaped (c : Char) : Part ['\\', c] [c]
  | single {text : List Char} (h : '\'' ∉ text) : Part ('\'' :: text ++ ['\'']) text
  | double {source text : List Char} (h : DoubleQuoted source text) :
    Part ('"' :: source ++ ['"']) text

/-- A word, and its text: one or more parts in a row. -/
inductive Word : List Char → List Char → Prop
  | part {source text : List Char} (h : Part source text) : Word source text
  | cons {source text sources texts : List Char} (h : Part source text)
    (hw : Word sources texts) : Word (source ++ sources) (text ++ texts)

/-- A line, and its words. -/
inductive Line : List Char → List (List Char) → Prop
  | nil : Line [] []
  | separator {c : Char} {rest : List Char} {words : List (List Char)}
    (hc : isSeparator c = true) (hl : Line rest words) : Line (c :: rest) words
  | last {source word : List Char} (hw : Word source word) : Line source [word]
  | cons {c : Char} {source word rest : List Char} {words : List (List Char)}
    (hw : Word source word) (hc : isSeparator c = true) (hl : Line rest words) :
    Line (source ++ c :: rest) (word :: words)

/-- A line that ends too early, and what is wrong with it. -/
inductive BreaksOff : SplitFault → List Char → Prop
  | escape {before : List Char} {words : List (List Char)} (hl : Line before words) :
    BreaksOff .unfinishedEscape (before ++ ['\\'])
  | escapeInDouble {before source text : List Char} {words : List (List Char)}
    (hl : Line before words) (hq : DoubleQuoted source text) :
    BreaksOff .unfinishedEscape (before ++ '"' :: source ++ ['\\'])
  | single {before text : List Char} {words : List (List Char)} (hl : Line before words)
    (ht : '\'' ∉ text) : BreaksOff .unclosedQuote (before ++ '\'' :: text)
  | double {before source text : List Char} {words : List (List Char)} (hl : Line before words)
    (hq : DoubleQuoted source text) : BreaksOff .unclosedQuote (before ++ '"' :: source)

variable {source text sources texts before cs : List Char} {words : List (List Char)} {c : Char}
  {fault : SplitFault}

theorem SplitFault.message_injective : Function.Injective SplitFault.message := by
  intro fault fault' h
  cases fault <;> cases fault' <;> first | rfl | exact absurd h (by decide)

/-! ### A line that goes on -/

theorem DoubleQuoted.append (h : DoubleQuoted source text) (h' : DoubleQuoted sources texts) :
    DoubleQuoted (source ++ sources) (text ++ texts) := by
  induction h with
  | nil => exact h'
  | plain hq hb _ ih => exact .plain hq hb ih
  | dropped hc _ ih => exact .dropped hc ih
  | kept hc _ ih => exact .kept hc ih

theorem DoubleQuoted.append_plain (h : DoubleQuoted source text) (hq : c ≠ '"') (hb : c ≠ '\\') :
    DoubleQuoted (source ++ [c]) (text ++ [c]) :=
  h.append (.plain hq hb .nil)

theorem DoubleQuoted.exists_append_escaped (h : DoubleQuoted source text) (c : Char) :
    ∃ text', DoubleQuoted (source ++ ['\\', c]) text' := by
  by_cases hc : c = '"' ∨ c = '\\'
  · exact ⟨_, h.append (.dropped hc .nil)⟩
  · exact ⟨_, h.append (.kept hc .nil)⟩

/-- A part does not begin with a separator. -/
theorem Part.exists_cons (h : Part source text) :
    ∃ c cs, source = c :: cs ∧ isSeparator c = false := by
  cases h with
  | ordinary h => exact ⟨_, _, rfl, h.1⟩
  | escaped | single | double => exact ⟨_, _, rfl, by decide⟩

theorem Word.exists_cons (h : Word source text) :
    ∃ c cs, source = c :: cs ∧ isSeparator c = false := by
  cases h with
  | part h => exact h.exists_cons
  | cons h =>
    obtain ⟨c, cs, rfl, hc⟩ := h.exists_cons
    exact ⟨c, _, rfl, hc⟩

theorem Word.append_part (h : Word source text) (hp : Part sources texts) :
    Word (source ++ sources) (text ++ texts) := by
  induction h with
  | part h => exact .cons h (.part hp)
  | cons h _ ih =>
    rw [List.append_assoc, List.append_assoc]
    exact .cons h ih

/-- A part behind a line makes its last word longer, or begins a new one. -/
theorem Line.append_part (h : Line before words) (hp : Part source text) :
    ∃ words', Line (before ++ source) words' := by
  induction h with
  | nil => exact ⟨_, .last (.part hp)⟩
  | separator hc _ ih =>
    obtain ⟨words', ih⟩ := ih
    exact ⟨_, .separator hc ih⟩
  | last hw => exact ⟨_, .last (hw.append_part hp)⟩
  | cons hw hc _ ih =>
    obtain ⟨words', ih⟩ := ih
    rw [List.append_assoc]
    exact ⟨_, .cons hw hc ih⟩

theorem Line.append_separator (h : Line before words) (hc : isSeparator c = true) :
    Line (before ++ [c]) words := by
  induction h with
  | nil => exact .separator hc .nil
  | separator hd _ ih => exact .separator hd ih
  | last hw => exact .cons hw hc .nil
  | cons hw hd _ ih =>
    rw [List.append_assoc]
    exact .cons hw hd ih

/-- What one more character makes of a line. -/
theorem Line.append_char (h : Line before words) (c : Char) :
    (∃ words', Line (before ++ [c]) words') ∨ ∃ fault, BreaksOff fault (before ++ [c]) := by
  by_cases hs : isSeparator c = true
  · exact .inl ⟨_, h.append_separator hs⟩
  by_cases hb : c = '\\'
  · subst hb
    exact .inr ⟨_, .escape h⟩
  by_cases hq : c = '\''
  · subst hq
    exact .inr ⟨_, .single h List.not_mem_nil⟩
  by_cases hd : c = '"'
  · subst hd
    exact .inr ⟨_, .double h .nil⟩
  · exact .inl (h.append_part (.ordinary ⟨Bool.eq_false_iff.mpr hs, hb, hq, hd⟩))

/-- What one more character makes of a line that breaks off. -/
theorem BreaksOff.append_char (h : BreaksOff fault before) (c : Char) :
    (∃ words', Line (before ++ [c]) words') ∨ ∃ fault', BreaksOff fault' (before ++ [c]) := by
  cases h with
  | escape hl =>
    rw [List.append_assoc]
    exact .inl (hl.append_part (.escaped c))
  | escapeInDouble hl hq =>
    obtain ⟨text', hq'⟩ := hq.exists_append_escaped c
    have h' := BreaksOff.double hl hq'
    exact .inr ⟨_, by simpa using h'⟩
  | @single before text _ hl ht =>
    by_cases hc : c = '\''
    · subst hc
      have h' := hl.append_part (.single ht)
      exact .inl (by simpa using h')
    · have ht' : '\'' ∉ text ++ [c] := by simp [ht, Ne.symm hc]
      have h' := BreaksOff.single hl ht'
      exact .inr ⟨_, by simpa using h'⟩
  | double hl hq =>
    by_cases hc : c = '"'
    · subst hc
      have h' := hl.append_part (.double hq)
      exact .inl (by simpa using h')
    by_cases hb : c = '\\'
    · subst hb
      exact .inr ⟨_, .escapeInDouble hl hq⟩
    · have h' := BreaksOff.double hl (hq.append_plain hc hb)
      exact .inr ⟨_, by simpa using h'⟩

/-- **Every line is in the grammar or breaks off.** -/
theorem line_or_breaksOff (cs : List Char) :
    (∃ words, Line cs words) ∨ ∃ fault, BreaksOff fault cs := by
  -- on the line from its end: one more character may open, close or go on with what was begun
  induction cs using List.reverseRecOn with
  | nil => exact .inl ⟨_, .nil⟩
  | append_singleton cs c ih =>
    obtain ⟨words, hl⟩ | ⟨fault, hb⟩ := ih
    · exact hl.append_char c
    · exact hb.append_char c

/-! ### Reading -/

namespace Words

/-- What is read, with a text in front of its first word. -/
def pushAll (text : List Char) (read : Except SplitFault (List (List Char))) :
    Except SplitFault (List (List Char)) :=
  read.map fun words => text.foldr push words

variable {read : Except SplitFault (List (List Char))}

theorem pushAll_nil : pushAll [] read = read := by
  cases read <;> rfl

theorem pushAll_cons (c : Char) (text : List Char) :
    pushAll (c :: text) read = (pushAll text read).map (push c) := by
  cases read <;> rfl

theorem pushAll_append (text texts : List Char) :
    pushAll (text ++ texts) read = pushAll text (pushAll texts read) := by
  cases read with
  | error fault => rfl
  | ok words => simp [pushAll, Except.map]

@[simp] theorem pushAll_error (text : List Char) : pushAll text (.error fault) = .error fault := rfl

theorem pushAll_ok (text word : List Char) (words : List (List Char)) :
    pushAll text (.ok (word :: words)) = .ok ((text ++ word) :: words) := by
  induction text with
  | nil => rfl
  | cons c text ih =>
    rw [pushAll_cons, ih]
    rfl

theorem scan_doubleQuoted (h : DoubleQuoted source text) (cs : List Char) :
    scan .inDouble (source ++ cs) = pushAll text (scan .inDouble cs) := by
  induction h with
  | nil => exact pushAll_nil.symm
  | plain hq hb _ ih =>
    rw [pushAll_cons, ← ih]
    simp [scan, hq, hb]
  | dropped hc _ ih =>
    rw [pushAll_cons, ← ih]
    simp [scan, hc]
  | @kept c source text hc _ ih =>
    rw [pushAll_cons, pushAll_cons, ← ih]
    simp only [List.cons_append, scan, hc, if_false]
    cases scan .inDouble (source ++ cs) <;> rfl

theorem scan_singleQuoted (h : '\'' ∉ text) (cs : List Char) :
    scan .inSingle (text ++ cs) = pushAll text (scan .inSingle cs) := by
  induction text with
  | nil => exact pushAll_nil.symm
  | cons c text ih =>
    simp only [List.mem_cons, not_or] at h
    rw [pushAll_cons, ← ih h.2]
    simp [scan, Ne.symm h.1]

theorem scan_part (h : Part source text) (cs : List Char) :
    scan .inWord (source ++ cs) = pushAll text (scan .inWord cs) := by
  cases h with
  | ordinary h =>
    obtain ⟨hs, hb, hq, hd⟩ := h
    rw [pushAll_cons, pushAll_nil]
    simp [scan, hs, hb, hq, hd]
  | escaped c =>
    rw [pushAll_cons, pushAll_nil]
    simp [scan, isSeparator]
  | single h =>
    have hclose : scan .inSingle ('\'' :: cs) = scan .inWord cs := by simp [scan]
    have hread := scan_singleQuoted h ('\'' :: cs)
    rw [hclose] at hread
    rw [← hread]
    simp [scan, isSeparator]
  | double h =>
    have hclose : scan .inDouble ('"' :: cs) = scan .inWord cs := by simp [scan]
    have hread := scan_doubleQuoted h ('"' :: cs)
    rw [hclose] at hread
    rw [← hread]
    simp [scan, isSeparator]

theorem scan_word (h : Word source text) (cs : List Char) :
    scan .inWord (source ++ cs) = pushAll text (scan .inWord cs) := by
  induction h with
  | part h => exact scan_part h cs
  | cons h _ ih => rw [List.append_assoc, scan_part h, ih, pushAll_append]

/-- At anything but a separator, a word begins as it goes on. -/
theorem scan_between_cons (h : isSeparator c = false) (cs : List Char) :
    scan .between (c :: cs) = scan .inWord (c :: cs) := by
  simp [scan, h]

theorem scan_between_word (h : Word source text) (cs : List Char) :
    scan .between (source ++ cs) = pushAll text (scan .inWord cs) := by
  rw [← scan_word h]
  obtain ⟨c, cs', rfl, hc⟩ := h.exists_cons
  exact scan_between_cons hc _

theorem scan_line (h : Line cs words) : scan .between cs = .ok words := by
  induction h with
  | nil => rfl
  | separator hc _ ih =>
    rw [scan, if_pos hc]
    exact ih
  | @last source word hw =>
    have hread := scan_between_word hw []
    rw [List.append_nil, scan, pushAll_ok, List.append_nil] at hread
    exact hread
  | @cons c source word rest words hw hc _ ih =>
    rw [scan_between_word hw, scan, if_pos hc, ih, Except.map, pushAll_ok, List.append_nil]

/-- A fault that stands behind a line, whether a word goes on there or begins, is one of the
whole. -/
theorem scan_append_error (h : Line before words) (hs : isSeparator c = false)
    (hf : scan .inWord (c :: cs) = .error fault) :
    scan .between (before ++ c :: cs) = .error fault := by
  induction h with
  | nil => exact (scan_between_cons hs cs).trans hf
  | separator hd _ ih =>
    rw [List.cons_append, scan, if_pos hd]
    exact ih
  | last hw => rw [scan_between_word hw, hf, pushAll_error]
  | cons hw hd _ ih =>
    rw [List.append_assoc, scan_between_word hw, List.cons_append, scan, if_pos hd, ih]
    rfl

theorem scan_breaksOff (h : BreaksOff fault cs) : scan .between cs = .error fault := by
  cases h with
  | escape hl => exact scan_append_error hl (by decide) rfl
  | escapeInDouble hl hq =>
    have hread := scan_doubleQuoted hq ['\\']
    rw [List.append_assoc]
    exact scan_append_error hl (by decide) hread
  | @single before text _ hl ht =>
    have hread := scan_singleQuoted ht []
    rw [List.append_nil] at hread
    exact scan_append_error hl (by decide) hread
  | @double before source text _ hl hq =>
    have hread := scan_doubleQuoted hq []
    rw [List.append_nil] at hread
    exact scan_append_error hl (by decide) hread

theorem scan_eq_ok_iff : scan .between cs = .ok words ↔ Line cs words := by
  refine ⟨fun h => ?_, scan_line⟩
  obtain ⟨words', hl⟩ | ⟨fault, hb⟩ := line_or_breaksOff cs
  · obtain rfl : words' = words := Except.ok.inj ((scan_line hl).symm.trans h)
    exact hl
  · exact nomatch (scan_breaksOff hb).symm.trans h

theorem scan_eq_error_iff : scan .between cs = .error fault ↔ BreaksOff fault cs := by
  refine ⟨fun h => ?_, scan_breaksOff⟩
  obtain ⟨words, hl⟩ | ⟨fault', hb⟩ := line_or_breaksOff cs
  · exact nomatch (scan_line hl).symm.trans h
  · obtain rfl : fault' = fault := Except.error.inj ((scan_breaksOff hb).symm.trans h)
    exact hb

/-- **The words that are read from a line are those that the grammar gives it.** -/
theorem split_eq_ok_iff {line : String} {ws : List String} :
    split line = .ok ws ↔ Line line.toList (ws.map String.toList) := by
  rw [← scan_eq_ok_iff, split]
  cases scan .between line.toList with
  | error fault => simp [Except.map]
  | ok us =>
    have hid : (us.map String.ofList = ws) ↔ us = ws.map String.toList := by
      constructor
      · rintro rfl
        simp
      · rintro rfl
        simp
    simpa [Except.map] using hid

/-- **A line has no words exactly if it breaks off.** -/
theorem split_eq_error_iff {line : String} :
    split line = .error fault ↔ BreaksOff fault line.toList := by
  rw [← scan_eq_error_iff, split]
  cases scan .between line.toList <;> simp [Except.map]

end Words

end PinnedRun.Shell
