import PinnedRun.Proofs.Shell.Grammar
import PinnedRun.Text.Blank
import PinnedRun.Text.Split

/-!
# Writing a command line

Any words can be written as a line that is read as these words again (`Words.split_join`). A word of
plain characters is written as it is. Any other one stands between single quotes; a single quote in
it is put between double quotes, with the single ones closed before it and opened again behind it.

* `quote` writes one word, `join` writes words with a space between each two;
* `word_quote` and `line_join` say that this follows the grammar.
-/

namespace PinnedRun.Shell

/-- A character that needs no quotes: a letter or digit of the ASCII range, or one of a few signs. -/
def isPlain (c : Char) : Bool := c.isAlphanum || "_@%+=:,./-".toList.contains c

/-- A character between single quotes. -/
def quoteChar (c : Char) : List Char :=
  if c = '\'' then ['\'', '"', '\'', '"', '\''] else [c]

/-- A word as it is written on a line. -/
def quote (word : List Char) : List Char :=
  if word ≠ [] ∧ word.all isPlain then word else '\'' :: word.flatMap quoteChar ++ ['\'']

/-- Words as a line. -/
def join (words : List String) : String :=
  String.ofList (Text.joinPieces ' ' (words.map fun word => quote word.toList))

example : join ["", "it's", "a/b"] = "'' 'it'\"'\"'s' a/b" := by decide +kernel

variable {c : Char} {cs word : List Char}

/-! ### Plain characters -/

theorem isOrdinary_of_isPlain (h : isPlain c = true) : IsOrdinary c := by
  have hs : isSeparator c = false := by
    cases hs : isSeparator c with
    | false => rfl
    | true =>
      simp only [isSeparator, Bool.or_eq_true, decide_eq_true_eq] at hs
      obtain ((rfl | rfl) | rfl) | rfl := hs <;> exact absurd h (by decide)
  refine ⟨hs, ?_, ?_, ?_⟩ <;> rintro rfl <;> exact absurd h (by decide)

theorem toNat_of_isPlain (h : isPlain c = true) : 0x25 ≤ c.toNat ∧ c.toNat ≤ 0x7A := by
  rw [isPlain, Bool.or_eq_true] at h
  obtain h | h := h
  · change (decide (c.val ≥ 65 ∧ c.val ≤ 90) || decide (c.val ≥ 97) && decide (c.val ≤ 122) ||
      decide (c.val ≥ 48) && decide (c.val ≤ 57)) = true at h
    simp only [Bool.or_eq_true, Bool.and_eq_true, decide_eq_true_eq, ge_iff_le,
      UInt32.le_iff_toNat_le] at h
    change ((65 ≤ c.toNat ∧ c.toNat ≤ 90) ∨ (97 ≤ c.toNat ∧ c.toNat ≤ 122)) ∨
      (48 ≤ c.toNat ∧ c.toNat ≤ 57) at h
    omega
  · have hall : "_@%+=:,./-".toList.all (fun d => 0x25 ≤ d.toNat ∧ d.toNat ≤ 0x7A) = true := by
      decide
    exact of_decide_eq_true (List.all_eq_true.1 hall c (List.contains_iff_mem.1 h))

theorem isBlank_of_isPlain (h : isPlain c = true) : Text.isBlank c = false := by
  obtain ⟨hl, hu⟩ := toNat_of_isPlain h
  rw [Bool.eq_false_iff]
  intro hb
  simp only [Text.isBlank, Bool.or_eq_true, Bool.and_eq_true, decide_eq_true_eq, beq_iff_eq] at hb
  omega

/-! ### What is written follows the grammar -/

theorem word_of_isOrdinary (hne : cs ≠ []) (h : ∀ c ∈ cs, IsOrdinary c) : Word cs cs := by
  induction cs with
  | nil => exact absurd rfl hne
  | cons c cs ih =>
    obtain ⟨hc, hcs⟩ := List.forall_mem_cons.1 h
    cases cs with
    | nil => exact .part (.ordinary hc)
    | cons d cs => exact .cons (.ordinary hc) (ih (List.cons_ne_nil d cs) hcs)

/-- The rest of a word between single quotes, with what stands there already. -/
theorem word_singleQuoted {before : List Char} (h : '\'' ∉ before) (cs : List Char) :
    Word ('\'' :: before ++ cs.flatMap quoteChar ++ ['\'']) (before ++ cs) := by
  induction cs generalizing before with
  | nil => simpa using Word.part (.single h)
  | cons c cs ih =>
    by_cases hc : c = '\''
    · -- the stretch before the quote, the quote, and the stretch that goes on from there
      subst hc
      have hq : DoubleQuoted ['\''] ['\''] := .plain (by decide) (by decide) .nil
      have hw := Word.cons (.single h) (.cons (.double hq) (ih List.not_mem_nil))
      simpa [quoteChar] using hw
    · have hbefore : '\'' ∉ before ++ [c] := by simp [h, Ne.symm hc]
      simpa [quoteChar, hc] using ih hbefore

theorem word_quote (word : List Char) : Word (quote word) word := by
  unfold quote
  split
  · rename_i h
    exact word_of_isOrdinary h.1 fun c hc => isOrdinary_of_isPlain (List.all_eq_true.1 h.2 c hc)
  · simpa using word_singleQuoted List.not_mem_nil word

theorem line_joinPieces {words : List (List Char)} (h : words ≠ []) :
    Line (Text.joinPieces ' ' (words.map quote)) words := by
  induction words with
  | nil => exact absurd rfl h
  | cons word words ih =>
    cases words with
    | nil => exact .last (word_quote word)
    | cons next words =>
      exact .cons (word_quote word) (by decide) (ih (List.cons_ne_nil next words))

theorem line_join {words : List String} (h : words ≠ []) :
    Line (join words).toList (words.map String.toList) := by
  have hne : words.map String.toList ≠ [] := by simpa using h
  have hl := line_joinPieces hne
  rw [List.map_map] at hl
  rw [join, String.toList_ofList]
  exact hl

/-- **What is read from joined words are these words.** -/
theorem Words.split_join {words : List String} (h : words ≠ []) :
    Words.split (join words) = .ok words :=
  Words.split_eq_ok_iff.mpr (line_join h)

/-! ### Joined words are not blank -/

theorem exists_not_isBlank_quote (word : List Char) : ∃ c ∈ quote word, Text.isBlank c = false := by
  unfold quote
  split
  · rename_i h
    obtain ⟨c, hc⟩ := List.exists_mem_of_ne_nil word h.1
    exact ⟨c, hc, isBlank_of_isPlain (List.all_eq_true.1 h.2 c hc)⟩
  · exact ⟨'\'', List.mem_cons_self, by decide⟩

theorem isBlankText_join {words : List String} (h : words ≠ []) :
    Text.isBlankText (join words) = false := by
  obtain ⟨word, words, rfl⟩ := List.exists_cons_of_ne_nil h
  obtain ⟨c, hc, hb⟩ := exists_not_isBlank_quote word.toList
  have hmem : c ∈ (join (word :: words)).toList := by
    cases words with
    | nil => simpa [join, Text.joinPieces] using hc
    | cons next words => simp [join, Text.joinPieces, hc]
  exact List.all_eq_false.2 ⟨c, hmem, by simp [hb]⟩

end PinnedRun.Shell
