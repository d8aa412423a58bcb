import Mathlib.Data.List.TakeWhile
import PinnedRun.Proofs.Options.Occurrence

/-!
# Ambiguous arguments

Of all arguments only two kinds are rejected by themselves, each because it begins several long
spellings (`IsAmbiguous`): the two dashes with an equals sign behind them, and `--b`, with a value
or without. Four characters tell all spellings apart (`Switch.eq_of_take`), so what is longer begins
one of them at most.

A command line with an ambiguous argument before its first double dash is rejected, and the
rejection names one (`Token.ofCommandLine_of_hasAmbiguous`). In every other command line each
argument is an option or a word, or unknown (`Token.exists_ofCommandLine`).
-/

namespace PinnedRun.Options

/-- An abbreviation of several long spellings: it is `--b` up to its first equals sign, or it has
the equals sign right behind its dashes. -/
def IsAmbiguous (argument : String) : Prop :=
  argument.toList.takeWhile (· ≠ '=') = ['-', '-', 'b'] ∨ ['-', '-', '='] <+: argument.toList

instance (argument : String) : Decidable (IsAmbiguous argument) :=
  inferInstanceAs (Decidable (_ ∨ _))

/-- Before the first double dash an ambiguous argument stands. -/
def HasAmbiguous (commandLine : List String) : Prop :=
  ∃ argument ∈ commandLine.takeWhile (· ≠ "--"), IsAmbiguous argument

instance (commandLine : List String) : Decidable (HasAmbiguous commandLine) :=
  inferInstanceAs (Decidable (∃ argument ∈ _, _))

variable {argument : String} {commandLine : List String}

namespace Switch

/-- The spellings that begin with a text. -/
def fits (start : List Char) : List (String × Switch) :=
  table.filter fun e => start.isPrefixOf e.1.toList

theorem nodup_table : table.Nodup := by decide

/-- Spellings that agree in their first four characters are one. -/
theorem eq_of_take {e e' : String × Switch} (he : e ∈ table) (he' : e' ∈ table)
    (h : e.1.toList.take 4 = e'.1.toList.take 4) : e = e' := by
  have hall : ∀ e ∈ table, ∀ e' ∈ table, e.1.toList.take 4 = e'.1.toList.take 4 → e = e' := by
    decide +kernel
  exact hall e he e' he' h

/-- Three characters tell the spellings apart except for the two that begin with `--b`. -/
theorem eq_of_take_three {e e' : String × Switch} (he : e ∈ table) (he' : e' ∈ table)
    (h : e.1.toList.take 3 = e'.1.toList.take 3) (hb : e.1.toList.take 3 ≠ ['-', '-', 'b']) :
    e = e' := by
  have hall : ∀ e ∈ table, ∀ e' ∈ table, e.1.toList.take 3 = e'.1.toList.take 3 →
      e.1.toList.take 3 ≠ ['-', '-', 'b'] → e = e' := by
    decide +kernel
  exact hall e he e' he' h hb

theorem eq_of_mem_fits {start : List Char} (hlong : 2 < start.length) (hb : start ≠ ['-', '-', 'b'])
    {e e' : String × Switch} (he : e ∈ fits start) (he' : e' ∈ fits start) : e = e' := by
  simp only [fits, List.mem_filter, List.isPrefixOf_iff_prefix] at he he'
  obtain ⟨he, t, ht⟩ := he
  obtain ⟨he', t', ht'⟩ := he'
  by_cases hl : 3 < start.length
  · refine eq_of_take he he' ?_
    rw [← ht, ← ht', List.take_append_of_le_length hl, List.take_append_of_le_length hl]
  · have hthree : start.length = 3 := by omega
    have htake : ∀ t : List Char, (start ++ t).take 3 = start := fun t => List.take_left' hthree
    refine eq_of_take_three he he' ?_ ?_
    · rw [← ht, ← ht', htake, htake]
    · rw [← ht, htake]
      exact hb

theorem length_filter_table_le {select : String × Switch → Bool}
    (h : ∀ e ∈ table.filter select, ∀ e' ∈ table.filter select, e = e') :
    (table.filter select).length ≤ 1 := by
  have hnodup : (table.filter select).Nodup := nodup_table.filter _
  match hf : table.filter select with
  | [] | [_] => simp
  | e :: e' :: rest =>
    rw [hf] at hnodup h
    have hee := h e List.mem_cons_self e' (List.mem_cons_of_mem _ List.mem_cons_self)
    simp [hee] at hnodup

/-- A text of more than two characters begins one spelling at most, except for `--b`. -/
theorem length_fits_le {start : List Char} (hlong : 2 < start.length)
    (hb : start ≠ ['-', '-', 'b']) : (fits start).length ≤ 1 :=
  length_filter_table_le fun _ he _ he' => eq_of_mem_fits hlong hb he he'

theorem one_lt_length_fits {start : List Char}
    (h : start = ['-', '-'] ∨ start = ['-', '-', 'b']) : 1 < (fits start).length := by
  obtain rfl | rfl := h <;> decide +kernel

/-- The two texts that begin several spellings are none themselves. -/
theorem ne_of_mem {spelling : String} {s : Switch} (h : (spelling, s) ∈ table) :
    ¬(spelling.toList = ['-', '-'] ∨ spelling.toList = ['-', '-', 'b']) := by
  have hall : ∀ e ∈ table, ¬(e.1.toList = ['-', '-'] ∨ e.1.toList = ['-', '-', 'b']) := by
    decide +kernel
  exact hall (spelling, s) h

theorem mem_table_of_ofSpelling? {spelling : String} {s : Switch}
    (h : ofSpelling? spelling = some s) : (spelling, s) ∈ table := by
  obtain ⟨e, he, rfl⟩ := Option.map_eq_some_iff.1 h
  have hs := List.find?_some he
  obtain rfl : e.1 = spelling := of_decide_eq_true hs
  exact List.mem_of_find?_eq_some he

end Switch

/-! ### One argument -/

namespace Token

theorem takeWhile_of_cutFirst? {cs start value : List Char}
    (h : Text.cutFirst? '=' cs = some (start, value)) : cs.takeWhile (· ≠ '=') = start := by
  unfold Text.cutFirst? at h
  split at h
  · cases h
  · exact congrArg Prod.fst (Option.some.inj h)

/-- Unless it is two dashes, a text is two dashes up to its first equals sign exactly if this sign
comes next. -/
theorem takeWhile_eq_dashes_iff {cs : List Char} (hd : cs ≠ ['-', '-']) :
    cs.takeWhile (· ≠ '=') = ['-', '-'] ↔ ['-', '-', '='] <+: cs := by
  constructor
  · intro h
    have hcut := cs.takeWhile_append_dropWhile (p := (· ≠ '='))
    have hhead := cs.head?_dropWhile_not (· ≠ '=')
    rw [h] at hcut
    cases hrest : cs.dropWhile (· ≠ '=') with
    | nil =>
      rw [hrest] at hcut
      exact absurd hcut.symm hd
    | cons c rest =>
      rw [hrest] at hcut hhead
      obtain rfl : c = '=' := by simpa using hhead
      exact ⟨rest, hcut⟩
  · rintro ⟨rest, rfl⟩
    simp

/-- Up to the first equals sign, an ambiguous argument is one of two texts. -/
theorem isAmbiguous_iff (hd : argument ≠ "--") :
    IsAmbiguous argument ↔
      argument.toList.takeWhile (· ≠ '=') = ['-', '-'] ∨
        argument.toList.takeWhile (· ≠ '=') = ['-', '-', 'b'] := by
  have hne : argument.toList ≠ ['-', '-'] := fun h => hd (String.toList_inj.mp h)
  rw [IsAmbiguous, takeWhile_eq_dashes_iff hne]
  exact or_comm

/-- A long argument abbreviates the spellings that begin with it up to its equals sign. -/
theorem length_abbreviations_long {cs : List Char} :
    (abbreviations ('-' :: '-' :: cs)).length =
      (Switch.fits (('-' :: '-' :: cs).takeWhile (· ≠ '='))).length := by
  have hcut := ('-' :: '-' :: cs).takeWhile_append_dropWhile (p := (· ≠ '='))
  unfold abbreviations Switch.fits
  cases h : Text.cutFirst? '=' ('-' :: '-' :: cs) with
  | some p =>
    obtain ⟨start, value⟩ := p
    rw [takeWhile_of_cutFirst? h]
    simp
  | none =>
    unfold Text.cutFirst? at h
    split at h
    · rename_i hnil
      rw [hnil, List.append_nil] at hcut
      rw [hcut]
      simp
    · cases h

/-- Unless it is one of two texts up to its equals sign, an argument abbreviates one spelling at
most. -/
theorem length_abbreviations_le {cs : List Char} (hd : cs.takeWhile (· ≠ '=') ≠ ['-', '-'])
    (hb : cs.takeWhile (· ≠ '=') ≠ ['-', '-', 'b']) : (abbreviations cs).length ≤ 1 := by
  by_cases hlong : ∃ rest, cs = '-' :: '-' :: rest
  · obtain ⟨rest, rfl⟩ := hlong
    have htake : ('-' :: '-' :: rest).takeWhile (· ≠ '=') =
        '-' :: '-' :: rest.takeWhile (· ≠ '=') := by simp
    have hne : rest.takeWhile (· ≠ '=') ≠ [] := fun hnil => hd (by rw [htake, hnil])
    have hpos := List.length_pos_iff.mpr hne
    rw [length_abbreviations_long]
    refine Switch.length_fits_le ?_ hb
    rw [htake, List.length_cons, List.length_cons]
    omega
  · unfold abbreviations
    split
    · exact absurd ⟨_, rfl⟩ hlong
    · rw [List.length_map]
      refine Switch.length_filter_table_le fun e he e' he' => ?_
      simp only [List.mem_filter, decide_eq_true_eq] at he he'
      exact Switch.eq_of_take he.1 he'.1 (by rw [he.2, he'.2])
    · simp

theorem ofAbbreviation_of_one_lt (h : 1 < (abbreviations argument.toList).length) :
    ∃ spellings, ofAbbreviation argument = .error (.ambiguous argument spellings) := by
  unfold ofAbbreviation
  match abbreviations argument.toList, h with
  | e :: e' :: rest, _ => exact ⟨_, rfl⟩

theorem ofAbbreviation_of_length_le (h : (abbreviations argument.toList).length ≤ 1) :
    ∃ token, ofAbbreviation argument = .ok token := by
  unfold ofAbbreviation
  match abbreviations argument.toList, h with
  | [e], _ => exact ⟨_, rfl⟩
  | [], _ =>
    dsimp only
    split
    · exact ⟨_, rfl⟩
    · exact ⟨_, rfl⟩

/-- What is spelled out, with a value or without, is not ambiguous. -/
theorem spelling_of_isAmbiguous (hd : argument ≠ "--") (h : IsAmbiguous argument) :
    Switch.ofSpelling? argument = none ∧ spelledWithValue? argument.toList = none := by
  have hstart := (isAmbiguous_iff hd).mp h
  constructor
  · refine Option.eq_none_iff_forall_ne_some.mpr fun s hs => ?_
    have hmem := Switch.mem_table_of_ofSpelling? hs
    have hne : ∀ c ∈ argument.toList, decide (c ≠ '=') = true := fun c hc =>
      decide_eq_true (ne_of_mem_of_not_mem hc (Switch.shape_of_mem hmem).1)
    rw [List.takeWhile_eq_self_iff.mpr hne] at hstart
    exact Switch.ne_of_mem hmem hstart
  · unfold spelledWithValue?
    cases hcut : Text.cutFirst? '=' argument.toList with
    | none => rfl
    | some p =>
      obtain ⟨start, value⟩ := p
      rw [takeWhile_of_cutFirst? hcut] at hstart
      refine Option.map_eq_none_iff.mpr (Option.eq_none_iff_forall_ne_some.mpr fun s hs => ?_)
      exact Switch.ne_of_mem (Switch.mem_table_of_ofSpelling? hs) (by simpa using hstart)

theorem exists_cons_cons_of_start {cs : List Char}
    (h : cs.takeWhile (· ≠ '=') = ['-', '-'] ∨ cs.takeWhile (· ≠ '=') = ['-', '-', 'b']) :
    ∃ rest, cs = '-' :: '-' :: rest := by
  have hcut := cs.takeWhile_append_dropWhile (p := (· ≠ '='))
  obtain h | h := h <;> rw [h] at hcut <;> exact ⟨_, hcut.symm⟩

/-- An ambiguous argument is rejected. -/
theorem ofArgument_of_isAmbiguous (h : IsAmbiguous argument) :
    ∃ spellings, ofArgument argument = .error (.ambiguous argument spellings) := by
  have hd : argument ≠ "--" := by
    rintro rfl
    exact absurd h (by decide)
  have hstart := (isAmbiguous_iff hd).mp h
  obtain ⟨hs, hv⟩ := spelling_of_isAmbiguous hd h
  obtain ⟨rest, hrest⟩ := exists_cons_cons_of_start hstart
  have hmany : 1 < (abbreviations argument.toList).length := by
    rw [hrest] at hstart ⊢
    rw [length_abbreviations_long]
    exact Switch.one_lt_length_fits hstart
  obtain ⟨spellings, ha⟩ := ofAbbreviation_of_one_lt hmany
  refine ⟨spellings, ?_⟩
  unfold ofArgument
  rw [hs, hv, hrest]
  simpa using ha

/-- Every other argument is an option or a word, or unknown. -/
theorem ofArgument_of_not_isAmbiguous (hd : argument ≠ "--") (h : ¬IsAmbiguous argument) :
    ∃ token, ofArgument argument = .ok token := by
  rw [isAmbiguous_iff hd, not_or] at h
  unfold ofArgument
  split
  · split
    · exact ⟨_, rfl⟩
    · split
      · exact ⟨_, rfl⟩
      · split
        · exact ⟨_, rfl⟩
        · exact ofAbbreviation_of_length_le (length_abbreviations_le h.1 h.2)
  · exact ⟨_, rfl⟩

/-! ### All arguments -/

theorem ofCommandLine_cons {rest : List String} (hd : argument ≠ "--") :
    ofCommandLine (argument :: rest) =
      (ofArgument argument).bind fun token => (ofCommandLine rest).map ((argument, token) :: ·) := by
  rw [ofCommandLine, if_neg hd]

theorem hasAmbiguous_cons_iff (hd : argument ≠ "--") :
    HasAmbiguous (argument :: commandLine) ↔ IsAmbiguous argument ∨ HasAmbiguous commandLine := by
  simp [HasAmbiguous, hd]

theorem not_hasAmbiguous_separator : ¬HasAmbiguous ("--" :: commandLine) := by
  simp [HasAmbiguous]

/-- **An ambiguous argument before the first double dash makes a command line be rejected**, and the
rejection names one. -/
theorem ofCommandLine_of_hasAmbiguous (h : HasAmbiguous commandLine) :
    ∃ argument ∈ commandLine, IsAmbiguous argument ∧ ∃ spellings,
      ofCommandLine commandLine = .error (.ambiguous argument spellings) := by
  induction commandLine with
  | nil => exact absurd h (by simp [HasAmbiguous])
  | cons argument rest ih =>
    have hd : argument ≠ "--" := by
      rintro rfl
      exact not_hasAmbiguous_separator h
    rw [ofCommandLine_cons hd]
    by_cases ha : IsAmbiguous argument
    · obtain ⟨spellings, hr⟩ := ofArgument_of_isAmbiguous ha
      exact ⟨argument, List.mem_cons_self, ha, spellings, by rw [hr]; rfl⟩
    · obtain ⟨token, ht⟩ := ofArgument_of_not_isAmbiguous hd ha
      obtain ⟨other, hmem, ho, spellings, hr⟩ :=
        ih (((hasAmbiguous_cons_iff hd).mp h).resolve_left ha)
      exact ⟨other, List.mem_cons_of_mem _ hmem, ho, spellings, by rw [ht, hr]; rfl⟩

/-- **All other command lines can be told apart argument by argument.** -/
theorem exists_ofCommandLine (h : ¬HasAmbiguous commandLine) :
    ∃ tokens, ofCommandLine commandLine = .ok tokens := by
  induction commandLine with
  | nil => exact ⟨[], rfl⟩
  | cons argument rest ih =>
    by_cases hd : argument = "--"
    · rw [ofCommandLine, if_pos hd]
      exact ⟨_, rfl⟩
    · rw [hasAmbiguous_cons_iff hd, not_or] at h
      obtain ⟨token, ht⟩ := ofArgument_of_not_isAmbiguous hd h.1
      obtain ⟨tokens, hr⟩ := ih h.2
      exact ⟨(argument, token) :: tokens, by rw [ofCommandLine_cons hd, ht, hr]; rfl⟩

end Token

end PinnedRun.Options
