import PinnedRun.Text.Blank

/-!
# What trimming leaves

A text is some core with characters of a class around it. Trimming gives back this core, as soon as
it neither begins nor ends with such a character (`trim_eq_iff`).

* `Surrounded blank core cs` : the text `cs` is `core` with characters of the class around it;
* `IsTrimmed blank cs` : the text `cs` neither begins nor ends with a character of the class.
-/

namespace PinnedRun.Text

/-- A text with characters of a class around it. -/
def Surrounded (blank : Char → Bool) (core cs : List Char) : Prop :=
  ∃ before after, (∀ c ∈ before, blank c = true) ∧ (∀ c ∈ after, blank c = true) ∧
    cs = before ++ core ++ after

/-- A text that neither begins nor ends with a character of a class. -/
structure IsTrimmed (blank : Char → Bool) (cs : List Char) : Prop where
  head : ∀ c ∈ cs.head?, blank c = false
  last : ∀ c ∈ cs.getLast?, blank c = false

variable {blank : Char → Bool} {cs core : List Char}

/-- Characters of another class stand in the core only. -/
theorem Surrounded.not_mem (h : Surrounded blank core cs) {c : Char} (hc : blank c = false)
    (hcore : c ∉ core) : c ∉ cs := by
  obtain ⟨before, after, hb, ha, rfl⟩ := h
  have hother : ∀ d, blank d = true → d ≠ c := by
    rintro d hd rfl
    rw [hc] at hd
    cases hd
  simp only [List.mem_append, not_or]
  exact ⟨⟨fun hm => hother c (hb c hm) rfl, hcore⟩, fun hm => hother c (ha c hm) rfl⟩

theorem surrounded_trim (blank : Char → Bool) (cs : List Char) :
    Surrounded blank (trim blank cs) cs := by
  let rest := cs.dropWhile blank
  have hleft : cs.takeWhile blank ++ rest = cs := List.takeWhile_append_dropWhile
  have hright : trimRight blank rest ++ (rest.reverse.takeWhile blank).reverse = rest := by
    rw [trimRight, ← List.reverse_append, List.takeWhile_append_dropWhile, List.reverse_reverse]
  refine ⟨cs.takeWhile blank, (rest.reverse.takeWhile blank).reverse, ?_, ?_, ?_⟩
  · exact List.all_eq_true.mp List.all_takeWhile
  · intro c hc
    exact List.all_eq_true.mp List.all_takeWhile c (List.mem_reverse.mp hc)
  · rw [List.append_assoc, trim, hright, hleft]

theorem isTrimmed_trim (blank : Char → Bool) (cs : List Char) : IsTrimmed blank (trim blank cs) := by
  let rest := cs.dropWhile blank
  have hprefix : trimRight blank rest <+: rest := by
    rw [trimRight, ← List.reverse_suffix, List.reverse_reverse]
    exact List.dropWhile_suffix blank
  refine ⟨fun c hc => ?_, fun c hc => ?_⟩
  · -- what is left begins as the text does behind its first blanks
    obtain ⟨rest', hr⟩ := hprefix
    have hhead : rest.head? = some c := by
      rw [← hr, List.head?_append, show (trimRight blank rest).head? = some c from hc]
      rfl
    have := List.head?_dropWhile_not blank cs
    rw [hhead] at this
    simpa using this
  · have := List.head?_dropWhile_not blank rest.reverse
    have hc : (trimRight blank rest).getLast? = some c := hc
    rw [trimRight, List.getLast?_reverse] at hc
    rw [hc] at this
    simpa using this

theorem IsTrimmed.trimRight_eq (h : IsTrimmed blank cs) : trimRight blank cs = cs := by
  have hd : cs.reverse.dropWhile blank = cs.reverse := by
    cases hr : cs.reverse with
    | nil => rfl
    | cons c rest =>
      have hl : cs.getLast? = some c := by rw [← List.head?_reverse, hr]; rfl
      exact List.dropWhile_cons_of_neg (by rw [h.last c hl]; decide)
  rw [trimRight, hd, List.reverse_reverse]

/-- Trimming gives back the core of a text, and nothing else. -/
theorem trim_eq_iff : trim blank cs = core ↔ Surrounded blank core cs ∧ IsTrimmed blank core := by
  constructor
  · rintro rfl
    exact ⟨surrounded_trim blank cs, isTrimmed_trim blank cs⟩
  · rintro ⟨⟨before, after, hb, ha, rfl⟩, h⟩
    rw [List.append_assoc, trim_blanks_append blank _ hb, trim]
    cases core with
    | nil => rw [List.nil_append, dropWhile_blanks blank ha]; rfl
    | cons c rest =>
      have hc : ¬blank c = true := by rw [h.head c rfl]; decide
      rw [List.cons_append, List.dropWhile_cons_of_neg hc, ← List.cons_append,
        trimRight_append_blanks blank _ ha, h.trimRight_eq]

end PinnedRun.Text
