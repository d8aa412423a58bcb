/-!
# Lists with keys

A list of pairs is read by finding the first pair with a key. Taking out one key does not change
what is found at another (`find?_filter_ne`). Where each key stands once, the pair that is found is
the only one with its key (`find?_eq_some_iff`), so the order of the list does not matter
(`find?_perm`). A pair that is put in the place of all with its key keeps the keys unique
(`Unique.cons_filter`).
-/

namespace PinnedRun.Keyed

variable {κ α : Type} [DecidableEq κ] {l l' : List (κ × α)} {key other : κ} {e : κ × α}

theorem find?_filter_ne (h : other ≠ key) :
    (l.filter (·.1 ≠ key)).find? (·.1 = other) = l.find? (·.1 = other) := by
  induction l with
  | nil => rfl
  | cons e es ih =>
    by_cases hk : e.1 = key
    · have ho : e.1 ≠ other := fun ho => h (ho ▸ hk)
      simpa [List.filter_cons, hk, List.find?_cons, h.symm] using ih
    · by_cases ho : e.1 = other
      · simp [ho, h]
      · simpa [List.filter_cons, hk, List.find?_cons, ho] using ih

/-- Each key stands in the list once. -/
def Unique (l : List (κ × α)) : Prop := (l.map (·.1)).Nodup

omit [DecidableEq κ] in
theorem unique_nil : Unique ([] : List (κ × α)) := List.nodup_nil

omit [DecidableEq κ] in
theorem unique_singleton (e : κ × α) : Unique [e] := by simp [Unique]

theorem Unique.cons_filter (h : Unique l) (key : κ) (a : α) :
    Unique ((key, a) :: l.filter (·.1 ≠ key)) := by
  have hsub : Unique (l.filter (·.1 ≠ key)) := h.sublist (List.filter_sublist.map _)
  have hkey : key ∉ (l.filter (·.1 ≠ key)).map (·.1) := by simp
  exact List.nodup_cons.mpr ⟨hkey, hsub⟩

theorem find?_eq_some_iff (h : Unique l) :
    l.find? (·.1 = key) = some e ↔ e ∈ l ∧ e.1 = key := by
  refine ⟨fun he => ⟨List.mem_of_find?_eq_some he, by simpa using List.find?_some he⟩, ?_⟩
  rintro ⟨hm, rfl⟩
  induction l with
  | nil => cases hm
  | cons a l ih =>
    obtain ⟨hn, hl⟩ := List.nodup_cons.mp h
    obtain rfl | hm := List.mem_cons.mp hm
    · simp
    · have hne : a.1 ≠ e.1 := fun he => hn (List.mem_map.mpr ⟨e, hm, he.symm⟩)
      rw [List.find?_cons_of_neg (by simpa using hne)]
      exact ih hl hm

/-- The order does not matter. -/
theorem find?_perm (h : Unique l) (hp : l.Perm l') :
    l.find? (·.1 = key) = l'.find? (·.1 = key) := by
  have h' : Unique l' := (hp.map _).nodup_iff.mp h
  refine Option.ext fun e => ?_
  rw [find?_eq_some_iff h, find?_eq_some_iff h', hp.mem_iff]

/-- Other keys that are told apart as the keys are find the same. -/
theorem find?_map_key {κ' : Type} [DecidableEq κ'] {f : κ → κ'} (hf : ∀ {a b}, f a = f b → a = b) :
    (l.map fun e => (f e.1, e.2)).find? (·.1 = f key) =
      (l.find? (·.1 = key)).map fun e => (f e.1, e.2) := by
  rw [List.find?_map]
  congr 2
  funext e
  exact decide_eq_decide.mpr ⟨hf, congrArg f⟩

end PinnedRun.Keyed
