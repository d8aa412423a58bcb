/-!
# Cutting a text at a separator

* `pieces` cuts at every separator, `joinPieces` puts a separator between pieces again;
* `cutFirst?` cuts at the first separator only;
* `afterLast` keeps what stands behind the last separator.

A text is the join of its pieces (`joinPieces_pieces`), no piece holds the separator
(`not_mem_of_mem_pieces`), and there is no other way to cut it so (`pieces_joinPieces`). A piece is
empty only where a separator begins or ends the text or follows another one (`nil_mem_pieces_iff`).
The last piece is what stands behind the last separator (`getLast_pieces`). A text without separator
that is put before one is what the cut at the first separator gives back (`cutFirst?_eq_some_iff`).
-/

namespace PinnedRun.Text

/-- Puts a character in front of the first piece. -/
def prependToFirst (c : Char) : List (List Char) → List (List Char)
  | [] => [[c]]
  | p :: ps => (c :: p) :: ps

/-- The pieces between separators; a text without separator is one piece. -/
def pieces (sep : Char) : List Char → List (List Char)
  | [] => [[]]
  | c :: cs => if c = sep then [] :: pieces sep cs else prependToFirst c (pieces sep cs)

/-- The pieces with a separator between each two. -/
def joinPieces (sep : Char) : List (List Char) → List Char
  | [] => []
  | [p] => p
  | p :: ps => p ++ sep :: joinPieces sep ps

/-- The two sides of the first separator. -/
def cutFirst? (sep : Char) (cs : List Char) : Option (List Char × List Char) :=
  match cs.dropWhile (· ≠ sep) with
  | [] => none
  | _ :: rest => some (cs.takeWhile (· ≠ sep), rest)

/-- What stands behind the last separator, or the whole text. -/
def afterLast (sep : Char) (cs : List Char) : List Char :=
  (cs.reverse.takeWhile (· ≠ sep)).reverse

/-! ### Laws -/

@[simp] theorem prependToFirst_ne_nil (c : Char) (ps : List (List Char)) :
    prependToFirst c ps ≠ [] := by
  cases ps <;> simp [prependToFirst]

@[simp] theorem pieces_ne_nil (sep : Char) (cs : List Char) : pieces sep cs ≠ [] := by
  cases cs with
  | nil => simp [pieces]
  | cons c cs => unfold pieces; split <;> simp

theorem joinPieces_cons (sep : Char) (p : List Char) {ps : List (List Char)} (h : ps ≠ []) :
    joinPieces sep (p :: ps) = p ++ sep :: joinPieces sep ps := by
  cases ps with
  | nil => exact absurd rfl h
  | cons q qs => rfl

theorem joinPieces_prependToFirst (sep c : Char) {ps : List (List Char)} (h : ps ≠ []) :
    joinPieces sep (prependToFirst c ps) = c :: joinPieces sep ps := by
  match ps with
  | [] => exact absurd rfl h
  | [p] => rfl
  | p :: q :: ps => rfl

theorem joinPieces_pieces (sep : Char) (cs : List Char) :
    joinPieces sep (pieces sep cs) = cs := by
  induction cs with
  | nil => rfl
  | cons c cs ih =>
    unfold pieces
    split
    · next h => rw [joinPieces_cons sep [] (pieces_ne_nil sep cs), ih, h, List.nil_append]
    · rw [joinPieces_prependToFirst sep c (pieces_ne_nil sep cs), ih]

theorem not_mem_of_mem_prependToFirst {sep c : Char} (hc : c ≠ sep) {ps : List (List Char)}
    (h : ∀ p ∈ ps, sep ∉ p) : ∀ p ∈ prependToFirst c ps, sep ∉ p := by
  cases ps with
  | nil => simpa [prependToFirst] using fun h => hc h.symm
  | cons q qs =>
    intro p hp
    rcases List.mem_cons.1 hp with rfl | hp
    · intro hmem
      rcases List.mem_cons.1 hmem with rfl | hmem
      · exact hc rfl
      · exact h q List.mem_cons_self hmem
    · exact h p (List.mem_cons_of_mem _ hp)

theorem not_mem_of_mem_pieces {sep : Char} {cs p : List Char} (hp : p ∈ pieces sep cs) :
    sep ∉ p := by
  induction cs generalizing p with
  | nil => simp_all [pieces]
  | cons c cs ih =>
    unfold pieces at hp
    split at hp
    · rcases List.mem_cons.1 hp with rfl | hp
      · simp
      · exact ih hp
    · next h => exact not_mem_of_mem_prependToFirst h (fun _ => ih) p hp

theorem cutFirst?_append_cons {sep : Char} {start : List Char} (h : sep ∉ start)
    (rest : List Char) : cutFirst? sep (start ++ sep :: rest) = some (start, rest) := by
  have hstart : ∀ c ∈ start, decide (c ≠ sep) = true := by
    intro c hc
    have hne : c ≠ sep := fun he => h (he ▸ hc)
    exact decide_eq_true hne
  rw [cutFirst?, List.dropWhile_append_of_pos hstart, List.takeWhile_append_of_pos hstart]
  simp

/-- What is cut off at the first separator holds none, and with the rest makes up the text. -/
theorem cutFirst?_eq_some_iff {sep : Char} {cs start rest : List Char} :
    cutFirst? sep cs = some (start, rest) ↔ cs = start ++ sep :: rest ∧ sep ∉ start := by
  constructor
  · intro h
    have hcut : cs.takeWhile (· ≠ sep) ++ cs.dropWhile (· ≠ sep) = cs :=
      List.takeWhile_append_dropWhile
    have hhead := List.head?_dropWhile_not (fun c => decide (c ≠ sep)) cs
    have hnot : sep ∉ cs.takeWhile (· ≠ sep) := fun hm => by
      simpa using List.all_eq_true.1 List.all_takeWhile sep hm
    unfold cutFirst? at h
    split at h
    · cases h
    · next c rest' hd =>
      obtain ⟨rfl, rfl⟩ := Prod.mk.inj (Option.some.inj h)
      rw [hd] at hcut hhead
      obtain rfl : c = sep := by simpa using hhead
      exact ⟨hcut.symm, hnot⟩
  · rintro ⟨rfl, hnot⟩
    exact cutFirst?_append_cons hnot rest

theorem cutFirst?_eq_none_iff {sep : Char} {cs : List Char} :
    cutFirst? sep cs = none ↔ sep ∉ cs := by
  constructor
  · intro h hm
    obtain ⟨start, rest, rfl, hnot⟩ := List.eq_append_cons_of_mem hm
    rw [cutFirst?_append_cons hnot] at h
    cases h
  · intro h
    refine Option.eq_none_iff_forall_ne_some.2 fun ⟨start, rest⟩ he => h ?_
    rw [(cutFirst?_eq_some_iff.1 he).1]
    simp

/-! ### What stands behind the last separator -/

theorem not_mem_afterLast (sep : Char) (cs : List Char) : sep ∉ afterLast sep cs := by
  intro h
  have hs := List.all_eq_true.1 List.all_takeWhile sep (List.mem_reverse.1 h)
  simp at hs

/-- A text without separator stands behind the last one as a whole; otherwise the text ends with
the last separator and what stands behind it. -/
theorem eq_afterLast_or (sep : Char) (cs : List Char) :
    cs = afterLast sep cs ∨ ∃ before, cs = before ++ sep :: afterLast sep cs := by
  have hcut : cs.reverse =
      cs.reverse.takeWhile (· ≠ sep) ++ cs.reverse.dropWhile (· ≠ sep) :=
    List.takeWhile_append_dropWhile.symm
  have hcs := congrArg List.reverse hcut
  rw [List.reverse_reverse, List.reverse_append] at hcs
  have hhead := List.head?_dropWhile_not (fun c => decide (c ≠ sep)) cs.reverse
  cases hd : cs.reverse.dropWhile (· ≠ sep) with
  | nil => exact .inl (by rw [hd] at hcs; exact hcs)
  | cons c rest =>
    rw [hd] at hcs hhead
    obtain rfl : c = sep := by simpa using hhead
    exact .inr ⟨rest.reverse, by simpa [afterLast] using hcs⟩

theorem afterLast_append_cons {sep : Char} (before : List Char) {cs : List Char} (h : sep ∉ cs) :
    afterLast sep (before ++ sep :: cs) = cs := by
  have hcs : ∀ c ∈ cs.reverse, decide (c ≠ sep) = true := by
    intro c hc
    have hne : c ≠ sep := fun he => h (he ▸ List.mem_reverse.1 hc)
    exact decide_eq_true hne
  rw [afterLast, List.reverse_append, List.reverse_cons, List.append_assoc,
    List.takeWhile_append_of_pos hcs]
  simp

theorem pieces_of_not_mem {sep : Char} {cs : List Char} (h : sep ∉ cs) :
    pieces sep cs = [cs] := by
  induction cs with
  | nil => rfl
  | cons c cs ih =>
    simp only [List.mem_cons, not_or] at h
    rw [pieces, if_neg (Ne.symm h.1), ih h.2]
    rfl

theorem prependToFirst_append (c : Char) {ps : List (List Char)} (h : ps ≠ [])
    (qs : List (List Char)) : prependToFirst c (ps ++ qs) = prependToFirst c ps ++ qs := by
  cases ps with
  | nil => exact absurd rfl h
  | cons p ps => rfl

theorem pieces_append_cons (sep : Char) (bs cs : List Char) :
    pieces sep (bs ++ sep :: cs) = pieces sep bs ++ pieces sep cs := by
  induction bs with
  | nil => simp [pieces]
  | cons b bs ih =>
    rw [List.cons_append, pieces, pieces, ih]
    split
    · rfl
    · exact prependToFirst_append b (pieces_ne_nil sep bs) _

/-- Pieces without separator are those that their join is cut into. -/
theorem pieces_joinPieces {sep : Char} {ps : List (List Char)} (hne : ps ≠ [])
    (h : ∀ p ∈ ps, sep ∉ p) : pieces sep (joinPieces sep ps) = ps := by
  match ps with
  | [] => exact absurd rfl hne
  | [p] => exact pieces_of_not_mem (h p List.mem_cons_self)
  | p :: q :: ps =>
    have hp : sep ∉ p := h p List.mem_cons_self
    have hps : ∀ r ∈ q :: ps, sep ∉ r := fun r hr => h r (List.mem_cons_of_mem _ hr)
    rw [joinPieces, pieces_append_cons, pieces_of_not_mem hp,
      pieces_joinPieces (List.cons_ne_nil q ps) hps]
    · rfl
    · exact List.cons_ne_nil q ps

theorem joinPieces_append (sep : Char) {ps qs : List (List Char)} (hp : ps ≠ []) (hq : qs ≠ []) :
    joinPieces sep (ps ++ qs) = joinPieces sep ps ++ sep :: joinPieces sep qs := by
  induction ps with
  | nil => exact absurd rfl hp
  | cons p ps ih =>
    rw [List.cons_append, joinPieces_cons sep p (List.append_ne_nil_of_right_ne_nil ps hq)]
    by_cases hps : ps = []
    · rw [hps, List.nil_append, joinPieces]
    · rw [ih hps, joinPieces_cons sep p hps, List.append_assoc, List.cons_append]

/-- A piece is empty if the text is, at a separator that begins or ends the text, and between two
separators that stand next to each other. -/
theorem nil_mem_pieces_iff {sep : Char} {cs : List Char} :
    [] ∈ pieces sep cs ↔ cs = [] ∨ cs.head? = some sep ∨ cs.getLast? = some sep ∨
      ∃ before after, cs = before ++ sep :: sep :: after := by
  constructor
  · intro h
    obtain ⟨ps, qs, hpieces⟩ := List.append_of_mem h
    have hcs := joinPieces_pieces sep cs
    rw [hpieces] at hcs
    -- by what stands before and behind the empty piece
    by_cases hp : ps = []
    · by_cases hq : qs = []
      · exact .inl (by simpa [hp, hq, joinPieces] using hcs.symm)
      · rw [hp, List.nil_append, joinPieces_cons sep [] hq, List.nil_append] at hcs
        exact .inr (.inl (by rw [← hcs, List.head?_cons]))
    · rw [joinPieces_append sep hp (List.cons_ne_nil _ _)] at hcs
      by_cases hq : qs = []
      · rw [hq, joinPieces] at hcs
        exact .inr (.inr (.inl (by rw [← hcs, List.getLast?_concat])))
      · rw [joinPieces_cons sep [] hq, List.nil_append] at hcs
        exact .inr (.inr (.inr ⟨_, _, hcs.symm⟩))
  · rintro (rfl | h | h | ⟨before, after, rfl⟩)
    · exact List.mem_singleton_self _
    · obtain ⟨rest, rfl⟩ := List.head?_eq_some_iff.mp h
      simp [pieces]
    · obtain ⟨before, rfl⟩ := List.getLast?_eq_some_iff.mp h
      simp [pieces_append_cons, pieces]
    · simp [pieces_append_cons, pieces]

/-- What stands behind the last separator is the last piece. -/
theorem getLast_pieces (sep : Char) (cs : List Char) :
    (pieces sep cs).getLast (pieces_ne_nil sep cs) = afterLast sep cs := by
  have hlast := pieces_of_not_mem (not_mem_afterLast sep cs)
  have hcs := eq_afterLast_or sep cs
  generalize afterLast sep cs = last at *
  obtain rfl | ⟨before, rfl⟩ := hcs
  · simp [hlast]
  · simp [pieces_append_cons, hlast]

/-- Nothing stands behind the last separator of a text that ends with one. -/
theorem afterLast_eq_nil_iff {sep : Char} {cs : List Char} :
    afterLast sep cs = [] ↔ cs = [] ∨ cs.getLast? = some sep := by
  constructor
  · intro h
    obtain hcs | ⟨before, hcs⟩ := eq_afterLast_or sep cs
    · exact .inl (hcs.trans h)
    · rw [h] at hcs
      exact .inr (by simp [hcs])
  · rintro (rfl | h)
    · rfl
    · obtain ⟨before, rfl⟩ := List.getLast?_eq_some_iff.1 h
      exact afterLast_append_cons before List.not_mem_nil

end PinnedRun.Text
