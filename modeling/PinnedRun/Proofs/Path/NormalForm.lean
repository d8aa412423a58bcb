import Mathlib.Data.List.Basic
import PinnedRun.Path

/-!
# The normal form of a path

The normal form of a text is the text of the path that it names.

* `Path.normalForm` is the normal form of a text;
* `Path.IsNormal` says what a normal form looks like, and does not speak of how a path is read or
  written;
* `Path.BeginsWithPair` tells the texts that start at a place of their own.

A path is read back from its text (`Path.ofText_toText`), so a text and its normal form name the
same path. A normal form is normal (`Path.isNormal_toText`), and a normal text is its own normal
form (`Path.normalForm_of_isNormal`). So normalising twice changes nothing, and there is one normal
text for each path (`Path.IsNormal.eq_normalForm`).
-/

namespace PinnedRun.Path

open PinnedRun.Text

variable {cs : List Char} {names : List String} {text other : String}

/-- The normal form of a text. -/
def normalForm (text : String) : String := (ofText text).toText

/-- A text begins with two slashes and no third one. -/
def BeginsWithPair (text : String) : Prop :=
  ∃ rest, text.toList = '/' :: '/' :: rest ∧ rest.head? ≠ some '/'

/-- What a normal form looks like. -/
structure IsNormal (text : String) : Prop where
  ne_empty : text ≠ ""
  /-- Only a text that is a single dot has one between its slashes. -/
  no_dot : ['.'] ∈ pieces '/' text.toList → text = "."
  /-- Slashes stand next to each other only as the first two characters. -/
  no_repeat : ∀ before after, text.toList = before ++ '/' :: '/' :: after → before = []
  /-- Only slashes end with a slash. -/
  no_trailing : text.toList.getLast? = some '/' → ∀ c ∈ text.toList, c = '/'

/-! ### Names between slashes -/

/-- No slash begins or ends a text, and no two stand next to each other in it. -/
structure IsTight (cs : List Char) : Prop where
  head : cs.head? ≠ some '/'
  last : cs.getLast? ≠ some '/'
  no_repeat : ∀ before after, cs ≠ before ++ '/' :: '/' :: after

theorem isTight_iff : IsTight cs ↔ cs = [] ∨ [] ∉ pieces '/' cs := by
  rw [nil_mem_pieces_iff]
  constructor
  · intro h
    by_cases hnil : cs = []
    · exact .inl hnil
    · refine .inr ?_
      rintro (hcs | hcs | hcs | ⟨before, after, hcs⟩)
      · exact hnil hcs
      · exact h.head hcs
      · exact h.last hcs
      · exact h.no_repeat before after hcs
  · rintro (rfl | h)
    · exact ⟨by simp, by simp, by simp⟩
    · simp only [not_or, not_exists] at h
      exact ⟨h.2.1, h.2.2.1, h.2.2.2⟩

theorem toList_intercalate_slash (names : List String) :
    ("/".intercalate names).toList = joinPieces '/' (names.map String.toList) := by
  induction names with
  | nil => rfl
  | cons name names ih =>
    cases names with
    | nil => simp [joinPieces]
    | cons next names =>
      have hne : (next :: names).map String.toList ≠ [] := by simp
      rw [List.map_cons, joinPieces_cons '/' _ hne, ← ih, String.intercalate_cons_cons]
      simp

/-- Proper names are what stands between the slashes of their join. -/
theorem pieces_join (hne : names ≠ []) (h : ∀ name ∈ names, IsProper name) :
    pieces '/' (joinPieces '/' (names.map String.toList)) = names.map String.toList := by
  refine pieces_joinPieces (by simpa using hne) fun p hp => ?_
  obtain ⟨name, hname, rfl⟩ := List.mem_map.mp hp
  exact (h name hname).2.2

theorem isTight_join (h : ∀ name ∈ names, IsProper name) :
    IsTight (joinPieces '/' (names.map String.toList)) := by
  rw [isTight_iff]
  by_cases hne : names = []
  · exact .inl (by rw [hne]; rfl)
  · refine .inr ?_
    rw [pieces_join hne h]
    intro hmem
    obtain ⟨name, hname, hnil⟩ := List.mem_map.mp hmem
    exact (h name hname).1 (String.toList_eq_nil_iff.mp hnil)

theorem namesOf_join (h : ∀ name ∈ names, IsProper name) :
    namesOf (joinPieces '/' (names.map String.toList)) = names := by
  by_cases hne : names = []
  · rw [hne]
    rfl
  · rw [namesOf, pieces_join hne h, List.map_map]
    have hid : (String.ofList ∘ String.toList) = id := funext fun _ => String.ofList_toList
    rw [hid, List.map_id]
    refine List.filter_eq_self.mpr fun name hname => ?_
    exact decide_eq_true ⟨(h name hname).1, (h name hname).2.1⟩

/-! ### Slashes in front -/

theorem namesOf_cons_slash (cs : List Char) : namesOf ('/' :: cs) = namesOf cs := by
  simp [namesOf, pieces]

theorem namesOf_start_append (start : Start) (cs : List Char) :
    namesOf (start.text.toList ++ cs) = namesOf cs := by
  cases start with
  | here => rfl
  | root => exact namesOf_cons_slash cs
  | doubleRoot => exact (namesOf_cons_slash _).trans (namesOf_cons_slash cs)

theorem startOf_eq_doubleRoot_iff : startOf text.toList = .doubleRoot ↔ BeginsWithPair text := by
  unfold BeginsWithPair
  generalize text.toList = cs
  unfold startOf
  split
  · simp
  · rename_i rest hrest
    refine iff_of_true rfl ⟨rest, rfl, fun h => ?_⟩
    obtain ⟨more, rfl⟩ := List.head?_eq_some_iff.mp h
    exact hrest more rfl
  · rename_i hrest
    simp only [reduceCtorEq, List.cons.injEq, true_and, false_iff]
    rintro ⟨rest, rfl, -⟩
    exact hrest rest rfl
  · rename_i hrest
    simp only [reduceCtorEq, false_iff]
    rintro ⟨rest, rfl, -⟩
    exact hrest _ rfl

theorem startOf_start_append (start : Start) (h : cs.head? ≠ some '/') :
    startOf (start.text.toList ++ cs) = start := by
  cases cs with
  | nil => cases start <;> rfl
  | cons c cs =>
    have hc : c ≠ '/' := by simpa using h
    cases start <;> simp [Start.text, startOf, hc]

theorem mem_pieces_start_append {piece : List Char} (start : Start) (h : piece ≠ []) :
    piece ∈ pieces '/' (start.text.toList ++ cs) ↔ piece ∈ pieces '/' cs := by
  cases start <;> simp [Start.text, pieces, h]

/-- A text is the slashes that tell where it starts, and a rest. The rest begins with a slash only
if three slashes or more begin the text. -/
theorem exists_rest (cs : List Char) : ∃ rest, cs = (startOf cs).text.toList ++ rest ∧
    (rest.head? = some '/' → ∃ more, cs = '/' :: '/' :: '/' :: more) := by
  unfold startOf
  split
  · exact ⟨_, rfl, fun _ => ⟨_, rfl⟩⟩
  · rename_i rest hrest
    refine ⟨rest, rfl, fun h => ?_⟩
    obtain ⟨more, rfl⟩ := List.head?_eq_some_iff.mp h
    exact absurd rfl (hrest more)
  · rename_i rest _ hrest
    refine ⟨rest, rfl, fun h => ?_⟩
    obtain ⟨more, rfl⟩ := List.head?_eq_some_iff.mp h
    exact absurd rfl (hrest more)
  · rename_i hcs
    refine ⟨cs, rfl, fun h => ?_⟩
    obtain ⟨more, rfl⟩ := List.head?_eq_some_iff.mp h
    exact absurd rfl (hcs more)

/-! ### Paths and their texts -/

theorem toList_toText (p : Path) (h : ¬(p.start = .here ∧ p.names = [])) :
    p.toText.toList = p.start.text.toList ++ joinPieces '/' (p.names.map String.toList) := by
  rw [toText, if_neg h, String.toList_append, toList_intercalate_slash]

/-- **A path is read back from its text.** -/
theorem ofText_toText (p : Path) : ofText p.toText = p := by
  obtain ⟨start, names, hproper⟩ := p
  by_cases h : start = .here ∧ names = []
  · have hdot : ofText "." = ⟨.here, [], by simp⟩ := by decide +kernel
    obtain ⟨rfl, rfl⟩ := h
    exact hdot
  · have htext := toList_toText ⟨start, names, hproper⟩ h
    have hstart := startOf_start_append start (isTight_join hproper).head
    have hnames := namesOf_start_append start (joinPieces '/' (names.map String.toList))
    simp only [ofText, htext, hstart, hnames, namesOf_join hproper]

theorem toText_ne_empty (p : Path) : p.toText ≠ "" := by
  intro h
  have hp := ofText_toText p
  rw [h] at hp
  rw [← hp] at h
  exact absurd h (by decide +kernel)

theorem dot_not_mem_pieces_join (h : ∀ name ∈ names, IsProper name) :
    ['.'] ∉ pieces '/' (joinPieces '/' (names.map String.toList)) := by
  by_cases hne : names = []
  · simp [hne, joinPieces, pieces]
  · rw [pieces_join hne h]
    intro hmem
    obtain ⟨name, hname, hdot⟩ := List.mem_map.mp hmem
    exact (h name hname).2.1 (String.toList_inj.mp hdot)

/-- What is normal: slashes that tell where a path starts, and a tight rest without single dots. -/
theorem isNormal_of_isTight {start : Start} (hne : text ≠ "")
    (htext : text.toList = start.text.toList ++ cs) (ht : IsTight cs)
    (hdot : ['.'] ∉ pieces '/' cs) : IsNormal text where
  ne_empty := hne
  no_dot h := by
    rw [htext, mem_pieces_start_append start (List.cons_ne_nil _ _)] at h
    exact absurd h hdot
  no_repeat before after h := by
    rw [htext] at h
    cases start with
    | here => exact absurd h (ht.no_repeat before after)
    | root =>
      cases before with
      | nil => rfl
      | cons b before => exact absurd (List.cons.inj h).2 (ht.no_repeat before after)
    | doubleRoot =>
      match before with
      | [] => rfl
      | [b] =>
        have hcs : cs = '/' :: after := (List.cons.inj (List.cons.inj h).2).2
        exact absurd (by rw [hcs]; rfl) ht.head
      | b :: c :: before =>
        exact absurd (List.cons.inj (List.cons.inj h).2).2 (ht.no_repeat before after)
  no_trailing h := by
    rw [htext] at h ⊢
    by_cases hcs : cs = []
    · cases start <;> simp [hcs, Start.text]
    · rw [List.getLast?_append_of_ne_nil _ hcs] at h
      exact absurd h ht.last

/-- **The text of a path is normal.** -/
theorem isNormal_toText (p : Path) : IsNormal p.toText := by
  by_cases h : p.start = .here ∧ p.names = []
  · have htext : p.toText = "." := if_pos h
    rw [htext]
    refine ⟨by decide, fun _ => rfl, fun before after he => ?_, by decide⟩
    have hmem : '/' ∈ ".".toList := by simp [he]
    exact absurd hmem (by decide)
  · exact isNormal_of_isTight p.toText_ne_empty (toList_toText p h)
      (isTight_join p.names_proper) (dot_not_mem_pieces_join p.names_proper)

/-! ### Normal texts -/

/-- Conversely, a normal text is such slashes and such a rest. -/
theorem IsNormal.exists_isTight (h : IsNormal text) (hsingle : text ≠ ".") :
    ∃ cs, text.toList = (startOf text.toList).text.toList ++ cs ∧ IsTight cs ∧
      ['.'] ∉ pieces '/' cs := by
  obtain ⟨cs, htext, hmore⟩ := exists_rest text.toList
  have hhead : cs.head? ≠ some '/' := by
    intro hcs
    obtain ⟨more, htriple⟩ := hmore hcs
    exact absurd (h.no_repeat ['/'] more htriple) (List.cons_ne_nil _ _)
  refine ⟨cs, htext, ⟨hhead, fun hcs => ?_, fun before after hcs => ?_⟩, fun hmem => ?_⟩
  · -- a slash at the end would make all of them slashes, the first one too
    obtain ⟨init, rfl⟩ := List.getLast?_eq_some_iff.mp hcs
    have hlast : text.toList.getLast? = some '/' := by
      rw [htext, ← List.append_assoc, List.getLast?_concat]
    have hall := h.no_trailing hlast
    rw [htext] at hall
    cases init with
    | nil => exact hhead rfl
    | cons c init =>
      have hc : c = '/' := hall c (by simp)
      exact hhead (by rw [hc]; rfl)
  · have hrepeat : text.toList =
        ((startOf text.toList).text.toList ++ before) ++ '/' :: '/' :: after := by
      rw [List.append_assoc, ← hcs, ← htext]
    have hbefore := (List.append_eq_nil_iff.mp (h.no_repeat _ _ hrepeat)).2
    exact hhead (by rw [hcs, hbefore]; rfl)
  · rw [← mem_pieces_start_append (startOf text.toList) (List.cons_ne_nil _ _), ← htext] at hmem
    exact hsingle (h.no_dot hmem)

theorem join_namesOf (ht : IsTight cs) (hdot : ['.'] ∉ pieces '/' cs) :
    joinPieces '/' ((namesOf cs).map String.toList) = cs := by
  rcases isTight_iff.mp ht with rfl | hnil
  · rfl
  · have hall : namesOf cs = (pieces '/' cs).map String.ofList := by
      refine List.filter_eq_self.mpr fun name hname => ?_
      obtain ⟨piece, hpiece, rfl⟩ := List.mem_map.mp hname
      have hempty : String.ofList piece ≠ "" := by
        intro h
        rw [String.ofList_eq_empty_iff.mp h] at hpiece
        exact hnil hpiece
      have hsingle : String.ofList piece ≠ "." := by
        intro h
        have hp : piece = ['.'] := by simpa using congrArg String.toList h
        exact hdot (hp ▸ hpiece)
      exact decide_eq_true ⟨hempty, hsingle⟩
    have hid : (String.toList ∘ String.ofList) = id := funext fun _ => String.toList_ofList
    rw [hall, List.map_map, hid, List.map_id, joinPieces_pieces]

/-- **A normal text is its own normal form.** -/
theorem normalForm_of_isNormal (h : IsNormal text) : normalForm text = text := by
  by_cases hsingle : text = "."
  · rw [hsingle]
    decide +kernel
  obtain ⟨cs, htext, ht, hdot⟩ := h.exists_isTight hsingle
  have hnames : (ofText text).names = namesOf cs := by
    have hstart := namesOf_start_append (startOf text.toList) cs
    rwa [← htext] at hstart
  have hjoin := join_namesOf ht hdot
  have hne : ¬((ofText text).start = .here ∧ (ofText text).names = []) := by
    rintro ⟨hstart, hnil⟩
    have hcs : cs = [] := by
      rw [← hjoin, ← hnames, hnil]
      rfl
    have hempty : text.toList = [] := by
      rw [htext, hcs, List.append_nil]
      exact congrArg (·.text.toList) hstart
    exact h.ne_empty (String.toList_eq_nil_iff.mp hempty)
  refine String.toList_inj.mp ?_
  rw [normalForm, toList_toText _ hne, hnames, hjoin]
  exact htext.symm

/-- A text and its normal form name the same path. -/
theorem ofText_normalForm (text : String) : ofText (normalForm text) = ofText text :=
  ofText_toText _

/-- Normalising twice changes nothing. -/
theorem normalForm_normalForm (text : String) : normalForm (normalForm text) = normalForm text :=
  normalForm_of_isNormal (isNormal_toText _)

/-- There is one normal text for each path. -/
theorem IsNormal.eq_normalForm (h : IsNormal other) (hp : ofText other = ofText text) :
    other = normalForm text := by
  rw [normalForm, ← hp]
  exact (normalForm_of_isNormal h).symm

/-- A pair of slashes at the beginning is kept, and none is made. -/
theorem beginsWithPair_normalForm : BeginsWithPair (normalForm text) ↔ BeginsWithPair text := by
  rw [← startOf_eq_doubleRoot_iff, ← startOf_eq_doubleRoot_iff]
  have hstart := congrArg Path.start (ofText_normalForm text)
  exact iff_of_eq (congrArg (· = Start.doubleRoot) hstart)

end PinnedRun.Path
