import PinnedRun.Text.Split

/-!
# Paths in normal form

A path is where it starts and the names that lead on from there. Reading a path drops the names
that are empty or a single dot; a double dot stays. A text that begins with exactly two slashes
starts at a place of its own, one with three or more at the root like one with a single slash.

* `Path.ofText` reads a path, `Path.toText` writes its normal form;
* `Path.names_proper` is what every name of a path satisfies;
* `Path.ofText_of_not_mem` is the path of a text without slashes.
-/

namespace PinnedRun

/-- Where a path starts. -/
inductive Path.Start where
  /-- The working directory. -/
  | here
  /-- The root. -/
  | root
  /-- The place that two leading slashes name. -/
  | doubleRoot
deriving Repr, DecidableEq

/-- A name that a normal form keeps. -/
def Path.IsProper (name : String) : Prop := name ≠ "" ∧ name ≠ "." ∧ '/' ∉ name.toList

instance (name : String) : Decidable (Path.IsProper name) :=
  inferInstanceAs (Decidable (_ ∧ _ ∧ _))

/-- A path in normal form. -/
structure Path where
  start : Path.Start
  names : List String
  names_proper : ∀ name ∈ names, Path.IsProper name
deriving DecidableEq

namespace Path

/-- Where a text starts, by its leading slashes. -/
def startOf : List Char → Start
  | '/' :: '/' :: '/' :: _ => .root
  | '/' :: '/' :: _ => .doubleRoot
  | '/' :: _ => .root
  | _ => .here

/-- The names of a text: what stands between slashes, less the empty names and single dots. -/
def namesOf (cs : List Char) : List String :=
  ((Text.pieces '/' cs).map String.ofList).filter fun name => name ≠ "" ∧ name ≠ "."

theorem isProper_of_mem_namesOf {cs : List Char} {name : String} (h : name ∈ namesOf cs) :
    IsProper name := by
  simp only [namesOf, List.mem_filter, List.mem_map, decide_eq_true_eq] at h
  obtain ⟨⟨piece, hpiece, rfl⟩, hne, hdot⟩ := h
  exact ⟨hne, hdot, by simpa using Text.not_mem_of_mem_pieces hpiece⟩

/-- The path that a text names. -/
def ofText (text : String) : Path :=
  ⟨startOf text.toList, namesOf text.toList, fun _ => isProper_of_mem_namesOf⟩

/-- The slashes before the names. -/
def Start.text : Start → String
  | here => ""
  | root => "/"
  | doubleRoot => "//"

/-- The normal form as text; the working directory itself is a single dot. -/
def toText (p : Path) : String :=
  if p.start = .here ∧ p.names = [] then "." else p.start.text ++ "/".intercalate p.names

example : (ofText "a//./b/../c/").toText = "a/b/../c" := by decide +kernel

example : (ofText "///x").toText = "/x" ∧ (ofText "//x").toText = "//x" := by decide +kernel

/-! ### A text without slashes -/

theorem startOf_of_not_mem {cs : List Char} (h : '/' ∉ cs) : startOf cs = .here := by
  cases cs with
  | nil => rfl
  | cons c cs =>
    have hc : c ≠ '/' := fun hc => h (hc ▸ List.mem_cons_self)
    unfold startOf
    split <;> simp_all

theorem namesOf_of_not_mem {cs : List Char} (h : '/' ∉ cs) :
    namesOf cs = [String.ofList cs].filter fun name => name ≠ "" ∧ name ≠ "." := by
  rw [namesOf, Text.pieces_of_not_mem h, List.map_singleton]

/-- A text without slashes starts at the working directory and is its only name. -/
theorem ofText_of_not_mem {text : String} (h : '/' ∉ text.toList) :
    (ofText text).start = .here ∧
      (ofText text).names = if text = "" ∨ text = "." then [] else [text] := by
  have hnames : (ofText text).names = [text].filter fun name => name ≠ "" ∧ name ≠ "." := by
    have hcs := namesOf_of_not_mem h
    rwa [String.ofList_toList] at hcs
  refine ⟨startOf_of_not_mem h, ?_⟩
  rw [hnames]
  by_cases hempty : text = "" <;> by_cases hdot : text = "." <;> simp [hempty, hdot]

end Path

end PinnedRun
