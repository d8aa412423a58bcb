import PinnedRun.Volume.Write

/-!
# Where a path leads

A path leads from where it starts along its names, where a double dot goes back by one
(`Volume.resolve`). A write that succeeds replaces the file at that location and changes what no
other location holds (`Volume.lookup_write`). In a well-formed volume the location lies in a
directory and is none itself (`Volume.WellFormed.write_eq_ok`), so the write keeps the volume
well-formed (`Volume.WellFormed.write`) and the tree of directories as it is
(`Volume.WellFormed.sameTree_write`). Volumes with the same tree can be written at the same paths
(`Volume.SameTree.exists_write`).
-/

namespace PinnedRun.Volume

variable {v v' : Volume} {l : Location} {p : Path} {content : ByteArray}

/-- One name further; a double dot goes back. -/
def advance (here : Location) (name : String) : Location :=
  if name = ".." then here.dropLast else here ++ [name]

/-- The location that the names of a path lead to. -/
def resolve (v : Volume) (p : Path) : Location := p.names.foldl advance (v.startOf p.start)

/-- A text without slashes leads one name from the home, or nowhere. -/
theorem resolve_ofText_of_not_mem (v : Volume) {text : String} (h : '/' ∉ text.toList) :
    v.resolve (.ofText text) =
      if text = "" ∨ text = "." then v.home else advance v.home text := by
  obtain ⟨hstart, hnames⟩ := Path.ofText_of_not_mem h
  rw [resolve, hstart, hnames]
  split <;> rfl

/-! ### Walking along names -/

theorem step_eq_ok {here : Location} {name : String} (h : v.step here name = .ok l) :
    v.lookup here = some .directory ∧ l = advance here name := by
  unfold step at h
  split at h
  · cases h
  · cases h
  · rename_i hd
    refine ⟨hd, ?_⟩
    unfold advance
    split at h
    · rename_i hn
      rw [if_pos hn]
      exact (Except.ok.inj h).symm
    · rename_i hn
      rw [if_neg hn]
      split at h
      · cases h
      · exact (Except.ok.inj h).symm

theorem walk_eq_ok {here : Location} {names : List String} (h : v.walk here names = .ok l) :
    l = names.foldl advance here := by
  induction names generalizing here with
  | nil => exact (Except.ok.inj h).symm
  | cons name names ih =>
    rw [walk] at h
    cases hs : v.step here name with
    | error refusal =>
      rw [hs] at h
      cases h
    | ok next =>
      rw [hs] at h
      obtain ⟨-, rfl⟩ := step_eq_ok hs
      exact ih h

/-- What a location lies in is a directory. -/
theorem WellFormed.lookup_dropLast (hv : v.WellFormed) {node : Node} (h : v.lookup l = some node) :
    v.lookup l.dropLast = some .directory := by
  obtain rfl | ⟨parent, name, rfl⟩ := l.eq_nil_or_concat
  · -- the root lies in itself
    rfl
  · rw [List.concat_eq_append] at h ⊢
    rw [List.dropLast_concat]
    exact hv.parent parent name node h

theorem WellFormed.lookup_dropLast_advance (hv : v.WellFormed) {here : Location} {name : String}
    (h : v.lookup here = some .directory) :
    v.lookup (advance here name).dropLast = some .directory := by
  unfold advance
  split
  · exact hv.lookup_dropLast (hv.lookup_dropLast h)
  · rwa [List.dropLast_concat]

/-- A walk leads from a location in a directory to another one. -/
theorem WellFormed.lookup_dropLast_walk (hv : v.WellFormed) {here : Location}
    {names : List String} (hh : v.lookup here.dropLast = some .directory)
    (h : v.walk here names = .ok l) : v.lookup l.dropLast = some .directory := by
  -- on the names; a directory lies in a directory, so every step ends in one again
  induction names generalizing here with
  | nil =>
    obtain rfl : here = l := Except.ok.inj h
    exact hh
  | cons name names ih =>
    rw [walk] at h
    cases hs : v.step here name with
    | error refusal =>
      rw [hs] at h
      cases h
    | ok next =>
      rw [hs] at h
      obtain ⟨hd, rfl⟩ := step_eq_ok hs
      exact ih (hv.lookup_dropLast_advance hd) h

theorem WellFormed.lookup_startOf (hv : v.WellFormed) (start : Path.Start) :
    v.lookup (v.startOf start) = some .directory := by
  cases start with
  | here => exact hv.home
  | root | doubleRoot => rfl

/-! ### Writing -/

/-- The location of a file that can be written: it lies in a directory and is none itself. -/
structure Writable (v : Volume) (l : Location) : Prop where
  parent : v.lookup l.dropLast = some .directory
  vacant : v.lookup l ≠ some .directory

theorem Writable.ne_nil (h : v.Writable l) : l ≠ [] := by
  rintro rfl
  exact h.vacant rfl

theorem target_eq_ok (h : v.target p = .ok l) :
    v.walk (v.startOf p.start) p.names = .ok l ∧ v.lookup l ≠ some .directory := by
  unfold target at h
  split at h
  · cases h
  · cases hw : v.walk (v.startOf p.start) p.names with
    | error refusal =>
      rw [hw] at h
      cases h
    | ok l' =>
      simp only [hw, Except.bind] at h
      split at h
      · cases h
      · rename_i hd
        obtain rfl : l' = l := Except.ok.inj h
        exact ⟨rfl, hd⟩

theorem write_eq_ok (h : v.write p content = .ok v') :
    v.target p = .ok (v.resolve p) ∧ v' = v.put (v.resolve p) (.file content) := by
  unfold write at h
  split at h
  · cases h
  · cases ht : v.target p with
    | error refusal =>
      rw [ht] at h
      cases h
    | ok l =>
      rw [ht] at h
      obtain rfl : l = v.resolve p := walk_eq_ok (target_eq_ok ht).1
      exact ⟨rfl, (Except.ok.inj h).symm⟩

/-- **A write that succeeds changes what one location holds, as a whole.** -/
theorem lookup_write (h : v.write p content = .ok v') (l : Location) :
    v'.lookup l = if l = v.resolve p then some (.file content) else v.lookup l := by
  obtain ⟨ht, rfl⟩ := write_eq_ok h
  have hne : v.resolve p ≠ [] := fun hroot => (target_eq_ok ht).2 (hroot ▸ rfl)
  exact lookup_put v hne _ l

/-- A write that succeeds replaces what the location of the path holds. -/
theorem WellFormed.write_eq_ok (hv : v.WellFormed) (h : v.write p content = .ok v') :
    v.Writable (v.resolve p) ∧ v' = v.put (v.resolve p) (.file content) := by
  obtain ⟨ht, hput⟩ := Volume.write_eq_ok h
  obtain ⟨hw, hd⟩ := target_eq_ok ht
  have hparent := hv.lookup_dropLast_walk (hv.lookup_dropLast (hv.lookup_startOf p.start)) hw
  exact ⟨⟨hparent, hd⟩, hput⟩

/-- A file put where one can be written takes no directory away and makes none. -/
theorem Writable.lookup_put_eq_directory_iff (hl : v.Writable l) (m : Location) :
    (v.put l (.file content)).lookup m = some .directory ↔ v.lookup m = some .directory := by
  rw [lookup_put v hl.ne_nil]
  split
  · rename_i hm
    subst hm
    exact ⟨fun h => by simp at h, fun h => absurd h hl.vacant⟩
  · rfl

theorem nodup_put (hu : (v.entries.map (·.1)).Nodup) (n : Node) :
    ((v.put l n).entries.map (·.1)).Nodup := by
  refine List.nodup_cons.mpr ⟨?_, ?_⟩
  · simp
  · exact hu.sublist (List.filter_sublist.map _)

/-- A file put where one can be written keeps the volume well-formed. -/
theorem WellFormed.put_file (hv : v.WellFormed) (hl : v.Writable l) :
    (v.put l (.file content)).WellFormed where
  parent m name node h := by
    rw [hl.lookup_put_eq_directory_iff]
    rw [lookup_put v hl.ne_nil] at h
    split at h
    · -- the new file itself
      rename_i hm
      have hp := hl.parent
      rwa [← hm, List.dropLast_concat] at hp
    · exact hv.parent m name node h
  home := (hl.lookup_put_eq_directory_iff v.home).mpr hv.home
  unique := nodup_put hv.unique _

theorem WellFormed.write (hv : v.WellFormed) (h : v.write p content = .ok v') :
    v'.WellFormed := by
  obtain ⟨hl, rfl⟩ := hv.write_eq_ok h
  exact hv.put_file hl

/-! ### The tree of directories -/

/-- Two volumes with the same home and the same directories. -/
structure SameTree (v v' : Volume) : Prop where
  home : v'.home = v.home
  directory : ∀ l, v'.lookup l = some .directory ↔ v.lookup l = some .directory

theorem SameTree.refl (v : Volume) : SameTree v v := ⟨rfl, fun _ => .rfl⟩

theorem SameTree.trans {v'' : Volume} (h : SameTree v v') (h' : SameTree v' v'') :
    SameTree v v'' :=
  ⟨h'.home.trans h.home, fun l => (h'.directory l).trans (h.directory l)⟩

theorem WellFormed.sameTree_write (hv : v.WellFormed) (h : v.write p content = .ok v') :
    SameTree v v' := by
  obtain ⟨hl, rfl⟩ := hv.write_eq_ok h
  exact ⟨rfl, hl.lookup_put_eq_directory_iff⟩

theorem SameTree.startOf (h : SameTree v v') (start : Path.Start) :
    v'.startOf start = v.startOf start := by
  cases start with
  | here => exact h.home
  | root | doubleRoot => rfl

theorem SameTree.resolve (h : SameTree v v') (p : Path) : v'.resolve p = v.resolve p := by
  simp only [Volume.resolve, h.startOf]

theorem SameTree.step_eq_ok (h : SameTree v v') {here : Location} {name : String}
    (hs : v.step here name = .ok l) : v'.step here name = .ok l := by
  have hd := (Volume.step_eq_ok hs).1
  have hd' := (h.directory here).mpr hd
  unfold step at hs ⊢
  rw [hd] at hs
  rwa [hd']

theorem SameTree.walk_eq_ok (h : SameTree v v') {here : Location} {names : List String}
    (hw : v.walk here names = .ok l) : v'.walk here names = .ok l := by
  induction names generalizing here with
  | nil => exact hw
  | cons name names ih =>
    rw [walk] at hw ⊢
    cases hs : v.step here name with
    | error refusal =>
      rw [hs] at hw
      cases hw
    | ok next =>
      rw [hs] at hw
      rw [h.step_eq_ok hs]
      exact ih hw

theorem SameTree.target_eq_ok (h : SameTree v v') (ht : v.target p = .ok l) :
    v'.target p = .ok l := by
  unfold target at ht ⊢
  split at ht
  · cases ht
  · rename_i hp
    rw [if_neg hp, h.startOf]
    cases hw : v.walk (v.startOf p.start) p.names with
    | error refusal =>
      rw [hw] at ht
      cases ht
    | ok l' =>
      simp only [hw, Except.bind] at ht
      simp only [h.walk_eq_ok hw, Except.bind, h.directory]
      exact ht

/-- What can be written in a volume can be written in every other one with the same tree. -/
theorem SameTree.exists_write (h : SameTree v v') (hw : ∃ u, v.write p content = .ok u) :
    ∃ u, v'.write p content = .ok u := by
  -- a walk that succeeds has looked at directories only, so it succeeds in the other volume too
  obtain ⟨u, hu⟩ := hw
  unfold Volume.write at hu ⊢
  split at hu
  · cases hu
  · rename_i hp
    rw [if_neg hp]
    cases ht : v.target p with
    | error refusal =>
      rw [ht] at hu
      cases hu
    | ok l =>
      rw [h.target_eq_ok ht]
      exact ⟨_, rfl⟩

/-! ### A volume to begin with -/

theorem lookup_bare_singleton (name : String) (l : Location) :
    (bare [name]).lookup l = if l = [] ∨ l = [name] then some .directory else none := by
  have hb : (bare [name]).lookup l =
      if l = [name] then some .directory else (⟨[name], []⟩ : Volume).lookup l :=
    lookup_put _ (List.cons_ne_nil _ _) _ _
  rw [hb]
  by_cases hn : l = [name]
  · rw [if_pos hn, if_pos (.inr hn)]
  · simp [hn, lookup]

/-- A home in the root and nothing else is well-formed. -/
theorem wellFormed_bare_singleton (name : String) : (bare [name]).WellFormed where
  parent l n node h := by
    rw [lookup_bare_singleton] at h ⊢
    split at h
    · rename_i hl
      have hn : l = [] ∧ n = name := by simpa [List.append_eq_singleton_iff] using hl
      exact if_pos (.inl hn.1)
    · cases h
  home := by
    rw [lookup_bare_singleton]
    exact if_pos (.inr rfl)
  unique := by simp [bare, makeDirectories, lookup, put]

end PinnedRun.Volume
