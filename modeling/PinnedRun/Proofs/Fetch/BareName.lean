import PinnedRun.Proofs.Fetch.Overwrite

/-!
# Fetches to a bare name

A destination without slashes is a name in the home. A fetch to it changes at most the file of this
name (`Attempt.confinedTo`). The empty name and the dots lead to a directory: a fetch to one of them
changes nothing, and it fails as a fetch whatever the server answers
(`Attempt.isFetch_of_directory`).
-/

namespace PinnedRun

namespace Volume

variable {v v' : Volume} {name : String} {p : Path} {content : ByteArray}

/-- The names that lead to a directory in any volume. -/
def IsDirectoryName (name : String) : Prop := name = "" ∨ name = "." ∨ name = ".."

/-- A later volume is an earlier one again, apart from the file of a name in the home; it is the
same if the name leads to a directory. -/
structure ConfinedTo (name : String) (v v' : Volume) : Prop where
  wellFormed : v'.WellFormed
  sameTree : v.SameTree v'
  changed : ∀ l, v'.lookup l ≠ v.lookup l →
    l = v.home ++ [name] ∧ ∃ content, v'.lookup l = some (.file content)
  unchanged : IsDirectoryName name → v' = v

theorem WellFormed.confinedTo_self (hv : v.WellFormed) (name : String) : v.ConfinedTo name v :=
  ⟨hv, .refl v, fun _ h => absurd rfl h, fun _ => rfl⟩

theorem resolve_ofText_of_name (h : '/' ∉ name.toList) (hn : ¬ IsDirectoryName name) :
    v.resolve (.ofText name) = v.home ++ [name] := by
  simp only [IsDirectoryName, not_or] at hn
  simp [resolve_ofText_of_not_mem v h, advance, hn]

theorem WellFormed.lookup_resolve_of_isDirectoryName (hv : v.WellFormed)
    (hn : IsDirectoryName name) : v.lookup (v.resolve (.ofText name)) = some .directory := by
  have hslash : '/' ∉ name.toList := by
    obtain rfl | rfl | rfl := hn <;> decide
  rw [resolve_ofText_of_not_mem v hslash]
  obtain rfl | rfl | rfl := hn
  · exact hv.home
  · exact hv.home
  · -- the parent of the home, or the home itself if it is the root
    exact hv.lookup_dropLast hv.home

theorem WellFormed.write_ne_ok_of_directory (hv : v.WellFormed)
    (hd : v.lookup (v.resolve p) = some .directory) : v.write p content ≠ .ok v' :=
  fun h => (hv.write_eq_ok h).1.vacant hd

theorem isSystem_of_write {f : Fault} (hp : '\x00' ∉ p.toText.toList)
    (h : v.write p content = .error f) : f.isSystem = true := by
  rw [write, if_neg hp] at h
  cases ht : v.target p with
  | ok l =>
    rw [ht] at h
    cases h
  | error refusal =>
    rw [ht] at h
    obtain rfl := Except.error.inj h
    rfl

theorem WellFormed.confinedTo_write (hv : v.WellFormed) (hslash : '/' ∉ name.toList)
    (h : v.write (.ofText name) content = .ok v') : v.ConfinedTo name v' := by
  have hn : ¬ IsDirectoryName name := fun hn =>
    hv.write_ne_ok_of_directory (hv.lookup_resolve_of_isDirectoryName hn) h
  refine ⟨hv.write h, hv.sameTree_write h, fun l hl => ?_, fun hn' => absurd hn' hn⟩
  rw [lookup_write h, resolve_ofText_of_name hslash hn] at hl ⊢
  split at hl
  · rename_i hloc
    exact ⟨hloc, content, if_pos hloc⟩
  · exact absurd rfl hl

end Volume

namespace Fetch.Attempt

open Volume (IsDirectoryName)

variable {a : Attempt} {name : String}

/-- **A fetch to a bare name is confined to it.** -/
theorem confinedTo (hw : a.before.volume.WellFormed) (ha : a.errand.destination = .text name)
    (hslash : '/' ∉ name.toList) : a.before.volume.ConfinedTo name a.after.volume := by
  obtain ⟨e, -, hv⟩ | ⟨response, v, h⟩ := a.fails_or_lands
  · rw [hv]
    exact hw.confinedTo_self name
  · have hwrite := h.write
    rw [ha] at hwrite
    rw [h.result_after.2]
    exact hw.confinedTo_write hslash hwrite

theorem result_ne_ok_of_directory (hw : a.before.volume.WellFormed)
    (hd : a.before.volume.lookup a.location = some .directory) (r : FetchResult) :
    a.result ≠ .ok r := by
  intro h
  obtain ⟨response, v, hl⟩ := lands_of_result h
  exact hw.write_ne_ok_of_directory hd hl.write

/-- A fetch to a directory fails as a fetch if the server answers. -/
theorem isFetch_of_directory (hw : a.before.volume.WellFormed) (hu : a.errand.url ≠ "")
    (hdest : a.errand.destination.isEmpty = false)
    (hnul : '\x00' ∉ a.errand.destination.toPath.toText.toList)
    (hd : a.before.volume.lookup a.location = some .directory) {response : Response}
    (hr : a.reply = .ok response) : ∃ e, a.result = .error e ∧ e.fault.isFetch = true := by
  have hc := fetchTo_course a.settings a.errand.url a.errand.destination.toPath a.before
  unfold result
  rw [fetch_of_ne hu hdest]
  generalize fetchTo a.settings a.errand.url a.errand.destination.toPath a.before = p at *
  obtain ⟨r, w'⟩ := p
  cases hc with
  | unanswered f hf | brokenOff f hf => exact nomatch hr.symm.trans hf
  | declined | refused => exact ⟨_, rfl, rfl⟩
  | unwritable response' _ _ f hwrite hf =>
    exact nomatch (Volume.isSystem_of_write hnul hwrite).symm.trans hf
  | written response' _ _ v hwrite => exact absurd hwrite (hw.write_ne_ok_of_directory hd)

end Fetch.Attempt

end PinnedRun
