import PinnedRun.Proofs.Settings.Completeness

/-!
# The names that fetch settings lead to

Fetch settings lead to the address of a file and to a local name. There is an address if no part of
the reference to the file is empty, and otherwise the first empty part is reported. The local name
is the output if one is given, whether there is an address or not; else it is what stands behind the
last slash of the address (`FetchSettings.derived_names`).

* `FetchSettings.parts` are the parts of the reference in order;
* `FetchSettings.FirstEmpty` tells the first of them that is empty.
-/

namespace PinnedRun

namespace RemoteFile

theorem not_mem_basename (f : RemoteFile) : '/' ∉ f.basename.toList := by
  rw [basename, String.toList_ofList]
  exact Text.not_mem_afterLast '/' f.filePath.toList

theorem filePath_eq_or (f : RemoteFile) :
    f.filePath = f.basename ∨ ∃ before, f.filePath = before ++ "/" ++ f.basename := by
  rcases Text.eq_afterLast_or '/' f.filePath.toList with h | ⟨before, h⟩
  · refine .inl (String.toList_inj.mp ?_)
    rwa [basename, String.toList_ofList]
  · refine .inr ⟨String.ofList before, String.toList_inj.mp ?_⟩
    simpa [basename] using h

/-- The address ends as the file path does, since a slash stands between its parts. -/
theorem exists_url_eq (f : RemoteFile) : ∃ before, f.url = before ++ "/" ++ f.basename := by
  rcases f.filePath_eq_or with h | ⟨before, h⟩
  · exact ⟨f.baseUrl ++ "/" ++ f.branch, by rw [← h, url]⟩
  · refine ⟨f.baseUrl ++ "/" ++ f.branch ++ "/" ++ before, ?_⟩
    rw [url, h]
    simp only [String.append_assoc]

end RemoteFile

namespace FetchSettings

variable {s : FetchSettings} {reason : Unusable}

/-- The parts of the reference to the file, each with what it is called. -/
def parts (s : FetchSettings) : List (String × String) :=
  [("base URL", s.baseUrl), ("branch", s.branch), ("file path", s.filePath)]

/-- The first part that is empty is called so. -/
def FirstEmpty (s : FetchSettings) (name : String) : Prop :=
  ∃ before after, s.parts = before ++ (name, "") :: after ∧ ∀ part ∈ before, part.2 ≠ ""

/-! ### The reference -/

theorem exists_remoteFile_error_iff :
    (∃ reason, s.remoteFile = .error reason) ↔
      s.baseUrl = "" ∨ s.branch = "" ∨ s.filePath = "" := by
  by_cases hbase : s.baseUrl = ""
  · simp [remoteFile, hbase]
  · by_cases hbranch : s.branch = ""
    · simp [remoteFile, hbase, hbranch]
    · by_cases hpath : s.filePath = "" <;> simp [remoteFile, hbase, hbranch, hpath]

/-- The fault of a reference names its first empty part. -/
theorem firstEmpty_of_remoteFile (h : s.remoteFile = .error reason) :
    ∃ name, s.FirstEmpty name ∧ reason.message = "Toolchain " ++ name ++ " must not be empty" := by
  unfold remoteFile at h
  split at h
  · rename_i hbase
    obtain rfl := Except.error.inj h
    exact ⟨"base URL", ⟨[], _, by rw [parts, hbase]; rfl, by simp⟩, rfl⟩
  · rename_i hbase
    split at h
    · rename_i hbranch
      obtain rfl := Except.error.inj h
      exact ⟨"branch", ⟨[("base URL", s.baseUrl)], _, by rw [parts, hbranch]; rfl, by simp [hbase]⟩,
        rfl⟩
    · rename_i hbranch
      split at h
      · rename_i hpath
        obtain rfl := Except.error.inj h
        exact ⟨"file path", ⟨[("base URL", s.baseUrl), ("branch", s.branch)], [],
          by rw [parts, hpath]; rfl, by simp [hbase, hbranch]⟩, rfl⟩
      · exact nomatch h

/-! ### The local name -/

theorem not_lacksOutput_iff :
    ¬s.LacksOutput ↔ ∃ output, s.output = some output ∧ output ≠ "" := by
  unfold LacksOutput
  cases s.output <;> simp

theorem destination_of_some {output : String} (h : s.output = some output) (hne : output ≠ "") :
    s.destination = .ok output := by
  rw [destination_of_output (not_lacksOutput_iff.mpr ⟨output, h, hne⟩), h, Option.getD_some]

theorem exists_destination_iff :
    (∃ name, s.destination = .ok name) ↔ (∃ output, s.output = some output ∧ output ≠ "") ∨
      (∃ file, s.remoteFile = .ok file) ∧ ¬s.EndsWithSlash := by
  rw [← not_lacksOutput_iff]
  by_cases h : s.LacksOutput
  · simp only [destination_eq_ok_iff h, h, not_true, false_or]
    constructor
    · rintro ⟨name, file, hf, rfl, hne⟩
      obtain ⟨⟨-, -, hpath⟩, rfl⟩ := remoteFile_eq_ok_iff.mp hf
      refine ⟨⟨_, hf⟩, fun hslash => hne ?_⟩
      exact (RemoteFile.basename_eq_empty_iff hpath).mpr hslash
    · rintro ⟨⟨file, hf⟩, hslash⟩
      obtain ⟨⟨-, -, hpath⟩, rfl⟩ := remoteFile_eq_ok_iff.mp hf
      refine ⟨_, _, hf, rfl, fun hempty => hslash ?_⟩
      exact (RemoteFile.basename_eq_empty_iff hpath).mp hempty
  · exact iff_of_true ⟨_, destination_of_output h⟩ (.inl h)

/-- **The address and the local name, for any settings.** The address is missing exactly if a part
of the reference is empty, and the first empty part is reported. There is a local name exactly if an
output is given, which is the name then whatever the reference is, or if there is an address and the
file path does not end with a slash. Without output the name is not empty and holds no slash, it is
what stands behind the last slash of the address, which is made up of its parts verbatim, and the
file path is the name or ends with a slash and the name. -/
theorem derived_names (s : FetchSettings) :
    ((∃ reason, s.remoteFile = .error reason) ↔
      s.baseUrl = "" ∨ s.branch = "" ∨ s.filePath = "") ∧
    (∀ reason, s.remoteFile = .error reason → ∃ name, s.FirstEmpty name ∧
      reason.message = "Toolchain " ++ name ++ " must not be empty") ∧
    ((∃ name, s.destination = .ok name) ↔ (∃ output, s.output = some output ∧ output ≠ "") ∨
      (∃ file, s.remoteFile = .ok file) ∧ ¬s.EndsWithSlash) ∧
    (∀ output, s.output = some output → output ≠ "" → s.destination = .ok output) ∧
    (s.LacksOutput → ∀ name, s.destination = .ok name →
      name ≠ "" ∧ '/' ∉ name.toList ∧ ∃ file, s.remoteFile = .ok file ∧
        file.url = s.baseUrl ++ "/" ++ s.branch ++ "/" ++ s.filePath ∧
        (∃ before, file.url = before ++ "/" ++ name) ∧
        (s.filePath = name ∨ ∃ before, s.filePath = before ++ "/" ++ name)) := by
  refine ⟨exists_remoteFile_error_iff, fun _ => firstEmpty_of_remoteFile, exists_destination_iff,
    fun _ => destination_of_some, fun h name hd => ?_⟩
  obtain ⟨file, hf, rfl, hne⟩ := (destination_eq_ok_iff h).mp hd
  refine ⟨hne, file.not_mem_basename, file, hf, ?_, file.exists_url_eq, ?_⟩
  · rw [(remoteFile_eq_ok_iff.mp hf).2, RemoteFile.url]
  · have hpath := file.filePath_eq_or
    rwa [(remoteFile_eq_ok_iff.mp hf).2] at hpath ⊢

example : ({ baseUrl := "", output := some "pin" } : FetchSettings).destination = .ok "pin" := rfl

end FetchSettings

end PinnedRun
