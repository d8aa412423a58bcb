import PinnedRun.Run
import PinnedRun.Settings.Override

/-!
# Which settings lead to a plan

Settings that come from an environment and a command line name every part of the file to fetch, and
a command of at least one word (`Settings.complete_of_resolve`): an empty value counts as none, and
a test command that is not blank has a word. Two things can be wrong. The test command of the
environment may not split into words (`Settings.resolve_eq_error_iff`), and a file path that ends
with a slash leads to no local name unless an output is given (`Plan.ofSettings_eq_error_iff`).
-/

namespace PinnedRun

open Options (Arguments textOf?)

/-- Settings that name every part of the file to fetch, and a command. -/
structure Settings.Complete (s : Settings) : Prop where
  baseUrl : s.fetch.baseUrl ≠ ""
  branch : s.fetch.branch ≠ ""
  filePath : s.fetch.filePath ≠ ""
  command : s.command ≠ []

/-- No output is given, or an empty one. -/
def FetchSettings.LacksOutput (s : FetchSettings) : Prop := s.output.getD "" = ""

/-- The file path ends with a slash. -/
def FetchSettings.EndsWithSlash (s : FetchSettings) : Prop := s.filePath.toList.getLast? = some '/'

instance (s : FetchSettings) : Decidable s.LacksOutput := inferInstanceAs (Decidable (_ = _))

instance (s : FetchSettings) : Decidable s.EndsWithSlash := inferInstanceAs (Decidable (_ = _))

variable {e : Environment} {a : Arguments} {s : Settings} {reason : Unusable}

/-! ### The test command -/

theorem isBlank_of_isSeparator {c : Char} (h : Shell.isSeparator c = true) :
    Text.isBlank c = true := by
  simp only [Shell.isSeparator, Bool.or_eq_true, decide_eq_true_eq] at h
  obtain ((rfl | rfl) | rfl) | rfl := h <;> decide

/-- A line that is not blank holds more than separators. -/
theorem exists_not_isSeparator {line : String} (h : Text.isBlankText line = false) :
    ∃ c ∈ line.toList, Shell.isSeparator c = false := by
  obtain ⟨c, hc, hb⟩ := List.all_eq_false.1 h
  refine ⟨c, hc, ?_⟩
  cases hs : Shell.isSeparator c with
  | false => rfl
  | true => exact absurd (isBlank_of_isSeparator hs) hb

theorem readCommand_ne_nil {value : Option String} {words : List String}
    (h : readCommand value = .ok words) : words ≠ [] := by
  unfold readCommand at h
  split at h
  · obtain rfl : defaultCommand = words := Except.ok.inj h
    exact List.cons_ne_nil _ _
  · rename_i line hv
    have hb : Text.isBlankText line = false := by
      have := (Option.filter_eq_some_iff.1 hv).2
      simpa using this
    obtain ⟨c, hc, hs⟩ := exists_not_isSeparator hb
    cases hsplit : Shell.Words.split line with
    | error fault =>
      rw [hsplit] at h
      cases h
    | ok ws =>
      rw [hsplit] at h
      obtain rfl : ws = words := Except.ok.inj h
      exact Shell.Words.split_ne_nil hsplit hc hs

theorem readCommand_eq_error_iff {value : Option String} :
    readCommand value = .error reason ↔ ∃ line fault, value = some line ∧
      Text.isBlankText line = false ∧ Shell.Words.split line = .error fault ∧
        reason = .unsplittable fault := by
  constructor
  · intro h
    unfold readCommand at h
    split at h
    · cases h
    · rename_i line hv
      obtain ⟨hv, hb⟩ := Option.filter_eq_some_iff.1 hv
      cases hsplit : Shell.Words.split line with
      | error fault =>
        rw [hsplit] at h
        exact ⟨line, fault, hv, by simpa using hb, hsplit, (Except.error.inj h).symm⟩
      | ok ws =>
        rw [hsplit] at h
        cases h
  · rintro ⟨line, fault, rfl, hb, hsplit, rfl⟩
    have hv : (some line).filter (! Text.isBlankText ·) = some line := by simp [Option.filter, hb]
    rw [readCommand, hv]
    dsimp only
    rw [hsplit]
    rfl

/-! ### The settings -/

theorem Settings.resolve_eq_error_iff :
    Settings.resolve e a = .error reason ↔ readCommand (e "TEST_COMMAND") = .error reason := by
  unfold Settings.resolve Settings.ofEnvironment
  cases readCommand (e "TEST_COMMAND") <;> simp [Except.map]

theorem Settings.resolve_eq_ok (h : Settings.resolve e a = .ok s) :
    ∃ words, readCommand (e "TEST_COMMAND") = .ok words ∧
      s.fetch = (FetchSettings.ofEnvironment e).override a ∧
      s.command = if a.words = [] then words else a.words := by
  unfold Settings.resolve Settings.ofEnvironment at h
  cases hr : readCommand (e "TEST_COMMAND") with
  | error reason =>
    rw [hr] at h
    cases h
  | ok words =>
    rw [hr] at h
    obtain rfl := Except.ok.inj h
    exact ⟨words, rfl, rfl, rfl⟩

/-- The value of an option, of a variable in its place, or else a default is not empty. -/
theorem getD_getD_ne_empty (given : Option Options.Value) (value : Option String)
    {default : String} (h : default ≠ "") :
    (textOf? given).getD ((readText value).getD default) ≠ "" := by
  have hv : (readText value).getD default ≠ "" := by
    cases hr : readText value with
    | none => exact h
    | some text => simpa using (Option.filter_eq_some_iff.1 hr).2
  match given with
  | none | some .removed => exact hv
  | some (.text text) =>
    by_cases ht : text = ""
    · simpa [textOf?, ht] using hv
    · simp [textOf?, ht]

/-- **Settings that are read from an environment and a command line lack nothing.** -/
theorem Settings.complete_of_resolve (h : Settings.resolve e a = .ok s) : s.Complete := by
  obtain ⟨words, hw, hf, hc⟩ := Settings.resolve_eq_ok h
  have hcommand : s.command ≠ [] := by
    rw [hc]
    split
    · exact readCommand_ne_nil hw
    · assumption
  refine ⟨?_, ?_, ?_, hcommand⟩ <;> rw [hf] <;> exact getD_getD_ne_empty _ _ (by decide)

/-! ### The reference and the local name -/

theorem FetchSettings.remoteFile_eq_ok_iff {s : FetchSettings} {file : RemoteFile} :
    s.remoteFile = .ok file ↔ (s.baseUrl ≠ "" ∧ s.branch ≠ "" ∧ s.filePath ≠ "") ∧
      file = ⟨s.baseUrl, s.branch, s.filePath⟩ := by
  by_cases hbase : s.baseUrl = ""
  · simp [remoteFile, hbase]
  · by_cases hbranch : s.branch = ""
    · simp [remoteFile, hbase, hbranch]
    · by_cases hpath : s.filePath = "" <;> simp [remoteFile, hbase, hbranch, hpath, eq_comm]

theorem RemoteFile.url_ne_empty (f : RemoteFile) : f.url ≠ "" := by
  simp [RemoteFile.url]

theorem RemoteFile.basename_eq_empty_iff {f : RemoteFile} (h : f.filePath ≠ "") :
    f.basename = "" ↔ f.filePath.toList.getLast? = some '/' := by
  have hne : f.filePath.toList ≠ [] := by simpa using h
  rw [RemoteFile.basename, String.ofList_eq_empty_iff, Text.afterLast_eq_nil_iff]
  simp [hne]

theorem FetchSettings.destination_of_lacksOutput {s : FetchSettings} (h : s.LacksOutput) :
    s.destination = s.remoteFile.bind fun file =>
      if file.basename = "" then .error (.noLocalName s.filePath) else .ok file.basename := by
  have ho : s.output.filter (· ≠ "") = none := by
    unfold LacksOutput at h
    cases hs : s.output with
    | none => rfl
    | some output => simp_all
  rw [destination, ho]

theorem FetchSettings.destination_of_output {s : FetchSettings} (h : ¬ s.LacksOutput) :
    s.destination = .ok (s.output.getD "") := by
  unfold LacksOutput at h
  cases hs : s.output with
  | none => simp [hs] at h
  | some output => simp_all [destination, Option.filter]

/-- Without output the local name is the basename of the file, unless that is empty. -/
theorem FetchSettings.destination_eq_ok_iff {s : FetchSettings} {name : String}
    (h : s.LacksOutput) : s.destination = .ok name ↔
      ∃ file, s.remoteFile = .ok file ∧ file.basename = name ∧ name ≠ "" := by
  rw [destination_of_lacksOutput h]
  cases s.remoteFile with
  | error reason => simp [Except.bind]
  | ok file =>
    simp only [Except.bind, Except.ok.injEq, exists_eq_left']
    split
    · rename_i hempty
      simp only [reduceCtorEq, false_iff]
      rintro ⟨rfl, hne⟩
      exact hne hempty
    · rename_i hne
      simp only [Except.ok.injEq]
      constructor
      · rintro rfl
        exact ⟨rfl, hne⟩
      · exact And.left

theorem FetchSettings.destination_ne_empty {s : FetchSettings} {destination : String}
    (h : s.destination = .ok destination) : destination ≠ "" := by
  by_cases ho : s.LacksOutput
  · obtain ⟨-, -, -, hne⟩ := (destination_eq_ok_iff ho).mp h
    exact hne
  · rw [destination_of_output ho] at h
    obtain rfl := Except.ok.inj h
    exact ho

/-! ### The plan -/

theorem TestCommand.ofWords?_of_ne_nil {words : List String} (h : words ≠ []) :
    TestCommand.ofWords? words = .ok ⟨words, h⟩ := by
  cases words with
  | nil => exact absurd rfl h
  | cons word words => rfl

namespace Settings.Complete

theorem remoteFile (h : s.Complete) :
    s.fetch.remoteFile = .ok ⟨s.fetch.baseUrl, s.fetch.branch, s.fetch.filePath⟩ :=
  FetchSettings.remoteFile_eq_ok_iff.mpr ⟨⟨h.baseUrl, h.branch, h.filePath⟩, rfl⟩

/-- The plan of complete settings lacks at most the local name. -/
theorem ofSettings (h : s.Complete) :
    Plan.ofSettings s = s.fetch.destination.map fun destination =>
      ⟨⟨s.fetch.baseUrl, s.fetch.branch, s.fetch.filePath⟩, destination,
        ⟨s.command, h.command⟩⟩ := by
  rw [Plan.ofSettings, h.remoteFile, TestCommand.ofWords?_of_ne_nil h.command]
  cases s.fetch.destination <;> rfl

end Settings.Complete

/-- Only complete settings have a plan. -/
theorem Plan.complete_of_ofSettings {p : Plan} (h : Plan.ofSettings s = .ok p) : s.Complete := by
  unfold Plan.ofSettings at h
  cases hf : s.fetch.remoteFile with
  | error reason =>
    rw [hf] at h
    cases h
  | ok file =>
    obtain ⟨⟨hbase, hbranch, hpath⟩, -⟩ := FetchSettings.remoteFile_eq_ok_iff.mp hf
    refine ⟨hbase, hbranch, hpath, fun hnil => ?_⟩
    rw [hf, hnil] at h
    cases hd : s.fetch.destination <;> rw [hd] at h <;> cases h

/-- What settings put into their plan. -/
theorem Plan.eq_of_ofSettings {p : Plan} (h : Plan.ofSettings s = .ok p) :
    p.remote = ⟨s.fetch.baseUrl, s.fetch.branch, s.fetch.filePath⟩ ∧
      s.fetch.destination = .ok p.destination ∧ p.command.words = s.command := by
  have hc := Plan.complete_of_ofSettings h
  rw [hc.ofSettings] at h
  cases hd : s.fetch.destination with
  | error reason =>
    rw [hd] at h
    cases h
  | ok destination =>
    rw [hd] at h
    obtain rfl := Except.ok.inj h
    exact ⟨rfl, rfl, rfl⟩

/-- **Complete settings have no plan exactly if the local name is missing.** -/
theorem Plan.ofSettings_eq_error_iff (h : s.Complete) :
    Plan.ofSettings s = .error reason ↔
      s.fetch.LacksOutput ∧ s.fetch.EndsWithSlash ∧ reason = .noLocalName s.fetch.filePath := by
  rw [h.ofSettings]
  by_cases ho : s.fetch.LacksOutput
  · have hb := RemoteFile.basename_eq_empty_iff
      (f := ⟨s.fetch.baseUrl, s.fetch.branch, s.fetch.filePath⟩) h.filePath
    rw [FetchSettings.destination_of_lacksOutput ho, h.remoteFile]
    unfold FetchSettings.EndsWithSlash
    rw [← hb]
    simp only [Except.bind]
    split
    · rename_i hs
      simp [Except.map, ho, hs, eq_comm]
    · rename_i hs
      simp [Except.map, hs]
  · rw [FetchSettings.destination_of_output ho]
    simp [Except.map, ho]

end PinnedRun
