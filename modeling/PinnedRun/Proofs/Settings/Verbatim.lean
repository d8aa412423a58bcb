import PinnedRun.Proofs.Settings.Spelling

/-!
# Commands behind a double dash

A command line that makes some choices and then has a double dash is accepted whatever comes behind
the dash: that is the command, word by word, and none of it is read as an option. The choices before
it count as if the command line ended with them: each text has the value that it is given last, and
each flag is set if it is given at all (`read_separated`).

* `Choice` is an option that is given, in one of the ways to write it;
* `Choice.arguments` are the arguments that write it, `Choice.value?` is the text that it gives to a
  setting;
* `Arguments.choose` is what a command line says that makes choices in turn.
-/

namespace PinnedRun.Options

/-- The value that a command line has for a text. -/
def Arguments.value? (a : Arguments) : TextSetting → Option Value
  | .baseUrl => a.baseUrl
  | .branch => a.branch
  | .filePath => a.filePath
  | .output => a.output

/-- An option that is given. -/
inductive Choice where
  /-- A text with its value behind an equals sign. -/
  | attached (setting : TextSetting) (value : String) (value_ne : value ≠ "--")
  /-- The output with its value in an argument of its own. -/
  | output (value : String) (head_ne : value.toList.head? ≠ some '-')
  | abortOnFetchFailure
  | verbose (short : Bool)
deriving DecidableEq

namespace Choice

/-- The arguments that write a choice. -/
def arguments : Choice → List String
  | attached t value _ => [t.spelling ++ "=" ++ value]
  | output value _ => ["-o", value]
  | abortOnFetchFailure => ["--abort-on-fetch-failure"]
  | verbose true => ["-v"]
  | verbose false => ["--verbose"]

/-- The occurrence that the arguments stand for. -/
def occurrence : Choice → Occurrence
  | attached t value _ => (t.switch, some (.text value))
  | output value _ => (.output, some (.text value))
  | abortOnFetchFailure => (.abortOnFetchFailure, none)
  | verbose _ => (.verbose, none)

/-- The text that a choice gives to a setting. -/
def value? (t : TextSetting) : Choice → Option String
  | attached u value _ => if u = t then some value else none
  | output value _ => if t = .output then some value else none
  | abortOnFetchFailure | verbose _ => none

theorem readOn_arguments (c : Choice) (a : Arguments) (rest : List String) :
    readOn a (c.arguments ++ rest) = readOn (a.apply c.occurrence) rest := by
  cases c with
  | attached t value value_ne =>
    have hs : t.switch.takesValue = true := by cases t <;> rfl
    have hv : Value.ofAttached value = .text value := if_neg value_ne
    have h := Spells.attached t.mem_table hs value
    rw [hv] at h
    exact readOn_cons h a rest
  | output value head_ne => exact readOn_pair (by decide) rfl head_ne a rest
  | abortOnFetchFailure => exact readOn_cons (.alone (by decide) rfl (by decide)) a rest
  | verbose short =>
    cases short <;> exact readOn_cons (.alone (by decide) rfl (by decide)) a rest

end Choice

/-- What a command line says that makes choices in turn. -/
def Arguments.choose (a : Arguments) (choices : List Choice) : Arguments :=
  choices.foldl (fun a c => a.apply c.occurrence) a

theorem readOn_choices (choices : List Choice) (a : Arguments) (rest : List String) :
    readOn a (choices.flatMap Choice.arguments ++ rest) = readOn (a.choose choices) rest := by
  induction choices generalizing a with
  | nil => rfl
  | cons c choices ih =>
    rw [List.flatMap_cons, List.append_assoc, c.readOn_arguments]
    exact ih (a.apply c.occurrence)

/-! ### What the choices come to -/

namespace Arguments

theorem value?_apply (c : Choice) (a : Arguments) (t : TextSetting) :
    (a.apply c.occurrence).value? t = ((c.value? t).map .text).or (a.value? t) := by
  cases c with
  | attached u value value_ne => cases u <;> cases t <;> rfl
  | output value head_ne => cases t <;> rfl
  | abortOnFetchFailure => cases t <;> rfl
  | verbose short => cases t <;> rfl

/-- A text has the value of the last choice that gives it one. -/
theorem value?_choose (choices : List Choice) (a : Arguments) (t : TextSetting) :
    (a.choose choices).value? t =
      ((choices.filterMap (·.value? t)).getLast?.map .text).or (a.value? t) := by
  induction choices generalizing a with
  | nil => rfl
  | cons c choices ih =>
    have hc := ih (a.apply c.occurrence)
    rw [value?_apply] at hc
    refine hc.trans ?_
    cases hv : c.value? t with
    | none => rw [List.filterMap_cons_none hv]; rfl
    | some value =>
      rw [List.filterMap_cons_some hv, List.getLast?_cons]
      cases (choices.filterMap (·.value? t)).getLast? <;> rfl

theorem abortOnFetchFailure_choose (choices : List Choice) (a : Arguments) :
    (a.choose choices).abortOnFetchFailure = true ↔
      a.abortOnFetchFailure = true ∨ .abortOnFetchFailure ∈ choices := by
  induction choices generalizing a with
  | nil => simp [choose]
  | cons c choices ih =>
    refine (ih (a.apply c.occurrence)).trans ?_
    cases c with
    | attached t value value_ne => cases t <;> simp [Choice.occurrence, TextSetting.switch, apply]
    | _ => simp [Choice.occurrence, apply]

theorem verbose_choose (choices : List Choice) (a : Arguments) :
    (a.choose choices).verbose = true ↔ a.verbose = true ∨ ∃ short, .verbose short ∈ choices := by
  induction choices generalizing a with
  | nil => simp [choose]
  | cons c choices ih =>
    refine (ih (a.apply c.occurrence)).trans ?_
    cases c with
    | attached t value value_ne => cases t <;> simp [Choice.occurrence, TextSetting.switch, apply]
    | output value head_ne => simp [Choice.occurrence, apply]
    | abortOnFetchFailure => simp [Choice.occurrence, apply]
    | verbose short =>
      exact iff_of_true (.inl rfl) (.inr ⟨short, List.mem_cons_self⟩)

end Arguments

/-! ### The whole command line -/

/-- The command that a command line with a double dash in front leads to. -/
theorem resolve_command_of_separator {a : Arguments} {rest : List String}
    (ha : a.command = "--" :: rest) (e : Environment) :
    (Settings.resolve e a).map (·.command) =
      (Settings.ofEnvironment e).map fun s => if rest = [] then s.command else rest := by
  have hw : a.words = rest := by simp only [Arguments.words, ha]
  cases h : Settings.ofEnvironment e with
  | error fault => simp only [Settings.resolve, h, Except.map]
  | ok s => simp only [Settings.resolve, h, Except.map, Settings.override, hw]

/-- **Everything behind the double dash is the command, verbatim.** A command line that makes any
choices and then has a double dash is accepted. Each text has the value that it was given last, each
flag is set if it was given, and the command is the rest, whatever it holds. In every environment
that can be used, this command replaces the one that is set there, unless it is empty. -/
theorem read_separated (choices : List Choice) (rest : List String) :
    ∃ a, read (choices.flatMap Choice.arguments ++ "--" :: rest) = .accepted a ∧
      (∀ t, a.value? t = (choices.filterMap (·.value? t)).getLast?.map .text) ∧
      (a.abortOnFetchFailure = true ↔ .abortOnFetchFailure ∈ choices) ∧
      (a.verbose = true ↔ ∃ short, .verbose short ∈ choices) ∧
      a.command = "--" :: rest ∧
      ∀ e, (Settings.resolve e a).map (·.command) =
        (Settings.ofEnvironment e).map fun s => if rest = [] then s.command else rest := by
  have hread : read (choices.flatMap Choice.arguments ++ "--" :: rest) =
      .accepted { Arguments.choose {} choices with command := "--" :: rest } := by
    rw [← readOn_empty, readOn_choices]
    exact readOn_separator _ rest
  refine ⟨_, hread, fun t => ?_, ?_, ?_, rfl, resolve_command_of_separator rfl⟩
  · have hvalue := Arguments.value?_choose choices {} t
    have hnone : Arguments.value? {} t = none := by cases t <;> rfl
    rw [hnone, Option.or_none] at hvalue
    cases t <;> exact hvalue
  · simpa using Arguments.abortOnFetchFailure_choose choices {}
  · simpa using Arguments.verbose_choose choices {}

end PinnedRun.Options
