import PinnedRun.Proofs.Settings.Verbatim
import PinnedRun.Proofs.Settings.Completeness
import PinnedRun.Proofs.Shell.Joining

/-!
# The test command as a text

A variable holds the test command as a line of text. Unless the line is blank, it is read by exactly
the grammar of command lines: the words are those that the grammar gives the line, and a line that
the grammar does not know has no words, for the reason that it ends behind a backslash or inside
quotes (`readCommand_grammar`). So every command can be given by the variable, whatever its words
hold: the words joined to a line are read as these words again, and these are also the command that
a command line names by them behind a double dash (`readCommand_join`).
-/

namespace PinnedRun

open Options (Arguments)
open Shell (BreaksOff Line SplitFault join)

variable {line : String} {words : List String}

theorem readCommand_of_blank {value : Option String} (h : value.all Text.isBlankText = true) :
    readCommand value = .ok defaultCommand := by
  have hv : value.filter (! Text.isBlankText ·) = none := by
    cases value with
    | none => rfl
    | some line => simpa [Option.filter] using h
  rw [readCommand, hv]

theorem readCommand_of_not_blank (h : Text.isBlankText line = false) :
    readCommand (some line) = (Shell.Words.split line).mapError .unsplittable := by
  have hv : (some line).filter (! Text.isBlankText ·) = some line := by simp [Option.filter, h]
  rw [readCommand, hv]

theorem readCommand_eq_ok_iff (h : Text.isBlankText line = false) :
    readCommand (some line) = .ok words ↔ Line line.toList (words.map String.toList) := by
  rw [readCommand_of_not_blank h, ← Shell.Words.split_eq_ok_iff]
  cases Shell.Words.split line <;> simp [Except.mapError]

theorem readCommand_eq_unsplittable_iff (h : Text.isBlankText line = false) {fault : SplitFault} :
    readCommand (some line) = .error (.unsplittable fault) ↔ BreaksOff fault line.toList := by
  rw [readCommand_of_not_blank h, ← Shell.Words.split_eq_error_iff]
  cases Shell.Words.split line <;> simp [Except.mapError]

theorem exists_unsplittable {value : Option String} {reason : Unusable}
    (h : readCommand value = .error reason) : ∃ fault, reason = .unsplittable fault := by
  obtain ⟨-, fault, -, -, -, hr⟩ := readCommand_eq_error_iff.mp h
  exact ⟨fault, hr⟩

/-- The text of the fault tells how the line breaks off. -/
theorem exists_message_iff (h : Text.isBlankText line = false) (fault : SplitFault) :
    (∃ reason, readCommand (some line) = .error reason ∧ reason.message = fault.message) ↔
      BreaksOff fault line.toList := by
  rw [← readCommand_eq_unsplittable_iff h]
  constructor
  · rintro ⟨reason, hr, hm⟩
    obtain ⟨fault', rfl⟩ := exists_unsplittable hr
    obtain rfl : fault' = fault := SplitFault.message_injective hm
    exact hr
  · exact fun hr => ⟨_, hr, rfl⟩

theorem exists_error_iff (h : Text.isBlankText line = false) :
    (∃ reason, readCommand (some line) = .error reason) ↔ ¬∃ ws, Line line.toList ws := by
  simp only [← Shell.Words.scan_eq_ok_iff]
  rw [readCommand_of_not_blank h, Shell.Words.split]
  cases Shell.Words.scan .between line.toList <;> simp [Except.map, Except.mapError]

/-- **The test command is read by exactly the grammar of command lines.** A variable that is not
set or blank gives the default. Any other line gives the words that the grammar gives it, which are
never none, and is a fault exactly if the grammar does not know it. The text of the fault says
whether the line ends behind a backslash or inside quotes. -/
theorem readCommand_grammar (value : Option String) :
    (value.all Text.isBlankText = true → readCommand value = .ok defaultCommand) ∧
      ∀ line, value = some line → Text.isBlankText line = false →
        (∀ words, readCommand value = .ok words ↔ Line line.toList (words.map String.toList)) ∧
        readCommand value ≠ .ok [] ∧
        ((∃ reason, readCommand value = .error reason) ↔ ¬∃ words, Line line.toList words) ∧
        ((∃ reason, readCommand value = .error reason ∧
            reason.message = "No escaped character") ↔
          BreaksOff .unfinishedEscape line.toList) ∧
        ((∃ reason, readCommand value = .error reason ∧
            reason.message = "No closing quotation") ↔
          BreaksOff .unclosedQuote line.toList) := by
  refine ⟨readCommand_of_blank, ?_⟩
  rintro line rfl hb
  refine ⟨fun words => readCommand_eq_ok_iff hb, fun h => readCommand_ne_nil h rfl,
    exists_error_iff hb, ?_, ?_⟩
  · exact exists_message_iff hb .unfinishedEscape
  · exact exists_message_iff hb .unclosedQuote

/-- A word of four parts, one of each kind, and an empty one in quotes. -/
theorem readCommand_grammar_of_parts :
    let line := "a\\ b'c \\d'\"e\\\"\\f\" ''\t"
    Text.isBlankText line = false ∧ readCommand (some line) = .ok ["a bc \\de\"\\f", ""] ∧
      Line line.toList ["a bc \\de\"\\f".toList, []] := by
  intro line
  have hb : Text.isBlankText line = false := by decide +kernel
  have hr : readCommand (some line) = .ok ["a bc \\de\"\\f", ""] := by decide +kernel
  obtain ⟨-, h⟩ := readCommand_grammar (some line)
  obtain ⟨hok, -⟩ := h line rfl hb
  exact ⟨hb, hr, (hok _).mp hr⟩

/-! ### Joined commands -/

theorem Settings.command_of_readCommand {e : Environment}
    (h : readCommand (e "TEST_COMMAND") = .ok words) :
    (Settings.ofEnvironment e).map (·.command) = .ok words := by
  rw [Settings.ofEnvironment, h]
  rfl

/-- **Every command can be given by the variable.** Any words that are joined to a line are read as
these words again, in every environment whose variable is set to the line. They are also the command
that a command line leads to that names them behind a double dash, in every environment that can be
used. -/
theorem readCommand_join (h : words ≠ []) :
    readCommand (some (join words)) = .ok words ∧
      (∀ e : Environment,
        (Settings.ofEnvironment (e.set "TEST_COMMAND" (join words))).map (·.command) =
          .ok words) ∧
      ∃ a, Options.read ("--" :: words) = .accepted a ∧
        ∀ e s, Settings.ofEnvironment e = .ok s →
          (Settings.resolve e a).map (·.command) = .ok words := by
  have hread : readCommand (some (join words)) = .ok words := by
    rw [readCommand_of_not_blank (Shell.isBlankText_join h), Shell.Words.split_join h]
    rfl
  refine ⟨hread, fun e => Settings.command_of_readCommand hread, _,
    Options.readOn_separator {} words, fun e s hs => ?_⟩
  rw [Options.resolve_command_of_separator rfl, hs]
  exact congrArg Except.ok (if_neg h)

/-- Words that are empty, hold quotes, backslashes and blanks, or look like an option. -/
theorem readCommand_join_of_odd_words :
    let words := ["", "it's \"so\"", "a\\b\n", "--", "é"]
    words ≠ [] ∧ join words = "'' 'it'\"'\"'s \"so\"' 'a\\b\n' -- 'é'" ∧
      readCommand (some (join words)) = .ok words := by
  intro words
  have h : words ≠ [] := List.cons_ne_nil _ _
  exact ⟨h, by decide +kernel, (readCommand_join h).1⟩

end PinnedRun
