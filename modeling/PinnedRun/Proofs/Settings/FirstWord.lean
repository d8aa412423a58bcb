import PinnedRun.Proofs.Options.Ambiguity
import PinnedRun.Proofs.Settings.Spelling

/-!
# Commands that begin with a word

A command need not stand behind a double dash: the first argument that is neither an option nor the
value of one begins it, and nothing behind this word is read as an option (`read_append_word`). Yet
all arguments are told apart before any is read, so an ambiguous abbreviation makes the command line
be rejected also where it would belong to the command.
-/

namespace PinnedRun.Options

variable {a b : Arguments} {unknown : List String} {tokens more : List (String × Token)}
  {commandLine rest : List String} {word : String}

/-! ### Options that are read to their end -/

theorem finish_eq_accepted {command : List String} (h : finish a unknown command = .accepted b) :
    unknown = [] ∧ b = { a with command := command } := by
  unfold finish at h
  split at h
  · exact ⟨‹_›, (Outcome.accepted.inj h).symm⟩
  · cases h

theorem Arguments.command_foldl (os : List Occurrence) (a : Arguments) :
    (os.foldl .apply a).command = a.command := by
  induction os generalizing a with
  | nil => rfl
  | cons o os ih => exact (ih (a.apply o)).trans (a.command_apply o)

theorem Arguments.command_enter {os : List Occurrence} (h : a.enter os = some b) :
    b.command = a.command := by
  unfold enter at h
  split at h
  · cases h
  · obtain rfl := Option.some.inj h
    exact command_foldl os a

/-- A command line that is read without coming to a command has no double dash, and with more behind
it is read as if the rest came to what has been read. -/
theorem readFrom_of_no_command (h : readFrom a unknown tokens = .accepted b) (hb : b.command = [])
    (ha : a.command = []) :
    (∀ p ∈ tokens, p.2 ≠ .separator) ∧
      ∀ more, readFrom a unknown (tokens ++ more) = readFrom b [] more := by
  fun_induction readFrom a unknown tokens with
  | case1 a unknown =>
    obtain ⟨rfl, rfl⟩ := finish_eq_accepted h
    rw [Arguments.eq_of_command_eq_nil ha]
    exact ⟨by simp, fun more => rfl⟩
  | case2 a unknown argument rest | case3 a unknown argument rest =>
    -- a double dash or a word comes to a command
    obtain ⟨-, rfl⟩ := finish_eq_accepted h
    cases hb
  | case4 a unknown argument rest ih =>
    obtain ⟨hs, hr⟩ := ih h ha
    exact ⟨by simpa using hs, hr⟩
  | case5 | case6 | case8 | case9 => cases h
  | case7 a unknown argument s spelling attached k hk hn value rest c he ih =>
    obtain ⟨hs, hr⟩ := ih h ((Arguments.command_enter he).trans ha)
    refine ⟨by simpa using hs, fun more => ?_⟩
    simp only [List.cons_append, readFrom, hk, hn, if_true, he]
    exact hr more
  | case10 a unknown argument s spelling attached rest k hk hn c he ih =>
    obtain ⟨hs, hr⟩ := ih h ((Arguments.command_enter he).trans ha)
    refine ⟨by simpa using hs, fun more => ?_⟩
    simp only [List.cons_append, readFrom, hk, if_neg hn, he]
    exact hr more

theorem Token.exists_of_ofCommandLine_cons (hd : word ≠ "--")
    (h : ofCommandLine (word :: commandLine) = .ok tokens) :
    ∃ token ts, ofArgument word = .ok token ∧ ofCommandLine commandLine = .ok ts ∧
      tokens = (word, token) :: ts := by
  rw [ofCommandLine_cons hd] at h
  cases ht : ofArgument word with
  | error reason =>
    rw [ht] at h
    cases h
  | ok token =>
    cases hr : ofCommandLine commandLine with
    | error reason =>
      rw [ht, hr] at h
      cases h
    | ok ts =>
      rw [ht, hr] at h
      exact ⟨token, ts, rfl, rfl, (Except.ok.inj h).symm⟩

theorem Token.ofCommandLine_append (h : ofCommandLine commandLine = .ok tokens)
    (hs : ∀ p ∈ tokens, p.2 ≠ .separator) (rest : List String) :
    ofCommandLine (commandLine ++ rest) = (ofCommandLine rest).map (tokens ++ ·) := by
  induction commandLine generalizing tokens with
  | nil =>
    obtain rfl := Except.ok.inj h
    rw [List.nil_append]
    cases ofCommandLine rest <;> rfl
  | cons argument commandLine ih =>
    by_cases hd : argument = "--"
    · rw [ofCommandLine, if_pos hd] at h
      obtain rfl := Except.ok.inj h
      exact absurd rfl (hs _ List.mem_cons_self)
    · obtain ⟨token, ts, ht, hts, rfl⟩ := exists_of_ofCommandLine_cons hd h
      have hrest := ih hts fun p hp => hs p (List.mem_cons_of_mem _ hp)
      rw [List.cons_append, ofCommandLine_cons hd, ht, hrest]
      cases ofCommandLine rest <;> rfl

theorem Token.map_fst_ofCommandLine (h : ofCommandLine commandLine = .ok tokens) :
    tokens.map (·.1) = commandLine := by
  induction commandLine generalizing tokens with
  | nil =>
    obtain rfl := Except.ok.inj h
    rfl
  | cons argument commandLine ih =>
    by_cases hd : argument = "--"
    · rw [ofCommandLine, if_pos hd] at h
      obtain rfl := Except.ok.inj h
      rw [List.map_cons, List.map_map]
      exact congrArg (argument :: ·) (List.map_id commandLine)
    · obtain ⟨token, ts, -, hts, rfl⟩ := exists_of_ofCommandLine_cons hd h
      exact congrArg (argument :: ·) (ih hts)

/-! ### A word behind them -/

theorem ne_separator_of_word (hw : word.toList.head? ≠ some '-') : word ≠ "--" := by
  rintro rfl
  exact hw (by decide)

/-- What is read from a word on is the command. -/
theorem read_append_of_word (h : read commandLine = .accepted a) (ha : a.command = [])
    (hw : word.toList.head? ≠ some '-') (rest : List String) :
    read (commandLine ++ word :: rest) =
      match Token.ofCommandLine rest with
      | .error reason => .rejected reason
      | .ok _ => .accepted { a with command := word :: rest } := by
  have hd := ne_separator_of_word hw
  unfold read at h ⊢
  cases ht : Token.ofCommandLine commandLine with
  | error reason =>
    rw [ht] at h
    cases h
  | ok tokens =>
    rw [ht] at h
    obtain ⟨hs, hread⟩ := readFrom_of_no_command h ha rfl
    rw [Token.ofCommandLine_append ht hs, Token.ofCommandLine_cons hd, Token.ofArgument_word hw]
    cases hr : Token.ofCommandLine rest with
    | error reason => rfl
    | ok more =>
      refine (hread ((word, .word) :: more)).trans ?_
      rw [readFrom, finish, if_pos rfl, Token.map_fst_ofCommandLine hr]

/-- The command that a command line leads to whose command begins with a word. -/
theorem resolve_command_of_word (ha : a.command = word :: rest) (hd : word ≠ "--")
    {e : Environment} {s : Settings} (hs : Settings.ofEnvironment e = .ok s) :
    (Settings.resolve e a).map (·.command) = .ok (word :: rest) := by
  have hw : a.words = word :: rest := by
    unfold Arguments.words
    split
    · rename_i h
      rw [ha] at h
      exact absurd (List.cons.inj h).1 hd
    · exact ha
  rw [Settings.resolve, hs]
  simp [Except.map, Settings.override, hw]

/-- **The first word ends the options.** Behind options that are accepted without a command, a word
begins the command, and all arguments behind it belong to it as they are: what has been read of the
options stays, and every environment that can be used leads to this command. Only an ambiguous
abbreviation that stands there before any double dash makes the command line be rejected. -/
theorem read_append_word (h : read commandLine = .accepted a) (ha : a.command = [])
    (hw : word.toList.head? ≠ some '-') (rest : List String) :
    (HasAmbiguous rest →
      (∃ argument ∈ rest, IsAmbiguous argument ∧ ∃ spellings,
        read (commandLine ++ word :: rest) = .rejected (.ambiguous argument spellings)) ∧
      ∀ e w, (Invocation.invoke e (commandLine ++ word :: rest) w).ending = .ok 2) ∧
    (¬HasAmbiguous rest → ∃ b, read (commandLine ++ word :: rest) = .accepted b ∧
      b = { a with command := word :: rest } ∧
      ∀ e s, Settings.ofEnvironment e = .ok s →
        (Settings.resolve e b).map (·.command) = .ok (word :: rest)) := by
  have hread := read_append_of_word h ha hw rest
  constructor
  · intro hambiguous
    obtain ⟨argument, hmem, harg, spellings, hr⟩ := Token.ofCommandLine_of_hasAmbiguous hambiguous
    rw [hr] at hread
    refine ⟨⟨argument, hmem, harg, spellings, hread⟩, fun e w => ?_⟩
    rw [Invocation.invoke, hread]
  · intro hplain
    obtain ⟨tokens, hr⟩ := Token.exists_ofCommandLine hplain
    rw [hr] at hread
    have hd := ne_separator_of_word hw
    exact ⟨_, hread, rfl, fun e s hs => resolve_command_of_word rfl hd hs⟩

/-- Options, one of them with its value in an argument of its own, then a word. What looks like an
option behind it belongs to the command, and so does an abbreviation behind a double dash; one
before a double dash is rejected. -/
theorem read_append_word_of_lookalikes :
    let options := ["--branch", "x", "-v"]
    let a : Arguments := { branch := some (.text "x"), verbose := true }
    let rest := ["-h", "--branch", "y", "--nope", "--", "--b"]
    read options = .accepted a ∧ a.command = [] ∧ "make".toList.head? ≠ some '-' ∧
      ¬HasAmbiguous rest ∧ HasAmbiguous ["test", "--b=1"] ∧
      read (options ++ "make" :: rest) = .accepted { a with command := "make" :: rest } ∧
      ∀ e w, (Invocation.invoke e (options ++ "make" :: ["test", "--b=1"]) w).ending = .ok 2 := by
  intro options a rest
  have h : read options = .accepted a := by decide +kernel
  have hw : "make".toList.head? ≠ some '-' := by decide
  have hrest : ¬HasAmbiguous rest := by decide +kernel
  have htest : HasAmbiguous ["test", "--b=1"] := by decide +kernel
  obtain ⟨-, hplain⟩ := read_append_word h rfl hw rest
  obtain ⟨b, hb, rfl, -⟩ := hplain hrest
  obtain ⟨hambiguous, -⟩ := read_append_word h rfl hw ["test", "--b=1"]
  exact ⟨h, rfl, hw, hrest, htest, hb, (hambiguous htest).2⟩

end PinnedRun.Options
