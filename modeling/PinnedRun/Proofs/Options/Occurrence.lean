import PinnedRun.Options.Reading

/-!
# Occurrences of options on a command line

An argument that is a spelling of an option, with its value behind an equals sign if it takes one,
stands for one occurrence of this option (`Spells`). The value may be any text: it may begin with a
dash, hold spaces or equals signs, or be empty.

`readOn` reads a command line on top of what has been read before. Reading an argument that spells
an occurrence enters the occurrence and goes on with the rest (`readOn_cons`), and so reading
several of them enters their occurrences in turn (`readOn_append`). The value may be an argument of
its own, if it does not begin with a dash (`readOn_pair`), and from a double dash on all arguments
are the command (`readOn_separator`).

What has been read before is carried along: a change of it that goes with entering occurrences shows
in the end and nowhere else (`readOn_map`).
-/

namespace PinnedRun.Options

variable {s : Switch} {spelling : String}

namespace Switch

theorem ofSpelling?_of_mem (h : (spelling, s) ∈ table) : ofSpelling? spelling = some s := by
  have hall : ∀ e ∈ table, ofSpelling? e.1 = some e.2 := by decide
  exact hall (spelling, s) h

/-- No spelling holds an equals sign, and each begins with a dash and goes on. -/
theorem shape_of_mem (h : (spelling, s) ∈ table) :
    '=' ∉ spelling.toList ∧ ∃ c rest, spelling.toList = '-' :: c :: rest := by
  have hall : ∀ e ∈ table, '=' ∉ e.1.toList ∧ e.1.toList.head? = some '-' ∧
      e.1.toList.length ≠ 1 := by decide
  obtain ⟨heq, hhead, hlength⟩ := hall (spelling, s) h
  refine ⟨heq, ?_⟩
  match hl : spelling.toList with
  | [] => simp [hl] at hhead
  | [_] => simp [hl] at hlength
  | d :: c :: rest =>
    obtain rfl : d = '-' := by simpa [hl] using hhead
    exact ⟨c, rest, rfl⟩

theorem ofSpelling?_of_mem_eq {argument : String} (h : '=' ∈ argument.toList) :
    ofSpelling? argument = none := by
  have hall : ∀ e ∈ table, '=' ∉ e.1.toList := fun e he => (shape_of_mem he).1
  rw [ofSpelling?, Option.map_eq_none_iff, List.find?_eq_none]
  intro e he hs
  obtain rfl : e.1 = argument := of_decide_eq_true hs
  exact hall e he h

end Switch

/-! ### What such an argument is -/

namespace Token

theorem ofArgument_spelling (h : (spelling, s) ∈ Switch.table) :
    ofArgument spelling = .ok (.option s spelling none) := by
  obtain ⟨-, c, rest, hl⟩ := Switch.shape_of_mem h
  simp only [ofArgument, hl, Switch.ofSpelling?_of_mem h]

/-- Whatever the value is, the first equals sign is the one behind the spelling. -/
theorem ofArgument_attached (h : (spelling, s) ∈ Switch.table) (value : String) :
    ofArgument (spelling ++ "=" ++ value) = .ok (.option s spelling (some value)) := by
  obtain ⟨heq, c, rest, hl⟩ := Switch.shape_of_mem h
  have hlist : (spelling ++ "=" ++ value).toList = spelling.toList ++ '=' :: value.toList := by
    simp
  have hcut : Text.cutFirst? '=' (spelling ++ "=" ++ value).toList =
      some (spelling.toList, value.toList) := hlist ▸ Text.cutFirst?_append_cons heq _
  have hnone : Switch.ofSpelling? (spelling ++ "=" ++ value) = none :=
    Switch.ofSpelling?_of_mem_eq (by simp [hlist])
  have hspelled : spelledWithValue? (spelling ++ "=" ++ value).toList =
      some (.option s spelling (some value)) := by
    rw [spelledWithValue?, hcut]
    simp [Switch.ofSpelling?_of_mem h]
  unfold ofArgument
  rw [hnone, hspelled, hlist, hl]
  simp

/-- A text that does not begin with a dash is a word. -/
theorem ofArgument_word {value : String} (h : value.toList.head? ≠ some '-') :
    ofArgument value = .ok .word := by
  unfold ofArgument
  split
  · rename_i rest hl
    simp [hl] at h
  · rfl

end Token

/-- An argument stands for an occurrence of an option: it is a spelling of the option, with the
value behind an equals sign if the option takes one. -/
inductive Spells : String → Occurrence → Prop where
  | attached {s : Switch} {spelling : String} (h : (spelling, s) ∈ Switch.table)
    (hs : s.takesValue = true) (value : String) :
    Spells (spelling ++ "=" ++ value) (s, some (.ofAttached value))
  | alone {s : Switch} {spelling : String} (h : (spelling, s) ∈ Switch.table)
    (hs : s.takesValue = false) (hh : s ≠ .help) :
    Spells spelling (s, none)

/-! ### Reading -/

/-- Reads a command line on top of what has been read before. -/
def readOn (arguments : Arguments) (commandLine : List String) : Outcome :=
  match Token.ofCommandLine commandLine with
  | .error reason => .rejected reason
  | .ok tokens => readFrom arguments [] tokens

theorem readOn_empty (commandLine : List String) : readOn {} commandLine = read commandLine := rfl

theorem readOn_nil (arguments : Arguments) :
    readOn arguments [] = .accepted { arguments with command := [] } := rfl

variable {argument : String} {o : Occurrence} {arguments : Arguments}

@[simp] theorem Arguments.command_apply (a : Arguments) (o : Occurrence) :
    (a.apply o).command = a.command := by
  obtain ⟨s, value⟩ := o
  cases s <;> rfl

theorem Arguments.enter_singleton (h : o.1 ≠ .help) :
    arguments.enter [o] = some (arguments.apply o) := by
  simp [enter, h]

/-- Reading an option that has its value attached, or takes none. -/
theorem readFrom_option {attached : Option String} {tokens : List (String × Token)}
    (hk : Cluster.ofOption s spelling attached = .ok ⟨[], s, attached⟩)
    (hn : (⟨[], s, attached⟩ : Cluster).needsValue = false) (hh : s ≠ .help) :
    readFrom arguments [] ((argument, .option s spelling attached) :: tokens) =
      readFrom (arguments.apply (s, attached.map .ofAttached)) [] tokens := by
  have henter : arguments.enter [(s, attached.map .ofAttached)] =
      some (arguments.apply (s, attached.map .ofAttached)) := Arguments.enter_singleton hh
  rw [readFrom, hk]
  simp [hn, Cluster.occurrences, henter]

/-- Reading an argument that is an option by itself. -/
theorem readOn_of_token {token : Token} (hd : argument ≠ "--")
    (ht : Token.ofArgument argument = .ok token)
    (h : ∀ tokens, readFrom arguments [] ((argument, token) :: tokens) =
      readFrom (arguments.apply o) [] tokens) (rest : List String) :
    readOn arguments (argument :: rest) = readOn (arguments.apply o) rest := by
  unfold readOn
  rw [Token.ofCommandLine, if_neg hd, ht]
  cases Token.ofCommandLine rest with
  | error reason => rfl
  | ok tokens => exact h tokens

theorem ofOption_attached (hs : s.takesValue = true) (value : String) :
    Cluster.ofOption s spelling (some value) = .ok ⟨[], s, some value⟩ := by
  unfold Cluster.ofOption
  generalize hl : value.toList = cs
  obtain rfl : value = String.ofList cs := by rw [← hl, String.ofList_toList]
  cases cs <;> simp [cluster, hs]

/-- **Reading an argument that spells an occurrence enters the occurrence.** -/
theorem readOn_cons (h : Spells argument o) (arguments : Arguments) (rest : List String) :
    readOn arguments (argument :: rest) = readOn (arguments.apply o) rest := by
  cases h with
  | attached h hs value =>
    rename_i s spelling
    have hne : spelling ++ "=" ++ value ≠ "--" := by
      intro he
      have hmem : '=' ∈ (spelling ++ "=" ++ value).toList := by simp
      simp [he] at hmem
    have hh : s ≠ .help := by
      rintro rfl
      cases hs
    exact readOn_of_token hne (Token.ofArgument_attached h value)
      (fun _ => readFrom_option (ofOption_attached hs value) rfl hh) rest
  | alone h hs hh =>
    have hne : argument ≠ "--" := by
      rintro rfl
      have hnone : Switch.ofSpelling? "--" = none := by decide
      exact nomatch hnone.symm.trans (Switch.ofSpelling?_of_mem h)
    exact readOn_of_token hne (Token.ofArgument_spelling h)
      (fun _ => readFrom_option rfl (by simp [Cluster.needsValue, hs]) hh) rest

/-- Reading arguments that each spell an occurrence enters the occurrences in turn. -/
theorem readOn_append {γ : Type} {argumentOf : γ → String} {occurrenceOf : γ → Occurrence}
    {given : List γ} (h : ∀ g ∈ given, Spells (argumentOf g) (occurrenceOf g))
    (arguments : Arguments) (rest : List String) :
    readOn arguments (given.map argumentOf ++ rest) =
      readOn (given.foldl (fun a g => a.apply (occurrenceOf g)) arguments) rest := by
  induction given generalizing arguments with
  | nil => rfl
  | cons g given ih =>
    obtain ⟨hg, hrest⟩ := List.forall_mem_cons.1 h
    exact (readOn_cons hg arguments _).trans (ih hrest _)

/-! ### Values and commands in arguments of their own -/

/-- Reading an option whose value is the next argument enters its occurrence. -/
theorem readOn_pair {value : String} (h : (spelling, s) ∈ Switch.table)
    (hs : s.takesValue = true) (hv : value.toList.head? ≠ some '-') (arguments : Arguments)
    (rest : List String) :
    readOn arguments (spelling :: value :: rest) =
      readOn (arguments.apply (s, some (.text value))) rest := by
  have hd : spelling ≠ "--" := by
    rintro rfl
    have hnone : Switch.ofSpelling? "--" = none := by decide
    exact nomatch hnone.symm.trans (Switch.ofSpelling?_of_mem h)
  have hd' : value ≠ "--" := by
    rintro rfl
    exact hv (by decide)
  have hh : s ≠ .help := by
    rintro rfl
    cases hs
  have hn : (⟨[], s, none⟩ : Cluster).needsValue = true := hs
  have henter : arguments.enter [(s, some (.text value))] =
      some (arguments.apply (s, some (.text value))) := Arguments.enter_singleton hh
  unfold readOn
  rw [Token.ofCommandLine, if_neg hd, Token.ofArgument_spelling h, Token.ofCommandLine, if_neg hd',
    Token.ofArgument_word hv]
  cases Token.ofCommandLine rest with
  | error reason => rfl
  | ok tokens =>
    have hread : readFrom arguments []
        ((spelling, .option s spelling none) :: (value, .word) :: tokens) =
          readFrom (arguments.apply (s, some (.text value))) [] tokens := by
      rw [readFrom, Cluster.ofOption]
      simp [hn, Cluster.occurrences, henter]
    exact hread

/-- **From a double dash on, all arguments are the command**, the double dash included. -/
theorem readOn_separator (arguments : Arguments) (rest : List String) :
    readOn arguments ("--" :: rest) = .accepted { arguments with command := "--" :: rest } := by
  have hmap : (rest.map (·, Token.word)).map (·.1) = rest := by
    rw [List.map_map]
    exact List.map_id rest
  unfold readOn
  rw [Token.ofCommandLine, if_pos rfl]
  simp only [readFrom, finish, if_pos, hmap]

/-! ### What has been read before -/

/-- An outcome with the arguments changed, if there are any. -/
def Outcome.map (f : Arguments → Arguments) : Outcome → Outcome
  | .accepted arguments => .accepted (f arguments)
  | .help => .help
  | .rejected reason => .rejected reason

/-- A change of the arguments that goes with entering occurrences and the command. -/
structure Commutes (f : Arguments → Arguments) : Prop where
  apply : ∀ a o, f (a.apply o) = (f a).apply o
  command : ∀ (a : Arguments) command,
    f { a with command := command } = { f a with command := command }

namespace Commutes

variable {f : Arguments → Arguments} (h : Commutes f)

include h

theorem foldl (os : List Occurrence) (a : Arguments) :
    os.foldl .apply (f a) = f (os.foldl .apply a) := by
  induction os generalizing a with
  | nil => rfl
  | cons o os ih =>
    rw [List.foldl_cons, ← h.apply]
    exact ih (a.apply o)

theorem enter (os : List Occurrence) (a : Arguments) : (f a).enter os = (a.enter os).map f := by
  unfold Arguments.enter
  split
  · rfl
  · exact congrArg some (h.foldl os a)

theorem finish (a : Arguments) (unknown command : List String) :
    finish (f a) unknown command = (finish a unknown command).map f := by
  unfold Options.finish
  split
  · exact congrArg Outcome.accepted (h.command a command).symm
  · rfl

theorem readFrom (tokens : List (String × Token)) (a : Arguments) (unknown : List String) :
    readFrom (f a) unknown tokens = (readFrom a unknown tokens).map f := by
  -- one case per clause of the reading; an option is entered on both sides or on neither
  fun_induction Options.readFrom a unknown tokens with
  | case1 a unknown => exact h.finish a unknown []
  | case2 a unknown argument rest | case3 a unknown argument rest =>
    exact h.finish a unknown (argument :: rest.map (·.1))
  | case4 a unknown argument rest ih => exact ih
  | case5 a unknown argument s spelling attached rest reason hk =>
    simp only [Options.readFrom, hk, Outcome.map]
  | case6 a unknown argument s spelling attached k hk hn value rest he =>
    simp only [Options.readFrom, hk, hn, if_true, h.enter, he, Option.map_none, Outcome.map]
  | case7 a unknown argument s spelling attached k hk hn value rest b he ih =>
    simp only [Options.readFrom, hk, hn, if_true, h.enter, he, Option.map_some]
    exact ih
  | case8 a unknown argument s spelling attached rest k hk hn hrest =>
    simp only [Options.readFrom, hk, hn, if_true, Outcome.map]
  | case9 a unknown argument s spelling attached rest k hk hn he =>
    simp only [Options.readFrom, hk, if_neg hn, h.enter, he, Option.map_none, Outcome.map]
  | case10 a unknown argument s spelling attached rest k hk hn b he ih =>
    simp only [Options.readFrom, hk, if_neg hn, h.enter, he, Option.map_some]
    exact ih

end Commutes

/-- Reading on top of changed arguments changes the outcome alike. -/
theorem readOn_map {f : Arguments → Arguments} (h : Commutes f) (arguments : Arguments)
    (commandLine : List String) :
    readOn (f arguments) commandLine = (readOn arguments commandLine).map f := by
  unfold readOn
  cases Token.ofCommandLine commandLine with
  | error reason => rfl
  | ok tokens => exact h.readFrom tokens arguments []

end PinnedRun.Options
