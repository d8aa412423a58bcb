import PinnedRun.Proofs.Numeric.DecimalLiteral

/-!
# Numbers as they are written

The grammar of numbers, stated without a word about how a number is read.

* `AreDigits cs ds` : the characters are decimal digits of any script, and these are their values;
* `IsSign`, `IsExponent`, `IsUnsigned` : the parts of a literal that has no underscores;
* `UnderscoresBetweenDigits cs` : each underscore stands right between two digits;
* `Denotes cs q` : the text is a decimal literal and denotes the rational;
* `SaysInfinity cs negative` : the text is `inf` or `infinity` in any case of its letters, with a
  sign or none in front.

Exactly the texts of the grammar are read, as what they denote (`denotes_iff`,
`readTrimmed?_eq_infinity_iff`).
-/

namespace PinnedRun.Numeric.NumberText

open PinnedRun.Text

/-- The characters are decimal digits, and these are their values. -/
def AreDigits : List Char → List ℕ → Prop := List.Forall₂ fun c d => digitValue? c = some d

/-- The number that digits denote in base ten, most significant first. -/
def decimalValue (ds : List ℕ) : ℕ := Nat.ofDigits 10 ds.reverse

/-- A sign or none; minus as `true`. -/
inductive IsSign : List Char → Bool → Prop where
  | none : IsSign [] false
  | plus : IsSign ['+'] false
  | minus : IsSign ['-'] true

/-- No exponent, which counts as zero, or the letter, a sign or none, and digits. -/
inductive IsExponent : List Char → ℤ → Prop where
  | none : IsExponent [] 0
  | some {letter : Char} {sign cs : List Char} {negative : Bool} {ds : List ℕ}
      (hletter : letter = 'e' ∨ letter = 'E') (hsign : IsSign sign negative)
      (hdigits : AreDigits cs ds) (hne : cs ≠ []) :
      IsExponent (letter :: (sign ++ cs))
        (if negative then -decimalValue ds else decimalValue ds)

/-- Digits with an optional point, at least one digit in all, and an optional exponent. -/
inductive IsUnsigned : List Char → List ℕ → List ℕ → ℤ → Prop where
  | mk {whole point fraction exponent : List Char} {ds es : List ℕ} {e : ℤ}
      (hwhole : AreDigits whole ds) (hfraction : AreDigits fraction es)
      (hpoint : point = ['.'] ∨ point = [] ∧ fraction = []) (hne : whole ≠ [] ∨ fraction ≠ [])
      (hexponent : IsExponent exponent e) :
      IsUnsigned (whole ++ (point ++ (fraction ++ exponent))) ds es e

/-- Each underscore stands right between two digits. -/
def UnderscoresBetweenDigits (cs : List Char) : Prop :=
  ∀ before after, cs = before ++ '_' :: after →
    (∃ c ∈ before.getLast?, isDecimalDigit c = true) ∧ ∃ c ∈ after.head?, isDecimalDigit c = true

/-- The text is a decimal literal that denotes the rational. -/
def Denotes (cs : List Char) (q : ℚ) : Prop :=
  UnderscoresBetweenDigits cs ∧ ∃ sign negative body ds es e,
    cs.filter (· ≠ '_') = sign ++ body ∧ IsSign sign negative ∧ IsUnsigned body ds es e ∧
      q = (if negative then -1 else 1) *
        (decimalValue ds + decimalValue es / 10 ^ es.length) * 10 ^ e

/-- The text is `inf` or `infinity` in any case of its letters. -/
def IsInfinityWord (cs : List Char) : Prop :=
  cs.map Char.toLower = ['i', 'n', 'f'] ∨
    cs.map Char.toLower = ['i', 'n', 'f', 'i', 'n', 'i', 't', 'y']

/-- The text is a word for infinity, with a sign or none in front. -/
def SaysInfinity (cs : List Char) (negative : Bool) : Prop :=
  ∃ sign word, cs = sign ++ word ∧ IsSign sign negative ∧ IsInfinityWord word

instance (cs : List Char) : Decidable (IsInfinityWord cs) := inferInstanceAs (Decidable (_ ∨ _))

/-! ### Digits -/

theorem ofDigits_eq_decimalValue (ds : List ℕ) : ofDigits ds = decimalValue ds := ofDigits_eq ds

variable {cs rest : List Char} {ds : List ℕ}

theorem AreDigits.isDecimalDigit (h : AreDigits cs ds) : ∀ c ∈ cs, isDecimalDigit c = true := by
  induction h with
  | nil => nofun
  | cons hc _ ih => exact List.forall_mem_cons.mpr ⟨by rw [Text.isDecimalDigit, hc]; rfl, ih⟩

theorem AreDigits.lt_ten (h : AreDigits cs ds) : ∀ d ∈ ds, d < 10 := by
  induction h with
  | nil => nofun
  | cons hc _ ih => exact List.forall_mem_cons.mpr ⟨digitValue?_lt hc, ih⟩

theorem AreDigits.eq_nil_iff (h : AreDigits cs ds) : ds = [] ↔ cs = [] := by
  cases h <;> simp

theorem AreDigits.filterMap_eq (h : AreDigits cs ds) : cs.filterMap digitValue? = ds := by
  induction h with
  | nil => rfl
  | cons hc _ ih => rw [List.filterMap_cons_some hc, ih]

/-- The digits in front of a text are read, up to what is none. -/
theorem AreDigits.leading (h : AreDigits cs ds)
    (hrest : ∀ c ∈ rest.head?, Text.isDecimalDigit c = false) :
    leadingDigits (cs ++ rest) = ds ∧ afterDigits (cs ++ rest) = rest := by
  have hstop : rest.takeWhile Text.isDecimalDigit = [] ∧
      rest.dropWhile Text.isDecimalDigit = rest := by
    cases rest with
    | nil => exact ⟨rfl, rfl⟩
    | cons c rest =>
      have hc : ¬Text.isDecimalDigit c = true := by simp [hrest c rfl]
      exact ⟨List.takeWhile_cons_of_neg hc, List.dropWhile_cons_of_neg hc⟩
  refine ⟨?_, ?_⟩
  · rw [leadingDigits, List.takeWhile_append_of_pos h.isDecimalDigit, hstop.1, List.append_nil,
      h.filterMap_eq]
  · rw [afterDigits, List.dropWhile_append_of_pos h.isDecimalDigit, hstop.2]

theorem AreDigits.leading_all (h : AreDigits cs ds) :
    leadingDigits cs = ds ∧ afterDigits cs = [] := by
  have hnone : ∀ c ∈ ([] : List Char).head?, Text.isDecimalDigit c = false := nofun
  simpa using h.leading hnone

theorem areDigits_filterMap (h : ∀ c ∈ cs, Text.isDecimalDigit c = true) :
    AreDigits cs (cs.filterMap digitValue?) := by
  induction cs with
  | nil => exact .nil
  | cons c cs ih =>
    obtain ⟨hc, hcs⟩ := List.forall_mem_cons.mp h
    obtain ⟨d, hd⟩ := Option.isSome_iff_exists.mp hc
    rw [List.filterMap_cons_some hd]
    exact .cons hd (ih hcs)

/-- A text begins with the digits that are read in front of it. -/
theorem exists_leading (cs : List Char) :
    ∃ front, cs = front ++ afterDigits cs ∧ AreDigits front (leadingDigits cs) ∧
      ∀ c ∈ (afterDigits cs).head?, Text.isDecimalDigit c = false := by
  refine ⟨cs.takeWhile Text.isDecimalDigit, List.takeWhile_append_dropWhile.symm,
    areDigits_filterMap (List.all_eq_true.mp List.all_takeWhile), fun c hc => ?_⟩
  have := List.head?_dropWhile_not Text.isDecimalDigit cs
  rw [show (cs.dropWhile Text.isDecimalDigit).head? = some c from hc] at this
  simpa using this

/-! ### The parts of a literal -/

variable {sign body : List Char} {negative : Bool}

/-- A sign is read in front of what does not begin with one. -/
theorem IsSign.read (h : IsSign sign negative) (hbody : ∀ c ∈ body.head?, c ≠ '+' ∧ c ≠ '-') :
    readSign (sign ++ body) = (negative, body) := by
  cases h with
  | none =>
    cases body with
    | nil => rfl
    | cons c body =>
      obtain ⟨hplus, hminus⟩ := hbody c rfl
      unfold readSign
      split <;> simp_all
  | plus => rfl
  | minus => rfl

theorem exists_sign (cs : List Char) :
    ∃ sign, cs = sign ++ (readSign cs).2 ∧ IsSign sign (readSign cs).1 := by
  unfold readSign
  split
  · exact ⟨['-'], rfl, .minus⟩
  · exact ⟨['+'], rfl, .plus⟩
  · exact ⟨[], rfl, .none⟩

theorem not_isSign_of_isDecimalDigit {c : Char} (h : isDecimalDigit c = true) :
    c ≠ '+' ∧ c ≠ '-' := by
  constructor <;> (rintro rfl; revert h; decide)

theorem AreDigits.head_not_sign (h : AreDigits cs ds) : ∀ c ∈ cs.head?, c ≠ '+' ∧ c ≠ '-' :=
  fun c hc => not_isSign_of_isDecimalDigit (h.isDecimalDigit c (List.mem_of_mem_head? hc))

variable {e : ℤ}

theorem readExponent?_eq_some_iff : readExponent? cs = some e ↔ IsExponent cs e := by
  constructor
  · intro h
    unfold readExponent? at h
    split at h
    · obtain rfl := Option.some.inj h
      exact .none
    · next letter rest =>
      by_cases hletter : letter = 'e' ∨ letter = 'E'
      · obtain ⟨sign, hrest, hsign⟩ := exists_sign rest
        rw [if_pos hletter] at h
        generalize readSign rest = r at h hrest hsign
        obtain ⟨negative, body⟩ := r
        obtain ⟨front, hbody, hdigits, -⟩ := exists_leading body
        dsimp only at h hrest hsign
        split at h
        · cases h
        · next hdone =>
          obtain ⟨hne, hnil⟩ : body ≠ [] ∧ afterDigits body = [] := by
            simpa [List.isEmpty_iff] using hdone
          rw [hnil, List.append_nil] at hbody
          rw [← hbody] at hdigits
          rw [← Option.some.inj h, ofDigits_eq_decimalValue, hrest]
          exact .some hletter hsign hdigits hne
      · rw [if_neg hletter] at h
        cases h
  · rintro (_ | ⟨hletter, hsign, hdigits, hne⟩)
    · rfl
    · have hread := hdigits.leading_all
      simp [readExponent?, hletter, hsign.read hdigits.head_not_sign, hread,
        ofDigits_eq_decimalValue, hne]

theorem IsExponent.head (h : IsExponent cs e) :
    ∀ c ∈ cs.head?, c = 'e' ∨ c = 'E' := by
  cases h with
  | none => nofun
  | some hletter => exact fun c hc => by simpa using Option.some.inj hc ▸ hletter

theorem IsExponent.head_not_digit (h : IsExponent cs e) :
    ∀ c ∈ cs.head?, Text.isDecimalDigit c = false := by
  intro c hc
  obtain rfl | rfl := h.head c hc <;> decide

variable {point fraction exponent : List Char} {es : List ℕ}

/-- The digits behind a point are read, up to the exponent. -/
theorem readFraction_append (hfraction : AreDigits fraction es)
    (hpoint : point = ['.'] ∨ point = [] ∧ fraction = []) (hexponent : IsExponent exponent e) :
    readFraction (point ++ (fraction ++ exponent)) = (es, exponent) := by
  obtain rfl | ⟨rfl, rfl⟩ := hpoint
  · obtain ⟨hread, hrest⟩ := hfraction.leading hexponent.head_not_digit
    exact Prod.ext hread hrest
  · obtain rfl := hfraction.eq_nil_iff.mpr rfl
    cases hexponent with
    | none => rfl
    | some hletter => obtain rfl | rfl := hletter <;> rfl

theorem exists_fraction (cs : List Char) :
    ∃ point fraction, cs = point ++ (fraction ++ (readFraction cs).2) ∧
      AreDigits fraction (readFraction cs).1 ∧ (point = ['.'] ∨ point = [] ∧ fraction = []) := by
  unfold readFraction
  split
  · next rest =>
    obtain ⟨front, hrest, hdigits, -⟩ := exists_leading rest
    exact ⟨['.'], front, congrArg _ hrest, hdigits, .inl rfl⟩
  · exact ⟨[], [], rfl, .nil, .inr ⟨rfl, rfl⟩⟩

/-- A literal without sign is read as the digits and the exponent that it is written with. -/
theorem readLiteral?_eq_some_iff {l : DecimalLiteral} :
    readLiteral? cs = some l ↔
      ∃ ds es e, IsUnsigned cs ds es e ∧ l = ⟨ds ++ es, e - es.length⟩ := by
  constructor
  · intro h
    obtain ⟨whole, hcs, hwhole, -⟩ := exists_leading cs
    obtain ⟨point, fraction, hafter, hfraction, hpoint⟩ := exists_fraction (afterDigits cs)
    unfold readLiteral? at h
    generalize leadingDigits cs = ds at h hwhole
    generalize readFraction (afterDigits cs) = r at h hafter hfraction
    obtain ⟨es, rest⟩ := r
    dsimp only at h hafter hfraction
    split at h
    · cases h
    · next hne =>
      obtain ⟨e, he, rfl⟩ := Option.map_eq_some_iff.mp h
      rw [hcs, hafter]
      refine ⟨ds, es, e, .mk hwhole hfraction hpoint ?_ (readExponent?_eq_some_iff.mp he), rfl⟩
      rw [Ne, Ne, ← hwhole.eq_nil_iff, ← hfraction.eq_nil_iff, ← not_and_or]
      simpa [List.isEmpty_iff] using hne
  · rintro ⟨ds, es, e, @⟨whole, point, fraction, exponent, _, _, _, hwhole, hfraction, hpoint, hne,
      hexponent⟩, rfl⟩
    have hstop : ∀ c ∈ (point ++ (fraction ++ exponent)).head?, Text.isDecimalDigit c = false := by
      obtain rfl | ⟨rfl, rfl⟩ := hpoint
      · rintro c ⟨⟩
        decide
      · exact hexponent.head_not_digit
    obtain ⟨hread, hafter⟩ := hwhole.leading hstop
    have hne : ¬(ds.isEmpty && es.isEmpty) = true := by
      rw [Ne, Ne, ← hwhole.eq_nil_iff, ← hfraction.eq_nil_iff, ← not_and_or] at hne
      simpa [List.isEmpty_iff] using hne
    rw [readLiteral?, hread, hafter, readFraction_append hfraction hpoint hexponent]
    dsimp only
    rw [if_neg hne, readExponent?_eq_some_iff.mpr hexponent]
    rfl

/-! ### Underscores -/

/-- Behind some text already read, each underscore stands right between two digits. -/
def BetweenDigits (front cs : List Char) : Prop :=
  ∀ before after, cs = before ++ '_' :: after →
    (∃ c ∈ (front ++ before).getLast?, isDecimalDigit c = true) ∧
      ∃ c ∈ after.head?, isDecimalDigit c = true

variable {front : List Char} {c : Char}

theorem betweenDigits_cons :
    BetweenDigits front (c :: cs) ↔
      (c = '_' → (∃ d ∈ front.getLast?, isDecimalDigit d = true) ∧
        ∃ d ∈ cs.head?, isDecimalDigit d = true) ∧ BetweenDigits (front ++ [c]) cs := by
  constructor
  · intro h
    refine ⟨?_, fun before after hcs => ?_⟩
    · rintro rfl
      simpa using h [] cs rfl
    · have := h (c :: before) after (congrArg _ hcs)
      rwa [List.append_assoc, List.singleton_append]
  · rintro ⟨hc, h⟩ before after hcs
    cases before with
    | nil =>
      obtain ⟨rfl, rfl⟩ := List.cons.inj hcs
      simpa using hc rfl
    | cons d before =>
      obtain ⟨rfl, htail⟩ := List.cons.inj hcs
      have := h before after htail
      rwa [List.append_assoc, List.singleton_append] at this

theorem ne_underscore (h : isDecimalDigit c = true) : c ≠ '_' := by
  rintro rfl
  revert h
  decide

/-- Underscores are taken out of a text exactly if each stands right between two digits. -/
theorem ungroup_eq_some_iff {flag : Bool} {plain : List Char}
    (hlast : (∃ d ∈ front.getLast?, isDecimalDigit d = true) ↔ flag = true) :
    ungroup flag cs = some plain ↔
      BetweenDigits front cs ∧ cs.filter (· ≠ '_') = plain := by
  fun_induction ungroup flag cs generalizing front plain with
  | case1 flag =>
    have : BetweenDigits front [] := fun before after h => by simp at h
    simp [this]
  | case2 flag c rest hdigits ih =>
    obtain ⟨hf, hc⟩ := Bool.and_eq_true_iff.mp hdigits
    have hne := ne_underscore hc
    have ih := fun plain => @ih (front ++ ['_'] ++ [c]) plain (by simp [hc])
    have hbetween : BetweenDigits front ('_' :: c :: rest) ↔
        BetweenDigits (front ++ ['_'] ++ [c]) rest := by
      rw [betweenDigits_cons, betweenDigits_cons, hlast]
      simp [hf, hc, hne]
    simp [Option.map_eq_some_iff, ih, hbetween, hne]
  | case3 flag c rest hdigits =>
    have hnot : ¬BetweenDigits front ('_' :: c :: rest) := by
      rw [betweenDigits_cons, hlast]
      rintro ⟨h, -⟩
      obtain ⟨hf, d, hd, hdigit⟩ := h rfl
      obtain rfl := Option.some.inj hd
      exact hdigits (by rw [hf, hdigit]; rfl)
    simp [hnot]
  | case4 flag rest hrest =>
    have hnot : ¬BetweenDigits front ('_' :: rest) := by
      rw [betweenDigits_cons]
      rintro ⟨h, -⟩
      obtain ⟨-, d, hd, -⟩ := h rfl
      obtain ⟨rest', rfl⟩ := List.head?_eq_some_iff.mp hd
      exact hrest d rest' rfl rfl
    simp [hnot]
  | case5 flag c rest _ hc ih =>
    have ih := fun plain => @ih (front ++ [c]) plain (by simp)
    have hbetween : BetweenDigits front (c :: rest) ↔ BetweenDigits (front ++ [c]) rest := by
      rw [betweenDigits_cons]
      simp [hc]
    simp [Option.map_eq_some_iff, ih, hbetween, hc]

theorem filter_underscores_of_not_mem (h : '_' ∉ cs) : cs.filter (· ≠ '_') = cs := by
  refine List.filter_eq_self.mpr fun c hc => decide_eq_true ?_
  rintro rfl
  exact h hc

/-! ### Words -/

theorem toLower_eq_self (h : c.toNat < 65 ∨ 90 < c.toNat) : c.toLower = c := by
  have hnot : ¬(c.val ≥ 'A'.val ∧ c.val ≤ 'Z'.val) := by
    simp only [ge_iff_le, UInt32.le_iff_toNat_le]
    change ¬(65 ≤ c.toNat ∧ c.toNat ≤ 90)
    omega
  exact dif_neg hnot

/-- What is a letter in lower case is a letter. -/
theorem toNat_of_toLower {w : Char} (h : c.toLower = w) (hw : 97 ≤ w.toNat ∧ w.toNat ≤ 122) :
    65 ≤ c.toNat ∧ c.toNat ≤ 122 ∧ c ≠ '_' := by
  by_cases hc : c.toNat < 65 ∨ 90 < c.toNat
  · rw [toLower_eq_self hc] at h
    subst h
    refine ⟨by omega, hw.2, ?_⟩
    rintro rfl
    revert hw
    decide
  · refine ⟨by omega, by omega, ?_⟩
    rintro rfl
    exact hc (by decide)

theorem IsInfinityWord.letters (h : IsInfinityWord cs) :
    ∀ c ∈ cs, 65 ≤ c.toNat ∧ c.toNat ≤ 122 ∧ c ≠ '_' := by
  intro c hc
  have hmem := List.mem_map_of_mem (f := Char.toLower) hc
  have hword : ∀ w ∈ cs.map Char.toLower, 97 ≤ w.toNat ∧ w.toNat ≤ 122 := by
    obtain h | h := h <;> simp [h]
  exact toNat_of_toLower rfl (hword _ hmem)

theorem IsInfinityWord.ne_nil (h : IsInfinityWord cs) : cs ≠ [] := by
  rintro rfl
  obtain h | h := h <;> cases h

/-- Where digits stand: in front of the letters or far behind them, and not among the blanks. -/
theorem toNat_of_isDecimalDigit (h : isDecimalDigit c = true) :
    48 ≤ c.toNat ∧ c.toNat < 58 ∨
      1632 ≤ c.toNat ∧ c.toNat ≠ 0x1680 ∧ ¬(0x2000 ≤ c.toNat ∧ c.toNat ≤ 0x3000) := by
  obtain ⟨d, hd⟩ := Option.isSome_iff_exists.mp h
  obtain ⟨z, hz, -⟩ := Option.map_eq_some_iff.mp hd
  have hrange := List.find?_some hz
  have hruns : ∀ z ∈ zeroDigits, z = 48 ∨
      1632 ≤ z ∧ (z + 10 ≤ 0x1680 ∨ 0x1680 < z) ∧ (z + 10 ≤ 0x2000 ∨ 0x3000 < z) := by decide
  have := hruns z (List.mem_of_find?_eq_some hz)
  simp only [Bool.and_eq_true, decide_eq_true_eq] at hrange
  omega

/-! ### Whole texts -/

theorem value_mk (ds es : List ℕ) (e : ℤ) :
    (⟨ds ++ es, e - es.length⟩ : DecimalLiteral).value =
      (decimalValue ds + decimalValue es / 10 ^ es.length) * 10 ^ e := by
  rw [DecimalLiteral.value_eq, ofDigits_append, ofDigits_eq_decimalValue, ofDigits_eq_decimalValue,
    zpow_sub₀ (by norm_num), zpow_natCast]
  push_cast
  field_simp

/-- A literal without sign begins with a digit or with the point. -/
theorem IsUnsigned.head (h : IsUnsigned cs ds es e) :
    ∃ c rest, cs = c :: rest ∧ (isDecimalDigit c = true ∨ c = '.') := by
  obtain ⟨hwhole, hfraction, hpoint, hne, hexponent⟩ := h
  rename_i whole point fraction exponent
  cases whole with
  | cons c whole => exact ⟨c, _, rfl, .inl (hwhole.isDecimalDigit c List.mem_cons_self)⟩
  | nil =>
    obtain rfl | ⟨rfl, rfl⟩ := hpoint
    · exact ⟨'.', _, rfl, .inr rfl⟩
    · simp at hne

theorem IsUnsigned.lt_ten (h : IsUnsigned cs ds es e) : ∀ d ∈ ds ++ es, d < 10 := by
  obtain ⟨hwhole, hfraction, -, -, -⟩ := h
  intro d hd
  exact (List.mem_append.mp hd).elim (hwhole.lt_ten d) (hfraction.lt_ten d)

/-- A literal without sign begins neither with a sign nor with a letter. -/
theorem IsUnsigned.not_word (h : IsUnsigned cs ds es e) :
    (∀ c ∈ cs.head?, c ≠ '+' ∧ c ≠ '-') ∧ ¬IsInfinityWord cs ∧
      cs.map Char.toLower ≠ ['n', 'a', 'n'] := by
  obtain ⟨c, rest, rfl, hc⟩ := h.head
  have hnumber : c.toNat < 65 ∨ 122 < c.toNat := by
    obtain hc | rfl := hc
    · have := toNat_of_isDecimalDigit hc
      omega
    · exact .inl (by decide)
  refine ⟨?_, fun hword => ?_, fun hword => ?_⟩
  · rintro _ ⟨⟩
    obtain hc | rfl := hc
    · exact not_isSign_of_isDecimalDigit hc
    · decide
  · have := hword.letters c List.mem_cons_self
    omega
  · have := toNat_of_toLower (List.cons.inj hword).1 (by decide)
    omega

/-- What is read from a text that has no underscores left. -/
theorem readTrimmed?_of_ungroup {plain : List Char} (h : ungroup false cs = some plain) :
    readTrimmed? cs =
      if IsInfinityWord (readSign plain).2 then some (.infinity (readSign plain).1)
      else if (readSign plain).2.map Char.toLower = ['n', 'a', 'n'] then some .nan
      else (readLiteral? (readSign plain).2).map (.decimal (readSign plain).1) := by
  have hword (body : List Char) (word : String) :
      asciiLower body = word ↔ body.map Char.toLower = word.toList := by
    rw [asciiLower, ← String.toList_inj, String.toList_ofList]
  rw [readTrimmed?, h]
  dsimp only
  simp only [hword]
  rfl

theorem ungroup_false_eq_some_iff {plain : List Char} :
    ungroup false cs = some plain ↔
      UnderscoresBetweenDigits cs ∧ cs.filter (· ≠ '_') = plain :=
  have hlast : (∃ d ∈ ([] : List Char).getLast?, isDecimalDigit d = true) ↔ false = true := by simp
  ungroup_eq_some_iff hlast

/-- The texts that are read as decimal literals are those of the grammar. -/
theorem readTrimmed?_eq_decimal_iff {l : DecimalLiteral} :
    readTrimmed? cs = some (.decimal negative l) ↔
      UnderscoresBetweenDigits cs ∧ ∃ sign body ds es e, cs.filter (· ≠ '_') = sign ++ body ∧
        IsSign sign negative ∧ IsUnsigned body ds es e ∧ l = ⟨ds ++ es, e - es.length⟩ := by
  constructor
  · intro hread
    cases hungroup : ungroup false cs with
    | none => simp [readTrimmed?, hungroup] at hread
    | some plain =>
      rw [readTrimmed?_of_ungroup hungroup] at hread
      obtain ⟨hunderscores, hplain⟩ := ungroup_false_eq_some_iff.mp hungroup
      obtain ⟨sign, hsplit, hsign⟩ := exists_sign plain
      split at hread
      · cases hread
      split at hread
      · cases hread
      obtain ⟨l', hliteral, heq⟩ := Option.map_eq_some_iff.mp hread
      obtain ⟨hnegative, rfl⟩ := NumberText.decimal.inj heq
      obtain ⟨ds, es, e, hbody, rfl⟩ := readLiteral?_eq_some_iff.mp hliteral
      exact ⟨hunderscores, sign, _, ds, es, e, hplain.trans hsplit, hnegative ▸ hsign, hbody, rfl⟩
  · rintro ⟨hunderscores, sign, body, ds, es, e, hplain, hsign, hbody, rfl⟩
    obtain ⟨hhead, hinfinity, hnan⟩ := hbody.not_word
    rw [readTrimmed?_of_ungroup (ungroup_false_eq_some_iff.mpr ⟨hunderscores, hplain⟩),
      hsign.read hhead]
    dsimp only
    rw [if_neg hinfinity, if_neg hnan, readLiteral?_eq_some_iff.mpr ⟨ds, es, e, hbody, rfl⟩]
    rfl

/-- What is read from a literal has the value that the literal denotes. -/
theorem denotes_iff {q : ℚ} :
    Denotes cs q ↔ ∃ negative l, readTrimmed? cs = some (.decimal negative l) ∧
      (∀ d ∈ l.digits, d < 10) ∧ q = if negative then -l.value else l.value := by
  have hsigned (negative : Bool) (ds es : List ℕ) (e : ℤ) :
      (if negative then -1 else 1) * (decimalValue ds + decimalValue es / 10 ^ es.length) * 10 ^ e =
        if negative then -(⟨ds ++ es, e - es.length⟩ : DecimalLiteral).value
        else (⟨ds ++ es, e - es.length⟩ : DecimalLiteral).value := by
    rw [value_mk]
    cases negative
    · exact congrArg (· * _) (one_mul _)
    · rw [if_pos rfl, if_pos rfl, neg_one_mul, neg_mul]
  constructor
  · rintro ⟨hunderscores, sign, negative, body, ds, es, e, hplain, hsign, hbody, rfl⟩
    exact ⟨negative, _, readTrimmed?_eq_decimal_iff.mpr
      ⟨hunderscores, sign, body, ds, es, e, hplain, hsign, hbody, rfl⟩, hbody.lt_ten, hsigned ..⟩
  · rintro ⟨negative, l, hread, hdigits, rfl⟩
    obtain ⟨hunderscores, sign, body, ds, es, e, hplain, hsign, hbody, rfl⟩ :=
      readTrimmed?_eq_decimal_iff.mp hread
    exact ⟨hunderscores, sign, negative, body, ds, es, e, hplain, hsign, hbody, (hsigned ..).symm⟩

theorem IsSign.not_mem (h : IsSign sign negative) (hc : isDecimalDigit c = true ∨ c = '_') :
    c ∉ sign := by
  cases h with
  | none => exact List.not_mem_nil
  | plus | minus =>
    rw [List.mem_singleton]
    rintro rfl
    revert hc
    decide

/-- The texts that are read as infinity are the words for it, with the sign that is read. -/
theorem readTrimmed?_eq_infinity_iff :
    readTrimmed? cs = some (.infinity negative) ↔ SaysInfinity cs negative := by
  constructor
  · intro hread
    cases hungroup : ungroup false cs with
    | none => simp [readTrimmed?, hungroup] at hread
    | some plain =>
      rw [readTrimmed?_of_ungroup hungroup] at hread
      obtain ⟨hunderscores, hplain⟩ := ungroup_false_eq_some_iff.mp hungroup
      obtain ⟨sign, hsplit, hsign⟩ := exists_sign plain
      by_cases hword : IsInfinityWord (readSign plain).2
      · rw [if_pos hword] at hread
        obtain rfl := NumberText.infinity.inj (Option.some.inj hread)
        -- an underscore would stand behind a digit, and there is none
        have hnone : '_' ∉ cs := by
          intro hm
          obtain ⟨before, after, rfl⟩ := List.append_of_mem hm
          obtain ⟨⟨c, hc, hdigit⟩, -⟩ := hunderscores before after rfl
          have hmem : c ∈ sign ++ (readSign plain).2 := by
            rw [← hsplit, ← hplain, List.mem_filter, List.mem_append]
            exact ⟨.inl (List.mem_of_getLast? hc), by simpa using ne_underscore hdigit⟩
          obtain hmem | hmem := List.mem_append.mp hmem
          · exact hsign.not_mem (.inl hdigit) hmem
          · have := hword.letters c hmem
            have := toNat_of_isDecimalDigit hdigit
            omega
        refine ⟨sign, _, ?_, hsign, hword⟩
        rw [← hsplit, ← hplain, filter_underscores_of_not_mem hnone]
      · rw [if_neg hword] at hread
        split at hread
        · cases hread
        · obtain ⟨_, _, heq⟩ := Option.map_eq_some_iff.mp hread
          cases heq
  · rintro ⟨sign, word, rfl, hsign, hword⟩
    have hnone : '_' ∉ sign ++ word := fun hm => (List.mem_append.mp hm).elim
      (hsign.not_mem (.inr rfl)) fun hm => (hword.letters _ hm).2.2 rfl
    have hunderscores : UnderscoresBetweenDigits (sign ++ word) := by
      intro before after h
      exact absurd (h ▸ by simp) hnone
    have hhead : ∀ c ∈ word.head?, c ≠ '+' ∧ c ≠ '-' := by
      intro c hc
      have := (hword.letters c (List.mem_of_mem_head? hc)).1
      constructor <;> (rintro rfl; revert this; decide)
    rw [readTrimmed?_of_ungroup (ungroup_false_eq_some_iff.mpr
      ⟨hunderscores, filter_underscores_of_not_mem hnone⟩), hsign.read hhead, if_pos hword]

/-! ### No number is blank -/

theorem isBlank_eq_false_of_isDecimalDigit (h : isDecimalDigit c = true) : isBlank c = false := by
  have := toNat_of_isDecimalDigit h
  rw [Bool.eq_false_iff]
  simp only [isBlank, Ne, Bool.or_eq_true, Bool.and_eq_true, decide_eq_true_eq, beq_iff_eq]
  omega

theorem Denotes.exists_not_blank {q : ℚ} (h : Denotes cs q) : ∃ c ∈ cs, isBlank c = false := by
  obtain ⟨-, sign, negative, body, ds, es, e, hplain, -, hbody, -⟩ := h
  obtain ⟨c, rest, rfl, hc⟩ := hbody.head
  have hmem : c ∈ cs.filter (· ≠ '_') := hplain ▸ by simp
  refine ⟨c, (List.mem_filter.mp hmem).1, ?_⟩
  obtain hc | rfl := hc
  · exact isBlank_eq_false_of_isDecimalDigit hc
  · decide

theorem SaysInfinity.exists_not_blank (h : SaysInfinity cs negative) :
    ∃ c ∈ cs, isBlank c = false := by
  obtain ⟨sign, word, rfl, -, hword⟩ := h
  obtain ⟨c, hc⟩ := List.exists_mem_of_ne_nil word hword.ne_nil
  refine ⟨c, List.mem_append_right _ hc, ?_⟩
  have := hword.letters c hc
  rw [Bool.eq_false_iff]
  simp only [isBlank, Ne, Bool.or_eq_true, Bool.and_eq_true, decide_eq_true_eq, beq_iff_eq]
  omega

end PinnedRun.Numeric.NumberText
