/-!
# Blank characters

`isBlank` is the class of white space of Unicode, together with the four information separators
`U+001C` to `U+001F`; `isAsciiBlank` is the class of the six blanks that older formats know.

* `trim` removes the characters of a class at both ends of a text;
* `isBlankText` decides that a text holds nothing else than blanks.
-/

namespace PinnedRun.Text

/-- White space of Unicode and the information separators. -/
def isBlank (c : Char) : Bool :=
  let n := c.toNat
  (9 ≤ n && n ≤ 13) || (0x1C ≤ n && n ≤ 0x20) || n == 0x85 || n == 0xA0 || n == 0x1680 ||
    (0x2000 ≤ n && n ≤ 0x200A) || n == 0x2028 || n == 0x2029 || n == 0x202F || n == 0x205F ||
    n == 0x3000

/-- Space, tab, line feed, vertical tab, form feed and carriage return. -/
def isAsciiBlank (c : Char) : Bool :=
  let n := c.toNat
  (9 ≤ n && n ≤ 13) || n == 0x20

/-- A character of the ASCII range. -/
def isAscii (c : Char) : Bool := c.toNat < 0x80

/-- Removes the characters of a class at the end. -/
def trimRight (blank : Char → Bool) (cs : List Char) : List Char :=
  (cs.reverse.dropWhile blank).reverse

/-- Removes the characters of a class at both ends. -/
def trim (blank : Char → Bool) (cs : List Char) : List Char :=
  trimRight blank (cs.dropWhile blank)

/-- A text of blanks only; the empty text is one. -/
def isBlankText (s : String) : Bool := s.toList.all isBlank

/-! ### What trimming leaves -/

theorem dropWhile_blanks (blank : Char → Bool) {bs : List Char} (h : ∀ b ∈ bs, blank b = true) :
    bs.dropWhile blank = [] := by
  induction bs with
  | nil => rfl
  | cons b bs ih =>
    rw [List.dropWhile_cons_of_pos (h b List.mem_cons_self)]
    exact ih fun c hc => h c (List.mem_cons_of_mem _ hc)

theorem trimRight_append_blanks (blank : Char → Bool) (cs : List Char) {bs : List Char}
    (h : ∀ b ∈ bs, blank b = true) : trimRight blank (cs ++ bs) = trimRight blank cs := by
  have hb : bs.reverse.dropWhile blank = [] :=
    dropWhile_blanks blank fun b hb => h b (List.mem_reverse.1 hb)
  simp [trimRight, List.dropWhile_append, hb]

theorem trim_blanks_append (blank : Char → Bool) {bs : List Char} (cs : List Char)
    (h : ∀ b ∈ bs, blank b = true) : trim blank (bs ++ cs) = trim blank cs := by
  simp [trim, List.dropWhile_append, dropWhile_blanks blank h]

end PinnedRun.Text
