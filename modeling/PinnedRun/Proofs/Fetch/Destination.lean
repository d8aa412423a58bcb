import PinnedRun.Proofs.Fetch.Course
import PinnedRun.Proofs.Path.NormalForm

/-!
# How a destination is spelled

A fetch takes a destination that is given as a text for the path that the text names
(`Fetch.fetch_text`), and what it says of a path is the text of the path. So two spellings are
fetched to alike if they have the same normal form, and the first log record tells them apart if
they have not (`Fetch.fetch_text_eq_iff`).
-/

namespace PinnedRun.Fetch

open PinnedRun.Path (normalForm IsNormal BeginsWithPair)

variable {s : FetchSettings} {url text other : String}

theorem fetch_text (h : text ≠ "") :
    fetch s url (.text text) = fetch s url (.path (.ofText text)) := by
  simp [fetch, Destination.isEmpty, Destination.toPath, h]

theorem fetch_text_of_ne (hu : url ≠ "") (h : text ≠ "") :
    fetch s url (.text text) = fetchTo s url (.ofText text) := by
  rw [fetch_text h, fetch_of_ne hu rfl, Destination.toPath]

/-- The log of a fetch begins with the path that is fetched to. -/
theorem head?_log_fetchTo (s : FetchSettings) (url : String) (path : Path) :
    (fetchTo s url path {}).2.log.head? =
      some ⟨.info, .fetcher, "Fetching " ++ url ++ " -> " ++ path.toText⟩ := by
  -- no reply is left, so the request fails as one of the fetch
  have hc : Course s url path {} _ _ := .unanswered _ rfl rfl
  rw [hc.fetchTo_eq]
  rfl

/-- **Two spellings are fetched to alike exactly if they have the same normal form.** -/
theorem fetch_text_eq_iff (hu : url ≠ "") (h : text ≠ "") (h' : other ≠ "") :
    fetch s url (.text other) = fetch s url (.text text) ↔ normalForm other = normalForm text := by
  rw [fetch_text_of_ne hu h, fetch_text_of_ne hu h']
  constructor
  · intro he
    have hlog := head?_log_fetchTo s url (.ofText other)
    rw [he, head?_log_fetchTo] at hlog
    have hmessage := congrArg Record.message (Option.some.inj hlog)
    exact ((String.append_right_inj _).mp hmessage).symm
  · intro he
    have hpath := congrArg Path.ofText he
    rw [Path.ofText_normalForm, Path.ofText_normalForm] at hpath
    rw [hpath]

/-- **How a destination is spelled does not matter beyond its normal form.** In every world a fetch
to a text, to the path that it names and to the normal form of the text come to the same: the same
end, the same calls and log records, and the same volume. Other texts are fetched to alike exactly
if they have the same normal form. The normal form is normal, begins with a pair of slashes exactly
if the text does, and is its own normal form; and no other normal text names this path. -/
theorem fetch_destination_spelling (s : FetchSettings) (url : String) {text : String}
    (h : text ≠ "") :
    fetch s url (.text text) = fetch s url (.path (.ofText text)) ∧
    fetch s url (.text (normalForm text)) = fetch s url (.path (.ofText text)) ∧
    (url ≠ "" → ∀ other, other ≠ "" →
      (fetch s url (.text other) = fetch s url (.text text) ↔ normalForm other = normalForm text)) ∧
    IsNormal (normalForm text) ∧
    (BeginsWithPair (normalForm text) ↔ BeginsWithPair text) ∧
    normalForm (normalForm text) = normalForm text ∧
    ∀ other, IsNormal other → Path.ofText other = Path.ofText text → other = normalForm text := by
  have hnormal : IsNormal (normalForm text) := Path.isNormal_toText _
  refine ⟨fetch_text h, ?_, fun hu other h' => fetch_text_eq_iff hu h h', hnormal,
    Path.beginsWithPair_normalForm, Path.normalForm_normalForm text, fun other ho hp => ?_⟩
  · rw [fetch_text hnormal.ne_empty, Path.ofText_normalForm]
  · exact ho.eq_normalForm hp

/-- A pair of slashes at the beginning is kept, and one slash there is another destination. -/
theorem fetch_destination_spelling_of_pair :
    let text := "//./a///../b/."
    text ≠ "" ∧ normalForm text = "//a/../b" ∧ IsNormal "//a/../b" ∧
      fetch {} "https://host/pin" (.text text) = fetch {} "https://host/pin" (.text "//a/../b") ∧
      fetch {} "https://host/pin" (.text "/a/../b") ≠ fetch {} "https://host/pin" (.text text) := by
  intro text
  have hne : text ≠ "" := by decide
  have hform : normalForm text = "//a/../b" := by decide +kernel
  obtain ⟨hpath, hsame, hother, hnormal, -⟩ :=
    fetch_destination_spelling {} "https://host/pin" hne
  rw [hform] at hsame hnormal
  refine ⟨hne, hform, hnormal, hpath.trans hsame.symm, fun heq => ?_⟩
  have hforms := (hother (by decide) "/a/../b" (by decide)).mp heq
  exact absurd hforms (by decide +kernel)

end PinnedRun.Fetch
