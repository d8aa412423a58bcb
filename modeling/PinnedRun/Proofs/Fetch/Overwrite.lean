import PinnedRun.Proofs.Fetch.Course
import PinnedRun.Proofs.Volume.Resolution

/-!
# What fetches do to the volume

An `Attempt` is a fetch in a world, and `attempts` are the fetches of a list of errands, one after
the other. A fetch that succeeds replaces one file by the body of the answer, and one that fails
leaves the volume as it is (`Attempt.exact_of_wellFormed`). So after any errands every location
holds the last body that was written to it, or what it held before (`attempts_exact`).
-/

namespace PinnedRun.Fetch

open PinnedRun.Action

/-- A file to fetch. -/
structure Errand where
  url : String
  destination : Destination
deriving DecidableEq

/-- A fetch in a world. -/
structure Attempt where
  settings : FetchSettings
  errand : Errand
  before : World

namespace Attempt

/-- What the fetch ends with. -/
def result (a : Attempt) : Except Failure FetchResult :=
  (fetch a.settings a.errand.url a.errand.destination a.before).1

/-- The world after the fetch. -/
def after (a : Attempt) : World :=
  (fetch a.settings a.errand.url a.errand.destination a.before).2

/-- What the server answers. -/
def reply (a : Attempt) : Except Fault Response := a.before.nextReply.result

/-- The location that the destination leads to. -/
def location (a : Attempt) : Location := a.before.volume.resolve a.errand.destination.toPath

/-- The body that the fetch has written to a location. -/
def bodyFor? (l : Location) (a : Attempt) : Option ByteArray :=
  match a.result, a.reply with
  | .ok _, .ok response => if a.location = l then some response.body else none
  | _, _ => none

/-- A success of the server that can be written. -/
structure Lands (a : Attempt) (response : Response) (v : Volume) : Prop where
  url : a.errand.url ≠ ""
  destination : a.errand.destination.isEmpty = false
  reply : a.reply = .ok response
  success : isSuccess response.status = true
  write : a.before.volume.write a.errand.destination.toPath response.body = .ok v

/-- What a fetch that has been made owes to the volume. -/
structure Exact (a : Attempt) : Prop where
  wellFormed : a.after.volume.WellFormed
  sameTree : a.before.volume.SameTree a.after.volume
  failed : ∀ e, a.result = .error e → a.after.volume = a.before.volume
  succeeded : ∀ r, a.result = .ok r → ∃ response, a.reply = .ok response ∧
    200 ≤ response.status ∧ response.status < 300 ∧ r.bytesWritten = response.body.size ∧
      ∀ l, a.after.volume.lookup l =
        if l = a.location then some (.file response.body) else a.before.volume.lookup l

end Attempt

/-- The fetches of errands, one after the other. -/
def attempts (s : FetchSettings) : List Errand → World → List Attempt
  | [], _ => []
  | e :: es, w => ⟨s, e, w⟩ :: attempts s es (Attempt.after ⟨s, e, w⟩)

/-- The world after the fetches of errands. -/
def worldAfter (s : FetchSettings) : List Errand → World → World
  | [], w => w
  | e :: es, w => worldAfter s es (Attempt.after ⟨s, e, w⟩)

/-- The body that the last of the fetches to write to a location has written there. -/
def lastBody? (l : Location) (as : List Attempt) : Option ByteArray :=
  as.reverse.findSome? (·.bodyFor? l)

namespace Attempt

variable {a b : Attempt} {response : Response} {v : Volume} {l : Location}

theorem Lands.result_after (h : a.Lands response v) :
    a.result = .ok (written a.settings a.errand.url a.errand.destination.toPath a.before response) ∧
      a.after.volume = v := by
  unfold result after
  rw [fetch_of_ne h.url h.destination]
  have hc := fetchTo_course a.settings a.errand.url a.errand.destination.toPath a.before
  generalize fetchTo a.settings a.errand.url a.errand.destination.toPath a.before = p at *
  obtain ⟨r, w'⟩ := p
  -- every course but the last one contradicts what lands
  cases hc with
  | unanswered f hr hf | brokenOff f hr hf => exact nomatch hr.symm.trans h.reply
  | declined response' hr hs =>
    obtain rfl : response' = response := Except.ok.inj (hr.symm.trans h.reply)
    exact nomatch hs.symm.trans h.success
  | refused response' hr hs f hw hf | unwritable response' hr hs f hw hf =>
    obtain rfl : response' = response := Except.ok.inj (hr.symm.trans h.reply)
    exact nomatch hw.symm.trans h.write
  | written response' hr hs v' hw =>
    obtain rfl : response' = response := Except.ok.inj (hr.symm.trans h.reply)
    obtain rfl : v' = v := Except.ok.inj (hw.symm.trans h.write)
    exact ⟨rfl, World.volume_report ..⟩

/-- A fetch fails and leaves the volume alone, or a success of the server lands on it. -/
theorem fails_or_lands (a : Attempt) :
    (∃ e, a.result = .error e ∧ a.after.volume = a.before.volume) ∨
      ∃ response v, a.Lands response v := by
  by_cases he : a.errand.url ≠ "" ∧ a.errand.destination.isEmpty = false
  · have hc := fetchTo_course a.settings a.errand.url a.errand.destination.toPath a.before
    unfold result after
    rw [fetch_of_ne he.1 he.2]
    generalize fetchTo a.settings a.errand.url a.errand.destination.toPath a.before = p at *
    obtain ⟨r, w'⟩ := p
    cases hc with
    | brokenOff f hr hf => exact .inl ⟨_, rfl, volume_replied _⟩
    | unwritable response hr hs f hw hf => exact .inl ⟨_, rfl, volume_replied _⟩
    | unanswered f hr hf =>
      exact .inl ⟨_, rfl, (World.volume_report ..).trans (volume_replied _)⟩
    | declined response hr hs =>
      exact .inl ⟨_, rfl, (World.volume_report ..).trans (volume_replied _)⟩
    | refused response hr hs f hw hf =>
      exact .inl ⟨_, rfl, (World.volume_report ..).trans (volume_replied _)⟩
    | written response hr hs v hw => exact .inr ⟨response, v, he.1, he.2, hr, hs, hw⟩
  · obtain ⟨reason, h⟩ := fetch_of_empty (s := a.settings) he
    unfold result after
    rw [h]
    exact .inl ⟨_, rfl, rfl⟩

theorem lands_of_result {r : FetchResult} (h : a.result = .ok r) :
    ∃ response v, a.Lands response v := by
  obtain ⟨e, he, -⟩ | hl := a.fails_or_lands
  · exact nomatch h.symm.trans he
  · exact hl

theorem volume_after_of_error {e : Failure} (h : a.result = .error e) :
    a.after.volume = a.before.volume := by
  obtain ⟨_, -, hv⟩ | ⟨response, v, hl⟩ := a.fails_or_lands
  · exact hv
  · exact nomatch h.symm.trans hl.result_after.1

/-- A fetch that succeeds has put the body of the answer where its destination leads. -/
theorem lookup_after_of_ok {r : FetchResult} (h : a.result = .ok r) :
    ∃ response, a.reply = .ok response ∧ ∀ l, a.after.volume.lookup l =
      if l = a.location then some (.file response.body) else a.before.volume.lookup l := by
  obtain ⟨response, v, hl⟩ := lands_of_result h
  obtain ⟨-, rfl⟩ := hl.result_after
  exact ⟨response, hl.reply, Volume.lookup_write hl.write⟩

/-- **A fetch overwrites one file exactly, or it leaves the volume alone.** -/
theorem exact_of_wellFormed (hw : a.before.volume.WellFormed) : a.Exact := by
  obtain ⟨e, he, hv⟩ | ⟨response, v, h⟩ := a.fails_or_lands
  · refine ⟨hv ▸ hw, hv ▸ .refl _, fun _ _ => hv, fun r hr => ?_⟩
    exact nomatch hr.symm.trans he
  · obtain ⟨hr, rfl⟩ := h.result_after
    refine ⟨hw.write h.write, hw.sameTree_write h.write, fun e he => ?_, fun r hr' => ?_⟩
    · exact nomatch hr.symm.trans he
    · obtain rfl := Except.ok.inj (hr'.symm.trans hr)
      have hs := h.success
      simp only [isSuccess, Bool.and_eq_true, decide_eq_true_eq] at hs
      exact ⟨response, h.reply, hs.1, hs.2, rfl, Volume.lookup_write h.write⟩

/-- What a location holds after a fetch: the body that has been written there, if one has. -/
theorem lookup_after (hw : a.before.volume.WellFormed) (l : Location) :
    a.after.volume.lookup l =
      ((a.bodyFor? l).map Node.file).or (a.before.volume.lookup l) := by
  cases hr : a.result with
  | error e => simp [bodyFor?, hr, (exact_of_wellFormed hw).failed e hr]
  | ok r =>
    obtain ⟨response, hreply, -, -, -, h⟩ := (exact_of_wellFormed hw).succeeded r hr
    by_cases hl : l = a.location
    · simp [bodyFor?, hr, hreply, h, hl]
    · simp [bodyFor?, hr, hreply, h, hl, Ne.symm hl]

/-- A fetch that is repeated at once with the same answer succeeds again or fails again. -/
theorem exists_lands_iff_of_repeated (hw : a.before.volume.WellFormed)
    (hb : b.before = a.after) (he : b.errand = a.errand) (hr : b.reply = a.reply) :
    (∃ response v, b.Lands response v) ↔ ∃ response v, a.Lands response v := by
  constructor
  · rintro ⟨response, v, h⟩
    obtain ⟨_, _, hv⟩ | ha := a.fails_or_lands
    · -- a fetch that failed has changed nothing, so what lands now would have landed then
      refine ⟨response, v, he ▸ h.url, he ▸ h.destination, hr ▸ h.reply, h.success, ?_⟩
      rw [← hv, ← hb, ← he]
      exact h.write
    · exact ha
  · rintro ⟨response, v, h⟩
    obtain ⟨u, hu⟩ := (hw.sameTree_write h.write).exists_write ⟨v, h.write⟩
    refine ⟨response, u, he ▸ h.url, he ▸ h.destination, hr ▸ h.reply, h.success, ?_⟩
    rw [hb, h.result_after.2, he]
    exact hu

theorem exists_ok_iff_exists_lands :
    (∃ r, a.result = .ok r) ↔ ∃ response v, a.Lands response v :=
  ⟨fun ⟨_, h⟩ => lands_of_result h, fun ⟨_, _, h⟩ => ⟨_, h.result_after.1⟩⟩

/-- A fetch that is repeated at once with the same answer changes nothing any more. -/
theorem lookup_after_of_repeated (hw : a.before.volume.WellFormed)
    (hb : b.before = a.after) (he : b.errand = a.errand) (hr : b.reply = a.reply) (l : Location) :
    b.after.volume.lookup l = a.after.volume.lookup l := by
  obtain ⟨e, -, hv⟩ | hl := b.fails_or_lands
  · rw [hv, hb]
  · -- both have written, the same body to the same location
    have ha := (exists_lands_iff_of_repeated hw hb he hr).mp hl
    have hx : a.Exact := exact_of_wellFormed hw
    obtain ⟨r, hr'⟩ := exists_ok_iff_exists_lands.mpr ha
    obtain ⟨s, hs⟩ := exists_ok_iff_exists_lands.mpr hl
    obtain ⟨response, hp, -, -, -, h⟩ := hx.succeeded r hr'
    obtain ⟨response', hp', -, -, -, h'⟩ :=
      (exact_of_wellFormed (hb ▸ hx.wellFormed)).succeeded s hs
    obtain rfl : response = response' := Except.ok.inj ((hr ▸ hp).symm.trans hp')
    have hloc : b.location = a.location := by
      unfold location
      rw [hb, he, hx.sameTree.resolve]
    rw [h', hloc, hb, h]
    split <;> rfl

end Attempt

/-! ### Fetches in turn -/

theorem lastBody?_cons (l : Location) (a : Attempt) (as : List Attempt) :
    lastBody? l (a :: as) = (lastBody? l as).or (a.bodyFor? l) := by
  simp [lastBody?, List.findSome?_append]

/-- **After any fetches a location holds the last body that was written to it.** Each of the
fetches is exact, the volume stays well-formed with the same directories, and one more fetch that
is repeated with the same answer ends alike and changes nothing the second time. -/
theorem attempts_exact (s : FetchSettings) (es : List Errand) (w : World)
    (hw : w.volume.WellFormed) :
    (∀ a ∈ attempts s es w, a.Exact) ∧
      (worldAfter s es w).volume.WellFormed ∧
      w.volume.SameTree (worldAfter s es w).volume ∧
      (∀ l, (worldAfter s es w).volume.lookup l =
        ((lastBody? l (attempts s es w)).map Node.file).or (w.volume.lookup l)) ∧
      ∀ e : Errand, ∀ a b : Attempt, a = ⟨s, e, worldAfter s es w⟩ → b = ⟨s, e, a.after⟩ →
        b.reply = a.reply →
          ((∃ r, b.result = .ok r) ↔ ∃ r, a.result = .ok r) ∧
            ∀ l, b.after.volume.lookup l = a.after.volume.lookup l := by
  -- on the errands; that the volume is well-formed carries over to the next world
  induction es generalizing w with
  | nil =>
    refine ⟨by simp [attempts], hw, .refl _, fun l => by simp [attempts, lastBody?]; rfl, ?_⟩
    rintro e a b rfl rfl hr
    rw [Attempt.exists_ok_iff_exists_lands, Attempt.exists_ok_iff_exists_lands]
    exact ⟨Attempt.exists_lands_iff_of_repeated hw rfl rfl hr,
      Attempt.lookup_after_of_repeated hw rfl rfl hr⟩
  | cons e es ih =>
    have hx : Attempt.Exact ⟨s, e, w⟩ := Attempt.exact_of_wellFormed hw
    obtain ⟨hall, hwf, htree, hlook, hrep⟩ := ih (Attempt.after ⟨s, e, w⟩) hx.wellFormed
    refine ⟨?_, hwf, hx.sameTree.trans htree, fun l => ?_, hrep⟩
    · exact List.forall_mem_cons.mpr ⟨hx, hall⟩
    · have ha := Attempt.lookup_after (a := ⟨s, e, w⟩) hw l
      rw [attempts, lastBody?_cons, worldAfter, hlook, ha]
      cases lastBody? l (attempts s es _) <;> simp

/-- Two spellings of one file: the second fetch overwrites what the first one has written. -/
theorem attempts_exact_of_spellings :
    let w : World := { replies := { requests :=
      [⟨0, .ok ⟨200, ⟨#[1, 2]⟩⟩⟩, ⟨0, .ok ⟨200, ⟨#[3]⟩⟩⟩] } }
    let es : List Errand := [⟨"https://host/f", .text "./x"⟩, ⟨"https://host/f", .text "x//"⟩]
    w.volume.WellFormed ∧
      (worldAfter {} es w).volume.lookup ["work", "x"] = some (.file ⟨#[3]⟩) := by
  intro w es
  have hw : w.volume.WellFormed := Volume.wellFormed_bare_singleton "work"
  have hl : lastBody? ["work", "x"] (attempts {} es w) = some ⟨#[3]⟩ := by decide +kernel
  obtain ⟨-, -, -, h, -⟩ := attempts_exact {} es w hw
  exact ⟨hw, by rw [h, hl]; rfl⟩

end PinnedRun.Fetch
