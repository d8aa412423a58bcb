import Mathlib.Logic.ExistsUnique
import PinnedRun.Proofs.Fetch.Course
import PinnedRun.Proofs.Path.NormalForm

/-!
# What the fault of a fetch tells

A fetch can fail by a fault of its own at three points: the request gets no answer, the answer is no
success, or the system refuses to write the body (`Fetch.FailedAt`). The status in the fault tells
which it was: there is none, it lies outside of 200 to 299, or inside (`Fetch.Point.Shown`). The
fault then names the address, and what was met first is its cause (`Fetch.Diagnosis`,
`Fetch.fetch_diagnosed`). Any other fault of the request comes out as it is, with nothing done
after it.
-/

namespace PinnedRun

/-! ### Destinations without a text -/

/-- A destination as a text. -/
def Destination.written : Destination → String
  | text s => s
  | path p => p.toText

theorem Destination.isEmpty_iff {d : Destination} : d.isEmpty = true ↔ d.written = "" := by
  cases d with
  | text s => exact decide_eq_true_iff
  | path p => exact iff_of_false Bool.false_ne_true p.toText_ne_empty

namespace Fetch

/-- Where a fetch can fail by a fault of its own. -/
inductive Point where
  /-- The request gets no answer. -/
  | request
  /-- The answer is no success. -/
  | answer
  /-- The body cannot be written. -/
  | write
deriving DecidableEq

/-- What the status in a fault is like for each point. -/
def Point.Shown : Point → Option Int → Prop
  | request, status => status = none
  | answer, status => ∃ code, status = some code ∧ ¬(200 ≤ code ∧ code ≤ 299)
  | write, status => ∃ code, status = some code ∧ 200 ≤ code ∧ code ≤ 299

/-- A fetch to a path fails at a point, with the status and the cause that go with it. -/
inductive FailedAt (path : Path) (w : World) : Point → Option Int → Option Fault → Prop
  | request {f : Fault} (hr : w.nextReply.result = .error f)
    (hf : f.isRequest = true ∨ f.isUnusable = true) : FailedAt path w .request none (some f)
  | answer {response : Response} (hr : w.nextReply.result = .ok response)
    (hs : ¬(200 ≤ response.status ∧ response.status ≤ 299)) :
    FailedAt path w .answer (some response.status) none
  | write {response : Response} {f : Fault} (hr : w.nextReply.result = .ok response)
    (hs : 200 ≤ response.status ∧ response.status ≤ 299)
    (hw : w.volume.write path response.body = .error f) (hf : f.isSystem = true) :
    FailedAt path w .write (some response.status) (some f)

/-- What the fault of a fetch tells: the address, and by its status the one point where the fetch
has failed, with the cause that goes with it. -/
structure Diagnosis (url : String) (path : Path) (w : World) (address : String)
    (status : Option Int) (cause : Option Fault) : Prop where
  /-- The address is the one that was asked for. -/
  address_eq : address = url
  /-- The status is that of exactly one point. -/
  existsUnique_shown : ∃! point : Point, point.Shown status
  /-- This point, and no other one, is where the fetch has failed. -/
  shown_iff : ∀ point : Point, point.Shown status ↔ ∃ st c, FailedAt path w point st c
  /-- Status and cause are those that go with it. -/
  eq_of_failedAt : ∀ point st c, FailedAt path w point st c → st = status ∧ c = cause

variable {s : FetchSettings} {url address : String} {d : Destination} {path : Path} {w : World}
  {point point' : Point} {status status' : Option Int} {cause cause' : Option Fault} {code : Int}

theorem isSuccess_iff : isSuccess code = true ↔ 200 ≤ code ∧ code ≤ 299 := by
  rw [isSuccess, Bool.and_eq_true, decide_eq_true_eq, decide_eq_true_eq]
  omega

theorem isSuccess_eq_false_iff : isSuccess code = false ↔ ¬(200 ≤ code ∧ code ≤ 299) := by
  rw [← isSuccess_iff, Bool.not_eq_true]

theorem isContactFault_iff {f : Fault} :
    isContactFault f = true ↔ f.isRequest = true ∨ f.isUnusable = true :=
  Bool.or_eq_true_iff

/-- A status is that of one point. -/
theorem Point.Shown.eq (h : point.Shown status) (h' : point'.Shown status) : point = point' := by
  cases point <;> cases point' <;> grind [Shown]

namespace FailedAt

theorem shown (h : FailedAt path w point status cause) : point.Shown status := by
  cases h with
  | request => rfl
  | answer _ hs => exact ⟨_, rfl, hs⟩
  | write _ hs => exact ⟨_, rfl, hs⟩

/-- What fails at a point fails by a fault of the fetch with the status and the cause. -/
theorem fetchTo_fst (h : FailedAt path w point status cause) :
    ∃ message, (fetchTo s url path w).1 = .error ⟨.fetch message url status, cause⟩ := by
  cases h with
  | request hr hf =>
    have hf := isContactFault_iff.mpr hf
    exact ⟨_, (Course.unanswered _ hr hf).fst_fetchTo⟩
  | answer hr hs =>
    have hs := isSuccess_eq_false_iff.mpr hs
    exact ⟨_, (Course.declined _ hr hs).fst_fetchTo⟩
  | write hr hs hw hf =>
    have hs := isSuccess_iff.mpr hs
    exact ⟨_, (Course.refused _ hr hs _ hw hf).fst_fetchTo⟩

theorem unique (h : FailedAt path w point status cause)
    (h' : FailedAt path w point' status' cause') :
    point = point' ∧ status = status' ∧ cause = cause' := by
  -- both are read off what the fetch ends with, whatever it is that is fetched
  obtain ⟨message, hr⟩ : ∃ message, (fetchTo {} "" path w).1 = .error ⟨.fetch message "" _, _⟩ :=
    h.fetchTo_fst
  obtain ⟨message', hr'⟩ := h'.fetchTo_fst
  cases hr.symm.trans hr'
  exact ⟨h.shown.eq h'.shown, rfl, rfl⟩

theorem diagnosis (h : FailedAt path w point status cause) :
    Diagnosis url path w url status cause where
  address_eq := rfl
  existsUnique_shown := ⟨point, h.shown, fun _ hp => hp.eq h.shown⟩
  shown_iff point' := by
    constructor
    · intro hp
      obtain rfl : point = point' := h.shown.eq hp
      exact ⟨status, cause, h⟩
    · rintro ⟨st, c, h'⟩
      obtain ⟨rfl, -, -⟩ := h.unique h'
      exact h.shown
  eq_of_failedAt _ _ _ h' := (h'.unique h).2

end FailedAt

/-- A fault of the fetch that does not come from the request names the address and the point. -/
theorem Course.failedAt {r : Except Failure FetchResult} {w' : World} {message : String}
    (h : Course s url path w r w')
    (hg : ∀ f, w.nextReply.result = .error f → f.isFetch = false)
    (hr : r = .error ⟨.fetch message address status, cause⟩) :
    address = url ∧ ∃ point, FailedAt path w point status cause := by
  cases h with
  | unanswered f hf hc =>
    cases hr
    exact ⟨rfl, .request, .request hf (isContactFault_iff.mp hc)⟩
  | brokenOff f hf =>
    cases hr
    exact nomatch hg _ hf
  | declined response ho hs =>
    cases hr
    exact ⟨rfl, .answer, .answer ho (isSuccess_eq_false_iff.mp hs)⟩
  | refused response ho hs f hw hf =>
    cases hr
    exact ⟨rfl, .write, .write ho (isSuccess_iff.mp hs) hw hf⟩
  | unwritable response ho hs f hw =>
    cases hr
    exact nomatch Volume.isFetch_of_write hw
  | written => exact nomatch hr

/-- What a fetch that ends well tells about the file and the answer. -/
theorem Course.of_ok {r : FetchResult} {w' : World} (h : Course s url path w (.ok r) w') :
    r.url = url ∧ r.destination = path ∧
      ∃ response, w.nextReply.result = .ok response ∧ r.status = response.status := by
  cases h with
  | written response ho => exact ⟨rfl, rfl, response, ho, rfl⟩

theorem calls_fetchTo :
    (fetchTo s url path w).2.calls = w.calls ++ [.get url s.timeout s.verifyTls] := by
  obtain ⟨v, hv⟩ := (fetchTo_course s url path w).outside
  exact congrArg World.calls hv

/-- A fetch finds a value unusable before it does anything exactly if the address or the destination
is empty. -/
theorem unusable_iff :
    (∃ e, (fetch s url d w).1 = .error e ∧ e.fault.isUnusable = true ∧
        (fetch s url d w).2.calls = w.calls ∧ (fetch s url d w).2.log = w.log) ↔
      url = "" ∨ d.written = "" := by
  by_cases h : url ≠ "" ∧ d.isEmpty = false
  · -- the request is a call
    refine iff_of_false ?_ ?_
    · rintro ⟨e, -, -, hc, -⟩
      rw [fetch_of_ne h.1 h.2, calls_fetchTo] at hc
      exact absurd hc (by simp)
    · rintro (hu | hd)
      · exact h.1 hu
      · exact nomatch h.2.symm.trans (Destination.isEmpty_iff.mpr hd)
  · refine iff_of_true ?_ ?_
    · obtain ⟨reason, hf⟩ := fetch_of_empty (s := s) h
      rw [hf]
      exact ⟨_, rfl, rfl, rfl, rfl⟩
    · rw [← Destination.isEmpty_iff]
      grind

/-- **The status in the fault of a fetch tells where it has failed.** Only an empty address or
destination is complained of before anything is done. Otherwise the server is asked once, a fault of
the fetch comes with its diagnosis, and each of the three ways to fail comes out as such a fault. A
fetch that ends well names the file and the status of the answer. Any other fault of the request
comes out as it is, and nothing is done after it. The request itself is supposed not to fail by a
fault of a fetch, which might name another address. -/
theorem fetch_diagnosed (s : FetchSettings) (url : String) (d : Destination) (w : World)
    (hg : ∀ f, w.nextReply.result = .error f → f.isFetch = false) :
    ((∃ e, (fetch s url d w).1 = .error e ∧ e.fault.isUnusable = true ∧
        (fetch s url d w).2.calls = w.calls ∧ (fetch s url d w).2.log = w.log) ↔
      url = "" ∨ d.written = "") ∧
    (url ≠ "" → d.written ≠ "" →
      (fetch s url d w).2.calls = w.calls ++ [.get url s.timeout s.verifyTls] ∧
      (∀ message address status cause,
        (fetch s url d w).1 = .error ⟨.fetch message address status, cause⟩ →
          Diagnosis url d.toPath w address status cause) ∧
      (∀ point status cause, FailedAt d.toPath w point status cause →
        ∃ message, (fetch s url d w).1 = .error ⟨.fetch message url status, cause⟩) ∧
      (∀ r, (fetch s url d w).1 = .ok r → r.url = url ∧ r.destination = d.toPath ∧
        ∃ response, w.nextReply.result = .ok response ∧ r.status = response.status) ∧
      ∀ f, w.nextReply.result = .error f → f.isRequest = false → f.isUnusable = false →
        fetch s url d w = (.error ⟨f, none⟩, replied s url d.toPath w)) := by
  refine ⟨unusable_iff, fun hu hd => ?_⟩
  have he : d.isEmpty = false := Bool.eq_false_iff.mpr (mt Destination.isEmpty_iff.mp hd)
  have hc := fetchTo_course s url d.toPath w
  rw [fetch_of_ne hu he]
  refine ⟨calls_fetchTo, ?_, fun _ _ _ h => h.fetchTo_fst, ?_, ?_⟩
  · intro message address status cause hr
    obtain ⟨rfl, point, h⟩ := hc.failedAt hg hr
    exact h.diagnosis
  · intro r hr
    rw [hr] at hc
    exact hc.of_ok
  · intro f hr hf hf'
    have hother : isContactFault f = false := by rw [isContactFault, hf, hf', Bool.or_self]
    exact (Course.brokenOff f hr hother).fetchTo_eq

/-- The last success of a server whose body has no directory to go to. -/
theorem fetch_diagnosed_of_missing_directory :
    let w : World := { replies := { requests := [⟨0, .ok ⟨299, ⟨#[]⟩⟩⟩] } }
    let refusal : Fault := .system (.numbered 2 "No such file or directory" "missing/pin")
    (∀ f, w.nextReply.result = .error f → f.isFetch = false) ∧
      (∃ message, (fetch {} "https://host/pin" (.text "missing/pin") w).1 =
        .error ⟨.fetch message "https://host/pin" (some 299), some refusal⟩) ∧
      Diagnosis "https://host/pin" (.ofText "missing/pin") w "https://host/pin" (some 299)
        (some refusal) := by
  intro w refusal
  have hg : ∀ f, w.nextReply.result = .error f → f.isFetch = false := fun _ h => nomatch h
  have hr : w.nextReply.result = .ok ⟨299, ⟨#[]⟩⟩ := rfl
  have hw : w.volume.write (.ofText "missing/pin") ⟨#[]⟩ = .error refusal := by rfl
  have h : FailedAt (.ofText "missing/pin") w .write (some 299) (some refusal) :=
    .write hr (by decide) hw rfl
  obtain ⟨-, hd⟩ := fetch_diagnosed {} "https://host/pin" (.text "missing/pin") w hg
  obtain ⟨-, hdiagnosis, hfault, -, -⟩ := hd (by decide) (by decide)
  obtain ⟨message, hm⟩ := hfault _ _ _ h
  exact ⟨hg, ⟨message, hm⟩, hdiagnosis _ _ _ _ hm⟩

end Fetch

end PinnedRun
