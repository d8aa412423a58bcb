import PinnedRun.Fetch
import PinnedRun.Proofs.World.Outside

/-!
# The course of a fetch

A fetch of a file with an address and a destination takes one of six courses (`Fetch.Course`): the
request fails by a fault that counts as one of the fetch or by another one, the answer is no
success, the write is refused by the system or fails otherwise, or the file is written. Each course
comes with its condition, its end and the world after it (`Fetch.fetchTo_course`), and excludes the
others (`Fetch.Course.fetchTo_eq`). Without address or destination nothing is done
(`Fetch.fetch_of_empty`). In any case no other replies are taken than those of the server, and
nothing is printed (`Fetch.fetch_frame`).
-/

namespace PinnedRun

open PinnedRun.Action

theorem Volume.isFetch_of_write {v : Volume} {path : Path} {content : ByteArray} {f : Fault}
    (h : v.write path content = .error f) : f.isFetch = false := by
  unfold Volume.write at h
  split at h
  · cases h
    rfl
  · split at h <;> cases h
    rfl

namespace Fetch

/-- The world of a fetch after its request has been replied to. -/
def replied (s : FetchSettings) (url : String) (path : Path) (w : World) : World :=
  (w.report .info .fetcher ("Fetching " ++ url ++ " -> " ++ path.toText)).asked url s.timeout
    s.verifyTls

/-- What a fetch ends with that has written a body of an answer to a path. -/
def written (s : FetchSettings) (url : String) (path : Path) (w : World) (response : Response) :
    FetchResult where
  url := url
  destination := path
  bytesWritten := response.body.size
  status := response.status
  durationMs := elapsedMs w.reading (replied s url path w).reading

/-- What a fetch does and how it ends. -/
inductive Course (s : FetchSettings) (url : String) (path : Path) (w : World) :
    Except Failure FetchResult → World → Prop where
  /-- The request fails, and that counts as a fault of the fetch. -/
  | unanswered (f : Fault) (hr : w.nextReply.result = .error f) (hf : isContactFault f = true) :
    Course s url path w (.error ⟨unansweredFault url f, some f⟩)
      ((replied s url path w).report .error .fetcher ("Fetch failed: " ++ f.headline))
  /-- The request fails by another fault. -/
  | brokenOff (f : Fault) (hr : w.nextReply.result = .error f) (hf : isContactFault f = false) :
    Course s url path w (.error ⟨f, none⟩) (replied s url path w)
  /-- The answer is no success. -/
  | declined (response : Response) (hr : w.nextReply.result = .ok response)
      (hs : isSuccess response.status = false) :
    Course s url path w (.error ⟨statusFault url response.status, none⟩)
      ((replied s url path w).report .error .fetcher
        ("Fetch failed: HTTP " ++ toString response.status ++ " for " ++ url))
  /-- The system refuses the write. -/
  | refused (response : Response) (hr : w.nextReply.result = .ok response)
      (hs : isSuccess response.status = true) (f : Fault)
      (hw : w.volume.write path response.body = .error f) (hf : f.isSystem = true) :
    Course s url path w (.error ⟨unwrittenFault url response.status path f, some f⟩)
      ((replied s url path w).report .error .fetcher
        ("Could not write " ++ path.toText ++ ": " ++ f.message))
  /-- The write fails otherwise. -/
  | unwritable (response : Response) (hr : w.nextReply.result = .ok response)
      (hs : isSuccess response.status = true) (f : Fault)
      (hw : w.volume.write path response.body = .error f) (hf : f.isSystem = false) :
    Course s url path w (.error ⟨f, none⟩) (replied s url path w)
  /-- The body is written. -/
  | written (response : Response) (hr : w.nextReply.result = .ok response)
      (hs : isSuccess response.status = true) (v : Volume)
      (hw : w.volume.write path response.body = .ok v) :
    Course s url path w (.ok (written s url path w response))
      ({ replied s url path w with volume := v }.report .debug .fetcher
        ("Wrote " ++ toString response.body.size ++ " bytes to " ++ path.toText ++ " in " ++
          Numeric.fixedPlaces 2 (written s url path w response).durationMs ++ "ms"))

variable {s : FetchSettings} {url : String} {d : Destination} {w : World}

theorem contact_of_ok {response : Response} (h : w.nextReply.result = .ok response) :
    contact s url w = (.ok response, w.asked url s.timeout s.verifyTls) := by
  have hr : request url s.timeout s.verifyTls w =
      (.ok response, w.asked url s.timeout s.verifyTls) := by
    rw [request_apply, h]
    rfl
  exact handle_of_ok hr

theorem contact_of_error {f : Fault} (h : w.nextReply.result = .error f) :
    contact s url w =
      if isContactFault f then
        (.error ⟨unansweredFault url f, some f⟩,
          (w.asked url s.timeout s.verifyTls).report .error .fetcher
            ("Fetch failed: " ++ f.headline))
      else (.error ⟨f, none⟩, w.asked url s.timeout s.verifyTls) := by
  have hr : request url s.timeout s.verifyTls w =
      (.error ⟨f, none⟩, w.asked url s.timeout s.verifyTls) := by
    rw [request_apply, h]
    rfl
  refine (handle_of_error hr).trans ?_
  dsimp only
  cases isContactFault f <;> rfl

theorem store_of_ok {path : Path} {response : Response} {v : Volume}
    (h : w.volume.write path response.body = .ok v) :
    store url path response w = (.ok (), { w with volume := v }) := by
  simp [store, handle_apply, writeFile, h]

theorem store_of_error {path : Path} {response : Response} {f : Fault}
    (h : w.volume.write path response.body = .error f) :
    store url path response w =
      if f.isSystem then
        (.error ⟨unwrittenFault url response.status path f, some f⟩,
          w.report .error .fetcher ("Could not write " ++ path.toText ++ ": " ++ f.message))
      else (.error ⟨f, none⟩, w) := by
  simp only [store, handle_apply, writeFile, h]
  cases f.isSystem <;> rfl

@[simp] theorem volume_replied (path : Path) : (replied s url path w).volume = w.volume :=
  World.volume_report ..

theorem fetch_of_ne (hu : url ≠ "") (hd : d.isEmpty = false) :
    fetch s url d = fetchTo s url d.toPath := by
  simp [fetch, hu, hd]

theorem fetch_of_empty (h : ¬(url ≠ "" ∧ d.isEmpty = false)) :
    ∃ reason, fetch s url d = fail ⟨.unusable reason, none⟩ := by
  unfold fetch
  split
  · exact ⟨.emptyUrl, rfl⟩
  · rename_i hu
    split
    · exact ⟨.emptyDestination, rfl⟩
    · rename_i hd
      exact absurd ⟨hu, Bool.eq_false_iff.mpr hd⟩ h

theorem fetchTo_apply (path : Path) :
    fetchTo s url path w =
      (contact s url >>= accept url path w.reading)
        (w.report .info .fetcher ("Fetching " ++ url ++ " -> " ++ path.toText)) := rfl

/-- **Every fetch takes one of the six courses.** -/
theorem fetchTo_course (s : FetchSettings) (url : String) (path : Path) (w : World) :
    Course s url path w (fetchTo s url path w).1 (fetchTo s url path w).2 := by
  have hn := nextReply_report (w := w) .info .fetcher
    ("Fetching " ++ url ++ " -> " ++ path.toText)
  -- by the reply, then by the status, then by what the write comes to
  rw [fetchTo_apply]
  cases hr : w.nextReply.result with
  | error f =>
    have hc : contact s url _ = _ := contact_of_error ((congrArg (·.result) hn).trans hr)
    cases hf : isContactFault f with
    | true =>
      rw [hf, if_pos rfl] at hc
      rw [bind_of_error hc]
      exact .unanswered f hr hf
    | false =>
      rw [hf, if_neg Bool.false_ne_true] at hc
      rw [bind_of_error hc]
      exact .brokenOff f hr hf
  | ok response =>
    have hc : contact s url _ = _ := contact_of_ok ((congrArg (·.result) hn).trans hr)
    rw [bind_of_ok hc]
    change Course s url path w (accept url path w.reading response (replied s url path w)).1
      (accept url path w.reading response (replied s url path w)).2
    unfold accept
    cases hs : isSuccess response.status with
    | false => exact .declined response hr hs
    | true =>
      rw [if_pos rfl]
      cases hw : w.volume.write path response.body with
      | ok v =>
        have hst : store url path response (replied s url path w) = _ :=
          store_of_ok ((volume_replied path).symm ▸ hw)
        rw [bind_of_ok hst]
        exact .written response hr hs v hw
      | error f =>
        have hst : store url path response (replied s url path w) = _ :=
          store_of_error ((volume_replied path).symm ▸ hw)
        cases hf : f.isSystem with
        | true =>
          rw [hf, if_pos rfl] at hst
          rw [bind_of_error hst]
          exact .refused response hr hs f hw hf
        | false =>
          rw [hf, if_neg Bool.false_ne_true] at hst
          rw [bind_of_error hst]
          exact .unwritable response hr hs f hw hf

/-- Each course has a condition of its own, so they exclude one another. -/
theorem Course.unique {path : Path} {r r' : Except Failure FetchResult} {v v' : World}
    (h : Course s url path w r v) (h' : Course s url path w r' v') : r = r' ∧ v = v' := by
  cases h <;> cases h' <;> grind

/-- A course whose condition holds is the one that is taken. -/
theorem Course.fetchTo_eq {path : Path} {r : Except Failure FetchResult} {v : World}
    (h : Course s url path w r v) : fetchTo s url path w = (r, v) :=
  Prod.ext_iff.mpr ((fetchTo_course s url path w).unique h)

theorem Course.fst_fetchTo {path : Path} {r : Except Failure FetchResult} {v : World}
    (h : Course s url path w r v) : (fetchTo s url path w).1 = r :=
  congrArg Prod.fst h.fetchTo_eq

/-- Apart from its log, a fetch does no more than asking and maybe writing. -/
theorem Course.outside {path : Path} {r : Except Failure FetchResult} {w' : World}
    (h : Course s url path w r w') :
    ∃ v, w'.outside =
      { w.asked url s.timeout s.verifyTls with volume := v }.outside := by
  have hr : (replied s url path w).outside = (w.asked url s.timeout s.verifyTls).outside :=
    World.outside_asked (World.outside_report ..) ..
  cases h with
  | brokenOff | unwritable => exact ⟨w.volume, hr⟩
  | unanswered | declined | refused => exact ⟨w.volume, (World.outside_report ..).trans hr⟩
  | written response _ _ v =>
    refine ⟨v, (World.outside_report ..).trans ?_⟩
    exact congrArg (fun u : World => { u with volume := v }) hr

/-- The calls that a fetch makes. -/
def calls (s : FetchSettings) (url : String) (d : Destination) : List Call :=
  if url ≠ "" ∧ d.isEmpty = false then [.get url s.timeout s.verifyTls] else []

/-- A fetch takes no other replies than those of the server, and prints nothing. -/
theorem fetch_frame (s : FetchSettings) (url : String) (d : Destination) (w : World) :
    ∃ requests, (fetch s url d w).2.replies = { w.replies with requests := requests } ∧
      (fetch s url d w).2.calls = w.calls ++ calls s url d ∧
      (fetch s url d w).2.printed = w.printed := by
  unfold calls
  split
  · rename_i h
    rw [fetch_of_ne h.1 h.2]
    obtain ⟨v, hv⟩ := (fetchTo_course s url d.toPath w).outside
    obtain ⟨hr, -, -, hc, hp⟩ := World.outside_eq_iff.mp hv
    exact ⟨_, hr, hc, hp⟩
  · rename_i h
    obtain ⟨reason, hf⟩ := fetch_of_empty (s := s) h
    rw [hf]
    exact ⟨_, rfl, (List.append_nil _).symm, rfl⟩

end Fetch

end PinnedRun
