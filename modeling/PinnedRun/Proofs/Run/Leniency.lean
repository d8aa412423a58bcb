import PinnedRun.Proofs.Run.Ending

/-!
# Which failures a lenient run tolerates

A fetch can fail when the server is asked and when the body is written. Each of these two stages
covers some kinds of fault: these come out as a fault of the fetch that names the address and the
fault as its cause, and every other one comes out as it is. Being asked covers failed requests and
unusable values, writing covers refusals of the system (`Fetch.Stage.covers`). So a lenient run
launches the tests after a refusal of the system or an unusable value exactly if the stage covers it
(`Run.launches_iff_covers`).
-/

namespace PinnedRun

namespace Fetch

/-- Where the outside can fail a fetch. -/
inductive Stage where
  | contact
  | store
deriving DecidableEq

/-- The kinds of fault that a stage turns into a fault of the fetch. -/
def Stage.covers : Stage → Fault → Bool
  | contact, f => isContactFault f
  | store, f => f.isSystem

/-- A fault fails a fetch at a stage. -/
inductive FailsAt (path : Path) (w : World) : Stage → Fault → Prop where
  | contact {f : Fault} (hr : w.nextReply.result = .error f) : FailsAt path w .contact f
  | store {response : Response} {f : Fault} (hr : w.nextReply.result = .ok response)
    (hs : isSuccess response.status = true) (hw : w.volume.write path response.body = .error f) :
    FailsAt path w .store f

variable {s : FetchSettings} {url : String} {d : Destination} {w : World} {stage : Stage}
  {f : Fault}

theorem FailsAt.fetchTo_fst {path : Path} (h : FailsAt path w stage f) :
    (stage.covers f = true ∧
      ∃ message status, (fetchTo s url path w).1 = .error ⟨.fetch message url status, some f⟩) ∨
    stage.covers f = false ∧ (fetchTo s url path w).1 = .error ⟨f, none⟩ := by
  -- the stage leaves two courses: a covered fault and one that comes out
  cases h with
  | contact hr =>
    cases hf : isContactFault f with
    | true => exact .inl ⟨hf, _, _, (Course.unanswered _ hr hf).fst_fetchTo⟩
    | false => exact .inr ⟨hf, (Course.brokenOff _ hr hf).fst_fetchTo⟩
  | store hr hs hw =>
    cases hf : f.isSystem with
    | true => exact .inl ⟨hf, _, _, (Course.refused _ hr hs _ hw hf).fst_fetchTo⟩
    | false => exact .inr ⟨hf, (Course.unwritable _ hr hs _ hw hf).fst_fetchTo⟩

theorem FailsAt.fetch_fst (hu : url ≠ "") (hd : d.isEmpty = false)
    (h : FailsAt d.toPath w stage f) :
    (stage.covers f = true ∧
      ∃ message status, (fetch s url d w).1 = .error ⟨.fetch message url status, some f⟩) ∨
    stage.covers f = false ∧ (fetch s url d w).1 = .error ⟨f, none⟩ := by
  rw [fetch_of_ne hu hd]
  exact h.fetchTo_fst

theorem isFetch_eq_false (hf : (f.isSystem || f.isUnusable) = true) : f.isFetch = false := by
  cases f <;> simp_all [Fault.isSystem, Fault.isUnusable, Fault.isFetch]

end Fetch

namespace Run

open Fetch (FailsAt Stage)

variable {s : Settings} {p : Plan} {stage : Stage} {f : Fault}

theorem fetched_of_failsAt {w : World} (hu : p.remote.url ≠ "") (hd : p.destination ≠ "")
    (hf : (f.isSystem || f.isUnusable) = true)
    (h : FailsAt (.ofText p.destination) w stage f) (hc : w.replies.closing = none) :
    fetched s p w = if stage.covers f then .ok false else .error ⟨f, none⟩ := by
  have he : (Destination.text p.destination).isEmpty = false := decide_eq_false hd
  unfold fetched orClosing fetchPlanned
  rw [hc]
  obtain ⟨hs, message, status, hr⟩ | ⟨hs, hr⟩ :=
    FailsAt.fetch_fst (s := s.fetch) (d := .text p.destination) hu he h
  · rw [hr, hs]
    rfl
  · rw [hr, hs]
    exact if_neg (by rw [Fetch.isFetch_eq_false hf]; exact Bool.false_ne_true)

/-- The calls of a lenient run whose fetch fails. -/
theorem calls_run_of_failsAt {r : Run} (hu : p.remote.url ≠ "") (hd : p.destination ≠ "")
    (hf : (f.isSystem || f.isUnusable) = true)
    (h : FailsAt (.ofText p.destination) r.world stage f) (ha : s.abortOnFetchFailure = false)
    (hc : r.world.replies.closing = none) (hp : (prepare s r.world).1 = .ok ()) :
    (run s p r).2.world.calls =
      r.world.calls ++ [.get p.remote.url s.fetch.timeout s.fetch.verifyTls, .close] ++
        if stage.covers f then [.launch p.command.words] else [] := by
  have hcalls := calls_closed_fetchPlanned (s := s) hu hd r.world
  rw [calls_run, reached, hp]
  dsimp only
  rw [reachedReady, fetched_of_failsAt hu hd hf h hc, ha]
  cases stage.covers f <;> simp [World.launched, hcalls]

/-- **A fault that fails a fetch is tolerated exactly if its stage covers it.** Then the fetch ends
with a fault of its own that is caused by it, and a lenient run goes on to the tests; otherwise the
fault comes out as it is, and the tests are not launched. -/
theorem launches_iff_covers {url : String} {d : Destination} {w : World} (hu : url ≠ "")
    (hd : d.isEmpty = false) (hf : (f.isSystem || f.isUnusable) = true)
    (h : FailsAt d.toPath w stage f) :
    (∀ t : FetchSettings,
      (stage.covers f = true ↔ ∃ message status,
        (Fetch.fetch t url d w).1 = .error ⟨.fetch message url status, some f⟩) ∧
      (stage.covers f = false → (Fetch.fetch t url d w).1 = .error ⟨f, none⟩)) ∧
    ∀ s p, ∀ r : Run, r.world = w → p.remote.url = url → .text p.destination = d →
      s.abortOnFetchFailure = false → w.replies.closing = none → (prepare s w).1 = .ok () →
        (run s p r).2.world.calls =
          w.calls ++ [.get url s.fetch.timeout s.fetch.verifyTls, .close] ++
            if stage.covers f then [.launch p.command.words] else [] := by
  constructor
  · intro t
    obtain ⟨hs, message, status, hr⟩ | ⟨hs, hr⟩ := FailsAt.fetch_fst (s := t) hu hd h
    · exact ⟨⟨fun _ => ⟨message, status, hr⟩, fun _ => hs⟩, fun hn => (nomatch hs.symm.trans hn)⟩
    · refine ⟨⟨fun hn => (nomatch hs.symm.trans hn), ?_⟩, fun _ => hr⟩
      rintro ⟨message, status, hr'⟩
      exact nomatch hr.symm.trans hr'
  · rintro s p r rfl rfl rfl
    exact calls_run_of_failsAt hu (of_decide_eq_false hd) hf h

/-- A request that takes too long is covered, so the tests are launched. -/
theorem launches_iff_covers_timeout :
    let w : World := { replies := { requests := [⟨0, .error (.request .timeout "slow")⟩] } }
    FailsAt (.ofText usualPlan.destination) w .contact (.request .timeout "slow") ∧
      (run {} usualPlan (.ofPlan usualPlan w)).2.world.calls =
        [.get usualPlan.remote.url none true, .close, .launch ["cargo", "test"]] := by
  intro w
  have h : FailsAt (.ofText usualPlan.destination) w .contact (.request .timeout "slow") :=
    .contact rfl
  have hu : usualPlan.remote.url ≠ "" := by decide
  have hd : (Destination.text usualPlan.destination).isEmpty = false := by decide
  obtain ⟨-, hr⟩ := launches_iff_covers hu hd rfl h
  exact ⟨h, hr {} usualPlan _ rfl rfl rfl rfl rfl rfl⟩

/-- Neither a refusal of the system by which a request fails nor a path that cannot be used is
covered: the fault comes out as it is, and a lenient run does not launch the tests. -/
theorem uncovered_faults_come_out :
    let refused : World := { replies := { requests := [⟨0, .error (.system (.plain "boom"))⟩] } }
    let answered : World := { replies := { requests := [⟨0, .ok ⟨200, ⟨#[]⟩⟩⟩] } }
    (Fetch.fetch {} "https://host/pin" (.text "pin") refused).1 =
        .error ⟨.system (.plain "boom"), none⟩ ∧
      (Fetch.fetch {} "https://host/pin" (.text "pi\x00n") answered).1 =
        .error ⟨.unusable .embeddedNul, none⟩ ∧
      (run {} usualPlan (.ofPlan usualPlan refused)).2.world.calls =
        [.get usualPlan.remote.url none true, .close] := by
  exact ⟨rfl, rfl, rfl⟩

end Run

end PinnedRun
