import PinnedRun.Proofs.Fetch.BareName
import PinnedRun.Proofs.Invocation.Misconfiguration

/-!
# Where an invocation writes

An invocation changes the volume as its fetch does, if it comes to one (`Invocation.volume_invoke`).
If no output is given, the local name is the last name of the file path, and a name has no slashes.
So whatever the file path is, an invocation without output changes at most the file of this name in
the home (`Invocation.confined_to_lastName`).
-/

namespace PinnedRun

open PinnedRun.Action

/-- The last of the names that a file path has between its slashes. -/
def FetchSettings.lastName (s : FetchSettings) : String :=
  String.ofList
    ((Text.pieces '/' s.filePath.toList).getLast (Text.pieces_ne_nil '/' s.filePath.toList))

namespace FetchSettings

variable {s : FetchSettings}

theorem lastName_eq_basename (baseUrl branch : String) :
    s.lastName = (⟨baseUrl, branch, s.filePath⟩ : RemoteFile).basename := by
  rw [lastName, Text.getLast_pieces]
  rfl

theorem not_mem_lastName (s : FetchSettings) : '/' ∉ s.lastName.toList := by
  rw [lastName, String.toList_ofList]
  exact Text.not_mem_of_mem_pieces (List.getLast_mem _)

end FetchSettings

namespace Settings

variable {e : Environment} {a : Options.Arguments} {s : Settings} {p : Plan}

/-- Neither the environment nor the command line gives an output. -/
theorem lacksOutput_of_resolve (h : Settings.resolve e a = .ok s)
    (he : ∀ text, e "TOOLCHAIN_OUTPUT" = some text → text = "")
    (ha : ∀ text, a.output = some (.text text) → text = "") : s.fetch.LacksOutput := by
  have hread : readText (e "TOOLCHAIN_OUTPUT") = none := by
    cases ho : e "TOOLCHAIN_OUTPUT" with
    | none => rfl
    | some text => simp [readText, he text ho]
  have htext : Options.textOf? a.output = none := by
    cases ho : a.output with
    | none => rfl
    | some value =>
      cases value with
      | removed => rfl
      | text text => simp [Options.textOf?, ha text ho]
  obtain ⟨words, -, hf, -⟩ := Settings.resolve_eq_ok h
  simp [FetchSettings.LacksOutput, hf, FetchSettings.override, FetchSettings.ofEnvironment, hread,
    htext]

theorem Complete.ofSettings_of_lacksOutput (h : s.Complete) (ho : s.fetch.LacksOutput) :
    Plan.ofSettings s =
      if s.fetch.lastName = "" then .error (.noLocalName s.fetch.filePath)
      else .ok ⟨⟨s.fetch.baseUrl, s.fetch.branch, s.fetch.filePath⟩, s.fetch.lastName,
        ⟨s.command, h.command⟩⟩ := by
  rw [h.ofSettings, FetchSettings.destination_of_lacksOutput ho, h.remoteFile]
  simp only [Except.bind, ← FetchSettings.lastName_eq_basename]
  split <;> rfl

end Settings

namespace Run

variable {s : Settings} {p : Plan} {w : World}

/-- The fetch step of a plan cannot succeed on a volume. Where the server answers and the session
closes, the step ends with a result, so that it has failed as a fetch. -/
def FetchFailsIn (s : Settings) (p : Plan) (v : Volume) : Prop :=
  ∀ w : World, w.volume = v →
    (∀ r, (fetchStep s p w).1 = .ok r → r.success = false) ∧
    (Telemetry.hasTracer w = true → w.replies.closing = none →
      (∃ response, w.nextReply.result = .ok response) → ∃ r, (fetchStep s p w).1 = .ok r)

theorem fetched_ne_of_dots (hw : w.volume.WellFormed)
    (hd : p.destination = "." ∨ p.destination = "..") : fetched s p w ≠ .ok true := by
  intro h
  obtain ⟨-, result, hresult⟩ := (fetched_eq_ok_iff true).mp h
  have hdirectory := hw.lookup_resolve_of_isDirectoryName (.inr hd)
  have hne := Fetch.Attempt.result_ne_ok_of_directory (a := fetchAttempt s p w) hw hdirectory
  exact hne result hresult

theorem fetched_of_dots (hw : w.volume.WellFormed) (hu : p.remote.url ≠ "")
    (hd : p.destination = "." ∨ p.destination = "..") (hc : w.replies.closing = none)
    {response : Response} (hr : w.nextReply.result = .ok response) :
    fetched s p w = .ok false := by
  have hne : p.destination ≠ "" := fun hempty => by simp [hempty] at hd
  have hnul : '\x00' ∉ (Path.ofText p.destination).toText.toList := by
    obtain hd | hd := hd <;> rw [hd] <;> decide +kernel
  have hdirectory := hw.lookup_resolve_of_isDirectoryName (.inr hd)
  have hfailed := Fetch.Attempt.isFetch_of_directory (a := fetchAttempt s p w) hw hu
    (decide_eq_false hne) hnul hdirectory hr
  exact (fetched_eq_ok_iff false).mpr ⟨hc, hfailed⟩

theorem fetchFailsIn_of_dots {v : Volume} (hv : v.WellFormed) (hu : p.remote.url ≠ "")
    (hd : p.destination = "." ∨ p.destination = "..") : FetchFailsIn s p v := by
  rintro w rfl
  cases ht : Telemetry.hasTracer w with
  | false =>
    rw [fetchStep_of_no_tracer ht]
    exact ⟨fun _ h => (nomatch h), fun h => (nomatch h)⟩
  | true =>
    obtain ⟨hstep, -⟩ := fetchStep_apply (s := s) (p := p) ht rfl
    generalize (fetchStep s p w).1 = q at *
    refine ⟨fun r hr => ?_, fun _ hc ⟨response, hresponse⟩ => ?_⟩
    · subst hr
      cases hsuccess : r.success with
      | false => rfl
      | true =>
        have hfetched : fetched s p w = .ok true := hstep.symm.trans (congrArg Except.ok hsuccess)
        exact absurd hfetched (fetched_ne_of_dots hv hd)
    · rw [fetched_of_dots hv hu hd hc hresponse] at hstep
      cases q with
      | ok r => exact ⟨r, rfl⟩
      | error f => cases hstep

end Run

namespace Invocation

variable {e : Environment} {a : Options.Arguments} {s : Settings} {p : Plan}
  {commandLine : List String}

theorem volume_begun (w : World) : (begun a p w).world.volume = w.volume := by
  obtain ⟨-, -, h, -⟩ := World.outside_eq_iff.mp (outside_begun (a := a) (p := p) w)
  exact h

/-- An invocation changes the volume as the fetch of its plan does, if it comes to it. -/
theorem volume_invoke (h : Options.read commandLine = .accepted a)
    (hp : planned e a = .ok (s, p)) (w : World) :
    (invoke e commandLine w).world.volume = w.volume ∨
      (invoke e commandLine w).world.volume =
        (Run.fetchPlanned s p (begun a p w).world).2.volume := by
  obtain ⟨-, -, hv, -⟩ := World.outside_eq_iff.mp (invoke_apply (e := e) h w).2
  rw [attempt_of_planned hp, carryOut_apply] at hv
  have hr : (invoke e commandLine w).world.volume =
      (Run.reached s p (begun a p w).world).volume := hv.trans (Run.volume_run (begun a p w))
  obtain hw | hf := Run.volume_reached (s := s) (p := p) (begun a p w).world
  · exact .inl (hr.trans (hw.trans (volume_begun w)))
  · exact .inr (hr.trans hf)

theorem volume_invoke_of_unusable {reason : Unusable} (h : Options.read commandLine = .accepted a)
    (hp : planned e a = .error reason) (w : World) :
    (invoke e commandLine w).world.volume = w.volume := by
  rw [invoke_of_unusable h hp]
  obtain ha | ha := adjustLog_eq_or (a := a) w <;> simp [ha]

theorem planned_eq_ok (hs : Settings.resolve e a = .ok s) (hp : Plan.ofSettings s = .ok p) :
    planned e a = .ok (s, p) := by
  unfold planned
  rw [hs]
  simp [bind, Except.bind, hp, pure, Except.pure]

/-- An invocation whose plan has a bare name for its destination is confined to this name. -/
theorem confinedTo_invoke (h : Options.read commandLine = .accepted a)
    (hp : planned e a = .ok (s, p)) (hslash : '/' ∉ p.destination.toList) {w : World}
    (hw : w.volume.WellFormed) :
    w.volume.ConfinedTo p.destination (invoke e commandLine w).world.volume := by
  let attempt := Run.fetchAttempt s p (begun a p w).world
  have hbefore : attempt.before.volume = w.volume := volume_begun (p := p) w
  have hconfined : attempt.before.volume.ConfinedTo p.destination attempt.after.volume :=
    Fetch.Attempt.confinedTo (hbefore ▸ hw) rfl hslash
  rw [hbefore] at hconfined
  obtain hv | hv := volume_invoke h hp w
  · rw [hv]
    exact hw.confinedTo_self _
  · rw [hv]
    exact hconfined

/-- **Without an output an invocation changes at most the file in the home that has the last name of
the file path.** If this name is a dot or a double dot, nothing is written: there is a plan, but its
fetch cannot succeed, and the step fails whenever the server answers. -/
theorem confined_to_lastName (h : Options.read commandLine = .accepted a)
    (he : ∀ text, e "TOOLCHAIN_OUTPUT" = some text → text = "")
    (ha : ∀ text, a.output = some (.text text) → text = "") (w : World)
    (hw : w.volume.WellFormed) :
    (∀ reason, Settings.resolve e a = .error reason →
      (invoke e commandLine w).world.volume = w.volume) ∧
    ∀ s, Settings.resolve e a = .ok s →
      w.volume.ConfinedTo s.fetch.lastName (invoke e commandLine w).world.volume ∧
      (s.fetch.lastName = "." ∨ s.fetch.lastName = ".." →
        ∃ p, Plan.ofSettings s = .ok p ∧ Run.FetchFailsIn s p w.volume) := by
  refine ⟨fun reason hs => ?_, fun s hs => ?_⟩
  · exact volume_invoke_of_unusable h (planned_eq_error_iff.mpr (.inl hs)) w
  · have hc := Settings.complete_of_resolve hs
    have hplan := hc.ofSettings_of_lacksOutput (Settings.lacksOutput_of_resolve hs he ha)
    by_cases hname : s.fetch.lastName = ""
    · -- there is no plan
      rw [if_pos hname] at hplan
      have hp := planned_eq_error_iff.mpr (.inr ⟨s, hs, hplan⟩)
      rw [volume_invoke_of_unusable h hp, hname]
      exact ⟨hw.confinedTo_self "", fun hdots => by simp at hdots⟩
    · rw [if_neg hname] at hplan
      refine ⟨?_, fun hdots => ⟨_, hplan, ?_⟩⟩
      · exact confinedTo_invoke h (planned_eq_ok hs hplan) s.fetch.not_mem_lastName hw
      · exact Run.fetchFailsIn_of_dots hw (RemoteFile.url_ne_empty _) hdots

/-- A file path that climbs out of the home by its names and ends with the name of a file. -/
theorem confined_to_lastName_of_climbing :
    let e := Environment.set (fun _ => none) "TOOLCHAIN_OUTPUT" ""
    let a : Options.Arguments := { filePath := some (.text "/../../etc/passwd") }
    let w : World := { replies := { requests := [⟨0, .ok ⟨200, ⟨#[1]⟩⟩⟩] } }
    Options.read ["--file", "/../../etc/passwd"] = .accepted a ∧ w.volume.WellFormed ∧
      w.volume.ConfinedTo "passwd" (invoke e ["--file", "/../../etc/passwd"] w).world.volume ∧
      (invoke e ["--file", "/../../etc/passwd"] w).world.volume.lookup ["work", "passwd"] =
        some (.file ⟨#[1]⟩) := by
  intro e a w
  let s : Settings := { fetch := { filePath := "/../../etc/passwd" } }
  have hr : Options.read ["--file", "/../../etc/passwd"] = .accepted a := by decide +kernel
  have he : ∀ text, e "TOOLCHAIN_OUTPUT" = some text → text = "" := fun _ h =>
    (Option.some.inj h).symm
  have ha : ∀ text, a.output = some (.text text) → text = "" := fun _ h => (nomatch h)
  have hw : w.volume.WellFormed := Volume.wellFormed_bare_singleton "work"
  have hs : Settings.resolve e a = .ok s := eq_ok_of_toOption (by decide +kernel)
  have hname : s.fetch.lastName = "passwd" := by decide +kernel
  obtain ⟨-, hconfined⟩ := confined_to_lastName hr he ha w hw
  exact ⟨hr, hw, hname ▸ (hconfined s hs).1, by decide +kernel⟩

end Invocation

end PinnedRun
