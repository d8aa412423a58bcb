import PinnedRun.Proofs.Run.Coupling

/-!
# What a run notes and what its log keeps

The log of a world and its threshold are the *journal* of the world. A run notes records, and its
journal keeps those that matter enough. The run itself never looks at the journal: with another one
it comes to the same end, leaves the same world behind, and notes the same records (`Alongside`).

* `Journal.noteAll` is a journal after some records have been noted;
* `Alongside j k w t` : the worlds `w` and `t` differ in their journals only, which were `j` and `k`
  before the same records were noted in both;
* `Silent x` : the action `x` neither looks at the journal nor notes anything;
* `lockstep_run_alongside` : a run is in lockstep with itself along `Alongside`;
* `Grows x` : the action `x` only adds to the log.
-/

namespace PinnedRun

open PinnedRun.Action

/-- The log records of a world, with the level from which on they are kept. -/
structure Journal where
  threshold : Level
  records : List Record

namespace Journal

/-- The records among these that the journal keeps. -/
def kept (j : Journal) (notes : List Record) : List Record :=
  notes.filter (j.threshold.rank ≤ ·.level.rank)

/-- The journal after some records have been noted. -/
def noteAll (j : Journal) (notes : List Record) : Journal :=
  { j with records := j.records ++ j.kept notes }

@[simp] theorem noteAll_nil (j : Journal) : j.noteAll [] = j := by simp [noteAll, kept]

theorem noteAll_append (j : Journal) (notes notes' : List Record) :
    j.noteAll (notes ++ notes') = (j.noteAll notes).noteAll notes' := by
  rw [noteAll, kept, List.filter_append, ← List.append_assoc]
  rfl

end Journal

namespace World

/-- The journal of a world. -/
def journal (w : World) : Journal := ⟨w.threshold, w.log⟩

/-- The world with another journal. -/
def withJournal (w : World) (j : Journal) : World :=
  { w with threshold := j.threshold, log := j.records }

theorem report_withJournal (w : World) (j : Journal) (level : Level) (source : Source)
    (message : String) :
    (w.withJournal j).report level source message =
      w.withJournal (j.noteAll [⟨level, source, message⟩]) := by
  have ht : (w.withJournal j).threshold = j.threshold := rfl
  unfold report
  rw [ht]
  split
  · rename_i h
    simp [withJournal, Journal.noteAll, Journal.kept, h]
  · rename_i h
    simp [withJournal, Journal.noteAll, Journal.kept, h]

end World

/-- The worlds differ in their journals only, and since these were `j` and `k` the same records have
been noted in both. -/
def Alongside (j k : Journal) (w t : World) : Prop :=
  ∃ v notes, w = World.withJournal v (j.noteAll notes) ∧ t = v.withJournal (k.noteAll notes)

/-- The action goes its way whatever the journal holds, and notes nothing. -/
def Silent {α : Type} (x : Action World α) : Prop :=
  ∀ w j, x (World.withJournal w j) = ((x w).1, (x w).2.withJournal j)

section

variable {α : Type} {j k : Journal}

theorem alongside_withJournal (w : World) :
    Alongside j k (w.withJournal j) (w.withJournal k) :=
  ⟨w, [], by rw [Journal.noteAll_nil], by rw [Journal.noteAll_nil]⟩

theorem Alongside.telemetry_eq {w t : World} (h : Alongside j k w t) :
    w.telemetry = t.telemetry := by
  obtain ⟨v, notes, rfl, rfl⟩ := h
  rfl

theorem Alongside.onTelemetry {w t : World} (h : Alongside j k w t) (f : Telemetry → Telemetry) :
    Alongside j k (w.onTelemetry f) (t.onTelemetry f) := by
  obtain ⟨v, notes, rfl, rfl⟩ := h
  exact ⟨v.onTelemetry f, notes, rfl, rfl⟩

theorem Silent.lockstep {x : Action World α} (h : Silent x) : Lockstep (Alongside j k) x x := by
  rintro _ _ ⟨v, notes, rfl, rfl⟩
  rw [h v, h v]
  exact ⟨rfl, _, notes, rfl, rfl⟩

theorem silent_gets {γ : Type} {f : World → γ} (h : ∀ w j, f (World.withJournal w j) = f w) :
    Silent (gets f) := by
  intro w j
  rw [gets_apply, gets_apply, h]

theorem silent_writeFile {path : Path} {content : ByteArray} :
    Silent (Fetch.writeFile path content) := by
  intro w j
  have hv : (w.withJournal j).volume = w.volume := rfl
  unfold Fetch.writeFile
  rw [hv]
  cases w.volume.write path content <;> rfl

/-- The one operation that notes something notes the same in both worlds. -/
theorem lockstep_log_alongside {level : Level} {source : Source} {message : String} :
    Lockstep (Alongside j k) (log level source message) (log level source message) := by
  rintro _ _ ⟨v, notes, rfl, rfl⟩
  have h : ∀ j : Journal, (v.withJournal (j.noteAll notes)).report level source message =
      v.withJournal (j.noteAll (notes ++ [⟨level, source, message⟩])) := fun j => by
    rw [World.report_withJournal, ← Journal.noteAll_append]
  exact ⟨rfl, v, _, h j, h k⟩

theorem coupling_alongside : Coupling (Alongside j k) where
  now := Silent.lockstep (silent_gets fun _ _ => rfl)
  log := lockstep_log_alongside
  request := Silent.lockstep fun _ _ => rfl
  closeSession := Silent.lockstep fun _ _ => rfl
  launch := Silent.lockstep fun _ _ => rfl
  writeFile := silent_writeFile.lockstep
  record _ := fun _ _ h => ⟨rfl, h.onTelemetry _⟩

end

/-! ### What a log keeps of an action -/

section

variable {α : Type} {x : Action World α}

/-- From two journals the action comes to the same, apart from what they keep of its notes. -/
theorem exists_notes {j k : Journal} (hx : Lockstep (Alongside j k) x x) (w : World) :
    (x (w.withJournal j)).1 = (x (w.withJournal k)).1 ∧
      ∃ v notes, (x (w.withJournal j)).2 = World.withJournal v (j.noteAll notes) ∧
        (x (w.withJournal k)).2 = v.withJournal (k.noteAll notes) :=
  hx _ _ (alongside_withJournal w)

/-- The action leaves the threshold alone and only adds to the log. -/
def Grows (x : Action World α) : Prop :=
  ∀ w, (x w).2.threshold = w.threshold ∧ w.log <+: (x w).2.log

theorem grows_of_lockstep (hx : ∀ j, Lockstep (Alongside j j) x x) : Grows x := by
  intro w
  obtain ⟨-, v, notes, hv, -⟩ := exists_notes (hx w.journal) w
  have hw : w.withJournal w.journal = w := rfl
  rw [hw] at hv
  rw [hv]
  exact ⟨rfl, List.prefix_append ..⟩

end

/-! ### Telemetry -/

namespace Telemetry

variable {α : Type} {j k : Journal} {s : TelemetrySettings}

theorem lockstep_change_alongside {f : Telemetry → Telemetry} :
    Lockstep (Alongside j k) (change f) (change f) :=
  fun _ _ h => ⟨rfl, h.onTelemetry f⟩

theorem lockstep_traced_alongside {name : String} {attributes : List (String × AttributeValue)}
    {x : Action World α} (hx : Lockstep (Alongside j k) x x) :
    Lockstep (Alongside j k) (traced name attributes x) (traced name attributes x) := by
  rintro w t h
  simp only [traced, h.telemetry_eq]
  split
  · exact hx w t h
  · obtain ⟨he, hr⟩ := hx _ _ (h.onTelemetry (·.beginSpan name attributes))
    generalize x (w.onTelemetry _) = q, x (t.onTelemetry _) = q' at *
    obtain ⟨r, u⟩ := q
    obtain ⟨r', u'⟩ := q'
    obtain rfl : r = r' := he
    cases r with
    | ok a => exact ⟨rfl, hr.onTelemetry endSpan⟩
    | error e => exact ⟨rfl, hr.onTelemetry fun t => (t.onSpan (·.leave e.fault)).endSpan⟩

theorem lockstep_inSpan_alongside {name : String} {attributes : List (String × AttributeValue)}
    {x : Action World α} (hx : Lockstep (Alongside j k) x x) :
    Lockstep (Alongside j k) (inSpan name attributes x) (inSpan name attributes x) := by
  rintro w t h
  simp only [inSpan, h.telemetry_eq]
  split
  · exact ⟨rfl, h⟩
  · split
    · exact lockstep_traced_alongside hx w t h
    · exact ⟨rfl, h⟩

theorem lockstep_setUp_alongside {exporter : Exporter} :
    Lockstep (Alongside j k) (setUp s exporter) (setUp s exporter) :=
  Silent.lockstep fun _ _ => rfl

theorem lockstep_startTracing_alongside :
    Lockstep (Alongside j k) (startTracing s) (startTracing s) :=
  lockstep_change_alongside.bind fun _ => lockstep_log_alongside.bind fun _ =>
    lockstep_setUp_alongside.bind fun _ => lockstep_change_alongside

theorem lockstep_startInstrumenting_alongside :
    Lockstep (Alongside j k) (startInstrumenting s) (startInstrumenting s) := by
  refine Lockstep.bind (Silent.lockstep (silent_gets fun _ _ => rfl)) fun instrumented => ?_
  refine .ite lockstep_log_alongside (.ite (lockstep_pure _) ?_)
  exact lockstep_change_alongside.bind fun _ => lockstep_log_alongside

theorem lockstep_startMetering_alongside :
    Lockstep (Alongside j k) (startMetering s) (startMetering s) := by
  refine Lockstep.bind ?_ fun _ => lockstep_change_alongside
  unfold setUpMetering
  split
  · exact lockstep_log_alongside.bind fun _ => lockstep_setUp_alongside
  · exact lockstep_log_alongside

theorem lockstep_start_alongside : Lockstep (Alongside j k) (start s) (start s) :=
  .ite (lockstep_log_alongside.bind fun _ => lockstep_change_alongside) <|
    lockstep_log_alongside.bind fun _ => lockstep_change_alongside.bind fun _ =>
      lockstep_startTracing_alongside.bind fun _ =>
        lockstep_startInstrumenting_alongside.bind fun _ =>
          lockstep_startMetering_alongside.bind fun _ => lockstep_log_alongside

theorem lockstep_stop_alongside : Lockstep (Alongside j k) stop stop := by
  refine Lockstep.bind ?_ fun _ => lockstep_change_alongside.bind fun _ => lockstep_change_alongside
  refine Lockstep.bind (Silent.lockstep (silent_gets fun _ _ => rfl)) fun provider => ?_
  split
  · exact Lockstep.bind (Silent.lockstep fun _ _ => rfl) fun _ => lockstep_change_alongside
  · exact lockstep_pure _

end Telemetry

/-! ### Runs -/

namespace Run

variable {j k : Journal} {s : Settings} {p : Plan}

theorem lockstep_prepare_alongside : Lockstep (Alongside j k) (prepare s) (prepare s) :=
  lockstep_log_alongside.bind fun _ => Telemetry.lockstep_start_alongside

theorem lockstep_fetchStep_alongside :
    Lockstep (Alongside j k) (fetchStep s p) (fetchStep s p) :=
  coupling_alongside.now.bind fun _ => Telemetry.lockstep_inSpan_alongside <|
    coupling_alongside.tryFetch.bind fun _ => coupling_alongside.concludeFetch

theorem lockstep_testsStep_alongside : Lockstep (Alongside j k) (testsStep p) (testsStep p) :=
  coupling_alongside.now.bind fun _ => Telemetry.lockstep_inSpan_alongside <|
    coupling_alongside.tryTests.bind fun _ => coupling_alongside.concludeTests

theorem lockstep_printSummary_alongside :
    Lockstep (Alike (Alongside j k)) printSummary printSummary := by
  rintro ⟨_, summary⟩ ⟨_, _⟩ ⟨⟨v, notes, rfl, rfl⟩, rfl⟩
  exact ⟨rfl, ⟨(printSummary ⟨v, summary⟩).2.world, notes, rfl, rfl⟩, rfl⟩

theorem lockstep_steps_alongside : Lockstep (Alike (Alongside j k)) (steps s p) (steps s p) :=
  (lockstep_onWorld lockstep_prepare_alongside).bind fun _ =>
    lockstep_stepsBy coupling_alongside lockstep_fetchStep_alongside
      lockstep_testsStep_alongside s p

theorem lockstep_run_alongside : Lockstep (Alike (Alongside j k)) (run s p) (run s p) := by
  refine (lockstep_steps_alongside.handle coupling_alongside.breakOff).ensure ?_
  exact lockstep_printSummary_alongside.bind fun _ =>
    lockstep_onWorld Telemetry.lockstep_stop_alongside

/-- A part of a run only adds to the log. -/
theorem log_of_lockstep {α : Type} {x : Action Run α}
    (hx : ∀ j, Lockstep (Alike (Alongside j j)) x x) (r : Run) :
    r.world.log <+: (x r).2.world.log := by
  have h := alongside_withJournal (j := r.world.journal) (k := r.world.journal) r.world
  obtain ⟨-, ⟨v, notes, hv, -⟩, -⟩ := hx r.world.journal r r ⟨h, rfl⟩
  rw [hv]
  exact List.prefix_append ..

end Run

end PinnedRun
