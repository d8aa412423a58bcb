import PinnedRun.Proofs.Telemetry.Lifecycle
import PinnedRun.Proofs.Telemetry.Spans
import PinnedRun.Run

/-!
# Coupled worlds

A relation *couples* worlds if the operations on the world are in lockstep along it. The fetch and
the launch of the test command are made of these operations, so they are in lockstep too.

* `Coupling R` : the relation `R` couples worlds;
* `Coupling.fetch`, `Coupling.tryFetch`, `Coupling.tryTests` and their like take this to the parts
  of a run;
* `Overlooks R` : along `R` spans do not matter, so an action in a span is in lockstep with the
  action alone (`Overlooks.inSpan`), and the steps of a run may be looked at without them
  (`lockstep_stepsBy`);
* `View π` : through `π` one sees what the operations depend on and nothing of the telemetry. Worlds
  that look alike are coupled (`View.coupling`);
* `Shadows k w t` : from outside `w` looks like `t`, and its telemetry is wired as `k` says.
-/

namespace PinnedRun

open PinnedRun.Action

/-- A change of the telemetry that leaves alone the handles on it and the providers of spans. -/
def Telemetry.Recording (f : Telemetry → Telemetry) : Prop :=
  ∀ t, (f t).handles = t.handles ∧ (f t).registry.tracing = t.registry.tracing

theorem Telemetry.recording_onSpan_onLedger {f : Telemetry.Span → Telemetry.Span}
    {g : Telemetry.Ledger → Telemetry.Ledger} :
    Telemetry.Recording fun t => (t.onSpan f).onLedger g := by
  intro t
  simp only [Telemetry.onLedger]
  split <;> exact ⟨rfl, rfl⟩

theorem Telemetry.recording_of_onlySpans {f : Telemetry → Telemetry} (h : Telemetry.OnlySpans f) :
    Telemetry.Recording f := by
  intro t
  have hh := congrArg (fun t : Telemetry => t.handles) (h t)
  have ht := congrArg (fun t : Telemetry => t.registry.tracing) (h t)
  exact ⟨hh, ht⟩

/-- Along `R` the operations on the world are in lockstep. -/
structure Coupling (R : World → World → Prop) : Prop where
  now : Lockstep R now now
  log : ∀ {level source message},
    Lockstep R (log level source message) (log level source message)
  request : ∀ {url timeout verifyTls},
    Lockstep R (request url timeout verifyTls) (request url timeout verifyTls)
  closeSession : Lockstep R closeSession closeSession
  launch : ∀ {command}, Lockstep R (launch command) (launch command)
  writeFile : ∀ {path content},
    Lockstep R (Fetch.writeFile path content) (Fetch.writeFile path content)
  record : ∀ {f}, Telemetry.Recording f → Lockstep R (Telemetry.change f) (Telemetry.change f)

namespace Coupling

variable {R : World → World → Prop} (h : Coupling R)

include h

theorem contact {s : FetchSettings} {url : String} :
    Lockstep R (Fetch.contact s url) (Fetch.contact s url) :=
  h.request.handle fun _ => .ite (h.log.bind fun _ => lockstep_fail _) (lockstep_fail _)

theorem store {url : String} {path : Path} {response : Response} :
    Lockstep R (Fetch.store url path response) (Fetch.store url path response) :=
  h.writeFile.handle fun _ => .ite (h.log.bind fun _ => lockstep_fail _) (lockstep_fail _)

theorem fetch {s : FetchSettings} {url : String} {destination : Destination} :
    Lockstep R (Fetch.fetch s url destination) (Fetch.fetch s url destination) := by
  refine .ite (lockstep_fail _) (.ite (lockstep_fail _) ?_)
  refine h.now.bind fun _ => h.log.bind fun _ => h.contact.bind fun _ => .ite ?_ ?_
  · exact h.store.bind fun _ => h.now.bind fun _ => h.log.bind fun _ => lockstep_pure _
  · exact h.log.bind fun _ => lockstep_fail _

theorem command {c : TestCommand} : Lockstep R c.run c.run := by
  refine h.log.bind fun _ => (h.launch.handle fun _ => .ite ?_ (.ite ?_ (lockstep_fail _))).bind
    fun _ => h.log.bind fun _ => lockstep_pure _
  · exact h.log.bind fun _ => lockstep_fail _
  · exact h.log.bind fun _ => lockstep_fail _

theorem recordFailure {step : String} {f : Fault} :
    Lockstep R (Telemetry.recordFailure step f) (Telemetry.recordFailure step f) :=
  h.record Telemetry.recording_onSpan_onLedger

theorem tryFetch {s : Settings} {p : Plan} {start : Numeric.Binary64} :
    Lockstep R (Run.tryFetch s p start) (Run.tryFetch s p start) := by
  refine (Lockstep.handle ?_ fun _ => .ite ?_ (lockstep_fail _)).ensure h.closeSession
  · exact h.fetch.bind fun _ => lockstep_pure _
  · exact h.recordFailure.bind fun _ => h.now.bind fun _ => lockstep_pure _

theorem concludeFetch {fetched : Except StepResult FetchResult} :
    Lockstep R (Run.concludeFetch fetched) (Run.concludeFetch fetched) := by
  cases fetched with
  | error failed => exact lockstep_pure _
  | ok result =>
    exact (h.record Telemetry.recording_onSpan_onLedger).bind fun _ =>
      h.log.bind fun _ => lockstep_pure _

theorem tryTests {p : Plan} {start : Numeric.Binary64} :
    Lockstep R (Run.tryTests p start) (Run.tryTests p start) := by
  refine Lockstep.handle ?_ fun e => ?_
  · exact h.command.bind fun _ => h.now.bind fun _ => lockstep_pure _
  · unfold Run.recoverTests
    split
    · exact h.recordFailure.bind fun _ => h.now.bind fun _ => lockstep_pure _
    · exact lockstep_fail _

theorem concludeTests {t : TestRun} : Lockstep R (Run.concludeTests t) (Run.concludeTests t) := by
  unfold Run.concludeTests
  refine .ite ?_ (lockstep_pure _)
  exact (h.record Telemetry.recording_onSpan_onLedger).bind fun _ => lockstep_pure _

theorem warn {p : Plan} {t : StepResult} : Lockstep R (Run.warn p t) (Run.warn p t) :=
  .ite (lockstep_pure _) h.log

end Coupling

/-! ### Runs with coupled worlds -/

/-- Two runs with related worlds and the same summary. -/
def Run.Alike (R : World → World → Prop) (r r' : Run) : Prop :=
  R r.world r'.world ∧ r.summary = r'.summary

section

variable {R : World → World → Prop}

theorem lockstep_onWorld {α : Type} {x y : Action World α} (h : Lockstep R x y) :
    Lockstep (Run.Alike R) (Run.onWorld x) (Run.onWorld y) := by
  rintro r r' ⟨hw, hs⟩
  obtain ⟨he, hr⟩ := h _ _ hw
  exact ⟨he, hr, hs⟩

theorem lockstep_collect {result : StepResult} :
    Lockstep (Run.Alike R) (Run.collect result) (Run.collect result) := by
  rintro r r' ⟨hw, hs⟩
  exact ⟨rfl, hw, congrArg (·.add result) hs⟩

theorem lockstep_conclude {exitCode : Int} :
    Lockstep (Run.Alike R) (Run.conclude exitCode) (Run.conclude exitCode) := by
  rintro r r' ⟨hw, hs⟩
  exact ⟨rfl, hw, congrArg (fun s => { s with exitCode := some exitCode }) hs⟩

theorem Coupling.giveUp (h : Coupling R) :
    Lockstep (Run.Alike R) Run.giveUp Run.giveUp :=
  (lockstep_onWorld h.log).bind fun _ => lockstep_conclude

theorem lockstep_goOn (h : Coupling R) {tests tests' : Action World TestRun}
    (ht : Lockstep R tests tests') (p : Plan) (t : StepResult) :
    Lockstep (Run.Alike R) (Run.goOn tests p t) (Run.goOn tests' p t) :=
  (lockstep_onWorld h.warn).bind fun _ => (lockstep_onWorld ht).bind fun _ =>
    lockstep_collect.bind fun _ => lockstep_conclude

/-- If the steps of two runs are in lockstep, so are the runs. -/
theorem lockstep_stepsBy (h : Coupling R) {fetch fetch' : Action World StepResult}
    {tests tests' : Action World TestRun} (hf : Lockstep R fetch fetch')
    (ht : Lockstep R tests tests') (s : Settings) (p : Plan) :
    Lockstep (Run.Alike R) (Run.stepsBy fetch tests s p) (Run.stepsBy fetch' tests' s p) :=
  (lockstep_onWorld hf).bind fun fetched => lockstep_collect.bind fun _ =>
    .ite h.giveUp (lockstep_goOn h ht p fetched)

theorem Coupling.breakOff (h : Coupling R) (e : Failure) :
    Lockstep (Run.Alike R) (Run.breakOff e) (Run.breakOff e) :=
  .ite ((lockstep_onWorld h.log).bind fun _ => lockstep_conclude) (lockstep_fail e)

end

/-! ### Worlds without telemetry -/

/-- The relation couples worlds, and along it the spans of the first world do not matter, where the
run may trace. -/
structure Overlooks (R : World → World → Prop) : Prop extends Coupling R where
  hasTracer : ∀ {w t}, R w t → Telemetry.hasTracer w = true
  ignoresSpans : IgnoresSpans R

theorem Overlooks.inSpan {R : World → World → Prop} (h : Overlooks R) {α : Type} {name : String}
    {attributes : List (String × Telemetry.AttributeValue)} {x y : Action World α}
    (hn : Telemetry.reservedName? attributes = none) (hx : Lockstep R x y) :
    Lockstep R (Telemetry.inSpan name attributes x) y :=
  h.ignoresSpans.inSpan h.hasTracer hn hx

/-! ### Worlds seen in part -/

section

variable {α γ : Type}

/-- What an action comes to shows through `π`. -/
def Sees (π : World → World) (x : Action World α) : Prop :=
  ∀ w, (x w).1 = (x (π w)).1 ∧ π (x w).2 = π (x (π w)).2

/-- Through `π` one sees all that the operations depend on, and nothing of the telemetry. -/
structure View (π : World → World) : Prop where
  now : Sees π now
  log : ∀ {level source message}, Sees π (log level source message)
  request : ∀ {url timeout verifyTls}, Sees π (request url timeout verifyTls)
  closeSession : Sees π closeSession
  launch : ∀ {command}, Sees π (launch command)
  writeFile : ∀ {path content}, Sees π (Fetch.writeFile path content)
  onTelemetry : ∀ f w, π (w.onTelemetry f) = π w

/-- The operations leave alone what `κ` reads off the world. -/
structure Unmoved (κ : World → γ) : Prop where
  now : Keeps κ now
  log : ∀ {level source message}, Keeps κ (log level source message)
  request : ∀ {url timeout verifyTls}, Keeps κ (request url timeout verifyTls)
  closeSession : Keeps κ closeSession
  launch : ∀ {command}, Keeps κ (launch command)
  writeFile : ∀ {path content}, Keeps κ (Fetch.writeFile path content)
  record : ∀ {f}, Telemetry.Recording f → Keeps κ (Telemetry.change f)

/-- Through `π` the world `w` looks like `t`, and `κ` reads `k` off it. -/
def Seen (π : World → World) (κ : World → γ) (k : γ) (w t : World) : Prop :=
  π w = π t ∧ κ w = k

variable {π : World → World} {κ : World → γ} {k : γ}

theorem Unmoved.map (h : Unmoved κ) {δ : Type} (φ : γ → δ) : Unmoved fun w => φ (κ w) where
  now w := congrArg φ (h.now w)
  log w := congrArg φ (h.log w)
  request w := congrArg φ (h.request w)
  closeSession w := congrArg φ (h.closeSession w)
  launch w := congrArg φ (h.launch w)
  writeFile w := congrArg φ (h.writeFile w)
  record hf w := congrArg φ (h.record hf w)

theorem Sees.lockstep {x : Action World α} (h : Sees π x) (hk : Keeps κ x) :
    Lockstep (Seen π κ k) x x := by
  rintro w t ⟨ho, rfl⟩
  -- from both worlds the action comes to what it comes to from their common view
  refine ⟨?_, ?_, hk w⟩
  · rw [(h w).1, (h t).1, ho]
  · rw [(h w).2, (h t).2, ho]

theorem View.coupling (hπ : View π) (hκ : Unmoved κ) : Coupling (Seen π κ k) where
  now := hπ.now.lockstep hκ.now
  log := hπ.log.lockstep hκ.log
  request := hπ.request.lockstep hκ.request
  closeSession := hπ.closeSession.lockstep hκ.closeSession
  launch := hπ.launch.lockstep hκ.launch
  writeFile := hπ.writeFile.lockstep hκ.writeFile
  record := by
    rintro f hf w t ⟨ho, rfl⟩
    refine ⟨rfl, ?_, hκ.record hf w⟩
    exact (hπ.onTelemetry f w).trans (ho.trans (hπ.onTelemetry f t).symm)

theorem View.overlooks (hπ : View π) (hκ : Unmoved κ)
    (ht : ∀ w, κ w = k → Telemetry.hasTracer w = true) : Overlooks (Seen π κ k) where
  toCoupling := hπ.coupling hκ
  hasTracer hw := ht _ hw.2
  ignoresSpans _ _ _ hf hw :=
    ⟨(hπ.onTelemetry _ _).trans hw.1,
      (hκ.record (Telemetry.recording_of_onlySpans hf) _).trans hw.2⟩

end

namespace World

/-- What a run holds on to of the telemetry, and the providers of spans. -/
def wiring (w : World) : Telemetry.Handles × Telemetry.Providers Telemetry.TraceProvider :=
  (w.telemetry.handles, w.telemetry.registry.tracing)

/-- How exporters take being set up and being shut down. -/
def exporters (w : World) :
    (Telemetry.Exporter → Option Fault) × (Telemetry.Exporter → Option Fault) :=
  (w.replies.setup, w.replies.shutdown)

end World

theorem unmoved_wiring_exporters : Unmoved fun w => (w.wiring, w.exporters) where
  now _ := rfl
  log {level source message} w := by
    obtain h | h := w.report_eq_or level source message <;>
      rw [show (log level source message w).2 = w.report level source message from rfl, h]
    rfl
  request _ := rfl
  closeSession _ := rfl
  launch _ := rfl
  writeFile {path content} w := by
    simp only [Fetch.writeFile]
    cases w.volume.write path content <;> rfl
  record hf w := congrArg (·, w.exporters) (Prod.ext (hf w.telemetry).1 (hf w.telemetry).2)

theorem unmoved_wiring : Unmoved World.wiring := unmoved_wiring_exporters.map Prod.fst

theorem view_outside : View World.outside where
  now _ := ⟨rfl, rfl⟩
  log w := ⟨rfl, (World.outside_report ..).trans (World.outside_report (w := w.outside) ..).symm⟩
  request _ := ⟨rfl, rfl⟩
  closeSession _ := ⟨rfl, rfl⟩
  launch _ := ⟨rfl, rfl⟩
  writeFile {path content} w := by
    have hv : w.outside.volume = w.volume := rfl
    simp only [Fetch.writeFile, hv]
    cases w.volume.write path content <;> exact ⟨rfl, rfl⟩
  onTelemetry _ _ := rfl

/-- From outside `w` looks like `t`, and the telemetry of `w` is wired as `k` says. -/
def Shadows (k : Telemetry.Handles × Telemetry.Providers Telemetry.TraceProvider)
    (w t : World) : Prop :=
  w.outside = t.outside ∧ w.wiring = k

section

variable {k : Telemetry.Handles × Telemetry.Providers Telemetry.TraceProvider}

theorem coupling_shadows : Coupling (Shadows k) := view_outside.coupling unmoved_wiring

theorem overlooks_shadows (hk : k.1.tracer = true) : Overlooks (Shadows k) :=
  view_outside.overlooks unmoved_wiring fun _ hw => (congrArg (·.1.tracer) hw).trans hk

end

end PinnedRun
