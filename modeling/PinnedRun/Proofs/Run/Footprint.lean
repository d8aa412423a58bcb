import PinnedRun.Proofs.Run.StepReports
import PinnedRun.Proofs.Telemetry.Lifetime

/-!
# The footprint of a step

Whatever telemetry a run finds, a step leaves at most its own span behind, and its entries are all
of the fetch or all of the tests (`Run.footprint_fetchStep`, `Run.footprint_testsStep`). Which
metrics come of entries depends on telemetry only in whether any do (`outstanding_of_start`).

* `Telemetry.Touched ofFetch u t` : from `u` to `t` telemetry has changed by entries of one step and
  on open spans;
* `Telemetry.Footprint ofFetch name u t` : the same, and at most one span with a name has been
  delivered.
-/

namespace PinnedRun

open PinnedRun.Action

namespace Telemetry

/-- Spans aside, the telemetry `t` is `u` after entries that are all of the fetch, or all not. -/
def EnteredBy (ofFetch : Bool) (u t : Telemetry) : Prop :=
  ∃ es : List Entry, (∀ e ∈ es, e.ofFetch = ofFetch) ∧ t.spanless = (u.enterAll es).spanless

/-- From `u` to `t` entries have been made and open spans have been changed, nothing else. -/
structure Touched (ofFetch : Bool) (u t : Telemetry) : Prop where
  entered : EnteredBy ofFetch u t
  spans : t.registry.spans = u.registry.spans
  names : t.registry.openSpans.map (·.name) = u.registry.openSpans.map (·.name)

/-- From `u` to `t` entries have been made and at most one span has been delivered, which has the
name of a step. -/
structure Footprint (ofFetch : Bool) (name : String) (u t : Telemetry) : Prop where
  entered : EnteredBy ofFetch u t
  spans : ∃ spans, t.registry.spans = u.registry.spans ++ spans ∧ spans.length ≤ 1 ∧
    ∀ span ∈ spans, span.name = spanName name

variable {u t : Telemetry} {ofFetch : Bool} {w : World}

theorem spanless_enterAll (t : Telemetry) (es : List Entry) :
    (t.enterAll es).spanless = t.spanless.enterAll es := by
  induction es generalizing t with
  | nil => rfl
  | cons e es ih =>
    exact (ih (t.onLedger e.enter)).trans (congrArg (·.enterAll es) spanless_onLedger)

theorem enterAll_append (t : Telemetry) (es es' : List Entry) :
    t.enterAll (es ++ es') = (t.enterAll es).enterAll es' := List.foldl_append

theorem touched_self : Touched ofFetch u u := ⟨⟨[], nofun, rfl⟩, rfl, rfl⟩

theorem Touched.onSpan (h : Touched ofFetch u t) {f : Span → Span}
    (hf : ∀ s, (f s).origin = s.origin) : Touched ofFetch u (t.onSpan f) := by
  refine ⟨h.entered, h.spans, Eq.trans ?_ h.names⟩
  change (t.registry.openSpans.modifyHead f).map (·.name) = _
  cases t.registry.openSpans with
  | nil => rfl
  | cons s ss => exact congrArg (· :: ss.map (·.name)) (congrArg Prod.fst (hf s))

theorem Touched.onLedger (h : Touched ofFetch u t) {e : Entry} (he : e.ofFetch = ofFetch) :
    Touched ofFetch u (t.onLedger e.enter) := by
  obtain ⟨es, hes, ht⟩ := h.entered
  obtain ⟨m, hm⟩ := onLedger_eq t e.enter
  refine ⟨⟨es ++ [e], ?_, ?_⟩, ?_, ?_⟩
  · intro e' he'
    obtain he' | he' := List.mem_append.mp he'
    · exact hes e' he'
    · obtain rfl := List.mem_singleton.mp he'
      exact he
  · rw [spanless_onLedger, ht, enterAll_append, ← spanless_onLedger]
    rfl
  · rw [hm]
    exact h.spans
  · rw [hm]
    exact h.names

/-- The innermost span ends as one that had been begun under a name. -/
theorem Touched.endSpan {name : String} {attributes : List (String × AttributeValue)}
    (h : Touched ofFetch (u.beginSpan name attributes) t) : Footprint ofFetch name u t.endSpan := by
  obtain ⟨es, hes, ht⟩ := h.entered
  have hname : ∀ s ∈ t.registry.openSpans.head?, s.name = spanName name := by
    intro s hs
    have hn := congrArg List.head? h.names
    rw [List.head?_map, hs] at hn
    have hb : (Span.begun u.registry.openSpans name attributes).name = spanName name :=
      congrArg Prod.fst (Span.origin_begun u.registry.openSpans name attributes)
    exact (Option.some.inj hn).trans hb
  refine ⟨⟨es, hes, ?_⟩, if t.isTracing then t.registry.openSpans.head?.toList else [], ?_, ?_, ?_⟩
  · have hs : t.endSpan.spanless = t.spanless := rfl
    rw [hs, ht, spanless_enterAll, spanless_enterAll]
    rfl
  · have hs : t.registry.spans = u.registry.spans := h.spans
    rw [← hs]
    unfold Telemetry.endSpan onRegistry
    split
    · rfl
    · exact (List.append_nil _).symm
  · split
    · cases t.registry.openSpans.head? <;> simp
    · exact Nat.zero_le 1
  · split
    · exact fun s hs => hname s (Option.mem_toList.mp hs)
    · exact nofun

theorem preserves_recordFetch {bytes : Int} {duration : Numeric.Binary64} :
    Preserves (fun w => Touched true u w.telemetry) (recordFetch bytes duration) := fun _ h =>
  (h.onSpan (f := (·.fetched bytes duration)) fun s => by simp [Span.fetched]).onLedger
    (e := .fetch bytes duration) rfl

theorem preserves_recordFailure {step : String} {f : Fault}
    (hs : decide (step = "fetch") = ofFetch) :
    Preserves (fun w => Touched ofFetch u w.telemetry) (recordFailure step f) := fun _ h =>
  (h.onSpan (f := (·.failed step f)) fun s => by simp [Span.failed]).onLedger
    (e := .failure step f.className) hs

theorem preserves_recordExit {exitCode : Int} {duration : Numeric.Binary64} :
    Preserves (fun w => Touched false u w.telemetry) (recordExit exitCode duration) := fun _ h =>
  (h.onSpan (f := (·.exited exitCode)) fun s => by simp [Span.exited]).onLedger
    (e := .exit exitCode duration) rfl

/-- An action that records leaves the footprint of its span. -/
theorem footprint_inSpan {α : Type} {name : String} {attributes : List (String × AttributeValue)}
    {x : Action World α} (hx : ∀ u, Preserves (fun w => Touched ofFetch u w.telemetry) x)
    (w : World) :
    Footprint ofFetch name w.telemetry (inSpan name attributes x w).2.telemetry := by
  have hsame : ∀ {t}, Touched ofFetch w.telemetry t → Footprint ofFetch name w.telemetry t :=
    fun h => ⟨h.entered, [], by simp [h.spans]⟩
  unfold inSpan
  split
  · exact hsame touched_self
  · split
    · unfold traced
      split
      · exact hsame (hx _ w touched_self)
      · have h := hx _ (w.onTelemetry (·.beginSpan name attributes)) touched_self
        generalize x (w.onTelemetry (·.beginSpan name attributes)) = q at *
        obtain ⟨e | a, v⟩ := q
        · exact (h.onSpan fun s => s.origin_close (.error e : Except Failure α)).endSpan
        · exact h.endSpan
    · exact hsame touched_self

end Telemetry

namespace Run

open Telemetry (Footprint Touched preserves_recordExit preserves_recordFailure
  preserves_recordFetch)

variable {s : Settings} {p : Plan}

/-- What leaves telemetry alone touches nothing. -/
theorem preserves_touched {α : Type} {x : Action World α} (h : Keeps World.telemetry x)
    {ofFetch : Bool} {u : Telemetry} : Preserves (fun w => Touched ofFetch u w.telemetry) x :=
  h.preserves

theorem keeps_telemetry_now : Keeps World.telemetry now := fun _ => rfl

theorem footprint_fetchStep (w : World) :
    Footprint true "fetch" w.telemetry (fetchStep s p w).2.telemetry := by
  have hbody : ∀ u, Preserves (fun w => Touched true u w.telemetry)
      (tryFetch s p w.reading >>= concludeFetch) := by
    refine fun u => Preserves.bind ?_ fun fetched => ?_
    · refine Preserves.ensure (Preserves.handle ?_ fun e => .ite ?_ (preserves_fail e))
        (preserves_touched fun _ => rfl)
      · exact (preserves_touched Fetch.keeps_telemetry_fetch).bind fun _ => preserves_pure _
      · exact (preserves_recordFailure (by decide)).bind fun _ =>
          (preserves_touched keeps_telemetry_now).bind fun _ => preserves_pure _
    · cases fetched with
      | error failed => exact preserves_pure _
      | ok result =>
        exact preserves_recordFetch.bind fun _ =>
          (preserves_touched keeps_telemetry_log).bind fun _ => preserves_pure _
  have hs : fetchStep s p w = Telemetry.inSpan "fetch"
      [("http.url", .text p.remote.url), ("file.path", .text p.destination)]
      (tryFetch s p w.reading >>= concludeFetch) w := rfl
  rw [hs]
  exact Telemetry.footprint_inSpan hbody w

theorem footprint_testsStep (w : World) :
    Footprint false "tests" w.telemetry (testsStep p w).2.telemetry := by
  have hbody : ∀ u, Preserves (fun w => Touched false u w.telemetry)
      (tryTests p w.reading >>= concludeTests) := by
    refine fun u => Preserves.bind (Preserves.handle ?_ fun e => ?_) fun t => ?_
    · exact (preserves_touched TestCommand.keeps_telemetry_run).bind fun _ =>
        (preserves_touched keeps_telemetry_now).bind fun _ => preserves_pure _
    · unfold recoverTests
      split
      · exact (preserves_recordFailure (by decide)).bind fun _ =>
          (preserves_touched keeps_telemetry_now).bind fun _ => preserves_pure _
      · exact preserves_fail e
    · unfold concludeTests
      exact .ite (preserves_recordExit.bind fun _ => preserves_pure _) (preserves_pure _)
  have hs : testsStep p w = Telemetry.inSpan "tests" [("process.command", .text p.command.line)]
      (tryTests p w.reading >>= concludeTests) w := rfl
  rw [hs]
  exact Telemetry.footprint_inSpan hbody w

end Run

/-! ### What entries come to -/

namespace Telemetry

variable {s : TelemetrySettings} {t : Telemetry}

/-- The run holds on to the provider of metrics with the number `i`, which is `p`, and entries go
elsewhere. -/
structure Bypassed (i : Nat) (p : MeterProvider) (t : Telemetry) : Prop where
  meterProvider : t.handles.meterProvider = some i
  installed : t.registry.metering.installed ≠ some i
  provider : t.registry.metering.all[i]? = some p

theorem Bypassed.onLedger {i : Nat} {p : MeterProvider} (h : Bypassed i p t)
    (f : Ledger → Ledger) : Bypassed i p (t.onLedger f) := by
  have hi := h.installed
  unfold Telemetry.onLedger onRegistry Providers.modifyCurrent
  split
  · dsimp only
    cases hj : t.registry.metering.installed with
    | none => exact { h with }
    | some j =>
      have hne : j ≠ i := fun hn => hi (hn ▸ hj)
      refine ⟨h.meterProvider, hi, ?_⟩
      dsimp only [Providers.modify]
      rw [List.getElem?_modify_ne _ _ hne]
      exact h.provider
  · exact h

theorem Bypassed.enterAll {i : Nat} {p : MeterProvider} (h : Bypassed i p t) (es : List Entry) :
    Bypassed i p (t.enterAll es) :=
  enterAll_induction (fun _ f h => h.onLedger f) h es

/-- The metrics of entries after the provider of metrics has been made are all outstanding, or none
are. -/
theorem outstanding_of_made (exports : Bool) (t : Telemetry) :
    ∃ delivers : Bool, ∀ es, ((makeMeterProvider exports t).enterAll es).outstanding =
      if delivers then (Ledger.enterAll {} es).metrics else [] := by
  let i := t.registry.metering.all.length
  have hp : (makeMeterProvider exports t).registry.metering.all[i]? =
      some { exports := exports } := by
    simp [i, makeMeterProvider, Providers.add, Providers.install]
  by_cases hi : (makeMeterProvider exports t).registry.metering.installed = some i
  · have hm : Metered i { exports := exports } (makeMeterProvider exports t) := ⟨rfl, rfl, hi, hp⟩
    refine ⟨exports, fun es => ?_⟩
    have ho := (hm.enterAll rfl es).outstanding
    rwa [Bool.and_true] at ho
  · have hb : Bypassed i { exports := exports } (makeMeterProvider exports t) := ⟨rfl, hi, hp⟩
    refine ⟨false, fun es => ?_⟩
    have hes := hb.enterAll es
    unfold outstanding
    rw [hes.meterProvider, Option.bind_some, hes.provider]
    cases exports <;> rfl

/-- After a start the metrics of entries are all outstanding, or none are. -/
theorem outstanding_of_start {setup : Exporter → Option Fault} {t' : Telemetry}
    (hc : StartCourse s setup t (.ok ()) t') (hm : t.handles.meterProvider = none) :
    t'.registry.spans = t.registry.spans ∧ t'.registry.metrics = t.registry.metrics ∧
      ∃ delivers : Bool, ∀ es, (t'.enterAll es).outstanding =
        if delivers then (Ledger.enterAll {} es).metrics else [] := by
  cases hc with
  | disabled =>
    refine ⟨rfl, rfl, false, fun es => ?_⟩
    unfold outstanding
    rw [handles_enterAll]
    dsimp only [onHandles]
    rw [hm]
    rfl
  | complete =>
    obtain ⟨-, hspans, hmetrics, -⟩ := beforeMetering_frame s t
    exact ⟨hspans, hmetrics, outstanding_of_made _ _⟩

end Telemetry

end PinnedRun
