import PinnedRun.Proofs.Telemetry.Lifetime

/-!
# Telemetry stays consistent

Telemetry may be started, used and stopped in any order and any number of times, a start may stop
after any of its stages, and a stop after its first one. Whatever happens, what the run holds on to
fits together (`lifetime_consistent`): what one turn preserves is shown for the ways in which a
start goes, for the two in which a stop goes and for activities, and a lifetime is turn after turn.

* `Turn` is an operation with what the outside does meanwhile, `lifetime` does turns one by one;
* `Consistent t` : the handles of the telemetry `t` fit together and fit the client for requests;
* `Refused w name attributes` : a span is turned away, its body not done.
-/

namespace PinnedRun.Telemetry

open PinnedRun.Action

/-- What the run holds on to fits together. -/
structure Consistent (t : Telemetry) : Prop where
  instrumented : t.handles.instrumented = t.registry.instrumented
  meterProvider : t.handles.meterProvider.isSome = true → t.handles.traceProvider.isSome = true
  client : t.handles.instrumented = true → t.handles.traceProvider.isSome = true
  instruments : t.handles.instruments = true → t.handles.tracer = true ∧ t.handles.meter = true

/-- An operation, with the replies that the outside has for it. -/
structure Turn where
  replies : Replies
  operation : Operation

/-- The world after a turn, whichever way it ends. -/
def Turn.act (s : TelemetrySettings) (turn : Turn) (w : World) : World :=
  (turn.operation.act s { w with replies := turn.replies }).2

/-- The world after turns, each of which is taken, whether the ones before it ended well or not. -/
def lifetime (s : TelemetrySettings) (turns : List Turn) (w : World) : World :=
  turns.foldl (fun w turn => turn.act s w) w

/-- The turn is a start that comes to a tracer: export is disabled, or the exporter of spans can be
set up. -/
def Turn.Traces (s : TelemetrySettings) (turn : Turn) : Prop :=
  turn.operation = .start ∧ (s.enabled = false ∨ turn.replies.setup (spanExporter s) = none)

/-- A span is turned away: it does not begin, and whatever was to be done within it is not. -/
def Refused (w : World) (name : String) (attributes : List (String × AttributeValue)) : Prop :=
  ∀ (α : Type) (body : Action World α),
    inSpan name attributes body w = (.error ⟨notStarted, none⟩, w)

variable {s : TelemetrySettings} {w : World} {t t' : Telemetry} {turn : Turn}

/-! ### A start -/

section

variable (h : Consistent t)

include h

theorem Consistent.askFor (exporter : Exporter) : Consistent (askFor s exporter t) := { h with }

theorem Consistent.beforeConnecting : Consistent (beforeConnecting s t) where
  instrumented := h.instrumented
  meterProvider _ := rfl
  client _ := rfl
  instruments := h.instruments

theorem Consistent.connectTraceProvider (exporter : Exporter) :
    Consistent (connectTraceProvider exporter t) :=
  { h with instruments := fun hi => ⟨rfl, (h.instruments hi).2⟩ }

theorem Consistent.instrument (hp : t.handles.traceProvider.isSome = true) :
    Consistent (instrument s t) := by
  unfold Telemetry.instrument
  split
  · exact { h with instrumented := rfl, client := fun _ => hp }
  · exact h

theorem Consistent.makeMeterProvider {exports : Bool} (hp : t.handles.traceProvider.isSome = true)
    (ht : t.handles.tracer = true) : Consistent (makeMeterProvider exports t) :=
  { h with meterProvider := fun _ => hp, instruments := fun _ => ⟨ht, rfl⟩ }

end

/-- When metering is about to start, there are a provider of spans and a tracer. -/
theorem handles_beforeMetering :
    (beforeMetering s t).handles.traceProvider.isSome = true ∧
      (beforeMetering s t).handles.tracer = true := by
  unfold beforeMetering instrument
  dsimp only
  split <;> split <;> exact ⟨rfl, rfl⟩

theorem Consistent.beforeMetering (h : Consistent t) : Consistent (beforeMetering s t) := by
  have hc : Consistent (Telemetry.instrument s
      (Telemetry.connectTraceProvider (spanExporter s) (Telemetry.beforeConnecting s t))) :=
    (h.beforeConnecting.connectTraceProvider _).instrument rfl
  unfold Telemetry.beforeMetering
  dsimp only
  split
  · exact hc.askFor _
  · exact hc

variable {setup : Exporter → Option Fault} {r : Except Failure Unit}

theorem Consistent.start (h : Consistent t) (hc : StartCourse s setup t r t') : Consistent t' := by
  cases hc with
  | disabled => exact { h with instruments := fun _ => ⟨rfl, rfl⟩ }
  | untraced => exact h.beforeConnecting
  | unmetered => exact h.beforeMetering
  | complete =>
    obtain ⟨hp, ht⟩ := handles_beforeMetering (s := s) (t := t)
    exact h.beforeMetering.makeMeterProvider hp ht

/-- A start makes a tracer unless the exporter of spans cannot be set up, and unmakes none. -/
theorem StartCourse.tracer_iff (hc : StartCourse s setup t r t') :
    t'.handles.tracer = true ↔
      t.handles.tracer = true ∨ s.enabled = false ∨ setup (spanExporter s) = none := by
  cases hc with
  | disabled he => exact ⟨fun _ => .inr (.inl he), fun _ => rfl⟩
  | untraced he f hf =>
    refine ⟨.inl, ?_⟩
    rintro (h | h | h)
    · exact h
    · exact nomatch he.symm.trans h
    · exact nomatch hf.symm.trans h
  | unmetered he ht => exact ⟨fun _ => .inr (.inr ht), fun _ => handles_beforeMetering.2⟩
  | complete he ht => exact ⟨fun _ => .inr (.inr ht), fun _ => handles_beforeMetering.2⟩

/-! ### A stop and activities -/

/-- A stop that fails keeps all handles, one that does not keeps the tracer, the meter and the
instruments. -/
theorem stop_cases (w : World) :
    (∃ tracing, (stop w).2.telemetry =
        ⟨{ w.telemetry.registry with tracing := tracing }, w.telemetry.handles⟩) ∨
    ∃ tracing metering instrumented,
      (stop w).2.telemetry =
        ⟨{ w.telemetry.registry with
            tracing := tracing
            metering := metering
            instrumented := instrumented
            metrics := w.telemetry.registry.metrics ++ w.telemetry.outstanding },
          { w.telemetry.handles with
            traceProvider := none
            meterProvider := none
            instrumented := false }⟩ ∧
      (w.telemetry.handles.instrumented = w.telemetry.registry.instrumented →
        instrumented = false) := by
  cases hf : flushFault w with
  | some f =>
    obtain ⟨i, -, hs⟩ := stop_of_flushFault_eq_some hf
    exact .inl ⟨_, congrArg (·.2.telemetry) hs⟩
  | none => exact .inr (telemetry_stop hf)

theorem Consistent.stop (h : Consistent w.telemetry) : Consistent (stop w).2.telemetry := by
  obtain ⟨tracing, hs⟩ | ⟨tracing, metering, instrumented, hs, hbare⟩ := stop_cases w
  · rw [hs]
    exact { h with }
  · rw [hs]
    exact ⟨(hbare h.instrumented).symm, nofun, nofun, h.instruments⟩

theorem tracer_stop (w : World) :
    (stop w).2.telemetry.handles.tracer = w.telemetry.handles.tracer := by
  obtain ⟨_, hs⟩ | ⟨_, _, _, hs, -⟩ := stop_cases w <;> rw [hs]

/-- Activities leave the handles and the client for requests alone. -/
theorem perform_frame (a : Activity) (w : World) :
    (a.perform w).2.telemetry.handles = w.telemetry.handles ∧
      (a.perform w).2.telemetry.registry.instrumented = w.telemetry.registry.instrumented := by
  have h : Entered w (a.perform w).2 _ := (lockstep_perform rfl a w [] (.refl w)).2
  refine ⟨h.handles, ?_⟩
  have h := congrArg (fun w : World => w.telemetry.registry.instrumented) h
  refine h.trans ?_
  obtain ⟨m, hm⟩ := enterAll_eq w.telemetry (a.tally w.telemetry.handles.tracer []).2
  change (w.telemetry.enterAll _).registry.instrumented = _
  rw [hm]
  rfl

theorem Consistent.perform (h : Consistent w.telemetry) (a : Activity) :
    Consistent (a.perform w).2.telemetry := by
  obtain ⟨hh, hi⟩ := perform_frame a w
  refine ⟨?_, ?_, ?_, ?_⟩ <;> rw [hh]
  · exact h.instrumented.trans hi.symm
  · exact h.meterProvider
  · exact h.client
  · exact h.instruments

/-! ### A turn -/

/-- **A turn preserves consistency.** -/
theorem Consistent.act (h : Consistent w.telemetry) (turn : Turn) :
    Consistent (turn.act s w).telemetry := by
  obtain ⟨replies, operation⟩ := turn
  cases operation with
  | start => exact h.start (start_course s { w with replies := replies })
  | stop => exact Consistent.stop (w := { w with replies := replies }) h
  | perform a => exact Consistent.perform (w := { w with replies := replies }) h a

/-- A turn comes to a tracer only by a start that does, and no turn takes it away. -/
theorem tracer_act_iff :
    (turn.act s w).telemetry.handles.tracer = true ↔
      w.telemetry.handles.tracer = true ∨ turn.Traces s := by
  obtain ⟨replies, operation⟩ := turn
  cases operation with
  | start =>
    refine (start_course s { w with replies := replies }).tracer_iff.trans (or_congr_right ?_)
    exact ⟨fun h => ⟨rfl, h⟩, fun h => h.2⟩
  | stop =>
    have ht := tracer_stop { w with replies := replies }
    exact ⟨fun h => .inl (ht ▸ h), fun h => ht.trans (h.resolve_right fun h => nomatch h.1)⟩
  | perform a =>
    have ht := congrArg Handles.tracer (perform_frame a { w with replies := replies }).1
    exact ⟨fun h => .inl (ht ▸ h), fun h => ht.trans (h.resolve_right fun h => nomatch h.1)⟩

/-- The registry is `r` still, and no provider is held. -/
structure Untouched (r : Registry) (t : Telemetry) : Prop where
  registry : t.registry = r
  traceProvider : t.handles.traceProvider = none
  meterProvider : t.handles.meterProvider = none
  instrumented : t.handles.instrumented = false

/-- As long as export is disabled, a turn changes nothing but handles that lead nowhere. -/
theorem Untouched.act {registry : Registry} (h : Untouched registry w.telemetry)
    (hu : registry.Unused) (he : s.enabled = false) (turn : Turn) :
    Untouched registry (turn.act s w).telemetry := by
  obtain ⟨replies, operation⟩ := turn
  cases operation with
  | start =>
    have hs := telemetry_start_of_disabled (w := { w with replies := replies }) he
    change Untouched registry (Telemetry.start s { w with replies := replies }).2.telemetry
    rw [hs]
    exact { h with }
  | stop =>
    have hs : (stop { w with replies := replies }).2.telemetry = w.telemetry :=
      telemetry_stop_of_released h.traceProvider h.meterProvider h.instrumented
    exact hs ▸ h
  | perform a =>
    have hl : (a.perform { w with replies := replies }).2.telemetry = w.telemetry :=
      (lasting_of_unused (h.registry ▸ hu)).perform a _ rfl
    exact hl ▸ h

/-! ### A lifetime -/

theorem lifetime_cons (turn : Turn) (turns : List Turn) :
    lifetime s (turn :: turns) w = lifetime s turns (turn.act s w) := rfl

/-- What each turn preserves lasts a lifetime. -/
theorem lifetime_preserves {P : Telemetry → Prop}
    (hstep : ∀ w turn, P w.telemetry → P (Turn.act s turn w).telemetry) (turns : List Turn)
    (h : P w.telemetry) : P (lifetime s turns w).telemetry := by
  induction turns generalizing w with
  | nil => exact h
  | cons turn turns ih => exact ih (hstep w turn h)

theorem tracer_lifetime_iff (turns : List Turn) :
    (lifetime s turns w).telemetry.handles.tracer = true ↔
      w.telemetry.handles.tracer = true ∨ ∃ turn ∈ turns, turn.Traces s := by
  induction turns generalizing w with
  | nil => simp [lifetime]
  | cons turn turns ih =>
    rw [lifetime_cons, ih, tracer_act_iff, or_assoc]
    simp only [List.mem_cons, exists_eq_or_imp]

/-- A span is turned away exactly as long as there is no tracer. -/
theorem refused_iff {name : String} {attributes : List (String × AttributeValue)} :
    Refused w name attributes ↔
      w.telemetry.handles.tracer = false ∧ reservedName? attributes = none := by
  constructor
  · -- a body that does nothing tells whether it has been done by the end that the span comes to
    intro h
    have h := congrArg Prod.fst (h Unit (pure ()))
    unfold inSpan at h
    cases hn : reservedName? attributes with
    | some reserved =>
      rw [hn] at h
      cases Except.error.inj h
    | none =>
      rw [hn] at h
      cases ht : w.telemetry.handles.tracer with
      | false => exact ⟨rfl, rfl⟩
      | true =>
        simp only [ht, if_true, traced] at h
        split at h <;> cases h
  · rintro ⟨ht, hn⟩ α body
    unfold inSpan
    rw [hn]
    dsimp only
    rw [ht]
    rfl

/-- **Telemetry stays consistent, whatever is done with it.** A run begins without handles, where
nothing is installed. After any turns, whatever the exporters did during each of them, the handles
fit together. If export is disabled, nothing has been set up, made or delivered. There is a tracer
exactly if some start has come to one, no later turn takes it away, and exactly as long as there is
none a span is turned away. -/
theorem lifetime_consistent (hh : w.telemetry.handles = {}) (hu : w.telemetry.registry.Unused)
    (s : TelemetrySettings) (turns : List Turn) :
    let v := lifetime s turns w
    Consistent v.telemetry ∧
      (s.enabled = false → Untouched w.telemetry.registry v.telemetry) ∧
      (v.telemetry.handles.tracer = true ↔ ∃ turn ∈ turns, turn.Traces s) ∧
      (v.telemetry.handles.tracer = true →
        ∀ more, (lifetime s more v).telemetry.handles.tracer = true) ∧
      ∀ name attributes, Refused v name attributes ↔
        v.telemetry.handles.tracer = false ∧ reservedName? attributes = none := by
  intro v
  have h₀ : Consistent w.telemetry := by
    refine ⟨?_, ?_, ?_, ?_⟩ <;> rw [hh]
    · exact hu.instrumented.symm
    all_goals exact nofun
  refine ⟨lifetime_preserves (fun _ turn h => h.act turn) turns h₀, fun he => ?_, ?_,
    fun h more => (tracer_lifetime_iff more).mpr (.inl h), fun _ _ => refused_iff⟩
  · refine lifetime_preserves (fun _ turn h => h.act hu he turn) turns ⟨rfl, ?_, ?_, ?_⟩ <;> rw [hh]
  · rw [tracer_lifetime_iff, hh]
    simp

/-- The exporter of spans cannot be set up at first, so that a span is turned away; the second start
comes to an end, and the stop after it fails. -/
theorem lifetime_consistent_of_failures :
    let s : TelemetrySettings := { enabled := true, endpoint := some "http://collector:4317" }
    let broken : Replies :=
      { setup := fun e => if e = .otlpTrace then some (.runtime "unavailable") else none
        shutdown := fun e => if e = .otlpTrace then some (.runtime "flush failed") else none }
    let fetch : Operation := .perform (.span "fetch" [] [.fetched 7 (.ofInt 2)])
    let failed : List Turn := [⟨broken, .start⟩, ⟨{}, fetch⟩]
    let turns : List Turn := failed ++ [⟨{}, .start⟩, ⟨{}, fetch⟩, ⟨broken, .stop⟩]
    ({} : World).telemetry.handles = {} ∧ ({} : World).telemetry.registry.Unused ∧
      Refused (lifetime s failed {}) "tests" [] ∧
      Consistent (lifetime s turns {}).telemetry ∧
      (lifetime s turns {}).telemetry.handles.tracer = true ∧
      ¬ Refused (lifetime s turns {}) "tests" [] := by
  intro s broken fetch failed turns
  have hu : ({} : World).telemetry.registry.Unused := ⟨rfl, rfl, rfl, rfl⟩
  obtain ⟨-, -, -, -, hrefused⟩ := lifetime_consistent rfl hu s failed
  obtain ⟨hv, -, htracer, -, hdone⟩ := lifetime_consistent rfl hu s turns
  have ht := htracer.mpr ⟨⟨{}, .start⟩, .tail _ (.tail _ (.head _)), rfl, .inr rfl⟩
  refine ⟨rfl, hu, (hrefused _ _).mpr ⟨rfl, rfl⟩, hv, ht, fun h => ?_⟩
  exact nomatch ht.symm.trans ((hdone _ _).mp h).1

end PinnedRun.Telemetry
