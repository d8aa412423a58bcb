import PinnedRun.Proofs.Telemetry.Lifetime

/-!
# Which providers run

A start makes a provider of each kind and holds on to it, a stop shuts down the one that is held,
and the first provider ever made stays installed. Both kinds of providers follow the same `Board`
(`board_operate`), so what can be said about providers is said once. After a stop no provider that
has been made runs exactly if the starts and stops have been `orderly`, that is, no start has come
before the last one was stopped (`tidy_follow_iff`, `stopped_runs_iff`).

* `Board` tells which providers run, which one is installed and which one is held;
* `Board.Tidy n b` : of the providers from the number `n` on, only the one that is held runs.
-/

namespace PinnedRun.Telemetry

open PinnedRun.Action

/-- The providers of one kind: which of them run, which one is installed and which one is held. -/
structure Board where
  running : List Bool
  installed : Option Nat
  held : Option Nat

namespace Board

/-- The board after a provider has been made. -/
def started (b : Board) : Board :=
  ⟨b.running ++ [true], b.installed.or (some b.running.length), some b.running.length⟩

/-- The board after the provider that is held has been shut down. -/
def stopped (b : Board) : Board :=
  match b.held with
  | some i => { b with running := b.running.modify i fun _ => false, held := none }
  | none => b

/-- The board after an operation. -/
def act (b : Board) : Operation → Board
  | .start => b.started
  | .stop => b.stopped
  | .perform _ => b

/-- The board after operations. -/
def follow (b : Board) (operations : List Operation) : Board := operations.foldl act b

/-- The provider with a number runs. -/
def Runs (b : Board) (k : Nat) : Prop := b.running[k]? = some true

/-- Of the providers from the number `n` on, only the one that is held runs. -/
def Tidy (n : Nat) (b : Board) : Prop := ∀ k, n ≤ k → b.Runs k → b.held = some k

/-- The providers from the number `n` on are those that have been made by starts. -/
structure Sound (n : Nat) (b : Board) : Prop where
  made : n ≤ b.running.length
  held : ∀ k, b.held = some k → n ≤ k ∧ b.Runs k

variable {b : Board} {n k : Nat}

theorem Runs.lt (h : b.Runs k) : k < b.running.length := (List.getElem?_eq_some_iff.mp h).1

/-! ### Starting and stopping -/

theorem started_runs_iff : b.started.Runs k ↔ b.Runs k ∨ k = b.running.length := by
  unfold Runs started
  dsimp only
  rw [List.getElem?_append]
  split
  · constructor
    · exact .inl
    · rintro (h | rfl)
      · exact h
      · omega
  · rename_i hk
    have hn : b.running[k]? = none := List.getElem?_eq_none (Nat.le_of_not_lt hk)
    rw [hn, List.getElem?_singleton]
    constructor
    · intro h
      split at h
      · exact .inr (by omega)
      · cases h
    · rintro (h | rfl)
      · cases h
      · simp

/-- A stop shuts down what is held, and nothing else. -/
theorem stopped_runs_iff : b.stopped.Runs k ↔ b.Runs k ∧ b.held ≠ some k := by
  obtain ⟨running, installed, held⟩ := b
  cases held with
  | none => simp [stopped]
  | some i =>
    unfold Runs stopped
    dsimp only
    rw [List.getElem?_modify]
    by_cases h : i = k
    · subst h
      cases running[i]? <;> simp
    · cases running[k]? <;> simp [h]

theorem stopped_held : b.stopped.held = none := by
  obtain ⟨running, installed, held⟩ := b
  cases held <;> rfl

theorem stopped_frame :
    b.stopped.running.length = b.running.length ∧ b.stopped.installed = b.installed := by
  obtain ⟨running, installed, held⟩ := b
  cases held with
  | none => exact ⟨rfl, rfl⟩
  | some i => exact ⟨List.length_modify .., rfl⟩

theorem Sound.started (h : b.Sound n) : b.started.Sound n where
  made := Nat.le_trans h.made (by simp [Board.started])
  held := by
    intro k hk
    obtain rfl : b.running.length = k := Option.some.inj hk
    exact ⟨h.made, started_runs_iff.mpr (.inr rfl)⟩

theorem Sound.stopped (h : b.Sound n) : b.stopped.Sound n where
  made := Nat.le_trans h.made (Nat.le_of_eq stopped_frame.1.symm)
  held _ hk := nomatch stopped_held.symm.trans hk

/-- A start keeps the board tidy only if no provider runs yet. -/
theorem tidy_started_iff : b.started.Tidy n ↔ ∀ k, n ≤ k → ¬ b.Runs k := by
  constructor
  · intro h k hk hr
    have hlast := h k hk (started_runs_iff.mpr (.inl hr))
    exact absurd (Option.some.inj hlast) (Nat.ne_of_gt hr.lt)
  · intro h k hk hr
    obtain hr | rfl := started_runs_iff.mp hr
    · exact absurd hr (h k hk)
    · rfl

/-- A stop keeps the board tidy, and it makes none tidy. -/
theorem tidy_stopped_iff : b.stopped.Tidy n ↔ b.Tidy n := by
  constructor
  · intro h k hk hr
    by_cases hn : b.held = some k
    · exact hn
    · exact nomatch stopped_held.symm.trans (h k hk (stopped_runs_iff.mpr ⟨hr, hn⟩))
  · intro h k hk hr
    obtain ⟨hr, hn⟩ := stopped_runs_iff.mp hr
    exact absurd (h k hk hr) hn

/-- After a stop no provider runs exactly if only the one that was held did. -/
theorem stopped_idle_iff : (∀ k, n ≤ k → ¬ b.stopped.Runs k) ↔ b.Tidy n := by
  refine forall₂_congr fun k _ => ?_
  rw [stopped_runs_iff, not_and, Decidable.not_not]

/-! ### Operations in turn -/

theorem follow_append (operations more : List Operation) :
    b.follow (operations ++ more) = (b.follow operations).follow more := List.foldl_append

/-- Once a provider runs that is not held, it does so forever. -/
theorem untidy_follow (h : ¬ b.Tidy n) (operations : List Operation) :
    ¬ (b.follow operations).Tidy n := by
  induction operations generalizing b with
  | nil => exact h
  | cons o operations ih =>
    refine ih fun ht => h ?_
    cases o with
    | start => exact fun k hk hr => absurd hr (tidy_started_iff.mp ht k hk)
    | stop => exact tidy_stopped_iff.mp ht
    | perform a => exact ht

end Board

/-- Each start comes after the last one has been stopped, with or without a start that has not been
stopped yet. -/
def orderlyFrom : Bool → List Operation → Bool
  | _, [] => true
  | started, .start :: operations => !started && orderlyFrom true operations
  | _, .stop :: operations => orderlyFrom false operations
  | started, .perform _ :: operations => orderlyFrom started operations

/-- Each start comes after the last one has been stopped. -/
def orderly (operations : List Operation) : Bool := orderlyFrom false operations

namespace Board

variable {b : Board} {n : Nat}

/-- **The board stays tidy exactly through orderly operations.** -/
theorem tidy_follow_iff (hb : b.Sound n) (ht : b.Tidy n) (operations : List Operation) :
    (b.follow operations).Tidy n ↔ orderlyFrom b.held.isSome operations = true := by
  induction operations generalizing b with
  | nil => exact ⟨fun _ => rfl, fun _ => ht⟩
  | cons o operations ih =>
    cases o with
    | start =>
      cases hh : b.held with
      | none =>
        refine ih hb.started (tidy_started_iff.mpr fun k hk hr => ?_)
        exact nomatch hh.symm.trans (ht k hk hr)
      | some i =>
        -- the provider that was held runs on without being held
        obtain ⟨hi, hr⟩ := hb.held i hh
        have hn : ¬ b.started.Tidy n := fun h => tidy_started_iff.mp h i hi hr
        exact ⟨fun h => absurd h (untidy_follow hn operations), fun h => nomatch h⟩
    | stop =>
      have h := ih hb.stopped (tidy_stopped_iff.mpr ht)
      rwa [stopped_held] at h
    | perform a => exact ih hb ht

/-- The first provider that a start makes stays installed. -/
theorem installed_follow {operations : List Operation} (hi : b.installed = none)
    (hn : b.running.length = n) (hs : .start ∈ operations) :
    (b.follow operations).installed = some n ∧ n < (b.follow operations).running.length := by
  have hstays : ∀ {b : Board} (operations : List Operation),
      b.installed = some n ∧ n < b.running.length →
      (b.follow operations).installed = some n ∧ n < (b.follow operations).running.length := by
    intro b operations h
    induction operations generalizing b with
    | nil => exact h
    | cons o operations ih =>
      refine ih ?_
      cases o with
      | start => exact ⟨by simp [act, started, h.1], by simp [act, started]; omega⟩
      | stop => exact ⟨stopped_frame.2.trans h.1, Nat.lt_of_lt_of_eq h.2 stopped_frame.1.symm⟩
      | perform a => exact h
  induction operations generalizing b with
  | nil => cases hs
  | cons o operations ih =>
    cases o with
    | start => exact hstays operations ⟨by simp [act, started, hi, hn], by simp [act, started, hn]⟩
    | stop =>
      have hs := (List.mem_cons.mp hs).resolve_left nofun
      exact ih (stopped_frame.2.trans hi) (stopped_frame.1.trans hn) hs
    | perform a => exact ih hi hn ((List.mem_cons.mp hs).resolve_left nofun)

/-- If a board is tidy after a start that was not the first one, the provider that is installed had
been shut down before. -/
theorem installed_idle_of_tidy {before session : List Operation} (hi : b.installed = none)
    (hn : b.running.length = n) (hs : .start ∈ before)
    (ht : (b.follow (before ++ .start :: session)).Tidy n) :
    (b.follow before).started.installed = some n ∧ ¬ (b.follow before).started.Runs n := by
  obtain ⟨hinstalled, hmade⟩ := installed_follow hi hn hs
  have hstarted : (b.follow before).started.Tidy n := by
    rw [follow_append] at ht
    exact Classical.not_not.mp fun h => untidy_follow h session ht
  refine ⟨by rw [started, hinstalled]; rfl, fun hr => ?_⟩
  obtain hr | rfl := started_runs_iff.mp hr
  · exact tidy_started_iff.mp hstarted n (Nat.le_refl n) hr
  · exact Nat.lt_irrefl _ hmade

end Board

/-! ### The boards of telemetry -/

/-- The board of providers of one kind. -/
def Providers.board {α : Type} (running : α → Bool) (p : Providers α) (held : Option Nat) : Board :=
  ⟨p.all.map running, p.installed, held⟩

/-- The board of the providers of spans. -/
def tracingBoard (t : Telemetry) : Board :=
  t.registry.tracing.board (·.running) t.handles.traceProvider

/-- The board of the providers of metrics. -/
def meteringBoard (t : Telemetry) : Board :=
  t.registry.metering.board (·.running) t.handles.meterProvider

section

variable {α : Type} {running : α → Bool} {p : Providers α} {held : Option Nat}

theorem board_runs_iff {k : Nat} :
    (p.board running held).Runs k ↔ ∃ x, p.all[k]? = some x ∧ running x = true := by
  simp [Providers.board, Board.Runs]

/-- Where nothing is held at first, the board is tidy exactly after orderly operations. -/
theorem tidy_board_iff {operations : List Operation} :
    ((p.board running none).follow operations).Tidy p.all.length ↔
      orderly operations = true := by
  have hsound : (p.board running none).Sound p.all.length :=
    ⟨by simp [Providers.board], fun _ hk => nomatch hk⟩
  refine Board.tidy_follow_iff hsound (fun k hk hr => ?_) operations
  obtain ⟨x, hx, -⟩ := board_runs_iff.mp hr
  exact nomatch (List.getElem?_eq_none hk).symm.trans hx

/-- After operations and a stop no provider made by them runs exactly if they were orderly. -/
theorem idle_of_board_iff {q : Providers α} {operations : List Operation}
    (hq : q.board running held = ((p.board running none).follow operations).stopped) :
    (∀ k x, p.all.length ≤ k → q.all[k]? = some x → running x = false) ↔
      orderly operations = true := by
  rw [← tidy_board_iff, ← Board.stopped_idle_iff, ← hq]
  constructor
  · intro h k hk hr
    obtain ⟨x, hx, hr⟩ := board_runs_iff.mp hr
    exact nomatch hr.symm.trans (h k x hk hx)
  · intro h k x hk hx
    exact Bool.eq_false_iff.mpr fun hr => h k hk (board_runs_iff.mpr ⟨x, hx, hr⟩)

/-- After a later start that is orderly the provider that is installed has been shut down. -/
theorem installed_idle_of_orderly {before session : List Operation} (hi : p.installed = none)
    (ho : orderly (before ++ .start :: session) = true) (hb : .start ∈ before) :
    ((p.board running none).follow (before ++ [.start])).installed = some p.all.length ∧
      ¬ ((p.board running none).follow (before ++ [.start])).Runs p.all.length := by
  rw [Board.follow_append]
  exact Board.installed_idle_of_tidy hi (List.length_map ..) hb (tidy_board_iff.mpr ho)

theorem board_add_install {x : α} (hx : running x = true) :
    ((p.add x).install p.all.length).board running (some p.all.length) =
      (p.board running held).started := by
  simp [Providers.board, Providers.install, Providers.add, Board.started, hx]

theorem board_modify {i : Nat} {f : α → α} {g : Bool → Bool}
    (hf : ∀ x, running (f x) = g (running x)) :
    (p.modify i f).board running held =
      { p.board running held with running := (p.all.map running).modify i g } := by
  have hm : (p.all.modify i f).map running = (p.all.map running).modify i g := by
    apply List.ext_getElem?
    intro k
    rw [List.getElem?_map, List.getElem?_modify, List.getElem?_modify, List.getElem?_map]
    by_cases hk : i = k <;> cases p.all[k]? <;> simp [hk, hf]
  simp [Providers.board, Providers.modify, hm]

end

variable {s : TelemetrySettings} {w : World} {t : Telemetry}

/-- The registry before metering has one provider of spans more, which is connected. -/
theorem tracing_beforeMetering (s : TelemetrySettings) (t : Telemetry) :
    (beforeMetering s t).registry.tracing =
      (t.registry.tracing.add { exporter := some (spanExporter s) }).install
        t.registry.tracing.all.length := by
  have hm : ∀ {α : Type} (l : List α) (x : α) (f : α → α),
      (l ++ [x]).modify l.length f = l ++ [f x] := by
    intro α l x f
    induction l with
    | nil => rfl
    | cons y l ih => simp [ih]
  have hc : (connectTraceProvider (spanExporter s) (beforeConnecting s t)).registry.tracing =
      (t.registry.tracing.add { exporter := some (spanExporter s) }).install
        t.registry.tracing.all.length := by
    simp [connectTraceProvider, beforeConnecting, askFor, makeTraceProvider, onRegistry,
      Providers.add, Providers.install, Providers.modify, hm]
  rw [← hc]
  unfold beforeMetering instrument
  dsimp only
  split <;> split <;> rfl

/-- With exporters that do not fail a start comes to its end. -/
theorem start_of_quiet (he : s.enabled = true) (hq : w.Quiet) :
    (start s w).1 = .ok () ∧ (start s w).2.telemetry =
      makeMeterProvider s.endpoint?.isSome (beforeMetering s w.telemetry) := by
  have h := start_course s w
  generalize (start s w).2.telemetry = t, (start s w).1 = r at h
  cases h with
  | disabled hd => exact nomatch hd.symm.trans he
  | untraced _ f hf => exact nomatch (hq.1 _).symm.trans hf
  | unmetered _ _ _ f hf => exact nomatch (hq.1 _).symm.trans hf
  | complete => exact ⟨rfl, rfl⟩

theorem flushFault_of_quiet (hq : w.Quiet) : flushFault w = none := by
  unfold flushFault
  cases w.telemetry.handles.traceProvider with
  | none => rfl
  | some i =>
    unfold shutdownFault
    rw [Option.bind_some]
    split
    · rename_i p _
      split
      · cases p.exporter with
        | none => rfl
        | some x => exact hq.2 x
      · rfl
    · rfl

theorem tracingBoard_releaseTracing :
    tracingBoard (releaseTracing t) = (tracingBoard t).stopped := by
  obtain ⟨r, tracer, meter, traceProvider, meterProvider, instruments, instrumented⟩ := t
  cases traceProvider with
  | none => rfl
  | some i => exact board_modify fun _ => rfl

theorem meteringBoard_releaseMetering :
    meteringBoard (releaseMetering t) = (meteringBoard t).stopped := by
  obtain ⟨r, tracer, meter, traceProvider, meterProvider, instruments, instrumented⟩ := t
  cases meterProvider with
  | none => rfl
  | some i => exact board_modify fun _ => rfl

theorem meteringBoard_onLedger {f : Ledger → Ledger} :
    meteringBoard (t.onLedger f) = meteringBoard t := by
  unfold onLedger
  split
  · unfold meteringBoard onRegistry Providers.modifyCurrent
    dsimp only
    split
    · refine (board_modify (g := id) fun p => ?_).trans ?_
      · split <;> rfl
      · rw [List.modify_id]
        rfl
    · rfl
  · rfl

theorem meteringBoard_enterAll (es : List Entry) :
    meteringBoard (t.enterAll es) = meteringBoard t :=
  enterAll_induction (P := fun u => meteringBoard u = meteringBoard t)
    (fun _ _ h => meteringBoard_onLedger.trans h) rfl es

/-- An operation with exporters that do not fail moves both boards. -/
theorem board_act (he : s.enabled = true) (hq : w.Quiet) (o : Operation) :
    tracingBoard (o.act s w).2.telemetry = (tracingBoard w.telemetry).act o ∧
      meteringBoard (o.act s w).2.telemetry = (meteringBoard w.telemetry).act o := by
  cases o with
  | start =>
    obtain ⟨-, ht⟩ := start_of_quiet he hq
    obtain ⟨hm, -, -, hp⟩ := beforeMetering_frame s w.telemetry
    change tracingBoard (start s w).2.telemetry = _ ∧ meteringBoard (start s w).2.telemetry = _
    rw [ht]
    constructor
    · unfold tracingBoard makeMeterProvider
      dsimp only
      rw [tracing_beforeMetering, hp]
      exact board_add_install rfl
    · unfold meteringBoard makeMeterProvider
      dsimp only
      rw [hm]
      exact board_add_install rfl
  | stop =>
    have hs : (stop w).2.telemetry =
        releaseInstruments (releaseMetering (releaseTracing w.telemetry)) := by
      rw [stop_of_flushFault_eq_none (flushFault_of_quiet hq)]
      rfl
    obtain ⟨_, hi, -⟩ := releaseInstruments_apply (releaseMetering (releaseTracing w.telemetry))
    obtain ⟨_, hm⟩ := releaseMetering_apply (releaseTracing w.telemetry)
    obtain ⟨_, ht⟩ := releaseTracing_apply w.telemetry
    have htracing : tracingBoard (stop w).2.telemetry =
        tracingBoard (releaseTracing w.telemetry) := by
      rw [hs, hi, hm]
      rfl
    have hmetering : meteringBoard (stop w).2.telemetry =
        meteringBoard (releaseMetering (releaseTracing w.telemetry)) := by
      rw [hs, hi]
      rfl
    have hleft : meteringBoard (releaseTracing w.telemetry) = meteringBoard w.telemetry := by
      rw [ht]
      rfl
    exact ⟨htracing.trans tracingBoard_releaseTracing,
      hmetering.trans (meteringBoard_releaseMetering.trans (congrArg Board.stopped hleft))⟩
  | perform a =>
    have h : Entered w (a.perform w).2 _ := (lockstep_perform rfl a w [] (.refl w)).2
    constructor
    · change tracingBoard (a.perform w).2.telemetry = tracingBoard w.telemetry
      rw [tracingBoard, h.handles, h.tracing]
      rfl
    · have hb := congrArg (fun w : World => meteringBoard w.telemetry) h
      exact hb.trans (meteringBoard_enterAll (t := w.telemetry) _)

theorem replies_act (o : Operation) : (o.act s w).2.replies = w.replies := by
  cases o with
  | start => exact (World.outside_eq_iff.mp (keeps_outside_start w)).1
  | stop => exact (World.outside_eq_iff.mp (keeps_outside_stop w)).1
  | perform a => exact (lockstep_perform rfl a w [] (.refl w)).2.replies

/-- **Both kinds of providers follow the operations on their boards.** -/
theorem board_operate (he : s.enabled = true) (hq : w.Quiet) (operations : List Operation) :
    (operate s operations w).Quiet ∧
      tracingBoard (operate s operations w).telemetry =
        (tracingBoard w.telemetry).follow operations ∧
      meteringBoard (operate s operations w).telemetry =
        (meteringBoard w.telemetry).follow operations := by
  induction operations generalizing w with
  | nil => exact ⟨hq, rfl, rfl⟩
  | cons o operations ih =>
    obtain ⟨ht, hm⟩ := board_act he hq o
    have hq : (o.act s w).2.Quiet := by
      unfold World.Quiet
      rwa [replies_act]
    obtain ⟨hquiet, htracing, hmetering⟩ := ih hq
    rw [ht] at htracing
    rw [hm] at hmetering
    exact ⟨hquiet, htracing, hmetering⟩

end PinnedRun.Telemetry
