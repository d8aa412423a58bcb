import PinnedRun.Proofs.Telemetry.Board
import PinnedRun.Proofs.Telemetry.Traces

/-!
# What a restart loses

The provider that the first start makes stays installed, so all that is recorded goes to it, while a
stop shuts down the provider that was made last. So the first session that is started and stopped
delivers everything, whereas a second start in one session leaves the first provider running and
what it holds undelivered, and a session after a stop delivers nothing: exactly these sessions lose
something (`nothingLost_iff`).

* `performed operations` are the activities among operations;
* `NothingLost w u activities v` : since `u` everything that activities have recorded has been
  delivered once in `v`, and no provider made since `w` runs.
-/

namespace PinnedRun.Telemetry

open PinnedRun.Action

/-- The activities among operations. -/
def performed (operations : List Operation) : List Activity :=
  operations.filterMap fun
    | .perform a => some a
    | _ => none

/-- Since the world `u` the spans that activities end and the metrics that they enter have been
delivered once each, and no provider made since the world `w` runs. -/
structure NothingLost (w u : World) (activities : List Activity) (v : World) : Prop where
  spans : v.telemetry.registry.spans = u.telemetry.registry.spans ++ ended activities
  metrics : v.telemetry.registry.metrics =
    u.telemetry.registry.metrics ++ (Ledger.enterAll {} (entries true activities)).metrics
  tracing : ∀ k p, w.telemetry.registry.tracing.all.length ≤ k →
    v.telemetry.registry.tracing.all[k]? = some p → p.running = false
  metering : ∀ k p, w.telemetry.registry.metering.all.length ≤ k →
    v.telemetry.registry.metering.all[k]? = some p → p.running = false

variable {s : TelemetrySettings} {w u v : World} {t : Telemetry} {n : Nat}
  {before session : List Operation} {es : List Entry}

/-! ### A provider that has been shut down -/

theorem isTracing_of_not_runs (hi : (tracingBoard t).installed = some n)
    (hr : ¬ (tracingBoard t).Runs n) : t.isTracing = false := by
  have hi : t.registry.tracing.installed = some n := hi
  unfold isTracing Providers.current
  rw [hi, Option.bind_some]
  cases hp : t.registry.tracing.all[n]? with
  | none => rfl
  | some p =>
    have hn : ¬ p.running = true := fun h => hr (board_runs_iff.mpr ⟨p, hp, h⟩)
    simpa using hn

/-- A provider of metrics that has been shut down takes no entries. -/
theorem enterAll_of_not_runs (hi : (meteringBoard t).installed = some n)
    (hr : ¬ (meteringBoard t).Runs n) (es : List Entry) : t.enterAll es = t := by
  have hi : t.registry.metering.installed = some n := hi
  refine enterAll_of_onLedger (fun f => ?_) es
  have hm : t.registry.metering.all.modify n
      (fun p => if p.running then { p with ledger := f p.ledger } else p) =
        t.registry.metering.all := by
    apply List.ext_getElem?
    intro k
    rw [List.getElem?_modify]
    cases hp : t.registry.metering.all[k]? with
    | none => rfl
    | some p =>
      by_cases hk : n = k
      · subst hk
        have hn : ¬ p.running = true := fun h => hr (board_runs_iff.mpr ⟨p, hp, h⟩)
        simp [hn]
      · simp [hk]
  unfold onLedger onRegistry Providers.modifyCurrent
  dsimp only
  rw [hi]
  dsimp only
  unfold Providers.modify
  rw [hm]
  split <;> rfl

/-- As long as spans are not received, activities deliver none. -/
theorem lasting_spans {spans : List Span} : Lasting fun w =>
    w.telemetry.isTracing = false ∧ w.telemetry.registry.spans = spans where
  record := by
    rintro f e w h
    obtain ⟨m, hm⟩ := onLedger_eq (w.telemetry.onSpan f) e.enter
    change ((w.telemetry.onSpan f).onLedger e.enter).isTracing = false ∧
      ((w.telemetry.onSpan f).onLedger e.enter).registry.spans = spans
    rw [hm]
    exact h
  inSpan hx := by
    refine preserves_inSpan hx (fun _ h => h) (fun _ _ h => h) fun w h => ⟨h.1, ?_⟩
    have hs : w.telemetry.endSpan.registry.spans = w.telemetry.registry.spans := by
      simp [endSpan, onRegistry, h.1]
    exact hs.trans h.2

/-! ### The metrics of entries -/

/-- Entries leave metrics to deliver. -/
theorem eq_nil_of_metrics (h : (Ledger.enterAll {} es).metrics = []) : es = [] := by
  have hnil : ∀ {t : Tally}, Ledger.countPoints? t = none → t = [] := by
    intro t ht
    unfold Ledger.countPoints? at ht
    split at ht
    · assumption
    · cases ht
  have hf := Ledger.points?_metrics (Ledger.enterAll {} es) "toolchain_runner_fetches_total"
  have ht := Ledger.points?_metrics (Ledger.enterAll {} es) "toolchain_runner_test_runs_total"
  rw [h] at hf ht
  have hfetches : (Ledger.enterAll {} es).fetches = [] := hnil hf.symm
  have htests : (Ledger.enterAll {} es).testRuns = [] := hnil ht.symm
  cases es with
  | nil => rfl
  | cons e es =>
    -- the result of the first entry has been counted in one of the two tallies
    have hcf := Ledger.count_fetches_enterAll (e :: es) e.result {}
    have hct := Ledger.count_testRuns_enterAll (e :: es) e.result {}
    rw [hfetches] at hcf
    rw [htests] at hct
    cases he : e.ofFetch <;> simp [Tally.count, he] at hcf hct

/-! ### Sessions -/

/-- A session without further starts and stops consists of activities. -/
theorem eq_performed (ho : orderlyFrom true session = true) (hs : .stop ∉ session) :
    session = (performed session).map .perform := by
  induction session with
  | nil => rfl
  | cons o session ih =>
    cases o with
    | start => cases ho
    | stop => exact absurd List.mem_cons_self hs
    | perform a =>
      have hs : .stop ∉ session := fun h => hs (List.mem_cons_of_mem _ h)
      exact congrArg (Operation.perform a :: ·) (ih ho hs)

theorem orderlyFrom_session {started : Bool}
    (h : orderlyFrom started (before ++ .start :: session) = true) :
    orderlyFrom true session = true := by
  induction before generalizing started with
  | nil => exact (Bool.and_eq_true_iff.mp h).2
  | cons o before ih =>
    cases o with
    | start => exact ih (Bool.and_eq_true_iff.mp h).2
    | stop => exact ih h
    | perform a => exact ih h

theorem operate_session (h : orderly (before ++ .start :: session) = true) (hs : .stop ∉ session) :
    operate s (.start :: session) u = performEach (performed session) (start s u).2 := by
  have hp := eq_performed (orderlyFrom_session h) hs
  have hr : operate s session (start s u).2 =
      operate s ((performed session).map .perform) (start s u).2 := by rw [← hp]
  exact hr.trans (operate_perform _)

theorem stop_fst_of_quiet (hq : v.Quiet) : (stop v).1 = .ok () := by
  rw [stop_fst, flushFault_of_quiet hq]
  rfl

/-- Before the first start nothing happens to telemetry. -/
theorem telemetry_operate_of_not_started (hh : w.telemetry.handles = {})
    (hu : w.telemetry.registry.Unused) (hb : .start ∉ before) :
    (operate s before w).telemetry = w.telemetry := by
  induction before generalizing w with
  | nil => rfl
  | cons o before ih =>
    have ho : (o.act s w).2.telemetry = w.telemetry := by
      cases o with
      | start => exact absurd List.mem_cons_self hb
      | stop => exact telemetry_stop_of_released (by rw [hh]) (by rw [hh]) (by rw [hh])
      | perform a => exact (lasting_of_unused hu).perform a w rfl
    have hb : .start ∉ before := fun h => hb (List.mem_cons_of_mem _ h)
    exact (ih (by rwa [ho]) (by rwa [ho]) hb).trans ho

theorem outstanding_makeMeterProvider {exports : Bool} :
    (makeMeterProvider exports t).outstanding = [] := by
  have hempty : ({} : Ledger).metrics = [] := rfl
  simp [outstanding, makeMeterProvider, Providers.add, Providers.install, hempty]

section

variable (he : s.enabled = true) (hq : u.Quiet)

include he hq

theorem quiet_performEach (activities : List Activity) :
    (performEach activities (start s u).2).Quiet := by
  have hv : operate s (.start :: activities.map .perform) u =
      performEach activities (start s u).2 := operate_perform activities
  exact hv ▸ (board_operate he hq (.start :: activities.map .perform)).1

/-- The first session delivers what its activities record. -/
theorem delivers_of_first (hh : u.telemetry.handles = {}) (hu : u.telemetry.registry.Unused)
    (hn : s.endpoint?.isSome = true) (activities : List Activity) :
    let v := (stop (performEach activities (start s u).2)).2
    v.telemetry.registry.spans = u.telemetry.registry.spans ++ ended activities ∧
      v.telemetry.registry.metrics =
        u.telemetry.registry.metrics ++ (Ledger.enterAll {} (entries true activities)).metrics := by
  obtain ⟨hok, -⟩ := start_of_quiet he hq
  have hstart : start s u = (.ok (), (start s u).2) := Prod.ext hok rfl
  have hexp := exporting_start hh hu he hn hstart
  have hquiet := quiet_performEach he hq activities
  have hr : recorded s u activities =
      (Ledger.enterAll {} (entries true activities)).metrics := by
    simp [recorded, he, hn, hok, Except.isOk, Except.toBool]
  constructor
  · exact (stop_reports _).1.trans (exports_performEach hexp activities)
  · rw [← hr]
    exact ((held_performEach hh hu activities).released (flushFault_of_quiet hquiet)).metrics

/-- With the installed providers shut down a session delivers nothing. -/
theorem loses_of_later {m : Nat}
    (ht : (tracingBoard (start s u).2.telemetry).installed = some n ∧
      ¬ (tracingBoard (start s u).2.telemetry).Runs n)
    (hm : (meteringBoard (start s u).2.telemetry).installed = some m ∧
      ¬ (meteringBoard (start s u).2.telemetry).Runs m) (activities : List Activity) :
    let v := (stop (performEach activities (start s u).2)).2
    v.telemetry.registry.spans = u.telemetry.registry.spans ∧
      v.telemetry.registry.metrics = u.telemetry.registry.metrics := by
  obtain ⟨-, hstart⟩ := start_of_quiet he hq
  obtain ⟨-, hspans, hmetrics, -⟩ := beforeMetering_frame s u.telemetry
  obtain ⟨-, hkept⟩ :=
    lasting_spans.performEach activities ⟨isTracing_of_not_runs ht.1 ht.2, rfl⟩
  -- spans aside, the activities change nothing
  have hentered : Entered (start s u).2 (performEach activities (start s u).2) _ :=
    entered_performEach rfl activities
  have hsame := congrArg World.telemetry hentered
  have hsame : (performEach activities (start s u).2).telemetry.spanless =
      (start s u).2.telemetry.spanless :=
    hsame.trans (congrArg spanless (enterAll_of_not_runs hm.1 hm.2 _))
  obtain ⟨hs, hd⟩ := stop_reports (performEach activities (start s u).2)
  rw [flushFault_of_quiet (quiet_performEach he hq activities)] at hd
  constructor
  · rw [hs, hkept, hstart]
    exact hspans
  · have hlast := congrArg (fun t : Telemetry => t.registry.metrics ++ t.outstanding) hsame
    refine hd.trans (hlast.trans ?_)
    change (start s u).2.telemetry.registry.metrics ++ (start s u).2.telemetry.outstanding = _
    rw [hstart, outstanding_makeMeterProvider, List.append_nil]
    exact hmetrics

end

/-! ### What is lost -/

section

variable (hh : w.telemetry.handles = {}) (he : s.enabled = true) (hq : w.Quiet)

include hh he hq

theorem boards_operate (operations : List Operation) :
    (operate s operations w).Quiet ∧
      tracingBoard (operate s operations w).telemetry =
        (w.telemetry.registry.tracing.board (·.running) none).follow operations ∧
      meteringBoard (operate s operations w).telemetry =
        (w.telemetry.registry.metering.board (·.running) none).follow operations := by
  have h := board_operate he hq operations
  unfold tracingBoard meteringBoard at h
  rwa [hh] at h

/-- After a stop no provider that has been made runs exactly if the operations before it were
orderly. -/
theorem idle_iff (operations : List Operation) :
    let v := (stop (operate s operations w)).2
    ((∀ k p, w.telemetry.registry.tracing.all.length ≤ k →
        v.telemetry.registry.tracing.all[k]? = some p → p.running = false) ↔
      orderly operations = true) ∧
    ((∀ k p, w.telemetry.registry.metering.all.length ≤ k →
        v.telemetry.registry.metering.all[k]? = some p → p.running = false) ↔
      orderly operations = true) := by
  intro v
  obtain ⟨hquiet, htracing, hmetering⟩ := boards_operate hh he hq operations
  obtain ⟨ht, hm⟩ := board_act he hquiet .stop
  rw [htracing] at ht
  rw [hmetering] at hm
  exact ⟨idle_of_board_iff ht, idle_of_board_iff hm⟩

/-- A later session delivers nothing, if starts and stops have been orderly. -/
theorem loses_of_orderly (hu : w.telemetry.registry.Unused)
    (ho : orderly (before ++ .start :: session) = true) (hb : .start ∈ before)
    (activities : List Activity) :
    let u := operate s before w
    let v := (stop (performEach activities (start s u).2)).2
    v.telemetry.registry.spans = u.telemetry.registry.spans ∧
      v.telemetry.registry.metrics = u.telemetry.registry.metrics := by
  obtain ⟨hquiet, -⟩ := boards_operate hh he hq before
  obtain ⟨-, ht, hm⟩ := boards_operate hh he hq (before ++ [.start])
  rw [operate_append] at ht hm
  refine loses_of_later (n := w.telemetry.registry.tracing.all.length)
    (m := w.telemetry.registry.metering.all.length) he hquiet ?_ ?_ activities
  · rw [show tracingBoard (start s (operate s before w)).2.telemetry = _ from ht]
    exact installed_idle_of_orderly hu.tracing ho hb
  · rw [show meteringBoard (start s (operate s before w)).2.telemetry = _ from hm]
    exact installed_idle_of_orderly hu.metering ho hb

end

/-- **A session loses nothing exactly if starts and stops have been orderly and it is the first one,
or nothing is recorded in it.** -/
theorem nothingLost_iff (hh : w.telemetry.handles = {}) (hu : w.telemetry.registry.Unused)
    (he : s.enabled = true) (hn : s.endpoint?.isSome = true) (hq : w.Quiet)
    (before session : List Operation) (hs : .stop ∉ session) :
    let u := operate s before w
    let v := operate s (.start :: session) u
    (stop v).1 = .ok () ∧
      (NothingLost w u (performed session) (stop v).2 ↔
        orderly (before ++ .start :: session) = true ∧
          (.start ∉ before ∨
            ended (performed session) = [] ∧ entries true (performed session) = [])) := by
  intro u v
  have hv : v = operate s (before ++ .start :: session) w := (operate_append ..).symm
  obtain ⟨hquiet, -⟩ := boards_operate hh he hq (before ++ .start :: session)
  obtain ⟨ht, hm⟩ := idle_iff hh he hq (before ++ .start :: session)
  rw [← hv] at hquiet ht hm
  refine ⟨stop_fst_of_quiet hquiet, ?_⟩
  by_cases ho : orderly (before ++ .start :: session) = true
  · have hsession : v = performEach (performed session) (start s u).2 := operate_session ho hs
    by_cases hb : .start ∈ before
    · -- a later session delivers nothing, so nothing must have been recorded
      obtain ⟨hspans, hmetrics⟩ := loses_of_orderly hh he hq hu ho hb (performed session)
      rw [← hsession] at hspans hmetrics
      constructor
      · intro h
        have hended := List.self_eq_append_right.mp (hspans.symm.trans h.spans)
        have hmade := List.self_eq_append_right.mp (hmetrics.symm.trans h.metrics)
        exact ⟨ho, .inr ⟨hended, eq_nil_of_metrics hmade⟩⟩
      · rintro ⟨-, hlost⟩
        obtain ⟨hended, hmade⟩ := hlost.resolve_left fun h => h hb
        refine ⟨?_, ?_, ht.mpr ho, hm.mpr ho⟩
        · rw [hended, List.append_nil]
          exact hspans
        · rw [hmade]
          exact hmetrics.trans (List.append_nil _).symm
    · -- the first session delivers everything
      have htelemetry : u.telemetry = w.telemetry := telemetry_operate_of_not_started hh hu hb
      obtain ⟨hspans, hmetrics⟩ := delivers_of_first he (boards_operate hh he hq before).1
        (htelemetry ▸ hh) (htelemetry ▸ hu) hn (performed session)
      rw [show performEach (performed session) (start s (operate s before w)).2 = v from
        hsession.symm] at hspans hmetrics
      exact ⟨fun _ => ⟨ho, .inl hb⟩, fun _ => ⟨hspans, hmetrics, ht.mpr ho, hm.mpr ho⟩⟩
  · exact ⟨fun h => absurd (ht.mp h.tracing) ho, fun h => absurd h.1 ho⟩

/-- A first session with a fetch in its span. -/
theorem nothingLost_iff_of_fetch :
    let s : TelemetrySettings := { enabled := true, endpoint := some "http://collector:4317" }
    let session : List Operation := [.perform (.span "fetch" [] [.fetched 7 (.ofInt 2)])]
    ({} : World).telemetry.handles = {} ∧ ({} : World).telemetry.registry.Unused ∧
      s.enabled = true ∧ s.endpoint?.isSome = true ∧ ({} : World).Quiet ∧ .stop ∉ session ∧
      NothingLost {} {} (performed session) (stop (operate s (.start :: session) {})).2 := by
  intro s session
  have hu : ({} : World).telemetry.registry.Unused := ⟨rfl, rfl, rfl, rfl⟩
  have hq : ({} : World).Quiet := ⟨fun _ => rfl, fun _ => rfl⟩
  have hn : s.endpoint?.isSome = true := by decide
  have hs : .stop ∉ session := by simp [session]
  obtain ⟨-, h⟩ := nothingLost_iff rfl hu rfl hn hq [] session hs
  exact ⟨rfl, hu, rfl, hn, hq, hs, h.mpr ⟨rfl, .inl List.not_mem_nil⟩⟩

/-- Two starts before a stop leave the first provider running and what has been recorded
undelivered, and a session after a stop delivers neither its span nor its metrics. -/
theorem lost_by_second_start :
    let s : TelemetrySettings := { enabled := true, endpoint := some "http://collector:4317" }
    let fetch : Operation := .perform (.span "fetch" [] [.fetched 7 (.ofInt 2)])
    let twice := (stop (operate s [.start, .start, fetch] {})).2
    let again := (stop (operate s [.start, fetch] (operate s [.start, .stop] {}))).2
    (twice.telemetry.registry.metrics = [] ∧
        twice.telemetry.registry.metering.all.map (·.running) = [true, false] ∧
        ¬ NothingLost {} {} (performed [.start, fetch]) twice) ∧
      again.telemetry.registry.spans = [] ∧ again.telemetry.registry.metrics = [] ∧
        ¬ NothingLost {} (operate s [.start, .stop] {}) (performed [fetch]) again := by
  intro s fetch twice again
  have hmade : entries true (performed [fetch]) ≠ [] := List.cons_ne_nil _ _
  have htwice : twice.telemetry.registry.metrics = [] := by decide +kernel
  have hagain : again.telemetry.registry.metrics = [] := by decide +kernel
  refine ⟨⟨htwice, by decide +kernel, fun h => ?_⟩, by decide +kernel, hagain, fun h => ?_⟩
  · have hm := h.metrics
    rw [htwice] at hm
    exact hmade (eq_nil_of_metrics (List.append_eq_nil_iff.mp hm.symm).2)
  · have hm := h.metrics
    rw [hagain] at hm
    exact hmade (eq_nil_of_metrics (List.append_eq_nil_iff.mp hm.symm).2)

end PinnedRun.Telemetry
