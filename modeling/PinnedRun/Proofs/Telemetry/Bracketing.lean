import PinnedRun.Proofs.Telemetry.Traces

/-!
# Nested spans are bracketed

What activities deliver is told by rules, one for each way an activity can go, which know neither a
stack of open spans nor the order of calls.

* `Mark` : a record as it shows in the innermost open span;
* `Accounts parent name attributes marks fault span` : the span is that of a body in which the marks
  were set and which the fault left, if one did;
* `Bracketed parent as marks spans fault` : the activities `as`, done within the span of the name
  `parent`, set the marks in it and deliver the spans, and the fault comes out of them;
* `Live t` : telemetry has been started, and its exporter of spans receives them.

Live telemetry delivers spans by these rules (`performAll_bracketed`): each span that is entered
once, after those within it and in the order of its siblings, with the innermost enclosing span as
its parent.
-/

namespace PinnedRun.Telemetry

open Numeric (Binary64)
open PinnedRun.Action

/-! ### Marks -/

/-- A record as it shows in a span. -/
inductive Mark where
  | fetched (bytes : Int) (duration : Binary64)
  | failed (step : String) (fault : Fault)
  | exited (exitCode : Int)

/-- The event of a fault. -/
def exceptionEvent (f : Fault) : Event :=
  ⟨"exception", [("exception.type", f.qualifiedName), ("exception.message", f.message)]⟩

namespace Mark

/-- The attributes that are set, in order. -/
def attributes : Mark → List (String × AttributeValue)
  | fetched bytes duration => [("fetch.bytes", .integer bytes), ("fetch.duration_ms", .real duration)]
  | failed _ _ => []
  | exited exitCode => [("process.exit_code", .integer exitCode)]

/-- The events that are added, in order. -/
def events : Mark → List Event
  | failed step fault => [Span.failure step fault, exceptionEvent fault]
  | _ => []

/-- The status that is set. -/
def status : Mark → Status
  | fetched _ _ => .ok
  | failed _ fault => .error fault.message
  | exited exitCode => if exitCode = 0 then .ok else .error ("exit code " ++ toString exitCode)

/-- What the mark does to a span. -/
def onto : Mark → Span → Span
  | fetched bytes duration, s => s.fetched bytes duration
  | failed step fault, s => s.failed step fault
  | exited exitCode, s => s.exited exitCode

/-- What marks do to a span in turn. -/
def allOnto (marks : List Mark) (s : Span) : Span := marks.foldl (fun s m => m.onto s) s

end Mark

/-- The status of a span: good, if a mark said so; else that of the ordinary fault that left it, if
one did; else that of the last mark. -/
def statusOf (marks : List Mark) (fault : Option Fault) : Status :=
  if ∃ m ∈ marks, m.status = .ok then .ok
  else
    match fault.filter Fault.isOrdinary with
    | some f => .error f.headline
    | none => (marks.getLast?.map Mark.status).getD .unset

/-- The span of a body in which marks were set and which a fault left, if one did. -/
structure Accounts (parent : Option String) (name : String)
    (attributes : List (String × AttributeValue)) (marks : List Mark) (fault : Option Fault)
    (span : Span) : Prop where
  name : span.name = "toolchain_runner." ++ name
  parent : span.parent = parent
  unique : Keyed.Unique span.attributes
  /-- An attribute has the last of its values, those that the span begins with coming first. An
  attribute without a name is dropped. -/
  attributes : ∀ key, span.attributes.get? key =
    if key = "" then none
    else Attributes.get? (attributes ++ marks.flatMap Mark.attributes).reverse key
  /-- An ordinary fault that leaves the body adds one event, and nothing else does beside marks. -/
  events : span.events =
    marks.flatMap Mark.events ++ ((fault.filter Fault.isOrdinary).map exceptionEvent).toList
  status : span.status = statusOf marks fault

/-! ### The rules -/

/-- The mark of an activity that is a record. -/
def Activity.mark? : Activity → Option Mark
  | .fetched bytes duration => some (.fetched bytes duration)
  | .failed step fault => some (.failed step fault)
  | .exited exitCode _ => some (.exited exitCode)
  | _ => none

/-- Activities within a span of the name `parent`, if there is one, set marks in it and deliver
spans, and a fault comes out of them, if one does. -/
inductive Bracketed :
    Option String → List Activity → List Mark → List Span → Option Fault → Prop where
  | done {parent : Option String} : Bracketed parent [] [] [] none
  | record {parent : Option String} {a : Activity} {m : Mark} {rest : List Activity}
      {marks : List Mark} {spans : List Span} {fault : Option Fault} (mark : a.mark? = some m)
      (tail : Bracketed parent rest marks spans fault) :
      Bracketed parent (a :: rest) (m :: marks) spans fault
  /-- What comes after a fault is not done. -/
  | raise {parent : Option String} {fault : Fault} {rest : List Activity} :
      Bracketed parent (.raise fault :: rest) [] [] (some fault)
  /-- A span with an attribute of a reserved name is not entered. -/
  | refused {parent : Option String} {name reserved : String}
      {attributes : List (String × AttributeValue)} {body rest : List Activity}
      (refused : reservedName? attributes = some reserved) :
      Bracketed parent (.span name attributes body :: rest) [] [] (some (reservedFault reserved))
  /-- A span is delivered after those within it and before its later siblings. -/
  | returned {parent : Option String} {name : String}
      {attributes : List (String × AttributeValue)} {body rest : List Activity}
      {own marks : List Mark} {inner later : List Span} {span : Span} {fault : Option Fault}
      (entered : reservedName? attributes = none)
      (within : Bracketed (some ("toolchain_runner." ++ name)) body own inner none)
      (accounts : Accounts parent name attributes own none span)
      (tail : Bracketed parent rest marks later fault) :
      Bracketed parent (.span name attributes body :: rest) marks (inner ++ span :: later) fault
  /-- A span that a fault leaves is delivered as well, and the fault goes on. -/
  | left {parent : Option String} {name : String} {attributes : List (String × AttributeValue)}
      {body rest : List Activity} {own : List Mark} {inner : List Span} {span : Span}
      {fault : Fault} (entered : reservedName? attributes = none)
      (within : Bracketed (some ("toolchain_runner." ++ name)) body own inner (some fault))
      (accounts : Accounts parent name attributes own (some fault) span) :
      Bracketed parent (.span name attributes body :: rest) [] (inner ++ [span]) (some fault)
  /-- A fault that is caught goes no further. -/
  | caught {parent : Option String} {body rest : List Activity} {own marks : List Mark}
      {inner later : List Span} {dropped fault : Option Fault}
      (within : Bracketed parent body own inner dropped)
      (tail : Bracketed parent rest marks later fault) :
      Bracketed parent (.guarded body :: rest) (own ++ marks) (inner ++ later) fault

/-! ### What marks do to a span -/

namespace Span

variable (s : Span)

theorem attributes_setAttribute (name : String) (value : AttributeValue) :
    (s.setAttribute name value).attributes =
      s.attributes.setAll ([(name, value)].filter (·.1 ≠ "")) := by
  by_cases h : name = "" <;> simp [setAttribute, h, Attributes.setAll]

theorem attributes_setAttributes (pairs : List (String × AttributeValue)) :
    (s.setAttributes pairs).attributes = s.attributes.setAll (pairs.filter (·.1 ≠ "")) := by
  induction pairs generalizing s with
  | nil => rfl
  | cons p pairs ih =>
    rw [← List.singleton_append, List.filter_append, Attributes.setAll_append,
      ← attributes_setAttribute]
    exact ih (s.setAttribute p.1 p.2)

@[simp] theorem attributes_setStatus (status : Status) :
    (s.setStatus status).attributes = s.attributes := by
  unfold setStatus
  split <;> rfl

@[simp] theorem attributes_recordFault (f : Fault) :
    (s.recordFault f).attributes = s.attributes := rfl

/-- A good status stays, any other is replaced. -/
theorem status_setStatus_eq (status : Status) :
    (s.setStatus status).status = if s.status = .ok then .ok else status := by
  unfold setStatus
  split
  · assumption
  · rfl

end Span

namespace Mark

variable (m : Mark) (s : Span)

theorem origin_onto : (m.onto s).origin = s.origin := by
  cases m <;> simp [onto, Span.fetched, Span.failed, Span.exited]

theorem attributes_onto :
    (m.onto s).attributes = s.attributes.setAll (m.attributes.filter (·.1 ≠ "")) := by
  cases m with
  | fetched bytes duration =>
    exact (Span.attributes_setStatus _ _).trans
      (s.attributes_setAttributes [("fetch.bytes", .integer bytes), ("fetch.duration_ms", .real duration)])
  | failed step fault => exact Span.attributes_setStatus _ _
  | exited exitCode =>
    exact (Span.attributes_setStatus _ _).trans
      (s.attributes_setAttributes [("process.exit_code", .integer exitCode)])

theorem events_onto : (m.onto s).events = s.events ++ m.events := by
  cases m with
  | fetched bytes duration => simp [onto, Span.fetched, events]
  | failed step fault => exact Span.events_failed step fault
  | exited exitCode => simp [onto, Span.exited, events]

theorem status_onto : (m.onto s).status = if s.status = .ok then .ok else m.status := by
  cases m with
  | fetched bytes duration => simp [onto, Span.fetched, Span.status_setStatus_eq, status]
  | failed step fault => exact Span.status_setStatus_eq (s.addEvent _) _
  | exited exitCode => simp [onto, Span.exited, Span.status_setStatus_eq, status]

/-- Marks in turn leave the last value of each attribute and add their events, and a good status
stays. -/
theorem allOnto_spec (marks : List Mark) (s : Span) :
    (allOnto marks s).origin = s.origin ∧
      (allOnto marks s).attributes =
        s.attributes.setAll ((marks.flatMap attributes).filter (·.1 ≠ "")) ∧
      (allOnto marks s).events = s.events ++ marks.flatMap events ∧
      (allOnto marks s).status =
        if s.status = .ok ∨ ∃ m ∈ marks, m.status = .ok then .ok
        else (marks.getLast?.map status).getD s.status := by
  induction marks generalizing s with
  | nil => exact ⟨rfl, rfl, by simp [allOnto], by simp +contextual [allOnto]⟩
  | cons m marks ih =>
    obtain ⟨ho, ha, he, hs⟩ := ih (m.onto s)
    refine ⟨ho.trans (m.origin_onto s), ?_, ?_, ?_⟩
    · rw [List.flatMap_cons, List.filter_append, Attributes.setAll_append, ← attributes_onto]
      exact ha
    · rw [List.flatMap_cons, ← List.append_assoc, ← events_onto]
      exact he
    · rw [status_onto] at hs
      refine Eq.trans hs ?_
      by_cases hgood : s.status = .ok
      · simp [hgood]
      · rw [List.getLast?_cons]
        by_cases hm : m.status = .ok
        · simp [hm]
        · cases marks.getLast? <;> simp [hgood, hm]

end Mark

/-- How activities end, by the fault that comes out of them. -/
def outcome : Option Fault → Except Failure Unit
  | none => .ok ()
  | some fault => .error ⟨fault, none⟩

/-- The name of the innermost open span. -/
def parentName (opened : List Span) : Option String := opened.head?.map (·.name)

namespace Span

variable (s : Span) (fault : Option Fault)

theorem attributes_begun (opened : List Span) (name : String)
    (attributes : List (String × AttributeValue)) :
    (begun opened name attributes).attributes =
      Attributes.setAll [] (attributes.filter (·.1 ≠ "")) := attributes_setAttributes _ _

theorem attributes_close : (s.close (outcome fault)).attributes = s.attributes := by
  cases fault with
  | none => rfl
  | some f =>
    unfold outcome close leave
    dsimp only
    split <;> simp

theorem events_close : (s.close (outcome fault)).events =
    s.events ++ ((fault.filter Fault.isOrdinary).map exceptionEvent).toList := by
  cases fault with
  | none => simp [outcome, close]
  | some f =>
    cases hf : f.isOrdinary <;>
      simp [outcome, close, leave, hf, Option.filter_some, recordFault, addEvent, exceptionEvent]

theorem status_close : (s.close (outcome fault)).status =
    if s.status = .ok then .ok
    else
      match fault.filter Fault.isOrdinary with
      | some f => .error f.headline
      | none => s.status := by
  cases fault with
  | none => simp +contextual [outcome, close]
  | some f =>
    cases hf : f.isOrdinary with
    | true =>
      have hleft : s.close (outcome (some f)) = (s.recordFault f).setStatus (.error f.headline) := by
        simp [outcome, close, leave, hf]
      rw [hleft, status_setStatus_eq, Option.filter_some, hf]
      rfl
    | false => simp +contextual [outcome, close, leave, hf, Option.filter_some]

end Span

/-- A span that has begun with attributes and is closed after marks accounts for its body. -/
theorem accounts_close (opened : List Span) (name : String)
    (attributes : List (String × AttributeValue)) (marks : List Mark) (fault : Option Fault) :
    Accounts (parentName opened) name attributes marks fault
      ((Mark.allOnto marks (.begun opened name attributes)).close (outcome fault)) := by
  obtain ⟨ho, ha, he, hs⟩ := Mark.allOnto_spec marks (.begun opened name attributes)
  have horigin : ((Mark.allOnto marks (.begun opened name attributes)).close
      (outcome fault)).origin = (spanName name, parentName opened) := by
    rw [Span.origin_close, ho, Span.origin_begun]
    rfl
  have hattributes : ((Mark.allOnto marks (.begun opened name attributes)).close
      (outcome fault)).attributes =
        Attributes.setAll [] ((attributes ++ marks.flatMap Mark.attributes).filter (·.1 ≠ "")) := by
    rw [Span.attributes_close, ha, Span.attributes_begun, List.filter_append,
      Attributes.setAll_append]
  refine ⟨congrArg Prod.fst horigin, congrArg Prod.snd horigin, ?_, fun key => ?_, ?_, ?_⟩
  · rw [hattributes]
    exact Attributes.unique_setAll Keyed.unique_nil _
  · rw [hattributes, Attributes.get?_setAll, ← List.filter_reverse, Attributes.get?_filter_ne]
    exact Option.or_none
  · rw [Span.events_close, he, Span.events_begun, List.nil_append]
  · rw [Span.status_close, hs, Span.status_begun, statusOf]
    by_cases hgood : ∃ m ∈ marks, m.status = .ok
    · simp [hgood]
    · have hlast : (marks.getLast?.map Mark.status).getD .unset ≠ .ok := by
        cases hm : marks.getLast? with
        | none => exact nofun
        | some m => exact fun h => hgood ⟨m, List.mem_of_getLast? hm, h⟩
      simp [hgood, hlast]

/-! ### Spans on their way are bracketed -/

theorem parentName_modifyHead {f : Span → Span} (hf : ∀ s, (f s).name = s.name)
    (opened : List Span) : parentName (opened.modifyHead f) = parentName opened := by
  cases opened with
  | nil => rfl
  | cons s opened => exact congrArg some (hf s)

theorem Mark.allOnto_nil : allOnto [] = id := rfl

theorem Mark.name_allOnto (marks : List Mark) (s : Span) : (allOnto marks s).name = s.name :=
  congrArg Prod.fst (allOnto_spec marks s).1

theorem name_begun (opened : List Span) (name : String)
    (attributes : List (String × AttributeValue)) :
    (Span.begun opened name attributes).name = "toolchain_runner." ++ name :=
  congrArg Prod.fst (Span.origin_begun opened name attributes)

/-- The trace after marks in the innermost open span and the delivery of spans. -/
def Trace.after (tr : Trace) (marks : List Mark) (spans : List Span) : Trace :=
  ⟨tr.opened.modifyHead (Mark.allOnto marks), tr.ended ++ spans⟩

namespace Trace

variable (tr : Trace)

theorem parentName_after (marks : List Mark) (spans : List Span) :
    parentName (tr.after marks spans).opened = parentName tr.opened :=
  parentName_modifyHead (Mark.name_allOnto marks) tr.opened

theorem after_nil : tr.after [] [] = tr := by
  rw [after, Mark.allOnto_nil, List.modifyHead_id, List.append_nil]
  rfl

theorem after_after (marks more : List Mark) (spans later : List Span) :
    (tr.after marks spans).after more later = tr.after (marks ++ more) (spans ++ later) := by
  have hmarks : Mark.allOnto more ∘ Mark.allOnto marks = Mark.allOnto (marks ++ more) :=
    funext fun s => List.foldl_append.symm
  rw [after, after, after, List.modifyHead_modifyHead, hmarks, List.append_assoc]

end Trace

section

variable {tr : Trace} {a : Activity} {name : String} {attributes : List (String × AttributeValue)}
  {body rest : List Activity} {own marks : List Mark} {inner later : List Span}

theorem trace_of_mark {m : Mark} (h : a.mark? = some m) : a.trace tr = (.ok (), tr.after [m] []) := by
  have hone : tr.after [m] [] = tr.onSpan m.onto := by
    rw [Trace.after, List.append_nil]
    rfl
  rw [hone]
  cases a <;> first | (obtain rfl := Option.some.inj h; rfl) | cases h

theorem trace_refused {reserved : String} (hn : reservedName? attributes = some reserved) :
    (Activity.span name attributes body).trace tr =
      (outcome (some (reservedFault reserved)), tr.after [] []) := by
  rw [Activity.trace, hn, tr.after_nil]
  rfl

/-- What is done within a new span delivers this span last. -/
theorem trace_span {fault : Option Fault} (hn : reservedName? attributes = none)
    (hbody : traceAll body ⟨.begun tr.opened name attributes :: tr.opened, tr.ended⟩ =
      (outcome fault,
        Trace.after ⟨.begun tr.opened name attributes :: tr.opened, tr.ended⟩ own inner)) :
    ∃ span, Accounts (parentName tr.opened) name attributes own fault span ∧
      (Activity.span name attributes body).trace tr =
        (outcome fault, tr.after [] (inner ++ [span])) := by
  refine ⟨_, accounts_close tr.opened name attributes own fault, ?_⟩
  rw [Activity.trace, hn]
  dsimp only
  rw [Trace.within, hbody]
  simp [Trace.after, Mark.allOnto_nil]

theorem trace_guarded {dropped : Option Fault}
    (hbody : traceAll body tr = (outcome dropped, tr.after own inner)) :
    (Activity.guarded body).trace tr = (.ok (), tr.after own inner) := by
  rw [Activity.trace]
  cases dropped with
  | none => exact handle_of_ok hbody
  | some fault => exact handle_of_error hbody

theorem traceAll_cons_of_ok {fault : Option Fault} (ha : a.trace tr = (.ok (), tr.after own inner))
    (hrest : traceAll rest (tr.after own inner) =
      (outcome fault, (tr.after own inner).after marks later)) :
    traceAll (a :: rest) tr = (outcome fault, tr.after (own ++ marks) (inner ++ later)) := by
  rw [traceAll, bind_of_ok ha, hrest, tr.after_after]

theorem traceAll_cons_of_fault {fault : Fault}
    (ha : a.trace tr = (outcome (some fault), tr.after own inner)) :
    traceAll (a :: rest) tr = (outcome (some fault), tr.after own inner) := by
  rw [traceAll, bind_of_error ha]
  rfl

end

/-- Spans on their way follow the rules: the innermost open span gets the marks, and the spans that
the rules deliver are ended. -/
theorem traceAll_bracketed (as : List Activity) (tr : Trace) :
    ∃ marks spans fault, Bracketed (parentName tr.opened) as marks spans fault ∧
      traceAll as tr = (outcome fault, tr.after marks spans) := by
  cases as with
  | nil => exact ⟨[], [], none, .done, congrArg _ tr.after_nil.symm⟩
  | cons a rest =>
    -- what comes after an activity that ends well is within the same span
    have htail : ∀ marks spans, ∃ more later fault,
        Bracketed (parentName tr.opened) rest more later fault ∧
          traceAll rest (tr.after marks spans) =
            (outcome fault, (tr.after marks spans).after more later) := by
      intro marks spans
      obtain ⟨more, later, fault, hrest, htrace⟩ := traceAll_bracketed rest (tr.after marks spans)
      rw [tr.parentName_after] at hrest
      exact ⟨more, later, fault, hrest, htrace⟩
    cases hm : a.mark? with
    | some m =>
      obtain ⟨more, later, fault, hrest, htrace⟩ := htail [m] []
      exact ⟨_, _, _, .record hm hrest, traceAll_cons_of_ok (trace_of_mark hm) htrace⟩
    | none =>
      cases a with
      | fetched | failed | exited => cases hm
      | raise fault => exact ⟨[], [], some fault, .raise, congrArg _ tr.after_nil.symm⟩
      | span name attributes body =>
        cases hn : reservedName? attributes with
        | some reserved =>
          exact ⟨_, _, _, .refused hn, traceAll_cons_of_fault (trace_refused hn)⟩
        | none =>
          obtain ⟨own, inner, fault, hbody, htrace⟩ := traceAll_bracketed body
            ⟨.begun tr.opened name attributes :: tr.opened, tr.ended⟩
          obtain ⟨span, haccounts, hspan⟩ := trace_span hn htrace
          have hname : parentName (.begun tr.opened name attributes :: tr.opened) =
              some ("toolchain_runner." ++ name) := congrArg some (name_begun ..)
          rw [hname] at hbody
          cases fault with
          | none =>
            obtain ⟨more, later, fault, hrest, htrace⟩ := htail [] (inner ++ [span])
            refine ⟨more, inner ++ span :: later, fault, .returned hn hbody haccounts hrest, ?_⟩
            rw [List.append_cons]
            exact traceAll_cons_of_ok hspan htrace
          | some fault =>
            exact ⟨_, _, _, .left hn hbody haccounts, traceAll_cons_of_fault hspan⟩
      | guarded body =>
        obtain ⟨own, inner, dropped, hbody, htrace⟩ := traceAll_bracketed body tr
        obtain ⟨more, later, fault, hrest, htrace'⟩ := htail own inner
        exact ⟨_, _, _, .caught hbody hrest, traceAll_cons_of_ok (trace_guarded htrace) htrace'⟩
termination_by sizeOf as

/-! ### Live telemetry -/

/-- Telemetry has been started, and the installed provider receives spans. -/
structure Live (t : Telemetry) : Prop where
  tracer : t.handles.tracer = true
  tracing : t.isTracing = true

/-- The first start with export enabled that comes to its end makes telemetry live. -/
theorem live_start {s : TelemetrySettings} {w v : World} (he : s.enabled = true)
    (hn : w.telemetry.registry.tracing.installed = none) (h : start s w = (.ok (), v)) :
    Live v.telemetry :=
  ⟨hasTracer_of_start h, isTracing_of_start he h hn⟩

/-- Live telemetry has the spans on their way: those that are open, and after what it had delivered
before, those that have ended. -/
structure Shows (before : List Span) (t : Telemetry) (tr : Trace) : Prop where
  live : Live t
  openSpans : t.registry.openSpans = tr.opened
  spans : t.registry.spans = before ++ tr.ended

namespace Shows

variable {before : List Span} {t : Telemetry} {tr : Trace} (h : Shows before t tr)

include h

theorem beginSpan (name : String) (attributes : List (String × AttributeValue)) :
    Shows before (t.beginSpan name attributes)
      ⟨.begun tr.opened name attributes :: tr.opened, tr.ended⟩ where
  live := ⟨h.live.tracer, h.live.tracing⟩
  openSpans := by
    rw [← h.openSpans]
    rfl
  spans := h.spans

theorem onSpan (f : Span → Span) : Shows before (t.onSpan f) (tr.onSpan f) where
  live := ⟨h.live.tracer, h.live.tracing⟩
  openSpans := congrArg (List.modifyHead f) h.openSpans
  spans := h.spans

theorem endSpan : Shows before t.endSpan ⟨tr.opened.tail, tr.ended ++ tr.opened.head?.toList⟩ where
  live := ⟨h.live.tracer, h.live.tracing⟩
  openSpans := congrArg List.tail h.openSpans
  spans := by simp [Telemetry.endSpan, onRegistry, h.live.tracing, h.openSpans, h.spans]

theorem close {α : Type} (r : Except Failure α) :
    Shows before (t.onSpan (·.close r)).endSpan
      ⟨tr.opened.tail, tr.ended ++ (tr.opened.head?.map (·.close r)).toList⟩ := by
  have hended := (h.onSpan (·.close r)).endSpan
  rwa [Trace.onSpan, List.head?_modifyHead, List.tail_modifyHead] at hended

theorem onLedger (f : Ledger → Ledger) : Shows before (t.onLedger f) tr := by
  obtain ⟨m, hm⟩ := onLedger_eq t f
  rw [hm]
  exact ⟨⟨h.live.tracer, h.live.tracing⟩, h.openSpans, h.spans⟩

end Shows

theorem follows_shows (before : List Span) : Follows fun w tr => Shows before w.telemetry tr where
  tracer h := h.live.tracer
  tracing h := h.live.tracing
  record e f h := (h.onSpan f).onLedger e.enter
  beginSpan name attributes h := h.beginSpan name attributes
  endSpan r h := h.close r

/-- **Live telemetry delivers the spans of nested activities by the rules.** The open spans are the
same ones afterwards, the innermost with the marks that are set in it. Whatever is done within a
span, the span passes on how it ends. -/
theorem performAll_bracketed {w : World} (h : Live w.telemetry) :
    (∀ activities : List Activity, ∃ marks spans fault v,
      Bracketed (parentName w.telemetry.registry.openSpans) activities marks spans fault ∧
        performAll activities w = (outcome fault, v) ∧ Live v.telemetry ∧
        v.telemetry.registry.spans = w.telemetry.registry.spans ++ spans ∧
        v.telemetry.registry.openSpans =
          w.telemetry.registry.openSpans.modifyHead (Mark.allOnto marks)) ∧
      ∀ {α : Type} (name : String) (attributes : List (String × AttributeValue))
        (x : Action World α), reservedName? attributes = none →
        (inSpan name attributes x w).1 = (x (w.onTelemetry (·.beginSpan name attributes))).1 := by
  constructor
  · intro activities
    obtain ⟨marks, spans, fault, hb, htrace⟩ :=
      traceAll_bracketed activities ⟨w.telemetry.registry.openSpans, []⟩
    obtain ⟨he, hv⟩ := (follows_shows w.telemetry.registry.spans).lockstep_performAll activities w
      ⟨w.telemetry.registry.openSpans, []⟩ ⟨h, rfl, (List.append_nil _).symm⟩
    rw [htrace] at he hv
    exact ⟨marks, spans, fault, _, hb, Prod.ext he rfl, hv.live, hv.spans, hv.openSpans⟩
  · intro α name attributes x hn
    have hx : x (w.onTelemetry (·.beginSpan name attributes)) = (_, _) := Prod.ext rfl rfl
    rw [inSpan_apply h.tracer h.tracing hn hx]

/-- A fault passes two spans, the inner one of which is good already, and is caught in a third. -/
theorem performAll_bracketed_nested :
    let w := (start { enabled := true } {}).2
    let activities : List Activity :=
      [.span "run" [] [.guarded [.span "tests" [] [.span "fetch" [("attempt", .integer 1)]
        [.exited 0 (.ofInt 2), .raise (.runtime "boom")]]]]]
    Live w.telemetry ∧ ∃ marks spans, Bracketed none activities marks spans none ∧
      (performAll activities w).2.telemetry.registry.spans = spans ∧
      spans.map (fun s => (s.name, s.parent, s.status)) =
        [("toolchain_runner.fetch", some "toolchain_runner.tests", .ok),
          ("toolchain_runner.tests", some "toolchain_runner.run", .error "RuntimeError: boom"),
          ("toolchain_runner.run", none, .unset)] := by
  intro w activities
  have hl : Live w.telemetry := live_start (s := { enabled := true }) (w := {}) rfl rfl rfl
  obtain ⟨marks, spans, fault, v, hb, hp, -, hs, -⟩ := (performAll_bracketed hl).1 activities
  obtain rfl : fault = none := by
    have hend : (performAll activities w).1 = .ok () := rfl
    rw [hp] at hend
    cases fault with
    | none => rfl
    | some fault => cases hend
  have hspans : (performAll activities w).2.telemetry.registry.spans = spans := by
    rw [hp]
    exact hs
  refine ⟨hl, marks, spans, hb, hspans, ?_⟩
  rw [← hspans]
  decide +kernel

/-- A span that begins with an attribute without a name does not carry it. -/
theorem not_carried_without_name :
    ¬ ∀ (w : World) (name key : String) (value : AttributeValue), Live w.telemetry →
      reservedName? [(key, value)] = none → ∃ span,
        (performAll [.span name [(key, value)] []] w).2.telemetry.registry.spans =
          w.telemetry.registry.spans ++ [span] ∧ span.attributes.get? key = some value := by
  intro h
  have hl : Live (start { enabled := true } {}).2.telemetry :=
    live_start (s := { enabled := true }) (w := {}) rfl rfl rfl
  obtain ⟨span, hs, ha⟩ := h _ "fetch" "" (.text "x") hl rfl
  have hbare : (performAll [.span "fetch" [("", .text "x")] []]
      (start { enabled := true } {}).2).2.telemetry.registry.spans =
        [{ name := "toolchain_runner.fetch", parent := none }] := by decide +kernel
  obtain rfl := List.singleton_inj.mp (hbare.symm.trans hs)
  cases ha

end PinnedRun.Telemetry
