import PinnedRun.Telemetry.Registry
import PinnedRun.Volume.Basic

/-!
# The world around a run

A `World` holds what a run acts on and what can be seen of it: the replies that outside parties
will give, the clock, the volume, the log, the calls made so far, what has been printed, and the
telemetry.

* `Replies` are the answers to come of the server, the system and the exporters;
* `World.report` adds a log record if its level is high enough;
* `World.reading` reads the clock, which counts in ticks of which 1024 make a second.
-/

namespace PinnedRun

open Numeric (Binary64)

/-- How much a log record matters. -/
inductive Level where
  | debug
  | info
  | warning
  | error
deriving Repr, DecidableEq

namespace Level

/-- The word for a level. -/
def name : Level → String
  | debug => "DEBUG"
  | info => "INFO"
  | warning => "WARNING"
  | error => "ERROR"

/-- Levels in ascending order. -/
def rank : Level → Nat
  | debug => 0
  | info => 1
  | warning => 2
  | error => 3

end Level

/-- The part of the program that a log record comes from. -/
inductive Source where
  | runner
  | fetcher
  | command
  | telemetry
deriving Repr, DecidableEq

/-- The name of a source in the log. -/
def Source.name : Source → String
  | runner => "toolchain_runner.runner"
  | fetcher => "toolchain_runner.fetcher"
  | command => "toolchain_runner.command"
  | telemetry => "toolchain_runner.otel"

/-- A log record. -/
structure Record where
  level : Level
  source : Source
  message : String
deriving Repr, DecidableEq

/-- What an outside party does: it takes some time and answers or fails. -/
structure Reply (α : Type) where
  ticks : Int := 0
  result : Except Fault α

/-- The answer of a server. -/
structure Response where
  status : Int
  body : ByteArray
deriving DecidableEq

/-- What outside parties will do. -/
structure Replies where
  /-- One reply for each request. -/
  requests : List (Reply Response) := []
  /-- One reply for each launch: the return code, negative for the number of a signal. -/
  launches : List (Reply Int) := []
  /-- The fault of closing the session, each time. -/
  closing : Option Fault := none
  /-- The fault of setting up an exporter. -/
  setup : Telemetry.Exporter → Option Fault := fun _ => none
  /-- The fault of an exporter of spans when its provider shuts down. A provider of metrics is taken
  to shut down without a fault, so what is said of the exporter of metrics here is never raised. -/
  shutdown : Telemetry.Exporter → Option Fault := fun _ => none

/-- An action on the outside. -/
inductive Call where
  | get (url : String) (timeout : Option Binary64) (verifyTls : Bool)
  | close
  | launch (command : List String)
deriving DecidableEq

/-- What a run acts on and what can be seen of it. -/
structure World where
  replies : Replies := {}
  ticks : Int := 0
  volume : Volume := .bare ["work"]
  threshold : Level := .info
  log : List Record := []
  calls : List Call := []
  printed : String := ""
  telemetry : Telemetry := {}

namespace World

/-- Adds a record to the log, unless its level is below the threshold. -/
def report (w : World) (level : Level) (source : Source) (message : String) : World :=
  if w.threshold.rank ≤ level.rank then { w with log := w.log ++ [⟨level, source, message⟩] }
  else w

section

variable (w : World) (level : Level) (source : Source) (message : String)

/-- A record changes nothing but the log. -/
theorem report_eq_or :
    w.report level source message = w ∨
      w.report level source message = { w with log := w.log ++ [⟨level, source, message⟩] } := by
  unfold report
  split
  · exact .inr rfl
  · exact .inl rfl

@[simp] theorem replies_report : (w.report level source message).replies = w.replies := by
  obtain h | h := w.report_eq_or level source message <;> rw [h]

@[simp] theorem ticks_report : (w.report level source message).ticks = w.ticks := by
  obtain h | h := w.report_eq_or level source message <;> rw [h]

@[simp] theorem volume_report : (w.report level source message).volume = w.volume := by
  obtain h | h := w.report_eq_or level source message <;> rw [h]

@[simp] theorem calls_report : (w.report level source message).calls = w.calls := by
  obtain h | h := w.report_eq_or level source message <;> rw [h]

@[simp] theorem printed_report : (w.report level source message).printed = w.printed := by
  obtain h | h := w.report_eq_or level source message <;> rw [h]

@[simp] theorem telemetry_report : (w.report level source message).telemetry = w.telemetry := by
  obtain h | h := w.report_eq_or level source message <;> rw [h]

end

/-- Ticks as seconds. -/
def seconds (ticks : Int) : Binary64 := .ofRat (mkRat ticks 1024)

/-- The reading of the clock in seconds. -/
def reading (w : World) : Binary64 := seconds w.ticks

/-- The clock moved on. -/
def advance (w : World) (ticks : Int) : World := { w with ticks := w.ticks + ticks }

/-- The telemetry changed. -/
def onTelemetry (w : World) (f : Telemetry → Telemetry) : World :=
  { w with telemetry := f w.telemetry }

end World

end PinnedRun
