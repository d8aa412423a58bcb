import PinnedRun.Proofs.Action.Lockstep

/-!
# The outside of a world

`World.outside` is the world without its log and its telemetry: what a run can be seen to do. The
three actions on the outside take the next reply and leave their call behind.

* `World.asked`, `World.closed` and `World.launched` are the worlds after these actions
  (`request_apply`, `closeSession_of_none`, `launch_apply`);
* `outside_asked`, `outside_launched` : worlds with the same outside have it afterwards too.
-/

namespace PinnedRun

open PinnedRun.Action

namespace World

/-- The world without its log and its telemetry. -/
def outside (w : World) : World := { w with threshold := .info, log := [], telemetry := {} }

/-- No exporter fails when it is set up or shut down. -/
def Quiet (w : World) : Prop :=
  (∀ x, w.replies.setup x = none) ∧ ∀ x, w.replies.shutdown x = none

variable {w v : World}

theorem outside_eq_iff : w.outside = v.outside ↔
    w.replies = v.replies ∧ w.ticks = v.ticks ∧ w.volume = v.volume ∧ w.calls = v.calls ∧
      w.printed = v.printed := by
  simp [outside]

@[simp] theorem outside_report (level : Level) (source : Source) (message : String) :
    (w.report level source message).outside = w.outside := by
  obtain h | h := w.report_eq_or level source message <;> rw [h]
  rfl

@[simp] theorem outside_onTelemetry (f : Telemetry → Telemetry) :
    (w.onTelemetry f).outside = w.outside := rfl

/-! ### Actions on the outside -/

/-- The reply that the next request gets. -/
def nextReply (w : World) : Reply Response := w.replies.requests.headD unreachable

/-- The reply that the next launch gets. -/
def nextLaunch (w : World) : Reply Int := w.replies.launches.headD ⟨0, .ok 0⟩

/-- The world after a request has been replied to. -/
def asked (w : World) (url : String) (timeout : Option Numeric.Binary64) (verifyTls : Bool) :
    World :=
  { w with
    calls := w.calls ++ [.get url timeout verifyTls]
    replies := { w.replies with requests := w.replies.requests.tail }
    ticks := w.ticks + w.nextReply.ticks }

/-- The world after the session has been closed. -/
def closed (w : World) : World := { w with calls := w.calls ++ [.close] }

/-- The world after a command has been launched. -/
def launched (w : World) (command : List String) : World :=
  { w with
    calls := w.calls ++ [.launch command]
    replies := { w.replies with launches := w.replies.launches.tail }
    ticks := w.ticks + w.nextLaunch.ticks }

theorem outside_asked (h : w.outside = v.outside) (url : String)
    (timeout : Option Numeric.Binary64) (verifyTls : Bool) :
    (w.asked url timeout verifyTls).outside = (v.asked url timeout verifyTls).outside := by
  obtain ⟨hr, ht, hv, hc, hp⟩ := outside_eq_iff.mp h
  simp [outside, asked, nextReply, hr, ht, hv, hc, hp]

theorem outside_launched (h : w.outside = v.outside) (command : List String) :
    (w.launched command).outside = (v.launched command).outside := by
  obtain ⟨hr, ht, hv, hc, hp⟩ := outside_eq_iff.mp h
  simp [outside, launched, nextLaunch, hr, ht, hv, hc, hp]

end World

variable {w : World}

theorem request_apply {url : String} {timeout : Option Numeric.Binary64} {verifyTls : Bool} :
    request url timeout verifyTls w =
      (w.nextReply.result.mapError (⟨·, none⟩), w.asked url timeout verifyTls) := rfl

theorem closeSession_of_none (h : w.replies.closing = none) :
    closeSession w = (.ok (), w.closed) := by
  simp only [closeSession, h]
  rfl

theorem closeSession_of_some {f : Fault} (h : w.replies.closing = some f) :
    closeSession w = (.error ⟨f, none⟩, w.closed) := by
  simp only [closeSession, h]
  rfl

theorem launch_apply {command : List String} :
    launch command w = (w.nextLaunch.result.mapError (⟨·, none⟩), w.launched command) := rfl

@[simp] theorem nextReply_report (level : Level) (source : Source) (message : String) :
    (w.report level source message).nextReply = w.nextReply := by
  simp [World.nextReply]

end PinnedRun
