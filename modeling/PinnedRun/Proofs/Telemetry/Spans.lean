import PinnedRun.Proofs.Action.Lockstep
import PinnedRun.Telemetry.Activity

/-!
# Actions within spans

Beginning, changing and ending a span touches the spans only. So along a relation that does not
look at spans an action within a span is in lockstep with what the action alone is in lockstep with
(`IgnoresSpans.traced`, `IgnoresSpans.inSpan`).

* `Telemetry.spanless` is the telemetry without its spans;
* `Telemetry.OnlySpans f` : the change `f` touches spans only;
* `IgnoresSpans R` : the relation `R` does not look at the spans of the first world.
-/

namespace PinnedRun

open PinnedRun.Action

namespace Telemetry

/-- The telemetry without its spans. -/
def spanless (t : Telemetry) : Telemetry :=
  t.onRegistry fun r => { r with openSpans := [], spans := [] }

/-- A change of the telemetry that touches spans only. -/
def OnlySpans (f : Telemetry → Telemetry) : Prop := ∀ t, (f t).spanless = t.spanless

theorem onlySpans_beginSpan {name : String} {attributes : List (String × AttributeValue)} :
    OnlySpans (·.beginSpan name attributes) := fun _ => rfl

theorem onlySpans_onSpan {f : Span → Span} : OnlySpans (·.onSpan f) := fun _ => rfl

theorem onlySpans_endSpan : OnlySpans endSpan := fun _ => rfl

end Telemetry

open Telemetry (OnlySpans)

/-- The relation does not look at the spans of the first world. -/
def IgnoresSpans {τ : Type} (R : World → τ → Prop) : Prop :=
  ∀ w t f, OnlySpans f → R w t → R (w.onTelemetry f) t

namespace IgnoresSpans

variable {τ α : Type} {R : World → τ → Prop} (h : IgnoresSpans R) {name : String}
  {attributes : List (String × Telemetry.AttributeValue)} {x : Action World α} {y : Action τ α}

include h

theorem traced (hx : Lockstep R x y) : Lockstep R (Telemetry.traced name attributes x) y := by
  intro w t hw
  simp only [Telemetry.traced]
  split
  · -- no provider receives spans
    exact hx w t hw
  · obtain ⟨he, hr⟩ := hx (w.onTelemetry (·.beginSpan name attributes)) t
      (h w t _ Telemetry.onlySpans_beginSpan hw)
    generalize x (w.onTelemetry (·.beginSpan name attributes)) = r at *
    obtain ⟨e | a, w'⟩ := r
    · have hl : OnlySpans fun t => (t.onSpan (·.leave e.fault)).endSpan := fun _ => rfl
      exact ⟨he, h w' _ _ hl hr⟩
    · exact ⟨he, h w' _ _ Telemetry.onlySpans_endSpan hr⟩

/-- As long as there is a tracer, a span around an action shows from inside only. -/
theorem inSpan (ht : ∀ {w t}, R w t → w.telemetry.handles.tracer = true)
    (hn : Telemetry.reservedName? attributes = none) (hx : Lockstep R x y) :
    Lockstep R (Telemetry.inSpan name attributes x) y := by
  intro w t hw
  simp only [Telemetry.inSpan, hn, ht hw, if_true]
  exact h.traced hx w t hw

end IgnoresSpans

end PinnedRun
