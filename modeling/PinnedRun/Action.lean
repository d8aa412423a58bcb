import PinnedRun.World

/-!
# Actions

An action changes a state and ends with a value or a failure; the state is kept in both cases.
`Action.handle` goes on after a failure, `Action.ensure` does something after either end, and a
failure of that something goes before what came first.

Beside the general operations stand those on the world: log records (`log`), the clock (`now`),
and the three actions on the outside (`request`, `closeSession`, `launch`).
-/

namespace PinnedRun

open Numeric (Binary64)

/-- A change of a state that ends with a value or a failure. -/
def Action (σ α : Type) : Type := σ → Except Failure α × σ

namespace Action

variable {σ τ α β : Type}

/-- Ends with a value. -/
def succeed (a : α) : Action σ α := fun s => (.ok a, s)

/-- Goes on with the value of an action. -/
def andThen (x : Action σ α) (f : α → Action σ β) : Action σ β := fun s =>
  match x s with
  | (.ok a, s) => f a s
  | (.error e, s) => (.error e, s)

instance : Monad (Action σ) where
  pure := succeed
  bind := andThen

/-- Ends with a failure. -/
def fail (e : Failure) : Action σ α := fun s => (.error e, s)

/-- Goes on after a failure. -/
def handle (x : Action σ α) (f : Failure → Action σ α) : Action σ α := fun s =>
  match x s with
  | (.ok a, s) => (.ok a, s)
  | (.error e, s) => f e s

/-- Ends with an action that is done in any case. -/
def ensure (x : Action σ α) (final : Action σ Unit) : Action σ α := fun s =>
  match x s with
  | (r, s) =>
    match final s with
    | (.ok _, s) => (r, s)
    | (.error e, s) => (.error e, s)

/-- Reads off the state. -/
def gets (f : σ → α) : Action σ α := fun s => (.ok (f s), s)

/-- Changes the state. -/
def change (f : σ → σ) : Action σ Unit := fun s => (.ok (), f s)

/-- Does an action on a part of the state. -/
def within (get : τ → σ) (put : σ → τ → τ) (x : Action σ α) : Action τ α := fun t =>
  match x (get t) with
  | (r, s) => (r, put s t)

/-- Ends with a value or an unusable value. -/
def ofExcept : Except Unusable α → Action σ α
  | .ok a => succeed a
  | .error reason => fail ⟨.unusable reason, none⟩

/-! ### What actions do to a state -/

@[simp] theorem pure_apply (a : α) (s : σ) : (pure a : Action σ α) s = (.ok a, s) := rfl

@[simp] theorem bind_apply (x : Action σ α) (f : α → Action σ β) (s : σ) :
    (x >>= f) s =
      match x s with
      | (.ok a, s) => f a s
      | (.error e, s) => (.error e, s) := rfl

@[simp] theorem fail_apply (e : Failure) (s : σ) : (fail e : Action σ α) s = (.error e, s) := rfl

@[simp] theorem gets_apply (f : σ → α) (s : σ) : gets f s = (.ok (f s), s) := rfl

@[simp] theorem change_apply (f : σ → σ) (s : σ) : change f s = (.ok (), f s) := rfl

@[simp] theorem within_apply (get : τ → σ) (put : σ → τ → τ) (x : Action σ α) (t : τ) :
    within get put x t = ((x (get t)).1, put (x (get t)).2 t) := rfl

theorem handle_apply (x : Action σ α) (f : Failure → Action σ α) (s : σ) :
    x.handle f s =
      match x s with
      | (.ok a, s) => (.ok a, s)
      | (.error e, s) => f e s := rfl

theorem ensure_apply (x : Action σ α) (final : Action σ Unit) (s : σ) :
    x.ensure final s =
      match final (x s).2 with
      | (.ok _, s') => ((x s).1, s')
      | (.error e, s') => (.error e, s') := rfl

theorem bind_of_ok {x : Action σ α} {f : α → Action σ β} {s t : σ} {a : α} (h : x s = (.ok a, t)) :
    (x >>= f) s = f a t := by
  rw [bind_apply, h]

theorem bind_of_error {x : Action σ α} {f : α → Action σ β} {s t : σ} {e : Failure}
    (h : x s = (.error e, t)) : (x >>= f) s = (.error e, t) := by
  rw [bind_apply, h]

/-- Two ways to go on come to the same if they do so wherever the action before them leads. -/
theorem bind_congr_of_ok {x : Action σ α} {f g : α → Action σ β} {s : σ}
    (h : ∀ a t, x s = (.ok a, t) → f a t = g a t) : (x >>= f) s = (x >>= g) s := by
  rw [bind_apply, bind_apply]
  generalize x s = p at h
  obtain ⟨e | a, t⟩ := p
  · rfl
  · exact h a t rfl

theorem handle_of_ok {x : Action σ α} {f : Failure → Action σ α} {s t : σ} {a : α}
    (h : x s = (.ok a, t)) : x.handle f s = (.ok a, t) := by
  rw [handle_apply, h]

theorem handle_of_error {x : Action σ α} {f : Failure → Action σ α} {s t : σ} {e : Failure}
    (h : x s = (.error e, t)) : x.handle f s = f e t := by
  rw [handle_apply, h]

theorem change_bind_apply (g : σ → σ) (f : Unit → Action σ α) (s : σ) :
    (change g >>= f) s = f () (g s) := rfl

theorem bind_eq_ok_iff {x : Action σ α} {f : α → Action σ β} {s s' : σ} {b : β} :
    (x >>= f) s = (.ok b, s') ↔ ∃ a t, x s = (.ok a, t) ∧ f a t = (.ok b, s') := by
  rw [bind_apply]
  rcases x s with ⟨e | a, t⟩ <;> simp [and_assoc]

/-! ### Actions on the world -/

/-- Adds a log record. -/
def log (level : Level) (source : Source) (message : String) : Action World Unit :=
  change (·.report level source message)

theorem log_bind_apply (level : Level) (source : Source) (message : String)
    (f : Unit → Action World α) (w : World) :
    (log level source message >>= f) w = f () (w.report level source message) := rfl

/-- Reads the clock in seconds. -/
def now : Action World Binary64 := gets World.reading

/-- Takes the time of a reply and ends the way the reply does. -/
def receive (reply : Reply α) : Action World α := fun w =>
  (reply.result.mapError (⟨·, none⟩), w.advance reply.ticks)

/-- What a request is answered with when no reply is left. -/
def unreachable : Reply Response := ⟨0, .error (.request .connection "unreachable")⟩

/-- Asks a server for a file. -/
def request (url : String) (timeout : Option Binary64) (verifyTls : Bool) :
    Action World Response := fun w =>
  receive (w.replies.requests.headD unreachable)
    { w with
      calls := w.calls ++ [.get url timeout verifyTls]
      replies := { w.replies with requests := w.replies.requests.tail } }

/-- Closes the session with the server. -/
def closeSession : Action World Unit := fun w =>
  (match w.replies.closing with
    | some fault => .error ⟨fault, none⟩
    | none => .ok (),
    { w with calls := w.calls ++ [.close] })

/-- Launches a command and waits for its return code; it is zero when no reply is left. -/
def launch (command : List String) : Action World Int := fun w =>
  receive (w.replies.launches.headD ⟨0, .ok 0⟩)
    { w with
      calls := w.calls ++ [.launch command]
      replies := { w.replies with launches := w.replies.launches.tail } }

end Action

end PinnedRun
