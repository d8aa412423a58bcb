import PinnedRun.Proofs.Action.Lockstep

/-!
# Actions that delegate

An action that is built from an operation *delegates* to it if, whatever the operation does, the
action performs it once with one value in one state, and what is read off the state afterwards is
what the operation has left there. So the place of the operation in the action is found without
looking into the operation.

* `Delegates f g x s c t` : from `s` the action `x` performs its operation with `c` in the state
  `t`, and reading `f` off the state after it gives what `g` reads off the state after the
  operation.
-/

namespace PinnedRun.Action

variable {σ τ α β γ δ ε : Type} {f : σ → δ} {g : τ → δ} {x : (γ → Action τ β) → Action σ α}
  {s : σ} {c : γ} {t : τ}

/-- Whatever the operation does, what is read off at the end is what the operation has left. -/
def Delegates (f : σ → δ) (g : τ → δ) (x : (γ → Action τ β) → Action σ α) (s : σ) (c : γ)
    (t : τ) : Prop :=
  ∀ operation, f (x operation s).2 = g (operation c t).2

theorem delegates_self (g : τ → δ) (c : γ) (t : τ) :
    Delegates g g (fun operation : γ → Action τ β => operation c) t c t :=
  fun _ => rfl

/-- What is read off may be less. -/
theorem Delegates.map (h : Delegates f g x s c t) (φ : δ → ε) :
    Delegates (fun s => φ (f s)) (fun t => φ (g t)) x s c t :=
  fun operation => congrArg φ (h operation)

theorem Delegates.bind {ρ : Type} (h : Delegates f g x s c t) {y : α → Action σ ρ}
    (hy : ∀ a, Keeps f (y a)) : Delegates f g (fun operation => x operation >>= y) s c t :=
  fun operation => (snd_bind_of_keeps hy s).trans (h operation)

/-- An action that comes before succeeds. -/
theorem Delegates.after {ρ : Type} {y : Action σ ρ} {x : (γ → Action τ β) → ρ → Action σ α} {a : ρ}
    {s' : σ} (hy : y s = (.ok a, s')) (h : Delegates f g (x · a) s' c t) :
    Delegates f g (fun operation => y >>= x operation) s c t := by
  intro operation
  change f ((y >>= x operation) s).2 = g (operation c t).2
  rw [bind_of_ok hy]
  exact h operation

theorem Delegates.handle (h : Delegates f g x s c t) {y : Failure → Action σ α}
    (hy : ∀ e, Keeps f (y e)) : Delegates f g (fun operation => (x operation).handle y) s c t := by
  intro operation
  rw [← h operation]
  exact snd_handle_of_keeps hy s

theorem Delegates.ensure (h : Delegates f g x s c t) {y : Action σ Unit} (hy : Keeps f y) :
    Delegates f g (fun operation => (x operation).ensure y) s c t := by
  intro operation
  rw [← h operation]
  exact snd_ensure_of_keeps hy s

end PinnedRun.Action
