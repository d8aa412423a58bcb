import PinnedRun.Action

/-!
# Actions in lockstep

Two actions are in *lockstep* along a relation between their states if from related states they come
to the same end, in related states again. Runs that differ in something are compared by saying once
how their states are related: lockstep goes through every way of putting actions together.

* `Lockstep R x y` : the actions `x` and `y` are in lockstep along `R`;
* `Keeps f x` : the action `x` leaves alone what `f` reads off the state;
* `Preserves P x` : what holds by `P` of the state before the action `x` holds afterwards.
-/

namespace PinnedRun

namespace Action

variable {σ τ α β γ : Type} {R : σ → τ → Prop}

/-- From related states both actions come to the same end, in related states. -/
def Lockstep (R : σ → τ → Prop) (x : Action σ α) (y : Action τ α) : Prop :=
  ∀ s t, R s t → (x s).1 = (y t).1 ∧ R (x s).2 (y t).2

theorem lockstep_pure (a : α) : Lockstep R (pure a : Action σ α) (pure a) :=
  fun _ _ h => ⟨rfl, h⟩

theorem lockstep_fail (e : Failure) : Lockstep R (fail e : Action σ α) (fail e) :=
  fun _ _ h => ⟨rfl, h⟩

theorem Lockstep.bind {x : Action σ α} {y : Action τ α} {f : α → Action σ β}
    {g : α → Action τ β} (hx : Lockstep R x y) (hf : ∀ a, Lockstep R (f a) (g a)) :
    Lockstep R (x >>= f) (y >>= g) := by
  intro s t h
  obtain ⟨he, hr⟩ := hx s t h
  simp only [bind_apply]
  generalize x s = p, y t = q at *
  obtain ⟨r, s'⟩ := p
  obtain ⟨r', t'⟩ := q
  obtain rfl : r = r' := he
  cases r with
  | ok a => exact hf a _ _ hr
  | error e => exact ⟨rfl, hr⟩

theorem Lockstep.handle {x : Action σ α} {y : Action τ α} {f : Failure → Action σ α}
    {g : Failure → Action τ α} (hx : Lockstep R x y) (hf : ∀ e, Lockstep R (f e) (g e)) :
    Lockstep R (x.handle f) (y.handle g) := by
  intro s t h
  obtain ⟨he, hr⟩ := hx s t h
  simp only [handle_apply]
  generalize x s = p, y t = q at *
  obtain ⟨r, s'⟩ := p
  obtain ⟨r', t'⟩ := q
  obtain rfl : r = r' := he
  cases r with
  | ok a => exact ⟨rfl, hr⟩
  | error e => exact hf e _ _ hr

theorem Lockstep.ensure {x : Action σ α} {y : Action τ α} {f : Action σ Unit}
    {g : Action τ Unit} (hx : Lockstep R x y) (hf : Lockstep R f g) :
    Lockstep R (x.ensure f) (y.ensure g) := by
  intro s t h
  obtain ⟨he, hr⟩ := hx s t h
  obtain ⟨he', hr'⟩ := hf _ _ hr
  simp only [ensure_apply]
  generalize f (x s).2 = p, g (y t).2 = q at *
  obtain ⟨r, s'⟩ := p
  obtain ⟨r', t'⟩ := q
  obtain rfl : r = r' := he'
  cases r with
  | ok _ => exact ⟨he, hr'⟩
  | error e => exact ⟨rfl, hr'⟩

theorem Lockstep.ite {p : Prop} [Decidable p] {x x' : Action σ α} {y y' : Action τ α}
    (h : Lockstep R x y) (h' : Lockstep R x' y') :
    Lockstep R (if p then x else x') (if p then y else y') := by
  split
  · exact h
  · exact h'

/-! ### What an action leaves alone -/

/-- The action leaves alone what `f` reads off the state. -/
def Keeps (f : σ → γ) (x : Action σ α) : Prop := ∀ s, f (x s).2 = f s

variable {f : σ → γ}

theorem keeps_pure (a : α) : Keeps f (pure a : Action σ α) := fun _ => rfl

theorem keeps_change {g : σ → σ} (h : ∀ s, f (g s) = f s) : Keeps f (change g) := h

/-- What comes after an action and leaves something alone leaves it as the action left it. -/
theorem snd_bind_of_keeps {x : Action σ α} {y : α → Action σ β} (hy : ∀ a, Keeps f (y a)) (s : σ) :
    f ((x >>= y) s).2 = f (x s).2 := by
  simp only [bind_apply]
  generalize x s = p
  obtain ⟨e | a, s'⟩ := p
  · rfl
  · exact hy a s'

theorem snd_handle_of_keeps {x : Action σ α} {y : Failure → Action σ α} (hy : ∀ e, Keeps f (y e))
    (s : σ) : f (x.handle y s).2 = f (x s).2 := by
  rw [handle_apply]
  generalize x s = p
  obtain ⟨e | a, s'⟩ := p
  · exact hy e s'
  · rfl

theorem snd_ensure_of_keeps {x : Action σ α} {y : Action σ Unit} (hy : Keeps f y) (s : σ) :
    f (x.ensure y s).2 = f (x s).2 := by
  rw [← hy (x s).2, ensure_apply]
  generalize y (x s).2 = p
  obtain ⟨e | a, s'⟩ := p <;> rfl

theorem Keeps.bind {x : Action σ α} {y : α → Action σ β} (hx : Keeps f x)
    (hy : ∀ a, Keeps f (y a)) : Keeps f (x >>= y) :=
  fun s => (snd_bind_of_keeps hy s).trans (hx s)

theorem Keeps.handle {x : Action σ α} {y : Failure → Action σ α} (hx : Keeps f x)
    (hy : ∀ e, Keeps f (y e)) : Keeps f (x.handle y) :=
  fun s => (snd_handle_of_keeps hy s).trans (hx s)

theorem Keeps.ite {p : Prop} [Decidable p] {x y : Action σ α} (hx : Keeps f x)
    (hy : Keeps f y) : Keeps f (if p then x else y) := by
  split
  · exact hx
  · exact hy

/-- Where `P` holds before the action it holds afterwards, whichever way the action ends. -/
def Preserves (P : σ → Prop) (x : Action σ α) : Prop := ∀ s, P s → P (x s).2

variable {P : σ → Prop}

theorem preserves_pure (a : α) : Preserves P (pure a : Action σ α) := fun _ h => h

theorem preserves_fail (e : Failure) : Preserves P (fail e : Action σ α) := fun _ h => h

theorem preserves_change {g : σ → σ} (h : ∀ s, P s → P (g s)) : Preserves P (change g) := h

/-- What is said of something that an action leaves alone goes on holding. -/
theorem Keeps.preserves {x : Action σ α} (h : Keeps f x) {Q : γ → Prop} :
    Preserves (fun s => Q (f s)) x :=
  fun s hs => cast (congrArg Q (h s).symm) hs

theorem Preserves.bind {x : Action σ α} {y : α → Action σ β} (hx : Preserves P x)
    (hy : ∀ a, Preserves P (y a)) : Preserves P (x >>= y) := by
  intro s h
  have h := hx s h
  simp only [bind_apply]
  generalize x s = p at *
  obtain ⟨e | a, s'⟩ := p
  · exact h
  · exact hy a s' h

theorem Preserves.handle {x : Action σ α} {y : Failure → Action σ α} (hx : Preserves P x)
    (hy : ∀ e, Preserves P (y e)) : Preserves P (x.handle y) := by
  intro s h
  have h := hx s h
  rw [handle_apply]
  generalize x s = p at *
  obtain ⟨e | a, s'⟩ := p
  · exact hy e s' h
  · exact h

theorem Preserves.ensure {x : Action σ α} {y : Action σ Unit} (hx : Preserves P x)
    (hy : Preserves P y) : Preserves P (x.ensure y) := by
  intro s h
  have h := hy _ (hx s h)
  rw [ensure_apply]
  generalize y (x s).2 = p at *
  obtain ⟨e | a, s'⟩ := p <;> exact h

theorem Preserves.ite {p : Prop} [Decidable p] {x y : Action σ α} (hx : Preserves P x)
    (hy : Preserves P y) : Preserves P (if p then x else y) := by
  split
  · exact hx
  · exact hy

end Action

end PinnedRun
