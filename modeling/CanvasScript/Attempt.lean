/-!
# Computations that may fail

An attempt changes a state and succeeds or fails; the state is kept either way, so
what was done before a failure stays done. The first failure ends an attempt
(`run_bind_error`).
-/

namespace CanvasScript

/-- A computation over a state that fails or gives a result, and leaves a state. -/
def Attempt (σ ε α : Type) : Type := σ → Except ε α × σ

namespace Attempt

/-- The outcome from a state and the state that is left. -/
def run (x : Attempt σ ε α) (s : σ) : Except ε α × σ := x s

protected def pure (a : α) : Attempt σ ε α := fun s => (.ok a, s)

protected def bind (x : Attempt σ ε α) (f : α → Attempt σ ε β) : Attempt σ ε β := fun s =>
  match x s with
  | (.ok a, t) => f a t
  | (.error e, t) => (.error e, t)

instance : Monad (Attempt σ ε) where
  pure := Attempt.pure
  bind := Attempt.bind

/-- The attempt that fails and changes nothing. -/
def fail (e : ε) : Attempt σ ε α := fun s => (.error e, s)

/-- What a function reads off the state. -/
def gets (f : σ → α) : Attempt σ ε α := fun s => (.ok (f s), s)

/-- The state changed by a function. -/
def modify (f : σ → σ) : Attempt σ ε Unit := fun s => (.ok (), f s)

/-- A computation that cannot fail. -/
def ofState (f : σ → α × σ) : Attempt σ ε α := fun s => (.ok (f s).1, (f s).2)

/-- An outcome that is known already. -/
def ofExcept (x : Except ε α) : Attempt σ ε α := fun s => (x, s)

/-- An attempt on a part of the state, its failures being renamed. -/
def onPart (part : σ → τ) (put : σ → τ → σ) (rename : δ → ε) (x : Attempt τ δ α) : Attempt σ ε α := fun s =>
  match x (part s) with
  | (.ok a, t) => (.ok a, put s t)
  | (.error d, t) => (.error (rename d), put s t)

/-- An attempt, its failures being renamed. -/
def mapError (rename : δ → ε) (x : Attempt σ δ α) : Attempt σ ε α := onPart id (fun _ t => t) rename x

/-- The attempt, or what `f` makes of its failure. -/
def orElse (x : Attempt σ ε α) (f : ε → Attempt σ ε α) : Attempt σ ε α := fun s =>
  match x s with
  | (.ok a, t) => (.ok a, t)
  | (.error e, t) => f e t

@[simp] theorem run_pure (a : α) (s : σ) : run (pure a : Attempt σ ε α) s = (.ok a, s) := rfl

@[simp] theorem run_fail (e : ε) (s : σ) : run (fail e : Attempt σ ε α) s = (.error e, s) := rfl

@[simp] theorem run_gets (f : σ → α) (s : σ) : run (gets f : Attempt σ ε α) s = (.ok (f s), s) := rfl

@[simp] theorem run_modify (f : σ → σ) (s : σ) : run (modify f : Attempt σ ε Unit) s = (.ok (), f s) := rfl

theorem run_bind (x : Attempt σ ε α) (f : α → Attempt σ ε β) (s : σ) :
    run (x >>= f) s =
      match run x s with
      | (.ok a, t) => run (f a) t
      | (.error e, t) => (.error e, t) := rfl

/-- After a success the attempt goes on from the state that is left. -/
theorem run_bind_ok {x : Attempt σ ε α} {s t : σ} {a : α} (h : run x s = (.ok a, t))
    (f : α → Attempt σ ε β) : run (x >>= f) s = run (f a) t := by
  rw [run_bind, h]

/-- A failure ends the attempt. -/
theorem run_bind_error {x : Attempt σ ε α} {s t : σ} {e : ε} (h : run x s = (.error e, t))
    (f : α → Attempt σ ε β) : run (x >>= f) s = (.error e, t) := by
  rw [run_bind, h]

theorem id_map (x : Attempt σ ε α) : id <$> x = x := by
  funext s
  show Attempt.bind x (fun a => Attempt.pure (id a)) s = x s
  unfold Attempt.bind Attempt.pure
  rcases x s with ⟨outcome, t⟩
  cases outcome <;> rfl

theorem bind_assoc (x : Attempt σ ε α) (f : α → Attempt σ ε β) (g : β → Attempt σ ε γ) :
    x >>= f >>= g = x >>= fun a => f a >>= g := by
  funext s
  show Attempt.bind (Attempt.bind x f) g s = Attempt.bind x (fun a => Attempt.bind (f a) g) s
  unfold Attempt.bind
  rcases x s with ⟨outcome, t⟩
  cases outcome <;> rfl

instance : LawfulMonad (Attempt σ ε) :=
  LawfulMonad.mk' _ id_map (fun _ _ => rfl) bind_assoc

end Attempt

end CanvasScript
