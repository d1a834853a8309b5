import CanvasScript.Attempt
import Mathlib.Order.Defs.Unbundled

/-!
# Outcomes of attempts

An attempt in two steps succeeds when both do, and fails when one of them does
(`run_bind_eq_ok_iff`, `run_bind_eq_error_iff`). Whether it succeeds or fails, an attempt
that is made of parts that move the state within a preorder moves it within that
preorder (`Within`). What an attempt leaves may also be told from what it starts from, for
a success and for a failure (`Ensures`). An attempt that does not notice a change of the state
comes out as without it (`Commutes`).
-/

namespace CanvasScript.Attempt

section Outcomes

variable {x : Attempt σ ε α} {f : α → Attempt σ ε β} {s t : σ}

theorem run_bind_eq_ok_iff {b : β} :
    (x >>= f).run s = (.ok b, t) ↔ ∃ a u, x.run s = (.ok a, u) ∧ (f a).run u = (.ok b, t) := by
  rw [run_bind]
  rcases x.run s with ⟨outcome, u⟩
  cases outcome <;> simp [and_assoc]

theorem run_bind_eq_error_iff {e : ε} :
    (x >>= f).run s = (.error e, t) ↔
      x.run s = (.error e, t) ∨ ∃ a u, x.run s = (.ok a, u) ∧ (f a).run u = (.error e, t) := by
  rw [run_bind]
  rcases x.run s with ⟨outcome, u⟩
  cases outcome <;> simp [and_assoc]

/-- What a function makes of a result is there when the result is. -/
theorem run_bind_pure_eq_ok_iff {g : α → β} {b : β} :
    (x >>= fun a => pure (g a)).run s = (.ok b, t) ↔ ∃ a, x.run s = (.ok a, t) ∧ g a = b := by
  rw [run_bind_eq_ok_iff]
  constructor
  · rintro ⟨a, u, first, ⟨⟩⟩
    exact ⟨a, first, rfl⟩
  · rintro ⟨a, first, rfl⟩
    exact ⟨a, t, first, rfl⟩

theorem run_bind_pure_eq_error_iff {g : α → β} {e : ε} :
    (x >>= fun a => pure (g a)).run s = (.error e, t) ↔ x.run s = (.error e, t) := by
  rw [run_bind]
  rcases x.run s with ⟨outcome, u⟩
  cases outcome <;> simp

/-- An action that succeeds leaves what it leaves. -/
theorem run_eq_of_isOk {x : Attempt σ ε Unit} (ok : (x.run s).1.isOk = true) : x.run s = (.ok (), (x.run s).2) := by
  rcases ends : x.run s with ⟨_ | _, t⟩
  · rw [ends] at ok
    cases ok
  · rfl

theorem run_onPart {part : σ → τ} {put : σ → τ → σ} {rename : δ → ε} (x : Attempt τ δ α) (s : σ) :
    (onPart part put rename x).run s =
      match x.run (part s) with
      | (.ok a, t) => (.ok a, put s t)
      | (.error d, t) => (.error (rename d), put s t) := by
  unfold run onPart
  rcases x (part s) with ⟨_ | a, t⟩ <;> rfl

theorem run_orElse {g : ε → Attempt σ ε α} (x : Attempt σ ε α) (s : σ) :
    (x.orElse g).run s =
      match x.run s with
      | (.ok a, t) => (.ok a, t)
      | (.error e, t) => (g e).run t := rfl

end Outcomes

/-- All that an attempt succeeds with has the property. -/
def Gives (Q : α → Prop) (x : Attempt σ ε α) : Prop := ∀ s a t, x.run s = (.ok a, t) → Q a

/-- An attempt leaves a state that is related to the one it started from. -/
def Within (R : σ → σ → Prop) (x : Attempt σ ε α) : Prop := ∀ s, R s (x.run s).2

namespace Gives

variable {Q : β → Prop} {x : Attempt σ ε α} {f : α → Attempt σ ε β}

protected theorem pure {Q : α → Prop} {a : α} (h : Q a) : Gives Q (pure a : Attempt σ ε α) := by
  rintro s b t ⟨⟩
  exact h

/-- What the last step gives is given. -/
theorem bind (second : ∀ a, Gives Q (f a)) : Gives Q (x >>= f) := by
  intro s b t ends
  obtain ⟨a, u, -, behind⟩ := run_bind_eq_ok_iff.1 ends
  exact second a u b t behind

theorem onPart {Q : α → Prop} {x : Attempt τ δ α} (h : Gives Q x) (part : σ → τ) (put : σ → τ → σ)
    (rename : δ → ε) : Gives Q (onPart part put rename x) := by
  intro s a t ends
  rw [run_onPart] at ends
  rcases here : x.run (part s) with ⟨_ | b, u⟩
  · rw [here] at ends
    cases ends
  · rw [here] at ends
    cases ends
    exact h (part s) a u here

end Gives

namespace Within

variable {R : σ → σ → Prop} [IsPreorder σ R] {x : Attempt σ ε α} {f : α → Attempt σ ε β}

omit [IsPreorder σ R] in
/-- What an attempt leaves is related to what it started from. -/
theorem of_run {outcome : Except ε α} {s t : σ} (kept : Within R x) (ends : x.run s = (outcome, t)) : R s t := by
  have here := kept s
  rw [ends] at here
  exact here

protected theorem pure (a : α) : Within R (pure a : Attempt σ ε α) := fun s => refl_of R s

theorem fail (e : ε) : Within R (fail e : Attempt σ ε α) := fun s => refl_of R s

theorem gets (g : σ → α) : Within R (gets g : Attempt σ ε α) := fun s => refl_of R s

theorem ofExcept (outcome : Except ε α) : Within R (ofExcept outcome) := fun s => refl_of R s

omit [IsPreorder σ R] in
theorem modify {g : σ → σ} (h : ∀ s, R s (g s)) : Within R (modify g : Attempt σ ε Unit) := h

/-- The second step may rely on what the first one gives. -/
theorem bind_of_gives {Q : α → Prop} (first : Within R x) (gives : Gives Q x) (second : ∀ a, Q a → Within R (f a)) :
    Within R (x >>= f) := by
  intro s
  rw [run_bind]
  rcases ends : x.run s with ⟨_ | a, u⟩
  · exact first.of_run ends
  · exact trans_of R (first.of_run ends) (second a (gives s a u ends) u)

theorem bind (first : Within R x) (second : ∀ a, Within R (f a)) : Within R (x >>= f) :=
  first.bind_of_gives (fun _ _ _ _ => trivial) fun a _ => second a

theorem orElse {g : ε → Attempt σ ε α} (first : Within R x) (second : ∀ e, Within R (g e)) :
    Within R (x.orElse g) := by
  intro s
  rw [run_orElse]
  rcases ends : x.run s with ⟨e | a, u⟩
  · exact trans_of R (first.of_run ends) (second e u)
  · exact first.of_run ends

theorem forM {list : List α} {g : α → Attempt σ ε PUnit} (each : ∀ a ∈ list, Within R (g a)) :
    Within R (list.forM g) := by
  induction list with
  | nil => exact .pure _
  | cons a list ih =>
    obtain ⟨here, later⟩ := List.forall_mem_cons.1 each
    exact here.bind fun _ => ih later

omit [IsPreorder σ R] in
theorem onPart {S : τ → τ → Prop} {x : Attempt τ δ α} (h : Within S x) {part : σ → τ} {put : σ → τ → σ}
    (lift : ∀ s t, S (part s) t → R s (put s t)) (rename : δ → ε) : Within R (onPart part put rename x) := by
  intro s
  rw [run_onPart]
  rcases ends : x.run (part s) with ⟨_ | a, u⟩
  · exact lift s u (h.of_run ends)
  · exact lift s u (h.of_run ends)

omit [IsPreorder σ R] in
/-- Whatever is done to a part is within a relation that does not regard it. -/
theorem onPart_of_forall {part : σ → τ} {put : σ → τ → σ} (lift : ∀ s t, R s (put s t)) (rename : δ → ε)
    (x : Attempt τ δ α) : Within R (Attempt.onPart part put rename x) :=
  have anything : x.Within fun _ _ => True := fun _ => trivial
  anything.onPart (fun s t _ => lift s t) rename

end Within

/-- A property is kept between two states. -/
def Kept (P : σ → Prop) (before after : σ) : Prop := P before → P after

instance {P : σ → Prop} : IsPreorder σ (Kept P) where
  refl _ holds := holds
  trans _ _ _ first second holds := second (first holds)

/-- From a state with a property an attempt leaves one with a property of what it gives, or
one with another property if it fails. -/
def Ensures (P : σ → Prop) (x : Attempt σ ε α) (Q : α → σ → Prop) (E : σ → Prop) : Prop :=
  ∀ s, P s →
    match x.run s with
    | (.ok a, t) => Q a t
    | (.error _, t) => E t

namespace Ensures

variable {P E : σ → Prop} {Q : α → σ → Prop} {R : β → σ → Prop} {x : Attempt σ ε α} {f : α → Attempt σ ε β}

/-- The second step starts from what the first one leaves. -/
theorem bind (first : Ensures P x Q E) (second : ∀ a, Ensures (Q a) (f a) R E) : Ensures P (x >>= f) R E := by
  intro s holds
  have here := first s holds
  rw [run_bind]
  rcases ends : x.run s with ⟨_ | a, t⟩
  · rw [ends] at here
    exact here
  · rw [ends] at here
    exact second a t here

/-- What is made of a failure starts from what that leaves. -/
theorem orElse {P' : σ → Prop} {Q : α → σ → Prop} {x : Attempt σ ε α} {g : ε → Attempt σ ε α}
    (first : Ensures P x Q P') (second : ∀ e, Ensures P' (g e) Q E) : Ensures P (x.orElse g) Q E := by
  intro s holds
  have here := first s holds
  rw [run_orElse]
  rcases ends : x.run s with ⟨e | a, t⟩
  · rw [ends] at here
    exact second e t here
  · rw [ends] at here
    exact here

/-- An attempt that cannot fail succeeds. -/
theorem exists_ok (ensures : Ensures P x Q fun _ => False) {s : σ} (holds : P s) :
    ∃ a t, x.run s = (.ok a, t) ∧ Q a t := by
  have here := ensures s holds
  rcases ends : x.run s with ⟨_ | a, t⟩ <;> rw [ends] at here
  · exact here.elim
  · exact ⟨a, t, rfl, here⟩

/-- What holds after a success and after a failure holds after the attempt. -/
theorem run (ensures : Ensures P x (fun _ => E) E) {s : σ} (holds : P s) : E (x.run s).2 := by
  have here := ensures s holds
  rcases ends : x.run s with ⟨_ | a, t⟩ <;> rw [ends] at here <;> exact here

end Ensures

/-- From a state with a property an attempt comes out as from the state that is changed, and leaves
that changed alike. -/
def Commutes (P : σ → Prop) (change : σ → σ) (x : Attempt σ ε α) : Prop :=
  ∀ s, P s → x.run (change s) = ((x.run s).1, change (x.run s).2) ∧ P (x.run s).2

namespace Commutes

variable {P : σ → Prop} {change : σ → σ} {x : Attempt σ ε α} {f : α → Attempt σ ε β}

protected theorem pure (a : α) : Commutes P change (pure a : Attempt σ ε α) := fun _ holds => ⟨rfl, holds⟩

theorem fail (e : ε) : Commutes P change (fail e : Attempt σ ε α) := fun _ holds => ⟨rfl, holds⟩

theorem ofExcept (outcome : Except ε α) : Commutes P change (ofExcept outcome) := fun _ holds => ⟨rfl, holds⟩

theorem gets {g : σ → α} (blind : ∀ s, g (change s) = g s) : Commutes P change (gets g : Attempt σ ε α) := by
  intro s holds
  exact ⟨by rw [run_gets, blind]; rfl, holds⟩

theorem modify {g : σ → σ} (commutes : ∀ s, g (change s) = change (g s)) (kept : ∀ s, P s → P (g s)) :
    Commutes P change (modify g : Attempt σ ε Unit) := by
  intro s holds
  exact ⟨by rw [run_modify, commutes]; rfl, kept s holds⟩

theorem bind (first : Commutes P change x) (second : ∀ a, Commutes P change (f a)) :
    Commutes P change (x >>= f) := by
  intro s holds
  obtain ⟨same, kept⟩ := first s holds
  rw [run_bind, run_bind, same]
  rcases ends : x.run s with ⟨e | a, t⟩
  · rw [ends] at kept
    exact ⟨rfl, kept⟩
  · rw [ends] at kept
    exact second a t kept

theorem orElse {g : ε → Attempt σ ε α} (first : Commutes P change x) (second : ∀ e, Commutes P change (g e)) :
    Commutes P change (x.orElse g) := by
  intro s holds
  obtain ⟨same, kept⟩ := first s holds
  rw [run_orElse, run_orElse, same]
  rcases ends : x.run s with ⟨e | a, t⟩
  · rw [ends] at kept
    exact second e t kept
  · rw [ends] at kept
    exact ⟨rfl, kept⟩

end Commutes

end CanvasScript.Attempt
