/-!
# When computations succeed

A computation that may fail succeeds when all its parts do. `bind_isOk_iff` opens one
step; the others follow from it, so that the success of a reader can be read off its
text.
-/

namespace CanvasScript.Outcome

variable {x : Except ε α} {f : α → Except ε β}

theorem bind_isOk_iff : (∃ b, (x >>= f) = .ok b) ↔ ∃ a, x = .ok a ∧ ∃ b, f a = .ok b := by
  cases x <;> simp [bind, Except.bind]

theorem bind_eq_ok_iff {b : β} : (x >>= f) = .ok b ↔ ∃ a, x = .ok a ∧ f a = .ok b := by
  cases x <;> simp [bind, Except.bind]

/-- What a constructor makes of a result is there when the result is. -/
theorem map_isOk_iff {make : α → β} : (∃ b, make <$> x = .ok b) ↔ ∃ a, x = .ok a := by
  cases x <;> simp [Functor.map, Except.map]

/-- Going through a list succeeds when it does at every element. -/
theorem mapM_isOk_iff {list : List α} :
    (∃ results, list.mapM f = .ok results) ↔ ∀ a ∈ list, ∃ b, f a = .ok b := by
  induction list with
  | nil => simp [pure, Except.pure]
  | cons a list ih =>
    rw [List.mapM_cons, bind_isOk_iff, List.forall_mem_cons, ← ih]
    simp only [bind_isOk_iff, pure, Except.pure, Except.ok.injEq, exists_eq', and_true, exists_and_right]

theorem forM_isOk_iff {check : α → Except ε PUnit} {list : List α} :
    (∃ done, list.forM check = .ok done) ↔ ∀ a ∈ list, ∃ done, check a = .ok done := by
  induction list with
  | nil => exact ⟨fun _ => List.forall_mem_nil _, fun _ => ⟨⟨⟩, rfl⟩⟩
  | cons a list ih =>
    rw [List.forall_mem_cons, ← ih]
    show (∃ done, (do check a; list.forM check) = .ok done) ↔ _
    rw [bind_isOk_iff, exists_and_right]

/-- Giving another error does not make a success. -/
theorem mapError_eq_ok_iff {g : ε → δ} {a : α} : x.mapError g = .ok a ↔ x = .ok a := by
  cases x with
  | error e => exact ⟨nofun, nofun⟩
  | ok b => constructor <;> rintro ⟨⟩ <;> rfl

end CanvasScript.Outcome
