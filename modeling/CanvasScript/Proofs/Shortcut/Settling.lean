import CanvasScript.Proofs.Shortcut.FullyResolved
import CanvasScript.Proofs.Shortcut.Tokens

/-!
# Loops that end

A loop over passes ends when every pass that changes the text makes it lighter, after
fewer passes than the text weighs (`settle_of_lighter`). Substitution ends so when
the text of every key is lighter than the key, and no key is left
(`substitute_of_lighter`); the expansion of wildcards does when their options weigh
nothing, and no token is left that could be resolved (`expand_of_weightless`).
-/

namespace CanvasScript.Shortcut

open Text (weigh)

/-- A loop ends whose passes make every text lighter that they change. -/
theorem untilStable_of_lighter (pass : List Char → Resolving (List Char)) (weight : List Char → Nat) {bound : Nat}
    (step : ∀ text d, weight text ≤ bound → ∃ next e,
      (pass text).run d = (.ok next, e) ∧ (next = text ∨ weight next < weight text))
    (error : ResolveError) (left : Nat) (text : List Char) (d : Draws) (within : weight text ≤ bound)
    (enough : weight text < left) :
    ∃ out e, (untilStable pass error left text).run d = (.ok out, e) ∧ (out = text ∨ weight out < weight text) := by
  induction left generalizing text d with
  | zero => exact absurd enough (Nat.not_lt_zero _)
  | succ left ih =>
    obtain ⟨next, e, here, stays | lighter⟩ := step text d within
    · subst stays
      exact ⟨next, e, run_untilStable_of_stable here error left, .inl rfl⟩
    · have change : next ≠ text := by
        rintro rfl
        exact Nat.lt_irrefl _ lighter
      obtain ⟨out, e', onward, behind⟩ := ih next e (by omega) (by omega)
      refine ⟨out, e', ?_, .inr ?_⟩
      · rw [run_untilStable_of_change here change, onward]
      · rcases behind with rfl | lighter'
        · exact lighter
        · omega

/-- Under a limit such a loop ends with a pass that leaves its text as it is. -/
theorem settle_of_lighter (limit : Limit) (pass : List Char → Resolving (List Char)) (weight : List Char → Nat)
    {bound : Nat}
    (step : ∀ text d, weight text ≤ bound → ∃ next e,
      (pass text).run d = (.ok next, e) ∧ (next = text ∨ weight next < weight text))
    {text : List Char} (within : weight text ≤ bound) (enough : weight text < limit.passes) (d : Draws) :
    ∃ out e, (limit.settle pass text).run d = (.ok out, e) ∧ (out = text ∨ weight out < weight text) ∧
      ∃ e', (pass out).run e' = (.ok out, e) := by
  obtain ⟨out, e, ends, behind⟩ := untilStable_of_lighter pass weight step limit.error limit.passes text d within enough
  rw [← limit.settle_eq] at ends
  exact ⟨out, e, ends, behind, last_pass_of_settle ends⟩

namespace Table

/-- No key of the table occurs in the text. -/
def HasNoKey (table : Table) (text : List Char) : Prop :=
  ∀ entry ∈ table.entries, entry.1 ≠ "" → Text.occurs entry.1.toList text = false

/-- The text of every key is lighter than the key. -/
def IsLighter (table : Table) (weight : Char → Nat) : Prop :=
  ∀ entry ∈ table.entries, entry.1 ≠ "" → weigh weight entry.2.toList < weigh weight entry.1.toList

end Table

variable {weight : Char → Nat} {table : Table} {limit : Limit} {text : List Char}

theorem applyEntry_stays_or_lighter {entry : String × String}
    (lighter : entry.1 ≠ "" → weigh weight entry.2.toList < weigh weight entry.1.toList) (text : List Char) :
    (applyEntry text entry = text ∧ (entry.1 ≠ "" → Text.occurs entry.1.toList text = false)) ∨
      (weigh weight (applyEntry text entry) < weigh weight text ∧
        entry.1 ≠ "" ∧ Text.occurs entry.1.toList text = true) := by
  by_cases empty : entry.1 = ""
  · left
    refine ⟨?_, fun nonempty => absurd empty nonempty⟩
    unfold applyEntry
    rw [empty]
    exact Text.replace_empty _ text
  · rcases Text.replace_stays_or_lighter (lighter empty) text with ⟨stays, missing⟩ | ⟨lighter, found⟩
    · exact .inl ⟨stays, fun _ => missing⟩
    · exact .inr ⟨lighter, empty, found⟩

/-- A pass leaves a text without keys as it is, and makes any other lighter. -/
theorem foldl_applyEntry_stays_or_lighter {entries : List (String × String)}
    (lighter : ∀ entry ∈ entries, entry.1 ≠ "" → weigh weight entry.2.toList < weigh weight entry.1.toList)
    (text : List Char) :
    (entries.foldl applyEntry text = text ∧
        ∀ entry ∈ entries, entry.1 ≠ "" → Text.occurs entry.1.toList text = false) ∨
      (weigh weight (entries.foldl applyEntry text) < weigh weight text ∧
        ∃ entry ∈ entries, entry.1 ≠ "" ∧ Text.occurs entry.1.toList text = true) := by
  induction entries generalizing text with
  | nil => exact .inl ⟨rfl, List.forall_mem_nil _⟩
  | cons entry entries ih =>
    obtain ⟨first, others⟩ := List.forall_mem_cons.1 lighter
    rw [List.foldl_cons]
    rcases applyEntry_stays_or_lighter first text with ⟨stays, missing⟩ | ⟨lighter, nonempty, found⟩
    · rw [stays]
      rcases ih others text with ⟨same, missing'⟩ | ⟨lighter, other, mem, found⟩
      · exact .inl ⟨same, List.forall_mem_cons.2 ⟨missing, missing'⟩⟩
      · exact .inr ⟨lighter, other, List.mem_cons_of_mem entry mem, found⟩
    · right
      refine ⟨?_, entry, List.mem_cons_self, nonempty, found⟩
      rcases ih others (applyEntry text entry) with ⟨same, -⟩ | ⟨lighter', -⟩
      · rw [same]
        exact lighter
      · exact Nat.lt_trans lighter' lighter

theorem substitutePass_stays_or_lighter (lighter : table.IsLighter weight) (text : List Char) :
    (substitutePass table text = text ∧ table.HasNoKey text) ∨
      (weigh weight (substitutePass table text) < weigh weight text ∧ ¬table.HasNoKey text) := by
  rcases foldl_applyEntry_stays_or_lighter lighter text with stays | ⟨lighter, entry, mem, nonempty, found⟩
  · exact .inl stays
  · right
    refine ⟨lighter, fun no_key => ?_⟩
    rw [no_key entry mem nonempty] at found
    cases found

/-- Substitution ends in a text without keys. -/
theorem substitute_of_lighter (lighter : table.IsLighter weight) (enough : weigh weight text < limit.passes)
    (d : Draws) :
    ∃ out, (substitute limit table text).run d = (.ok out, d) ∧
      (out = text ∨ weigh weight out < weigh weight text) ∧ table.HasNoKey out := by
  obtain ⟨out, e, ends, behind, _, last⟩ :=
    settle_of_lighter limit (fun text => pure (substitutePass table text)) (weigh weight)
      (fun text d _ => ⟨substitutePass table text, d, rfl,
        (substitutePass_stays_or_lighter lighter text).imp And.left And.left⟩)
      (Nat.le_refl _) enough d
  have steady : e = d := by
    have same : ((substitute limit table text).run d).2 = d := run_substitute_draws d
    rw [show (substitute limit table text).run d = (.ok out, e) from ends] at same
    exact same
  subst steady
  have stable : substitutePass table out = out := Except.ok.inj (congrArg Prod.fst last)
  refine ⟨out, ends, behind, ?_⟩
  rcases substitutePass_stays_or_lighter lighter out with ⟨-, missing⟩ | ⟨lighter, -⟩
  · exact missing
  · rw [stable] at lighter
    exact absurd lighter (Nat.lt_irrefl _)

/-- The expansion of wildcards ends in a text without tokens that could be resolved. -/
theorem expand_of_weightless (weightless : table.IsWeightless weight) (heavy : 0 < weight '$')
    (enough : weigh weight text < limit.passes) (d : Draws) :
    ∃ out e, (expand limit table text).run d = (.ok out, e) ∧
      (out = text ∨ weigh weight out < weigh weight text) ∧ table.HasNoToken out := by
  have pass_cases := expandFrom_stays_or_lighter weightless heavy 0
  obtain ⟨out, e, ends, behind, e', last⟩ :=
    settle_of_lighter limit (expandPass table) (weigh weight)
      (fun text d _ => ⟨(expandFrom table 0 text d).1, (expandFrom table 0 text d).2, rfl,
        (pass_cases text d).imp (fun stays => congrArg Prod.fst stays.1) And.left⟩)
      (Nat.le_refl _) enough d
  have stable : (expandFrom table 0 out e').1 = out := Except.ok.inj (congrArg Prod.fst last)
  refine ⟨out, e, ends, behind, ?_⟩
  rcases pass_cases out e' with ⟨-, missing⟩ | ⟨lighter, -⟩
  · exact missing
  · rw [stable] at lighter
    exact absurd lighter (Nat.lt_irrefl _)

end CanvasScript.Shortcut
