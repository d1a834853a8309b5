import CanvasScript.Proofs.Attempt
import CanvasScript.Proofs.Shortcut.FullyResolved
import Mathlib.Logic.Function.Iterate

/-!
# What a cap does

A cap only cuts off: what is resolved under a limit comes out the same under every
larger one, draw for draw, and what is not resolved fails with the error of the limit
(`CutsOff`). This holds of a loop over passes when it holds of each pass, so also of
prompts, whose rounds have loops of their own under the same limit. A loop whose
passes draw nothing ends in time exactly when fewer of its passes change the text than
the limit allows (`run_settling_pure_iff`).
-/

namespace CanvasScript.Shortcut

/-- A larger limit changes no result, and every failure is that of the limit. -/
structure CutsOff (resolve : Limit → Resolving α) : Prop where
  more : ∀ {limit larger d a d'}, limit.passes ≤ larger.passes →
    (resolve limit).run d = (.ok a, d') → (resolve larger).run d = (.ok a, d')
  error_eq : ∀ {limit d e d'}, (resolve limit).run d = (.error e, d') → e = limit.error

namespace CutsOff

/-- What cannot fail does not depend on a limit. -/
theorem ofState (f : Draws → α × Draws) : CutsOff fun _ => .ofState f where
  more _ resolved := resolved
  error_eq failed := by cases failed

theorem bind {x : Limit → Resolving α} {f : Limit → α → Resolving β} (first : CutsOff x)
    (second : ∀ a, CutsOff fun limit => f limit a) : CutsOff fun limit => x limit >>= f limit where
  more le resolved := by
    obtain ⟨a, u, here, behind⟩ := Attempt.run_bind_eq_ok_iff.1 resolved
    exact Attempt.run_bind_eq_ok_iff.2 ⟨a, u, first.more le here, (second a).more le behind⟩
  error_eq failed := by
    rcases Attempt.run_bind_eq_error_iff.1 failed with here | ⟨a, u, -, behind⟩
    · exact first.error_eq here
    · exact (second a).error_eq behind

variable {pass : Limit → List Char → Resolving (List Char)} {limit larger : Limit} {text out : List Char}
  {d d' : Draws}

theorem more_untilStable (passes : ∀ text, CutsOff fun limit => pass limit text)
    (le : limit.passes ≤ larger.passes) {left right : Nat} (left_le : left ≤ right)
    (resolved : (untilStable (pass limit) limit.error left text).run d = (.ok out, d')) :
    (untilStable (pass larger) larger.error right text).run d = (.ok out, d') := by
  induction left generalizing right text d with
  | zero => cases resolved
  | succ left ih =>
    obtain ⟨right, rfl⟩ := Nat.exists_eq_add_of_le' (Nat.lt_of_lt_of_le (Nat.succ_pos left) left_le)
    obtain ⟨next, e, here, onward⟩ := Attempt.run_bind_eq_ok_iff.1 resolved
    refine Attempt.run_bind_eq_ok_iff.2 ⟨next, e, (passes text).more le here, ?_⟩
    by_cases stable : next = text
    · rw [if_pos stable] at onward ⊢
      exact onward
    · rw [if_neg stable] at onward ⊢
      exact ih (by omega) onward

theorem error_eq_untilStable (passes : ∀ text, CutsOff fun limit => pass limit text) {left : Nat}
    {e : ResolveError} (failed : (untilStable (pass limit) limit.error left text).run d = (.error e, d')) :
    e = limit.error := by
  induction left generalizing text d with
  | zero =>
    cases failed
    rfl
  | succ left ih =>
    rcases Attempt.run_bind_eq_error_iff.1 failed with here | ⟨next, u, -, onward⟩
    · exact (passes text).error_eq here
    · by_cases stable : next = text
      · rw [if_pos stable] at onward
        cases onward
      · rw [if_neg stable] at onward
        exact ih onward

/-- A loop under a limit is cut off by it when each of its passes is. -/
theorem settle (passes : ∀ text, CutsOff fun limit => pass limit text) (text : List Char) :
    CutsOff fun limit => limit.settle (pass limit) text where
  more le resolved := by
    rw [Limit.settle_eq] at resolved ⊢
    exact more_untilStable passes le le resolved
  error_eq failed := by
    rw [Limit.settle_eq] at failed
    exact error_eq_untilStable passes failed

end CutsOff

theorem cutsOff_substitute (table : Table) (text : List Char) : CutsOff fun limit => substitute limit table text :=
  .settle (fun text => .ofState fun d => (substitutePass table text, d)) text

theorem cutsOff_expand (table : Table) (text : List Char) : CutsOff fun limit => expand limit table text :=
  .settle (fun text => .ofState (expandFrom table 0 text)) text

/-- A prompt under a limit of its own. -/
def promptWithin (tables : Tables) (text : List Char) (limit : Limit) : Resolving (List Char) :=
  limit.settle (fun text => do expand limit tables.wildcards (← substitute limit tables.triggers text)) text

theorem cutsOff_promptWithin (tables : Tables) (text : List Char) : CutsOff (promptWithin tables text) :=
  .settle (fun text => .bind (cutsOff_substitute tables.triggers text) (cutsOff_expand tables.wildcards)) text

section Counting

variable {f : List Char → List Char} {error : ResolveError} {text out : List Char} {d d' : Draws}

/-- So many passes change the text one after the other, and a further one does not. -/
def SettlesAfter (f : List Char → List Char) (text : List Char) (changes : Nat) : Prop :=
  (∀ i < changes, f^[i + 1] text ≠ f^[i] text) ∧ f^[changes + 1] text = f^[changes] text

theorem settlesAfter_zero_iff : SettlesAfter f text 0 ↔ f text = text := by
  simp [SettlesAfter]

theorem settlesAfter_succ_iff {changes : Nat} :
    SettlesAfter f text (changes + 1) ↔ f text ≠ text ∧ SettlesAfter f (f text) changes := by
  unfold SettlesAfter
  rw [Nat.forall_lt_succ_left, and_assoc]
  rfl

/-- A loop whose passes draw nothing ends when fewer passes than are left change the text. -/
theorem run_settling_pure_iff {left : Nat} :
    (settling (fun text d => (f text, d)) error left text).run d = (.ok out, d') ↔
      d' = d ∧ ∃ changes < left, SettlesAfter f text changes ∧ out = f^[changes] text := by
  induction left generalizing text with
  | zero => simp [settling, untilStable]
  | succ left ih =>
    rw [run_settling_succ, Nat.exists_lt_succ_left, settlesAfter_zero_iff]
    by_cases stable : f text = text
    · simp [settlesAfter_succ_iff, stable, eq_comm, and_comm]
    · rw [if_neg stable, ih]
      simp [settlesAfter_succ_iff, stable]

end Counting

/-- Substitution succeeds when fewer passes than its limit allows change the text, and draws nothing. -/
theorem run_substitute_eq_ok_iff {limit : Limit} {table : Table} {text out : List Char} {d d' : Draws} :
    (substitute limit table text).run d = (.ok out, d') ↔
      d' = d ∧ ∃ changes < limit.passes,
        SettlesAfter (substitutePass table) text changes ∧ out = (substitutePass table)^[changes] text := by
  rw [substitute_eq_settling]
  exact run_settling_pure_iff

/-- What is resolved under a cap comes out the same, draw for draw, under every greater
one and without any; what is not resolved is said to change still after as many passes
as the cap allows, which are one at least. -/
structure CapCutsOff (resolve : (cap : Option Nat) → (fuel : Nat) → Resolving (List Char)) : Prop where
  ok : ∀ {n fuel d out d'}, (resolve (some n) fuel).run d = (.ok out, d') →
    (∀ m fuel', n ≤ m → (resolve (some m) fuel').run d = (.ok out, d')) ∧
      ∀ fuel', max 1 n ≤ fuel' → (resolve none fuel').run d = (.ok out, d')
  error : ∀ {n fuel d e d'}, (resolve (some n) fuel).run d = (.error e, d') → e = .didNotConverge (max 1 n)

theorem CutsOff.ofCap {resolve : Limit → Resolving (List Char)} (h : CutsOff resolve) :
    CapCutsOff fun cap fuel => resolve (.ofCap fuel cap) where
  ok {n _ _ _ _} resolved := by
    constructor
    · intro m fuel' n_le
      refine h.more ?_ resolved
      show max 1 n ≤ max 1 m
      omega
    · intro fuel' le
      refine h.more ?_ resolved
      exact le
  error failed := h.error_eq failed

/-- **A cap only ever cuts off** substitution, the expansion of wildcards and prompts.
Substitution succeeds under a cap exactly when fewer passes than it allows change the
text before one leaves it as it is. -/
theorem cap_only_cuts_off (tables : Tables) (table : Table) (text : List Char) :
    CapCutsOff (fun cap fuel => substitute (.ofCap fuel cap) table text) ∧
      CapCutsOff (fun cap fuel => expand (.ofCap fuel cap) table text) ∧
      CapCutsOff (fun cap fuel => Resolver.prompt { tables, cap, fuel } text) ∧
      ∀ n fuel d out d', (substitute (.ofCap fuel (some n)) table text).run d = (.ok out, d') ↔
        d' = d ∧ ∃ changes < max 1 n,
          SettlesAfter (substitutePass table) text changes ∧ out = (substitutePass table)^[changes] text :=
  ⟨(cutsOff_substitute table text).ofCap, (cutsOff_expand table text).ofCap,
    (cutsOff_promptWithin tables text).ofCap, fun _ _ _ _ _ => run_substitute_eq_ok_iff⟩

/-- A chain of two keys, the second in front. -/
def chain : Table := .ofList [("@b", "c"), ("@a", "@b")]

/-- Two passes change the text of the first key: a cap of three is enough, and one of two is not. -/
theorem cap_only_cuts_off_chain :
    let d := Draws.ofSource fun _ => 0
    (substitute (.ofCap 0 (some 3)) chain ['@', 'a']).run d = (.ok ['c'], d) ∧
      (substitute (.ofCap 3 none) chain ['@', 'a']).run d = (.ok ['c'], d) ∧
      ((substitute (.ofCap 0 (some 2)) chain ['@', 'a']).run d).1 = .error (.didNotConverge 2) := by
  intro d
  obtain ⟨cut, -, -, ok_iff⟩ := cap_only_cuts_off .empty chain ['@', 'a']
  have first : substitutePass chain ['@', 'a'] = ['@', 'b'] := by decide +kernel
  have second : substitutePass chain ['@', 'b'] = ['c'] := by decide +kernel
  have stable : substitutePass chain ['c'] = ['c'] := by decide +kernel
  have resolved : (substitute (.ofCap 0 (some 3)) chain ['@', 'a']).run d = (.ok ['c'], d) := by
    refine (ok_iff 3 0 d ['c'] d).2 ⟨rfl, 2, by decide, ?_, ?_⟩
    · simp [settlesAfter_succ_iff, settlesAfter_zero_iff, first, second, stable]
    · simp [first, second]
  refine ⟨resolved, (cut.ok resolved).2 3 (by decide), ?_⟩
  rcases result : (substitute (.ofCap 0 (some 2)) chain ['@', 'a']).run d with ⟨_ | out, d'⟩
  · rw [cut.error result]
    rfl
  · obtain ⟨-, changes, few, settles, -⟩ := (ok_iff 2 0 d out d').1 result
    have few : changes = 0 ∨ changes = 1 := by omega
    rcases few with rfl | rfl <;>
      simp [settlesAfter_succ_iff, settlesAfter_zero_iff, first, second] at settles

end CanvasScript.Shortcut
