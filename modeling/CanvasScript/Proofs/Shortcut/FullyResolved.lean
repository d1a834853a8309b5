import CanvasScript.Proofs.Draws.Locality
import CanvasScript.Proofs.Shortcut.Passes
import CanvasScript.Shortcut.Resolver

/-!
# Prompts that are fully resolved

A prompt settles when a round of triggers and then wildcards gives it back. That
says little about the two alone: wildcards may undo what triggers did, and a draw
may bring back the token it replaced. `Resolver.prompt_fullyResolved_iff` tells when
neither of them changes the result: when one pass of each leaves it as it is.
-/

namespace CanvasScript.Shortcut

section Settling

variable {pass : List Char → Resolving (List Char)} {error : ResolveError} {left : Nat} {text out : List Char}
  {d d' : Draws}

/-- The last pass over a text that settled left it as it is. -/
theorem last_pass_of_untilStable (h : (untilStable pass error left text).run d = (.ok out, d')) :
    ∃ e, (pass out).run e = (.ok out, d') := by
  induction left generalizing text d with
  | zero => cases h
  | succ left ih =>
    rw [untilStable, Attempt.run_bind] at h
    split at h
    · rename_i next e here
      by_cases same : next = text
      · rw [if_pos same] at h
        cases h
        exact ⟨d, same ▸ here⟩
      · rw [if_neg same] at h
        exact ih h
    · cases h

theorem last_pass_of_settle {limit : Limit} (h : (limit.settle pass text).run d = (.ok out, d')) :
    ∃ e, (pass out).run e = (.ok out, d') := by
  rw [limit.settle_eq] at h
  exact last_pass_of_untilStable h

end Settling

section Substitution

variable {limit : Limit} {table : Table} {text out : List Char}

/-- Substitution draws nothing. -/
theorem run_substitute_draws (d : Draws) : ((substitute limit table text).run d).2 = d := by
  have steady : ∀ left text,
      ((untilStable (fun text => pure (substitutePass table text)) limit.error left text).run d).2 = d := by
    intro left
    induction left with
    | zero => exact fun text => rfl
    | succ left ih =>
      intro text
      rw [untilStable, Attempt.run_bind_ok (Attempt.run_pure _ d)]
      split
      · rfl
      · exact ih _
  rw [substitute, limit.settle_eq]
  exact steady limit.passes text

/-- Every cap allows a pass. -/
theorem passes_ofCap_ne_zero {cap : Option Nat} {fuel : Nat} (some_fuel : cap = none → fuel ≠ 0) :
    (Limit.ofCap fuel cap).passes ≠ 0 := by
  cases cap with
  | none => exact some_fuel rfl
  | some n =>
    have some_pass : 0 < max 1 n := by omega
    exact Nat.ne_of_gt some_pass

/-- Substitution leaves a text as it is just when a single pass does. -/
theorem substitute_eq_self_iff (some_pass : limit.passes ≠ 0) :
    (∀ d, (substitute limit table out).run d = (.ok out, d)) ↔ substitutePass table out = out := by
  constructor
  · intro kept
    obtain ⟨e, last⟩ := last_pass_of_settle (kept (.ofSource fun _ => 0))
    exact Except.ok.inj (congrArg Prod.fst last)
  · intro stable d
    have here : ((pure (substitutePass table out) : Resolving (List Char))).run d = (.ok out, d) := by
      rw [stable, Attempt.run_pure]
    exact Limit.run_settle_of_stable some_pass here

end Substitution

section Wildcards

variable {step : List Char → Draws → List Char × Draws} {error : ResolveError} {out : List Char}

/-- The text when a step that uses draws leaves it as it is. -/
def settling (step : List Char → Draws → List Char × Draws) (error : ResolveError) (left : Nat)
    (text : List Char) : Resolving (List Char) :=
  untilStable (fun text => .ofState (step text)) error left text

theorem run_settling_succ (left : Nat) (text : List Char) (d : Draws) :
    (settling step error (left + 1) text).run d =
      if (step text d).1 = text then (.ok text, (step text d).2)
      else (settling step error left (step text d).1).run (step text d).2 := by
  have here : (Attempt.ofState (step text) : Resolving (List Char)).run d =
      (.ok (step text d).1, (step text d).2) := rfl
  unfold settling
  rw [untilStable, Attempt.run_bind_ok here]
  split <;> rfl

theorem expand_eq_settling (limit : Limit) (table : Table) (text : List Char) :
    expand limit table text = settling (expandFrom table 0) limit.error limit.passes text :=
  limit.settle_eq _ text

theorem substitute_eq_settling (limit : Limit) (table : Table) (text : List Char) :
    substitute limit table text =
      settling (fun text d => (substitutePass table text, d)) limit.error limit.passes text :=
  limit.settle_eq _ text

/-- The outcome depends only on how the draws go on. -/
theorem settling_congr_alike (reads : ∀ text, Draws.Local (step text)) {left : Nat} {text : List Char}
    {d e : Draws} (alike : Draws.Alike e d) :
    ((settling step error left text).run e).1 = ((settling step error left text).run d).1 := by
  induction left generalizing text d e with
  | zero => rfl
  | succ left ih =>
    obtain ⟨next, rest⟩ := (reads text).congr_alike alike
    rw [run_settling_succ, run_settling_succ, next]
    split
    · rfl
    · exact ih rest

/-- If some draws move a text, then for every number of passes and every text there
are draws that do not end there: whenever the text is reached, those draws can follow. -/
theorem exists_not_settling (reads : ∀ text, Draws.Local (step text)) {moving : Draws}
    (moves : (step out moving).1 ≠ out) (error : ResolveError) (left : Nat) (text : List Char) :
    ∃ d : Draws, d.patience = moving.patience ∧ ((settling step error left text).run d).1 ≠ .ok out := by
  induction left generalizing text with
  | zero => exact ⟨moving, rfl, nofun⟩
  | succ left ih =>
    by_cases changed : (step text moving).1 = text
    · refine ⟨moving, rfl, ?_⟩
      rw [run_settling_succ, if_pos changed]
      intro settled
      obtain rfl : text = out := Except.ok.inj settled
      exact moves changed
    · obtain ⟨follow, patient, elsewhere⟩ := ih (step text moving).1
      obtain ⟨d, patient', next, rest⟩ := (reads text).splice patient
      refine ⟨d, patient', ?_⟩
      rw [run_settling_succ, next, if_neg changed, settling_congr_alike reads rest]
      exact elsewhere

/-- Wildcards leave a text as it is under all draws just when a single pass does. -/
theorem expand_eq_self_iff {limit : Limit} {table : Table} (some_pass : limit.passes ≠ 0) :
    (∀ d, ((expand limit table out).run d).1 = .ok out) ↔ ∀ d, (expandFrom table 0 out d).1 = out := by
  constructor
  · intro kept moving
    by_cases stays : (expandFrom table 0 out moving).1 = out
    · exact stays
    · obtain ⟨d, -, elsewhere⟩ := exists_not_settling (local_expandFrom table 0) stays limit.error limit.passes out
      rw [← expand_eq_settling] at elsewhere
      exact absurd (kept d) elsewhere
  · intro stable d
    have here : (expandPass table out).run d = (.ok out, (expandFrom table 0 out d).2) :=
      congrArg (fun given => (Except.ok given, (expandFrom table 0 out d).2)) (stable d)
    rw [expand, Limit.run_settle_of_stable some_pass here]

end Wildcards

namespace Resolver

variable {r : Resolver} {text out : List Char} {d d' : Draws}

/-- Triggers leave a text as it is, and wildcards do whatever is drawn. -/
def FullyResolved (r : Resolver) (text : List Char) : Prop :=
  (∀ d, (r.triggers text).run d = (.ok text, d)) ∧ ∀ d, ((r.wildcards text).run d).1 = .ok text

theorem passes_ne_zero_of_prompt (resolved : (r.prompt text).run d = (.ok out, d')) : r.limit.passes ≠ 0 := by
  intro none
  rw [prompt, Limit.settle_eq, none] at resolved
  cases resolved

/-- **Prompts that are fully resolved.** The last round over a prompt gave it back,
through whatever its triggers stand for. Neither triggers nor wildcards change it
just when a pass over its triggers leaves it as it is, and a pass over its wildcards
does whatever is drawn. -/
theorem prompt_fullyResolved_iff (r : Resolver) {text out : List Char} {d d' : Draws}
    (resolved : (r.prompt text).run d = (.ok out, d')) :
    (∃ middle e, (r.triggers out).run e = (.ok middle, e) ∧ (r.wildcards middle).run e = (.ok out, d')) ∧
      (r.FullyResolved out ↔ substitutePass r.tables.triggers out = out ∧
        ∀ e, (expandFrom r.tables.wildcards 0 out e).1 = out) := by
  have some_pass := passes_ne_zero_of_prompt resolved
  constructor
  · obtain ⟨e, round⟩ := last_pass_of_settle resolved
    rw [promptRound, Attempt.run_bind] at round
    split at round
    · rename_i middle after here
      have steady : after = e := (congrArg Prod.snd here).symm.trans (run_substitute_draws e)
      subst steady
      exact ⟨middle, after, here, round⟩
    · cases round
  · exact and_congr (substitute_eq_self_iff some_pass) (expand_eq_self_iff some_pass)

/-- A trigger that stands for a wildcard, of which one option is the trigger again. -/
def swapping : Resolver where
  tables := { Tables.empty with
    triggers := .ofList [("@a", "$b")]
    wildcards := .ofList [("$b", "@a|x")] }
  cap := some defaultCap
  fuel := 0

/-- Drawing the other option, the prompt is fully resolved. -/
theorem prompt_fullyResolved_swapping :
    ∃ d d', (swapping.prompt ['@', 'a']).run d = (.ok ['x'], d') ∧ swapping.FullyResolved ['x'] := by
  have resolved : (swapping.prompt ['@', 'a']).run (.ofSource fun _ => 9223372036854775808) =
      (.ok ['x'], (Draws.ofSource fun _ => 9223372036854775808).advance 1) := by rfl
  have stable : substitutePass swapping.tables.triggers ['x'] = ['x'] := by decide +kernel
  exact ⟨_, _, resolved, (prompt_fullyResolved_iff swapping resolved).2.2 ⟨stable, fun _ => by rfl⟩⟩

/-- Drawing the trigger, the round gives the prompt back at once, and triggers would
still change it. -/
theorem not_fullyResolved_swapping :
    (∃ d', (swapping.prompt ['@', 'a']).run (.ofSource fun i => if i = 0 then 0 else 9223372036854775808) =
      (.ok ['@', 'a'], d')) ∧ ¬swapping.FullyResolved ['@', 'a'] := by
  refine ⟨⟨_, rfl⟩, ?_⟩
  rintro ⟨kept, _⟩
  have changed : (swapping.triggers ['@', 'a']).run (.ofSource fun _ => 0) =
      (.ok ['$', 'b'], .ofSource fun _ => 0) := by rfl
  rw [kept] at changed
  cases changed

end Resolver

end CanvasScript.Shortcut
