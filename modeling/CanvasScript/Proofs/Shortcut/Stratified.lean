import CanvasScript.Proofs.Shortcut.Caps
import CanvasScript.Proofs.Shortcut.Settling

/-!
# Stratified tables

Tables are stratified by a character when the keys of triggers have it, their texts do
not, and the texts of wildcards have neither it nor a sign. Triggers may still stand
for wildcards, and an option may complete a key or a longer token with the text
around it. Every replacement lowers one weight all the same: the character weighs more
than the signs of any trigger's text, a sign weighs one, and nothing else weighs
anything (`Stratified.weight`). So prompts are always resolved, and to the end
(`Stratified.prompt_resolves`).
-/

namespace CanvasScript.Shortcut

open Text (weigh)

/-- Keys of triggers have the character, their texts do not, and the texts of wildcards
have neither it nor a sign. -/
structure Stratified (tables : Tables) (c : Char) : Prop where
  keys : ∀ entry ∈ tables.triggers.entries, entry.1 ≠ "" → c ∈ entry.1.toList
  texts : ∀ entry ∈ tables.triggers.entries, c ∉ entry.2.toList
  options : ∀ entry ∈ tables.wildcards.entries, c ∉ entry.2.toList ∧ '$' ∉ entry.2.toList

namespace Stratified

/-- The signs in the texts of a table. -/
def signs (table : Table) : Nat := (table.entries.map fun entry => entry.2.toList.count '$').sum

/-- The character outweighs the signs of all texts of triggers, and a sign weighs one more. -/
def weight (tables : Tables) (c d : Char) : Nat :=
  (if d = c then signs tables.triggers + 1 else 0) + if d = '$' then 1 else 0

variable {tables : Tables} {c : Char}

theorem count_le_signs {table : Table} {entry : String × String} (mem : entry ∈ table.entries) :
    entry.2.toList.count '$' ≤ signs table := by
  obtain ⟨before, after, split⟩ := List.append_of_mem mem
  unfold signs
  rw [split, List.map_append, List.map_cons, List.sum_append, List.sum_cons]
  omega

theorem weigh_weight (tables : Tables) (c : Char) (text : List Char) :
    weigh (weight tables c) text = (signs tables.triggers + 1) * text.count c + text.count '$' := by
  induction text with
  | nil => rfl
  | cons d text ih =>
    rw [Text.weigh_cons, ih, weight, List.count_cons, List.count_cons]
    by_cases here : d = c <;> by_cases sign : d = '$' <;> simp [here, sign] <;> grind

theorem sign_heavy (tables : Tables) (c : Char) : 0 < weight tables c '$' := by
  simp [weight]

theorem triggers_lighter (h : Stratified tables c) : tables.triggers.IsLighter (weight tables c) := by
  intro entry mem nonempty
  have missing : entry.2.toList.count c = 0 := List.count_eq_zero.2 (h.texts entry mem)
  have found : 0 < entry.1.toList.count c := List.count_pos_iff.2 (h.keys entry mem nonempty)
  have few := count_le_signs mem
  calc weigh (weight tables c) entry.2.toList
    _ = entry.2.toList.count '$' := by rw [weigh_weight, missing, Nat.mul_zero, Nat.zero_add]
    _ < signs tables.triggers + 1 := Nat.lt_succ_of_le few
    _ ≤ (signs tables.triggers + 1) * entry.1.toList.count c := Nat.le_mul_of_pos_right _ found
    _ ≤ weigh (weight tables c) entry.1.toList := by
      rw [weigh_weight]
      exact Nat.le_add_right _ _

theorem wildcards_weightless (h : Stratified tables c) : tables.wildcards.IsWeightless (weight tables c) := by
  intro entry mem d here
  obtain ⟨no_c, no_sign⟩ := h.options entry mem
  have ne_c : d ≠ c := fun same => no_c (same ▸ here)
  have ne_sign : d ≠ '$' := fun same => no_sign (same ▸ here)
  simp [weight, ne_c, ne_sign]

variable {limit : Limit} {text : List Char}

/-- A round gives a text back only when nothing in it is left to resolve, and makes any
other lighter. -/
theorem round_stays_or_lighter (h : Stratified tables c) (text : List Char) (d : Draws)
    (enough : weigh (weight tables c) text < limit.passes) :
    ∃ out e, (substitute limit tables.triggers text >>= expand limit tables.wildcards).run d = (.ok out, e) ∧
      ((out = text ∧ tables.triggers.HasNoKey out ∧ tables.wildcards.HasNoToken out) ∨
        weigh (weight tables c) out < weigh (weight tables c) text) := by
  obtain ⟨middle, first, sub, no_key⟩ := substitute_of_lighter h.triggers_lighter enough d
  have enough' : weigh (weight tables c) middle < limit.passes := by
    rcases sub with rfl | lighter <;> omega
  obtain ⟨out, e, second, exp, no_token⟩ :=
    expand_of_weightless h.wildcards_weightless (sign_heavy tables c) enough' d
  refine ⟨out, e, ?_, ?_⟩
  · rw [Attempt.run_bind_ok first, second]
  · rcases exp with rfl | lighter
    · rcases sub with rfl | lighter
      · exact .inl ⟨rfl, no_key, no_token⟩
      · exact .inr lighter
    · right
      rcases sub with rfl | lighter' <;> omega

/-- A text in which nothing is left to resolve is a prompt that settles at once. -/
theorem run_promptWithin_of_resolved (h : Stratified tables c) {out : List Char} (some_pass : limit.passes ≠ 0)
    (no_key : tables.triggers.HasNoKey out) (no_token : tables.wildcards.HasNoToken out) (d : Draws) :
    (promptWithin tables out limit).run d = (.ok out, d) := by
  have no_change : substitutePass tables.triggers out = out := by
    rcases substitutePass_stays_or_lighter h.triggers_lighter out with ⟨stays, -⟩ | ⟨-, some_key⟩
    · exact stays
    · exact absurd no_key some_key
  have no_draw : expandFrom tables.wildcards 0 out d = (out, d) := by
    rcases expandFrom_stays_or_lighter h.wildcards_weightless (sign_heavy tables c) 0 out d with
      ⟨stays, -⟩ | ⟨-, some_token⟩
    · exact stays
    · exact absurd no_token some_token
  have sub : (substitute limit tables.triggers out).run d = (.ok out, d) :=
    (substitute_eq_self_iff some_pass).2 no_change d
  have pass : (expandPass tables.wildcards out).run d = (.ok out, d) :=
    congrArg (fun given => (Except.ok given.1, given.2)) no_draw
  have exp : (expand limit tables.wildcards out).run d = (.ok out, d) := Limit.run_settle_of_stable some_pass pass
  have round : (substitute limit tables.triggers out >>= expand limit tables.wildcards).run d = (.ok out, d) := by
    rw [Attempt.run_bind_ok sub, exp]
  exact Limit.run_settle_of_stable some_pass round

/-- **Prompts over stratified tables are resolved to the end.** Without a cap there is a
number of passes, whatever is drawn, that is enough for the prompt. In what comes out no
key of a trigger occurs and no token could be resolved, so that resolving it again
under any cap gives it back and draws nothing. -/
theorem prompt_resolves (h : Stratified tables c) (text : List Char) :
    ∃ enough, ∀ d, ∃ out e,
      (∀ fuel ≥ enough, (Resolver.prompt { tables, cap := none, fuel } text).run d = (.ok out, e)) ∧
        tables.triggers.HasNoKey out ∧ tables.wildcards.HasNoToken out ∧
        ∀ cap fuel, (cap = none → fuel ≠ 0) →
          ∀ d', (Resolver.prompt { tables, cap, fuel } out).run d' = (.ok out, d') := by
  let enough := weigh (weight tables c) text + 1
  refine ⟨enough, fun d => ?_⟩
  have rounds : ∀ text' d', weigh (weight tables c) text' ≤ weigh (weight tables c) text → ∃ out e,
      (substitute (.ofCap enough none) tables.triggers text' >>=
          expand (.ofCap enough none) tables.wildcards).run d' = (.ok out, e) ∧
        ((out = text' ∧ tables.triggers.HasNoKey out ∧ tables.wildcards.HasNoToken out) ∨
          weigh (weight tables c) out < weigh (weight tables c) text') :=
    fun text' d' le => round_stays_or_lighter h text' d' (Nat.lt_succ_of_le le)
  obtain ⟨out, e, ends, behind, e', last⟩ :=
    settle_of_lighter (.ofCap enough none) _ (weigh (weight tables c))
      (fun text' d' le => by
        obtain ⟨next, e', here, next_cases⟩ := rounds text' d' le
        exact ⟨next, e', here, next_cases.imp And.left id⟩)
      (Nat.le_refl _) (Nat.lt_succ_self _) d
  have settled : tables.triggers.HasNoKey out ∧ tables.wildcards.HasNoToken out := by
    have le : weigh (weight tables c) out ≤ weigh (weight tables c) text := by
      rcases behind with rfl | lighter <;> omega
    obtain ⟨out', e'', again, out_cases⟩ := rounds out e' le
    rw [again] at last
    obtain rfl : out' = out := Except.ok.inj (congrArg Prod.fst last)
    rcases out_cases with ⟨-, no_key, no_token⟩ | lighter
    · exact ⟨no_key, no_token⟩
    · exact absurd lighter (Nat.lt_irrefl _)
  refine ⟨out, e, ?_, settled.1, settled.2, ?_⟩
  · intro fuel le
    have within : (promptWithin tables text (.ofCap enough none)).run d = (.ok out, e) := ends
    have larger : (Limit.ofCap enough none).passes ≤ (Limit.ofCap fuel none).passes := le
    exact (cutsOff_promptWithin tables text).more larger within
  · intro cap fuel some_fuel d'
    exact run_promptWithin_of_resolved h (passes_ofCap_ne_zero some_fuel) settled.1 settled.2 d'

/-- A trigger that stands for a wildcard, and wildcards of which one completes the key
and the name of the other. -/
def crossing : Tables :=
  { Tables.empty with
    triggers := .ofList [("@a", "$b")]
    wildcards := .ofList [("$ba", "a"), ("$b", "y|z")] }

/-- The trigger leaves a sign and makes the longer name of the two, its option completes
the key again, and the second time the shorter name is left. -/
theorem prompt_resolves_crossing :
    Stratified crossing '@' ∧
      ((Resolver.prompt { tables := crossing, cap := none, fuel := 4 } ['@', '@', 'a', 'a']).run
        (.ofSource fun _ => 0)).1 = .ok ['y'] ∧
      crossing.triggers.HasNoKey ['y'] ∧ crossing.wildcards.HasNoToken ['y'] := by
  have stratified : Stratified crossing '@' := by
    constructor <;> decide +kernel
  have computed : ((Resolver.prompt { tables := crossing, cap := none, fuel := 4 } ['@', '@', 'a', 'a']).run
      (.ofSource fun _ => 0)).1 = .ok ['y'] := by decide +kernel
  obtain ⟨enough, ends⟩ := prompt_resolves stratified ['@', '@', 'a', 'a']
  obtain ⟨out, e, resolved, no_key, no_token, -⟩ := ends (.ofSource fun _ => 0)
  -- four passes are enough, so any greater number gives the same
  have same : .ok out = (Except.ok ['y'] : Except ResolveError (List Char)) := by
    rcases here : (promptWithin crossing ['@', '@', 'a', 'a'] (.ofCap 4 none)).run (.ofSource fun _ => 0) with ⟨o, e'⟩
    obtain rfl : o = .ok ['y'] := (congrArg Prod.fst here).symm.trans computed
    have larger : (Limit.ofCap 4 none).passes ≤ (Limit.ofCap (max 4 enough) none).passes := Nat.le_max_left 4 enough
    have at_both := (cutsOff_promptWithin crossing ['@', '@', 'a', 'a']).more larger here
    have resolved' := resolved (max 4 enough) (Nat.le_max_right 4 enough)
    exact (congrArg Prod.fst resolved').symm.trans (congrArg Prod.fst at_both)
  obtain rfl := Except.ok.inj same
  exact ⟨stratified, computed, no_key, no_token⟩

end Stratified

end CanvasScript.Shortcut
