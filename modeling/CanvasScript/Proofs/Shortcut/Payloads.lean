import CanvasScript.Proofs.Json.Leaves
import CanvasScript.Proofs.Shortcut.Caps

/-!
# Payloads resolved leaf by leaf

The strings inside a payload are resolved one after the other and all else is kept: what
comes of a value is the one that is leafwise related to it by the resolving of strings
(`steady_resolveStrings`). So a payload is resolved when each of its strings is. A
substituted string has nothing left to substitute, and so has a payload of them
(`payloads_resolve_leafwise`).
-/

namespace CanvasScript.Shortcut

open Json (Value Fields)
open Json.Value (Leafwise LeafwiseItems LeafwiseFields)

/-- An attempt draws nothing, gives what has the property and nothing else, and has one error to fail with. -/
structure Steady (x : Resolving α) (Q : α → Prop) (error : ResolveError) : Prop where
  ok_iff : ∀ {a d d'}, x.run d = (.ok a, d') ↔ d' = d ∧ Q a
  error_eq : ∀ {e d d'}, x.run d = (.error e, d') → d' = d ∧ e = error

namespace Steady

variable {x : Resolving α} {f : α → Resolving β} {Q Q' : α → Prop} {P : α → β → Prop} {error : ResolveError}

theorem congr (h : Steady x Q error) (iff : ∀ a, Q a ↔ Q' a) : Steady x Q' error where
  ok_iff := by
    intro a d d'
    rw [h.ok_iff, iff]
  error_eq := h.error_eq

protected theorem pure (a : α) : Steady (pure a) (a = ·) error where
  ok_iff := by
    intro b d d'
    simp [eq_comm, and_comm]
  error_eq failed := by cases failed

protected theorem bind (first : Steady x Q error) (second : ∀ a, Steady (f a) (P a) error) :
    Steady (x >>= f) (fun b => ∃ a, Q a ∧ P a b) error where
  ok_iff := by
    intro b d d'
    rw [Attempt.run_bind_eq_ok_iff]
    constructor
    · rintro ⟨a, e, here, behind⟩
      obtain ⟨rfl, of_a⟩ := first.ok_iff.1 here
      obtain ⟨rfl, of_b⟩ := (second a).ok_iff.1 behind
      exact ⟨rfl, a, of_a, of_b⟩
    · rintro ⟨rfl, a, of_a, of_b⟩
      exact ⟨a, d', first.ok_iff.2 ⟨rfl, of_a⟩, (second a).ok_iff.2 ⟨rfl, of_b⟩⟩
  error_eq := by
    intro e d d' failed
    rcases Attempt.run_bind_eq_error_iff.1 failed with here | ⟨a, u, here, behind⟩
    · exact first.error_eq here
    · obtain ⟨rfl, -⟩ := first.ok_iff.1 here
      exact (second a).error_eq behind

theorem map (h : Steady x Q error) (g : α → β) :
    Steady (x >>= fun a => pure (g a)) (fun b => ∃ a, Q a ∧ g a = b) error :=
  h.bind fun a => .pure (g a)

end Steady

section Traversal

variable {resolve : List Char → Resolving (List Char)} {R : String → String → Prop} {error : ResolveError}

mutual

/-- A value is resolved to what it is leafwise related to when each string is to what it is related to. -/
theorem steady_resolveStrings (each : ∀ s, Steady (onString resolve s) (R s) error) (v : Value) :
    Steady (resolveStrings resolve v) (Leafwise R v) error := by
  match v with
  | .null | .bool _ | .int _ | .float _ =>
    refine (Steady.pure _).congr fun w => ⟨?_, ?_⟩
    · rintro rfl
      constructor
    · intro related
      cases related
      rfl
  | .string s => exact ((each s).map Value.string).congr fun w => Value.leafwise_string_iff.symm
  | .array items =>
    exact ((steady_resolveItems each items).map Value.array).congr fun w => Value.leafwise_array_iff.symm
  | .object fields =>
    exact ((steady_resolveFields each fields).map Value.object).congr fun w => Value.leafwise_object_iff.symm

theorem steady_resolveItems (each : ∀ s, Steady (onString resolve s) (R s) error) (items : List Value) :
    Steady (resolveItems resolve items) (LeafwiseItems R items) error := by
  match items with
  | [] => exact (Steady.pure []).congr fun others => Value.leafwiseItems_nil_iff.symm
  | v :: rest =>
    have both := (steady_resolveStrings each v).bind fun w => (steady_resolveItems each rest).map (w :: ·)
    exact both.congr fun others => Value.leafwiseItems_cons_iff.symm

theorem steady_resolveFields (each : ∀ s, Steady (onString resolve s) (R s) error) (fields : Fields) :
    Steady (resolveFields resolve fields) (LeafwiseFields R fields) error := by
  match fields with
  | [] => exact (Steady.pure []).congr fun others => Value.leafwiseFields_nil_iff.symm
  | (key, v) :: rest =>
    have both := (steady_resolveStrings each v).bind fun w => (steady_resolveFields each rest).map ((key, w) :: ·)
    exact both.congr fun others => Value.leafwiseFields_cons_iff.symm

end

end Traversal

section Substitution

variable {limit larger : Limit} {table : Table} {s t : String} {d d' : Draws}

/-- Substitution makes one string of the other, whatever is drawn. -/
def Substitutes (limit : Limit) (table : Table) (s t : String) : Prop :=
  ∀ d, (substitute limit table s.toList).run d = (.ok t.toList, d)

theorem substitutes_of_run {out : List Char} (resolved : (substitute limit table s.toList).run d = (.ok out, d')) :
    Substitutes limit table s (String.ofList out) := by
  intro e
  obtain ⟨-, settles⟩ := run_substitute_eq_ok_iff.1 resolved
  rw [String.toList_ofList]
  exact run_substitute_eq_ok_iff.2 ⟨rfl, settles⟩

theorem exists_run_substitute_iff (d : Draws) :
    (∃ out d', (substitute limit table s.toList).run d = (.ok out, d')) ↔ ∃ t, Substitutes limit table s t :=
  ⟨fun ⟨_, _, resolved⟩ => ⟨_, substitutes_of_run resolved⟩, fun ⟨_, substitutes⟩ => ⟨_, _, substitutes d⟩⟩

/-- Whether a text is substituted, and to what, does not depend on what is drawn. -/
theorem steady_onString_substitute (s : String) :
    Steady (onString (substitute limit table) s) (Substitutes limit table s) limit.error where
  ok_iff := by
    intro t d d'
    unfold onString
    rw [Attempt.run_bind_pure_eq_ok_iff]
    constructor
    · rintro ⟨out, resolved, rfl⟩
      exact ⟨(run_substitute_eq_ok_iff.1 resolved).1, substitutes_of_run resolved⟩
    · rintro ⟨rfl, substitutes⟩
      exact ⟨t.toList, substitutes d', String.ofList_toList⟩
  error_eq := by
    intro e d d' failed
    have failed : (substitute limit table s.toList).run d = (.error e, d') :=
      Attempt.run_bind_pure_eq_error_iff.1 failed
    have drawn : ((substitute limit table s.toList).run d).2 = d := run_substitute_draws d
    rw [failed] at drawn
    exact ⟨drawn, (cutsOff_substitute table s.toList).error_eq failed⟩

/-- The fields of a configuration are resolved without draws. -/
theorem steady_configFields (r : Resolver) (fields : Fields) :
    Steady (r.configFields fields) (LeafwiseFields (Substitutes r.limit r.tables.configuration) fields) r.limit.error :=
  steady_resolveFields steady_onString_substitute fields

/-- What substitution makes of a string it leaves as it is, under every limit that allows a pass. -/
theorem Substitutes.again (substitutes : Substitutes limit table s t) (some_pass : larger.passes ≠ 0) :
    Substitutes larger table t t := by
  obtain ⟨e, last⟩ := last_pass_of_settle (substitutes (.ofSource fun _ => 0))
  have stable : substitutePass table t.toList = t.toList := Except.ok.inj (congrArg Prod.fst last)
  exact (substitute_eq_self_iff some_pass).2 stable

theorem Substitutes.unique {t' : String} (one : Substitutes limit table s t) (other : Substitutes limit table s t') :
    t = t' := by
  have same : Except.ok t.toList = Except.ok t'.toList :=
    congrArg Prod.fst ((one (.ofSource fun _ => 0)).symm.trans (other _))
  exact String.toList_injective (Except.ok.inj same)

theorem Substitutes.more (substitutes : Substitutes limit table s t) (le : limit.passes ≤ larger.passes) :
    Substitutes larger table s t :=
  fun d => (cutsOff_substitute table s.toList).more le (substitutes d)

/-- Where each of some strings can be substituted in some number of passes, all of them can in one. -/
theorem exists_fuel (table : Table) (strings : List String)
    (each : ∀ s ∈ strings, ∃ fuel t, Substitutes (.ofCap fuel none) table s t) :
    ∃ fuel, ∀ s ∈ strings, ∃ t, Substitutes (.ofCap fuel none) table s t := by
  induction strings with
  | nil => exact ⟨0, List.forall_mem_nil _⟩
  | cons s strings ih =>
    obtain ⟨⟨fuel, t, here⟩, later⟩ := List.forall_mem_cons.1 each
    obtain ⟨fuel', all⟩ := ih later
    refine ⟨max fuel fuel', List.forall_mem_cons.2 ⟨⟨t, here.more (Nat.le_max_left fuel fuel')⟩, ?_⟩⟩
    intro s' mem
    obtain ⟨t', there⟩ := all s' mem
    exact ⟨t', there.more (Nat.le_max_right fuel fuel')⟩

end Substitution

/-- How a resolver resolves something, of which `value` tells the value that it is, when it
resolves the strings inside by `leaf` and keeps all else. -/
structure ResolvesLeafwise (leaf : Resolver → List Char → Resolving (List Char)) (whole : Resolver → α → Resolving α)
    (value : α → Value) (r : Resolver) (a : α) : Prop where
  ok_iff : ∀ d, (∃ b d', (whole r a).run d = (.ok b, d')) ↔
    ∀ s ∈ (value a).strings, ∃ out d', (leaf r s.toList).run d = (.ok out, d')
  /-- Without a cap there is a number of passes that is enough for all strings when there is one for each. -/
  uncapped : r.cap = none → ∀ d, (∃ fuel b d', (whole { r with fuel } a).run d = (.ok b, d')) ↔
    ∀ s ∈ (value a).strings, ∃ fuel out d', (leaf { r with fuel } s.toList).run d = (.ok out, d')
  leafwise : ∀ {d b d'}, (whole r a).run d = (.ok b, d') →
    d' = d ∧ Leafwise (fun s t => ∀ e, (leaf r s.toList).run e = (.ok t.toList, e)) (value a) (value b)
  again : ∀ {d b d'}, (whole r a).run d = (.ok b, d') →
    ∀ cap fuel, (cap = none → fuel ≠ 0) → ∀ e, (whole { r with cap, fuel } b).run e = (.ok b, e)
  error : ∀ {n d e d'}, r.cap = some n → (whole r a).run d = (.error e, d') →
    d' = d ∧ e = .didNotConverge (max 1 n)

section Leafwise

variable {whole : Resolver → α → Resolving α} {value : α → Value}

/-- What resolves the strings inside by substitution from one of the tables resolves leafwise. -/
theorem ResolvesLeafwise.of_steady (select : Tables → Table)
    (steady : ∀ r a, Steady (whole r a) (fun b => Leafwise (Substitutes r.limit (select r.tables)) (value a) (value b))
      r.limit.error)
    (onto : ∀ R a w, Leafwise R (value a) w → ∃ b, value b = w) (r : Resolver) (a : α) :
    ResolvesLeafwise (fun r => substitute r.limit (select r.tables)) whole value r a := by
  have ok_iff : ∀ r d, (∃ b d', (whole r a).run d = (.ok b, d')) ↔
      ∀ s ∈ (value a).strings, ∃ t, Substitutes r.limit (select r.tables) s t := by
    intro r d
    rw [← Value.exists_leafwise_iff]
    constructor
    · rintro ⟨b, d', resolved⟩
      exact ⟨value b, ((steady r a).ok_iff.1 resolved).2⟩
    · rintro ⟨w, related⟩
      obtain ⟨b, rfl⟩ := onto _ a w related
      exact ⟨b, d, (steady r a).ok_iff.2 ⟨rfl, related⟩⟩
  constructor
  case ok_iff =>
    intro d
    rw [ok_iff]
    exact forall₂_congr fun s _ => (exists_run_substitute_iff d).symm
  case uncapped =>
    intro without d
    constructor
    · rintro ⟨fuel, resolved⟩ s mem
      obtain ⟨t, here⟩ := (ok_iff { r with fuel } d).1 resolved s mem
      exact ⟨fuel, t.toList, d, here d⟩
    · intro each
      obtain ⟨fuel, all⟩ := exists_fuel (select r.tables) (value a).strings fun s mem => by
        obtain ⟨fuel, out, d', here⟩ := each s mem
        rw [without] at here
        exact ⟨fuel, _, substitutes_of_run here⟩
      refine ⟨fuel, (ok_iff { r with fuel } d).2 ?_⟩
      rw [without]
      exact all
  case leafwise => exact (steady r a).ok_iff.1
  case again =>
    intro d b d' resolved cap fuel some_pass e
    obtain ⟨-, related⟩ := (steady r a).ok_iff.1 resolved
    refine (steady _ b).ok_iff.2 ⟨rfl, related.of_right fun s t substitutes => substitutes.again ?_⟩
    exact passes_ofCap_ne_zero some_pass
  case error =>
    intro n d e d' capped failed
    obtain ⟨same, rfl⟩ := (steady r a).error_eq failed
    refine ⟨same, ?_⟩
    unfold Resolver.limit
    rw [capped]
    rfl

end Leafwise

/-- **A payload is resolved leaf by leaf.** This is so for the fields of a configuration and
for every pose, each with its own table. It is resolved when every string inside is; then all
but its strings is kept and it has nothing left to resolve. -/
theorem payloads_resolve_leafwise (r : Resolver) (fields : Fields) (pose : Value) :
    ResolvesLeafwise Resolver.configuration Resolver.configFields .object r fields ∧
      ResolvesLeafwise Resolver.poses Resolver.pose id r pose := by
  constructor
  · refine .of_steady Tables.configuration ?_ ?_ r fields
    · intro r fields
      refine (steady_configFields r fields).congr fun others => ?_
      rw [Value.leafwise_object_iff]
      simp
    · intro R fields w related
      obtain ⟨others, -, same⟩ := Value.leafwise_object_iff.1 related
      exact ⟨others, same⟩
  · refine .of_steady Tables.poses ?_ ?_ r pose
    · intro r pose
      exact steady_resolveStrings steady_onString_substitute pose
    · intro R pose w related
      exact ⟨w, rfl⟩

/-- A shortcut for the file of a model. -/
def modelShortcut : Tables := { Tables.empty with configuration := .ofList [("#wan", "wan.ckpt")] }

theorem substitutes_modelShortcut : Substitutes (.ofCap 0 (some 2)) modelShortcut.configuration "#wan" "wan.ckpt" := by
  have first : substitutePass modelShortcut.configuration "#wan".toList = "wan.ckpt".toList := by decide +kernel
  have stable : substitutePass modelShortcut.configuration "wan.ckpt".toList = "wan.ckpt".toList := by decide +kernel
  refine fun d => run_substitute_eq_ok_iff.2 ⟨rfl, 1, by decide, ?_, ?_⟩
  · simp only [settlesAfter_succ_iff, settlesAfter_zero_iff, first, stable]
    decide
  · exact first.symm

/-- The shortcut stays where it is a key, and is replaced inside of what stands under it. -/
theorem payloads_resolve_leafwise_modelShortcut :
    let r : Resolver := { tables := modelShortcut, cap := some 2, fuel := 0 }
    ∀ d, (r.configFields [("#wan", .array [.string "#wan", .bool true])]).run d =
      (.ok [("#wan", .array [.string "wan.ckpt", .bool true])], d) := by
  intro r d
  have leaves := (payloads_resolve_leafwise r [("#wan", .array [.string "#wan", .bool true])] .null).1
  have each : ∀ s ∈ ["#wan"], ∃ out d', (r.configuration s.toList).run d = (.ok out, d') :=
    List.forall_mem_singleton.2 ⟨_, d, substitutes_modelShortcut d⟩
  obtain ⟨fields, d', resolved⟩ := (leaves.ok_iff d).2 each
  obtain ⟨rfl, related⟩ := leaves.leafwise resolved
  obtain ⟨_, related, ⟨⟩⟩ := Value.leafwise_object_iff.1 related
  cases related with | cons first rest =>
  cases rest
  cases first with | array items =>
  cases items with | cons first rest =>
  cases rest with | cons second rest =>
  cases rest
  cases second
  cases first with | string replaced =>
  obtain rfl := substitutes_modelShortcut.unique replaced
  exact resolved

end CanvasScript.Shortcut
