import CanvasScript.Proofs.Json.Leaves
import CanvasScript.Proofs.Run.State
import CanvasScript.Proofs.Shortcut.Payloads

/-!
# Payloads put into the configuration

An instruction with a payload resolves all of it and puts it into the configuration, or it
leaves the stage as it is (`Stage.run_configure_eq_ok_iff`, `Stage.eq_of_configure_failed`).
Resolving keeps the keys of a payload, so it makes no difference whether two payloads are
put into the configuration one after the other or are first laid over each other
(`Stage.patches_compose`). A field of a payload has its resolved value then
(`Stage.get?_of_configure`).
-/

namespace CanvasScript

open Json (Value Fields)
open Json.Value (Leafwise LeafwiseFields)
open Shortcut (Steady Substitutes)

/-- The payload that an instruction puts into the configuration. -/
def Instruction.patch? : Instruction → Option Fields
  | config patch | inpaintTools patch => some patch
  | _ => none

namespace Configuration

theorem merge_overlay {p : Fields} (sorted : p.Sorted) (c : Configuration) (q : Fields) :
    c.merge (p.overlay q) = (c.merge p).merge q := by
  unfold merge
  rw [Fields.overlay_overlay sorted]

/-- A payload that is put into the configuration once more changes nothing. -/
theorem merge_merge_self {p : Fields} (sorted : p.Sorted) (c : Configuration) : (c.merge p).merge p = c.merge p := by
  rw [← merge_overlay sorted, Fields.overlay_self sorted]

end Configuration

/-- Every string inside a payload is resolved. -/
def Shortcut.Resolver.Resolves (r : Resolver) (patch : Fields) : Prop :=
  ∀ s ∈ (Value.object patch).strings, ∃ t, Substitutes r.limit r.tables.configuration s t

namespace Stage

variable {setting : Setting} {spot spot' : Spot} {instruction first second whole : Instruction} {p q patch : Fields}
  {s t : Stage}

theorem perform_of_patch (puts : instruction.patch? = some patch) :
    perform setting spot instruction = configure setting patch := by
  cases instruction with
  | config | inpaintTools =>
    cases puts
    rfl
  | _ => cases puts

section Steady

variable {x : Shortcut.Resolving α} {Q : α → Prop} {error : Shortcut.ResolveError}

theorem run_onDraws_eq_ok_iff (steady : Steady x Q error) {a : α} :
    (onDraws x).run s = (.ok a, t) ↔ t = s ∧ Q a := by
  constructor
  · intro done
    obtain ⟨given, rfl⟩ := draws_of_onDraws done
    have ends : x.run s.draws = (.ok a, (x.run s.draws).2) := Prod.ext given rfl
    obtain ⟨same, of_a⟩ := steady.ok_iff.1 ends
    rw [same]
    exact ⟨rfl, of_a⟩
  · rintro ⟨rfl, of_a⟩
    rw [run_onDraws, steady.ok_iff.2 ⟨rfl, of_a⟩]
    rfl

theorem eq_of_onDraws_failed (steady : Steady x Q error) {e : EngineError}
    (failed : (onDraws x).run s = (.error e, t)) : t = s := by
  rw [run_onDraws] at failed
  rcases ends : x.run s.draws with ⟨_ | a, d⟩
  · obtain ⟨rfl, -⟩ := steady.error_eq ends
    rw [ends] at failed
    exact (congrArg Prod.snd failed).symm
  · rw [ends] at failed
    cases failed

end Steady

/-- What is put into the configuration is the payload with its strings resolved, and nothing else changes. -/
theorem run_configure_eq_ok_iff :
    (configure setting patch).run s = (.ok (), t) ↔
      ∃ resolved, LeafwiseFields (Substitutes setting.resolver.limit setting.resolver.tables.configuration)
        patch resolved ∧ t = { s with configuration := s.configuration.merge resolved } := by
  have steady := Shortcut.steady_configFields setting.resolver patch
  unfold configure
  rw [Attempt.run_bind_eq_ok_iff]
  constructor
  · rintro ⟨resolved, u, resolving, set⟩
    obtain ⟨rfl, related⟩ := (run_onDraws_eq_ok_iff steady).1 resolving
    cases set
    exact ⟨resolved, related, rfl⟩
  · rintro ⟨resolved, related, rfl⟩
    exact ⟨resolved, s, (run_onDraws_eq_ok_iff steady).2 ⟨rfl, related⟩, rfl⟩

/-- A field of a payload is put into the configuration with the strings inside its value resolved. -/
theorem get?_of_configure (sorted : patch.Sorted) (done : (configure setting patch).run s = (.ok (), t))
    {key : String} {v : Value} (here : patch.get? key = some v) :
    ∃ w, Leafwise (Substitutes setting.resolver.limit setting.resolver.tables.configuration) v w ∧
      t.configuration.get? key = some w := by
  obtain ⟨resolved, related, rfl⟩ := run_configure_eq_ok_iff.1 done
  obtain ⟨w, value, there⟩ := related.exists_get? here
  have sorted' : Fields.Sorted resolved := sorted.of_keys_eq related.keys_eq
  exact ⟨w, value, Configuration.get?_merge_of_get? sorted' there s.configuration⟩

/-- Nothing is put into the configuration before all of the payload is resolved. -/
theorem eq_of_configure_failed {e : EngineError} (failed : (configure setting patch).run s = (.error e, t)) :
    t = s := by
  rcases Attempt.run_bind_eq_error_iff.1 failed with here | ⟨resolved, u, -, set⟩
  · exact eq_of_onDraws_failed (Shortcut.steady_configFields setting.resolver patch) here
  · cases set

theorem exists_run_configure_iff :
    (∃ t, (configure setting patch).run s = (.ok (), t)) ↔ setting.resolver.Resolves patch := by
  refine Iff.trans ?_ (Value.exists_leafwiseFields_iff patch)
  simp only [run_configure_eq_ok_iff]
  constructor
  · rintro ⟨t, resolved, related, -⟩
    exact ⟨resolved, related⟩
  · rintro ⟨resolved, related⟩
    exact ⟨_, resolved, related, rfl⟩

/-- Two payloads put into the configuration one after the other. -/
theorem run_configure_overlay (sorted : p.Sorted) (first : setting.resolver.Resolves p)
    (second : setting.resolver.Resolves q) (s : Stage) :
    ∃ t, (configure setting p >>= fun _ => configure setting q).run s = (.ok (), t) ∧
      (configure setting (p.overlay q)).run s = (.ok (), t) ∧
      ∀ key, key ∉ p.map (·.1) → key ∉ q.map (·.1) → t.configuration.get? key = s.configuration.get? key := by
  obtain ⟨p', of_p⟩ := (Value.exists_leafwiseFields_iff p).2 first
  obtain ⟨q', of_q⟩ := (Value.exists_leafwiseFields_iff q).2 second
  have sorted' : Fields.Sorted p' := sorted.of_keys_eq of_p.keys_eq
  refine ⟨{ s with configuration := (s.configuration.merge p').merge q' }, ?_, ?_, ?_⟩
  · exact Attempt.run_bind_eq_ok_iff.2 ⟨(), { s with configuration := s.configuration.merge p' },
      run_configure_eq_ok_iff.2 ⟨p', of_p, rfl⟩, run_configure_eq_ok_iff.2 ⟨q', of_q, rfl⟩⟩
  · refine run_configure_eq_ok_iff.2 ⟨Fields.overlay p' q', of_p.overlay of_q, ?_⟩
    rw [Configuration.merge_overlay sorted']
  · intro key not_p not_q
    rw [← of_p.keys_eq] at not_p
    rw [← of_q.keys_eq] at not_q
    rw [Configuration.get?_merge_of_not_mem not_q, Configuration.get?_merge_of_not_mem not_p]

/-- A payload put into the configuration twice. -/
theorem run_configure_twice (sorted : p.Sorted) (s : Stage) :
    (configure setting p >>= fun _ => configure setting p).run s = (configure setting p).run s := by
  rcases once : (configure setting p).run s with ⟨_ | _, t⟩
  · exact Attempt.run_bind_eq_error_iff.2 (.inl once)
  · obtain ⟨p', of_p, rfl⟩ := run_configure_eq_ok_iff.1 once
    refine Attempt.run_bind_eq_ok_iff.2 ⟨(), _, once, run_configure_eq_ok_iff.2 ⟨p', of_p, ?_⟩⟩
    rw [Configuration.merge_merge_self (sorted.of_keys_eq of_p.keys_eq)]

/-- How instructions with payloads change a stage. The fields of an object are sorted by their
keys, and so are those of a payload. -/
structure PatchesCompose (setting : Setting) (s : Stage) : Prop where
  /-- Carried out one after the other, two leave what one leaves that has the second payload laid over the first. -/
  overlay : ∀ {first second whole p q}, Instruction.patch? first = some p → Instruction.patch? second = some q →
    Instruction.patch? whole = some (p.overlay q) → p.Sorted →
    setting.resolver.Resolves p → setting.resolver.Resolves q → ∀ i j k,
      ∃ t, (perform setting i first >>= fun _ => perform setting j second).run s = (.ok (), t) ∧
        (perform setting k whole).run s = (.ok (), t) ∧
        ∀ key, key ∉ p.map (·.1) → key ∉ q.map (·.1) → t.configuration.get? key = s.configuration.get? key
  /-- A field of a payload has its value with the strings inside resolved. -/
  put : ∀ {instruction p}, Instruction.patch? instruction = some p → p.Sorted → ∀ {i t},
    (perform setting i instruction).run s = (.ok (), t) → ∀ {key v}, p.get? key = some v →
      ∃ w, Leafwise (Substitutes setting.resolver.limit setting.resolver.tables.configuration) v w ∧
        t.configuration.get? key = some w
  twice : ∀ {first second p}, Instruction.patch? first = some p → Instruction.patch? second = some p → p.Sorted →
    ∀ i j, (perform setting i first >>= fun _ => perform setting j second).run s = (perform setting i first).run s
  ok_iff : ∀ {instruction p}, Instruction.patch? instruction = some p → ∀ i,
    (∃ t, (perform setting i instruction).run s = (.ok (), t)) ↔ setting.resolver.Resolves p
  failed : ∀ {instruction p}, Instruction.patch? instruction = some p → ∀ {i e t},
    (perform setting i instruction).run s = (.error e, t) → t = s

/-- **Instructions with payloads compose as their payloads do.** -/
theorem patches_compose (setting : Setting) (s : Stage) : PatchesCompose setting s where
  overlay first second whole sorted resolves resolves' i j k := by
    rw [perform_of_patch first, perform_of_patch second, perform_of_patch whole]
    exact run_configure_overlay sorted resolves resolves' s
  put puts sorted i t run key v here := by
    rw [perform_of_patch puts] at run
    exact get?_of_configure sorted run here
  twice first second sorted i j := by
    rw [perform_of_patch first, perform_of_patch second]
    exact run_configure_twice sorted s
  ok_iff puts i := by
    rw [perform_of_patch puts]
    exact exists_run_configure_iff
  failed puts i e t run := by
    rw [perform_of_patch puts] at run
    exact eq_of_configure_failed run

/-- Two payloads with a field in common, the value of which has fields of its own. -/
def loraPatches : Fields × Fields :=
  ([("lora", .object [("file", .string "#wan"), ("weight", .int 1)]), ("steps", .int 8)],
    [("lora", .object [("file", .string "wan.ckpt")])])

/-- The shortcut in the first payload is resolved. The common field is then replaced as a whole, the
other one stays, and so does one that is in neither payload. -/
theorem patches_compose_lora :
    let setting : Setting :=
      { resolver := { tables := Shortcut.modelShortcut, cap := some 2, fuel := 0 }, settings := .default }
    let s : Stage :=
      .ofHost (.ofPictures "/pics") (.ofSource fun _ => 0) { fields := [("lora", .null), ("seed", .int 7)] } ""
    let i : Spot := { index := 0, frame := none }
    let whole := [("lora", .object [("file", .string "wan.ckpt")]), ("steps", .int 8)]
    ∃ u t, (perform setting i (.config loraPatches.1)).run s = (.ok (), u) ∧
      u.configuration.get? "lora" = some (.object [("file", .string "wan.ckpt"), ("weight", .int 1)]) ∧
      (perform setting i (.config loraPatches.1) >>= fun _ =>
        perform setting i (.inpaintTools loraPatches.2)).run s = (.ok (), t) ∧
      (perform setting i (.config whole)).run s = (.ok (), t) ∧
      t.configuration.get? "steps" = some (.int 8) ∧ t.configuration.get? "seed" = some (.int 7) := by
  intro setting s i whole
  have sorted : loraPatches.1.Sorted := by decide +kernel
  have whole_sorted : Fields.Sorted whole := by decide +kernel
  have resolves : setting.resolver.Resolves loraPatches.1 :=
    List.forall_mem_singleton.2 ⟨_, Shortcut.substitutes_modelShortcut⟩
  have resolves' : setting.resolver.Resolves loraPatches.2 :=
    List.forall_mem_singleton.2 ⟨_, Shortcut.substitutes_modelShortcut.again (by decide)⟩
  have first : (Instruction.config loraPatches.1).patch? = some loraPatches.1 := rfl
  have second : (Instruction.inpaintTools loraPatches.2).patch? = some loraPatches.2 := rfl
  have both : (Instruction.config whole).patch? = some (loraPatches.1.overlay loraPatches.2) := rfl
  have composes := patches_compose setting s
  obtain ⟨u, done⟩ := (composes.ok_iff first i).2 resolves
  obtain ⟨t, stepwise, at_once, kept⟩ := composes.overlay first second both sorted resolves resolves' i i i
  refine ⟨u, t, done, ?_, stepwise, at_once, ?_, kept "seed" (by decide) (by decide)⟩
  · have lora : loraPatches.1.get? "lora" = some (.object [("file", .string "#wan"), ("weight", .int 1)]) := rfl
    obtain ⟨w, related, there⟩ := composes.put first sorted done lora
    rw [there]
    cases related with | object fields =>
    cases fields with | cons file rest =>
    cases rest with | cons weight rest =>
    cases rest
    cases weight
    cases file with | string replaced =>
    obtain rfl := Shortcut.substitutes_modelShortcut.unique replaced
    rfl
  · have steps : Fields.get? "steps" whole = some (.int 8) := rfl
    obtain ⟨w, related, there⟩ := composes.put both whole_sorted at_once steps
    cases related
    exact there

end Stage

end CanvasScript
