import CanvasScript.Proofs.Json.Records
import Mathlib.Data.String.Basic

/-!
# Sorted fields

Fields that are put into a list one by one are sorted by key, and what stands under a key is
the last value that was put under it (`Fields.get?_ofList`). Sorted fields are told apart by
what stands under their keys (`Fields.eq_of_get?`), so pairs in another order make the same
fields as long as no two of them have one key (`Fields.ofList_swap`). Patches may be laid over
fields one after the other or over each other first (`Fields.overlay_overlay`).
-/

namespace CanvasScript.Json.Fields

variable {fields others : Fields} {key other : String} {v w : Value}

/-- Every key is less than those behind it. -/
def Sorted (fields : Fields) : Prop := fields.Pairwise fun first second => first.1 < second.1

instance (fields : Fields) : Decidable (Sorted fields) :=
  inferInstanceAs (Decidable (fields.Pairwise fun first second => first.1 < second.1))

/-- No key stands twice. -/
def Distinct (fields : Fields) : Prop := (fields.map (·.1)).Nodup

instance (fields : Fields) : Decidable (Distinct fields) := inferInstanceAs (Decidable (fields.map (·.1)).Nodup)

theorem distinct_cons_iff {field : String × Value} :
    Distinct (field :: fields) ↔ (∀ later ∈ fields, later.1 ≠ field.1) ∧ Distinct fields := by
  unfold Distinct
  rw [List.map_cons, List.nodup_cons, ← List.forall_mem_ne', List.forall_mem_map]

/-- A key that no field has is not missed. -/
theorem filter_ne_eq_self (apart : ∀ field ∈ fields, field.1 ≠ key) :
    (fields.filter fun field => field.1 != key) = fields := by
  apply List.filter_eq_self.2
  intro field mem
  simpa using apart field mem

/-- Whether fields are sorted is told by their keys. -/
theorem Sorted.of_keys_eq (sorted : Sorted fields) (same : others.map (·.1) = fields.map (·.1)) : Sorted others := by
  have keys : (fields.map (·.1)).Pairwise (· < ·) := List.pairwise_map.2 sorted
  rw [← same] at keys
  exact List.pairwise_map.1 keys

theorem Sorted.distinct (sorted : Sorted fields) : Distinct fields :=
  List.pairwise_map.2 (sorted.imp fun less => less.ne)

theorem get?_cons (key : String) (field : String × Value) (rest : Fields) :
    get? key (field :: rest) = if field.1 = key then some field.2 else get? key rest := by
  unfold get?
  by_cases same : field.1 = key
  · simp [same]
  · have apart : (field.1 == key) = false := beq_eq_false_iff_ne.2 same
    simp [apart, same]

theorem get?_append (key : String) (first second : Fields) :
    get? key (first ++ second) = (get? key first).or (get? key second) := by
  unfold get?
  rw [List.find?_append, Option.map_or]

/-- Fields of which the values are changed by a function. -/
theorem get?_map (f : Value → Value) (key : String) (fields : Fields) :
    get? key (fields.map fun field => (field.1, f field.2)) = (get? key fields).map f := by
  induction fields with
  | nil => rfl
  | cons field rest ih =>
    rw [List.map_cons, get?_cons, get?_cons, ih]
    split <;> rfl

theorem mem_iff_get? (distinct : Distinct fields) : (key, v) ∈ fields ↔ get? key fields = some v := by
  refine ⟨fun member => ?_, mem_of_get?⟩
  cases found : get? key fields with
  | none => exact absurd member (not_mem_of_get? found v)
  | some w =>
    have one : v = w := congrArg Prod.snd (List.inj_on_of_nodup_map distinct member (mem_of_get? found) rfl)
    rw [one]

/-- In the opposite order the same is found when no key stands twice. -/
theorem get?_reverse (distinct : Distinct fields) : get? key fields.reverse = get? key fields := by
  have back : Distinct fields.reverse := by
    rw [Distinct, List.map_reverse]
    exact List.nodup_reverse.2 distinct
  refine Option.ext fun v => ?_
  rw [← mem_iff_get? back, ← mem_iff_get? distinct, List.mem_reverse]

/-- Sorted fields are the same when the same is found under every key. -/
theorem eq_of_get? (sorted : Sorted fields) (sorted' : Sorted others)
    (same : ∀ key, get? key fields = get? key others) : fields = others := by
  have members (field : String × Value) : field ∈ fields ↔ field ∈ others := by
    obtain ⟨key, v⟩ := field
    rw [mem_iff_get? sorted.distinct, mem_iff_get? sorted'.distinct, same]
  have perm : fields.Perm others :=
    (List.perm_ext_iff_of_nodup sorted.distinct.of_map sorted'.distinct.of_map).2 members
  exact perm.eq_of_pairwise (fun a b _ _ ab ba => absurd ba ab.asymm) sorted sorted'

theorem mem_of_mem_insert {field : String × Value} (mem : field ∈ insert key v fields) :
    field = (key, v) ∨ field ∈ fields := by
  induction fields with
  | nil => exact .inl (List.mem_singleton.1 mem)
  | cons first rest ih =>
    obtain ⟨k, u⟩ := first
    unfold insert at mem
    split at mem
    · exact List.mem_cons.1 mem
    · split at mem
      · exact (List.mem_cons.1 mem).imp_right (List.mem_cons_of_mem _)
      · rcases List.mem_cons.1 mem with rfl | later
        · exact .inr List.mem_cons_self
        · exact (ih later).imp_right (List.mem_cons_of_mem _)

theorem Sorted.insert (sorted : Sorted fields) (key : String) (v : Value) : Sorted (insert key v fields) := by
  induction fields with
  | nil => exact List.pairwise_singleton _ _
  | cons first rest ih =>
    obtain ⟨k, u⟩ := first
    obtain ⟨least, later⟩ := List.pairwise_cons.1 sorted
    unfold Fields.insert
    split
    case isTrue before =>
      refine List.pairwise_cons.2 ⟨fun field mem => ?_, sorted⟩
      rcases List.mem_cons.1 mem with rfl | behind
      · exact before
      · exact before.trans (least field behind)
    case isFalse notBefore =>
      split
      case isTrue same =>
        subst same
        exact List.pairwise_cons.2 ⟨least, later⟩
      case isFalse apart =>
        have after : k < key := lt_of_le_of_ne (not_lt.1 notBefore) (Ne.symm apart)
        refine List.pairwise_cons.2 ⟨fun field mem => ?_, ih later⟩
        rcases mem_of_mem_insert mem with rfl | behind
        · exact after
        · exact least field behind

theorem Sorted.overlay (sorted : Sorted fields) (patch : Fields) : Sorted (overlay fields patch) := by
  induction patch generalizing fields with
  | nil => exact sorted
  | cons field patch ih => exact ih (sorted.insert field.1 field.2)

theorem sorted_ofList (pairs : Fields) : Sorted (ofList pairs) := Sorted.overlay List.Pairwise.nil pairs

theorem overlay_cons (fields : Fields) (key : String) (v : Value) (patch : Fields) :
    overlay fields ((key, v) :: patch) = overlay (Fields.insert key v fields) patch := rfl

/-- The last value that was put under a key counts, and then the one that was there. -/
theorem get?_overlay (fields patch : Fields) (key : String) :
    get? key (overlay fields patch) = (get? key patch.reverse).or (get? key fields) := by
  induction patch generalizing fields with
  | nil => rfl
  | cons field patch ih =>
    obtain ⟨k, v⟩ := field
    rw [overlay_cons, ih, List.reverse_cons, get?_append, Option.or_assoc]
    congr 1
    by_cases same : key = k
    · rw [same, get?_insert_self, get?_cons]
      simp
    · rw [get?_insert_of_ne same, get?_cons, if_neg (Ne.symm same)]
      rfl

theorem get?_ofList (pairs : Fields) (key : String) : get? key (ofList pairs) = get? key pairs.reverse := by
  rw [ofList, get?_overlay, get?_nil, Option.or_none]

theorem get?_ofList_of_distinct (distinct : Distinct fields) (key : String) :
    get? key (ofList fields) = get? key fields := by
  rw [get?_ofList, get?_reverse distinct]

theorem mem_of_mem_ofList {field : String × Value} (mem : field ∈ ofList fields) : field ∈ fields := by
  obtain ⟨key, v⟩ := field
  have found := (mem_iff_get? (sorted_ofList fields).distinct).1 mem
  rw [get?_ofList] at found
  exact List.mem_reverse.1 (mem_of_get? found)

/-- Fields that are sorted are left as they are. -/
theorem ofList_of_sorted (sorted : Sorted fields) : ofList fields = fields :=
  eq_of_get? (sorted_ofList fields) sorted (get?_ofList_of_distinct sorted.distinct)

/-- Two pairs with different keys may be put in either way round. -/
theorem ofList_swap (apart : key ≠ other) (first second : Fields) :
    ofList (first ++ (key, v) :: (other, w) :: second) = ofList (first ++ (other, w) :: (key, v) :: second) := by
  refine eq_of_get? (sorted_ofList _) (sorted_ofList _) fun name => ?_
  rw [get?_ofList, get?_ofList]
  simp only [List.reverse_append, List.reverse_cons, List.append_assoc, List.singleton_append, get?_append]
  congr 1
  rw [get?_cons, get?_cons, get?_cons, get?_cons]
  by_cases here : key = name
  · rw [if_pos here, if_neg (here ▸ Ne.symm apart), if_pos here]
  · rw [if_neg here, if_neg here]

section Patches

variable {patch : Fields}

/-- What was put under a key before does not matter. -/
theorem insert_insert_self (key : String) (v w : Value) (fields : Fields) :
    insert key v (insert key w fields) = insert key v fields := by
  induction fields with
  | nil => simp [insert]
  | cons field rest ih =>
    obtain ⟨k, u⟩ := field
    rcases lt_trichotomy key k with before | rfl | behind
    · simp [insert, before]
    · simp [insert]
    · simp [insert, behind.not_gt, behind.ne', ih]

theorem insert_comm_of_lt (less : key < other) (v w : Value) (fields : Fields) :
    insert key v (insert other w fields) = insert other w (insert key v fields) := by
  induction fields with
  | nil => simp [insert, less, less.not_gt, less.ne']
  | cons field rest ih =>
    obtain ⟨k, u⟩ := field
    rcases lt_trichotomy key k with before | rfl | behind
    · rcases lt_trichotomy other k with first | rfl | later
      · simp [insert, less, less.not_gt, less.ne', before, first]
      · simp [insert, less, less.not_gt, less.ne']
      · simp [insert, less.not_gt, less.ne', before, later.not_gt, later.ne']
    · simp [insert, less.not_gt, less.ne']
    · have later : k < other := behind.trans less
      simp [insert, behind.not_gt, behind.ne', later.not_gt, later.ne', ih]

/-- What is put under two keys may be put there either way round. -/
theorem insert_comm (apart : key ≠ other) (v w : Value) (fields : Fields) :
    insert key v (insert other w fields) = insert other w (insert key v fields) := by
  rcases lt_or_gt_of_ne apart with less | greater
  · exact insert_comm_of_lt less v w fields
  · exact (insert_comm_of_lt greater w v fields).symm

/-- A field may be put in before or after others with other keys. -/
theorem overlay_insert_of_forall_ne (apart : ∀ field ∈ patch, key ≠ field.1) (v : Value)
    (fields : Fields) : overlay (insert key v fields) patch = insert key v (overlay fields patch) := by
  induction patch generalizing fields with
  | nil => rfl
  | cons field patch ih =>
    obtain ⟨here, later⟩ := List.forall_mem_cons.1 apart
    rw [overlay_cons, overlay_cons, insert_comm here.symm, ih later]

/-- A field put into what is laid over fields is put into what comes of it. -/
theorem overlay_insert (sorted : Sorted patch) (key : String) (v : Value) (fields : Fields) :
    overlay fields (insert key v patch) = insert key v (overlay fields patch) := by
  induction patch generalizing fields with
  | nil => rfl
  | cons field patch ih =>
    obtain ⟨k, u⟩ := field
    obtain ⟨least, later⟩ := List.pairwise_cons.1 sorted
    have behind : ∀ field ∈ patch, k ≠ field.1 := fun field mem => (least field mem).ne
    rcases lt_trichotomy key k with before | rfl | after
    · have apart : ∀ field ∈ (k, u) :: patch, key ≠ field.1 :=
        List.forall_mem_cons.2 ⟨before.ne, fun field mem => (before.trans (least field mem)).ne⟩
      rw [← overlay_insert_of_forall_ne apart]
      simp [insert, before, overlay_cons]
    · rw [overlay_cons, overlay_insert_of_forall_ne behind, insert_insert_self, ← overlay_insert_of_forall_ne behind]
      simp [insert, overlay_cons]
    · rw [overlay_cons, ← ih later]
      simp [insert, after.not_gt, after.ne', overlay_cons]

/-- Laying two patches over fields one after the other is laying them over at once. -/
theorem overlay_overlay {first : Fields} (sorted : Sorted first) (fields second : Fields) :
    overlay fields (overlay first second) = overlay (overlay fields first) second := by
  induction second generalizing first with
  | nil => rfl
  | cons field second ih =>
    rw [overlay_cons, overlay_cons, ih (sorted.insert field.1 field.2), overlay_insert sorted]

/-- Sorted fields are not changed when they are laid over themselves. -/
theorem overlay_self (sorted : Sorted fields) : overlay fields fields = fields := by
  refine eq_of_get? (sorted.overlay fields) sorted fun key => ?_
  rw [get?_overlay, get?_reverse sorted.distinct, Option.or_self]

/-- What is found under a key that is not in the patch is as before. -/
theorem get?_overlay_of_not_mem (other : key ∉ patch.map (·.1)) (fields : Fields) :
    get? key (overlay fields patch) = get? key fields := by
  induction patch generalizing fields with
  | nil => rfl
  | cons field patch ih =>
    rw [List.map_cons, List.mem_cons, not_or] at other
    obtain ⟨here, later⟩ := other
    rw [overlay_cons, ih later, get?_insert_of_ne here]

end Patches

end CanvasScript.Json.Fields
