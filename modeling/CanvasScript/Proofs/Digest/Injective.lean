import CanvasScript.Digest
import CanvasScript.Proofs.Json.Blanks
import CanvasScript.Proofs.Json.Canonical
import CanvasScript.Proofs.Json.Printing
import Mathlib

/-!
# Digests tell entries apart

The bytes that a digest is taken of are those of the texts of the entries, each with a line end
behind it (`digestBytes_eq`). As a text spells one value and a line end is no part of one, these
characters tell the entries with sorted fields (`digestChars_eq_iff`), and so do the bytes:
nothing but blanks and the order of fields can change in a text without them.
-/

namespace CanvasScript

open Json
open Value (Same Proper Rearranged)

section Bytes

theorem toList_loop (bytes : ByteArray) (i : Nat) (read : List UInt8) :
    ByteArray.toList.loop bytes i read = read.reverse ++ bytes.data.toList.drop i := by
  fun_induction ByteArray.toList.loop bytes i read with
  | case1 i read inside ih =>
    have here : i < bytes.data.toList.length := inside
    have byte : bytes.get! i = bytes.data.toList[i] := getElem!_pos bytes.data i here
    rw [ih, List.drop_eq_getElem_cons here, byte, List.reverse_cons, List.append_assoc, List.singleton_append]
  | case2 i read outside =>
    rw [List.drop_eq_nil_of_le (Nat.le_of_not_lt outside), List.append_nil]

theorem toList_bytes (bytes : ByteArray) : bytes.toList = bytes.data.toList := by
  rw [ByteArray.toList, toList_loop]
  rfl

/-- The characters that a digest is taken of. -/
def digestChars (entries : List Value) : List Char :=
  entries.flatMap fun entry => compactChars entry.canonical ++ ['\n']

/-- The bytes of a digest are those of its characters. -/
theorem digestBytes_eq (entries : List Value) : digestBytes entries = (digestChars entries).utf8Encode.data.toList := by
  have lineEnd : ['\n'].utf8Encode.data.toList = [10] := rfl
  induction entries with
  | nil => rfl
  | cons entry entries ih =>
    have chars : digestChars (entry :: entries) = (compactChars entry.canonical ++ ['\n']) ++ digestChars entries := rfl
    have bytes : digestBytes (entry :: entries) =
        ((canonicalText entry).toUTF8.toList ++ [10]) ++ digestBytes entries := rfl
    rw [chars, bytes, ih, toList_bytes, canonicalText, Value.compact, String.toUTF8_eq_toByteArray,
      String.toByteArray_ofList, List.utf8Encode_append, List.utf8Encode_append, ByteArray.data_append,
      ByteArray.data_append, Array.toList_append, Array.toList_append, lineEnd]

theorem digestBytes_eq_iff_digestChars {xs ys : List Value} :
    digestBytes xs = digestBytes ys ↔ digestChars xs = digestChars ys := by
  rw [digestBytes_eq, digestBytes_eq]
  constructor
  · intro same
    have encoded := ByteArray.ext (Array.toList_inj.1 same)
    rwa [← String.toByteArray_ofList, ← String.toByteArray_ofList, String.toByteArray_inj, String.ofList_inj] at encoded
  · intro same
    rw [same]

end Bytes

section Entries

variable {xs ys : List Value}

/-- A text does not go on behind its line end. -/
theorem closed_lineEnd (rest : List Char) : Closed ('\n' :: rest) :=
  closed_cons (c := '\n') (by decide) (by decide) (by decide) (by decide) rest

theorem digestChars_cons (v : Value) (xs : List Value) :
    digestChars (v :: xs) = compactChars v.canonical ++ '\n' :: digestChars xs := by
  rw [digestChars, List.flatMap_cons, List.append_assoc]
  rfl

/-- The text of the first entry ends where its value does. -/
theorem canonical_of_digestChars {v w : Value} (proper : v.Proper) (proper' : w.Proper)
    (same : digestChars (v :: xs) = digestChars (w :: ys)) :
    v.canonical = w.canonical ∧ digestChars xs = digestChars ys := by
  obtain ⟨depth, spells⟩ := proper.canonical.exists_spells
  obtain ⟨depth', spells'⟩ := proper'.canonical.exists_spells
  rw [digestChars_cons, digestChars_cons] at same
  obtain ⟨values, rest⟩ := Spells.unique (spells.mono (Nat.le_max_left depth depth'))
    (spells'.mono (Nat.le_max_right depth depth')) (closed_lineEnd _) (closed_lineEnd _) same
  exact ⟨values, List.tail_eq_of_cons_eq rest⟩

theorem digestChars_eq_iff (proper : ∀ v ∈ xs, v.Proper) (proper' : ∀ v ∈ ys, v.Proper) :
    digestChars xs = digestChars ys ↔ xs.map Value.canonical = ys.map Value.canonical := by
  have nonempty (v : Value) (rest : List Value) : digestChars (v :: rest) ≠ [] := by
    rw [digestChars_cons]
    exact List.append_ne_nil_of_right_ne_nil _ (List.cons_ne_nil _ _)
  constructor
  · intro same
    induction xs generalizing ys with
    | nil =>
      cases ys with
      | nil => rfl
      | cons w ys => exact absurd same.symm (nonempty w ys)
    | cons v xs ih =>
      cases ys with
      | nil => exact absurd same (nonempty v xs)
      | cons w ys =>
        obtain ⟨here, behind⟩ := List.forall_mem_cons.1 proper
        obtain ⟨here', behind'⟩ := List.forall_mem_cons.1 proper'
        obtain ⟨first, rest⟩ := canonical_of_digestChars here here' same
        rw [List.map_cons, List.map_cons, first, ih behind behind' rest]
  · intro same
    have sorted (entries : List Value) :
        digestChars entries = (entries.map Value.canonical).flatMap fun v => compactChars v ++ ['\n'] :=
      (List.flatMap_map Value.canonical (fun v => compactChars v ++ ['\n']) entries).symm
    rw [sorted, sorted, same]

/-- Entries with sorted fields are equal when the entries are the same, one by one. -/
theorem map_canonical_eq_iff (proper : ∀ v ∈ xs, v.Proper) (proper' : ∀ v ∈ ys, v.Proper) :
    xs.map Value.canonical = ys.map Value.canonical ↔ List.Forall₂ Same xs ys := by
  induction xs generalizing ys with
  | nil => cases ys <;> simp
  | cons v xs ih =>
    cases ys with
    | nil => simp
    | cons w ys =>
      obtain ⟨here, behind⟩ := List.forall_mem_cons.1 proper
      obtain ⟨here', behind'⟩ := List.forall_mem_cons.1 proper'
      rw [List.map_cons, List.map_cons, List.cons.injEq, List.forall₂_cons, Value.canonical_eq_iff here here',
        ih behind behind']

/-- Bytes of a digest are equal when the entries are the same, one by one. -/
theorem digestBytes_eq_iff_same (proper : ∀ v ∈ xs, v.Proper) (proper' : ∀ v ∈ ys, v.Proper) :
    digestBytes xs = digestBytes ys ↔ List.Forall₂ Same xs ys := by
  rw [digestBytes_eq_iff_digestChars, digestChars_eq_iff proper proper', map_canonical_eq_iff proper proper']

end Entries

section Texts

variable {first second : String} {xs ys : List Value}

/-- Fields of entries that are read are sorted already, so their digest tells them all. -/
theorem digestBytes_eq_iff_of_readEntries (read : readEntries first = .ok xs) (read' : readEntries second = .ok ys) :
    digestBytes xs = digestBytes ys ↔ xs = ys := by
  have sorted {text : String} {vs : List Value} (read : readEntries text = .ok vs) : vs.map Value.canonical = vs :=
    (List.map_congr_left fun v mem => (proper_of_readEntries read v mem).2).trans (List.map_id vs)
  rw [digestBytes_eq_iff_digestChars, digestChars_eq_iff (fun v mem => (proper_of_readEntries read v mem).1)
    (fun v mem => (proper_of_readEntries read' v mem).1), sorted read, sorted read']

theorem entries_eq_of_withoutBlanks (read : readEntries first = .ok xs) (read' : readEntries second = .ok ys)
    (same : withoutBlanks first = withoutBlanks second) : xs = ys := by
  have here := readEntries_withoutBlanks read
  rw [same, readEntries_withoutBlanks read'] at here
  exact (Except.ok.inj here).symm

theorem entries_eq_of_rearranged (read : readEntries first = .ok xs) (read' : readEntries second = .ok ys)
    {v w : Value} (written : asWritten first = .ok v) (written' : asWritten second = .ok w)
    (rearranged : Rearranged v w) : xs = ys := by
  obtain ⟨vs, isList, rfl⟩ := readEntries_eq_ok_iff.1 read
  obtain ⟨ws, isList', rfl⟩ := readEntries_eq_ok_iff.1 read'
  obtain rfl := Except.ok.inj (written.symm.trans isList)
  obtain rfl := Except.ok.inj (written'.symm.trans isList')
  have sorted := Value.canonical_of_rearranged rearranged
  rwa [Value.canonical_array, Value.canonical_array, Value.array.injEq] at sorted

end Texts

/-- **Digests tell entries apart**: a digest is the hash of bytes that spell the texts of the
entries, and these bytes are equal when the entries are the same, one by one, and only then. So
texts that differ in blanks or in the order of different fields have one digest, and texts whose
entries differ otherwise have other bytes. -/
theorem digestBytes_tell_entries :
    (∀ xs : List Value, scriptDigest xs = Sha256.hex (digestBytes xs) ∧
      digestBytes xs = (digestChars xs).utf8Encode.data.toList) ∧
    (∀ xs ys : List Value, (∀ v ∈ xs, v.Proper) → (∀ v ∈ ys, v.Proper) →
      (digestBytes xs = digestBytes ys ↔ List.Forall₂ Same xs ys)) ∧
    (∀ (first second : String) (xs ys : List Value), readEntries first = .ok xs → readEntries second = .ok ys →
      (∀ v ∈ xs, v.Proper) ∧ (digestBytes xs = digestBytes ys ↔ xs = ys) ∧
      (withoutBlanks first = withoutBlanks second → scriptDigest xs = scriptDigest ys) ∧
      ∀ v w, asWritten first = .ok v → asWritten second = .ok w → Rearranged v w →
        scriptDigest xs = scriptDigest ys) := by
  refine ⟨fun xs => ⟨rfl, digestBytes_eq xs⟩, fun xs ys proper proper' => digestBytes_eq_iff_same proper proper',
    fun first second xs ys read read' => ?_⟩
  refine ⟨fun v mem => (proper_of_readEntries read v mem).1, digestBytes_eq_iff_of_readEntries read read', ?_, ?_⟩
  · intro same
    rw [entries_eq_of_withoutBlanks read read' same]
  · intro v w written written' rearranged
    rw [entries_eq_of_rearranged read read' written written' rearranged]

section Noted

/-- A note and a zero. -/
def noted : String := "[\x7b\"note\":\"a b\",\"zoom\":-0.0\x7d]"

def notedWithBlanks : String := " [\x7b\"note\": \"a b\", \"zoom\": -0.0\x7d]"

def notedBackwards : String := "[\x7b\"zoom\":-0.0,\"note\":\"a b\"\x7d]"

/-- With the other zero. -/
def notedPositive : String := "[\x7b\"note\":\"a b\",\"zoom\":0.0\x7d]"

def negativeZero : Value := .float { Binary64.zero with negative := true }

/-- Blanks and the order of fields do not change the digest; the sign of a zero changes its bytes,
and so does a list in the place of its elements. -/
theorem digestBytes_tell_entries_noted :
    digestBytes [.int 1, .int 2] ≠ digestBytes [.array [.int 1, .int 2]] ∧
    ∃ xs ys zs ws, readEntries noted = .ok xs ∧ readEntries notedWithBlanks = .ok ys ∧
      readEntries notedBackwards = .ok zs ∧ readEntries notedPositive = .ok ws ∧
      scriptDigest xs = scriptDigest ys ∧ scriptDigest xs = scriptDigest zs ∧ digestBytes xs ≠ digestBytes ws := by
  have read : readEntries noted = .ok [.object [("note", .string "a b"), ("zoom", negativeZero)]] := by cbv
  have read' : readEntries notedWithBlanks = .ok [.object [("note", .string "a b"), ("zoom", negativeZero)]] := by cbv
  have read'' : readEntries notedBackwards = .ok [.object [("note", .string "a b"), ("zoom", negativeZero)]] := by cbv
  have other : readEntries notedPositive = .ok [.object [("note", .string "a b"), ("zoom", .float .zero)]] := by cbv
  have blanks : withoutBlanks noted = withoutBlanks notedWithBlanks := by cbv
  have written : asWritten noted = .ok (.array [.object [("note", .string "a b"), ("zoom", negativeZero)]]) := by cbv
  have written' : asWritten notedBackwards =
      .ok (.array [.object [("zoom", negativeZero), ("note", .string "a b")]]) := by cbv
  have rearranged : Rearranged (.array [.object [("note", .string "a b"), ("zoom", negativeZero)]])
      (.array [.object [("zoom", negativeZero), ("note", .string "a b")]]) :=
    .item [] [] (.swap (by decide) [] _ _ [])
  obtain ⟨-, same, texts⟩ := digestBytes_tell_entries
  refine ⟨?_, _, _, _, _, read, read', read'', other, (texts _ _ _ _ read read').2.2.1 blanks,
    (texts _ _ _ _ read read'').2.2.2 _ _ written written' rearranged, ?_⟩
  · intro bytes
    have one : Proper (.int 1) := .int (by decide) (by decide)
    have two : Proper (.int 2) := .int (by decide) (by decide)
    have both : ∀ v ∈ [Value.int 1, .int 2], v.Proper := List.forall_mem_cons.2 ⟨one, List.forall_mem_singleton.2 two⟩
    have list := (same _ _ both (List.forall_mem_singleton.2 (.array both))).1 bytes
    exact absurd list.length_eq (by decide)
  · intro bytes
    have entries := (texts _ _ _ _ read other).2.1.1 bytes
    simp [negativeZero, Binary64.zero] at entries

end Noted

end CanvasScript
