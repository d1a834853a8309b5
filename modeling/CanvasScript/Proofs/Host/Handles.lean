import CanvasScript.Proofs.Host.Operation
import Mathlib.Data.List.DropRight
import Mathlib.Data.List.Nodup

/-!
# Images and masks in a log

Some calls make an image or a mask, and others take one that was made before or is a file
(`Call.FitsBehind`). As a host numbers what it hands out, no two calls in its life make
something of one name (`Host.nodup_of_lived`).
-/

namespace CanvasScript

namespace Call

/-- The mask that a call makes. -/
def mask? : Call → Option MaskHandle
  | backgroundMask mask | foregroundMask mask | bodyMask _ _ mask | createMask _ _ mask => some mask
  | _ => none

/-- Where the image is that a call makes. -/
def source? : Call → Option String
  | saveImageSrc src | saveDepthMapSrc src => some src
  | call => call.mask?.map MaskHandle.src

/-- The names of all that a call makes. -/
def handles (call : Call) : List String := call.source?.toList ++ (call.mask?.map MaskHandle.id).toList

/-- An image can be taken behind some calls: it is a file, or one of them has made it. -/
def Knows (earlier : List Call) (src : String) : Prop :=
  FilePath.isUrl src = true ∨ ∃ call ∈ earlier, call.source? = some src

/-- One of some calls has made a mask. -/
def Made (earlier : List Call) (mask : MaskHandle) : Prop := ∃ call ∈ earlier, call.mask? = some mask

/-- What a call takes is there behind some calls. A mask is filled right after it is made. -/
def FitsBehind (earlier : List Call) : Call → Prop
  | loadImageSrc src | extractDepthMap src | loadDepthMap src | loadPoseFromSrc src | loadMaskFromSrc src =>
    Knows earlier src
  | addToMoodboard sources => ∀ src ∈ sources, Knows earlier src
  | fillMaskRectangle id _ _ => ∃ size value mask, earlier.getLast? = some (createMask size value mask) ∧ mask.id = id
  | render request => ∀ mask ∈ request.mask, Made earlier mask
  | _ => True

/-- Every call of a log fits behind those before it. -/
def Fits (log : List Call) : Prop := ∀ i (call : Call), log[i]? = some call → call.FitsBehind (log.take i)

variable {log more : List Call} {call : Call}

theorem fits_nil : Fits [] := nofun

theorem Fits.push (fits : Fits log) (behind : call.FitsBehind log) : Fits (log ++ [call]) := by
  intro i other there
  rcases Nat.lt_trichotomy i log.length with inside | rfl | beyond
  · rw [List.getElem?_append_left inside] at there
    rw [List.take_append_of_le_length (Nat.le_of_lt inside)]
    exact fits i other there
  · rw [List.getElem?_append_right (Nat.le_refl _), Nat.sub_self] at there
    cases there
    rw [List.take_left]
    exact behind
  · have past : (log ++ [call]).length ≤ i := by
      rw [List.length_append, List.length_singleton]
      exact beyond
    rw [List.getElem?_eq_none past] at there
    cases there

/-- A call of an operation that is given no image or mask fits everywhere. -/
theorem fitsBehind_of_free (free : Host.takesHandle call.name = false) (log : List Call) : call.FitsBehind log := by
  cases call with
  | render _ | loadImageSrc _ | extractDepthMap _ | loadDepthMap _ | loadPoseFromSrc _ | loadMaskFromSrc _
  | addToMoodboard _ | fillMaskRectangle _ _ _ => exact absurd free (by simp [name, Host.takesHandle])
  | _ => trivial

theorem Fits.append (fits : Fits log) (free : ∀ call ∈ more, Host.takesHandle call.name = false) :
    Fits (log ++ more) := by
  induction more generalizing log with
  | nil =>
    rw [List.append_nil]
    exact fits
  | cons call more ih =>
    obtain ⟨here, later⟩ := List.forall_mem_cons.1 free
    have split : log ++ call :: more = (log ++ [call]) ++ more := by simp
    rw [split]
    exact ih (fits.push (fitsBehind_of_free here log)) later

/-- What is known stays known. -/
theorem Knows.append {src : String} (knows : Knows log src) (more : List Call) : Knows (log ++ more) src := by
  rcases knows with file | ⟨call, mem, made⟩
  · exact .inl file
  · exact .inr ⟨call, List.mem_append_left more mem, made⟩

theorem Made.append {mask : MaskHandle} (made : Made log mask) (more : List Call) : Made (log ++ more) mask := by
  obtain ⟨call, mem, here⟩ := made
  exact ⟨call, List.mem_append_left more mem, here⟩

/-- The image of a mask that is made is known. -/
theorem Made.knows {mask : MaskHandle} (made : Made log mask) : Knows log mask.src := by
  obtain ⟨call, mem, made⟩ := made
  refine .inr ⟨call, mem, ?_⟩
  cases call with
  | backgroundMask | foregroundMask | bodyMask | createMask =>
    cases made
    rfl
  | _ => cases made

end Call

namespace Host

section Names

/-- The number at the end of a name. -/
def numberIn (name : String) : Nat := Nat.ofDigitChars 10 (name.toList.rtakeWhile Char.isDigit) 0

/-- A number is read off a name in which no digit stands before it. -/
theorem numberIn_of_toList {name : String} {front : List Char} {sep : Char} {n : Nat} (plain : sep.isDigit = false)
    (parts : name.toList = front ++ sep :: Nat.toDigits 10 n) : numberIn name = n := by
  have digits : name.toList.rtakeWhile Char.isDigit = Nat.toDigits 10 n := by
    rw [parts, List.rtakeWhile, List.reverse_append, List.reverse_cons, List.append_assoc,
      List.takeWhile_append_of_pos]
    · simp [plain]
    · intro c mem
      exact Nat.isDigit_of_mem_toDigits (by omega) (by omega) (List.mem_reverse.1 mem)
  rw [numberIn, digits, Nat.ofDigitChars_ten_toDigits]

theorem numberIn_srcOf (what : String) (n : Nat) : numberIn (srcOf what n) = n := by
  have slash : '/'.isDigit = false := rfl
  refine numberIn_of_toList slash (?_ : (srcOf what n).toList = "dryrun://".toList ++ what.toList ++ _)
  rw [← Nat.toList_repr]
  simp only [srcOf, String.toList_append, List.append_assoc]
  rfl

theorem numberIn_id_maskOf (n : Nat) : numberIn (maskOf n).id = n := by
  have dash : '-'.isDigit = false := rfl
  refine numberIn_of_toList dash (?_ : (maskOf n).id.toList = "mask".toList ++ _)
  rw [← Nat.toList_repr]
  simp only [maskOf, String.toList_append]
  rfl

theorem srcOf_inj {what : String} {m n : Nat} : srcOf what m = srcOf what n ↔ m = n := by
  constructor
  · intro same
    rw [← numberIn_srcOf what m, same, numberIn_srcOf]
  · rintro rfl
    rfl

theorem maskOf_inj {m n : Nat} : maskOf m = maskOf n ↔ m = n := by
  constructor
  · intro same
    rw [← numberIn_id_maskOf m, same, numberIn_id_maskOf]
  · rintro rfl
    rfl

/-- An image and its mask have names that differ. -/
theorem srcOf_ne_id (what : String) (number n : Nat) : srcOf what number ≠ (maskOf n).id := by
  intro same
  have lists := congrArg String.toList same
  simp only [srcOf, maskOf, String.toList_append, List.append_assoc] at lists
  have first : some 'd' = some 'm' := congrArg List.head? lists
  exact absurd first (by decide)

end Names

/-- The names of all that a host has handed out. -/
def handles (host : Host) : List String := host.calls.toList.flatMap Call.handles

/-- The names that are handed out are different and have the numbers given so far. -/
structure Numbered (host : Host) : Prop where
  nodup : host.handles.Nodup
  below : ∀ name ∈ host.handles, numberIn name ≤ host.handedOut

/-- Operations that hand something out. -/
def handsOut (name : String) : Bool :=
  ["save_image_src", "save_depth_map_src", "background_mask", "foreground_mask", "body_mask", "create_mask"].contains name

section Numbers

variable {host after : Host}

theorem handles_of_not_handsOut {call : Call} (idle : handsOut call.name = false) : call.handles = [] := by
  cases call with
  | saveImageSrc _ | saveDepthMapSrc _ | backgroundMask _ | foregroundMask _ | bodyMask _ _ _ | createMask _ _ _ =>
    exact absurd idle (by simp [Call.name, handsOut])
  | _ => rfl

/-- Where nothing is handed out the names stay as they are. -/
theorem Numbered.of_adds (numbered : Numbered host) (adds : Adds (handsOut · = false) host after) : Numbered after := by
  obtain ⟨made, log, idle⟩ := adds.calls
  have same : after.handles = host.handles := by
    have none : made.flatMap Call.handles = [] :=
      List.flatMap_eq_nil_iff.2 fun call mem => handles_of_not_handsOut (idle call mem).1
    rw [handles, log, List.flatMap_append, none, List.append_nil, handles]
  refine ⟨same ▸ numbered.nodup, fun name mem => ?_⟩
  exact Nat.le_trans (numbered.below name (same ▸ mem)) adds.numbers

/-- What is handed out with the next number is new. -/
theorem Numbered.push (numbered : Numbered host) {call : Call} (distinct : call.handles.Nodup)
    (next : ∀ name ∈ call.handles, numberIn name = host.handedOut + 1) :
    Numbered { host with calls := host.calls.push call, handedOut := host.handedOut + 1 } := by
  have log : handles { host with calls := host.calls.push call, handedOut := host.handedOut + 1 } =
      host.handles ++ call.handles := by
    simp [handles]
  constructor
  · rw [log]
    refine List.nodup_append.2 ⟨numbered.nodup, distinct, fun old mem new made same => ?_⟩
    have bound := numbered.below old mem
    rw [same, next new made] at bound
    omega
  · rw [log]
    intro name mem
    rcases List.mem_append.1 mem with old | new
    · exact Nat.le_succ_of_le (numbered.below name old)
    · exact Nat.le_of_eq (next name new)

theorem Numbered.lose (numbered : Numbered host) : Numbered { host with handedOut := host.handedOut + 1 } :=
  ⟨numbered.nodup, fun name mem => Nat.le_succ_of_le (numbered.below name mem)⟩

/-- A mask is made with the next number. -/
theorem run_newMask_of_working {call : MaskHandle → Call}
    (works : host.failing ≠ some (call (maskOf (host.handedOut + 1))).name) :
    (newMask call).run host = (.ok (maskOf (host.handedOut + 1)),
      { host with calls := host.calls.push (call (maskOf (host.handedOut + 1))), handedOut := host.handedOut + 1 }) := by
  have recorded : (record (call (maskOf (host.handedOut + 1)))).run { host with handedOut := host.handedOut + 1 } = _ :=
    run_record_of_working works
  exact Attempt.run_bind_ok recorded _

/-- A mask is made, or its number is lost. -/
theorem run_newMask (call : MaskHandle → Call) (host : Host) :
    (∃ e, (newMask call).run host = (.error e, { host with handedOut := host.handedOut + 1 })) ∨
      (newMask call).run host = (.ok (maskOf (host.handedOut + 1)),
        { host with calls := host.calls.push (call (maskOf (host.handedOut + 1))), handedOut := host.handedOut + 1 }) := by
  by_cases fails : host.failing = some (call (maskOf (host.handedOut + 1))).name
  · have refused : (record (call (maskOf (host.handedOut + 1)))).run { host with handedOut := host.handedOut + 1 } = _ :=
      run_record_of_failing fails
    exact .inl ⟨_, Attempt.run_bind_error refused _⟩
  · exact .inr (run_newMask_of_working fails)

/-- An image is made with the next number. -/
theorem run_newSrc_of_working (what : String) {call : String → Call} (named : ∀ src, (call src).name = (call "").name)
    (works : host.failing ≠ some (call "").name) :
    (newSrc what call).run host = (.ok (srcOf what (host.handedOut + 1)),
      { host with
        calls := host.calls.push (call (srcOf what (host.handedOut + 1))), handedOut := host.handedOut + 1 }) := by
  have able : host.failing ≠ some (call (srcOf what (host.handedOut + 1))).name := by
    rw [named]
    exact works
  have recorded : (record (call (srcOf what (host.handedOut + 1)))).run { host with handedOut := host.handedOut + 1 } =
      _ := run_record_of_working able
  rw [newSrc, Attempt.run_bind_ok (run_guard_of_working works)]
  exact Attempt.run_bind_ok recorded _

/-- An image is made, unless that fails at once. -/
theorem run_newSrc (what : String) {call : String → Call} (named : ∀ src, (call src).name = (call "").name)
    (host : Host) :
    (∃ e, (newSrc what call).run host = (.error e, host)) ∨
      (newSrc what call).run host = (.ok (srcOf what (host.handedOut + 1)),
        { host with
          calls := host.calls.push (call (srcOf what (host.handedOut + 1))), handedOut := host.handedOut + 1 }) := by
  by_cases fails : host.failing = some (call "").name
  · exact .inl ⟨_, Attempt.run_bind_error (run_guard_of_failing fails) _⟩
  · exact .inr (run_newSrc_of_working what named fails)

theorem numbered_newMask {call : MaskHandle → Call} (makes : ∀ mask, (call mask).handles = [mask.src, mask.id])
    (numbered : Numbered host) : Numbered ((newMask call).run host).2 := by
  rcases run_newMask call host with ⟨e, failed⟩ | made
  · rw [failed]
    exact numbered.lose
  · rw [made]
    have next := makes (maskOf (host.handedOut + 1))
    refine numbered.push ?_ ?_
    · have distinct : (maskOf (host.handedOut + 1)).src ≠ (maskOf (host.handedOut + 1)).id := srcOf_ne_id "mask" _ _
      rw [next]
      simpa using distinct
    · rw [next]
      simp only [List.forall_mem_cons, List.not_mem_nil, false_imp_iff, implies_true, and_true]
      exact ⟨numberIn_srcOf "mask" _, numberIn_id_maskOf _⟩

theorem numbered_newSrc (what : String) {call : String → Call} (named : ∀ src, (call src).name = (call "").name)
    (makes : ∀ src, (call src).handles = [src]) (numbered : Numbered host) :
    Numbered ((newSrc what call).run host).2 := by
  rcases run_newSrc what named host with ⟨e, failed⟩ | made
  · rw [failed]
    exact numbered
  · rw [made]
    have next := makes (srcOf what (host.handedOut + 1))
    refine numbered.push ?_ ?_
    · rw [next]
      exact List.nodup_singleton _
    · rw [next, List.forall_mem_singleton]
      exact numberIn_srcOf what _

/-- Every operation numbers what it hands out. -/
theorem Operation.numbered {name : String} {x : HostAction α} (op : Operation name x) (numbered : Numbered host) :
    Numbered (x.run host).2 := by
  by_cases idle : handsOut name = false
  · refine numbered.of_adds ((op.within_adds host).mono ?_)
    rintro _ rfl
    exact idle
  · cases op with
    | saveImageSrc => exact numbered_newSrc "canvas" (fun _ => rfl) (fun _ => rfl) numbered
    | saveDepthMapSrc => exact numbered_newSrc "depth" (fun _ => rfl) (fun _ => rfl) numbered
    | backgroundMask | foregroundMask | bodyMask _ _ | createMask _ _ =>
      exact numbered_newMask (fun _ => rfl) numbered
    | _ => exact absurd (by decide) idle

end Numbers

/-- A host as it can be in its life: it starts with nothing asked of it, may be set up
otherwise at any time, and carries out operations. -/
inductive Lived : Host → Prop where
  | fresh {host : Host} (silent : host.calls = #[]) (none : host.handedOut = 0) : Lived host
  | setUp {host other : Host} (lived : Lived host) (log : other.calls = host.calls)
      (numbers : other.handedOut = host.handedOut) : Lived other
  | operation {host : Host} {name : String} {α : Type} {x : HostAction α} (lived : Lived host) (op : Operation name x) :
      Lived (x.run host).2

theorem Lived.numbered {host : Host} (lived : host.Lived) : host.Numbered := by
  induction lived with
  | @fresh host silent none =>
    have empty : host.handles = [] := by rw [handles, silent]; rfl
    exact ⟨empty ▸ List.nodup_nil, by simp [empty]⟩
  | @setUp host other _ log numbers numbered =>
    have same : other.handles = host.handles := by rw [handles, log, handles]
    exact ⟨same ▸ numbered.nodup, fun name mem => numbers ▸ numbered.below name (same ▸ mem)⟩
  | operation _ op numbered => exact op.numbered numbered

/-- No two things that are handed out in the life of a host have one name. -/
theorem nodup_of_lived {host : Host} (lived : host.Lived) : host.handles.Nodup := lived.numbered.nodup

end Host

end CanvasScript
