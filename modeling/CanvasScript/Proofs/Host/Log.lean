import CanvasScript.Host
import CanvasScript.Proofs.Attempt

/-!
# The log of a host

Which calls of a host touch files can be read off them: images that are saved and
loaded, and sources that are the address of a file (`Call.touchesFile`). All other
operations only add calls to the log that touch none, and never change what the host
was set up with (`Host.Spares`). What a host hands out is never at the address of a file.
-/

namespace CanvasScript

/-- The address of a file. -/
def FilePath.isUrl (address : String) : Bool := "file://".toList.isPrefixOf address.toList

theorem FilePath.isUrl_url (path : String) : isUrl (url path) = true := by
  rw [isUrl, List.isPrefixOf_iff_prefix, url, String.toList_append]
  exact List.prefix_append _ _

/-- A call that reads or writes a file. -/
def Call.touchesFile : Call → Bool
  | saveImage _ _ | loadImage _ => true
  | addToMoodboard sources => sources.any FilePath.isUrl
  | loadMaskFromSrc src => FilePath.isUrl src
  | _ => false

namespace Host

/-- What a host was set up with: all but its log, the numbers it has given, and the canvas. -/
def setup (h : Host) : Host :=
  { h with canvas := { width := .zero, height := .zero }, zoom := .zero, calls := #[], handedOut := 0 }

@[simp] theorem failing_setup (host : Host) : host.setup.failing = host.failing := rfl

/-- A host lists the files that it was set up with. -/
@[simp] theorem filesOf_setup (host : Host) (directory : String) :
    host.setup.filesOf directory = host.filesOf directory := rfl

/-- No file is touched between two states of a host, which is set up as before. -/
structure Spares (before after : Host) : Prop where
  calls : ∃ made, after.calls.toList = before.calls.toList ++ made ∧ ∀ call ∈ made, call.touchesFile = false
  setup : after.setup = before.setup

/-- A host on which only the canvas and the numbers it has given are other than before. -/
theorem Spares.of_same_log {before after : Host} (calls : after.calls = before.calls)
    (setup : after.setup = before.setup) : Spares before after where
  calls := ⟨[], by simp [calls], List.forall_mem_nil _⟩
  setup

instance : IsPreorder Host Spares where
  refl h := .of_same_log rfl rfl
  trans before between after first second := by
    obtain ⟨made, here, all⟩ := first.calls
    obtain ⟨more, there, all'⟩ := second.calls
    refine ⟨⟨made ++ more, ?_, ?_⟩, second.setup.trans first.setup⟩
    · rw [there, here, List.append_assoc]
    · exact List.forall_mem_append.2 ⟨all, all'⟩

theorem spares_push {call : Call} (h : call.touchesFile = false) (host : Host) :
    Spares host { host with calls := host.calls.push call } where
  calls := ⟨[call], by simp, by simpa using h⟩
  setup := rfl

section Guard

variable {host : Host} {operation : String}

theorem run_guard_of_failing (fails : host.failing = some operation) :
    (guard operation).run host = (.error (injected operation), host) := if_pos fails

theorem run_guard_of_working (works : host.failing ≠ some operation) :
    (guard operation).run host = (.ok (), host) := if_neg works

end Guard

/-- A call is recorded and nothing else happens, unless its operation fails. -/
theorem run_record (call : Call) (host : Host) :
    (∃ e, (record call).run host = (.error e, host)) ∨
      (record call).run host = (.ok (), { host with calls := host.calls.push call }) := by
  by_cases fails : host.failing = some call.name
  · exact .inl ⟨_, Attempt.run_bind_error (run_guard_of_failing fails) _⟩
  · exact .inr (Attempt.run_bind_ok (run_guard_of_working fails) _)

/-- Reading a directory changes nothing, and gives its files if it does not fail by itself. -/
theorem run_readEntries (directory : String) (host : Host) :
    (∃ e, (readEntries directory).run host = (.error e, host)) ∨
      (readEntries directory).run host = (host.filesOf directory, host) := by
  by_cases fails : host.failing = some "read_entries"
  · exact .inl ⟨_, Attempt.run_bind_error (run_guard_of_failing fails) _⟩
  · exact .inr (Attempt.run_bind_ok (run_guard_of_working fails) _)

theorem within_guard (operation : String) : (guard operation).Within Spares := by
  intro host
  by_cases fails : host.failing = some operation
  · rw [run_guard_of_failing fails]
    exact refl_of _ host
  · rw [run_guard_of_working fails]
    exact refl_of _ host

theorem within_record {call : Call} (h : call.touchesFile = false) : (record call).Within Spares :=
  (within_guard call.name).bind fun _ => .modify fun host => spares_push h host

theorem within_query (operation : String) (f : Host → α) : (query operation f).Within Spares :=
  (within_guard operation).bind fun _ => .gets f

theorem within_takeNumber : takeNumber.Within Spares := fun _ => .of_same_log rfl rfl

theorem within_newMask {call : MaskHandle → Call} (h : ∀ mask, (call mask).touchesFile = false) :
    (newMask call).Within Spares :=
  within_takeNumber.bind fun _ => (within_record (h _)).bind fun _ => .pure _

theorem within_newSrc {call : String → Call} (h : ∀ src, (call src).touchesFile = false) (what : String) :
    (newSrc what call).Within Spares :=
  (within_guard _).bind fun _ => within_takeNumber.bind fun _ => (within_record (h _)).bind fun _ => .pure _

theorem within_settle (millis : Nat) : (settle millis).Within Spares :=
  .modify fun host => spares_push rfl host

/-- What a host hands out is not at the address of a file. -/
theorem isUrl_srcOf (what : String) (number : Nat) : FilePath.isUrl (srcOf what number) = false := by
  have scheme : (srcOf what number).toList =
      "dryrun://".toList ++ ((toString what).toList ++ ("/".toList ++ (toString number).toList)) := by
    simp only [srcOf, String.toList_append, List.append_assoc]
    rfl
  rw [FilePath.isUrl, scheme]
  rfl

theorem gives_newMask (call : MaskHandle → Call) :
    (newMask call).Gives fun mask => FilePath.isUrl mask.src = false :=
  .bind fun _ => .bind fun _ => .pure (isUrl_srcOf _ _)

theorem gives_newSrc (what : String) (call : String → Call) :
    (newSrc what call).Gives fun src => FilePath.isUrl src = false :=
  .bind fun _ => .bind fun _ => .bind fun _ => .pure (isUrl_srcOf _ _)

end Host

end CanvasScript
