import CanvasScript.Proofs.Preflight.Answers
import CanvasScript.Proofs.Script.Decoding
import CanvasScript.Session

/-!
# Preflights are sound

What a preflight tells of a text is what running it meets (`Session.preflight_sound`):
an invalid text never reaches the host, and a valid one is read and decoded without
loss, so that only the host and the instructions can still fail. Where decoding
fails, the validation has a violation of the same entry.
-/

namespace CanvasScript

open Json (Value)

/-- A valid text can be read, and its entries are valid. -/
theorem Preflight.entries_of_valid {text : String} (valid : (ofText text).valid = true) :
    ∃ entries, readEntries text = .ok entries ∧ (Validation.ofEntries entries).valid = true := by
  unfold ofText at valid
  cases read : readEntries text with
  | ok entries =>
    rw [read] at valid
    exact ⟨entries, rfl, valid⟩
  | error mistake =>
    rw [read] at valid
    cases valid

namespace Attempt

variable {x : Attempt σ ε α} {s t : σ} {a : α}

theorem run_mapError_ok {rename : ε → δ} (h : x.run s = (.ok a, t)) : (x.mapError rename).run s = (.ok a, t) := by
  unfold run at h
  simp only [run, mapError, onPart, id, h]

/-- What is known to have succeeded is gone on from. -/
theorem run_ofExcept_bind (rename : δ → ε) (a : α) (f : α → Attempt σ ε β) (s : σ) :
    (ofExcept ((Except.ok a).mapError rename) >>= f).run s = (f a).run s := rfl

end Attempt

namespace SessionError

/-- The host could not be opened, or an instruction failed. -/
inductive IsLate : SessionError → Prop where
  | host (e : HostError) : IsLate (.host e)
  | run (e : RunError) : IsLate (.run e)

end SessionError

namespace Session

variable {session : Session}

/-- A script that is carried out fails late or not at all. -/
theorem isLate_of_perform {script : Script} {host : Host} {error : SessionError}
    (h : ((session.perform script).run host).1 = .error error) : error.IsLate := by
  simp only [perform, Attempt.run] at h
  split at h
  · cases h
    exact .host _
  · rename_i stage _
    cases outcome : (script.run session.setting stage).summary with
    | ok summary =>
      rw [outcome] at h
      cases h
    | error e =>
      rw [outcome] at h
      cases h
      exact .run e

/-- What is told of a script that was carried out. -/
def reporting (session : Session) (entries : List Value) (told : Preflight) (script : Script) :
    Attempt Host SessionError Report := do
  let summary ← session.perform script
  return { digest := scriptDigest entries, preflight := told, summary }

theorem digest_of_reporting {entries : List Value} {told : Preflight} {script : Script} {host : Host}
    {report : Report} (h : ((session.reporting entries told script).run host).1 = .ok report) :
    report.digest = scriptDigest entries := by
  rw [reporting, Attempt.run_bind] at h
  split at h
  · cases h
    rfl
  · cases h

theorem isLate_of_reporting {entries : List Value} {told : Preflight} {script : Script} {host : Host}
    {error : SessionError} (h : ((session.reporting entries told script).run host).1 = .error error) :
    error.IsLate := by
  rw [reporting, Attempt.run_bind] at h
  split at h
  · cases h
  · rename_i e _ failed
    obtain rfl : e = error := Except.error.inj h
    exact isLate_of_perform (congrArg Prod.fst failed)

/-- A valid text whose entries decode is carried out with what the host tells of its models. -/
theorem run_on_host_of_valid (session : Session) {text : String} {entries : List Value} {script : Script}
    (valid : (Preflight.ofText text).valid = true) (read : readEntries text = .ok entries)
    (decoded : Script.decode entries = .ok script) (host : Host) :
    (session.run text).run host =
      (session.reporting entries ((Preflight.ofText text).toldBy host) script).run host := by
  have told := (Preflight.ofText text).run_checkModelsIfTold_eq host
  unfold run
  rw [if_pos valid, read, Attempt.run_ofExcept_bind, decoded, Attempt.run_ofExcept_bind,
    Attempt.run_bind_ok (Attempt.run_mapError_ok told)]
  rfl

/-- A valid text whose entries decode is carried out once the host was asked about
the models. -/
theorem run_of_valid (session : Session) {text : String} {entries : List Value} {script : Script}
    (valid : (Preflight.ofText text).valid = true) (read : readEntries text = .ok entries)
    (decoded : Script.decode entries = .ok script) (host : Host) :
    ∃ told asked, (session.run text).run host = (session.reporting entries told script).run asked :=
  ⟨_, host, session.run_on_host_of_valid valid read decoded host⟩

/-- **Soundness of preflights.** A text that a preflight refuses fails with all its
warnings and leaves the host as it was. One that it lets pass is read and decoded, a
step that runs for every entry, and is reported under the digest of its entries unless
it fails late. Decoding any list fails at the first entry that is spoiled, and the
validation has a violation of that entry. -/
theorem preflight_sound (session : Session) (text : String) :
    ((Preflight.ofText text).valid = false → ∀ host, ∃ error,
      (session.run text).run host = (.error error, host) ∧
        error = .invalid (Preflight.ofText text).warnings ∧
        error.message = "Validation failed: " ++ "; ".intercalate (Preflight.ofText text).warnings) ∧
    ((Preflight.ofText text).valid = true → ∃ entries script,
      readEntries text = .ok entries ∧ Script.decode entries = .ok script ∧
        script.steps.length = entries.length ∧
        (∀ step ∈ script.steps, ∃ instruction, step = .run instruction) ∧
        ∀ host,
          (∀ report, ((session.run text).run host).1 = .ok report → report.digest = scriptDigest entries) ∧
          ∀ error, ((session.run text).run host).1 = .error error → error.IsLate) ∧
    ∀ entries e, Script.decode entries = .error e →
      (∃ before entry after, entries = before ++ entry :: after ∧ e.index = before.length ∧
        Spoils e.kind e.cause entry ∧ ∀ other ∈ before, ¬IsSpoiled other) ∧
      ∃ violation ∈ (Validation.ofEntries entries).violations, violation.index? = some e.index := by
  refine ⟨?refused, ?passed, ?spoiled⟩
  case refused =>
    intro invalid host
    exact ⟨_, run_of_invalid session invalid host, rfl, rfl⟩
  case passed =>
    intro valid
    obtain ⟨entries, read, valid_entries⟩ := Preflight.entries_of_valid valid
    obtain ⟨instructions, decoded, count⟩ := Script.decode_of_valid valid_entries
    refine ⟨entries, _, read, decoded, ?_, ?_, ?_⟩
    · rw [List.length_map, count]
    · intro step member
      obtain ⟨instruction, _, rfl⟩ := List.mem_map.1 member
      exact ⟨instruction, rfl⟩
    · intro host
      obtain ⟨told, asked, same⟩ := run_of_valid session valid read decoded host
      rw [same]
      constructor
      · exact fun report => digest_of_reporting
      · exact fun error => isLate_of_reporting
  case spoiled =>
    intro entries e failed
    obtain ⟨before, entry, after, rfl, position, spoils, good⟩ := Script.decode_error failed
    refine ⟨⟨before, entry, after, rfl, position, spoils, good⟩, ?_⟩
    have here : (before ++ entry :: after)[e.index]? = some entry := by
      rw [position]
      simp
    exact Validation.exists_violation here (Validation.ofEntry_ne_none_of_spoils spoils)

/-- A session without tables. -/
def sample : Session := { tables := .empty, settings := .default, fuel := 64, seed := 0 }

/-- A text that is refused, one that is let pass, and entries of which the second
cannot be decoded. -/
theorem preflight_sound_samples :
    (Preflight.ofText "[\x7b\"crops\":1\x7d]").valid = false ∧
      (∀ host, ∃ error, (sample.run "[\x7b\"crops\":1\x7d]").run host = (.error error, host) ∧
        error.message = "Validation failed: Item 0: Invalid key \"crops\"") ∧
    (Preflight.ofText "[\x7b\"note\":\"a\"\x7d,\x7b\"crop\":1\x7d]").valid = true ∧
      (∃ entries script, readEntries "[\x7b\"note\":\"a\"\x7d,\x7b\"crop\":1\x7d]" = .ok entries ∧
        Script.decode entries = .ok script ∧ script.steps.length = entries.length) ∧
    ∃ violation ∈ (Validation.ofEntries [.null, .object [("prompt", .null)]]).violations,
      violation.index? = some 1 := by
  refine ⟨by decide +kernel, ?_, by decide +kernel, ?_, ?_⟩
  · intro host
    obtain ⟨error, run, rfl, message⟩ :=
      (preflight_sound sample "[\x7b\"crops\":1\x7d]").1 (by decide +kernel) host
    exact ⟨_, run, by rw [message]; decide +kernel⟩
  · obtain ⟨entries, script, read, decoded, count, _⟩ :=
      (preflight_sound sample "[\x7b\"note\":\"a\"\x7d,\x7b\"crop\":1\x7d]").2.1 (by decide +kernel)
    exact ⟨entries, script, read, decoded, count⟩
  · exact ((preflight_sound sample "").2.2 [.null, .object [("prompt", .null)]]
      { index := 1, kind := .prompt, cause := .notA "string" "null" } rfl).2

end Session

end CanvasScript
