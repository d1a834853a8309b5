import CanvasScript.CommandLine
import CanvasScript.Proofs.Json.Canonical
import CanvasScript.Proofs.Session.Opening

/-!
# Checking and running agree

A script that `check` refuses `run` refuses too, both with the code of an invalid script. One
that it lets pass `run` carries out, with code 0 if the session succeeds and code 1 if it
fails, and the preflight that is then printed is the one that `check` prints but for the
answers about models (`CommandLine.check_and_run_agree`).
-/

namespace CanvasScript

open Json (Value Fields)

namespace Json.Value

/-- The value under a key of an object. -/
def field? (key : String) (v : Value) : Option Value := v.fields?.bind (Fields.get? key)

/-- An object without the fields under a key. -/
def without (key : String) : Value → Value
  | object fields => object (fields.filter fun field => field.1 != key)
  | v => v

/-- The elements of an array, each changed by a function. -/
def mapItems (f : Value → Value) : Value → Value
  | array items => array (items.map f)
  | v => v

/-- An object with the value under a key changed by a function. -/
def mapField (key : String) (f : Value → Value) : Value → Value
  | object fields => object (fields.map fun field => if field.1 = key then (key, f field.2) else field)
  | v => v

/-- The record of a preflight without the answers about its models. -/
def withoutAnswers (record : Value) : Value := record.mapField "models" (mapItems (without "downloaded"))

end Json.Value

/-- The record of a model. -/
def ModelStatus.toJson (status : ModelStatus) : Value :=
  .object (("name", .string status.name) :: (status.downloaded.map fun b => ("downloaded", .bool b)).toList)

theorem ModelStatus.without_canonical_toJson (status : ModelStatus) :
    status.toJson.canonical.without "downloaded" = status.withoutAnswer.toJson.canonical := by
  obtain ⟨name, _ | answer⟩ := status <;> rfl

namespace Preflight

/-- The fields of a record of a preflight in order. -/
theorem canonical_toJson (report : Preflight) :
    report.toJson.canonical = .object
      [("files", Value.canonical (.array (report.files.map fun file => .object
          [("index", Violation.ofNat file.index), ("kind", .string file.kind.key), ("path", .string file.path),
            ("direction", .string file.direction.name)]))),
        ("instruction_count", Violation.ofNat report.count),
        ("models", .array (Value.canonicalItems (report.models.map ModelStatus.toJson))),
        ("render_count", Violation.ofNat report.renders),
        ("valid", .bool report.valid),
        ("violations", Value.canonical (.array (report.violations.map Violation.toJson))),
        ("warnings", Value.canonical (.array (report.warnings.map .string)))] := rfl

/-- Without its answers a record is that of the report without them. -/
theorem withoutAnswers_canonical_toJson (report : Preflight) :
    report.toJson.canonical.withoutAnswers = report.withoutAnswers.toJson.canonical := by
  have models : ((Value.canonicalItems (report.models.map ModelStatus.toJson)).map (Value.without "downloaded")) =
      Value.canonicalItems (report.withoutAnswers.models.map ModelStatus.toJson) := by
    rw [withoutAnswers, Value.canonicalItems_eq_map, Value.canonicalItems_eq_map, List.map_map, List.map_map,
      List.map_map, List.map_map]
    exact List.map_congr_left fun status _ => status.without_canonical_toJson
  rw [canonical_toJson, canonical_toJson, ← models]
  rfl

end Preflight

namespace CommandLine

variable {disk : Disk} {seed : UInt64} {arguments : List String} {settingsFile macros : Option String}
  {file pictures text : String} {settings : Settings} {tables : Shortcut.Tables}

/-- What `check` prints of a file that can be read. -/
theorem respond_check
    (asks : Invocation.ofArguments arguments = .ok { settings := settingsFile, command := .check file })
    (set : settingsOf disk settingsFile = .ok settings) (readable : disk.read file = .ok text) :
    respond disk seed arguments = check text := by
  have found : textOf disk file = .ok text := by
    rw [textOf, readable]
    rfl
  have answers : (do answer disk seed (← settingsOf disk settingsFile) (.check file)) = Except.ok (check text) := by
    rw [set]
    show (do return check (← textOf disk file)) = _
    rw [found]
    rfl
  rw [respond, asks]
  simp only [answers]

/-- What `run` prints of a file and tables that can be read. -/
theorem respond_run
    (asks : Invocation.ofArguments arguments = .ok { settings := settingsFile, command := .run file macros pictures })
    (set : settingsOf disk settingsFile = .ok settings) (readable : disk.read file = .ok text)
    (loaded : tablesOf disk macros = .ok tables) :
    respond disk seed arguments = run { tables, settings, fuel, seed } (hostOf disk pictures) text := by
  have found : textOf disk file = .ok text := by
    rw [textOf, readable]
    rfl
  have answers : (do answer disk seed (← settingsOf disk settingsFile) (.run file macros pictures)) =
      Except.ok (run { tables, settings, fuel, seed } (hostOf disk pictures) text) := by
    rw [set]
    show (do
      let text ← textOf disk file
      let tables ← tablesOf disk macros
      return run { tables, settings, fuel, seed } (hostOf disk pictures) text) = _
    rw [found, loaded]
    rfl
  rw [respond, asks]
  simp only [answers]

theorem code_check (text : String) : (check text).code = if (Preflight.ofText text).valid then 0 else invalidCode := rfl

section Runs

variable {session : Session} {host : Host}

/-- A text that is not valid has a code of its own. -/
theorem code_run_of_invalid (invalid : (Preflight.ofText text).valid = false) :
    (run session host text).code = invalidCode := by
  rw [run, session.run_of_invalid invalid]
  rfl

/-- What a session fails with for a valid text is printed with code 1. -/
theorem run_of_failed (valid : (Preflight.ofText text).valid = true) {e : SessionError}
    (fails : ((session.run text).run host).1 = .error e) : run session host text = failed 1 e.message := by
  obtain ⟨entries, read, valid_entries⟩ := Preflight.entries_of_valid valid
  obtain ⟨instructions, decoded, -⟩ := Script.decode_of_valid valid_entries
  have late : e.IsLate := by
    rw [session.run_on_host_of_valid valid read decoded] at fails
    exact Session.isLate_of_reporting fails
  rw [run]
  rcases ends : (session.run text).run host with ⟨outcome, after⟩
  obtain rfl : outcome = .error e := by rw [← fails, ends]
  cases late <;> rfl

/-- What is printed of a report: the preflight stands in it. -/
theorem run_of_succeeded {report : Report} (succeeds : ((session.run text).run host).1 = .ok report) :
    ∃ shown, run session host text = printed 0 shown ∧
      (shown.field? "report").bind (Value.field? "preflight") = some report.preflight.toJson.canonical := by
  rw [run]
  rcases ends : (session.run text).run host with ⟨outcome, after⟩
  obtain rfl : outcome = .ok report := by rw [← succeeds, ends]
  exact ⟨_, rfl, rfl⟩

end Runs

/-- **Checking and running agree.** `run` refuses a text just when `check` does, which is when
its preflight is not valid. Otherwise `check` has code 0, and `run` has code 0 if the session
succeeds on the host and code 1 if it fails. With code 0 the preflight in the report of `run` is
the one that `check` prints, but for the answers about models. -/
theorem check_and_run_agree {checking running : List String}
    (asksCheck : Invocation.ofArguments checking = .ok { settings := settingsFile, command := .check file })
    (asksRun : Invocation.ofArguments running = .ok { settings := settingsFile, command := .run file macros pictures })
    (set : settingsOf disk settingsFile = .ok settings) (readable : disk.read file = .ok text)
    (loaded : tablesOf disk macros = .ok tables) (seed seed' : UInt64) :
    let checked := respond disk seed checking
    let ran := respond disk seed' running
    let outcome := ((Session.run { tables, settings, fuel, seed := seed' } text).run (hostOf disk pictures)).1
    (ran.code = 2 ↔ checked.code = 2) ∧
      (checked.code = 2 ↔ (Preflight.ofText text).valid = false) ∧
      (checked.code ≠ 2 → checked.code = 0 ∧
        (ran.code = 0 ↔ ∃ report, outcome = .ok report) ∧ (ran.code = 1 ↔ ∃ e, outcome = .error e)) ∧
      checked.output = (Preflight.ofText text).toJson.pretty ++ "\n" ∧
      (ran.code = 0 → ∃ shown part : Value, ran.output = shown.pretty ++ "\n" ∧
        (shown.field? "report").bind (Value.field? "preflight") = some part ∧
          part.withoutAnswers = (Preflight.ofText text).toJson.canonical) := by
  intro checked ran outcome
  have checked_eq : checked = check text := respond_check asksCheck set readable
  have ran_eq : ran = run { tables, settings, fuel, seed := seed' } (hostOf disk pictures) text :=
    respond_run asksRun set readable loaded
  have printed : checked.output = (Preflight.ofText text).toJson.pretty ++ "\n" := by
    rw [checked_eq]
    rfl
  cases valid : (Preflight.ofText text).valid with
  | false =>
    have code : checked.code = 2 := by rw [checked_eq, code_check, valid]; rfl
    have code' : ran.code = 2 := by rw [ran_eq, code_run_of_invalid valid]; rfl
    rw [code, code']
    refine ⟨Iff.rfl, by simp, fun other => absurd rfl other, printed, fun other => ?_⟩
    cases other
  | true =>
    have code : checked.code = 0 := by rw [checked_eq, code_check, valid]; rfl
    cases ends : outcome with
    | error e =>
      have code' : ran.code = 1 := by rw [ran_eq, run_of_failed valid ends]; rfl
      rw [code, code']
      refine ⟨by simp, by simp, fun _ => ⟨rfl, by simp, by simp⟩, printed, fun other => ?_⟩
      cases other
    | ok report =>
      obtain ⟨shown, ran_shown, part⟩ := run_of_succeeded ends
      have code' : ran.code = 0 := by rw [ran_eq, ran_shown]; rfl
      rw [code, code']
      refine ⟨by simp, by simp, fun _ => ⟨rfl, by simp, by simp⟩, printed, fun _ => ⟨shown, _, ?_, part, ?_⟩⟩
      · rw [ran_eq, ran_shown]
        rfl
      · rw [Preflight.withoutAnswers_canonical_toJson, Session.withoutAnswers_of_report ends]

/-- A script that asks for a model and renders. -/
def scene : String := "[\x7b\"config\":\x7b\"model\":\"m.ckpt\"\x7d\x7d,\x7b\"prompt\":\"a sky\"\x7d]"

/-- A script with a key that is misspelt. -/
def misspelt : String := "[\x7b\"prompts\":1\x7d]"

/-- The disk with both scripts. -/
def scripts : Disk := .ofReads [("scene.json", .ok scene), ("misspelt.json", .ok misspelt)] []

/-- The session that runs them. -/
def plain : Session := { tables := .empty, settings := .default, fuel, seed := 1 }

/-- The misspelt script is refused by both commands; the other one is carried out. -/
theorem check_and_run_agree_scripts :
    (respond scripts 0 ["check", "-f", "misspelt.json"]).code = 2 ∧
      (respond scripts 1 ["run", "-f", "misspelt.json"]).code = 2 ∧
      (respond scripts 0 ["check", "-f", "scene.json"]).code = 0 ∧
      (respond scripts 1 ["run", "-f", "scene.json"]).code = 0 ∧
      ∃ shown part : Value, (respond scripts 1 ["run", "-f", "scene.json"]).output = shown.pretty ++ "\n" ∧
        (shown.field? "report").bind (Value.field? "preflight") = some part ∧
          part.withoutAnswers = (Preflight.ofText scene).toJson.canonical := by
  have set : settingsOf scripts none = .ok .default := rfl
  have loaded : tablesOf scripts none = .ok .empty := rfl
  have misspelt_checked : Invocation.ofArguments ["check", "-f", "misspelt.json"] =
      .ok { settings := none, command := .check "misspelt.json" } := rfl
  have misspelt_run : Invocation.ofArguments ["run", "-f", "misspelt.json"] =
      .ok { settings := none, command := .run "misspelt.json" none "." } := rfl
  have misspelt_read : scripts.read "misspelt.json" = .ok misspelt := rfl
  have refused := check_and_run_agree misspelt_checked misspelt_run set misspelt_read loaded 0 1
  have invalid : (Preflight.ofText misspelt).valid = false := by decide +kernel
  have both := refused.2.1.2 invalid
  have scene_checked : Invocation.ofArguments ["check", "-f", "scene.json"] =
      .ok { settings := none, command := .check "scene.json" } := rfl
  have scene_run : Invocation.ofArguments ["run", "-f", "scene.json"] =
      .ok { settings := none, command := .run "scene.json" none "." } := rfl
  have scene_read : scripts.read "scene.json" = .ok scene := rfl
  have agree := check_and_run_agree scene_checked scene_run set scene_read loaded 0 1
  have valid : (Preflight.ofText scene).valid = true := by decide +kernel
  have completes : ((readEntries scene).toOption.bind fun entries => (Script.decode entries).toOption).map
      (fun script => (script.follow plain.setting ((segmentsFrom 0 none script.steps).flatMap Segment.walk)
        (.ofHost (hostOf scripts ".") plain.draws (hostOf scripts ".").configuration "")).outcome.isOk) =
      some true := by
    decide +kernel
  have opened : Stage.open? (hostOf scripts ".") plain.draws =
      .ok (.ofHost (hostOf scripts ".") plain.draws (hostOf scripts ".").configuration "") := rfl
  have succeeds : ∃ report, ((plain.run scene).run (hostOf scripts ".")).1 = .ok report := by
    -- From here on the host is any with these properties, so that nothing is computed again.
    generalize Stage.ofHost (hostOf scripts ".") plain.draws (hostOf scripts ".").configuration "" = stage
      at completes opened
    generalize hostOf scripts "." = host at opened ⊢
    exact Session.exists_report_of_followed valid opened completes
  have passes : (respond scripts 0 ["check", "-f", "scene.json"]).code ≠ 2 := by
    intro code
    rw [agree.2.1.1 code] at valid
    cases valid
  obtain ⟨checked, ran, -⟩ := agree.2.2.1 passes
  have done := ran.2 succeeds
  exact ⟨both, refused.1.2 both, checked, done, agree.2.2.2.2 done⟩

end CommandLine

end CanvasScript
