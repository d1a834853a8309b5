import CanvasScript.Json.Tagged
import CanvasScript.Proofs.Json.Entries
import CanvasScript.Proofs.Json.Fields

/-!
# Tagged objects are read as they are written

Every field of a tagged object is its tag or stands beside it (`Tag.Adds`), and what stands under
its key is read as the one or the other (`Tag.readerOf_complete`). So the loop over the fields
gathers all of them (`Tag.fields_complete`): an object in which no key stands twice is read as the
tag that it has and the other fields in the order of the text, wherever the tag stands among them
(`Tag.read_complete`).
-/

namespace CanvasScript.Json

section Spellings

variable {depth : Nat} {core : List Char}

/-- A string is spelled in quotes. -/
theorem Spells.quote {s : String} (spells : Spells depth core (.string s)) :
    ∃ cs ds, core = '"' :: (cs ++ ['"']) ∧ StringText cs ds ∧ s = String.ofList ds := by
  have quoted {Container : List Char → Value → Prop} (text : ValueText Container core (.string s))
      (apart : ¬Container core (.string s)) :
      ∃ cs ds, core = '"' :: (cs ++ ['"']) ∧ StringText cs ds ∧ s = String.ofList ds := by
    cases text with
    | string inside => exact ⟨_, _, rfl, inside, rfl⟩
    | number isNumber => cases isNumber.isNumeral
    | container isContainer => exact absurd isContainer apart
  cases depth with
  | zero => exact quoted spells id
  | succ depth =>
    apply quoted spells
    intro isContainer
    cases isContainer

/-- An object is spelled in braces. -/
theorem Spells.brace {fields : Fields} (spells : Spells (depth + 1) core (.object fields)) :
    ∃ inside, core = '\x7b' :: (inside ++ ['\x7d']) ∧ ItemsText (FieldText (Spells depth)) true inside fields := by
  have text : ValueText (ContainerText (Spells depth)) core (.object fields) := spells
  cases text with
  | number isNumber => cases isNumber.isNumeral
  | container isContainer =>
    cases isContainer with
    | object inside => exact ⟨_, rfl, inside⟩

end Spellings

section NamedFields

variable {ρ : Type} {fields : List (Field ρ)} {other : String → ρ → Reader ρ} {seen : List String} {fuel : Nat}
  {r s t : ρ}

/-- How what stands under a key is read. -/
def readerOf (fields : List (Field ρ)) (other : String → ρ → Reader ρ) (key : String) : ρ → Reader ρ :=
  match fields.find? fun field => field.name == key with
  | some field => field.read
  | none => other key

/-- One field of a record: what stands under its key is read, and the loop goes on behind it. -/
theorem namedFields_more {lead keyText keyMeant gap inside behind rest : List Char} (leads : Lead seen.isEmpty lead)
    (isKey : StringText keyText keyMeant) (blank : Blank gap) (fresh : String.ofList keyMeant ∉ seen)
    (reads : ∀ place, Gives (readerOf fields other (String.ofList keyMeant) r { rest := inside, place }) s behind)
    (goesOn : ∀ place, Gives (namedFields fields other fuel (String.ofList keyMeant :: seen) s { rest := behind, place })
      t rest) (place : Place) :
    Gives (namedFields fields other (fuel + 1) seen r
      { rest := lead ++ '"' :: (keyText ++ '"' :: (gap ++ ':' :: inside)), place }) t rest := by
  have quoted : Quoted ('"' :: (keyText ++ '"' :: (gap ++ ':' :: inside))) := ⟨_, rfl⟩
  rw [namedFields]
  refine (finds_nextMember.more_complete leads (by decide) quoted place).bind fun place => ?_
  refine (string_complete isKey _ _).bind fun place => ?_
  have notSeen : seen.contains (String.ofList keyMeant) = false := by simpa using fresh
  unfold readerOf at reads
  cases found : fields.find? fun field => field.name == String.ofList keyMeant with
  | some field =>
    simp only [found] at reads
    simp only [found, notSeen, Bool.false_eq_true, if_false]
    refine (colon_complete blank inside _).bind fun place => ?_
    exact (reads place).bind goesOn
  | none =>
    simp only [found] at reads
    simp only [found]
    refine (colon_complete blank inside _).bind fun place => ?_
    exact (reads place).bind goesOn

end NamedFields

namespace Tag

variable {tag : Tag} {name key : String} {v : Value} {fields : Fields} {depth : Nat}
  {gap core cs rest : List Char}

/-- A tag that is known is read as it is spelled. -/
theorem name_complete (known : name ∈ tag.known) (blank : Blank gap) (spells : Spells depth core (.string name))
    (rest : List Char) (place : Place) : Gives (tag.name { rest := gap ++ (core ++ rest), place }) name rest := by
  obtain ⟨cs, ds, rfl, inside, rfl⟩ := spells.quote
  obtain ⟨after, skipped⟩ := skipSpaces_cons blank (c := '"') (by decide) (cs ++ '"' :: rest) place
  unfold Tag.name
  rw [List.cons_append, List.append_assoc, List.singleton_append, skipped]
  refine (string_complete inside rest (after.over '"')).bind fun place => ?_
  simp only [List.contains_iff_mem.2 known, if_true]
  exact ⟨place, rfl⟩

theorem readerOf_key (tag : Tag) : readerOf [tag.field] beside tag.key = tag.field.read := by
  have found : [tag.field].find? (fun field => field.name == tag.key) = some tag.field := by
    simp [Tag.field, Field.of]
  rw [readerOf, found]

theorem readerOf_of_ne (apart : key ≠ tag.key) : readerOf [tag.field] beside key = beside key := by
  have missing : [tag.field].find? (fun field => field.name == key) = none := by
    simp [Tag.field, Field.of, Ne.symm apart]
  rw [readerOf, missing]

/-- What one field adds to what has been met: a tag that is known is taken for the name, and any
other field stands beside it. -/
inductive Adds (tag : Tag) : Gathered → String × Value → Gathered → Prop where
  | name {name? : Option String} {name : String} {others : Fields} (known : name ∈ tag.known) :
    Adds tag (name?, others) (tag.key, .string name) (some name, others)
  | beside {name? : Option String} {key : String} {v : Value} {others : Fields} (apart : key ≠ tag.key) :
    Adds tag (name?, others) (key, v) (name?, (key, v) :: others)

/-- What the fields of an object add one after the other. -/
inductive Gathers (tag : Tag) : Gathered → Fields → Gathered → Prop where
  | done (met : Gathered) : Gathers tag met [] met
  | more {met next last : Gathered} {field : String × Value} {fields : Fields} (adds : tag.Adds met field next)
    (behind : Gathers tag next fields last) : Gathers tag met (field :: fields) last

/-- What stands under a key is read for what its field adds. -/
theorem readerOf_complete {met next : Gathered} (adds : tag.Adds met (key, v) next) (blank : Blank gap)
    (spells : Spells (nestingLimit - 1) core v) (closed : Closed rest) (place : Place) :
    Gives (readerOf [tag.field] beside key met { rest := gap ++ (core ++ rest), place }) next rest := by
  cases adds with
  | name known =>
    rw [readerOf_key]
    exact (name_complete known blank spells rest place).bind fun place => ⟨place, rfl⟩
  | beside apart =>
    rw [readerOf_of_ne apart]
    exact (value_complete (nestingLimit - 1) blank spells closed place).bind fun place => ⟨place, rfl⟩

/-- The fields of an object are gathered one by one, up to its closing brace. -/
theorem fields_complete {met last : Gathered} {first : Bool} {seen : List String} {fuel : Nat}
    (items : ItemsText (FieldText (Spells (nestingLimit - 1))) first cs fields) (gathers : tag.Gathers met fields last)
    (begun : seen.isEmpty = first) (distinct : fields.Distinct) (fresh : ∀ field ∈ fields, field.1 ∉ seen)
    (enough : fields.length < fuel) (rest : List Char) (place : Place) :
    Gives (namedFields [tag.field] beside fuel seen met { rest := cs ++ '\x7d' :: rest, place }) last
      ('\x7d' :: rest) := by
  induction items generalizing met seen fuel place with
  | @done first gap blank =>
    obtain ⟨fuel, rfl⟩ := Nat.exists_eq_succ_of_ne_zero (Nat.ne_of_gt enough)
    cases gathers
    rw [namedFields]
    exact (finds_nextMember.done_complete blank place).bind fun place => ⟨place, rfl⟩
  | @more first lead core cs field fields leads text items ih =>
    obtain ⟨fuel, rfl⟩ := Nat.exists_eq_succ_of_ne_zero (Nat.ne_of_gt (Nat.zero_lt_of_lt enough))
    obtain ⟨here, later⟩ := List.forall_mem_cons.1 fresh
    obtain ⟨apart, distinct'⟩ := Fields.distinct_cons_iff.1 distinct
    have closed : Closed (cs ++ '\x7d' :: rest) := items.closed (finds_nextMember.closed rest)
    subst begun
    cases gathers with
    | more adds behind =>
    cases text with
    | @pair key keyMeant gap gap' core v isKey blank blank' spells =>
      -- The keys read so far stay apart from those to come, so that none counts as repeated.
      have unseen : ∀ field ∈ fields, field.1 ∉ String.ofList keyMeant :: seen := by
        intro field mem
        rw [List.mem_cons, not_or]
        exact ⟨apart field mem, later field mem⟩
      have reads := fun place => readerOf_complete adds blank' spells closed place
      have goesOn := fun place => ih behind rfl distinct' unseen (Nat.lt_of_succ_lt_succ enough) place
      have step := namedFields_more leads isKey blank here reads goesOn place
      simp only [List.append_assoc, List.cons_append] at step ⊢
      exact step

/-- Fields without the tag stand beside it, all of them. -/
theorem gathers_beside (apart : ∀ field ∈ fields, field.1 ≠ tag.key) (name? : Option String) (others : Fields) :
    tag.Gathers (name?, others) fields (name?, fields.reverse ++ others) := by
  induction fields generalizing others with
  | nil => exact .done _
  | cons field fields ih =>
    obtain ⟨here, later⟩ := List.forall_mem_cons.1 apart
    have behind := ih later (field :: others)
    rw [List.reverse_cons, List.append_assoc, List.singleton_append]
    exact .more (.beside here) behind

/-- The tag is found wherever it stands, and the other fields keep their order. -/
theorem gathers_of_mem (known : name ∈ tag.known) (distinct : fields.Distinct)
    (mem : (tag.key, .string name) ∈ fields) (name? : Option String) (others : Fields) :
    tag.Gathers (name?, others) fields
      (some name, (fields.filter fun field => field.1 != tag.key).reverse ++ others) := by
  induction fields generalizing others with
  | nil => cases mem
  | cons field fields ih =>
    obtain ⟨apart, distinct'⟩ := Fields.distinct_cons_iff.1 distinct
    rcases List.mem_cons.1 mem with rfl | later
    · rw [List.filter_cons_of_neg (by simp), Fields.filter_ne_eq_self apart]
      exact .more (.name known) (gathers_beside apart (some name) others)
    · have here : field.1 ≠ tag.key := (apart _ later).symm
      rw [List.filter_cons_of_pos (by simpa using here), List.reverse_cons, List.append_assoc, List.singleton_append]
      exact .more (.beside here) (ih distinct' later (field :: others))

/-- **A tagged object is read as it is spelled.** The tag may stand anywhere among the fields, and
what stands beside it is told in the order of the text. -/
theorem read_complete (known : name ∈ tag.known) (distinct : fields.Distinct)
    (mem : (tag.key, .string name) ∈ fields) (blank : Blank gap) (spells : Spells nestingLimit core (.object fields))
    (rest : List Char) (place : Place) :
    Gives (tag.read { rest := gap ++ (core ++ rest), place })
      (name, .fields (fields.filter fun field => field.1 != tag.key)) rest := by
  have depth : nestingLimit = nestingLimit - 1 + 1 := rfl
  rw [depth] at spells
  obtain ⟨inside, rfl, items⟩ := spells.brace
  obtain ⟨after, skipped⟩ := skipSpaces_cons blank (c := '\x7b') (by decide) (inside ++ '\x7d' :: rest) place
  have enough := items.length_lt (fun _ _ text => text.ne_nil) '\x7b' '\x7d' rest
  have gathers := gathers_of_mem known distinct mem none []
  unfold Tag.read
  rw [List.cons_append, List.append_assoc, List.singleton_append, skipped]
  refine (fields_complete items gathers rfl distinct (fun _ _ => List.not_mem_nil) enough rest _).bind fun place => ?_
  simp only [List.append_nil, List.reverse_reverse]
  exact ⟨_, rfl⟩

end Tag

end CanvasScript.Json
