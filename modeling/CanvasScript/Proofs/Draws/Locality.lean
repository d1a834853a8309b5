import CanvasScript.Shortcut.Wildcard

/-!
# Draws are read one after the other

A computation is local when it only looks at the words that it uses up
(`Draws.Local`). Choices are, what is put together of local parts is, and so is the
expansion of wildcards (`Shortcut.local_expandFrom`). Behind a local computation any
other stream may therefore follow (`Draws.Local.splice`).
-/

namespace CanvasScript

namespace Draws

/-- The words that are not used yet. -/
def ahead (d : Draws) (i : Nat) : UInt64 := d.source (d.used + i)

/-- The stream when some more words are used. -/
def advance (d : Draws) (count : Nat) : Draws := { d with used := d.used + count }

@[simp] theorem advance_advance (d : Draws) (first second : Nat) :
    (d.advance first).advance second = d.advance (first + second) := by
  simp [advance, Nat.add_assoc]

@[simp] theorem ahead_advance (d : Draws) (count i : Nat) : (d.advance count).ahead i = d.ahead (count + i) := by
  simp [advance, ahead, Nat.add_assoc]

/-- Streams that go on alike. -/
structure Alike (e d : Draws) : Prop where
  patience : e.patience = d.patience
  ahead : e.ahead = d.ahead

/-- What comes out depends only on the words that are used up. -/
def Local (f : Draws → α × Draws) : Prop :=
  ∀ d, ∃ count, ∀ e : Draws, e.patience = d.patience → (∀ i < count, e.ahead i = d.ahead i) →
    f e = ((f d).1, e.advance count)

namespace Local

variable {f : Draws → α × Draws} {g : α → Draws → β × Draws}

protected theorem pure (a : α) : Local fun d => (a, d) := fun _ => ⟨0, fun _ _ _ => rfl⟩

/-- One local computation after another. -/
protected theorem bind (first : Local f) (second : ∀ a, Local (g a)) : Local fun d => g (f d).1 (f d).2 := by
  intro d
  obtain ⟨count, reads⟩ := first d
  obtain ⟨more, reads_more⟩ := second (f d).1 (d.advance count)
  refine ⟨count + more, ?_⟩
  intro e patient same
  have here : f d = ((f d).1, d.advance count) := reads d rfl fun _ _ => rfl
  have there : f e = ((f d).1, e.advance count) := reads e patient fun i below => same i (by omega)
  have behind : g (f d).1 (e.advance count) =
      ((g (f d).1 (d.advance count)).1, (e.advance count).advance more) := by
    apply reads_more
    · exact patient
    · intro i below
      rw [ahead_advance, ahead_advance]
      exact same (count + i) (by omega)
  have state : (f d).2 = d.advance count := congrArg Prod.snd here
  show g (f e).1 (f e).2 = ((g (f d).1 (f d).2).1, e.advance (count + more))
  rw [there, behind, advance_advance, state]

/-- A function of what comes out. -/
protected theorem map (computed : Local f) (h : α → β) : Local fun d => (h (f d).1, (f d).2) :=
  computed.bind fun a => Local.pure (h a)

/-- A computation that is told the patience of the stream. -/
theorem of_patience {f : Nat → Draws → α × Draws} (each : ∀ patience, Local (f patience)) :
    Local fun d => f d.patience d := by
  intro d
  obtain ⟨count, reads⟩ := each d.patience d
  refine ⟨count, fun e patient same => ?_⟩
  show f e.patience e = _
  rw [patient]
  exact reads e patient same

/-- Any stream may follow behind the words that a computation uses. -/
theorem splice (computed : Local f) {d follow : Draws} (patient : follow.patience = d.patience) :
    ∃ e, e.patience = d.patience ∧ (f e).1 = (f d).1 ∧ Alike (f e).2 follow := by
  obtain ⟨count, reads⟩ := computed d
  let e : Draws :=
    { source := fun i => if i < count then d.ahead i else follow.ahead (i - count), used := 0, patience := d.patience }
  have reads_e : f e = ((f d).1, e.advance count) := by
    apply reads
    · rfl
    · intro i below
      simp [e, ahead, below]
  refine ⟨e, rfl, by rw [reads_e], ?_⟩
  rw [reads_e]
  refine ⟨patient.symm, ?_⟩
  funext i
  show (if 0 + count + i < count then d.ahead (0 + count + i) else follow.ahead (0 + count + i - count)) =
    follow.ahead i
  rw [if_neg (by omega), Nat.zero_add, Nat.add_sub_cancel_left]

/-- Streams that go on alike give the same, and what is left of them goes on alike. -/
theorem congr_alike (computed : Local f) {d e : Draws} (alike : Alike e d) :
    (f e).1 = (f d).1 ∧ Alike (f e).2 (f d).2 := by
  obtain ⟨count, reads⟩ := computed d
  have there : f e = ((f d).1, e.advance count) := reads e alike.patience fun i _ => congrFun alike.ahead i
  have here : f d = ((f d).1, d.advance count) := reads d rfl fun _ _ => rfl
  constructor
  · rw [there]
  · rw [there, here]
    refine ⟨alike.patience, ?_⟩
    funext i
    simp [alike.ahead]

end Local

theorem local_next : Local next := by
  intro d
  refine ⟨1, ?_⟩
  intro e _ same
  have word : e.source e.used = d.source d.used := same 0 (by omega)
  simp [next, advance, word]

theorem local_below (n patience : Nat) : Local (below n patience) := by
  induction patience with
  | zero => exact local_next.map (choice n)
  | succ patience ih =>
    have split_word : ∀ word : UInt64,
        Local fun d => if accepts n word then (choice n word, d) else below n patience d := by
      intro word
      cases accepts n word with
      | true => exact Local.pure (choice n word)
      | false => exact ih
    exact local_next.bind split_word

end Draws

namespace Shortcut

open Draws (Local)

theorem Token.local_pick (table : Table) (token : Token) : Local (token.pick table) := by
  cases empty : (token.optionsIn table).isEmpty with
  | true =>
    have verbatim : token.pick table = fun d => (token.chars, d) := by
      funext d
      simp only [pick, empty, if_true]
    rw [verbatim]
    exact Local.pure token.chars
  | false =>
    cases number : token.number? with
    | some digits =>
      have fixed : token.pick table =
          fun d => ((numbered? (token.optionsIn table) digits).getD token.chars, d) := by
        funext d
        simp only [pick, empty, number, Bool.false_eq_true, if_false]
      rw [fixed]
      exact Local.pure _
    | none =>
      have drawn : token.pick table = fun d =>
          ((token.optionsIn table).getD (Draws.below (token.optionsIn table).length d.patience d).1 token.chars,
            (Draws.below (token.optionsIn table).length d.patience d).2) := by
        funext d
        simp only [pick, empty, number, Bool.false_eq_true, if_false]
      rw [drawn]
      exact (Local.of_patience (Draws.local_below _)).map fun i => (token.optionsIn table).getD i token.chars

/-- A pass over wildcards is local. -/
theorem local_expandFrom (table : Table) (skip : Nat) (text : List Char) : Local (expandFrom table skip text) := by
  induction text generalizing skip with
  | nil =>
    have nothing : expandFrom table skip [] = fun d => ([], d) := by
      funext d
      cases skip <;> rfl
    rw [nothing]
    exact Local.pure []
  | cons c rest ih =>
    cases skip with
    | succ skip => exact ih skip
    | zero =>
      cases found : Token.ofText? (c :: rest) with
      | none =>
        rw [funext (expandFrom_of_none found)]
        exact (ih 0).map fun text => c :: text
      | some token =>
        -- the option is drawn first, then what stands behind the token is expanded
        have behind : ∀ chosen : List Char, Local fun d =>
            (chosen ++ (expandFrom table (token.chars.length - 1) rest d).1,
              (expandFrom table (token.chars.length - 1) rest d).2) := by
          intro chosen
          exact (ih (token.chars.length - 1)).map fun text => chosen ++ text
        have both := (Token.local_pick table token).bind behind
        rw [funext (expandFrom_of_token found)]
        exact both

end Shortcut

end CanvasScript
