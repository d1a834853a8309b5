import CanvasScript.Proofs.Run.Blocks
import CanvasScript.Proofs.Run.Trace
import Mathlib.Data.List.Nodup

/-!
# Passages through segments

A course of visits goes on from where the first of them come to their end, or it is cut there already
(`Script.follow_append`, `Script.follow_append_of_cut`). No step is a member of two segments. So a run that comes to a
segment and is not cut there walks through all of it, from a host that is set up as at the start, and is elsewhere
before and after (`Script.exists_passage`).
-/

namespace CanvasScript

/-- The step at which a run failed or came to an `end`, if it was cut so. -/
def cutAt? : Except RunError RunOutcome → Option Nat
  | .error e => some e.index
  | .ok (.ended index) => some index
  | .ok .completed => none

theorem cutAt?_eq_none_iff {outcome : Except RunError RunOutcome} :
    cutAt? outcome = none ↔ outcome = .ok .completed := by
  rcases outcome with e | _ | index <;> simp [cutAt?]

/-- A visit that is made in a segment is to one of its members. -/
theorem index_mem_of_mem_walk {segment : Segment} {visit : Visit} (made : visit ∈ segment.walk) :
    visit.index ∈ segment.members := by
  cases segment with
  | single index => simp_all [Segment.walk, Segment.members]
  | closed block =>
    obtain ⟨counter, -, passed⟩ := List.mem_flatMap.1 made
    obtain ⟨index, member, rfl⟩ := List.mem_map.1 passed
    exact member
  | unclosed block =>
    obtain ⟨index, member, rfl⟩ := List.mem_map.1 made
    exact member

namespace Script

variable {script : Script} {setting : Setting} {stage : Stage}

section Append

variable {visits first : List Visit}

/-- A course that is cut is so at one of its visits. -/
theorem exists_visit_of_cut {i : Nat} (cut : cutAt? (script.follow setting visits stage).outcome = some i) :
    ∃ visit ∈ visits, visit.index = i := by
  induction visits generalizing stage with
  | nil => cases cut
  | cons visit later ih =>
    rw [follow] at cut
    split at cut
    · split at cut
      · cases cut
        exact ⟨visit, List.mem_cons_self, rfl⟩
      · split at cut
        · cases cut
          exact ⟨visit, List.mem_cons_self, rfl⟩
        · obtain ⟨other, mem, here⟩ := ih cut
          exact ⟨other, List.mem_cons_of_mem _ mem, here⟩
    · obtain ⟨other, mem, here⟩ := ih cut
      exact ⟨other, List.mem_cons_of_mem _ mem, here⟩

/-- Behind visits that were all made the later ones are made from the stage that they left. -/
theorem follow_append (visitable : ∀ visit ∈ first, script.IsVisitable visit)
    (completed : (script.follow setting first stage).outcome = .ok .completed) (second : List Visit) :
    let here := script.follow setting first stage
    script.follow setting (first ++ second) stage = (script.follow setting second here.stage).behind here.visits ∧
      script.trace setting (first ++ second) stage =
        script.trace setting first stage ++ script.trace setting second here.stage := by
  induction first generalizing stage with
  | nil => exact ⟨rfl, rfl⟩
  | cons visit later ih =>
    obtain ⟨⟨instruction, step⟩, behind⟩ := List.forall_mem_cons.1 visitable
    rcases run : (Stage.perform setting { index := visit.index, frame := visit.frame } instruction).run stage
      with ⟨cause | _, stage'⟩
    · rw [follow_of_error visit step run] at completed
      cases completed
    · by_cases finish : instruction.kind = .finish
      · rw [follow_of_finish visit step run finish] at completed
        cases completed
      · rw [follow_of_ok visit step run finish] at completed
        obtain ⟨course, trace⟩ := ih behind completed
        rw [List.cons_append, follow_of_ok visit step run finish, follow_of_ok visit step run finish,
          trace_of_ok step run finish, trace_of_ok step run finish, course, trace]
        exact ⟨rfl, rfl⟩

/-- Behind visits that were cut nothing is visited. -/
theorem follow_append_of_cut (visitable : ∀ visit ∈ first, script.IsVisitable visit)
    (cut : (script.follow setting first stage).outcome ≠ .ok .completed) (second : List Visit) :
    script.follow setting (first ++ second) stage = script.follow setting first stage ∧
      script.trace setting (first ++ second) stage = script.trace setting first stage := by
  induction first generalizing stage with
  | nil => exact absurd rfl cut
  | cons visit later ih =>
    obtain ⟨⟨instruction, step⟩, behind⟩ := List.forall_mem_cons.1 visitable
    rcases run : (Stage.perform setting { index := visit.index, frame := visit.frame } instruction).run stage
      with ⟨cause | _, stage'⟩
    · rw [List.cons_append, follow_of_error visit step run, follow_of_error visit step run, trace_of_error step run,
        trace_of_error step run]
      exact ⟨rfl, rfl⟩
    · by_cases finish : instruction.kind = .finish
      · rw [List.cons_append, follow_of_finish visit step run finish, follow_of_finish visit step run finish,
          trace_of_finish step run finish, trace_of_finish step run finish]
        exact ⟨rfl, rfl⟩
      · rw [follow_of_ok visit step run finish] at cut
        obtain ⟨course, trace⟩ := ih behind cut
        rw [List.cons_append, follow_of_ok visit step run finish, follow_of_ok visit step run finish,
          trace_of_ok step run finish, trace_of_ok step run finish, course, trace]
        exact ⟨rfl, rfl⟩

/-- A course that comes to a later visit has made the first ones. -/
theorem completed_of_reached (visitable : ∀ visit ∈ first, script.IsVisitable visit) {second : List Visit}
    {visit : Visit} (reached : visit ∈ (script.follow setting (first ++ second) stage).visits) (later : visit ∉ first) :
    (script.follow setting first stage).outcome = .ok .completed := by
  by_contra cut
  rw [(follow_append_of_cut visitable cut second).1] at reached
  exact later ((follow_visits first stage visitable).1.subset reached)

/-- A course that is not cut at one of its first visits has made these. -/
theorem completed_of_uncut (visitable : ∀ visit ∈ first, script.IsVisitable visit) {second : List Visit}
    (uncut : ∀ i ∈ cutAt? (script.follow setting (first ++ second) stage).outcome, ∀ visit ∈ first, visit.index ≠ i) :
    (script.follow setting first stage).outcome = .ok .completed := by
  by_contra cut
  rw [(follow_append_of_cut visitable cut second).1] at uncut
  obtain ⟨i, stopped⟩ := Option.ne_none_iff_exists'.1 (mt cutAt?_eq_none_iff.1 cut)
  obtain ⟨visit, made, here⟩ := exists_visit_of_cut stopped
  exact uncut i stopped visit made here

/-- Visits are all made where each succeeds and keeps what the next ones need. -/
theorem completed_of_able {P : Stage → Prop}
    (able : ∀ visit ∈ visits, ∃ instruction, script.steps[visit.index]? = some (.run instruction) ∧
      instruction.kind ≠ .finish ∧ ∀ s, P s →
        ∃ t, (Stage.perform setting { index := visit.index, frame := visit.frame } instruction).run s = (.ok (), t) ∧
          P t)
    (start : P stage) : (script.follow setting visits stage).outcome = .ok .completed := by
  induction visits generalizing stage with
  | nil => rfl
  | cons visit later ih =>
    obtain ⟨⟨instruction, step, more, succeeds⟩, behind⟩ := List.forall_mem_cons.1 able
    obtain ⟨t, done, kept⟩ := succeeds stage start
    rw [follow_of_ok visit step done more]
    exact ih behind kept

/-- A trace tells of visits that were to be made. -/
theorem visit_mem_of_mem_trace (visitable : ∀ visit ∈ visits, script.IsVisitable visit) {episode : Episode}
    (told : episode ∈ script.trace setting visits stage) : episode.visit ∈ visits := by
  have accounts := accounts_follow setting visits stage visitable
  have made : episode.visit ∈ (script.follow setting visits stage).visits := by
    rw [← accounts.visits]
    exact List.mem_map_of_mem told
  exact (follow_visits visits stage visitable).1.subset made

end Append

/-- The other segments have no member of a segment. -/
theorem members_disjoint {before after : List Segment} {segment : Segment}
    (split : segmentsFrom 0 none script.steps = before ++ segment :: after) :
    ∀ other ∈ before ++ after, ∀ i ∈ other.members, i ∉ segment.members := by
  have once := nodup_members script.steps
  rw [split, List.flatMap_append, List.flatMap_cons] at once
  intro other mem i member here
  rcases List.mem_append.1 mem with earlier | later
  · have there : i ∈ before.flatMap Segment.members := List.mem_flatMap.2 ⟨other, earlier, member⟩
    exact List.disjoint_of_nodup_append once there (List.mem_append_left _ here)
  · have there : i ∈ after.flatMap Segment.members := List.mem_flatMap.2 ⟨other, later, member⟩
    exact List.disjoint_of_nodup_append once.of_append_right here there

/-- **A passage through a segment.** A run that comes to a segment and is not cut there makes all visits of it, one
after the other, and before and after it visits other steps. -/
theorem exists_passage {segment : Segment} (within : segment ∈ segmentsFrom 0 none script.steps)
    (reached : ∃ visit ∈ (script.run setting stage).visits.toList, visit.index ∈ segment.members)
    (uncut : ∀ i ∈ cutAt? (script.run setting stage).outcome, i ∉ segment.members) :
    ∃ (before after : List Episode) (here : Stage),
      script.runTrace setting stage = before ++ (script.trace setting segment.walk here ++ after) ∧
        (∀ episode ∈ before ++ after, episode.visit.index ∉ segment.members) ∧
        here.host.setup = stage.host.setup ∧
        (script.follow setting segment.walk here).outcome = .ok .completed := by
  obtain ⟨before, after, split⟩ := List.append_of_mem within
  have apart := members_disjoint split
  -- What is visited in other segments is no member of this one.
  have elsewhere (others : List Segment) (part : ∀ other ∈ others, other ∈ before ++ after) :
      ∀ visit ∈ others.flatMap Segment.walk, visit.index ∉ segment.members := by
    intro visit mem
    obtain ⟨other, among, made⟩ := List.mem_flatMap.1 mem
    exact apart other (part other among) _ (index_mem_of_mem_walk made)
  have route : script.route .start =
      before.flatMap Segment.walk ++ (segment.walk ++ after.flatMap Segment.walk) := by
    rw [route_start_eq_segments, split, List.flatMap_append, List.flatMap_cons]
  have visitable : ∀ visit ∈ script.route .start, script.IsVisitable visit := isVisitable_of_mem_route .start
  rw [route] at visitable
  obtain ⟨earlier, visitable'⟩ := List.forall_mem_append.1 visitable
  obtain ⟨inside, later⟩ := List.forall_mem_append.1 visitable'
  have course := course_run script setting stage
  rw [route] at course
  have comes : (script.follow setting (before.flatMap Segment.walk) stage).outcome = .ok .completed := by
    obtain ⟨visit, made, member⟩ := reached
    have made' : visit ∈ (script.run setting stage).course.visits := made
    rw [course] at made'
    apply completed_of_reached earlier made'
    intro early
    exact elsewhere before (fun _ => List.mem_append_left after) visit early member
  obtain ⟨onward, trace⟩ := follow_append earlier comes (segment.walk ++ after.flatMap Segment.walk)
  let here := (script.follow setting (before.flatMap Segment.walk) stage).stage
  have passes : (script.follow setting segment.walk here).outcome = .ok .completed := by
    have same : (script.run setting stage).outcome = _ := congrArg Course.outcome (course.trans onward)
    rw [same] at uncut
    apply completed_of_uncut inside
    intro i cut visit made at_cut
    exact uncut i cut (at_cut ▸ index_mem_of_mem_walk made)
  obtain ⟨-, trace'⟩ := follow_append inside passes (after.flatMap Segment.walk)
  refine ⟨script.trace setting (before.flatMap Segment.walk) stage,
    script.trace setting (after.flatMap Segment.walk) (script.follow setting segment.walk here).stage, here, ?_, ?_,
    (accounts_follow setting _ stage earlier).setup, passes⟩
  · rw [runTrace, route, trace, trace']
  · refine List.forall_mem_append.2 ⟨?_, ?_⟩
    · intro episode told
      exact elsewhere before (fun _ => List.mem_append_left after) _ (visit_mem_of_mem_trace earlier told)
    · intro episode told
      exact elsewhere after (fun _ => List.mem_append_right before) _ (visit_mem_of_mem_trace later told)

/-- Of the visits with a property that only visits in a segment have, a run that comes to the segment and is not cut
there makes those of its walk, and touches the files that they tell. -/
theorem filter_of_passage {segment : Segment} (within : segment ∈ segmentsFrom 0 none script.steps)
    (reached : ∃ visit ∈ (script.run setting stage).visits.toList, visit.index ∈ segment.members)
    (uncut : ∀ i ∈ cutAt? (script.run setting stage).outcome, i ∉ segment.members) (p : Visit → Bool)
    (own : ∀ visit, p visit = true → visit.index ∈ segment.members) :
    (script.run setting stage).visits.toList.filter p = segment.walk.filter p ∧
      ((script.runTrace setting stage).filter fun episode => p episode.visit).flatMap Episode.touched =
        (segment.walk.filter p).filterMap (script.touch? stage.host) := by
  obtain ⟨before, after, here, trace, apart, setup, passes⟩ := exists_passage within reached uncut
  have visitable : ∀ visit ∈ segment.walk, script.IsVisitable visit := by
    intro visit made
    apply isVisitable_of_mem_route .start
    rw [route_start_eq_segments]
    exact List.mem_flatMap.2 ⟨segment, within, made⟩
  have accounts := accounts_follow setting segment.walk here visitable
  have walked : (script.follow setting segment.walk here).visits = segment.walk :=
    (follow_visits segment.walk here visitable).2 passes
  have only : ((script.runTrace setting stage).filter fun episode => p episode.visit) =
      (script.trace setting segment.walk here).filter fun episode => p episode.visit := by
    have none_of (episodes : List Episode) (part : ∀ episode ∈ episodes, episode ∈ before ++ after) :
        (episodes.filter fun episode => p episode.visit) = [] := by
      apply List.filter_eq_nil_iff.2
      intro episode told chosen
      exact apart episode (part episode told) (own _ chosen)
    rw [trace, List.filter_append, List.filter_append, none_of before fun _ => List.mem_append_left after,
      none_of after fun _ => List.mem_append_right before, List.nil_append, List.append_nil]
  constructor
  · have told : (script.runTrace setting stage).map Episode.visit = (script.run setting stage).visits.toList :=
      (accounts_of_run script setting stage).visits
    have through (episodes : List Episode) : (episodes.map Episode.visit).filter p =
        (episodes.filter fun episode => p episode.visit).map Episode.visit := List.filter_map
    rw [← told, through, only, ← through, accounts.visits, walked]
  · obtain ⟨missed, touched, -, nothing⟩ := accounts.touched p
    rw [nothing (by rw [passes]; rfl), List.append_nil, walked] at touched
    rw [only, touched, funext (touch?_of_setup setup)]

end Script

end CanvasScript
