import SlabRings.History
import SlabRings.Proofs.Pool.Effects

/-!
# Histories, one transition at a time

An observer of a history sees, for each operation, the pools around it and the
answer, and keeps notes of its own. What holds of the notes and the pool at the
start, and is kept by each transition, holds at the end of the history.
-/

namespace SlabRings

open Checked (bind_eq_ok_iff)

structure Transition where
  before : Pool
  operation : Operation
  answer : Answer
  after : Pool

namespace Pool

def transitions (pool : Pool) : List Operation → List Transition
  | [] => []
  | operation :: rest =>
      match operation.apply pool with
      | .ok (answer, after) => ⟨pool, operation, answer, after⟩ :: after.transitions rest
      | .error _ => []

theorem run_cons_eq_ok_iff {pool final : Pool} {operation : Operation} {rest : List Operation}
    {answers : List Answer} :
    pool.run (operation :: rest) = .ok (answers, final) ↔
      ∃ answer after others, operation.apply pool = .ok (answer, after) ∧
        after.run rest = .ok (others, final) ∧ answers = answer :: others := by
  rw [run, bind_eq_ok_iff]
  constructor
  · intro ⟨⟨answer, after⟩, applied, more⟩
    rcases bind_eq_ok_iff.mp more with ⟨⟨others, last⟩, ran, answered⟩
    cases answered
    exact ⟨answer, after, others, applied, ran, rfl⟩
  · rintro ⟨answer, after, others, applied, ran, rfl⟩
    exact ⟨(answer, after), applied, bind_eq_ok_iff.mpr ⟨(others, final), ran, rfl⟩⟩

theorem transitions_cons {pool after : Pool} {operation : Operation} {answer : Answer}
    (applied : operation.apply pool = .ok (answer, after)) (rest : List Operation) :
    pool.transitions (operation :: rest) =
      ⟨pool, operation, answer, after⟩ :: after.transitions rest := by
  rw [transitions, applied]

theorem observed_of {Notes : Type} (Allowed : Operation → Prop)
    (note : Notes → Transition → Notes) (Agree : Notes → Pool → Prop)
    (keeps : ∀ notes before operation answer after, Allowed operation → Agree notes before →
      Effect before operation answer after →
        Agree (note notes ⟨before, operation, answer, after⟩) after)
    {pool final : Pool} {operations : List Operation} {answers : List Answer} {notes : Notes}
    (allowed : ∀ operation, operation ∈ operations → Allowed operation)
    (agree : Agree notes pool) (ran : pool.run operations = .ok (answers, final)) :
    Agree ((pool.transitions operations).foldl note notes) final := by
  induction operations generalizing pool notes answers with
  | nil =>
      cases ran
      exact agree
  | cons operation rest induction =>
      rcases run_cons_eq_ok_iff.mp ran with ⟨answer, after, others, applied, ran, _⟩
      have firstAllowed := allowed operation List.mem_cons_self
      have restAllowed : ∀ other, other ∈ rest → Allowed other := by
        intro other member
        exact allowed other (List.mem_cons_of_mem operation member)
      rw [transitions_cons applied, List.foldl_cons]
      exact induction restAllowed (keeps _ _ _ _ _ firstAllowed agree (apply_eq_ok_iff.mp applied))
        ran

/-- What each transition keeps between an observer's notes and the pool, a history keeps. -/
theorem observed {Notes : Type} (note : Notes → Transition → Notes) (Agree : Notes → Pool → Prop)
    (keeps : ∀ notes before operation answer after, Agree notes before →
      Effect before operation answer after →
        Agree (note notes ⟨before, operation, answer, after⟩) after)
    {pool final : Pool} {operations : List Operation} {answers : List Answer} {notes : Notes}
    (agree : Agree notes pool) (ran : pool.run operations = .ok (answers, final)) :
    Agree ((pool.transitions operations).foldl note notes) final :=
  observed_of (fun _ => True) note Agree
    (fun notes before operation answer after _ => keeps notes before operation answer after)
    (fun _ _ => trivial) agree ran

theorem kept_of (Allowed : Operation → Prop) (Holds : Pool → Prop)
    (keeps : ∀ before operation answer after, Allowed operation → Holds before →
      Effect before operation answer after → Holds after)
    {pool final : Pool} {operations : List Operation} {answers : List Answer}
    (allowed : ∀ operation, operation ∈ operations → Allowed operation)
    (holds : Holds pool) (ran : pool.run operations = .ok (answers, final)) : Holds final :=
  @observed_of Unit Allowed (fun notes _ => notes) (fun _ pool => Holds pool) (fun _ => keeps)
    pool final operations answers () allowed holds ran

end Pool

theorem Reachable.run {pageSize : UInt64} {pool final : Pool} {operations : List Operation}
    {answers : List Answer} (reachable : Reachable pageSize pool)
    (ran : pool.run operations = .ok (answers, final)) : Reachable pageSize final := by
  induction operations generalizing pool answers with
  | nil =>
      cases ran
      exact reachable
  | cons operation rest induction =>
      rcases Pool.run_cons_eq_ok_iff.mp ran with ⟨answer, after, others, applied, ran, _⟩
      exact induction (reachable.step applied) ran

end SlabRings
