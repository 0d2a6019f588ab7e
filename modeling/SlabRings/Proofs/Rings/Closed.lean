import SlabRings.Proofs.Rings.Refinement

/-!
# Closed rings

In every reachable pool the rings are closed in both directions, apart from each
other and complete: a slab with neighbours is on the ring of one head, a slab
without is on none, and no link leads anywhere but along a ring.
-/

namespace SlabRings

/-- The ring of the head leads through the slabs in order and back, in both directions,
and reading it takes no more steps than there are slabs. -/
structure Pool.ClosedRing (pool : Pool) (head : Nat) (ids : List Nat) : Prop where
  ring_eq : pool.ring head = .ok ids
  nodup : ids.Nodup
  isSlab (id : Nat) : id ∈ ids → pool.IsSlab id
  ahead : (head :: (ids ++ [head])).IsChain fun slot other => pool.links.next slot = some other
  behind :
    (head :: (ids.reverse ++ [head])).IsChain fun slot other => pool.links.prev slot = some other
  length_le : ids.length ≤ pool.slabIds.length
  walk_eq (neighbours : Neighbours) (steps : Nat) : pool.head head = .ok neighbours →
    ids.length ≤ steps → pool.walk head steps neighbours.next = .ok ids

/-- Whether a slab has neighbours tells on how many rings it is. -/
inductive Pool.Placed (pool : Pool) (id : Nat) (slab : Slab) : Prop where
  | onNone (prev : slab.prev = none) (next : slab.next = none)
      (absent : ∀ head ids, pool.ring head = .ok ids → id ∉ ids)
  | onOne (prev : slab.prev ≠ none) (next : slab.next ≠ none)
      (present : ∃! head, ∃ ids, pool.ring head = .ok ids ∧ id ∈ ids)

namespace Pool.Rings

variable {pool : Pool} {lists : Lists}

theorem closedRing (rings : pool.Rings lists) {head : Nat} {ids : List Nat}
    (present : lists head = some ids) : pool.ClosedRing head ids where
  ring_eq := rings.ring_eq present
  nodup := (List.nodup_cons.mp (rings.carries.nodup present)).2
  isSlab _ member := rings.isSlab present member
  ahead := (rings.carries.circuit present).ahead
  behind := (rings.carries.circuit present).behind
  length_le := rings.length_le present
  walk_eq _ _ isHead enough := rings.walk_eq present isHead enough

theorem placed (rings : pool.Rings lists) {id : Nat} {slab : Slab}
    (live : pool.slab id = .ok slab) : pool.Placed id slab := by
  rcases rings.linked_or_free live with ⟨head, _, _, has, prev, next, _, _⟩ | ⟨prev, next, absent⟩
  · apply Placed.onOne (by simp [prev]) (by simp [next])
    rcases has with ⟨ids, present, member⟩
    have listed := rings.mem_of_has live present ⟨ids, present, member⟩
    refine ⟨head, ⟨ids, rings.ring_eq present, listed⟩, ?_⟩
    intro other ⟨others, read, memberOther⟩
    have presentOther := rings.ring_eq_ok_iff.mp read
    exact rings.carries.same_head ⟨others, presentOther, List.mem_cons_of_mem other memberOther⟩
      ⟨ids, present, member⟩
  · apply Placed.onNone prev next
    intro head ids read member
    exact absent head ⟨ids, rings.ring_eq_ok_iff.mp read, List.mem_cons_of_mem head member⟩

theorem exists_ring_of_link (rings : pool.Rings lists) {slot other : Nat}
    (linked : pool.links.next slot = some other ∨ pool.links.prev slot = some other) :
    ∃ head ids, pool.ring head = .ok ids ∧ slot ∈ head :: ids ∧ other ∈ head :: ids := by
  have notFree : ¬pool.links.Free slot := by
    intro free
    rcases linked with ahead | behind
    · simp [free.1] at ahead
    · simp [free.2] at behind
  rcases rings.carries.on_list slot notFree with ⟨head, ids, present, member⟩
  refine ⟨head, ids, rings.ring_eq present, member, ?_⟩
  rcases linked with ahead | behind
  · exact ((rings.carries.circuit present).joined_of_next member ahead).1
  · exact ((rings.carries.circuit present).joined_of_prev member behind).1

end Pool.Rings

/-- In a reachable pool every head has a closed ring, every slab is on one ring or on none
as its neighbours say, and every link stays on a ring. -/
theorem rings_closed {pageSize : UInt64} {pool : Pool} (reachable : Reachable pageSize pool) :
    (∀ head, pool.IsHead head → ∃ ids, pool.ClosedRing head ids) ∧
      (∀ id slab, pool.slab id = .ok slab → pool.Placed id slab) ∧
      ∀ slot other, pool.links.next slot = some other ∨ pool.links.prev slot = some other →
        ∃ head ids, pool.ring head = .ok ids ∧ slot ∈ head :: ids ∧ other ∈ head :: ids := by
  rcases reachable.exists_rings with ⟨lists, rings⟩
  refine ⟨?_, ?_, ?_⟩
  · intro head isHead
    rcases (rings.isHead_iff head).mp isHead with ⟨ids, present⟩
    exact ⟨ids, rings.closedRing present⟩
  · intro id slab live
    exact rings.placed live
  · intro slot other linked
    exact rings.exists_ring_of_link linked

theorem rings_closed_after_exhaustion :
    ∃ answers pool slab,
      (Pool.empty 32).run [.newHead, .insert 0 7 0 16, .insert 0 8 32 32, .allocate 2] =
        .ok (answers, pool) ∧
      pool.slab 2 = .ok slab ∧ slab.next = none ∧
      (∃ ids, pool.ClosedRing 0 ids) ∧ pool.Placed 2 slab := by
  let roomy : Slab :=
    { run := ⟨7, 0, 32⟩
      elementSize := 16
      capacity := 2
      available := 2
      hint := some 0
      active := true
      occupancy := ⟨#[0]⟩
      prev := some 0
      next := some 0 }
  let exhausted : Slab :=
    { run := ⟨8, 32, 32⟩
      elementSize := 32
      capacity := 1
      active := true
      occupancy := ⟨#[1]⟩ }
  let pool : Pool :=
    { pageSize := 32
      slots := #[.head ⟨1, 1⟩, .slab roomy, .slab exhausted]
      counters := { activeSlabs := 2, allocations := 1 } }
  have ran : (Pool.empty 32).run [.newHead, .insert 0 7 0 16, .insert 0 8 32 32, .allocate 2] =
      .ok ([.head 0, .inserted (some 1), .inserted (some 2),
        .allocated (some ⟨0x4000000000000008#64⟩)], pool) := by
    decide +kernel
  have live : pool.slab 2 = .ok exhausted := rfl
  have isHead : pool.IsHead 0 := ⟨⟨1, 1⟩, rfl⟩
  have closed := rings_closed (Reachable.empty.run ran)
  exact ⟨_, pool, exhausted, ran, live, rfl, closed.1 0 isHead, closed.2.1 2 exhausted live⟩

end SlabRings
