import Mathlib.Data.List.Perm.Subperm
import SlabRings.Proofs.Pool.Writes
import SlabRings.Proofs.Rings.Lists

/-!
# Reading the rings

Where the links of a pool carry lists, reading the ring of a head gives the list
of that head: the walk meets every slab on it once, finds a successor each time,
and is back at the head before its steps run out.
-/

namespace SlabRings

theorem Slab.isLinked_eq_ok_iff {slab : Slab} {linked : Bool} :
    slab.isLinked = .ok linked ↔ slab.prev.isSome = linked ∧ slab.next.isSome = linked := by
  unfold isLinked
  cases slab.prev.isSome <;> cases slab.next.isSome <;> cases linked <;> decide

theorem Slab.detached_of_isLinked {slab : Slab} (detached : slab.isLinked = .ok false) :
    slab.prev = none ∧ slab.next = none := by
  simpa using isLinked_eq_ok_iff.mp detached

namespace Pool

open Checked (bind_eq_ok_iff)

/-- The rings of the pool stand for the lists. -/
structure Rings (pool : Pool) (lists : Lists) : Prop where
  isHead_iff (id : Nat) : pool.IsHead id ↔ ∃ ids, lists id = some ids
  carries : pool.links.Carries lists

/-! ## Links and entries -/

theorem links_free_of_not_inUse {pool : Pool} {id : Nat} (notHead : ¬pool.IsHead id)
    (notSlab : ¬pool.IsSlab id) : pool.links.Free id := by
  cases stored : pool.slots[id]? with
  | none => simp [Links.Free, links, stored]
  | some slot =>
      cases slot with
      | head neighbours => exact absurd ⟨neighbours, head_eq_ok_iff.mpr stored⟩ notHead
      | slab content => exact absurd ⟨content, slab_eq_ok_iff.mpr stored⟩ notSlab
      | vacant earlier => simp [Links.Free, links, stored, Slot.next?, Slot.prev?]

theorem free_iff_of_slab {pool : Pool} {id : Nat} {slab : Slab} (live : pool.slab id = .ok slab) :
    pool.links.Free id ↔ slab.next = none ∧ slab.prev = none := by
  rw [Links.Free, links_next_of_slab live, links_prev_of_slab live]

theorem mem_headIds {pool : Pool} {id : Nat} : id ∈ pool.headIds ↔ pool.IsHead id := by
  simp only [headIds, List.mem_filter, List.mem_range, IsHead, head_eq_ok_iff]
  cases stored : pool.slots[id]? with
  | none => simp
  | some slot =>
      have inTable := lt_size_of_getElem? stored
      cases slot with
      | head neighbours => simp [inTable]
      | slab content => simp
      | vacant earlier => simp

theorem mem_slabIds {pool : Pool} {id : Nat} : id ∈ pool.slabIds ↔ pool.IsSlab id := by
  simp only [slabIds, List.mem_filter, List.mem_range, IsSlab, slab_eq_ok_iff]
  cases stored : pool.slots[id]? with
  | none => simp
  | some slot =>
      have inTable := lt_size_of_getElem? stored
      cases slot with
      | slab content => simp [inTable]
      | head neighbours => simp
      | vacant earlier => simp

theorem length_slabIds_le (pool : Pool) : pool.slabIds.length ≤ pool.slots.size := by
  calc
    pool.slabIds.length ≤ (List.range pool.slots.size).length := List.length_filter_le _ _
    _ = pool.slots.size := List.length_range

/-! ## The walk -/

theorem walk_of_isChain {pool : Pool} {head : Nat} {ids : List Nat} (headOnce : head ∉ ids)
    (live : ∀ id ∈ ids, pool.IsSlab id) {start current steps : Nat}
    (chain : (start :: (ids ++ [head])).IsChain fun slot other => pool.links.next slot = some other)
    (leads : pool.links.next start = some current) (enough : ids.length ≤ steps) :
    pool.walk head steps current = .ok ids := by
  induction ids generalizing start current steps with
  | nil =>
      have closes : pool.links.next start = some head := (List.isChain_cons_cons.mp chain).1
      have last : current = head := Option.some.inj (leads.symm.trans closes)
      cases steps with
      | zero => rw [walk, if_pos last]
      | succ steps => rw [walk, if_pos last]
  | cons id rest induction =>
      rcases List.isChain_cons_cons.mp chain with ⟨first, chain⟩
      have same : current = id := Option.some.inj (leads.symm.trans first)
      subst same
      cases steps with
      | zero => simp at enough
      | succ steps =>
          have notHead : current ≠ head := by
            intro same
            exact headOnce (same ▸ List.mem_cons_self)
          rcases live current List.mem_cons_self with ⟨slab, isSlab⟩
          rcases Links.exists_ahead_of_isChain chain List.mem_cons_self with ⟨next, _, ahead⟩
          have restOnce := fun member => headOnce (List.mem_cons_of_mem current member)
          have restLive := fun id member => live id (List.mem_cons_of_mem current member)
          have walked := induction restOnce restLive chain ahead (Nat.le_of_succ_le_succ enough)
          rw [links_next_of_slab isSlab] at ahead
          rw [walk, if_neg notHead]
          apply bind_eq_ok_iff.mpr
          refine ⟨slab, isSlab, ?_⟩
          rw [ahead]
          exact bind_eq_ok_iff.mpr ⟨rest, walked, rfl⟩

namespace Rings

variable {pool : Pool} {lists : Lists}

theorem isSlab (rings : pool.Rings lists) {head id : Nat} {ids : List Nat}
    (present : lists head = some ids) (member : id ∈ ids) : pool.IsSlab id := by
  by_contra notSlab
  have notHead : ¬pool.IsHead id := by
    rw [rings.isHead_iff, rings.carries.not_mem_of_head present member]
    intro ⟨_, impossible⟩
    cases impossible
  exact rings.carries.not_free_of_has ⟨ids, present, List.mem_cons_of_mem head member⟩
    (links_free_of_not_inUse notHead notSlab)

theorem inUse (rings : pool.Rings lists) {head slot : Nat} (has : lists.Has head slot) :
    pool.InUse slot := by
  rcases has with ⟨ids, present, member⟩
  rcases List.mem_cons.mp member with rfl | listed
  · exact .inl ((rings.isHead_iff slot).mpr ⟨ids, present⟩)
  · exact .inr (rings.isSlab present listed)

theorem length_le (rings : pool.Rings lists) {head : Nat} {ids : List Nat}
    (present : lists head = some ids) : ids.length ≤ pool.slabIds.length := by
  have once := (List.nodup_cons.mp (rings.carries.nodup present)).2
  have subset : ids ⊆ pool.slabIds := fun id member =>
    mem_slabIds.mpr (rings.isSlab present member)
  exact (List.subperm_of_subset once subset).length_le

theorem walk_eq (rings : pool.Rings lists) {head steps : Nat} {ids : List Nat}
    {neighbours : Neighbours} (present : lists head = some ids)
    (isHead : pool.head head = .ok neighbours) (enough : ids.length ≤ steps) :
    pool.walk head steps neighbours.next = .ok ids := by
  have headOnce := (List.nodup_cons.mp (rings.carries.nodup present)).1
  have chain := (rings.carries.circuit present).ahead
  exact walk_of_isChain headOnce (fun _ member => rings.isSlab present member) chain
    (links_next_of_head isHead) enough

theorem ring_eq (rings : pool.Rings lists) {head : Nat} {ids : List Nat}
    (present : lists head = some ids) : pool.ring head = .ok ids := by
  rcases (rings.isHead_iff head).mpr ⟨ids, present⟩ with ⟨neighbours, isHead⟩
  have enough := (rings.length_le present).trans pool.length_slabIds_le
  exact bind_eq_ok_iff.mpr ⟨neighbours, isHead, rings.walk_eq present isHead enough⟩

theorem ring_eq_ok_iff (rings : pool.Rings lists) {head : Nat} {ids : List Nat} :
    pool.ring head = .ok ids ↔ lists head = some ids := by
  constructor
  · intro read
    rcases bind_eq_ok_iff.mp read with ⟨neighbours, isHead, _⟩
    rcases (rings.isHead_iff head).mp ⟨neighbours, isHead⟩ with ⟨others, present⟩
    cases (rings.ring_eq present).symm.trans read
    exact present
  · exact rings.ring_eq

/-! ## Slabs and their neighbours -/

theorem linked_or_free (rings : pool.Rings lists) {id : Nat} {slab : Slab}
    (live : pool.slab id = .ok slab) :
    (∃ head prev next, lists.Has head id ∧ slab.prev = some prev ∧ slab.next = some next ∧
        lists.Has head prev ∧ lists.Has head next) ∨
      (slab.prev = none ∧ slab.next = none ∧ ∀ head, ¬lists.Has head id) := by
  rw [← links_prev_of_slab live, ← links_next_of_slab live]
  by_cases free : pool.links.Free id
  · exact .inr ⟨free.2, free.1, fun head has => rings.carries.not_free_of_has has free⟩
  · rcases rings.carries.on_list id free with ⟨head, has⟩
    rcases rings.carries.exists_neighbours has with
      ⟨prev, next, hasPrev, hasNext, entering, leaving⟩
    exact .inl ⟨head, prev, next, has, entering.2, leaving.1, hasPrev, hasNext⟩

theorem next_ne_none_iff (rings : pool.Rings lists) {id : Nat} {slab : Slab}
    (live : pool.slab id = .ok slab) : slab.next ≠ none ↔ ∃ head, lists.Has head id := by
  rcases rings.linked_or_free live with ⟨head, _, _, has, _, next, _, _⟩ | ⟨_, next, absent⟩
  · simp only [next, ne_eq, reduceCtorEq, not_false_eq_true, true_iff]
    exact ⟨head, has⟩
  · simp [next, absent]

theorem isLinked_eq (rings : pool.Rings lists) {id : Nat} {slab : Slab}
    (live : pool.slab id = .ok slab) : slab.isLinked = .ok slab.next.isSome := by
  apply Slab.isLinked_eq_ok_iff.mpr
  rcases rings.linked_or_free live with ⟨_, _, _, _, prev, next, _, _⟩ | ⟨prev, next, _⟩
  · simp [prev, next]
  · simp [prev, next]

theorem mem_of_has (rings : pool.Rings lists) {head id : Nat} {ids : List Nat} {slab : Slab}
    (live : pool.slab id = .ok slab) (present : lists head = some ids) (has : lists.Has head id) :
    id ∈ ids := by
  rcases List.mem_cons.mp ((Lists.has_iff_of_eq_some present).mp has) with rfl | listed
  · have isHead := (rings.isHead_iff id).mpr ⟨ids, present⟩
    exact absurd ⟨slab, live⟩ (not_isSlab_of_isHead isHead)
  · exact listed

theorem exists_mem_ring_iff (rings : pool.Rings lists) {id : Nat} {slab : Slab}
    (live : pool.slab id = .ok slab) :
    (∃ head ids, pool.ring head = .ok ids ∧ id ∈ ids) ↔ ∃ head, lists.Has head id := by
  constructor
  · intro ⟨head, ids, read, member⟩
    exact ⟨head, ids, rings.ring_eq_ok_iff.mp read, List.mem_cons_of_mem head member⟩
  · intro ⟨head, has⟩
    rcases has with ⟨ids, present, member⟩
    exact ⟨head, ids, rings.ring_eq present, rings.mem_of_has live present ⟨ids, present, member⟩⟩

/-! ## Splices that succeed -/

theorem exists_link (rings : pool.Rings lists) {id head : Nat} {slab : Slab}
    (isHead : pool.IsHead head) (live : pool.slab id = .ok slab)
    (detached : slab.prev = none ∧ slab.next = none) : ∃ after, pool.link id head = .ok after := by
  rcases (rings.isHead_iff head).mp isHead with ⟨ids, present⟩
  rcases isHead with ⟨neighbours, isHead⟩
  have ahead := links_next_of_head isHead
  have onRing := ((rings.carries.circuit present).joined_of_next List.mem_cons_self ahead).1
  exact Pool.exists_link isHead live detached (rings.inUse ⟨ids, present, onRing⟩)

theorem exists_unlink (rings : pool.Rings lists) {id : Nat} {slab : Slab}
    (live : pool.slab id = .ok slab) (linked : slab.next ≠ none) :
    ∃ after, pool.unlink id = .ok after := by
  rcases rings.linked_or_free live with
    ⟨_, _, _, _, prev, next, hasPrev, hasNext⟩ | ⟨_, next, _⟩
  · exact Pool.exists_unlink live prev next (rings.inUse hasPrev) (rings.inUse hasNext)
  · exact absurd next linked

/-! ## Reading the lists -/

theorem toOption_ring (rings : pool.Rings lists) (head : Nat) :
    (pool.ring head).toOption = lists head := by
  cases read : pool.ring head with
  | ok ids =>
      rw [rings.ring_eq_ok_iff.mp read]
      rfl
  | error fault =>
      cases present : lists head with
      | none => rfl
      | some ids =>
          rw [rings.ring_eq present] at read
          cases read

end Rings

end Pool

end SlabRings
