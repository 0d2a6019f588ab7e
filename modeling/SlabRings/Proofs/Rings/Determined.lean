import SlabRings.Proofs.Rings.Reading

/-!
# Rings determined by lists

The lists leave no freedom to the links: each slot of a circuit has the
neighbours that the list says, and a slot on no list has none. So two pools with
the same lists that are equal apart from their links are equal, and what the
links of a slab tell of its company can be told from the lists.
-/

namespace SlabRings

/-! ## Links -/

namespace Links.Carries

variable {links others : Links} {lists : Lists}

theorem free_iff (carries : links.Carries lists) (slot : Nat) :
    links.Free slot ↔ ∀ head, ¬lists.Has head slot := by
  constructor
  · intro free head has
    exact carries.not_free_of_has has free
  · intro absent
    by_contra linked
    rcases carries.on_list slot linked with ⟨head, has⟩
    exact absent head has

theorem unique (carries : links.Carries lists) (otherCarries : others.Carries lists) :
    links = others := by
  have same (slot : Nat) : links.next slot = others.next slot ∧
      links.prev slot = others.prev slot := by
    by_cases free : links.Free slot
    · have otherFree := (otherCarries.free_iff slot).mpr ((carries.free_iff slot).mp free)
      rw [free.1, free.2, otherFree.1, otherFree.2]
      exact ⟨rfl, rfl⟩
    · rcases carries.on_list slot free with ⟨head, ids, present, member⟩
      have circuit := carries.circuit present
      have otherCircuit := otherCarries.circuit present
      rcases circuit.exists_ahead_of_both otherCircuit member with ⟨ahead, leaving, otherLeaving⟩
      rcases circuit.exists_behind_of_both otherCircuit member with
        ⟨behind, entering, otherEntering⟩
      rw [leaving.1, otherLeaving.1, entering.2, otherEntering.2]
      exact ⟨rfl, rfl⟩
  ext1
  · funext slot
    exact (same slot).1
  · funext slot
    exact (same slot).2

end Links.Carries

/-! ## Pools -/

namespace Pool

theorem eq_of_bare_eq {pool other : Pool} (same : other.bare = pool.bare)
    (sameLinks : other.links = pool.links) : other = pool := by
  have slots : other.slots = pool.slots := by
    apply Array.ext_getElem?
    intro id
    exact getElem?_eq_of_bare_eq same (congrFun (congrArg Links.next sameLinks) id)
      (congrFun (congrArg Links.prev sameLinks) id)
  rcases other with ⟨_, otherSlots, _, _⟩
  rcases pool with ⟨_, poolSlots, _, _⟩
  cases slots
  simpa [bare] using same

theorem Rings.eq_of_bare_eq {pool other : Pool} {lists : Lists} (rings : pool.Rings lists)
    (otherRings : other.Rings lists) (same : other.bare = pool.bare) : other = pool :=
  Pool.eq_of_bare_eq same (otherRings.carries.unique rings.carries)

end Pool

/-! ## Slabs -/

def Lists.Accompanied (lists : Lists) (id : Nat) : Prop :=
  ∃ head ids, lists head = some ids ∧ id ∈ ids ∧ ids ≠ [id]

namespace Pool.Rings

variable {pool : Pool} {lists : Lists} {id head : Nat} {slab : Slab}

/-- A slab has two different neighbours exactly if there are others on its list. -/
theorem prev_ne_next_iff (rings : pool.Rings lists) (live : pool.slab id = .ok slab) :
    slab.prev ≠ slab.next ↔ lists.Accompanied id := by
  rcases rings.linked_or_free live with
    ⟨head, _, _, ⟨ids, present, onRing⟩, _, _, _, _⟩ | ⟨prev, next, absent⟩
  · have member := rings.mem_of_has live present ⟨ids, present, onRing⟩
    have alone := (rings.carries.circuit present).prev_eq_next_iff (rings.carries.nodup present)
      member
    rw [links_prev_of_slab live, links_next_of_slab live] at alone
    rw [ne_eq, alone]
    constructor
    · intro company
      exact ⟨head, ids, present, member, company⟩
    · rintro ⟨other, others, presentOther, memberOther, company⟩
      have same := rings.carries.same_head ⟨ids, present, onRing⟩
        ⟨others, presentOther, List.mem_cons_of_mem other memberOther⟩
      subst same
      cases present.symm.trans presentOther
      exact company
  · rw [prev, next]
    constructor
    · intro impossible
      exact absurd rfl impossible
    · rintro ⟨other, others, present, member, _⟩
      exact absurd ⟨others, present, List.mem_cons_of_mem other member⟩ (absent other)

theorem links_of_front (rings : pool.Rings lists) (live : pool.slab id = .ok slab)
    {ids : List Nat} (present : lists head = some (id :: ids)) :
    slab.prev = some head ∧ slab.next = some (ids.headD head) := by
  rcases List.isChain_cons_cons.mp (rings.carries.circuit present) with ⟨entering, chain⟩
  rw [← links_prev_of_slab live, ← links_next_of_slab live]
  refine ⟨entering.2, ?_⟩
  cases ids with
  | nil => exact (List.isChain_pair.mp chain).1
  | cons first rest => exact (List.isChain_cons_cons.mp chain).1.1

theorem eq_of_front (rings : pool.Rings lists) {other : Pool} {others : Lists} {otherId : Nat}
    {otherSlab : Slab} {ids : List Nat} (otherRings : other.Rings others)
    (live : pool.slab id = .ok slab) (otherLive : other.slab otherId = .ok otherSlab)
    (present : lists head = some (id :: ids)) (otherPresent : others head = some (otherId :: ids))
    (same : slab.bare = otherSlab.bare) : slab = otherSlab := by
  rcases rings.links_of_front live present with ⟨prev, next⟩
  rcases otherRings.links_of_front otherLive otherPresent with ⟨otherPrev, otherNext⟩
  exact Slab.eq_of_bare_eq same (prev.trans otherPrev.symm) (next.trans otherNext.symm)

end Pool.Rings

end SlabRings
