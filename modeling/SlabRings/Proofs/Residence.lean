import SlabRings.Proofs.Offers
import SlabRings.Proofs.Requests
import SlabRings.Proofs.Retirement

/-!
# Which slabs stay resident

A slab need not stay exactly if the element that comes back was its only one
out, it has others, and it is not alone on its ring. It then leaves the ring to
the slabs beside it and goes out of service. In all other cases it stays in
service, so that no ring is ever emptied by an element that comes back.
-/

namespace SlabRings

/-! ## The only element out -/

namespace Slab.Balanced

variable {slab released : Slab} {element : Nat}

theorem available_eq_capacity_iff_of_release (balanced : slab.Balanced)
    (releases : slab.release element = .ok released) :
    released.available = released.capacity ↔ slab.occupancy.elements = {element} := by
  rcases release_eq_ok_iff.mp releases with ⟨_, shrunk, shrinks, _, rfl⟩
  have total := balanced.available_add_count
  rw [Occupancy.count_eq_card] at total
  constructor
  · intro allFree
    change slab.available + 1 = slab.capacity at allFree
    -- One element is out at most, and the one that comes back is out.
    have few : slab.occupancy.elements.card ≤ 1 := by omega
    have member := Occupancy.mem_elements.mpr (Occupancy.erase_eq_ok_iff.mp shrinks).1
    have subset := Finset.singleton_subset_iff.mpr member
    exact (Finset.eq_of_subset_of_card_le subset few).symm
  · intro alone
    rw [alone, Finset.card_singleton] at total
    exact total

theorem elements_eq_singleton_iff (balanced : slab.Balanced) :
    slab.occupancy.elements = {element} ↔
      ∀ other, slab.isAllocated other = .ok (decide (other = element)) := by
  simp only [balanced.isAllocated_eq, Except.ok.injEq, decide_eq_decide, Finset.ext_iff,
    Occupancy.mem_elements, Finset.mem_singleton]

theorem available_ne_zero_iff_of_elements_eq (balanced : slab.Balanced)
    (alone : slab.occupancy.elements = {element}) : slab.available ≠ 0 ↔ 2 ≤ slab.capacity := by
  have total := balanced.available_add_count
  rw [Occupancy.count_eq_card, alone, Finset.card_singleton] at total
  omega

end Slab.Balanced

namespace Slab.Responds

variable {account : Slab} {company : Prop} {element : Nat} {response : Response}

theorem answer_eq_freed_false_iff (balanced : account.Balanced)
    (responds : account.Responds company (.free element) response) :
    response.answer = .freed false ↔
      account.elementSize ≠ 0 ∧ account.occupancy.elements = {element} ∧
        2 ≤ account.capacity ∧ company := by
  cases responds with
  | unsizedReturned unsized => simp [unsized]
  | firstReturned _ releases exhausted =>
      simp only [Answer.freed.injEq, Bool.true_eq_false, false_iff]
      rintro ⟨_, alone, several, _⟩
      exact (balanced.available_ne_zero_iff_of_elements_eq alone).mpr several exhausted
  | returned _ releases _ kept =>
      simp only [Answer.freed.injEq, Bool.true_eq_false, false_iff]
      rintro ⟨_, alone, _, accompanied⟩
      exact kept ⟨(balanced.available_eq_capacity_iff_of_release releases).mpr alone, accompanied⟩
  | retired sized releases room allFree accompanied =>
      have alone := (balanced.available_eq_capacity_iff_of_release releases).mp allFree
      have several := (balanced.available_ne_zero_iff_of_elements_eq alone).mp room
      simp [sized, alone, several, accompanied]

theorem active_of_resident (balanced : account.Balanced)
    (serving : account.elementSize = 0 → account.active = true)
    (responds : account.Responds company (.free element) response)
    (resident : response.answer = .freed true) : response.account.active = true := by
  cases responds with
  | unsizedReturned unsized => exact serving unsized
  | firstReturned _ releases _ | returned _ releases _ _ =>
      rw [(Slab.fields_of_release releases).1]
      exact balanced.active_of_release releases
  | retired => cases resident

end Slab.Responds

/-! ## Rings with others on them -/

/-- The slab is on a ring together with others. -/
def Pool.InCompany (pool : Pool) (id : Nat) : Prop :=
  ∃ head ids, pool.ring head = .ok ids ∧ id ∈ ids ∧ ∃ other ∈ ids, other ≠ id

namespace Pool.Rings

variable {pool : Pool} {lists : Lists} {id head : Nat}

theorem accompanied_iff (rings : pool.Rings lists) :
    lists.Accompanied id ↔ pool.InCompany id := by
  constructor
  · rintro ⟨head, ids, present, member, company⟩
    have once := (List.nodup_cons.mp (rings.carries.nodup present)).2
    have others : ids.erase id ≠ [] := by
      rw [ne_eq, List.erase_eq_nil_iff, not_or]
      exact ⟨List.ne_nil_of_mem member, company⟩
    rcases List.exists_mem_of_ne_nil _ others with ⟨other, beside⟩
    rcases once.mem_erase_iff.mp beside with ⟨different, listed⟩
    exact ⟨head, ids, rings.ring_eq present, member, other, listed, different⟩
  · rintro ⟨head, ids, read, member, other, listed, different⟩
    refine ⟨head, ids, rings.ring_eq_ok_iff.mp read, member, ?_⟩
    rintro rfl
    exact different (List.mem_singleton.mp listed)

theorem move_ne_nil (rings : pool.Rings lists) {account : Slab} {element : Nat}
    {response : Response}
    (responds : account.Responds (lists.Accompanied id) (.free element) response) {other : Nat}
    {ids : List Nat} (present : lists other = some ids) (notEmpty : ids ≠ []) :
    ∃ others, lists.move head id response.move other = some others ∧ others ≠ [] := by
  cases responds with
  | unsizedReturned | returned => exact ⟨ids, present, notEmpty⟩
  | firstReturned =>
      by_cases same : other = head
      · subst same
        exact ⟨id :: ids, by simp [Lists.move, Lists.pushFront, present], List.cons_ne_nil id ids⟩
      · exact ⟨ids, by simp [Lists.move, Lists.pushFront, same, present], notEmpty⟩
  | retired _ _ _ _ accompanied =>
      refine ⟨ids.erase id, by simp [Lists.move, Lists.remove, present], ?_⟩
      rw [ne_eq, List.erase_eq_nil_iff, not_or]
      refine ⟨notEmpty, ?_⟩
      -- A list of the slab alone is the list that it has company on.
      rintro rfl
      rcases accompanied with ⟨holder, others, listed, member, company⟩
      have same := rings.carries.same_head ⟨_, listed, List.mem_cons_of_mem holder member⟩
        ⟨_, present, List.mem_cons_of_mem other List.mem_cons_self⟩
      subst same
      cases listed.symm.trans present
      exact company rfl

end Pool.Rings

/-! ## Slabs that are given up -/

namespace Pool

/-- The element is the only one out of a slab that has others, and that is not alone on its ring. -/
structure Spare (pool : Pool) (id element : Nat) (slab : Slab) : Prop where
  sized : slab.elementSize ≠ 0
  only_out (other : Nat) : slab.isAllocated other = .ok (decide (other = element))
  two_le_capacity : 2 ≤ slab.capacity
  company : pool.InCompany id

theorem Rings.spare_iff {pool : Pool} {lists : Lists} {id element : Nat} {slab : Slab}
    (rings : pool.Rings lists) (balanced : slab.Balanced) :
    pool.Spare id element slab ↔
      slab.elementSize ≠ 0 ∧ slab.occupancy.elements = {element} ∧ 2 ≤ slab.capacity ∧
        lists.Accompanied id := by
  rw [balanced.elements_eq_singleton_iff, rings.accompanied_iff]
  exact ⟨fun ⟨sized, only, several, company⟩ => ⟨sized, only, several, company⟩,
    fun ⟨sized, only, several, company⟩ => ⟨sized, only, several, company⟩⟩

/-- The slab is left off the rings and out of service, with all its elements free. The other slabs
stay in their order, and at least one of them is on the ring that the slab left. -/
structure GivenUp (before after : Pool) (id : Nat) (slab left : Slab) : Prop where
  detached : left.isLinked = .ok false
  inactive : left.active = false
  all_free : left.available = left.capacity
  capacity_eq : left.capacity = slab.capacity
  not_allocated (element : Nat) : left.isAllocated element = .ok false
  ring_eq (head : Nat) (ids : List Nat) :
    before.ring head = .ok ids → after.ring head = .ok (ids.erase id)
  ring_not_empty : ∃ head ids, before.ring head = .ok ids ∧ id ∈ ids ∧ ids.erase id ≠ []
  activeSlabs_eq : after.counters.activeSlabs + 1 = before.counters.activeSlabs
  retirements_eq : after.counters.retirements = before.counters.retirements + 1

theorem Rings.givenUp {before after : Pool} {lists : Lists} {id head element : Nat}
    {slab left : Slab} {response : Response} (rings : before.Rings lists)
    (live : before.slab id = .ok slab) (balanced : slab.Balanced)
    (responds : slab.bare.Responds (lists.Accompanied id) (.free element) response)
    (answered : response.answer = .freed false)
    (settled : before.Settled lists id head response after) (leftLive : after.slab id = .ok left)
    (same : left.bare = response.account.bare) : before.GivenUp after id slab left := by
  cases responds with
  | @retired _ released sized releases _ allFree accompanied =>
      rcases settled.fits with ⟨_, some, _⟩
      have removed : after.Rings (lists.remove id) := settled.rings
      have counted : after.counters = Tally.retired.add before.counters := settled.counters
      have out : left.Retired := by
        rw [← Slab.retired_bare, same, Slab.retired_bare]
        exact (Slab.balanced_bare.mpr balanced).retired_of_release sized releases allFree
      have sameCapacity : left.capacity = slab.capacity := by
        rcases Slab.release_eq_ok_iff.mp releases with ⟨_, _, _, _, rfl⟩
        exact (congrArg Slab.capacity same : left.bare.capacity = _)
      exact {
        detached := rings.isLinked_of_remove ⟨slab, live⟩ removed leftLive
        inactive := out.inactive
        all_free := out.all_free
        capacity_eq := sameCapacity
        not_allocated := by
          intro other
          rw [out.balanced.isAllocated_eq, decide_eq_false (out.not_mem other)]
        ring_eq := by
          intro holder ids read
          apply removed.ring_eq
          simp [Lists.remove, rings.ring_eq_ok_iff.mp read]
        ring_not_empty := by
          rcases accompanied with ⟨holder, ids, present, member, company⟩
          refine ⟨holder, ids, rings.ring_eq present, member, ?_⟩
          rw [ne_eq, List.erase_eq_nil_iff, not_or]
          exact ⟨List.ne_nil_of_mem member, company⟩
        activeSlabs_eq := by
          rw [counted]
          exact Nat.sub_add_cancel some
        retirements_eq := by rw [counted]; rfl }
  | _ => cases answered

theorem resident_eq_false_iff {pageSize : UInt64} {before after : Pool} {id head element : Nat}
    {resident : Bool} {slab : Slab} (reachable : Reachable pageSize before)
    (live : before.slab id = .ok slab)
    (freed : before.free id head element = .ok (resident, after)) :
    resident = false ↔ before.Spare id element slab := by
  rcases reachable.exists_rings with ⟨lists, rings⟩
  have balanced := (reachable.balanced live).1
  have effect : Effect before ((Request.free element).on id head) (.freed resident) after :=
    free_eq_ok_iff.mp freed
  rcases rings.settled effect with ⟨account, response, present, responds, answered, _⟩
  cases (account_of_slab live).symm.trans present
  have retires := responds.answer_eq_freed_false_iff (Slab.balanced_bare.mpr balanced)
  rw [answered, Answer.freed.injEq] at retires
  exact retires.trans (rings.spare_iff balanced).symm

end Pool

/-- A slab need not stay exactly if the element that comes back was its only one out, it has
others, and it is not alone on its ring. It is then given up, and stays in service otherwise. No
ring loses its last slab. -/
theorem given_up_iff_spare {pageSize : UInt64} {before after : Pool} {id head element : Nat}
    {resident : Bool} (reachable : Reachable pageSize before)
    (freed : before.free id head element = .ok (resident, after)) :
    ∃ slab left, before.slab id = .ok slab ∧ after.slab id = .ok left ∧
      (resident = false ↔ before.Spare id element slab) ∧
      (resident = false → before.GivenUp after id slab left) ∧
      (resident = true → left.active = true) ∧
      ∀ other ids, before.ring other = .ok ids → ids ≠ [] →
        ∃ others, after.ring other = .ok others ∧ others ≠ [] := by
  rcases reachable.exists_rings with ⟨lists, rings⟩
  have effect : Pool.Effect before ((Request.free element).on id head) (.freed resident) after :=
    Pool.free_eq_ok_iff.mp freed
  rcases rings.settled effect with ⟨account, response, present, responds, answered, settled⟩
  rcases Pool.account_eq_some_iff.mp present with ⟨slab, live, rfl⟩
  have balanced := (reachable.balanced live).1
  have presentAfter : after.account id = some response.account.bare := by
    rw [settled.account present, Accounts.set_same]
  rcases Pool.account_eq_some_iff.mp presentAfter with ⟨left, leftLive, same⟩
  refine ⟨slab, left, live, leftLive, Pool.resident_eq_false_iff reachable live freed, ?_, ?_, ?_⟩
  · rintro rfl
    exact rings.givenUp live balanced responds answered settled leftLive same
  · rintro rfl
    have serving : slab.elementSize = 0 → slab.active = true := reachable.active_of_unsized live
    have active := responds.active_of_resident (Slab.balanced_bare.mpr balanced) serving answered
    exact (congrArg Slab.active same : left.bare.active = _).trans active
  · intro other ids read notEmpty
    rcases rings.move_ne_nil responds (rings.ring_eq_ok_iff.mp read) notEmpty with
      ⟨others, moved, left⟩
    exact ⟨others, settled.rings.ring_eq moved, left⟩

/-- Of two slabs the one is given up, with no head named at all. The other one, alone on the ring
from then on, stays when it falls wholly free. -/
theorem given_up_iff_spare_until_alone :
    ∃ answers before retired alone after slab left kept,
      (Pool.empty 32).run [.newHead, .insert 0 5 0 16, .insert 0 6 32 16, .unlink 1, .link 1 0,
        .allocate 1] = .ok (answers, before) ∧
      before.free 1 9 0 = .ok (false, retired) ∧ before.Spare 1 0 slab ∧
      before.GivenUp retired 1 slab left ∧
      (before.ring 0).toOption = some [1, 2] ∧ (retired.ring 0).toOption = some [2] ∧
      retired.run [.allocate 2] = .ok ([.allocated (some ⟨0x4000000000000006#64⟩)], alone) ∧
      alone.free 2 9 0 = .ok (true, after) ∧ after.slab 2 = .ok kept ∧
      kept.available = kept.capacity ∧ kept.active = true := by
  let first : Slab :=
    { run := ⟨5, 0, 32⟩
      elementSize := 16
      capacity := 2
      available := 1
      active := true
      occupancy := ⟨#[1]⟩
      prev := some 0
      next := some 2 }
  let second : Slab :=
    { run := ⟨6, 32, 32⟩
      elementSize := 16
      capacity := 2
      available := 2
      hint := some 0
      active := true
      occupancy := ⟨#[0]⟩
      prev := some 1
      next := some 0 }
  let before : Pool :=
    { pageSize := 32
      slots := #[.head ⟨2, 1⟩, .slab first, .slab second]
      counters := { activeSlabs := 2, allocations := 1 } }
  let out : Slab :=
    { first with
      available := 2, hint := some 0, active := false, occupancy := ⟨#[0]⟩
      prev := none, next := none }
  let remaining : Slab := { second with prev := some 0 }
  let retired : Pool :=
    { pageSize := 32
      slots := #[.head ⟨2, 2⟩, .slab out, .slab remaining]
      counters := { activeSlabs := 1, allocations := 1, frees := 1, retirements := 1 } }
  let used : Slab := { remaining with available := 1, hint := none, occupancy := ⟨#[1]⟩ }
  let alone : Pool :=
    { pageSize := 32
      slots := #[.head ⟨2, 2⟩, .slab out, .slab used]
      counters := { activeSlabs := 1, allocations := 2, frees := 1, retirements := 1 } }
  let after : Pool :=
    { retired with
      counters := { activeSlabs := 1, allocations := 2, frees := 2, retirements := 1 } }
  have reached : (Pool.empty 32).run [.newHead, .insert 0 5 0 16, .insert 0 6 32 16, .unlink 1,
      .link 1 0, .allocate 1] = .ok ([.head 0, .inserted (some 1), .inserted (some 2), .done,
        .done, .allocated (some ⟨0x4000000000000005#64⟩)], before) := by
    decide +kernel
  have freed : before.free 1 9 0 = .ok (false, retired) := by decide +kernel
  have ran : retired.run [.allocate 2] =
      .ok ([.allocated (some ⟨0x4000000000000006#64⟩)], alone) := by
    decide +kernel
  have returned : alone.free 2 9 0 = .ok (true, after) := by decide +kernel
  have reachable : Reachable 32 before := Reachable.empty.run reached
  have reachableAlone : Reachable 32 alone :=
    (reachable.step (Pool.apply_eq_ok_iff.mpr (Pool.free_eq_ok_iff.mp freed))).run ran
  rcases given_up_iff_spare reachable freed with ⟨slab, left, _, _, spare, givenUp, _, _⟩
  rcases given_up_iff_spare reachableAlone returned with ⟨_, kept, _, live, _, _, serves, _⟩
  have same : kept = remaining := Except.ok.inj live.symm
  subst same
  exact ⟨_, before, retired, alone, after, slab, left, remaining, reached, freed, spare.mp rfl,
    givenUp rfl, by decide +kernel, by decide +kernel, ran, returned, live, rfl, serves rfl⟩

end SlabRings
