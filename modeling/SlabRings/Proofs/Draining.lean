import SlabRings.Proofs.Outstanding
import SlabRings.Proofs.Requests

/-!
# Draining slabs

Asked again and again, a slab in service gives out its free elements, each of
them once, and then nothing more. Only a slab that was taken off its ring by
hand cannot give the last of them, since it would have to leave its ring with it.
-/

namespace SlabRings

open Checked (bind_eq_ok_iff wordValues)

/-! ## Free elements -/

namespace Slab

def freeElements (slab : Slab) : Finset Nat :=
  Finset.range slab.capacity \ slab.occupancy.elements

theorem mem_freeElements {slab : Slab} {element : Nat} :
    element ∈ slab.freeElements ↔ element < slab.capacity ∧ element ∉ slab.occupancy := by
  rw [freeElements, Finset.mem_sdiff, Finset.mem_range, Occupancy.mem_elements]

theorem Balanced.card_freeElements {slab : Slab} (balanced : slab.Balanced) :
    slab.freeElements.card = slab.available := by
  have total := balanced.available_add_count
  rw [Occupancy.count_eq_card] at total
  rw [freeElements, Finset.card_sdiff_of_subset balanced.elements_subset_range, Finset.card_range]
  omega

structure Drawn (slab : Slab) (element : Nat) (left : Slab) : Prop where
  free : element ∈ slab.freeElements
  freeElements_eq : left.freeElements = slab.freeElements.erase element
  available_eq : slab.available = left.available + 1
  elementSize_eq : left.elementSize = slab.elementSize
  capacity_eq : left.capacity = slab.capacity
  active_eq : left.active = slab.active

structure DrawnAll (slab : Slab) (handles : List Handle) (left : Slab) : Prop where
  nodup : (handles.map Handle.index).Nodup
  free : (handles.map Handle.index).toFinset ⊆ slab.freeElements
  freeElements_eq : left.freeElements = slab.freeElements \ (handles.map Handle.index).toFinset
  available_eq : slab.available = left.available + handles.length

theorem drawn_bare {slab left : Slab} {element : Nat} :
    slab.Drawn element left.bare ↔ slab.Drawn element left :=
  ⟨fun ⟨free, others, available, elementSize, capacity, active⟩ =>
      ⟨free, others, available, elementSize, capacity, active⟩,
    fun ⟨free, others, available, elementSize, capacity, active⟩ =>
      ⟨free, others, available, elementSize, capacity, active⟩⟩

theorem Balanced.drawn {slab taken : Slab} {handle : Handle} (balanced : slab.Balanced)
    (serves : slab.CanServe) (takes : slab.takeHandle = .ok (handle, taken)) :
    slab.Drawn handle.index taken := by
  have free := mem_freeElements.mpr (balanced.given_free serves takes)
  have taking := (take_of_takeHandle takes).1
  have available := available_of_take taking
  rcases take_eq_ok_iff.mp taking with ⟨_, grown, grows, _, rfl⟩
  exact {
    free
    freeElements_eq := by
      rw [freeElements, freeElements, Occupancy.elements_of_insert grows, Finset.sdiff_insert]
    available_eq := available
    elementSize_eq := rfl
    capacity_eq := rfl
    active_eq := rfl }

theorem DrawnAll.nil (slab : Slab) : slab.DrawnAll [] slab where
  nodup := List.nodup_nil
  free := Finset.empty_subset _
  freeElements_eq := Finset.sdiff_empty.symm
  available_eq := rfl

theorem Drawn.cons {slab middle left : Slab} {handle : Handle} {handles : List Handle}
    (drawn : slab.Drawn handle.index middle) (rest : middle.DrawnAll handles left) :
    slab.DrawnAll (handle :: handles) left where
  nodup := by
    rw [List.map_cons, List.nodup_cons]
    refine ⟨?_, rest.nodup⟩
    intro again
    have stillFree := rest.free (List.mem_toFinset.mpr again)
    rw [drawn.freeElements_eq] at stillFree
    exact Finset.notMem_erase _ _ stillFree
  free := by
    rw [List.map_cons, List.toFinset_cons, Finset.insert_subset_iff]
    refine ⟨drawn.free, rest.free.trans ?_⟩
    rw [drawn.freeElements_eq]
    exact Finset.erase_subset _ _
  freeElements_eq := by
    rw [rest.freeElements_eq, drawn.freeElements_eq, List.map_cons, List.toFinset_cons,
      Finset.sdiff_insert, Finset.erase_sdiff_comm]
  available_eq := by
    rw [drawn.available_eq, rest.available_eq, List.length_cons, Nat.add_assoc]

theorem DrawnAll.toFinset_eq {slab left : Slab} {handles : List Handle}
    (drawnAll : slab.DrawnAll handles left) (balanced : left.Balanced)
    (exhausted : left.available = 0) :
    (handles.map Handle.index).toFinset = slab.freeElements := by
  have nothing : left.freeElements = ∅ := by
    rw [← Finset.card_eq_zero, balanced.card_freeElements, exhausted]
  rw [drawnAll.freeElements_eq, Finset.sdiff_eq_empty_iff_subset] at nothing
  exact drawnAll.free.antisymm nothing

end Slab

/-! ## Drawing elements -/

namespace Pool

/-- As many requests as there are handles, each met with the next of them. -/
def Draws (pool : Pool) (id : Nat) (handles : List Handle) (after : Pool) : Prop :=
  pool.run (List.replicate handles.length (.allocate id)) =
    .ok (handles.map fun handle => .allocated (some handle), after)

theorem draws_nil (pool : Pool) (id : Nat) : pool.Draws id [] pool :=
  rfl

theorem Draws.cons {pool middle after : Pool} {id : Nat} {handle : Handle}
    {handles : List Handle} (allocated : pool.allocate id = .ok (some handle, middle))
    (draws : middle.Draws id handles after) : pool.Draws id (handle :: handles) after := by
  have applied : (Operation.allocate id).apply pool = .ok (.allocated (some handle), middle) :=
    apply_eq_ok_iff.mpr (allocate_eq_ok_iff.mp allocated)
  exact run_cons_eq_ok_iff.mpr ⟨_, middle, _, applied, draws, rfl⟩

/-- A slab in service that keeps account of its elements, in a pool that some history leads to.
Its handles hold the index of every element, and the counter of allocations has room for all. -/
structure Drainable (pageSize : UInt64) (pool : Pool) (id : Nat) (slab : Slab) : Prop where
  reachable : Reachable pageSize pool
  live : pool.slab id = .ok slab
  active : slab.active = true
  sized : slab.elementSize ≠ 0
  addressable : slab.capacity ≤ Handle.maxIndex + 1
  few : pool.counters.allocations + slab.available < wordValues

namespace Drainable

variable {pageSize : UInt64} {pool : Pool} {id : Nat} {slab : Slab}

theorem balanced (drainable : pool.Drainable pageSize id slab) : slab.Balanced :=
  (drainable.reachable.balanced drainable.live).1

theorem canServe (drainable : pool.Drainable pageSize id slab) (room : slab.available ≠ 0) :
    slab.CanServe :=
  ⟨drainable.sized, room, drainable.active⟩

theorem of_drawn {after : Pool} {left : Slab} {handle : Handle}
    (drainable : pool.Drainable pageSize id slab)
    (effect : Effect pool (.allocate id) (.allocated (some handle)) after)
    (live : after.slab id = .ok left) (drawn : slab.Drawn handle.index left) :
    after.Drainable pageSize id left where
  reachable := drainable.reachable.step (apply_eq_ok_iff.mpr effect)
  live := live
  active := drawn.active_eq.trans drainable.active
  sized := by
    rw [drawn.elementSize_eq]
    exact drainable.sized
  addressable := by
    rw [drawn.capacity_eq]
    exact drainable.addressable
  few := by
    have counted : after.counters.allocations = pool.counters.allocations + 1 := by
      simp [effect.counters, Counters.advance, isSized_account drainable.live, drainable.sized]
    have few := drainable.few
    rw [drawn.available_eq] at few
    omega

theorem exists_drawn (drainable : pool.Drainable pageSize id slab) (room : slab.available ≠ 0)
    (linked : slab.available = 1 → slab.next ≠ none) :
    ∃ handle after left, pool.allocate id = .ok (some handle, after) ∧
      after.Drainable pageSize id left ∧ slab.Drawn handle.index left ∧
      (left.available ≠ 0 → left.next = slab.next) := by
  have balanced := drainable.balanced
  have serves := drainable.canServe room
  rcases drainable.reachable.exists_rings with ⟨lists, rings⟩
  have few : pool.counters.allocations + 1 < wordValues := by
    have few := drainable.few
    omega
  rcases rings.exists_given drainable.live balanced serves drainable.addressable linked few with
    ⟨handle, after, effect⟩
  have allocated := allocate_eq_ok_iff.mpr effect
  have later {left : Slab} (live : after.slab id = .ok left)
      (drawn : slab.Drawn handle.index left) : after.Drainable pageSize id left :=
    drainable.of_drawn effect live drawn
  cases effect with
  | unsizedGiven live unsized _ =>
      cases live.symm.trans drainable.live
      exact absurd unsized drainable.sized
  | @given _ _ taken _ counters live serves takes _ _ =>
      cases live.symm.trans drainable.live
      have stored := slab_book live taken counters
      have drawn := balanced.drawn serves takes
      have sameNext := (Slab.links_of_takeHandle takes).2
      exact ⟨handle, _, taken, allocated, later stored drawn, drawn, fun _ => sameNext⟩
  | @lastGiven _ _ taken _ _ middle live serves takes exhausted unlinked _ =>
      cases live.symm.trans drainable.live
      -- The slab that left its ring differs from the one taken from, but in neighbours alone.
      have account : middle.account id = some taken.bare := by
        rw [account_of_book_unlink live unlinked, Accounts.set_same]
      rcases account_eq_some_iff.mp account with ⟨left, stored, same⟩
      have drawn : slab.Drawn handle.index left := by
        rw [← Slab.drawn_bare, same, Slab.drawn_bare]
        exact balanced.drawn serves takes
      have nothingLeft : left.available = 0 :=
        (congrArg Slab.available same : left.bare.available = taken.bare.available).trans exhausted
      exact ⟨handle, _, left, allocated, later stored drawn, drawn, fun room =>
        absurd nothingLeft room⟩

theorem exists_draws (drainable : pool.Drainable pageSize id slab) {count : Nat}
    (enough : count ≤ slab.available)
    (linked : count = slab.available → slab.available ≠ 0 → slab.next ≠ none) :
    ∃ handles after left, pool.Draws id handles after ∧ handles.length = count ∧
      after.Drainable pageSize id left ∧ slab.DrawnAll handles left ∧
      (left.available ≠ 0 → left.next = slab.next) := by
  induction count generalizing pool slab with
  | zero => exact ⟨[], pool, slab, draws_nil pool id, rfl, drainable, .nil slab, fun _ => rfl⟩
  | succ count induction =>
      have room : slab.available ≠ 0 := by omega
      have firstLinked : slab.available = 1 → slab.next ≠ none := by
        intro last
        exact linked (by omega) room
      rcases drainable.exists_drawn room firstLinked with
        ⟨handle, middle, rest, allocated, restDrainable, drawn, sameNext⟩
      have fewer := drawn.available_eq
      have restLinked : count = rest.available → rest.available ≠ 0 → rest.next ≠ none := by
        intro all restRoom
        rw [sameNext restRoom]
        exact linked (by omega) room
      rcases induction restDrainable (by omega) restLinked with
        ⟨handles, after, left, draws, length, leftDrainable, drawnAll, stillSame⟩
      refine ⟨handle :: handles, after, left, draws.cons allocated, ?_, leftDrainable,
        drawn.cons drawnAll, ?_⟩
      · rw [List.length_cons, length]
      · intro leftRoom
        have total := drawnAll.available_eq
        exact (stillSame leftRoom).trans (sameNext (by omega))

/-! ## The end of the draining -/

theorem allocate_exhausted (drainable : pool.Drainable pageSize id slab)
    (exhausted : slab.available = 0) : pool.allocate id = .ok (none, pool) := by
  have closed : ¬slab.CanServe := fun serves => serves.2.1 exhausted
  exact allocate_eq_ok_iff.mpr (.nothingGiven drainable.live drainable.sized closed)

theorem allocate_unlinked (drainable : pool.Drainable pageSize id slab)
    (last : slab.available = 1) (unlinked : slab.next = none) :
    pool.allocate id = .error (.notLinked id) := by
  have serves := drainable.canServe (by omega)
  rcases drainable.balanced.exists_takeHandle serves.2.1 drainable.addressable with
    ⟨handle, taken, takes⟩
  have exhausted : taken.available = 0 := by
    have fewer := Slab.available_of_take (Slab.take_of_takeHandle takes).1
    omega
  have stored : (pool.store id (.slab taken)).slab id = .ok taken :=
    slab_book drainable.live taken pool.counters
  have takenUnlinked : taken.next = none := (Slab.links_of_takeHandle takes).2.trans unlinked
  have stuck : (pool.store id (.slab taken)).unlink id = .error (.notLinked id) := by
    simp [unlink, stored, takenUnlinked, bind, Except.bind]
  simp [allocate, drainable.live, drainable.sized, serves, takes, exhausted, stuck, bind,
    Except.bind]

theorem exists_drained (drainable : pool.Drainable pageSize id slab)
    (linked : slab.available ≠ 0 → slab.next ≠ none) :
    ∃ handles drained, pool.Draws id handles drained ∧ handles.length = slab.available ∧
      (handles.map Handle.index).Nodup ∧
      (handles.map Handle.index).toFinset = slab.freeElements ∧
      drained.allocate id = .ok (none, drained) := by
  rcases drainable.exists_draws (Nat.le_refl _) (fun _ => linked) with
    ⟨handles, drained, left, draws, length, leftDrainable, drawnAll, _⟩
  have exhausted : left.available = 0 := by
    have total := drawnAll.available_eq
    omega
  exact ⟨handles, drained, draws, length, drawnAll.nodup,
    drawnAll.toFinset_eq leftDrainable.balanced exhausted,
    leftDrainable.allocate_exhausted exhausted⟩

theorem exists_stuck (drainable : pool.Drainable pageSize id slab) (room : slab.available ≠ 0)
    (unlinked : slab.next = none) :
    ∃ handles stuck, pool.Draws id handles stuck ∧ handles.length + 1 = slab.available ∧
      (handles.map Handle.index).Nodup ∧
      (handles.map Handle.index).toFinset ⊆ slab.freeElements ∧
      stuck.allocate id = .error (.notLinked id) := by
  have fewer : slab.available - 1 ≠ slab.available := by omega
  rcases drainable.exists_draws (Nat.sub_le _ 1) (fun all => absurd all fewer) with
    ⟨handles, stuck, left, draws, length, leftDrainable, drawnAll, sameNext⟩
  have last : left.available = 1 := by
    have total := drawnAll.available_eq
    omega
  have leftUnlinked : left.next = none := (sameNext (by omega)).trans unlinked
  exact ⟨handles, stuck, draws, by omega, drawnAll.nodup, drawnAll.free,
    leftDrainable.allocate_unlinked last leftUnlinked⟩

end Drainable

end Pool

/-- In any reachable pool, a slab in service gives its free elements one by one, each of them
once, and turns the next request down. If it has some and is on no ring, it gives all but one,
and the request for the last one faults. -/
theorem drained_where_linked {pageSize : UInt64} {pool : Pool}
    (reachable : Reachable pageSize pool) {id : Nat} {slab : Slab}
    (live : pool.slab id = .ok slab) (active : slab.active = true)
    (sized : slab.elementSize ≠ 0) (addressable : slab.capacity ≤ Handle.maxIndex + 1)
    (few : pool.counters.allocations + slab.available < wordValues) :
    (slab.available = 0 ∨ slab.isLinked = .ok true →
      ∃ handles drained, pool.Draws id handles drained ∧ handles.length = slab.available ∧
        (handles.map Handle.index).Nodup ∧
        (handles.map Handle.index).toFinset = slab.freeElements ∧
        drained.allocate id = .ok (none, drained)) ∧
      (slab.available ≠ 0 → slab.isLinked = .ok false →
        ∃ handles stuck, pool.Draws id handles stuck ∧ handles.length + 1 = slab.available ∧
          (handles.map Handle.index).Nodup ∧
          (handles.map Handle.index).toFinset ⊆ slab.freeElements ∧
          stuck.allocate id = .error (.notLinked id)) := by
  have drainable : pool.Drainable pageSize id slab :=
    { reachable, live, active, sized, addressable, few }
  refine ⟨?_, ?_⟩
  · intro drains
    apply drainable.exists_drained
    intro room
    have linked := (Slab.isLinked_eq_ok_iff.mp (drains.resolve_left room)).2
    exact Option.isSome_iff_ne_none.mp linked
  · intro room detached
    exact drainable.exists_stuck room (Slab.detached_of_isLinked detached).2

/-- A slab with one of its three elements taken gives the other two, and then none. The slab
beside it was taken off the ring with two elements free, and faults at the second. -/
theorem drained_where_linked_beside_unlinked :
    ∃ answers pool slab beside,
      (Pool.empty 96).run [.newHead, .insert 0 5 0 32, .insert 0 6 96 48, .allocate 1,
        .unlink 2] = .ok (answers, pool) ∧
      pool.slab 1 = .ok slab ∧ slab.freeElements = {1, 2} ∧
      (∃ handles drained, pool.Draws 1 handles drained ∧ handles.length = 2 ∧
        (handles.map Handle.index).Nodup ∧ (handles.map Handle.index).toFinset = {1, 2} ∧
        drained.allocate 1 = .ok (none, drained)) ∧
      pool.slab 2 = .ok beside ∧ beside.freeElements = {0, 1} ∧
      ∃ handles stuck, pool.Draws 2 handles stuck ∧ handles.length + 1 = 2 ∧
        (handles.map Handle.index).Nodup ∧ (handles.map Handle.index).toFinset ⊆ {0, 1} ∧
        stuck.allocate 2 = .error (.notLinked 2) := by
  let slab : Slab :=
    { run := ⟨5, 0, 96⟩
      elementSize := 32
      capacity := 3
      available := 2
      active := true
      occupancy := ⟨#[1]⟩
      prev := some 0
      next := some 0 }
  let beside : Slab :=
    { run := ⟨6, 96, 96⟩
      elementSize := 48
      capacity := 2
      available := 2
      hint := some 0
      active := true
      occupancy := ⟨#[0]⟩ }
  let pool : Pool :=
    { pageSize := 96
      slots := #[.head ⟨1, 1⟩, .slab slab, .slab beside]
      counters := { activeSlabs := 2, allocations := 1 } }
  have ran : (Pool.empty 96).run [.newHead, .insert 0 5 0 32, .insert 0 6 96 48, .allocate 1,
      .unlink 2] =
        .ok ([.head 0, .inserted (some 1), .inserted (some 2),
          .allocated (some ⟨0x4000000000000005#64⟩), .done], pool) := by
    decide +kernel
  have live : pool.slab 1 = .ok slab := rfl
  have liveBeside : pool.slab 2 = .ok beside := rfl
  have free : slab.freeElements = {1, 2} := by decide
  have freeBeside : beside.freeElements = {0, 1} := by decide
  have reachable := Reachable.empty.run ran
  have drains := drained_where_linked reachable live rfl (by decide) (by decide) (by decide)
  have sticks := drained_where_linked reachable liveBeside rfl (by decide) (by decide) (by decide)
  rw [free] at drains
  rw [freeBeside] at sticks
  exact ⟨_, pool, slab, beside, ran, live, free, drains.1 (.inr rfl), liveBeside, freeBeside,
    sticks.2 (by decide) rfl⟩

/-- A slab is taken off its ring with both its elements free. Two requests are one too many:
the slab is in service with two elements to give, and the second request faults. -/
theorem unlinked_not_drained :
    ∃ answers pool slab,
      (Pool.empty 8192).run [.newHead, .insert 0 2048 0 4096, .unlink 1] = .ok (answers, pool) ∧
      pool.slab 1 = .ok slab ∧ slab.active = true ∧ slab.elementSize ≠ 0 ∧
      slab.capacity ≤ Handle.maxIndex + 1 ∧
      pool.counters.allocations + slab.available < wordValues ∧ slab.available = 2 ∧
      pool.run (List.replicate slab.available (.allocate 1)) = .error (.notLinked 1) ∧
      ¬∃ handles after, handles.length = slab.available ∧ pool.Draws 1 handles after := by
  let slab : Slab :=
    { run := ⟨2048, 0, 8192⟩
      elementSize := 4096
      capacity := 2
      available := 2
      hint := some 0
      active := true
      occupancy := ⟨#[0]⟩ }
  let pool : Pool :=
    { pageSize := 8192
      slots := #[.head ⟨0, 0⟩, .slab slab]
      counters := { activeSlabs := 1 } }
  have ran : (Pool.empty 8192).run [.newHead, .insert 0 2048 0 4096, .unlink 1] =
      .ok ([.head 0, .inserted (some 1), .done], pool) := by
    decide +kernel
  have faults : pool.run (List.replicate slab.available (.allocate 1)) =
      .error (.notLinked 1) := by
    decide +kernel
  refine ⟨_, pool, slab, ran, rfl, rfl, by decide, by decide, by decide, rfl, faults, ?_⟩
  intro ⟨handles, after, length, draws⟩
  rw [Pool.Draws, length, faults] at draws
  cases draws

end SlabRings
