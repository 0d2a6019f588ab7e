import SlabRings.Proofs.Client.Progress

/-!
# Which slabs can be made

A slab is refused where its elements are larger than the run, or more than
handles can tell apart. The check takes a size of zero for one of a byte, so a
run of more bytes than there are indices is refused for elements without size
as well, of which it would have none to count. A refusal changes nothing; what
is admitted comes first on its ring, and each of its elements has a handle.
-/

namespace SlabRings

/-! ## The check -/

theorem Run.not_admits_iff {size elementSize : UInt64} :
    ¬Run.Admits size elementSize ↔
      size < elementSize ∨ Handle.maxIndex + 1 < Run.capacity size elementSize ∨
        (elementSize = 0 ∧ Handle.maxIndex + 1 < size.toNat) := by
  by_cases unsized : elementSize = 0
  · subst unsized
    simp [Run.Admits]
  · rw [Run.admits_iff_of_ne_zero unsized, not_and_or, UInt64.not_le, Nat.not_le]
    simp [unsized]

namespace Pool

/-! ## Refused -/

theorem insert_eq_none_iff {pool after : Pool} {head : Nat} {coordinate : UInt32}
    {offset elementSize : UInt64} :
    pool.insert head coordinate offset elementSize = .ok (none, after) ↔
      ¬Run.Admits pool.pageSize elementSize ∧ after = pool := by
  rw [insert_eq_ok_iff]
  constructor
  · intro effect
    cases effect with
    | sizeRefused refused => exact ⟨refused, rfl⟩
  · rintro ⟨refused, rfl⟩
    exact .sizeRefused refused

/-! ## Admitted -/

structure Admitted (before : Pool) (head : Nat) (run : Run) (elementSize : UInt64) (after : Pool)
    (id : Nat) (slab : Slab) : Prop where
  fresh : ¬before.IsSlab id
  live : after.slab id = .ok slab
  run_eq : slab.run = run
  elementSize_eq : slab.elementSize = elementSize
  capacity_eq : slab.capacity = Run.capacity run.size elementSize
  ring_eq : ∃ ids, before.ring head = .ok ids ∧ after.ring head = .ok (id :: ids)
  exists_handle (element : Nat) : element < slab.capacity →
    ∃ handle, slab.handle element = .ok handle

theorem admitted_of_insert {pageSize : UInt64} {pool after : Pool} {head id : Nat}
    {coordinate : UInt32} {offset elementSize : UInt64} (reachable : Reachable pageSize pool)
    (inserted : pool.insert head coordinate offset elementSize = .ok (some id, after)) :
    ∃ slab, pool.Admitted head ⟨coordinate, offset, pageSize⟩ elementSize after id slab := by
  have effect := insert_eq_ok_iff.mp inserted
  rcases reachable.exists_rings with ⟨lists, rings⟩
  have moved : after.Rings (lists.pushFront head id) := effect.rings rings
  have reached := reachable.step (apply_eq_ok_iff.mpr effect)
  have size := reachable.pageSize_eq
  cases effect with
  | inserted admits claimed configured =>
      rcases account_of_insert claimed configured with ⟨fresh, accounts⟩
      rcases (rings.newSlab claimed).present_of_configure configured with ⟨ids, present⟩
      have account : after.account id = some
          (Slab.divide { run := ⟨coordinate, offset, pool.pageSize⟩ } elementSize) := by
        rw [accounts, Accounts.set_same]
      rcases account_eq_some_iff.mp account with ⟨slab, live, same⟩
      have run : slab.run = ⟨coordinate, offset, pageSize⟩ := by
        rw [← size]
        exact (congrArg Slab.run same : slab.bare.run = _)
      have divided : slab.elementSize = elementSize :=
        (congrArg Slab.elementSize same : slab.bare.elementSize = _)
      have balanced := (reached.balanced live).1
      have addressable : slab.capacity ≤ Handle.maxIndex + 1 := by
        apply balanced.addressable
        rw [run, divided, ← size]
        exact admits
      exact ⟨slab, {
        fresh := account_eq_none_iff.mp fresh
        live := live
        run_eq := run
        elementSize_eq := divided
        capacity_eq := by rw [balanced.capacity_eq, run, divided]
        ring_eq := ⟨ids, rings.ring_eq present,
          moved.ring_eq (by simp [Lists.pushFront, present])⟩
        exists_handle := by
          intro element inRange
          exact slab.exists_handle (by omega) }⟩

theorem total_inService_lt_size {pool : Pool} {head : Nat} (isHead : pool.IsHead head) :
    pool.total Slab.inService < pool.slots.size := by
  have noAccount : pool.account head = none :=
    account_eq_none_iff.mpr (not_isSlab_of_isHead isHead)
  have member : head ∈ Finset.range pool.slots.size := by
    rcases isHead with ⟨neighbours, stored⟩
    exact Finset.mem_range.mpr (lt_size_of_getElem? (head_eq_ok_iff.mp stored))
  have one (id : Nat) : (pool.account id).elim 0 Slab.inService ≤ 1 := by
    cases pool.account id with
    | none => exact Nat.zero_le 1
    | some slab => cases active : slab.active <;> simp [Slab.inService, active]
  calc
    pool.total Slab.inService
      = ∑ id ∈ (Finset.range pool.slots.size).erase head,
          (pool.account id).elim 0 Slab.inService := by
        rw [total, Accounts.total, Finset.sum_erase]
        rw [noAccount]
        rfl
    _ ≤ ((Finset.range pool.slots.size).erase head).card • 1 :=
        Finset.sum_le_card_nsmul _ _ 1 fun id _ => one id
    _ < pool.slots.size := by
        have fewer := Finset.card_erase_lt_of_mem member
        rw [Finset.card_range] at fewer
        simpa using fewer

end Pool

/-- A slab is refused exactly where its elements are larger than the run, or more than there are
indices, or have no size on a run of more bytes than indices. A refusal leaves the pool as it is,
an admitted slab is first on its ring with a handle for each element, and one of the two happens
unless the table outgrows the addresses. -/
theorem insert_refused_iff {pageSize : UInt64} {pool : Pool} {head : Nat}
    (reachable : Reachable pageSize pool) (isHead : pool.IsHead head) (coordinate : UInt32)
    (offset elementSize : UInt64) :
    ((∃ after, pool.insert head coordinate offset elementSize = .ok (none, after)) ↔
      pageSize < elementSize ∨ Handle.maxIndex + 1 < Run.capacity pageSize elementSize ∨
        (elementSize = 0 ∧ Handle.maxIndex + 1 < pageSize.toNat)) ∧
      (∀ after, pool.insert head coordinate offset elementSize = .ok (none, after) →
        after = pool) ∧
      (∀ id after, pool.insert head coordinate offset elementSize = .ok (some id, after) →
        ∃ slab, pool.Admitted head ⟨coordinate, offset, pageSize⟩ elementSize after id slab) ∧
      (pool.slots.size < Checked.wordValues →
        ∃ answer after, pool.insert head coordinate offset elementSize = .ok (answer, after)) := by
  have size := reachable.pageSize_eq
  refine ⟨?_, ?_, ?_, ?_⟩
  · simp only [Pool.insert_eq_none_iff, exists_eq_right, size, Run.not_admits_iff]
  · intro after refused
    exact (Pool.insert_eq_none_iff.mp refused).2
  · intro id after inserted
    exact Pool.admitted_of_insert reachable inserted
  · intro fits
    by_cases admits : Run.Admits pool.pageSize elementSize
    · rcases reachable.exists_rings with ⟨lists, rings⟩
      rcases reachable.exists_vacancies with ⟨vacant, vacancies⟩
      have few : pool.counters.activeSlabs + 1 < Checked.wordValues := by
        have bound := Pool.total_inService_lt_size isHead
        rw [← reachable.activeSlabs_eq_total] at bound
        omega
      rcases rings.exists_insert vacancies isHead few admits coordinate offset with
        ⟨id, after, inserted⟩
      exact ⟨some id, after, inserted⟩
    · exact ⟨none, pool, Pool.insert_eq_none_iff.mpr ⟨admits, rfl⟩⟩

theorem insert_refused_iff_at_last_index :
    ∃ full beyond,
      (Pool.empty 1073741824).run [.newHead] = .ok ([.head 0], full) ∧
      (Pool.empty 1073741825).run [.newHead] = .ok ([.head 0], beyond) ∧
      (∃ id after slab, full.insert 0 5 0 1 = .ok (some id, after) ∧ after.slab id = .ok slab ∧
        slab.capacity = 1073741824 ∧ after.ring 0 = .ok [id] ∧
        ∃ handle, slab.handle 1073741823 = .ok handle) ∧
      beyond.insert 0 5 0 1 = .ok (none, beyond) ∧
      ∃ id after, beyond.insert 0 5 0 2 = .ok (some id, after) := by
  let full : Pool := { pageSize := 1073741824, slots := #[.head ⟨0, 0⟩] }
  let beyond : Pool := { pageSize := 1073741825, slots := #[.head ⟨0, 0⟩] }
  have ranFull : (Pool.empty 1073741824).run [.newHead] = .ok ([.head 0], full) := by
    decide +kernel
  have ranBeyond : (Pool.empty 1073741825).run [.newHead] = .ok ([.head 0], beyond) := by
    decide +kernel
  have isHead : full.IsHead 0 := ⟨⟨0, 0⟩, rfl⟩
  have isHeadBeyond : beyond.IsHead 0 := ⟨⟨0, 0⟩, rfl⟩
  have ring : full.ring 0 = .ok [] := by decide +kernel
  rcases insert_refused_iff (Reachable.empty.run ranFull) isHead 5 0 1 with
    ⟨refuses, _, admits, answers⟩
  rcases insert_refused_iff (Reachable.empty.run ranBeyond) isHeadBeyond 5 0 1 with
    ⟨refusesBytes, unchanged, _, _⟩
  rcases insert_refused_iff (Reachable.empty.run ranBeyond) isHeadBeyond 5 0 2 with
    ⟨refusesPairs, _, _, answersPairs⟩
  have bytes : ∃ id after, full.insert 0 5 0 1 = .ok (some id, after) := by
    rcases answers (by decide) with ⟨_ | id, after, inserted⟩
    · exact absurd (refuses.mp ⟨after, inserted⟩) (by decide +kernel)
    · exact ⟨id, after, inserted⟩
  have pairs : ∃ id after, beyond.insert 0 5 0 2 = .ok (some id, after) := by
    rcases answersPairs (by decide) with ⟨_ | id, after, inserted⟩
    · exact absurd (refusesPairs.mp ⟨after, inserted⟩) (by decide +kernel)
    · exact ⟨id, after, inserted⟩
  rcases refusesBytes.mpr (by decide +kernel) with ⟨after, refused⟩
  rw [unchanged after refused] at refused
  rcases bytes with ⟨id, divided, inserted⟩
  rcases admits id divided inserted with ⟨slab, admitted⟩
  rcases admitted.ring_eq with ⟨ids, earlier, first⟩
  cases ring.symm.trans earlier
  have capacity : slab.capacity = 1073741824 := admitted.capacity_eq.trans (by decide +kernel)
  exact ⟨full, beyond, ranFull, ranBeyond,
    ⟨id, divided, slab, inserted, admitted.live, capacity, first,
      admitted.exists_handle 1073741823 (by rw [capacity]; decide)⟩,
    refused, pairs⟩

/-- A slab of elements without size would have none to count, and a slab that is there already is
divided so. To insert one is refused all the same, where the run has more bytes than there are
indices. -/
theorem unsized_insert_refused :
    ∃ answers pool,
      (Pool.empty 1073741825).run [.newHead, .insert 0 5 0 1073741825, .unlink 1,
        .configure 1 0 0] = .ok (answers, pool) ∧
      Run.capacity 1073741825 0 = 0 ∧ pool.IsHead 0 ∧
      pool.insert 0 6 1073741825 0 = .ok (none, pool) ∧
      ¬((∃ after, pool.insert 0 6 1073741825 0 = .ok (none, after)) ↔
        (1073741825 : UInt64) < 0 ∨ Handle.maxIndex + 1 < Run.capacity 1073741825 0) := by
  let slab : Slab :=
    { run := ⟨5, 0, 1073741825⟩
      active := true
      prev := some 0
      next := some 0 }
  let pool : Pool :=
    { pageSize := 1073741825
      slots := #[.head ⟨1, 1⟩, .slab slab]
      counters := { activeSlabs := 1 } }
  have ran : (Pool.empty 1073741825).run [.newHead, .insert 0 5 0 1073741825, .unlink 1,
      .configure 1 0 0] = .ok ([.head 0, .inserted (some 1), .done, .done], pool) := by
    decide +kernel
  have refused : pool.insert 0 6 1073741825 0 = .ok (none, pool) := by decide +kernel
  refine ⟨_, pool, ran, rfl, ⟨⟨1, 1⟩, rfl⟩, refused, ?_⟩
  intro refusedWhereTooMany
  have tooMany := refusedWhereTooMany.mp ⟨pool, refused⟩
  revert tooMany
  decide +kernel

end SlabRings
