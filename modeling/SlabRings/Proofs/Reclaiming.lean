import SlabRings.Proofs.Offers
import SlabRings.Proofs.Outstanding

/-!
# Slabs that are given up

A slab is destroyed or divided anew only while it is on no ring. That a slab is
on no ring has one of three causes: it was retired, with nothing taken; it is
exhausted, with everything taken; or a client unlinked it by hand. So memory in
use is given up only where the client unlinked the slab, or has all of it.
-/

namespace SlabRings

/-! ## Slabs unlinked by hand -/

def Pool.isOffRing (pool : Pool) (id : Nat) : Bool :=
  match pool.slab id with
  | .ok slab => slab.next.isNone
  | .error _ => false

namespace Transition

def unlink (ids : Finset Nat) (transition : Transition) : Finset Nat :=
  match transition.operation with
  | .unlink id => insert id ids
  | _ => ids

/-- The slabs unlinked by hand that are on no ring still. -/
def setAside (ids : Finset Nat) (transition : Transition) : Finset Nat :=
  (transition.unlink ids).filter fun id => transition.after.isOffRing id

end Transition

def unlinkedByHand (pageSize : UInt64) (operations : List Operation) : Finset Nat :=
  ((Pool.empty pageSize).transitions operations).foldl Transition.setAside ∅

/-! ## Why a slab is on no ring -/

/-- A slab in service is on a ring, or exhausted, or set aside by hand. Only sized slabs leave
service. -/
structure Slab.Explained (slab : Slab) (onList byHand : Prop) : Prop where
  sized_of_retired : slab.active = false → slab.elementSize ≠ 0
  place : slab.active = true → onList ∨ (slab.elementSize ≠ 0 ∧ slab.available = 0) ∨ byHand

namespace Slab.Explained

variable {slab changed : Slab} {onList byHand : Prop}

theorem of_active (active : slab.active = true) : slab.Explained True byHand where
  sized_of_retired retired := absurd active (by simp [retired])
  place _ := .inl trivial

theorem of_exhausted (sized : slab.elementSize ≠ 0) (exhausted : slab.available = 0) :
    slab.Explained False byHand where
  sized_of_retired _ := sized
  place _ := .inr (.inl ⟨sized, exhausted⟩)

theorem of_retired (sized : slab.elementSize ≠ 0) (retired : slab.active = false) :
    slab.Explained False byHand where
  sized_of_retired _ := sized
  place active := absurd active (by simp [retired])

theorem of_room (explained : slab.Explained onList byHand) (room : slab.available ≠ 0)
    (sameActive : changed.active = slab.active)
    (sameSize : changed.elementSize = slab.elementSize) :
    changed.Explained onList byHand where
  sized_of_retired retired := by
    rw [sameSize]
    exact explained.sized_of_retired (sameActive ▸ retired)
  place active := by
    rcases explained.place (sameActive ▸ active) with listed | ⟨_, exhausted⟩ | aside
    · exact .inl listed
    · exact absurd exhausted room
    · exact .inr (.inr aside)

end Slab.Explained

abbrev Accounts.Explained (accounts : Accounts) (lists : Lists) (ids : Finset Nat) : Prop :=
  accounts.Placed (fun id slab onList => slab.Explained onList (id ∈ ids)) lists

theorem Accounts.set_eq_self {accounts : Accounts} {id : Nat} {slab : Slab}
    (live : accounts id = some slab) : accounts.set id (some slab) = accounts := by
  rw [set, ← live, Function.update_eq_self]

theorem Accounts.Explained.insert {accounts : Accounts} {lists : Lists} {ids : Finset Nat}
    (explained : accounts.Explained lists ids) (id : Nat) :
    accounts.Explained lists (Insert.insert id ids) := by
  intro other slab present
  rcases explained other slab present with ⟨sized, place⟩
  exact ⟨sized, fun active => (place active).imp_right
    (Or.imp_right fun aside => Finset.mem_insert_of_mem aside)⟩

/-! ## Every step -/

theorem Pool.Effect.explained {before after : Pool} {lists : Lists} {ids : Finset Nat}
    {operation : Operation} {answer : Answer} (effect : Effect before operation answer after)
    (rings : before.Rings lists) (sound : Accounts.Sound before.pageSize before.account)
    (explained : Accounts.Explained before.account lists ids) :
    Accounts.Explained after.account (lists.advance ⟨before, operation, answer, after⟩)
      (Transition.unlink ids ⟨before, operation, answer, after⟩) := by
  have nodup (head : Nat) (ids : List Nat) (present : lists head = some ids) :=
    rings.carries.nodup present
  cases effect with
  | headMade claimed =>
      rcases account_of_newHead claimed with ⟨noAccount, same⟩
      have fresh := rings.eq_none_of_not_isHead (writes_claim claimed).2.1
      rw [same]
      exact explained.addHead fresh noAccount
  | sizeRefused _ | nothingGiven _ _ _ => exact explained
  | inserted admitted claimed configured =>
      rcases (rings.newSlab claimed).present_of_configure configured with ⟨ids, present⟩
      rw [(account_of_insert claimed configured).2]
      exact explained.pushFront present (.of_active rfl)
  | configured configured =>
      rcases rings.present_of_configure configured with ⟨ids, present⟩
      rcases account_of_configure configured with ⟨slab, live, same⟩
      rw [same]
      exact explained.pushFront present (.of_active rfl)
  | unsizedGiven live unsized _ | unsizedReturned live unsized =>
      simpa [Transition.unlink, Lists.advance, hasFree_eq live, unsized] using explained
  | @given id slab taken _ counters live serves takes left _ =>
      have one := Slab.available_of_take (Slab.take_of_takeHandle takes).1
      rcases Slab.fields_of_takeHandle takes with ⟨sameActive, sameSize⟩
      have kept : Accounts.Explained (Accounts.set before.account id (some taken.bare)) lists ids :=
        explained.keep (account_of_slab live) fun onList earlier =>
          earlier.of_room serves.2.1 sameActive sameSize
      rw [account_book live]
      simpa [Transition.unlink, Lists.advance, hasFree_eq live, one, left] using kept
  | @lastGiven id slab taken _ counters middle live serves takes exhausted unlinked _ =>
      have one := Slab.available_of_take (Slab.take_of_takeHandle takes).1
      have sized : taken.bare.elementSize ≠ 0 := by
        have same := (Slab.fields_of_takeHandle takes).2
        exact same ▸ serves.1
      have removed := explained.remove nodup (rings.eq_none_of_slab live)
        (.of_exhausted sized exhausted)
      change Accounts.Explained middle.account _ _
      rw [account_of_book_unlink live unlinked]
      simpa [Transition.unlink, Lists.advance, hasFree_eq live, serves.1, one, exhausted] using removed
  | @firstReturned id head _ slab released counters _ live sized releases exhausted _ linked =>
      have active := (sound id slab.bare (account_of_slab live)).1.active_of_release
        (Slab.release_bare releases)
      have stillActive : released.bare.active = true :=
        (Slab.fields_of_release releases).1.trans active
      rcases Slab.links_of_release releases with ⟨samePrev, sameNext⟩
      rcases (rings.book live released sameNext samePrev counters).present_of_link linked with
        ⟨ids, present⟩
      rw [account_of_link linked, account_book live]
      simpa [Transition.unlink, Lists.advance, hasFree_eq live, sized, exhausted] using
        explained.pushFront present (.of_active stillActive)
  | @returned id _ _ slab released counters live sized releases room _ _ =>
      rcases Slab.fields_of_release releases with ⟨sameActive, sameSize, _⟩
      have kept : Accounts.Explained (Accounts.set before.account id (some released.bare)) lists
          ids :=
        explained.keep (account_of_slab live) fun onList earlier =>
          earlier.of_room room sameActive sameSize
      rw [account_book live]
      simpa [Transition.unlink, Lists.advance, hasFree_eq live, room] using kept
  | @retired id _ _ slab released _ _ middle live sized releases room _ _ _ unlinked _ =>
      have stillSized : released.retire.bare.elementSize ≠ 0 := by
        have same := (Slab.fields_of_release releases).2.1
        exact same ▸ sized
      have removed := explained.remove nodup (rings.eq_none_of_slab live)
        (.of_retired stillSized rfl)
      change Accounts.Explained middle.account _ _
      rw [account_of_book_unlink live unlinked]
      simpa [Transition.unlink, Lists.advance, hasFree_eq live, room] using removed
  | @linked id head _ linked =>
      rcases rings.present_of_link linked with ⟨listed, present⟩
      rcases link_spec linked with ⟨_, slab, _, live, _⟩
      have account := account_of_slab live
      have sized := (explained id slab.bare account).sized_of_retired
      rw [account_of_link linked, ← Accounts.set_eq_self account]
      exact explained.pushFront present ⟨sized, fun _ => .inl trivial⟩
  | @unlinked id _ unlinked =>
      rcases unlink_spec unlinked with ⟨slab, _, _, live, _⟩
      have account := account_of_slab live
      have sized := (explained id slab.bare account).sized_of_retired
      rw [account_of_unlink unlinked, ← Accounts.set_eq_self account]
      exact (explained.insert id).remove nodup (rings.eq_none_of_slab live)
        ⟨sized, fun _ => .inr (.inr (Finset.mem_insert_self id ids))⟩
  | @destroyed id _ _ live _ _ =>
      change Accounts.Explained (before.vacate id).account _ _
      rw [account_of_vacate live]
      exact explained.vacate id

theorem Pool.Rings.explained_offRing {pool : Pool} {lists : Lists} {ids : Finset Nat}
    (rings : pool.Rings lists) (explained : Accounts.Explained pool.account lists ids) :
    Accounts.Explained pool.account lists (ids.filter fun id => pool.isOffRing id) := by
  intro id slab present
  have isSlab : pool.IsSlab id := by
    by_contra absent
    rw [account_eq_none_iff.mpr absent] at present
    cases present
  rcases isSlab with ⟨content, live⟩
  rcases explained id slab present with ⟨sized, place⟩
  refine ⟨sized, fun active => ?_⟩
  by_cases onList : ∃ head, lists.Has head id
  · exact .inl onList
  · have offRing : pool.isOffRing id = true := by
      have alone := not_not.mp ((rings.next_ne_none_iff live).not.mpr onList)
      simp [isOffRing, live, alone]
    exact (place active).imp_right
      (Or.imp_right fun aside => Finset.mem_filter.mpr ⟨aside, offRing⟩)

/-! ## Every history -/

theorem explained_after {pageSize : UInt64} {operations : List Operation} {answers : List Answer}
    {pool : Pool} (ran : (Pool.empty pageSize).run operations = .ok (answers, pool)) :
    ∃ lists, pool.Rings lists ∧
      Accounts.Explained pool.account lists (unlinkedByHand pageSize operations) := by
  have start : Accounts.Explained (Pool.empty pageSize).account (fun _ => none) ∅ := by
    intro id slab present
    cases present
  have history := Pool.observed Transition.setAside
    (fun ids pool => Reachable pageSize pool ∧
      ∃ lists, pool.Rings lists ∧ Accounts.Explained pool.account lists ids)
    ?_ ⟨.empty, _, Pool.rings_empty pageSize, start⟩ ran
  · exact history.2
  · rintro ids before operation answer after ⟨reachable, lists, rings, explained⟩ effect
    have sound := reachable.accounts_sound
    rw [← reachable.pageSize_eq] at sound
    have stillRings := effect.rings rings
    refine ⟨reachable.step (Pool.apply_eq_ok_iff.mpr effect), _, stillRings, ?_⟩
    exact stillRings.explained_offRing (effect.explained rings sound explained)

namespace Slab.Balanced

variable {slab : Slab}

theorem elements_of_retired (balanced : slab.Balanced) (retired : slab.active = false) :
    slab.occupancy.elements = ∅ := by
  apply Finset.eq_empty_of_forall_notMem
  intro element member
  exact balanced.not_mem_of_all_free (balanced.retired_free retired) element
    (Occupancy.mem_elements.mp member)

theorem elements_of_exhausted (balanced : slab.Balanced) (exhausted : slab.available = 0) :
    slab.occupancy.elements = Finset.range slab.capacity := by
  have total := balanced.available_add_count
  rw [Occupancy.count_eq_card] at total
  apply Finset.eq_of_subset_of_card_le balanced.elements_subset_range
  rw [Finset.card_range]
  omega

end Slab.Balanced

theorem Pool.isLinked_of_reclaimed {pool : Pool} {id : Nat} {slab : Slab}
    (live : pool.slab id = .ok slab)
    (reclaimed : (∃ run after, pool.destroy id = .ok (run, after)) ∨
      ∃ head elementSize after, pool.configure id head elementSize = .ok after) :
    slab.isLinked = .ok false := by
  rcases reclaimed with ⟨run, after, destroyed⟩ | ⟨head, elementSize, after, configured⟩
  · cases destroy_eq_ok_iff.mp destroyed with
    | destroyed stored detached _ =>
        rw [live] at stored
        cases stored
        exact detached
  · have detached := detached_of_configure live configured
    exact Slab.isLinked_eq_ok_iff.mpr (by simp [detached])

/-- A slab that is destroyed or divided anew is on no ring. Nothing of it is out if it was retired;
and if it is in service, everything is, or it was unlinked by hand. -/
theorem reclaimed_with_nothing_out {pageSize : UInt64} {operations : List Operation}
    {answers : List Answer} {pool : Pool}
    (ran : (Pool.empty pageSize).run operations = .ok (answers, pool)) {id : Nat} {slab : Slab}
    (live : pool.slab id = .ok slab)
    (reclaimed : (∃ run after, pool.destroy id = .ok (run, after)) ∨
      ∃ head elementSize after, pool.configure id head elementSize = .ok after) :
    slab.isLinked = .ok false ∧
      (slab.active = false → slab.HasOut ∅ ∧ outstanding pageSize operations id = ∅) ∧
      (slab.active = true → slab.HasOut (Finset.range slab.capacity) ∨
        id ∈ unlinkedByHand pageSize operations) := by
  have reachable := Reachable.empty.run ran
  have balanced := (reachable.balanced live).1
  rcases explained_after ran with ⟨lists, rings, explained⟩
  have detached := Pool.isLinked_of_reclaimed live reclaimed
  have offList : ¬∃ head, lists.Has head id := by
    rw [← rings.next_ne_none_iff live, not_not]
    exact (Slab.detached_of_isLinked detached).2
  rcases explained id slab.bare (Pool.account_of_slab live) with ⟨sized, place⟩
  refine ⟨detached, fun retired => ?_, fun active => ?_⟩
  · have nothing := balanced.elements_of_retired retired
    rw [← elements_eq_outstanding ran live (sized retired), nothing]
    exact ⟨nothing ▸ balanced.hasOut, rfl⟩
  · rcases place active with onList | ⟨_, exhausted⟩ | aside
    · exact absurd onList offList
    · exact .inl (balanced.elements_of_exhausted exhausted ▸ balanced.hasOut)
    · exact .inr aside

/-- A retired slab is destroyed with nothing out. A slab that is configured anew with one of its
two elements out was unlinked by hand. -/
theorem reclaimed_with_nothing_out_of_retired :
    ∃ answers pool retired unlinked,
      (Pool.empty 32).run [.newHead, .insert 0 5 0 16, .insert 0 6 32 16, .allocate 1,
        .free 1 0 0, .allocate 2, .unlink 2] = .ok (answers, pool) ∧
      pool.slab 1 = .ok retired ∧ (∃ after, pool.destroy 1 = .ok (⟨5, 0, 32⟩, after)) ∧
      retired.HasOut ∅ ∧
      pool.slab 2 = .ok unlinked ∧ (∃ after, pool.configure 2 0 16 = .ok after) ∧
      unlinked.occupancy.count = 1 ∧
      2 ∈ unlinkedByHand 32 [.newHead, .insert 0 5 0 16, .insert 0 6 32 16, .allocate 1,
        .free 1 0 0, .allocate 2, .unlink 2] := by
  let retired : Slab :=
    { run := ⟨5, 0, 32⟩
      elementSize := 16
      capacity := 2
      available := 2
      hint := some 0
      occupancy := ⟨#[0]⟩ }
  let unlinked : Slab :=
    { run := ⟨6, 32, 32⟩
      elementSize := 16
      capacity := 2
      available := 1
      active := true
      occupancy := ⟨#[1]⟩ }
  let pool : Pool :=
    { pageSize := 32
      slots := #[.head ⟨0, 0⟩, .slab retired, .slab unlinked]
      counters := { activeSlabs := 1, allocations := 2, frees := 1, retirements := 1 } }
  have ran : (Pool.empty 32).run [.newHead, .insert 0 5 0 16, .insert 0 6 32 16, .allocate 1,
      .free 1 0 0, .allocate 2, .unlink 2] =
        .ok ([.head 0, .inserted (some 1), .inserted (some 2),
          .allocated (some ⟨0x4000000000000005#64⟩), .freed false,
          .allocated (some ⟨0x4000000000000006#64⟩), .done], pool) := by
    decide +kernel
  have destroyed : ∃ after, pool.destroy 1 = .ok (⟨5, 0, 32⟩, after) := ⟨_, rfl⟩
  have configured : ∃ after, pool.configure 2 0 16 = .ok after := ⟨_, rfl⟩
  have counted : unlinked.occupancy.count = 1 := by decide +kernel
  have liveRetired : pool.slab 1 = .ok retired := rfl
  have liveUnlinked : pool.slab 2 = .ok unlinked := rfl
  rcases reclaimed_with_nothing_out ran liveRetired (.inl ⟨_, destroyed⟩) with ⟨_, nothing, _⟩
  rcases reclaimed_with_nothing_out ran liveUnlinked (.inr ⟨0, 16, configured⟩) with ⟨_, _, cause⟩
  have someLeft : ¬unlinked.HasOut (Finset.range unlinked.capacity) := by
    intro everything
    exact absurd everything.available_eq (by decide)
  exact ⟨_, pool, retired, unlinked, ran, liveRetired, destroyed, (nothing rfl).1, liveUnlinked,
    configured, counted, (cause rfl).resolve_left someLeft⟩

/-- A slab with all of its elements out, and one that was unlinked with an element out, are
destroyed as readily as any other; or they are divided anew, and an element that is out is handed
out again. -/
theorem reclaimed_in_use :
    ∃ answers pool exhausted unlinked,
      (Pool.empty 32).run [.newHead, .insert 0 5 0 32, .insert 0 6 32 16, .allocate 1,
        .allocate 2, .unlink 2] = .ok (answers, pool) ∧
      pool.slab 1 = .ok exhausted ∧ exhausted.isAllocated 0 = .ok true ∧
      (pool.destroy 1).map Prod.fst = .ok ⟨5, 0, 32⟩ ∧
      (pool.run [.configure 1 0 32, .allocate 1]).map Prod.fst =
        .ok [.done, .allocated (some ⟨0x4000000000000005#64⟩)] ∧
      pool.slab 2 = .ok unlinked ∧ unlinked.isAllocated 0 = .ok true ∧
      (pool.destroy 2).map Prod.fst = .ok ⟨6, 32, 32⟩ ∧
      (pool.run [.configure 2 0 16, .allocate 2]).map Prod.fst =
        .ok [.done, .allocated (some ⟨0x4000000000000006#64⟩)] := by
  let exhausted : Slab :=
    { run := ⟨5, 0, 32⟩
      elementSize := 32
      capacity := 1
      active := true
      occupancy := ⟨#[1]⟩ }
  let unlinked : Slab :=
    { run := ⟨6, 32, 32⟩
      elementSize := 16
      capacity := 2
      available := 1
      active := true
      occupancy := ⟨#[1]⟩ }
  let pool : Pool :=
    { pageSize := 32
      slots := #[.head ⟨0, 0⟩, .slab exhausted, .slab unlinked]
      counters := { activeSlabs := 2, allocations := 2 } }
  have ran : (Pool.empty 32).run [.newHead, .insert 0 5 0 32, .insert 0 6 32 16, .allocate 1,
      .allocate 2, .unlink 2] =
        .ok ([.head 0, .inserted (some 1), .inserted (some 2),
          .allocated (some ⟨0x4000000000000005#64⟩), .allocated (some ⟨0x4000000000000006#64⟩),
          .done], pool) := by
    decide +kernel
  exact ⟨_, pool, exhausted, unlinked, ran, rfl, by decide, by decide +kernel, by decide +kernel,
    rfl, by decide, by decide +kernel, by decide +kernel⟩

end SlabRings
