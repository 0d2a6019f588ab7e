import SlabRings.Proofs.Pool.Counting

/-!
# Differences

Two numbers are ever lowered: the free elements of a slab when one is taken, and
the active slabs when one of them is retired or destroyed. Where the accounts of
the slabs are balanced and the active ones are counted, there is always one to
take away.
-/

namespace SlabRings

/-! ## Computations -/

/-- No difference in the computation is below zero. -/
def Checked.NoUnderflow (result : Except Fault α) : Prop :=
  result ≠ .error .differenceOverflow

namespace Checked.NoUnderflow

theorem ok (value : α) : NoUnderflow (.ok value) := by
  intro under
  cases under

protected theorem bind {first : Except Fault α} {second : α → Except Fault β}
    (start : NoUnderflow first) (rest : ∀ middle, first = .ok middle → NoUnderflow (second middle)) :
    NoUnderflow (first >>= second) := by
  cases first with
  | ok middle => exact rest middle rfl
  | error fault =>
      intro under
      cases under
      exact start rfl

theorem map {first : Except Fault α} {second : α → Except Fault β} (start : NoUnderflow first)
    (wraps : ∀ middle, ∃ result, second middle = .ok result) : NoUnderflow (first >>= second) := by
  refine start.bind fun middle _ => ?_
  rcases wraps middle with ⟨result, wrapped⟩
  rw [wrapped]
  exact ok result

theorem add (left right : Nat) : NoUnderflow (Checked.add left right) := by
  unfold Checked.add
  split <;> nofun

theorem sub {left right : Nat} (enough : right ≤ left) : NoUnderflow (Checked.sub left right) := by
  rw [Checked.sub, if_pos enough]
  exact ok _

end Checked.NoUnderflow

open Checked (NoUnderflow)

/-! ## Slabs -/

namespace Occupancy

theorem noUnderflow_insert (occupancy : Occupancy) (element : Nat) :
    NoUnderflow (occupancy.insert element) := by
  unfold insert
  repeat' split
  all_goals nofun

theorem noUnderflow_erase (occupancy : Occupancy) (element : Nat) :
    NoUnderflow (occupancy.erase element) := by
  unfold erase
  repeat' split
  all_goals nofun

end Occupancy

namespace Slab

theorem noUnderflow_handle (slab : Slab) (element : Nat) : NoUnderflow (slab.handle element) := by
  unfold handle Handle.pack
  split <;> nofun

theorem noUnderflow_isLinked (slab : Slab) : NoUnderflow slab.isLinked := by
  unfold isLinked
  split <;> nofun

theorem noUnderflow_choose (slab : Slab) : NoUnderflow slab.choose := by
  unfold choose
  repeat' split
  all_goals nofun

theorem noUnderflow_takeHandle {slab : Slab} (room : slab.available ≠ 0) :
    NoUnderflow slab.takeHandle := by
  have some : 1 ≤ slab.available := Nat.one_le_iff_ne_zero.mpr room
  have take : NoUnderflow slab.take := by
    refine slab.noUnderflow_choose.bind fun element _ => ?_
    refine (slab.occupancy.noUnderflow_insert element).bind fun _ _ => ?_
    exact (NoUnderflow.sub some).map fun _ => ⟨_, rfl⟩
  exact take.bind fun ⟨element, taken⟩ _ => (taken.noUnderflow_handle element).map fun _ => ⟨_, rfl⟩

theorem noUnderflow_release (slab : Slab) (element : Nat) :
    NoUnderflow (slab.release element) := by
  unfold release
  split
  · refine (slab.occupancy.noUnderflow_erase element).bind fun _ _ => ?_
    exact (NoUnderflow.add _ _).map fun _ => ⟨_, rfl⟩
  · nofun

end Slab

/-! ## Counters -/

namespace Counters

theorem noUnderflow_activated (counters : Counters) : NoUnderflow counters.activated :=
  (NoUnderflow.add _ _).map fun _ => ⟨_, rfl⟩

theorem noUnderflow_allocated (counters : Counters) : NoUnderflow counters.allocated :=
  (NoUnderflow.add _ _).map fun _ => ⟨_, rfl⟩

theorem noUnderflow_freed (counters : Counters) : NoUnderflow counters.freed :=
  (NoUnderflow.add _ _).map fun _ => ⟨_, rfl⟩

theorem noUnderflow_deactivated {counters : Counters} (some : 1 ≤ counters.activeSlabs) :
    NoUnderflow counters.deactivated :=
  (NoUnderflow.sub some).map fun _ => ⟨_, rfl⟩

theorem noUnderflow_retired {counters : Counters} (some : 1 ≤ counters.activeSlabs) :
    NoUnderflow counters.retired :=
  (noUnderflow_deactivated some).bind fun _ _ => (NoUnderflow.add _ _).map fun _ => ⟨_, rfl⟩

end Counters

/-! ## Pools -/

namespace Pool

variable (pool : Pool) (id head : Nat)

theorem noUnderflow_slab : NoUnderflow (pool.slab id) := by
  unfold slab
  split <;> nofun

theorem noUnderflow_head : NoUnderflow (pool.head id) := by
  unfold Pool.head
  split <;> nofun

theorem noUnderflow_setNext (next : Nat) : NoUnderflow (pool.setNext id next) := by
  unfold setNext
  repeat' split
  all_goals nofun

theorem noUnderflow_setPrev (prev : Nat) : NoUnderflow (pool.setPrev id prev) := by
  unfold setPrev
  repeat' split
  all_goals nofun

theorem noUnderflow_link : NoUnderflow (pool.link id head) := by
  refine (pool.noUnderflow_head head).bind fun neighbours _ => ?_
  refine (pool.noUnderflow_slab id).bind fun slab _ => ?_
  dsimp only
  split
  · exact (noUnderflow_setPrev _ _ _).bind fun _ _ => noUnderflow_setNext _ _ _
  · nofun

theorem noUnderflow_unlink : NoUnderflow (pool.unlink id) := by
  refine (pool.noUnderflow_slab id).bind fun slab _ => ?_
  dsimp only
  split
  · exact (noUnderflow_setNext _ _ _).bind fun _ _ => noUnderflow_setPrev _ _ _
  · nofun

theorem noUnderflow_claim (entry : Nat → Slot) : NoUnderflow (pool.claim entry) := by
  unfold claim
  repeat' split
  all_goals nofun

theorem noUnderflow_tally {pool : Pool} {change : Counters → Except Fault Counters}
    (changes : NoUnderflow (change pool.counters)) : NoUnderflow (pool.tally change) :=
  changes.map fun _ => ⟨_, rfl⟩

theorem noUnderflow_configure (elementSize : UInt64) :
    NoUnderflow (pool.configure id head elementSize) := by
  refine (pool.noUnderflow_slab id).bind fun slab _ => ?_
  dsimp only
  split
  · exact noUnderflow_link _ _ _
  · exact (noUnderflow_tally (Counters.noUnderflow_activated _)).bind fun _ _ =>
      noUnderflow_link _ _ _

theorem noUnderflow_insert (coordinate : UInt32) (offset elementSize : UInt64) :
    NoUnderflow (pool.insert head coordinate offset elementSize) := by
  unfold insert
  split
  · refine (pool.noUnderflow_claim _).bind fun ⟨id, middle⟩ _ => ?_
    exact (middle.noUnderflow_configure id head elementSize).map fun _ => ⟨_, rfl⟩
  · nofun

theorem noUnderflow_allocate : NoUnderflow (pool.allocate id) := by
  refine (pool.noUnderflow_slab id).bind fun slab _ => ?_
  split
  · exact (slab.noUnderflow_handle 0).map fun _ => ⟨_, rfl⟩
  · split
    · rename_i serves
      refine (Slab.noUnderflow_takeHandle serves.2.1).bind fun ⟨handle, taken⟩ _ => ?_
      have counted (middle : Pool) : NoUnderflow (middle.tally Counters.allocated) :=
        noUnderflow_tally (Counters.noUnderflow_allocated _)
      dsimp only
      split
      · exact (noUnderflow_unlink _ _).bind fun middle _ => (counted middle).map fun _ => ⟨_, rfl⟩
      · exact (counted _).map fun _ => ⟨_, rfl⟩
    · nofun

variable {pool id}

theorem noUnderflow_retire (some : 1 ≤ pool.counters.activeSlabs) :
    NoUnderflow (pool.retire id) := by
  refine (pool.noUnderflow_slab id).bind fun slab _ => ?_
  refine (noUnderflow_unlink _ id).bind fun middle unlinked => ?_
  apply noUnderflow_tally
  rw [counters_of_bare_eq (bare_of_unlink unlinked)]
  exact Counters.noUnderflow_retired some

theorem noUnderflow_free (element : Nat) (balanced : ∀ slab, pool.slab id = .ok slab → slab.Balanced)
    (counted : ∀ slab, pool.slab id = .ok slab → slab.active = true →
      1 ≤ pool.counters.activeSlabs) :
    NoUnderflow (pool.free id head element) := by
  refine (pool.noUnderflow_slab id).bind fun slab live => ?_
  split
  · nofun
  · refine (slab.noUnderflow_release element).bind fun released releases => ?_
    have freed : NoUnderflow ((pool.store id (.slab released)).tally Counters.freed) :=
      noUnderflow_tally (Counters.noUnderflow_freed _)
    refine freed.bind fun middle tallied => ?_
    have some : 1 ≤ middle.counters.activeSlabs := by
      have active := (balanced slab live).active_of_release releases
      rcases tally_store_eq_ok_iff.mp tallied with ⟨counters, counts, rfl⟩
      rw [counters_book, (Counters.freed_eq_ok_iff.mp counts).2]
      exact counted slab live active
    split
    · exact (noUnderflow_link _ _ _).map fun _ => ⟨_, rfl⟩
    · split
      · exact (noUnderflow_retire some).map fun _ => ⟨_, rfl⟩
      · nofun

theorem noUnderflow_destroy (counted : ∀ slab, pool.slab id = .ok slab → slab.active = true →
      1 ≤ pool.counters.activeSlabs) : NoUnderflow (pool.destroy id) := by
  refine (pool.noUnderflow_slab id).bind fun slab live => ?_
  refine slab.noUnderflow_isLinked.bind fun isLinked _ => ?_
  split
  · nofun
  · split
    · rename_i active
      have some := counted slab live active
      exact (noUnderflow_tally (Counters.noUnderflow_deactivated some)).map fun _ => ⟨_, rfl⟩
    · nofun

theorem noUnderflow_apply (operation : Operation)
    (balanced : ∀ id slab, pool.slab id = .ok slab → slab.Balanced)
    (counted : ∀ id slab, pool.slab id = .ok slab → slab.active = true →
      1 ≤ pool.counters.activeSlabs) :
    NoUnderflow (operation.apply pool) := by
  cases operation with
  | newHead => exact (pool.noUnderflow_claim _).map fun _ => ⟨_, rfl⟩
  | insert head coordinate offset elementSize =>
      exact (pool.noUnderflow_insert head coordinate offset elementSize).map fun _ => ⟨_, rfl⟩
  | configure id head elementSize =>
      exact (pool.noUnderflow_configure id head elementSize).map fun _ => ⟨_, rfl⟩
  | allocate id => exact (pool.noUnderflow_allocate id).map fun _ => ⟨_, rfl⟩
  | free id head element =>
      exact (noUnderflow_free head element (balanced id) (counted id)).map fun _ => ⟨_, rfl⟩
  | link id head => exact (pool.noUnderflow_link id head).map fun _ => ⟨_, rfl⟩
  | unlink id => exact (pool.noUnderflow_unlink id).map fun _ => ⟨_, rfl⟩
  | destroy id => exact (noUnderflow_destroy (counted id)).map fun _ => ⟨_, rfl⟩

end Pool

end SlabRings
