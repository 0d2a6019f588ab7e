import SlabRings.Proofs.Pool.Views

/-!
# Writes and their views

What each write to the table does to the two views of it, and when it can be
carried out. The operations of a pool are sequences of these writes.
-/

namespace SlabRings.Pool

open Checked (bind_eq_ok_iff)

/-! ## One slot rewritten -/

structure Writes (before : Pool) (id : Nat) (slot : Slot) (after : Pool) : Prop where
  written : after.slots[id]? = some slot
  kept : ∀ other, other ≠ id → after.slots[other]? = before.slots[other]?

namespace Writes

variable {before after : Pool} {id : Nat} {slot : Slot}

theorem links (writes : before.Writes id slot after) :
    after.links = ⟨Function.update before.links.next id slot.next?,
      Function.update before.links.prev id slot.prev?⟩ := by
  ext1 <;> funext other <;> by_cases same : other = id
  · subst same
    simp [Pool.links, writes.written]
  · simp [Pool.links, writes.kept other same, same]
  · subst same
    simp [Pool.links, writes.written]
  · simp [Pool.links, writes.kept other same, same]

theorem links_eq (writes : before.Writes id slot after)
    (sameNext : slot.next? = before.links.next id) (samePrev : slot.prev? = before.links.prev id) :
    after.links = before.links := by
  rw [writes.links, sameNext, samePrev, Function.update_eq_self, Function.update_eq_self]

theorem account (writes : before.Writes id slot after) :
    after.account = Function.update before.account id slot.account? := by
  funext other
  by_cases same : other = id
  · subst same
    simp [Pool.account, writes.written]
  · simp [Pool.account, writes.kept other same, same]

theorem isHead_iff_of_ne (writes : before.Writes id slot after) {other : Nat}
    (different : other ≠ id) : after.IsHead other ↔ before.IsHead other := by
  simp only [IsHead, head_eq_ok_iff, writes.kept other different]

theorem isHead_iff_of_eq (writes : before.Writes id slot after) :
    after.IsHead id ↔ ∃ neighbours, slot = .head neighbours := by
  simp only [IsHead, head_eq_ok_iff, writes.written, Option.some.injEq]

end Writes

theorem lt_size_of_getElem? {pool : Pool} {id : Nat} {slot : Slot}
    (stored : pool.slots[id]? = some slot) : id < pool.slots.size :=
  (Array.getElem?_eq_some_iff.mp stored).1

theorem writes_store {pool : Pool} {id : Nat} {old : Slot} (stored : pool.slots[id]? = some old)
    (new : Slot) : pool.Writes id new (pool.store id new) where
  written := getElem?_store_same (lt_size_of_getElem? stored) new
  kept _ different := getElem?_store_other different new

theorem writes_vacate {pool : Pool} {id : Nat} {old : Slot} (stored : pool.slots[id]? = some old) :
    pool.Writes id (.vacant pool.lastVacated) (pool.vacate id) where
  written := (writes_store stored _).written
  kept := (writes_store stored _).kept

theorem writes_claim {pool after : Pool} {entry : Nat → Slot} {id : Nat}
    (claimed : pool.claim entry = .ok (id, after)) :
    pool.Writes id (entry id) after ∧ ¬pool.IsHead id ∧ ¬pool.IsSlab id ∧
      after.counters = pool.counters ∧ after.pageSize = pool.pageSize := by
  unfold claim at claimed
  split at claimed
  · rename_i noneVacant
    cases claimed
    refine ⟨⟨by simp, ?_⟩, ?_, ?_, rfl, rfl⟩
    · intro other different
      simp [Array.getElem?_push, different]
    · intro ⟨neighbours, isHead⟩
      simpa using head_eq_ok_iff.mp isHead
    · intro ⟨slab, live⟩
      simpa using slab_eq_ok_iff.mp live
  · rename_i vacated chained
    split at claimed
    · rename_i earlier stored
      cases claimed
      refine ⟨⟨(writes_store stored _).written, (writes_store stored _).kept⟩, ?_, ?_, rfl, rfl⟩
      · intro ⟨neighbours, isHead⟩
        rw [head_eq_ok_iff, stored] at isHead
        cases isHead
      · intro ⟨slab, live⟩
        rw [slab_eq_ok_iff, stored] at live
        cases live
    · cases claimed
    · cases claimed

/-! ## Counters -/

theorem tally_eq_ok_iff {pool after : Pool} {change : Counters → Except Fault Counters} :
    pool.tally change = .ok after ↔
      ∃ counters, change pool.counters = .ok counters ∧ after = { pool with counters } := by
  simp only [tally, bind_eq_ok_iff, pure, Except.pure, Except.ok.injEq]
  constructor
  · rintro ⟨counters, counted, rfl⟩
    exact ⟨counters, counted, rfl⟩
  · rintro ⟨counters, counted, rfl⟩
    exact ⟨counters, counted, rfl⟩

/-! ## Single links -/

def InUse (pool : Pool) (id : Nat) : Prop :=
  pool.IsHead id ∨ pool.IsSlab id

theorem inUse_iff_of_bare_eq {before after : Pool} (same : after.bare = before.bare) (id : Nat) :
    after.InUse id ↔ before.InUse id := by
  have accounts := congrFun (account_eq_of_bare_eq same) id
  rw [InUse, InUse, isHead_iff_of_bare_eq same, isSlab_iff_of_account_eq accounts]

theorem bare_store_of_bare_eq {pool : Pool} {id : Nat} {old new : Slot}
    (stored : pool.slots[id]? = some old) (same : new.bare = old.bare) :
    (pool.store id new).bare = pool.bare := by
  have slots : (pool.store id new).slots.map Slot.bare = pool.slots.map Slot.bare := by
    apply Array.ext_getElem?
    intro other
    rw [Array.getElem?_map, Array.getElem?_map]
    by_cases written : other = id
    · subst written
      rw [(writes_store stored new).written, stored, Option.map_some, Option.map_some, same]
    · rw [(writes_store stored new).kept other written]
  simp only [bare, slots]
  rfl

theorem links_at {pool : Pool} {id : Nat} {slot : Slot} (stored : pool.slots[id]? = some slot) :
    pool.links.next id = slot.next? ∧ pool.links.prev id = slot.prev? := by
  simp [links, stored]

theorem setNext_spec {pool after : Pool} {id next : Nat}
    (changed : pool.setNext id next = .ok after) :
    after.links = pool.links.setNext id next ∧ after.bare = pool.bare := by
  unfold setNext at changed
  split at changed
  · cases changed
  · rename_i old stored
    have written := fun new => (writes_store stored new).links
    have kept := (links_at stored).2
    cases old with
    | head neighbours =>
        cases changed
        exact ⟨by simp [written, Links.setNext, Slot.next?, kept, Slot.prev?],
          bare_store_of_bare_eq stored rfl⟩
    | slab content =>
        cases changed
        exact ⟨by simp [written, Links.setNext, Slot.next?, kept, Slot.prev?],
          bare_store_of_bare_eq stored rfl⟩
    | vacant earlier => cases changed

theorem setPrev_spec {pool after : Pool} {id prev : Nat}
    (changed : pool.setPrev id prev = .ok after) :
    after.links = pool.links.setPrev id prev ∧ after.bare = pool.bare := by
  unfold setPrev at changed
  split at changed
  · cases changed
  · rename_i old stored
    have written := fun new => (writes_store stored new).links
    have kept := (links_at stored).1
    cases old with
    | head neighbours =>
        cases changed
        exact ⟨by simp [written, Links.setPrev, Slot.prev?, kept, Slot.next?],
          bare_store_of_bare_eq stored rfl⟩
    | slab content =>
        cases changed
        exact ⟨by simp [written, Links.setPrev, Slot.prev?, kept, Slot.next?],
          bare_store_of_bare_eq stored rfl⟩
    | vacant earlier => cases changed

theorem exists_setNext {pool : Pool} {id : Nat} (inUse : pool.InUse id) (next : Nat) :
    ∃ after, pool.setNext id next = .ok after := by
  rcases inUse with ⟨neighbours, isHead⟩ | ⟨content, live⟩
  · simp [setNext, head_eq_ok_iff.mp isHead, Slot.withNext]
  · simp [setNext, slab_eq_ok_iff.mp live, Slot.withNext]

theorem exists_setPrev {pool : Pool} {id : Nat} (inUse : pool.InUse id) (prev : Nat) :
    ∃ after, pool.setPrev id prev = .ok after := by
  rcases inUse with ⟨neighbours, isHead⟩ | ⟨content, live⟩
  · simp [setPrev, head_eq_ok_iff.mp isHead, Slot.withPrev]
  · simp [setPrev, slab_eq_ok_iff.mp live, Slot.withPrev]

/-! ## Splicing -/

private theorem store_links_spec {pool : Pool} {id : Nat} {slab : Slab}
    (live : pool.slab id = .ok slab) (prev next : Option Nat) :
    (pool.store id (.slab { slab with prev, next })).bare = pool.bare ∧
      (pool.store id (.slab { slab with prev, next })).links =
        ⟨Function.update pool.links.next id next, Function.update pool.links.prev id prev⟩ := by
  have stored := slab_eq_ok_iff.mp live
  exact ⟨bare_store_of_bare_eq stored rfl, (writes_store stored _).links⟩

theorem link_spec {pool after : Pool} {id head : Nat} (linked : pool.link id head = .ok after) :
    ∃ neighbours slab, pool.head head = .ok neighbours ∧ pool.slab id = .ok slab ∧
      slab.prev = none ∧ slab.next = none ∧
      after.links = pool.links.spliceIn head id neighbours.next ∧ after.bare = pool.bare := by
  unfold link at linked
  rcases bind_eq_ok_iff.mp linked with ⟨neighbours, isHead, linked⟩
  rcases bind_eq_ok_iff.mp linked with ⟨slab, live, linked⟩
  split at linked
  · rename_i detached
    rcases bind_eq_ok_iff.mp linked with ⟨middle, behind, ahead⟩
    rcases store_links_spec live (some head) (some neighbours.next) with ⟨storedBare, storedLinks⟩
    rcases setPrev_spec behind with ⟨behindLinks, behindBare⟩
    rcases setNext_spec ahead with ⟨aheadLinks, aheadBare⟩
    refine ⟨neighbours, slab, isHead, live, detached.1, detached.2, ?_, ?_⟩
    · rw [aheadLinks, behindLinks, storedLinks]
      rfl
    · rw [aheadBare, behindBare, storedBare]
  · cases linked

theorem bare_of_link {pool after : Pool} {id head : Nat} (linked : pool.link id head = .ok after) :
    after.bare = pool.bare := by
  rcases link_spec linked with ⟨_, _, _, _, _, _, _, same⟩
  exact same

theorem exists_link {pool : Pool} {id head : Nat} {neighbours : Neighbours} {slab : Slab}
    (isHead : pool.head head = .ok neighbours) (live : pool.slab id = .ok slab)
    (detached : slab.prev = none ∧ slab.next = none) (inUse : pool.InUse neighbours.next) :
    ∃ after, pool.link id head = .ok after := by
  rcases store_links_spec live (some head) (some neighbours.next) with ⟨storedBare, _⟩
  rcases exists_setPrev ((inUse_iff_of_bare_eq storedBare _).mpr inUse) id with ⟨middle, behind⟩
  have middleBare := (setPrev_spec behind).2.trans storedBare
  have headInUse : middle.InUse head := (inUse_iff_of_bare_eq middleBare _).mpr (.inl ⟨_, isHead⟩)
  rcases exists_setNext headInUse id with ⟨after, ahead⟩
  refine ⟨after, bind_eq_ok_iff.mpr ⟨neighbours, isHead, bind_eq_ok_iff.mpr ⟨slab, live, ?_⟩⟩⟩
  rw [if_pos detached]
  exact bind_eq_ok_iff.mpr ⟨middle, behind, ahead⟩

theorem unlink_spec {pool after : Pool} {id : Nat} (unlinked : pool.unlink id = .ok after) :
    ∃ slab prev next, pool.slab id = .ok slab ∧ slab.prev = some prev ∧ slab.next = some next ∧
      after.links = pool.links.spliceOut prev id next ∧ after.bare = pool.bare := by
  unfold unlink at unlinked
  rcases bind_eq_ok_iff.mp unlinked with ⟨slab, live, unlinked⟩
  split at unlinked
  · rename_i prev next behind ahead
    rcases bind_eq_ok_iff.mp unlinked with ⟨middle, setAhead, setBehind⟩
    rcases store_links_spec live none none with ⟨storedBare, storedLinks⟩
    rcases setNext_spec setAhead with ⟨aheadLinks, aheadBare⟩
    rcases setPrev_spec setBehind with ⟨behindLinks, behindBare⟩
    refine ⟨slab, prev, next, live, behind, ahead, ?_, ?_⟩
    · rw [behindLinks, aheadLinks, storedLinks]
      rfl
    · rw [behindBare, aheadBare, storedBare]
  · cases unlinked

theorem bare_of_unlink {pool after : Pool} {id : Nat} (unlinked : pool.unlink id = .ok after) :
    after.bare = pool.bare := by
  rcases unlink_spec unlinked with ⟨_, _, _, _, _, _, _, same⟩
  exact same

theorem exists_unlink {pool : Pool} {id prev next : Nat} {slab : Slab}
    (live : pool.slab id = .ok slab) (behind : slab.prev = some prev)
    (ahead : slab.next = some next) (prevInUse : pool.InUse prev) (nextInUse : pool.InUse next) :
    ∃ after, pool.unlink id = .ok after := by
  rcases store_links_spec live none none with ⟨storedBare, _⟩
  rcases exists_setNext ((inUse_iff_of_bare_eq storedBare _).mpr prevInUse) next with
    ⟨middle, setAhead⟩
  have middleBare := (setNext_spec setAhead).2.trans storedBare
  rcases exists_setPrev ((inUse_iff_of_bare_eq middleBare _).mpr nextInUse) prev with
    ⟨after, setBehind⟩
  refine ⟨after, bind_eq_ok_iff.mpr ⟨slab, live, ?_⟩⟩
  rw [behind, ahead]
  exact bind_eq_ok_iff.mpr ⟨middle, setAhead, setBehind⟩

end SlabRings.Pool
