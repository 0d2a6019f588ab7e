import Mathlib.Logic.Function.Basic
import SlabRings.Pool.Service

/-!
# Views of the slot table

The table is seen in two parts that no operation mixes: the links, as a partial
function in each direction, and what the slots hold apart from their links.
Splicing changes the links alone; every other write leaves them as they are, or
writes to a slot that is on no ring.
-/

namespace SlabRings

/-! ## Links -/

@[ext] structure Links where
  next : Nat → Option Nat
  prev : Nat → Option Nat

namespace Links

def setNext (links : Links) (id next : Nat) : Links :=
  { links with next := Function.update links.next id (some next) }

def setPrev (links : Links) (id prev : Nat) : Links :=
  { links with prev := Function.update links.prev id (some prev) }

def clear (links : Links) (id : Nat) : Links where
  next := Function.update links.next id none
  prev := Function.update links.prev id none

def spliceIn (links : Links) (before id after : Nat) : Links :=
  (((links.setNext id after).setPrev id before).setPrev after id).setNext before id

def spliceOut (links : Links) (before id after : Nat) : Links :=
  ((links.clear id).setNext before after).setPrev after before

end Links

namespace Slot

def next? : Slot → Option Nat
  | head neighbours => some neighbours.next
  | slab content => content.next
  | vacant _ => none

def prev? : Slot → Option Nat
  | head neighbours => some neighbours.prev
  | slab content => content.prev
  | vacant _ => none

end Slot

/-! ## Contents -/

/-- The slab without its neighbours. -/
def Slab.bare (slab : Slab) : Slab :=
  { slab with prev := none, next := none }

def Slot.bare : Slot → Slot
  | head _ => head ⟨0, 0⟩
  | slab content => slab content.bare
  | vacant earlier => vacant earlier

theorem Slab.eq_of_bare_eq {slab other : Slab} (same : slab.bare = other.bare)
    (samePrev : slab.prev = other.prev) (sameNext : slab.next = other.next) : slab = other := by
  cases slab
  cases other
  simp_all [Slab.bare]

theorem Slot.eq_of_bare_eq {slot other : Slot} (same : slot.bare = other.bare)
    (sameNext : slot.next? = other.next?) (samePrev : slot.prev? = other.prev?) :
    slot = other := by
  cases slot with
  | head neighbours =>
      cases other with
      | head otherNeighbours =>
          have next : neighbours.next = otherNeighbours.next := Option.some.inj sameNext
          have prev : neighbours.prev = otherNeighbours.prev := Option.some.inj samePrev
          cases neighbours
          cases otherNeighbours
          cases next
          cases prev
          rfl
      | slab _ | vacant _ => cases same
  | slab content =>
      cases other with
      | slab otherContent =>
          have sameContent : content.bare = otherContent.bare := Slot.slab.inj same
          rw [Slab.eq_of_bare_eq sameContent samePrev sameNext]
      | head _ | vacant _ => cases same
  | vacant earlier =>
      cases other with
      | vacant otherEarlier => exact same
      | head _ | slab _ => cases same

def Slot.account? : Slot → Option Slab
  | slab content => some content.bare
  | head _ | vacant _ => none

namespace Pool

def links (pool : Pool) : Links where
  next id := pool.slots[id]?.bind Slot.next?
  prev id := pool.slots[id]?.bind Slot.prev?

def bare (pool : Pool) : Pool :=
  { pool with slots := pool.slots.map Slot.bare }

def IsHead (pool : Pool) (id : Nat) : Prop :=
  ∃ neighbours, pool.head id = .ok neighbours

def IsSlab (pool : Pool) (id : Nat) : Prop :=
  ∃ slab, pool.slab id = .ok slab

def account (pool : Pool) (id : Nat) : Option Slab :=
  pool.slots[id]?.bind Slot.account?

theorem not_isSlab_of_isHead {pool : Pool} {id : Nat} (isHead : pool.IsHead id) :
    ¬pool.IsSlab id := by
  intro ⟨slab, isSlab⟩
  rcases isHead with ⟨neighbours, isHead⟩
  rw [slab_eq_ok_iff] at isSlab
  rw [head_eq_ok_iff, isSlab] at isHead
  cases isHead

theorem not_isHead_of_slab {pool : Pool} {id : Nat} {slab : Slab}
    (live : pool.slab id = .ok slab) : ¬pool.IsHead id :=
  fun isHead => not_isSlab_of_isHead isHead ⟨slab, live⟩

theorem account_of_slab {pool : Pool} {id : Nat} {slab : Slab} (live : pool.slab id = .ok slab) :
    pool.account id = some slab.bare := by
  simp [account, slab_eq_ok_iff.mp live, Slot.account?]

theorem account_eq_some_iff {pool : Pool} {id : Nat} {account : Slab} :
    pool.account id = some account ↔ ∃ slab, pool.slab id = .ok slab ∧ slab.bare = account := by
  constructor
  · intro present
    rcases Option.bind_eq_some_iff.mp present with ⟨slot, stored, accounted⟩
    cases slot with
    | slab content =>
        cases accounted
        exact ⟨content, slab_eq_ok_iff.mpr stored, rfl⟩
    | head _ => cases accounted
    | vacant _ => cases accounted
  · rintro ⟨slab, live, rfl⟩
    exact account_of_slab live

theorem account_eq_none_iff {pool : Pool} {id : Nat} :
    pool.account id = none ↔ ¬pool.IsSlab id := by
  rw [← not_iff_not, not_not, ← ne_eq, Option.ne_none_iff_exists']
  simp only [account_eq_some_iff]
  constructor
  · intro ⟨_, slab, live, _⟩
    exact ⟨slab, live⟩
  · intro ⟨slab, live⟩
    exact ⟨slab.bare, slab, live, rfl⟩

theorem links_next_of_slab {pool : Pool} {id : Nat} {slab : Slab} (live : pool.slab id = .ok slab) :
    pool.links.next id = slab.next := by
  simp [links, slab_eq_ok_iff.mp live, Slot.next?]

theorem links_prev_of_slab {pool : Pool} {id : Nat} {slab : Slab} (live : pool.slab id = .ok slab) :
    pool.links.prev id = slab.prev := by
  simp [links, slab_eq_ok_iff.mp live, Slot.prev?]

theorem links_next_of_head {pool : Pool} {id : Nat} {neighbours : Neighbours}
    (isHead : pool.head id = .ok neighbours) : pool.links.next id = some neighbours.next := by
  simp [links, head_eq_ok_iff.mp isHead, Slot.next?]

/-! ## Pools that differ in links alone -/

theorem getElem?_bare (pool : Pool) (id : Nat) :
    pool.bare.slots[id]? = pool.slots[id]?.map Slot.bare := by
  simp [bare]

theorem account_bare (pool : Pool) : pool.bare.account = pool.account := by
  funext id
  rw [account, account, getElem?_bare]
  rcases pool.slots[id]? with _ | _ | _ | _ <;> rfl

theorem isHead_bare {pool : Pool} {id : Nat} : pool.bare.IsHead id ↔ pool.IsHead id := by
  simp only [IsHead, head_eq_ok_iff, getElem?_bare]
  rcases pool.slots[id]? with _ | _ | _ | _ <;> simp [Slot.bare]

theorem account_eq_of_bare_eq {before after : Pool} (same : after.bare = before.bare) :
    after.account = before.account := by
  rw [← account_bare after, same, account_bare]

theorem isHead_iff_of_bare_eq {before after : Pool} (same : after.bare = before.bare) (id : Nat) :
    after.IsHead id ↔ before.IsHead id := by
  rw [← isHead_bare, same, isHead_bare]

theorem isSlab_iff_of_account_eq {before after : Pool} {id : Nat}
    (same : after.account id = before.account id) : after.IsSlab id ↔ before.IsSlab id := by
  rw [← not_iff_not, ← account_eq_none_iff, ← account_eq_none_iff, same]

theorem size_of_bare_eq {before after : Pool} (same : after.bare = before.bare) :
    after.slots.size = before.slots.size := by
  have sizes := congrArg (fun pool : Pool => pool.slots.size) same
  simpa [bare] using sizes

theorem getElem?_eq_of_bare_eq {before after : Pool} (same : after.bare = before.bare) {id : Nat}
    (sameNext : after.links.next id = before.links.next id)
    (samePrev : after.links.prev id = before.links.prev id) :
    after.slots[id]? = before.slots[id]? := by
  have content := congrArg (fun pool : Pool => pool.slots[id]?) same
  simp only [getElem?_bare] at content
  simp only [links] at sameNext samePrev
  cases earlier : before.slots[id]? with
  | none => simpa [earlier] using content
  | some slot =>
      rw [earlier, Option.map_some] at content
      rcases Option.map_eq_some_iff.mp content with ⟨other, stored, sameBare⟩
      rw [earlier, stored] at sameNext samePrev
      rw [stored, Slot.eq_of_bare_eq sameBare sameNext samePrev]

end Pool

end SlabRings
