import SlabRings.Proofs.Pool.Accounts
import SlabRings.Proofs.Rings.Reading
import SlabRings.Proofs.Transitions

/-!
# Rings as lists

A history changes plain lists as its operations and answers say: a slab comes to
the front of a list, or is deleted from the one that has it, and nothing else
ever changes. The rings of the pool stand for exactly these lists.
-/

namespace SlabRings

/-! ## What a history does to the lists -/

/-- Whether the slab keeps account of its elements, with so many of them free. -/
def Pool.hasFree (pool : Pool) (id count : Nat) : Bool :=
  match pool.slab id with
  | .ok slab => slab.elementSize ≠ 0 ∧ slab.available = count
  | .error _ => false

theorem Pool.hasFree_eq {pool : Pool} {id : Nat} {slab : Slab} (live : pool.slab id = .ok slab)
    (count : Nat) :
    pool.hasFree id count = decide (slab.elementSize ≠ 0 ∧ slab.available = count) := by
  rw [hasFree, live]

def Lists.advance (lists : Lists) (transition : Transition) : Lists :=
  match transition.operation, transition.answer with
  | .newHead, .head id => lists.addHead id
  | .insert head _ _ _, .inserted (some id) => lists.pushFront head id
  | .configure id head _, _ => lists.pushFront head id
  | .allocate id, .allocated (some _) =>
      if transition.before.hasFree id 1 then lists.remove id else lists
  | .free id head _, .freed resident =>
      if transition.before.hasFree id 0 then lists.pushFront head id
      else if resident then lists
      else lists.remove id
  | .link id head, _ => lists.pushFront head id
  | .unlink id, _ => lists.remove id
  | _, _ => lists

theorem Lists.advance_cases (lists : Lists) (transition : Transition) :
    lists.advance transition = lists ∨ (∃ id, lists.advance transition = lists.addHead id) ∨
      (∃ head id, lists.advance transition = lists.pushFront head id) ∨
      ∃ id, lists.advance transition = lists.remove id := by
  unfold advance
  split
  · exact .inr (.inl ⟨_, rfl⟩)
  · exact .inr (.inr (.inl ⟨_, _, rfl⟩))
  · exact .inr (.inr (.inl ⟨_, _, rfl⟩))
  · split
    · exact .inr (.inr (.inr ⟨_, rfl⟩))
    · exact .inl rfl
  · split
    · exact .inr (.inr (.inl ⟨_, _, rfl⟩))
    · split
      · exact .inl rfl
      · exact .inr (.inr (.inr ⟨_, rfl⟩))
  · exact .inr (.inr (.inl ⟨_, _, rfl⟩))
  · exact .inr (.inr (.inr ⟨_, rfl⟩))
  · exact .inl rfl

def lists (pageSize : UInt64) (operations : List Operation) : Lists :=
  ((Pool.empty pageSize).transitions operations).foldl Lists.advance fun _ => none

/-! ## What the writes keep -/

namespace Pool.Rings

variable {pool after : Pool} {lists : Lists} {id head : Nat}

theorem eq_none_of_not_isHead (rings : pool.Rings lists) (notHead : ¬pool.IsHead id) :
    lists id = none := by
  cases present : lists id with
  | none => rfl
  | some ids => exact absurd ((rings.isHead_iff id).mpr ⟨ids, present⟩) notHead

theorem eq_none_of_slab (rings : pool.Rings lists) {slab : Slab}
    (live : pool.slab id = .ok slab) : lists id = none :=
  rings.eq_none_of_not_isHead (not_isHead_of_slab live)

theorem not_has_remove (rings : pool.Rings lists) (isSlab : pool.IsSlab id) (holder : Nat) :
    ¬(lists.remove id).Has holder id := by
  rcases isSlab with ⟨slab, live⟩
  have nodup (ids : List Nat) (present : lists holder = some ids) : (holder :: ids).Nodup :=
    rings.carries.nodup present
  rw [Lists.has_remove_iff nodup (rings.eq_none_of_slab live)]
  simp

theorem isLinked_of_remove (rings : pool.Rings lists) (isSlab : pool.IsSlab id)
    (removed : after.Rings (lists.remove id)) {left : Slab} (leftLive : after.slab id = .ok left) :
    left.isLinked = .ok false := by
  have nextNone : left.next = none := by
    by_contra linked
    rcases (removed.next_ne_none_iff leftLive).mp linked with ⟨holder, has⟩
    exact rings.not_has_remove isSlab holder has
  rw [removed.isLinked_eq leftLive, nextNone, Option.isSome_none]

theorem rewrite (rings : pool.Rings lists) {slot : Slot} (writes : pool.Writes id slot after)
    (notHead : ¬pool.IsHead id) (stays : ∀ neighbours, slot ≠ .head neighbours)
    (sameNext : slot.next? = pool.links.next id) (samePrev : slot.prev? = pool.links.prev id) :
    after.Rings lists where
  isHead_iff other := by
    by_cases same : other = id
    · subst same
      rw [writes.isHead_iff_of_eq, rings.eq_none_of_not_isHead notHead]
      simp [stays]
    · rw [writes.isHead_iff_of_ne same, rings.isHead_iff]
  carries := by
    rw [writes.links_eq sameNext samePrev]
    exact rings.carries

theorem book (rings : pool.Rings lists) {old : Slab} (live : pool.slab id = .ok old) (new : Slab)
    (sameNext : new.next = old.next) (samePrev : new.prev = old.prev) (counters : Counters) :
    (pool.book id new counters).Rings lists := by
  apply rings.rewrite (writes_book live new counters) (not_isHead_of_slab live)
  · intro neighbours impossible
    cases impossible
  · rw [links_next_of_slab live, ← sameNext]
    rfl
  · rw [links_prev_of_slab live, ← samePrev]
    rfl

theorem link (rings : pool.Rings lists) (linked : pool.link id head = .ok after) :
    after.Rings (lists.pushFront head id) := by
  rcases link_spec linked with ⟨neighbours, slab, isHead, live, prevNone, nextNone, links, bare⟩
  rcases (rings.isHead_iff head).mp ⟨neighbours, isHead⟩ with ⟨ids, present⟩
  have free := (free_iff_of_slab live).mpr ⟨nextNone, prevNone⟩
  exact {
    isHead_iff := by
      intro other
      rw [isHead_iff_of_bare_eq bare, rings.isHead_iff]
      by_cases same : other = head
      · subst same
        simp [Lists.pushFront, present]
      · simp [Lists.pushFront, same]
    carries := by
      rw [links]
      exact rings.carries.pushFront present (links_next_of_head isHead) free }

theorem present_of_link (rings : pool.Rings lists) (linked : pool.link id head = .ok after) :
    ∃ ids, lists head = some ids := by
  rcases link_spec linked with ⟨neighbours, _, isHead, _, _, _, _, _⟩
  exact (rings.isHead_iff head).mp ⟨neighbours, isHead⟩

theorem unlink (rings : pool.Rings lists) (unlinked : pool.unlink id = .ok after) :
    after.Rings (lists.remove id) := by
  rcases unlink_spec unlinked with ⟨slab, prev, next, live, behind, ahead, links, bare⟩
  rw [← links_prev_of_slab live] at behind
  rw [← links_next_of_slab live] at ahead
  exact {
    isHead_iff := by
      intro other
      rw [isHead_iff_of_bare_eq bare, rings.isHead_iff]
      simp [Lists.remove]
    carries := by
      rw [links]
      exact rings.carries.remove (rings.eq_none_of_slab live) behind ahead }

theorem configure (rings : pool.Rings lists) {elementSize : UInt64}
    (configured : pool.configure id head elementSize = .ok after) :
    after.Rings (lists.pushFront head id) := by
  rcases configure_eq_ok_iff.mp configured with ⟨slab, counters, live, _, linked⟩
  exact (rings.book live (slab.divide elementSize) rfl rfl counters).link linked

theorem present_of_configure (rings : pool.Rings lists) {elementSize : UInt64}
    (configured : pool.configure id head elementSize = .ok after) :
    ∃ ids, lists head = some ids := by
  rcases configure_eq_ok_iff.mp configured with ⟨slab, counters, live, _, linked⟩
  exact (rings.book live (slab.divide elementSize) rfl rfl counters).present_of_link linked

theorem newHead (rings : pool.Rings lists)
    (claimed : pool.claim (fun id => .head ⟨id, id⟩) = .ok (id, after)) :
    after.Rings (lists.addHead id) := by
  rcases writes_claim claimed with ⟨writes, notHead, notSlab, _, _⟩
  exact {
    isHead_iff := by
      intro other
      by_cases same : other = id
      · subst same
        simp [writes.isHead_iff_of_eq, Lists.addHead]
      · simp [writes.isHead_iff_of_ne same, rings.isHead_iff, Lists.addHead, same]
    carries := by
      rw [writes.links]
      exact rings.carries.addHead (rings.eq_none_of_not_isHead notHead)
        (links_free_of_not_inUse notHead notSlab) }

theorem newSlab (rings : pool.Rings lists) {run : Run}
    (claimed : pool.claim (fun _ => .slab { run }) = .ok (id, after)) : after.Rings lists := by
  rcases writes_claim claimed with ⟨writes, notHead, notSlab, _, _⟩
  have free := links_free_of_not_inUse notHead notSlab
  apply rings.rewrite writes notHead
  · intro neighbours impossible
    cases impossible
  · exact free.1.symm
  · exact free.2.symm

theorem vacate (rings : pool.Rings lists) {slab : Slab} (live : pool.slab id = .ok slab)
    (detached : slab.isLinked = .ok false) : (pool.vacate id).Rings lists := by
  have free := Slab.detached_of_isLinked detached
  apply rings.rewrite (writes_vacate (slab_eq_ok_iff.mp live)) (not_isHead_of_slab live)
  · intro neighbours impossible
    cases impossible
  · rw [links_next_of_slab live, free.2]
    rfl
  · rw [links_prev_of_slab live, free.1]
    rfl

theorem count (rings : pool.Rings lists) (counters : Counters) :
    Rings { pool with counters } lists :=
  ⟨rings.isHead_iff, rings.carries⟩

end Pool.Rings

/-! ## Every step, and every history -/

theorem Pool.Effect.rings {before after : Pool} {lists : Lists} {operation : Operation}
    {answer : Answer} (effect : Effect before operation answer after)
    (rings : before.Rings lists) :
    after.Rings (lists.advance ⟨before, operation, answer, after⟩) := by
  cases effect with
  | headMade claimed => exact rings.newHead claimed
  | sizeRefused _ => exact rings
  | inserted _ claimed configured => exact (rings.newSlab claimed).configure configured
  | configured configured => exact rings.configure configured
  | unsizedGiven live unsized _ =>
      simpa [Lists.advance, hasFree_eq live, unsized] using rings
  | nothingGiven _ _ _ => exact rings
  | @given _ _ taken _ counters live serves takes left _ =>
      rcases Slab.links_of_takeHandle takes with ⟨samePrev, sameNext⟩
      have one := Slab.available_of_take (Slab.take_of_takeHandle takes).1
      simpa [Lists.advance, hasFree_eq live, one, left] using
        rings.book live taken sameNext samePrev counters
  | @lastGiven id slab taken _ counters _ live serves takes exhausted unlinked _ =>
      rcases Slab.links_of_takeHandle takes with ⟨samePrev, sameNext⟩
      have one := Slab.available_of_take (Slab.take_of_takeHandle takes).1
      have stored : (before.store id (.slab taken)).Rings lists :=
        rings.book live taken sameNext samePrev before.counters
      simpa [Lists.advance, hasFree_eq live, serves.1, one, exhausted] using
        (stored.unlink unlinked).count counters
  | unsizedReturned live unsized =>
      simpa [Lists.advance, hasFree_eq live, unsized] using rings
  | @firstReturned _ _ _ _ released counters _ live sized releases exhausted _ linked =>
      rcases Slab.links_of_release releases with ⟨samePrev, sameNext⟩
      simpa [Lists.advance, hasFree_eq live, sized, exhausted] using
        (rings.book live released sameNext samePrev counters).link linked
  | @returned _ _ _ _ released counters live _ releases room _ _ =>
      rcases Slab.links_of_release releases with ⟨samePrev, sameNext⟩
      simpa [Lists.advance, hasFree_eq live, room] using
        rings.book live released sameNext samePrev counters
  | @retired _ _ _ _ released counted counters _ live _ releases room _ _ _ unlinked _ =>
      rcases Slab.links_of_release releases with ⟨samePrev, sameNext⟩
      simpa [Lists.advance, hasFree_eq live, room] using
        ((rings.book live released.retire sameNext samePrev counted).unlink unlinked).count counters
  | linked linked => exact rings.link linked
  | unlinked unlinked => exact rings.unlink unlinked
  | destroyed live detached _ => exact (rings.vacate live detached).count _

theorem Pool.rings_empty (pageSize : UInt64) : (Pool.empty pageSize).Rings fun _ => none where
  isHead_iff id := by
    constructor
    · intro ⟨neighbours, isHead⟩
      cases head_eq_ok_iff.mp isHead
    · intro ⟨ids, impossible⟩
      cases impossible
  carries := Links.Carries.empty

theorem Reachable.exists_rings {pageSize : UInt64} {pool : Pool}
    (reachable : Reachable pageSize pool) : ∃ lists, pool.Rings lists := by
  induction reachable with
  | empty => exact ⟨_, Pool.rings_empty pageSize⟩
  | step _ applied induction =>
      rcases induction with ⟨lists, rings⟩
      exact ⟨_, (Pool.apply_eq_ok_iff.mp applied).rings rings⟩

theorem rings_after {pageSize : UInt64} {operations : List Operation} {answers : List Answer}
    {pool : Pool} (ran : (Pool.empty pageSize).run operations = .ok (answers, pool)) :
    pool.Rings (lists pageSize operations) :=
  Pool.observed Lists.advance (fun lists pool => pool.Rings lists)
    (fun _ _ _ _ _ rings effect => effect.rings rings) (Pool.rings_empty pageSize) ran

/-- After any history, reading the rings gives the plain lists: for each head its list,
and nothing for any other slot. -/
theorem ring_eq_list {pageSize : UInt64} {operations : List Operation} {answers : List Answer}
    {pool : Pool} (ran : (Pool.empty pageSize).run operations = .ok (answers, pool)) (head : Nat) :
    (pool.ring head).toOption = lists pageSize operations head :=
  (rings_after ran).toOption_ring head

theorem ring_eq_list_after_return :
    ∃ answers pool,
      (Pool.empty 32).run [.newHead, .insert 0 7 0 32, .insert 0 8 32 32, .allocate 1,
        .free 1 0 0] = .ok (answers, pool) ∧
      (pool.ring 0).toOption = some [1, 2] := by
  let slab (coordinate : UInt32) (offset : UInt64) (prev next : Nat) : Slab :=
    { run := ⟨coordinate, offset, 32⟩
      elementSize := 32
      capacity := 1
      available := 1
      hint := some 0
      active := true
      occupancy := ⟨#[0]⟩
      prev := some prev
      next := some next }
  let pool : Pool :=
    { pageSize := 32
      slots := #[.head ⟨2, 1⟩, .slab (slab 7 0 0 2), .slab (slab 8 32 1 0)]
      counters := { activeSlabs := 2, allocations := 1, frees := 1 } }
  have ran : (Pool.empty 32).run [.newHead, .insert 0 7 0 32, .insert 0 8 32 32, .allocate 1,
      .free 1 0 0] =
        .ok ([.head 0, .inserted (some 1), .inserted (some 2),
          .allocated (some ⟨0x4000000000000007#64⟩), .freed true], pool) := by
    decide +kernel
  have expected : lists 32 [.newHead, .insert 0 7 0 32, .insert 0 8 32 32, .allocate 1,
      .free 1 0 0] 0 = some [1, 2] := by
    decide +kernel
  exact ⟨_, pool, ran, (ring_eq_list ran 0).trans expected⟩

end SlabRings
