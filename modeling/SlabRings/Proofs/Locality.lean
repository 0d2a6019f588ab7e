import SlabRings.Proofs.Rings.Refinement

/-!
# What an operation leaves alone

A splice writes through links into whatever entry is there, and slots are used
again. Yet an operation on one slab changes no other but the links of its
neighbours: the rings lead to entries in use only, and a new entry goes to a
slot that no link leads to.
-/

namespace SlabRings

/-! ## Links that change in one place -/

namespace Links

def Beside (links : Links) (id other : Nat) : Prop :=
  links.next id = some other ∨ links.prev id = some other

/-- Of the other slots only the neighbours have new links, and none comes to be linked or ceases
to be. -/
structure ChangeAt (before : Links) (id : Nat) (after : Links) : Prop where
  kept (other : Nat) : other ≠ id → ¬before.Beside id other → ¬after.Beside id other →
    after.next other = before.next other ∧ after.prev other = before.prev other
  free_iff (other : Nat) : other ≠ id → (after.Free other ↔ before.Free other)

theorem Joined.not_free {links : Links} {slot ahead : Nat} (joined : links.Joined slot ahead) :
    ¬links.Free slot ∧ ¬links.Free ahead :=
  ⟨fun free => (joined.ne_of_free free).1 rfl, fun free => (joined.ne_of_free free).2 rfl⟩

namespace ChangeAt

variable {links : Links} {head id ahead behind : Nat}

theorem update (links : Links) (id : Nat) (next prev : Option Nat) :
    links.ChangeAt id ⟨Function.update links.next id next, Function.update links.prev id prev⟩ where
  kept other different _ _ := by simp [different]
  free_iff other different := by simp [Free, different]

theorem spliceIn (place : links.Joined head ahead) (free : links.Free id) :
    links.ChangeAt id (links.spliceIn head id ahead) := by
  rcases place.ne_of_free free with ⟨headApart, aheadApart⟩
  have entering : (links.spliceIn head id ahead).Joined head id :=
    joined_spliceIn_before aheadApart.symm
  have leaving : (links.spliceIn head id ahead).Joined id ahead :=
    joined_spliceIn_after headApart.symm
  exact {
    kept := by
      intro other different _ apart
      have notHead : other ≠ head := fun same => apart (.inr (same ▸ entering.2))
      have notAhead : other ≠ ahead := fun same => apart (.inl (same ▸ leaving.1))
      simp [Links.spliceIn, setNext, setPrev, different, notHead, notAhead]
    free_iff := by
      intro other different
      by_cases isHead : other = head
      · subst isHead
        exact iff_of_false entering.not_free.1 place.not_free.1
      by_cases isAhead : other = ahead
      · subst isAhead
        exact iff_of_false leaving.not_free.2 place.not_free.2
      exact free_spliceIn_iff different isHead isAhead }

theorem spliceOut (entering : links.Joined behind id) (leaving : links.Joined id ahead) :
    links.ChangeAt id (links.spliceOut behind id ahead) := by
  have closed := joined_spliceOut links behind id ahead
  exact {
    kept := by
      intro other different apart _
      have notBehind : other ≠ behind := fun same => apart (.inr (same ▸ entering.2))
      have notAhead : other ≠ ahead := fun same => apart (.inl (same ▸ leaving.1))
      simp [Links.spliceOut, setNext, setPrev, clear, different, notBehind, notAhead]
    free_iff := by
      intro other different
      by_cases isBehind : other = behind
      · subst isBehind
        exact iff_of_false closed.not_free.1 entering.not_free.1
      by_cases isAhead : other = ahead
      · subst isAhead
        exact iff_of_false closed.not_free.2 leaving.not_free.2
      exact free_spliceOut_iff different isBehind isAhead }

end ChangeAt

end Links

/-! ## The slot that an operation is about -/

namespace Operation

def slab? : Operation → Option Nat
  | newHead | insert _ _ _ _ => none
  | configure id _ _ | allocate id | free id _ _ | link id _ | unlink id | destroy id => some id

/-- The slab that the operation names, or the entry that it makes. -/
def subject : Operation → Answer → Option Nat
  | newHead, .head id => some id
  | insert _ _ _ _, .inserted id => id
  | operation, _ => operation.slab?

end Operation

theorem Accounts.Step.kept {pageSize : UInt64} {accounts settled : Accounts}
    {operation : Operation} {answer : Answer} {other : Nat}
    (step : Step pageSize accounts operation answer settled)
    (apart : operation.subject answer ≠ some other) : settled other = accounts other := by
  cases step with
  | headMade | sizeRefused | unsizedGiven | nothingGiven | unsizedReturned | linked | unlinked => rfl
  | inserted | configured | given | returned | retired | destroyed =>
      exact set_other _ (fun same => apart (congrArg some same.symm)) _

namespace Pool

variable {pool before after : Pool} {lists : Lists} {id head : Nat} {slab : Slab}

/-! ## Links after an operation -/

theorem links_book (live : pool.slab id = .ok slab) (new : Slab) (sameNext : new.next = slab.next)
    (samePrev : new.prev = slab.prev) (counters : Counters) :
    (pool.book id new counters).links = pool.links := by
  apply (writes_book live new counters).links_eq
  · rw [links_next_of_slab live, ← sameNext]
    rfl
  · rw [links_prev_of_slab live, ← samePrev]
    rfl

theorem links_newSlab {run : Run}
    (claimed : pool.claim (fun _ => .slab { run }) = .ok (id, after)) :
    after.links = pool.links := by
  rcases writes_claim claimed with ⟨writes, notHead, notSlab, _, _⟩
  have free := links_free_of_not_inUse notHead notSlab
  exact writes.links_eq free.1.symm free.2.symm

theorem Writes.changeAt {slot : Slot} (writes : before.Writes id slot after) :
    before.links.ChangeAt id after.links := by
  rw [writes.links]
  exact .update before.links id _ _

namespace Rings

theorem changeAt_of_link (rings : pool.Rings lists) (linked : pool.link id head = .ok after) :
    pool.links.ChangeAt id after.links := by
  rcases link_spec linked with ⟨neighbours, slab, isHead, live, prevNone, nextNone, links, _⟩
  rcases (rings.isHead_iff head).mp ⟨neighbours, isHead⟩ with ⟨ids, present⟩
  have place := (rings.carries.circuit present).joined_of_next List.mem_cons_self
    (links_next_of_head isHead)
  rw [links]
  exact .spliceIn place.2 ((free_iff_of_slab live).mpr ⟨nextNone, prevNone⟩)

theorem changeAt_of_unlink (rings : pool.Rings lists) (unlinked : pool.unlink id = .ok after) :
    pool.links.ChangeAt id after.links := by
  rcases unlink_spec unlinked with ⟨slab, prev, next, live, behind, ahead, links, _⟩
  rw [← links_prev_of_slab live] at behind
  rw [← links_next_of_slab live] at ahead
  have notFree : ¬pool.links.Free id := by simp [Links.Free, ahead]
  rcases rings.carries.on_list id notFree with ⟨holder, ids, present, member⟩
  have circuit := rings.carries.circuit present
  rw [links]
  exact .spliceOut (circuit.joined_of_prev member behind).2 (circuit.joined_of_next member ahead).2

theorem changeAt_of_book_link {counters : Counters} (rings : pool.Rings lists)
    (live : pool.slab id = .ok slab) (new : Slab) (sameNext : new.next = slab.next)
    (samePrev : new.prev = slab.prev)
    (linked : (pool.book id new counters).link id head = .ok after) :
    pool.links.ChangeAt id after.links := by
  rw [← links_book live new sameNext samePrev counters]
  exact (rings.book live new sameNext samePrev counters).changeAt_of_link linked

theorem changeAt_of_book_unlink {counters : Counters} (rings : pool.Rings lists)
    (live : pool.slab id = .ok slab) (new : Slab) (sameNext : new.next = slab.next)
    (samePrev : new.prev = slab.prev)
    (unlinked : (pool.book id new counters).unlink id = .ok after) :
    pool.links.ChangeAt id after.links := by
  rw [← links_book live new sameNext samePrev counters]
  exact (rings.book live new sameNext samePrev counters).changeAt_of_unlink unlinked

theorem changeAt_of_configure (rings : pool.Rings lists) {elementSize : UInt64}
    (configured : pool.configure id head elementSize = .ok after) :
    pool.links.ChangeAt id after.links := by
  rcases configure_eq_ok_iff.mp configured with ⟨slab, counters, live, _, linked⟩
  exact rings.changeAt_of_book_link live (slab.divide elementSize) rfl rfl linked

theorem links_eq_or_changeAt {operation : Operation} {answer : Answer}
    (rings : before.Rings lists) (effect : Effect before operation answer after) :
    after.links = before.links ∨
      ∃ id, operation.subject answer = some id ∧ before.links.ChangeAt id after.links := by
  cases effect with
  | sizeRefused | unsizedGiven | nothingGiven | unsizedReturned => exact .inl rfl
  | headMade claimed => exact .inr ⟨_, rfl, (writes_claim claimed).1.changeAt⟩
  | inserted _ claimed configured =>
      have changed := (rings.newSlab claimed).changeAt_of_configure configured
      rw [links_newSlab claimed] at changed
      exact .inr ⟨_, rfl, changed⟩
  | configured configured => exact .inr ⟨_, rfl, rings.changeAt_of_configure configured⟩
  | @given _ _ taken _ _ live _ takes =>
      rcases Slab.links_of_takeHandle takes with ⟨samePrev, sameNext⟩
      exact .inl (links_book live taken sameNext samePrev _)
  | @lastGiven id _ taken _ _ middle live _ takes _ unlinked =>
      rcases Slab.links_of_takeHandle takes with ⟨samePrev, sameNext⟩
      change (before.book id taken before.counters).unlink id = .ok middle at unlinked
      have changed := rings.changeAt_of_book_unlink live taken sameNext samePrev unlinked
      exact .inr ⟨id, rfl, changed⟩
  | @firstReturned _ _ _ _ released _ _ live _ releases _ _ linked =>
      rcases Slab.links_of_release releases with ⟨samePrev, sameNext⟩
      exact .inr ⟨_, rfl, rings.changeAt_of_book_link live released sameNext samePrev linked⟩
  | @returned _ _ _ _ released _ live _ releases =>
      rcases Slab.links_of_release releases with ⟨samePrev, sameNext⟩
      exact .inl (links_book live released sameNext samePrev _)
  | @retired id _ _ _ released _ _ _ live _ releases _ _ _ _ unlinked =>
      rcases Slab.links_of_release releases with ⟨samePrev, sameNext⟩
      have changed := rings.changeAt_of_book_unlink live released.retire sameNext samePrev unlinked
      exact .inr ⟨id, rfl, changed⟩
  | linked linked => exact .inr ⟨_, rfl, rings.changeAt_of_link linked⟩
  | unlinked unlinked => exact .inr ⟨_, rfl, rings.changeAt_of_unlink unlinked⟩
  | destroyed live =>
      exact .inr ⟨_, rfl, (writes_vacate (slab_eq_ok_iff.mp live)).changeAt⟩

theorem free_iff_next (rings : pool.Rings lists) (live : pool.slab id = .ok slab) :
    pool.links.Free id ↔ slab.next = none := by
  rw [free_iff_of_slab live]
  rcases rings.linked_or_free live with ⟨_, _, _, _, prev, next, _, _⟩ | ⟨prev, next, _⟩
  · simp [prev, next]
  · simp [prev, next]

end Rings

theorem Effect.subject_ne {operation : Operation} {answer : Answer}
    (effect : Effect before operation answer after) (live : before.slab id = .ok slab)
    (apart : operation.slab? ≠ some id) : operation.subject answer ≠ some id := by
  cases effect with
  | headMade claimed | inserted _ claimed =>
      intro same
      cases same
      exact (writes_claim claimed).2.2.1 ⟨slab, live⟩
  | _ => exact apart

/-- What an operation leaves of a slab that it is not about. -/
structure Spared (before after : Pool) (subject : Option Nat) (id : Nat) (slab kept : Slab) :
    Prop where
  live : after.slab id = .ok kept
  content_eq : kept = { slab with prev := kept.prev, next := kept.next }
  size_eq : kept.run.size = after.pageSize
  pageSize_eq : after.pageSize = before.pageSize
  isLinked_eq : ∃ linked, slab.isLinked = .ok linked ∧ kept.isLinked = .ok linked
  beside : kept.prev ≠ slab.prev ∨ kept.next ≠ slab.next →
    ∃ other, subject = some other ∧ (before.links.Beside other id ∨ after.links.Beside other id)

end Pool

/-- In a reachable pool an operation keeps every slab that it does not name, with all its account
over a run of the pool's size, linked or not as it was. Only the neighbours of the slab that it
names, or of the entry that it makes, have new neighbours themselves. -/
theorem others_spared {pageSize : UInt64} {before after : Pool} {operation : Operation}
    {answer : Answer} (reachable : Reachable pageSize before)
    (applied : operation.apply before = .ok (answer, after)) {id : Nat} {slab : Slab}
    (live : before.slab id = .ok slab) (apart : operation.slab? ≠ some id) :
    ∃ kept, before.Spared after (operation.subject answer) id slab kept := by
  have effect := Pool.apply_eq_ok_iff.mp applied
  have reachableAfter := reachable.step applied
  have subjectApart := effect.subject_ne live apart
  have present : after.account id = some slab.bare := by
    rw [effect.accounts.kept subjectApart, Pool.account_of_slab live]
  rcases Pool.account_eq_some_iff.mp present with ⟨kept, keptLive, same⟩
  rcases reachable.exists_rings with ⟨lists, rings⟩
  rcases reachableAfter.exists_rings with ⟨_, ringsAfter⟩
  have changed := rings.links_eq_or_changeAt effect
  have free_iff : after.links.Free id ↔ before.links.Free id := by
    cases changed with
    | inl same => rw [same]
    | inr elsewhere =>
        rcases elsewhere with ⟨other, isSubject, change⟩
        exact change.free_iff id (fun same => subjectApart (same ▸ isSubject))
  rw [ringsAfter.free_iff_next keptLive, rings.free_iff_next live] at free_iff
  have isSome_eq : kept.next.isSome = slab.next.isSome := by
    rw [Bool.eq_iff_iff, Option.isSome_iff_ne_none, Option.isSome_iff_ne_none, ne_eq, ne_eq,
      free_iff]
  exact ⟨kept, {
    live := keptLive
    content_eq := Slab.eq_of_bare_eq same rfl rfl
    size_eq := by rw [(reachableAfter.balanced keptLive).2, reachableAfter.pageSize_eq]
    pageSize_eq := effect.pageSize_eq
    isLinked_eq := by
      refine ⟨slab.next.isSome, rings.isLinked_eq live, ?_⟩
      rw [ringsAfter.isLinked_eq keptLive, isSome_eq]
    beside := by
      rw [← Pool.links_prev_of_slab keptLive, ← Pool.links_next_of_slab keptLive,
        ← Pool.links_prev_of_slab live, ← Pool.links_next_of_slab live]
      intro moved
      cases changed with
      | inl same => simp [same] at moved
      | inr elsewhere =>
          rcases elsewhere with ⟨other, isSubject, change⟩
          refine ⟨other, isSubject, ?_⟩
          by_contra apart
          rcases not_or.mp apart with ⟨notBefore, notAfter⟩
          have idApart : id ≠ other := fun same => subjectApart (same ▸ isSubject)
          rcases change.kept id idApart notBefore notAfter with ⟨sameNext, samePrev⟩
          cases moved with
          | inl prevMoved => exact prevMoved samePrev
          | inr nextMoved => exact nextMoved sameNext }⟩

theorem others_spared_by_insert_in_reused_slot :
    ∃ answers before after first second kept moved,
      (Pool.empty 32).run [.newHead, .insert 0 5 0 16, .insert 0 6 32 16, .insert 0 7 64 16,
        .unlink 2, .destroy 2] = .ok (answers, before) ∧
      (Operation.insert 0 8 96 16).apply before = .ok (.inserted (some 2), after) ∧
      before.slab 1 = .ok first ∧ before.slab 3 = .ok second ∧
      before.Spared after (some 2) 1 first kept ∧ kept = first ∧
      before.Spared after (some 2) 3 second moved ∧ moved = { second with prev := some 2 } := by
  let slab (coordinate : UInt32) (offset : UInt64) (prev next : Nat) : Slab :=
    { run := ⟨coordinate, offset, 32⟩
      elementSize := 16
      capacity := 2
      available := 2
      hint := some 0
      active := true
      occupancy := ⟨#[0]⟩
      prev := some prev
      next := some next }
  let before : Pool :=
    { pageSize := 32
      slots := #[.head ⟨1, 3⟩, .slab (slab 5 0 3 0), .vacant none, .slab (slab 7 64 0 1)]
      lastVacated := some 2
      counters := { activeSlabs := 2 } }
  let after : Pool :=
    { pageSize := 32
      slots := #[.head ⟨1, 2⟩, .slab (slab 5 0 3 0), .slab (slab 8 96 0 3), .slab (slab 7 64 2 1)]
      counters := { activeSlabs := 3 } }
  have ran : (Pool.empty 32).run [.newHead, .insert 0 5 0 16, .insert 0 6 32 16, .insert 0 7 64 16,
      .unlink 2, .destroy 2] =
        .ok ([.head 0, .inserted (some 1), .inserted (some 2), .inserted (some 3), .done,
          .released ⟨6, 32, 32⟩], before) := by
    decide +kernel
  have applied : (Operation.insert 0 8 96 16).apply before = .ok (.inserted (some 2), after) := by
    decide +kernel
  have first : before.slab 1 = .ok (slab 5 0 3 0) := rfl
  have second : before.slab 3 = .ok (slab 7 64 0 1) := rfl
  have reachable : Reachable 32 before := Reachable.empty.run ran
  rcases others_spared reachable applied first (by decide) with ⟨kept, spared⟩
  rcases others_spared reachable applied second (by decide) with ⟨moved, sparedThen⟩
  have kept_eq : kept = slab 5 0 3 0 := Except.ok.inj spared.live.symm
  have moved_eq : moved = slab 7 64 2 1 := Except.ok.inj sparedThen.live.symm
  exact ⟨_, before, after, _, _, kept, moved, ran, applied, first, second, spared, kept_eq,
    sparedThen, moved_eq⟩

end SlabRings
