import SlabRings.Proofs.Requests

/-!
# Slabs on offer

As long as nobody links or unlinks slabs by hand, and runs are divided only as
they admit, the slabs on the rings are exactly the ones on offer: in service,
and with a free element or with elements that are not accounted for.
-/

namespace SlabRings

/-! ## Slabs and their places

What is required of a slab may depend on whether it is on a list. A step changes
one account, and puts that one slab on a list, takes it off or leaves it where
it is; all other slabs keep their accounts and their places. -/

namespace Accounts

/-- Each account is as required of a slab in its slot, on a list or on none. -/
def Placed (Required : Nat → Slab → Prop → Prop) (accounts : Accounts) (lists : Lists) : Prop :=
  ∀ id slab, accounts id = some slab → Required id slab (∃ head, lists.Has head id)

namespace Placed

variable {Required : Nat → Slab → Prop → Prop} {accounts : Accounts} {lists : Lists} {id : Nat}
  {new : Slab}

theorem keep (placed : Placed Required accounts lists) {old : Slab} (live : accounts id = some old)
    (required : ∀ onList, Required id old onList → Required id new onList) :
    Placed Required (accounts.set id (some new)) lists := by
  intro other slab present
  rcases set_eq_some_iff.mp present with ⟨rfl, changed⟩ | ⟨_, kept⟩
  · cases changed
    exact required _ (placed other old live)
  · exact placed other slab kept

theorem vacate (placed : Placed Required accounts lists) (id : Nat) :
    Placed Required (accounts.set id none) lists := by
  intro other slab present
  rcases set_eq_some_iff.mp present with ⟨_, impossible⟩ | ⟨_, kept⟩
  · cases impossible
  · exact placed other slab kept

theorem addHead (placed : Placed Required accounts lists) (fresh : lists id = none)
    (noAccount : accounts id = none) : Placed Required accounts (lists.addHead id) := by
  intro other slab present
  have different : other ≠ id := by
    intro same
    subst same
    rw [noAccount] at present
    cases present
  simpa [Lists.has_addHead_iff fresh, different] using placed other slab present

theorem pushFront (placed : Placed Required accounts lists) {head : Nat} {ids : List Nat}
    (present : lists head = some ids) (required : Required id new True) :
    Placed Required (accounts.set id (some new)) (lists.pushFront head id) := by
  intro other slab live
  rcases set_eq_some_iff.mp live with ⟨rfl, changed⟩ | ⟨different, kept⟩
  · cases changed
    simpa [Lists.has_pushFront_iff present] using required
  · simpa [Lists.has_pushFront_iff present, different] using placed other slab kept

theorem remove (placed : Placed Required accounts lists)
    (nodup : ∀ head ids, lists head = some ids → (head :: ids).Nodup) (notHead : lists id = none)
    (required : Required id new False) :
    Placed Required (accounts.set id (some new)) (lists.remove id) := by
  have has (head slot : Nat) := Lists.has_remove_iff (nodup head) notHead slot
  intro other slab live
  rcases set_eq_some_iff.mp live with ⟨rfl, changed⟩ | ⟨different, kept⟩
  · cases changed
    simpa [has] using required
  · simpa [has, different] using placed other slab kept

end Placed

end Accounts

/-! ## On offer -/

/-- In service, with a free element or with elements of which no account is kept. -/
def Slab.Offered (slab : Slab) : Prop :=
  slab.active = true ∧ (slab.available ≠ 0 ∨ slab.elementSize = 0)

instance (slab : Slab) : Decidable slab.Offered := by
  unfold Slab.Offered
  infer_instance

/-- Leaves the rings to the pool, and divides runs only as they admit. -/
def Operation.Orderly (pageSize : UInt64) : Operation → Prop
  | link _ _ | unlink _ => False
  | configure _ _ elementSize => Run.Admits pageSize elementSize
  | newHead | insert _ _ _ _ | allocate _ | free _ _ _ | destroy _ => True

instance Operation.decidableOrderly (pageSize : UInt64) :
    (operation : Operation) → Decidable (operation.Orderly pageSize)
  | link _ _ | unlink _ => isFalse id
  | configure _ _ elementSize => inferInstanceAs (Decidable (Run.Admits pageSize elementSize))
  | newHead | insert _ _ _ _ | allocate _ | free _ _ _ | destroy _ => isTrue trivial

def Accounts.Posted (accounts : Accounts) (lists : Lists) : Prop :=
  ∀ id slab, accounts id = some slab → ((∃ head, lists.Has head id) ↔ slab.Offered)

/-! ## Slabs that come and go -/

theorem Run.capacity_ne_zero {size elementSize : UInt64} (admitted : Run.Admits size elementSize)
    (sized : elementSize ≠ 0) : Run.capacity size elementSize ≠ 0 := by
  have fits := UInt64.le_iff_toNat_le.mp admitted.1
  have positive : 0 < elementSize.toNat := by
    apply Nat.pos_of_ne_zero
    intro zero
    exact sized (UInt64.toNat_inj.mp zero)
  rw [Run.capacity_of_ne_zero sized]
  exact Nat.ne_of_gt (Nat.div_pos fits positive)

theorem Slab.offered_divide {slab : Slab} {elementSize : UInt64}
    (admitted : Run.Admits slab.run.size elementSize) : (slab.divide elementSize).Offered := by
  refine ⟨rfl, ?_⟩
  by_cases unsized : elementSize = 0
  · exact .inr unsized
  · exact .inl (Run.capacity_ne_zero admitted unsized)

namespace Slab

variable {slab changed : Slab}

theorem offered_iff_of_room (room : slab.available ≠ 0) : slab.Offered ↔ slab.active = true :=
  and_iff_left (.inl room)

theorem not_offered_of_exhausted (sized : slab.elementSize ≠ 0) (exhausted : slab.available = 0) :
    ¬slab.Offered := by
  rintro ⟨_, room | unsized⟩
  · exact room exhausted
  · exact sized unsized

theorem fields_of_takeHandle {handle : Handle} (takes : slab.takeHandle = .ok (handle, changed)) :
    changed.active = slab.active ∧ changed.elementSize = slab.elementSize := by
  rcases take_eq_ok_iff.mp (take_of_takeHandle takes).1 with ⟨_, _, _, _, rfl⟩
  exact ⟨rfl, rfl⟩

theorem fields_of_release {element : Nat} (releases : slab.release element = .ok changed) :
    changed.active = slab.active ∧ changed.elementSize = slab.elementSize ∧
      changed.available = slab.available + 1 := by
  rcases release_eq_ok_iff.mp releases with ⟨_, _, _, _, rfl⟩
  exact ⟨rfl, rfl, rfl⟩

end Slab

theorem Accounts.posted_iff_placed {accounts : Accounts} {lists : Lists} :
    accounts.Posted lists ↔ accounts.Placed (fun _ slab onList => onList ↔ slab.Offered) lists :=
  Iff.rfl

namespace Accounts.Posted

variable {accounts : Accounts} {lists : Lists} {id : Nat} {new : Slab}

theorem keep (posted : accounts.Posted lists) {old : Slab} (live : accounts id = some old)
    (same : new.Offered ↔ old.Offered) : (accounts.set id (some new)).Posted lists :=
  posted_iff_placed.mpr
    ((posted_iff_placed.mp posted).keep live fun _ offered => offered.trans same.symm)

theorem vacate (posted : accounts.Posted lists) (id : Nat) :
    (accounts.set id none).Posted lists :=
  posted_iff_placed.mpr ((posted_iff_placed.mp posted).vacate id)

theorem addHead (posted : accounts.Posted lists) (fresh : lists id = none)
    (noAccount : accounts id = none) : accounts.Posted (lists.addHead id) :=
  posted_iff_placed.mpr ((posted_iff_placed.mp posted).addHead fresh noAccount)

theorem pushFront (posted : accounts.Posted lists) {head : Nat} {ids : List Nat}
    (present : lists head = some ids) (offered : new.Offered) :
    (accounts.set id (some new)).Posted (lists.pushFront head id) :=
  posted_iff_placed.mpr
    ((posted_iff_placed.mp posted).pushFront present (iff_of_true trivial offered))

theorem remove (posted : accounts.Posted lists)
    (nodup : ∀ head ids, lists head = some ids → (head :: ids).Nodup) (notHead : lists id = none)
    (closed : ¬new.Offered) : (accounts.set id (some new)).Posted (lists.remove id) :=
  posted_iff_placed.mpr
    ((posted_iff_placed.mp posted).remove nodup notHead (iff_of_false not_false closed))

end Accounts.Posted

/-! ## Every orderly step -/

theorem Pool.Effect.posted {before after : Pool} {lists : Lists} {operation : Operation}
    {answer : Answer} (effect : Effect before operation answer after)
    (orderly : operation.Orderly before.pageSize) (rings : before.Rings lists)
    (sound : Accounts.Sound before.pageSize before.account)
    (posted : Accounts.Posted before.account lists) :
    Accounts.Posted after.account (lists.advance ⟨before, operation, answer, after⟩) := by
  have nodup (head : Nat) (ids : List Nat) (present : lists head = some ids) :=
    rings.carries.nodup present
  cases effect with
  | headMade claimed =>
      rcases account_of_newHead claimed with ⟨noAccount, same⟩
      have fresh := rings.eq_none_of_not_isHead (writes_claim claimed).2.1
      rw [same]
      exact posted.addHead fresh noAccount
  | sizeRefused _ | nothingGiven _ _ _ => exact posted
  | inserted admitted claimed configured =>
      rcases (rings.newSlab claimed).present_of_configure configured with ⟨ids, present⟩
      rw [(account_of_insert claimed configured).2]
      exact posted.pushFront present (Slab.offered_divide admitted)
  | configured configured =>
      rcases rings.present_of_configure configured with ⟨ids, present⟩
      rcases account_of_configure configured with ⟨slab, live, same⟩
      have size := (sound _ slab live).2
      rw [same]
      exact posted.pushFront present (Slab.offered_divide (size ▸ orderly))
  | unsizedGiven live unsized _ | unsizedReturned live unsized =>
      simpa [Lists.advance, hasFree_eq live, unsized] using posted
  | @given id slab taken _ counters live serves takes left _ =>
      have one := Slab.available_of_take (Slab.take_of_takeHandle takes).1
      have same : taken.bare.Offered ↔ slab.bare.Offered := by
        change taken.Offered ↔ slab.Offered
        rw [Slab.offered_iff_of_room left, Slab.offered_iff_of_room serves.2.1,
          (Slab.fields_of_takeHandle takes).1]
      rw [account_book live]
      simpa [Lists.advance, hasFree_eq live, one, left] using
        posted.keep (account_of_slab live) same
  | @lastGiven id slab taken _ counters middle live serves takes exhausted unlinked _ =>
      have one := Slab.available_of_take (Slab.take_of_takeHandle takes).1
      have sized : taken.elementSize ≠ 0 := by
        rw [(Slab.fields_of_takeHandle takes).2]
        exact serves.1
      have closed : ¬taken.bare.Offered := Slab.not_offered_of_exhausted sized exhausted
      change Accounts.Posted middle.account _
      rw [account_of_book_unlink live unlinked]
      simpa [Lists.advance, hasFree_eq live, serves.1, one, exhausted] using
        posted.remove nodup (rings.eq_none_of_slab live) closed
  | @firstReturned id head _ slab released counters _ live sized releases exhausted _ linked =>
      have active := (sound id slab.bare (account_of_slab live)).1.active_of_release
        (Slab.release_bare releases)
      rcases Slab.fields_of_release releases with ⟨sameActive, _, more⟩
      have room : released.available ≠ 0 := by omega
      have offered : released.bare.Offered :=
        (Slab.offered_iff_of_room room).mpr (sameActive.trans active)
      rcases Slab.links_of_release releases with ⟨samePrev, sameNext⟩
      rcases (rings.book live released sameNext samePrev counters).present_of_link linked with
        ⟨ids, present⟩
      rw [account_of_link linked, account_book live]
      simpa [Lists.advance, hasFree_eq live, sized, exhausted] using
        posted.pushFront present offered
  | @returned id _ _ slab released counters live sized releases room _ _ =>
      rcases Slab.fields_of_release releases with ⟨sameActive, _, more⟩
      have stillRoom : released.available ≠ 0 := by omega
      have same : released.bare.Offered ↔ slab.bare.Offered := by
        change released.Offered ↔ slab.Offered
        rw [Slab.offered_iff_of_room stillRoom, Slab.offered_iff_of_room room, sameActive]
      rw [account_book live]
      simpa [Lists.advance, hasFree_eq live, room] using posted.keep (account_of_slab live) same
  | @retired id _ _ slab released _ _ middle live _ releases room _ _ _ unlinked _ =>
      have closed : ¬released.retire.bare.Offered := by
        simp [Slab.Offered, Slab.bare, Slab.retire]
      change Accounts.Posted middle.account _
      rw [account_of_book_unlink live unlinked]
      simpa [Lists.advance, hasFree_eq live, room] using
        posted.remove nodup (rings.eq_none_of_slab live) closed
  | linked _ | unlinked _ => exact orderly.elim
  | @destroyed id _ _ live _ _ =>
      change Accounts.Posted (before.vacate id).account _
      rw [account_of_vacate live]
      exact posted.vacate id

theorem Accounts.Step.admitted {pageSize : UInt64} {accounts settled : Accounts}
    {operation : Operation} {answer : Answer}
    (step : Step pageSize accounts operation answer settled) (orderly : operation.Orderly pageSize)
    (admitted : ∀ id slab, accounts id = some slab → Run.Admits pageSize slab.elementSize) :
    ∀ id slab, settled id = some slab → Run.Admits pageSize slab.elementSize := by
  cases step with
  | headMade | sizeRefused | unsizedGiven | nothingGiven | unsizedReturned | linked | unlinked =>
      exact admitted
  | inserted fits _ => exact forall_set admitted _ fits
  | configured _ => exact forall_set admitted _ orderly
  | given live _ takes =>
      apply forall_set admitted
      rw [(Slab.fields_of_takeHandle takes).2]
      exact admitted _ _ live
  | returned live _ releases =>
      apply forall_set admitted
      rw [(Slab.fields_of_release releases).2.1]
      exact admitted _ _ live
  | retired live _ releases _ _ =>
      have same := (Slab.fields_of_release releases).2.1
      exact forall_set admitted _ (same ▸ admitted _ _ live)
  | destroyed _ => exact forall_set_none admitted _

/-! ## Orderly histories -/

structure Pool.Offers (pageSize : UInt64) (lists : Lists) (pool : Pool) : Prop where
  reachable : Reachable pageSize pool
  rings : pool.Rings lists
  posted : Accounts.Posted pool.account lists
  admitted (id : Nat) (slab : Slab) :
    pool.account id = some slab → Run.Admits pageSize slab.elementSize

namespace Pool.Offers

variable {pageSize : UInt64} {lists : Lists} {pool : Pool} {id : Nat} {slab : Slab}

theorem empty (pageSize : UInt64) : Pool.Offers pageSize (fun _ => none) (.empty pageSize) where
  reachable := .empty
  rings := Pool.rings_empty pageSize
  posted _ _ present := by cases present
  admitted _ _ present := by cases present

theorem step {after : Pool} {operation : Operation} {answer : Answer}
    (offers : pool.Offers pageSize lists) (orderly : operation.Orderly pageSize)
    (effect : Effect pool operation answer after) :
    after.Offers pageSize (lists.advance ⟨pool, operation, answer, after⟩) := by
  have accounts := effect.accounts
  have sound := offers.reachable.accounts_sound
  rw [← offers.reachable.pageSize_eq] at orderly sound
  exact {
    reachable := offers.reachable.step (apply_eq_ok_iff.mpr effect)
    rings := effect.rings offers.rings
    posted := effect.posted orderly offers.rings sound offers.posted
    admitted := by
      rw [offers.reachable.pageSize_eq] at orderly accounts
      exact accounts.admitted orderly offers.admitted }

theorem run {operations : List Operation} {answers : List Answer}
    (orderly : ∀ operation, operation ∈ operations → operation.Orderly pageSize)
    (ran : (Pool.empty pageSize).run operations = .ok (answers, pool)) :
    pool.Offers pageSize (SlabRings.lists pageSize operations) :=
  observed_of (Operation.Orderly pageSize) Lists.advance
    (fun lists pool => pool.Offers pageSize lists)
    (fun _ _ _ _ _ allowed offers effect => offers.step allowed effect) orderly
    (Offers.empty pageSize) ran

theorem exists_mem_ring_iff_offered (offers : pool.Offers pageSize lists)
    (live : pool.slab id = .ok slab) :
    (∃ head ids, pool.ring head = .ok ids ∧ id ∈ ids) ↔ slab.Offered :=
  (offers.rings.exists_mem_ring_iff live).trans
    (offers.posted id slab.bare (account_of_slab live))

theorem next_ne_none_iff (offers : pool.Offers pageSize lists)
    (live : pool.slab id = .ok slab) : slab.next ≠ none ↔ slab.Offered :=
  (offers.rings.next_ne_none_iff live).trans (offers.posted id slab.bare (account_of_slab live))

theorem isLinked_eq (offers : pool.Offers pageSize lists) (live : pool.slab id = .ok slab) :
    slab.isLinked = .ok (decide slab.Offered) := by
  rw [offers.rings.isLinked_eq live, Except.ok.injEq, Bool.eq_iff_iff, decide_eq_true_iff,
    Option.isSome_iff_ne_none, offers.next_ne_none_iff live]

theorem allocate_ne_none (live : pool.slab id = .ok slab) (offered : slab.Offered)
    (after : Pool) : pool.allocate id ≠ .ok (none, after) := by
  intro allocated
  cases allocate_eq_ok_iff.mp allocated with
  | nothingGiven stored sized closed =>
      rw [live] at stored
      cases stored
      have room := offered.2.resolve_right sized
      exact closed ⟨sized, room, offered.1⟩

theorem exists_allocate (offers : pool.Offers pageSize lists) (live : pool.slab id = .ok slab)
    (offered : slab.Offered) (few : pool.counters.allocations + 1 < Checked.wordValues) :
    ∃ handle after, pool.allocate id = .ok (some handle, after) := by
  by_cases unsized : slab.elementSize = 0
  · rcases slab.exists_handle (Nat.zero_le _) with ⟨handle, packed⟩
    exact ⟨handle, pool, allocate_eq_ok_iff.mpr (.unsizedGiven live unsized packed)⟩
  · have serves : slab.CanServe := ⟨unsized, offered.2.resolve_right unsized, offered.1⟩
    rcases offers.reachable.balanced live with ⟨balanced, size⟩
    have admitted : Run.Admits pageSize slab.elementSize :=
      offers.admitted id slab.bare (account_of_slab live)
    have linked := (offers.next_ne_none_iff live).mpr offered
    rcases offers.rings.exists_given live balanced serves (balanced.addressable (size ▸ admitted))
      (fun _ => linked) few with ⟨handle, after, given⟩
    exact ⟨handle, after, allocate_eq_ok_iff.mpr given⟩

end Pool.Offers

/-- After any orderly history the slabs on the rings are the ones on offer. A slab on a ring
turns no request down, and meets one as long as the counter of allocations does not run over. -/
theorem on_ring_iff_offered {pageSize : UInt64} {operations : List Operation}
    {answers : List Answer} {pool : Pool}
    (orderly : ∀ operation, operation ∈ operations → operation.Orderly pageSize)
    (ran : (Pool.empty pageSize).run operations = .ok (answers, pool)) {id : Nat} {slab : Slab}
    (live : pool.slab id = .ok slab) :
    ((∃ head ids, pool.ring head = .ok ids ∧ id ∈ ids) ↔ slab.Offered) ∧
      slab.isLinked = .ok (decide slab.Offered) ∧
      ∀ head ids, pool.ring head = .ok ids → id ∈ ids →
        (∀ after, pool.allocate id ≠ .ok (none, after)) ∧
          (pool.counters.allocations + 1 < Checked.wordValues →
            ∃ handle after, pool.allocate id = .ok (some handle, after)) := by
  have offers := Pool.Offers.run orderly ran
  have onRing := offers.exists_mem_ring_iff_offered live
  refine ⟨onRing, offers.isLinked_eq live, ?_⟩
  intro head ids read member
  have offered := onRing.mp ⟨head, ids, read, member⟩
  exact ⟨Pool.Offers.allocate_ne_none live offered, offers.exists_allocate live offered⟩

/-- A retired slab has room and is on no ring. A slab of elements without size has none left
to count, is on a ring, and still serves. -/
theorem on_ring_iff_offered_after_retirement :
    ∃ answers pool retired unsized,
      (Pool.empty 64).run [.newHead, .insert 0 5 0 64, .insert 0 6 64 32, .insert 0 7 128 0,
        .allocate 1, .allocate 2, .free 2 0 0] = .ok (answers, pool) ∧
      pool.slab 2 = .ok retired ∧ retired.available = 2 ∧
      (¬∃ head ids, pool.ring head = .ok ids ∧ 2 ∈ ids) ∧
      pool.slab 3 = .ok unsized ∧ unsized.available = 0 ∧
      (∃ head ids, pool.ring head = .ok ids ∧ 3 ∈ ids) ∧
      ∃ handle after, pool.allocate 3 = .ok (some handle, after) := by
  let exhausted : Slab :=
    { run := ⟨5, 0, 64⟩
      elementSize := 64
      capacity := 1
      active := true
      occupancy := ⟨#[1]⟩ }
  let retired : Slab :=
    { run := ⟨6, 64, 64⟩
      elementSize := 32
      capacity := 2
      available := 2
      hint := some 0
      occupancy := ⟨#[0]⟩ }
  let unsized : Slab :=
    { run := ⟨7, 128, 64⟩
      active := true
      prev := some 0
      next := some 0 }
  let pool : Pool :=
    { pageSize := 64
      slots := #[.head ⟨3, 3⟩, .slab exhausted, .slab retired, .slab unsized]
      counters := { activeSlabs := 2, allocations := 2, frees := 1, retirements := 1 } }
  have ran : (Pool.empty 64).run [.newHead, .insert 0 5 0 64, .insert 0 6 64 32,
      .insert 0 7 128 0, .allocate 1, .allocate 2, .free 2 0 0] =
        .ok ([.head 0, .inserted (some 1), .inserted (some 2), .inserted (some 3),
          .allocated (some ⟨0x4000000000000005#64⟩), .allocated (some ⟨0x4000000000000006#64⟩),
          .freed false], pool) := by
    decide +kernel
  have orderly : ∀ operation, operation ∈ [Operation.newHead, .insert 0 5 0 64,
      .insert 0 6 64 32, .insert 0 7 128 0, .allocate 1, .allocate 2, .free 2 0 0] →
        operation.Orderly 64 := by
    decide
  have closed : ¬retired.Offered := by decide
  have offered : unsized.Offered := by decide
  have liveRetired : pool.slab 2 = .ok retired := rfl
  have liveUnsized : pool.slab 3 = .ok unsized := rfl
  have offRing := (on_ring_iff_offered orderly ran liveRetired).1.not.mpr closed
  rcases on_ring_iff_offered orderly ran liveUnsized with ⟨onRing, _, serves⟩
  rcases onRing.mpr offered with ⟨head, ids, read, member⟩
  exact ⟨_, pool, retired, unsized, ran, liveRetired, rfl, offRing, liveUnsized, rfl,
    ⟨head, ids, read, member⟩, (serves head ids read member).2 (by decide)⟩

end SlabRings
