import SlabRings.Proofs.Client.Progress
import SlabRings.Proofs.Requests

/-!
# Recycled and new slabs

Dividing a run anew leaves nothing of what the slab was before: not its former
element size, nor what was taken then, nor that it was retired. A recycled slab
and one made anew over the same run stand at the same place with the same
account, and from then on they mirror each other: asked the same, they answer
the same.
-/

namespace SlabRings

open Checked (wordValues)

/-! ## What a response presupposes -/

theorem Slab.Responds.active_of_retired {account : Slab} {company : Prop} {request : Request}
    {response : Response} (responds : account.Responds company request response)
    (balanced : account.Balanced) (retired : response.tally = .retired) :
    account.active = true := by
  cases responds with
  | retired _ releases _ _ _ => exact balanced.active_of_release releases
  | _ => cases retired

structure Counters.Alike (others counters : Counters) : Prop where
  allocations_eq : others.allocations = counters.allocations
  frees_eq : others.frees = counters.frees
  retirements_eq : others.retirements = counters.retirements

namespace Counters.Alike

variable {others counters : Counters}

theorem symm (alike : others.Alike counters) : counters.Alike others :=
  ⟨alike.allocations_eq.symm, alike.frees_eq.symm, alike.retirements_eq.symm⟩

theorem add (alike : others.Alike counters) (tally : Tally) :
    (tally.add others).Alike (tally.add counters) := by
  cases tally with
  | nothing => exact alike
  | given => exact { alike with allocations_eq := congrArg (· + 1) alike.allocations_eq }
  | returned => exact { alike with frees_eq := congrArg (· + 1) alike.frees_eq }
  | retired =>
      exact {
        allocations_eq := alike.allocations_eq
        frees_eq := congrArg (· + 1) alike.frees_eq
        retirements_eq := congrArg (· + 1) alike.retirements_eq }

theorem fits (alike : others.Alike counters) {tally : Tally} (fits : tally.Fits counters)
    (some : tally = .retired → 1 ≤ others.activeSlabs) : tally.Fits others := by
  rcases alike with ⟨allocations, frees, retirements⟩
  cases tally with
  | nothing => exact fits
  | given => simpa [Tally.Fits, allocations] using fits
  | returned => simpa [Tally.Fits, frees] using fits
  | retired =>
      rcases fits with ⟨few, _, fewer⟩
      exact ⟨frees ▸ few, some rfl, retirements ▸ fewer⟩

end Counters.Alike

/-! ## Slabs that mirror each other -/

namespace Lists

variable {lists others : Lists} {head id otherId : Nat}

/-- The two slabs come first on the list of the head, before the same others, or are on no list. -/
inductive SamePlace (lists others : Lists) (head id otherId : Nat) : Prop where
  | first {ids : List Nat} (present : lists head = some (id :: ids))
      (otherPresent : others head = some (otherId :: ids))
  | none {ids : List Nat} (present : lists head = some ids) (otherPresent : others head = some ids)
      (absent : ∀ other, ¬lists.Has other id) (otherAbsent : ∀ other, ¬others.Has other otherId)

theorem SamePlace.symm (place : lists.SamePlace others head id otherId) :
    others.SamePlace lists head otherId id := by
  cases place with
  | first present otherPresent => exact .first otherPresent present
  | none present otherPresent absent otherAbsent =>
      exact .none otherPresent present otherAbsent absent

theorem SamePlace.allows {move : Move} (place : lists.SamePlace others head id otherId)
    (allowed : lists.Allows head id move) : others.Allows head otherId move := by
  cases move with
  | stay => trivial
  | join =>
      cases place with
      | first present _ => exact absurd ⟨_, present, by simp⟩ (allowed.2 head)
      | none _ otherPresent _ otherAbsent => exact ⟨⟨_, otherPresent⟩, otherAbsent⟩
  | leave =>
      rcases allowed with ⟨holder, has⟩
      cases place with
      | first _ otherPresent => exact ⟨head, _, otherPresent, by simp⟩
      | none _ _ absent _ => exact absurd has (absent holder)

theorem not_accompanied (absent : ∀ other, ¬lists.Has other id) : ¬lists.Accompanied id := by
  rintro ⟨other, ids, present, member, _⟩
  exact absent other ⟨ids, present, List.mem_cons_of_mem other member⟩

end Lists

namespace Pool.Rings

variable {pool other : Pool} {lists others : Lists} {head id otherId : Nat} {slab : Slab}

theorem accompanied_iff_of_front (rings : pool.Rings lists) {ids : List Nat}
    (present : lists head = some (id :: ids)) : lists.Accompanied id ↔ ids ≠ [] := by
  constructor
  · rintro ⟨holder, all, presentThere, member, company⟩
    have same : head = holder := rings.carries.same_head ⟨_, present, by simp⟩
      ⟨all, presentThere, List.mem_cons_of_mem holder member⟩
    subst same
    cases present.symm.trans presentThere
    simpa using company
  · intro others
    exact ⟨head, _, present, List.mem_cons_self, by simpa using others⟩

theorem accompanied_iff_of_samePlace (rings : pool.Rings lists) (otherRings : other.Rings others)
    (place : lists.SamePlace others head id otherId) :
    lists.Accompanied id ↔ others.Accompanied otherId := by
  cases place with
  | first present otherPresent =>
      rw [rings.accompanied_iff_of_front present, otherRings.accompanied_iff_of_front otherPresent]
  | none _ _ absent otherAbsent =>
      exact iff_of_false (Lists.not_accompanied absent) (Lists.not_accompanied otherAbsent)

theorem samePlace_move (rings : pool.Rings lists) (otherRings : other.Rings others)
    (isSlab : pool.IsSlab id) (otherIsSlab : other.IsSlab otherId) {move : Move}
    (place : lists.SamePlace others head id otherId) (allowed : lists.Allows head id move) :
    (lists.move head id move).SamePlace (others.move head otherId move) head id otherId := by
  cases move with
  | stay => exact place
  | join =>
      cases place with
      | first present _ => exact absurd ⟨_, present, by simp⟩ (allowed.2 head)
      | @none ids present otherPresent _ _ =>
          have joined : lists.pushFront head id head = some (id :: ids) := by
            simp [Lists.pushFront, present]
          have otherJoined : others.pushFront head otherId head = some (otherId :: ids) := by
            simp [Lists.pushFront, otherPresent]
          exact .first joined otherJoined
  | leave =>
      rcases allowed with ⟨holder, has⟩
      cases place with
      | @first ids present otherPresent =>
          have left : lists.remove id head = some ids := by simp [Lists.remove, present]
          have otherLeft : others.remove otherId head = some ids := by
            simp [Lists.remove, otherPresent]
          exact .none left otherLeft (rings.not_has_remove isSlab)
            (otherRings.not_has_remove otherIsSlab)
      | none _ _ absent _ => exact absurd has (absent holder)

end Pool.Rings

/-- The slabs of two pools that answer the same requests alike. -/
structure Pool.Mirrors (pageSize : UInt64) (head : Nat) (pool : Pool) (id : Nat) (other : Pool)
    (otherId : Nat) : Prop where
  reachable : Reachable pageSize pool
  otherReachable : Reachable pageSize other
  account : ∃ account, pool.account id = some account ∧ other.account otherId = some account
  place : ∃ lists others, pool.Rings lists ∧ other.Rings others ∧
    lists.SamePlace others head id otherId
  counters : other.counters.Alike pool.counters

namespace Pool.Mirrors

variable {pageSize : UInt64} {head id otherId : Nat} {pool other after : Pool}
  {request : Request} {answer : Answer}

theorem symm (mirrors : pool.Mirrors pageSize head id other otherId) :
    other.Mirrors pageSize head otherId pool id where
  reachable := mirrors.otherReachable
  otherReachable := mirrors.reachable
  account := by
    rcases mirrors.account with ⟨account, present, otherPresent⟩
    exact ⟨account, otherPresent, present⟩
  place := by
    rcases mirrors.place with ⟨lists, others, rings, otherRings, place⟩
    exact ⟨others, lists, otherRings, rings, place.symm⟩
  counters := mirrors.counters.symm

theorem step (mirrors : pool.Mirrors pageSize head id other otherId)
    (effect : Effect pool (request.on id head) answer after) :
    ∃ otherAfter, Effect other (request.on otherId head) answer otherAfter ∧
      after.Mirrors pageSize head id otherAfter otherId := by
  rcases mirrors.place with ⟨lists, others, rings, otherRings, place⟩
  rcases mirrors.account with ⟨account, present, otherPresent⟩
  rcases rings.settled effect with ⟨same, response, samePresent, responds, rfl, settled⟩
  cases present.symm.trans samePresent
  rcases account_eq_some_iff.mp present with ⟨slab, live, _⟩
  rcases account_eq_some_iff.mp otherPresent with ⟨otherSlab, otherLive, rfl⟩
  have otherResponds := responds
  rw [rings.accompanied_iff_of_samePlace otherRings place] at otherResponds
  -- The pools may count different numbers of active slabs, but each counts the one it retires.
  have fits : response.tally.Fits other.counters := by
    apply mirrors.counters.fits settled.fits
    intro retired
    have balanced := Slab.balanced_bare.mpr (mirrors.otherReachable.balanced otherLive).1
    exact one_le_activeSlabs_of_counted mirrors.otherReachable.activeSlabs_eq_total otherLive
      (responds.active_of_retired balanced retired)
  rcases otherRings.exists_settled otherPresent otherResponds fits
    (place.allows settled.allowed) with ⟨otherAfter, otherEffect, otherSettled⟩
  refine ⟨otherAfter, otherEffect, ?_⟩
  exact {
    reachable := mirrors.reachable.step (apply_eq_ok_iff.mpr effect)
    otherReachable := mirrors.otherReachable.step (apply_eq_ok_iff.mpr otherEffect)
    account := by
      rw [settled.account present, otherSettled.account otherPresent, Accounts.set_same,
        Accounts.set_same]
      exact ⟨_, rfl, rfl⟩
    place := ⟨_, _, settled.rings, otherSettled.rings,
      rings.samePlace_move otherRings ⟨slab, live⟩ ⟨otherSlab, otherLive⟩ place settled.allowed⟩
    counters := by
      rw [settled.counters, otherSettled.counters]
      exact mirrors.counters.add response.tally }

theorem run (mirrors : pool.Mirrors pageSize head id other otherId) {requests : List Request}
    {answers : List Answer} {final : Pool}
    (ran : pool.run (requests.map (Request.on id head)) = .ok (answers, final)) :
    ∃ otherFinal,
      other.run (requests.map (Request.on otherId head)) = .ok (answers, otherFinal) := by
  induction requests generalizing pool other answers with
  | nil =>
      cases ran
      exact ⟨other, rfl⟩
  | cons request rest induction =>
      rcases run_cons_eq_ok_iff.mp ran with ⟨answer, after, later, applied, ranLater, rfl⟩
      rcases mirrors.step (apply_eq_ok_iff.mp applied) with ⟨otherAfter, effect, still⟩
      rcases induction still ranLater with ⟨otherFinal, otherRan⟩
      exact ⟨otherFinal, run_cons_eq_ok_iff.mpr
        ⟨answer, otherAfter, later, apply_eq_ok_iff.mpr effect, otherRan, rfl⟩⟩

end Pool.Mirrors

/-! ## Recycled and new -/

namespace Pool

variable {pageSize : UInt64} {pool recycled fresh : Pool} {lists : Lists} {id newId head : Nat}
  {slab : Slab} {elementSize : UInt64}

structure Renewed (pool recycled fresh : Pool) (id newId head : Nat) : Prop where
  same : ∃ divided, recycled.slab id = .ok divided ∧ fresh.slab newId = .ok divided
  rings : ∃ ids, pool.ring head = .ok ids ∧ recycled.ring head = .ok (id :: ids) ∧
    fresh.ring head = .ok (newId :: ids)
  answers (requests : List Request) (answers : List Answer) :
    (∃ final, recycled.run (requests.map (Request.on id head)) = .ok (answers, final)) ↔
      ∃ final, fresh.run (requests.map (Request.on newId head)) = .ok (answers, final)

theorem Rings.exists_configure_of_insert (rings : pool.Rings lists) {coordinate : UInt32}
    {offset : UInt64} (live : pool.slab id = .ok slab) (detached : slab.isLinked = .ok false)
    (inserted : pool.insert head coordinate offset elementSize = .ok (some newId, fresh)) :
    ∃ recycled, pool.configure id head elementSize = .ok recycled := by
  cases insert_eq_ok_iff.mp inserted with
  | inserted _ claimed configured =>
      rcases writes_claim claimed with ⟨writes, _, _, sameCounters, _⟩
      rcases (rings.newSlab claimed).present_of_configure configured with ⟨ids, present⟩
      rcases configure_eq_ok_iff.mp configured with ⟨blank, counters, blankLive, counted, _⟩
      rw [slab_eq_ok_iff, writes.written] at blankLive
      cases blankLive
      have few := (Counters.activatedBy_eq_ok_iff.mp counted).1 rfl
      rw [sameCounters] at few
      exact rings.exists_configure ((rings.isHead_iff head).mpr ⟨ids, present⟩) live
        (Slab.detached_of_isLinked detached) few elementSize

theorem account_of_renewed (reachable : Reachable pageSize pool) (live : pool.slab id = .ok slab)
    (inserted : pool.insert head slab.run.coordinate slab.run.offset elementSize =
      .ok (some newId, fresh))
    (configured : pool.configure id head elementSize = .ok recycled) :
    ∃ account, recycled.account id = some account ∧ fresh.account newId = some account := by
  rcases account_of_configure configured with ⟨account, present, recycledAccount⟩
  rw [account_of_slab live, Option.some.injEq] at present
  subst present
  have run : (⟨slab.run.coordinate, slab.run.offset, pool.pageSize⟩ : Run) = slab.run := by
    rw [reachable.pageSize_eq, ← (reachable.balanced live).2]
  cases insert_eq_ok_iff.mp inserted with
  | inserted _ claimed divided =>
      have freshAccount := (account_of_insert claimed divided).2
      rw [run] at freshAccount
      refine ⟨Slab.divide { run := slab.run } elementSize, ?_, ?_⟩
      · rw [recycledAccount, Accounts.set_same]
        rfl
      · rw [freshAccount, Accounts.set_same]

theorem renewed (reachable : Reachable pageSize pool) (live : pool.slab id = .ok slab)
    (inserted : pool.insert head slab.run.coordinate slab.run.offset elementSize =
      .ok (some newId, fresh))
    (configured : pool.configure id head elementSize = .ok recycled) :
    pool.Renewed recycled fresh id newId head := by
  rcases reachable.exists_rings with ⟨lists, rings⟩
  have insertion := insert_eq_ok_iff.mp inserted
  have configuration : Effect pool (.configure id head elementSize) .done recycled :=
    .configured configured
  rcases rings.present_of_configure configured with ⟨ids, present⟩
  have recycledRings := rings.configure configured
  have freshRings : fresh.Rings (lists.pushFront head newId) := by
    cases insertion with
    | inserted _ claimed divided => exact (rings.newSlab claimed).configure divided
  have front (first : Nat) : lists.pushFront head first head = some (first :: ids) := by
    simp [Lists.pushFront, present]
  rcases account_of_renewed reachable live inserted configured with
    ⟨account, recycledPresent, freshPresent⟩
  have mirrors : recycled.Mirrors pageSize head id fresh newId := {
    reachable := reachable.step (apply_eq_ok_iff.mpr configuration)
    otherReachable := reachable.step (apply_eq_ok_iff.mpr insertion)
    account := ⟨account, recycledPresent, freshPresent⟩
    place := ⟨_, _, recycledRings, freshRings, .first (front id) (front newId)⟩
    counters := by
      rw [insertion.counters, configuration.counters]
      simp only [Counters.advance]
      split <;> exact ⟨rfl, rfl, rfl⟩ }
  rcases account_eq_some_iff.mp recycledPresent with ⟨divided, dividedLive, rfl⟩
  rcases account_eq_some_iff.mp freshPresent with ⟨made, madeLive, sameBare⟩
  have same := freshRings.eq_of_front recycledRings madeLive dividedLive (front newId) (front id)
    sameBare
  subst same
  exact {
    same := ⟨made, dividedLive, madeLive⟩
    rings := ⟨ids, rings.ring_eq present, recycledRings.ring_eq (front id),
      freshRings.ring_eq (front newId)⟩
    answers := by
      intro requests answers
      constructor
      · rintro ⟨final, ran⟩
        exact mirrors.run ran
      · rintro ⟨final, ran⟩
        exact mirrors.symm.run ran }

end Pool

/-- A detached slab can be divided anew wherever a new slab could be made over the same run, and
nothing tells the one from the other: not their accounts, nor their places, nor anything they
answer to the same requests. -/
theorem recycled_as_new {pageSize : UInt64} {pool : Pool} (reachable : Reachable pageSize pool)
    {id : Nat} {slab : Slab} (live : pool.slab id = .ok slab) (detached : slab.isLinked = .ok false)
    (head : Nat) (elementSize : UInt64) :
    (pool.IsHead head → Run.Admits pageSize elementSize →
      pool.counters.activeSlabs + 1 < wordValues →
        ∃ newId fresh, pool.insert head slab.run.coordinate slab.run.offset elementSize =
          .ok (some newId, fresh)) ∧
      ∀ newId fresh, pool.insert head slab.run.coordinate slab.run.offset elementSize =
        .ok (some newId, fresh) →
          ∃ recycled, pool.configure id head elementSize = .ok recycled ∧
            pool.Renewed recycled fresh id newId head := by
  rcases reachable.exists_rings with ⟨lists, rings⟩
  constructor
  · intro isHead admitted few
    rcases reachable.exists_vacancies with ⟨vacant, vacancies⟩
    rw [← reachable.pageSize_eq] at admitted
    exact rings.exists_insert vacancies isHead few admitted _ _
  · intro newId fresh inserted
    rcases rings.exists_configure_of_insert live detached inserted with ⟨recycled, configured⟩
    exact ⟨recycled, configured, Pool.renewed reachable live inserted configured⟩

/-- A slab of 128 elements is taken off its ring by hand while one of them is out, and divided into
two halves. It gives both, takes both back and is retired, as a new slab would. -/
theorem recycled_as_new_with_element_out :
    ∃ answers pool recycled divided final,
      (Pool.empty 128).run [.newHead, .insert 0 5 0 1, .insert 0 6 128 64, .allocate 1,
        .unlink 1] = .ok (answers, pool) ∧
      pool.configure 1 0 64 = .ok recycled ∧ recycled.ring 0 = .ok [1, 2] ∧
      recycled.slab 1 = .ok divided ∧ divided.capacity = 2 ∧ divided.occupancy = ⟨#[0]⟩ ∧
      recycled.run ([.allocate, .allocate, .allocate, .free 1, .free 0, .allocate].map
        (Request.on 1 0)) =
          .ok ([.allocated (some ⟨0x4000000000000005#64⟩),
            .allocated (some ⟨0x4000000100000005#64⟩), .allocated none, .freed true, .freed false,
            .allocated none], final) := by
  let halved (coordinate : UInt32) (offset : UInt64) (prev next : Option Nat) : Slab :=
    { run := ⟨coordinate, offset, 128⟩
      elementSize := 64
      capacity := 2
      available := 2
      hint := some 0
      active := true
      occupancy := ⟨#[0]⟩
      prev, next }
  let aside : Slab :=
    { halved 5 0 none none with
      elementSize := 1, capacity := 128, available := 127, hint := none, occupancy := ⟨#[1, 0]⟩ }
  let pool : Pool :=
    { pageSize := 128
      slots := #[.head ⟨2, 2⟩, .slab aside, .slab (halved 6 128 (some 0) (some 0))]
      counters := { activeSlabs := 2, allocations := 1 } }
  let fresh : Pool :=
    { pageSize := 128
      slots := #[.head ⟨2, 3⟩, .slab aside, .slab (halved 6 128 (some 3) (some 0)),
        .slab (halved 5 0 (some 0) (some 2))]
      counters := { activeSlabs := 3, allocations := 1 } }
  let retired : Pool :=
    { pageSize := 128
      slots := #[.head ⟨2, 2⟩, .slab aside, .slab (halved 6 128 (some 0) (some 0)),
        .slab { halved 5 0 none none with active := false }]
      counters := { activeSlabs := 2, allocations := 3, frees := 2, retirements := 1 } }
  have ran : (Pool.empty 128).run [.newHead, .insert 0 5 0 1, .insert 0 6 128 64, .allocate 1,
      .unlink 1] = .ok ([.head 0, .inserted (some 1), .inserted (some 2),
        .allocated (some ⟨0x4000000000000005#64⟩), .done], pool) := by
    decide +kernel
  have inserted : pool.insert 0 5 0 64 = .ok (some 3, fresh) := by decide +kernel
  have served : fresh.run ([.allocate, .allocate, .allocate, .free 1, .free 0, .allocate].map
      (Request.on 3 0)) =
        .ok ([.allocated (some ⟨0x4000000000000005#64⟩),
          .allocated (some ⟨0x4000000100000005#64⟩), .allocated none, .freed true, .freed false,
          .allocated none], retired) := by
    decide +kernel
  have read : fresh.ring 0 = .ok [3, 2] := by decide +kernel
  have live : pool.slab 1 = .ok aside := rfl
  rcases (recycled_as_new (Reachable.empty.run ran) live rfl 0 64).2 3 fresh inserted with
    ⟨recycled, configured, ⟨divided, dividedLive, freshLive⟩, ⟨ids, _, recycledRead, freshRead⟩,
      answers⟩
  cases freshRead.symm.trans read
  rcases (answers _ _).mpr ⟨retired, served⟩ with ⟨final, recycledServed⟩
  have same : divided = halved 5 0 (some 0) (some 2) := Except.ok.inj freshLive.symm
  subst same
  exact ⟨_, pool, recycled, _, final, ran, configured, recycledRead, dividedLive, rfl, rfl,
    recycledServed⟩

end SlabRings
