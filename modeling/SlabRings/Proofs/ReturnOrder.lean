import SlabRings.Proofs.Requests

/-!
# The order of returns

A slab does not tell which of its elements came back when. Two slabs that are
alike but for which elements are out answer alike to the return of any element,
and stay alike; so do the pools around them. Elements that come back in two
orders lead through such pools, and in the end the same elements are out.
-/

namespace SlabRings

/-! ## Slabs with other elements out -/

/-- The slabs differ at most in which elements are out and which one is preferred. -/
structure Slab.Alike (slab other : Slab) : Prop where
  run_eq : other.run = slab.run
  elementSize_eq : other.elementSize = slab.elementSize
  capacity_eq : other.capacity = slab.capacity
  available_eq : other.available = slab.available
  active_eq : other.active = slab.active
  prev_eq : other.prev = slab.prev
  next_eq : other.next = slab.next

namespace Slab.Alike

variable {slab other released : Slab} {element otherElement : Nat} {company : Prop}
  {response : Response}

theorem eq (alike : slab.Alike other) :
    other = { slab with occupancy := other.occupancy, hint := other.hint } := by
  rcases other with ⟨run, elementSize, capacity, available, hint, active, occupancy, prev, next⟩
  rcases alike with ⟨rfl, rfl, rfl, rfl, rfl, rfl, rfl⟩
  rfl

theorem bare (alike : slab.Alike other) : slab.bare.Alike other.bare :=
  { alike with prev_eq := rfl, next_eq := rfl }

theorem exists_of_bare {account : Slab} (alike : slab.bare.Alike account) :
    ∃ other, slab.Alike other ∧ other.bare = account :=
  ⟨{ slab with occupancy := account.occupancy, hint := account.hint },
    ⟨rfl, rfl, rfl, rfl, rfl, rfl, rfl⟩, alike.eq.symm⟩

theorem exists_release (alike : slab.Alike other) (balanced : other.Balanced)
    (out : otherElement ∈ other.occupancy) (releases : slab.release element = .ok released) :
    ∃ otherReleased, other.release otherElement = .ok otherReleased ∧
      released.Alike otherReleased := by
  rcases balanced.exists_release out with ⟨otherReleased, otherReleases⟩
  refine ⟨otherReleased, otherReleases, ?_⟩
  rcases release_eq_ok_iff.mp releases with ⟨_, shrunk, _, _, rfl⟩
  rcases release_eq_ok_iff.mp otherReleases with ⟨_, otherShrunk, _, _, rfl⟩
  exact { alike with available_eq := congrArg (· + 1) alike.available_eq }

/-- What counts is how many elements are free, and not which. -/
theorem responds (alike : slab.Alike other) (balanced : other.Balanced)
    (out : otherElement ∈ other.occupancy)
    (responds : slab.Responds company (.free element) response) :
    ∃ account, other.Responds company (.free otherElement) { response with account } ∧
      response.account.Alike account := by
  cases responds with
  | unsizedReturned unsized =>
      exact ⟨other, .unsizedReturned (alike.elementSize_eq.trans unsized), alike⟩
  | firstReturned sized releases exhausted =>
      rcases alike.exists_release balanced out releases with ⟨account, otherReleases, still⟩
      rw [← alike.elementSize_eq] at sized
      rw [← alike.available_eq] at exhausted
      exact ⟨account, .firstReturned sized otherReleases exhausted, still⟩
  | returned sized releases room kept =>
      rcases alike.exists_release balanced out releases with ⟨account, otherReleases, still⟩
      rw [← alike.elementSize_eq] at sized
      rw [← alike.available_eq] at room
      rw [← still.available_eq, ← still.capacity_eq] at kept
      exact ⟨account, .returned sized otherReleases room kept, still⟩
  | retired sized releases room allFree accompanied =>
      rcases alike.exists_release balanced out releases with ⟨account, otherReleases, still⟩
      rw [← alike.elementSize_eq] at sized
      rw [← alike.available_eq] at room
      rw [← still.available_eq, ← still.capacity_eq] at allFree
      exact ⟨account.retire, .retired sized otherReleases room allFree accompanied,
        { still with active_eq := rfl }⟩

end Slab.Alike

/-! ## What returns leave of a slab -/

structure Slab.Regained (slab : Slab) (elements : List Nat) (left : Slab) : Prop where
  elementSize_eq : left.elementSize = slab.elementSize
  wordCount_eq : left.occupancy.wordCount = slab.occupancy.wordCount
  hint_eq : left.hint = elements.getLast?.or slab.hint
  mem_iff (element : Nat) :
    element ∈ left.occupancy ↔ element ∈ slab.occupancy ∧ element ∉ elements

namespace Slab.Regained

variable {slab middle left other : Slab} {element : Nat} {elements others : List Nat}

theorem nil (slab : Slab) : slab.Regained [] slab where
  elementSize_eq := rfl
  wordCount_eq := rfl
  hint_eq := rfl
  mem_iff element := by simp

theorem of_release (releases : slab.release element = .ok left) :
    slab.Regained [element] left := by
  rcases release_eq_ok_iff.mp releases with ⟨_, shrunk, shrinks, _, rfl⟩
  exact {
    elementSize_eq := rfl
    wordCount_eq := Occupancy.wordCount_of_erase shrinks
    hint_eq := rfl
    mem_iff := by
      intro other
      rw [Occupancy.mem_iff_of_erase shrinks, List.mem_singleton, and_comm] }

theorem retire (regained : slab.Regained elements left) : slab.Regained elements left.retire where
  elementSize_eq := regained.elementSize_eq
  wordCount_eq := regained.wordCount_eq
  hint_eq := regained.hint_eq
  mem_iff := regained.mem_iff

theorem of_bare (regained : slab.bare.Regained elements left.bare) :
    slab.Regained elements left where
  elementSize_eq := regained.elementSize_eq
  wordCount_eq := regained.wordCount_eq
  hint_eq := regained.hint_eq
  mem_iff := regained.mem_iff

theorem cons (first : slab.Regained [element] middle) (rest : middle.Regained elements left) :
    slab.Regained (element :: elements) left where
  elementSize_eq := rest.elementSize_eq.trans first.elementSize_eq
  wordCount_eq := rest.wordCount_eq.trans first.wordCount_eq
  hint_eq := by
    rw [rest.hint_eq, first.hint_eq, List.getLast?_singleton, List.getLast?_cons]
    cases elements.getLast? <;> rfl
  mem_iff other := by
    rw [rest.mem_iff, first.mem_iff, and_assoc, List.mem_singleton, List.mem_cons, not_or]

theorem hint_of_ne_nil (regained : slab.Regained elements left) (notEmpty : elements ≠ []) :
    left.hint = elements.getLast? := by
  rw [regained.hint_eq, List.getLast?_eq_some_getLast notEmpty]
  rfl

theorem occupancy_eq_of_perm (regained : slab.Regained elements left)
    (otherRegained : slab.Regained others other) (perm : elements.Perm others) :
    other.occupancy = left.occupancy := by
  apply Occupancy.eq_of_mem_iff (otherRegained.wordCount_eq.trans regained.wordCount_eq.symm)
  intro element
  rw [otherRegained.mem_iff, regained.mem_iff, perm.mem_iff]

end Slab.Regained

def returns (id head : Nat) (elements : List Nat) : List Operation :=
  elements.map (Operation.free id head)

theorem Accounts.Step.regained {pageSize : UInt64} {accounts settled : Accounts}
    {id head element : Nat} {answer : Answer} {slab : Slab}
    (step : Step pageSize accounts (.free id head element) answer settled)
    (live : accounts id = some slab) (sized : slab.elementSize ≠ 0) :
    ∃ left, settled id = some left ∧ slab.Regained [element] left := by
  cases step with
  | unsizedReturned present unsized =>
      cases live.symm.trans present
      exact absurd unsized sized
  | returned present _ releases =>
      cases live.symm.trans present
      exact ⟨_, set_same _ _ _, .of_release releases⟩
  | retired present _ releases _ _ =>
      cases live.symm.trans present
      exact ⟨_, set_same _ _ _, (Slab.Regained.of_release releases).retire⟩

namespace Pool

variable {pool other after final : Pool} {id head element : Nat} {slab : Slab}

theorem exists_regained_of_effect {answer : Answer} (live : pool.slab id = .ok slab)
    (sized : slab.elementSize ≠ 0) (effect : Effect pool (.free id head element) answer after) :
    ∃ left, after.slab id = .ok left ∧ slab.Regained [element] left := by
  rcases effect.accounts.regained (account_of_slab live) sized with ⟨account, present, regained⟩
  rcases account_eq_some_iff.mp present with ⟨left, leftLive, rfl⟩
  exact ⟨left, leftLive, regained.of_bare⟩

theorem exists_regained_of_run {elements : List Nat} {answers : List Answer}
    (live : pool.slab id = .ok slab) (sized : slab.elementSize ≠ 0)
    (ran : pool.run (returns id head elements) = .ok (answers, final)) :
    ∃ left, final.slab id = .ok left ∧ slab.Regained elements left := by
  induction elements generalizing pool slab answers with
  | nil =>
      cases ran
      exact ⟨slab, live, .nil slab⟩
  | cons element rest induction =>
      rcases run_cons_eq_ok_iff.mp ran with ⟨_, middle, _, applied, ranRest, _⟩
      rcases exists_regained_of_effect live sized (apply_eq_ok_iff.mp applied) with
        ⟨used, usedLive, first⟩
      have stillSized : used.elementSize ≠ 0 := first.elementSize_eq ▸ sized
      rcases induction usedLive stillSized ranRest with ⟨left, leftLive, regained⟩
      exact ⟨left, leftLive, first.cons regained⟩

/-! ## Two orders, step by step -/

/-- The pools differ at most in which elements of the one slab are out, and which is preferred. -/
structure Twins (pageSize : UInt64) (id : Nat) (pool other : Pool) : Prop where
  reachable : Reachable pageSize pool
  otherReachable : Reachable pageSize other
  alike : ∃ slab otherSlab, pool.slab id = .ok slab ∧ slab.Alike otherSlab ∧
    other = pool.book id otherSlab pool.counters

def IsOut (pool : Pool) (id element : Nat) : Prop :=
  ∃ slab, pool.slab id = .ok slab ∧ element ∈ slab.occupancy

theorem IsOut.kept {pageSize : UInt64} {answer : Answer} {kept : Nat}
    (reachable : Reachable pageSize pool) (out : pool.IsOut id kept) (different : kept ≠ element)
    (effect : Effect pool (.free id head element) answer after) : after.IsOut id kept := by
  rcases out with ⟨slab, live, member⟩
  have balanced := (reachable.balanced live).1
  have sized := balanced.sized (balanced.lt_capacity kept member)
  rcases exists_regained_of_effect live sized effect with ⟨left, leftLive, regained⟩
  refine ⟨left, leftLive, (regained.mem_iff kept).mpr ⟨member, ?_⟩⟩
  simpa using different

namespace Twins

variable {pageSize : UInt64} {answer : Answer}

theorem step {otherElement : Nat} (twins : pool.Twins pageSize id other)
    (effect : Effect pool (.free id head element) answer after)
    (out : other.IsOut id otherElement) :
    ∃ otherAfter, Effect other (.free id head otherElement) answer otherAfter ∧
      after.Twins pageSize id otherAfter := by
  rcases twins.alike with ⟨slab, otherSlab, live, alike, rfl⟩
  have otherLive := slab_book live otherSlab pool.counters
  have balanced := (twins.otherReachable.balanced otherLive).1
  have member : otherElement ∈ otherSlab.occupancy := by
    rcases out with ⟨same, sameLive, member⟩
    cases otherLive.symm.trans sameLive
    exact member
  -- The links are the same in both pools, so both have the same lists.
  rcases twins.reachable.exists_rings with ⟨lists, rings⟩
  have otherRings := rings.book live otherSlab alike.next_eq alike.prev_eq pool.counters
  have asked : Effect pool ((Request.free element).on id head) answer after := effect
  rcases rings.settled asked with ⟨account, response, present, responds, rfl, settled⟩
  cases (account_of_slab live).symm.trans present
  rcases alike.bare.responds (Slab.balanced_bare.mpr balanced) member responds with
    ⟨otherAccount, otherResponds, still⟩
  rcases otherRings.exists_settled (account_of_slab otherLive) otherResponds settled.fits
    settled.allowed with ⟨otherAfter, otherEffect, otherSettled⟩
  rcases settled.exists_slab present with ⟨left, leftLive, leftBare⟩
  rw [← leftBare] at still
  rcases still.exists_of_bare with ⟨otherLeft, leftAlike, otherBare⟩
  have bare_eq : otherAfter.bare = after.bare.book id otherLeft.bare after.counters := by
    rw [otherSettled.bare, bare_book, book_book, settled.bare, book_book, settled.counters,
      otherBare]
    rfl
  have otherAfter_eq := settled.rings.eq_book otherSettled.rings leftLive leftAlike.next_eq
    leftAlike.prev_eq bare_eq
  exact ⟨otherAfter, otherEffect, {
    reachable := twins.reachable.step (apply_eq_ok_iff.mpr effect)
    otherReachable := twins.otherReachable.step (apply_eq_ok_iff.mpr otherEffect)
    alike := ⟨left, otherLeft, leftLive, leftAlike, otherAfter_eq⟩ }⟩

theorem run {elements others : List Nat} {answers : List Answer}
    (twins : pool.Twins pageSize id other) (length : elements.length = others.length)
    (nodup : others.Nodup) (out : ∀ element ∈ others, other.IsOut id element)
    (ran : pool.run (returns id head elements) = .ok (answers, final)) :
    ∃ otherFinal, other.run (returns id head others) = .ok (answers, otherFinal) ∧
      final.Twins pageSize id otherFinal := by
  induction elements generalizing pool other others answers with
  | nil =>
      cases List.length_eq_zero_iff.mp length.symm
      cases ran
      exact ⟨other, rfl, twins⟩
  | cons element rest induction =>
      cases others with
      | nil => cases length
      | cons otherElement otherRest =>
          rcases run_cons_eq_ok_iff.mp ran with ⟨answer, middle, later, applied, ranRest, rfl⟩
          rcases List.nodup_cons.mp nodup with ⟨once, restNodup⟩
          have effect := apply_eq_ok_iff.mp applied
          rcases twins.step effect (out otherElement List.mem_cons_self) with
            ⟨otherMiddle, otherEffect, still⟩
          have stillOut : ∀ kept ∈ otherRest, otherMiddle.IsOut id kept := by
            intro kept member
            have different : kept ≠ otherElement := ne_of_mem_of_not_mem member once
            exact (out kept (List.mem_cons_of_mem otherElement member)).kept twins.otherReachable
              different otherEffect
          rcases induction still (Nat.succ.inj length) restNodup stillOut ranRest with
            ⟨otherFinal, otherRan, finalTwins⟩
          have otherApplied := apply_eq_ok_iff.mpr otherEffect
          exact ⟨otherFinal,
            run_cons_eq_ok_iff.mpr ⟨answer, otherMiddle, later, otherApplied, otherRan, rfl⟩,
            finalTwins⟩

theorem eq_store {left otherLeft : Slab} (twins : pool.Twins pageSize id other)
    (live : pool.slab id = .ok left) (otherLive : other.slab id = .ok otherLeft)
    (sameOut : otherLeft.occupancy = left.occupancy) :
    other = pool.store id (.slab { left with hint := otherLeft.hint }) := by
  rcases twins.alike with ⟨slab, otherSlab, sameLive, alike, rfl⟩
  cases live.symm.trans sameLive
  cases otherLive.symm.trans (slab_book live otherSlab pool.counters)
  have otherSlab_eq := alike.eq
  rw [sameOut] at otherSlab_eq
  exact congrArg (fun slab => pool.book id slab pool.counters) otherSlab_eq

end Twins

theorem twins_self {pageSize : UInt64} (reachable : Reachable pageSize pool)
    (live : pool.slab id = .ok slab) : pool.Twins pageSize id pool where
  reachable := reachable
  otherReachable := reachable
  alike := ⟨slab, slab, live, ⟨rfl, rfl, rfl, rfl, rfl, rfl, rfl⟩, (book_self live).symm⟩

end Pool

/-- In a reachable pool, elements that are out can come back one after another under a head in one
order exactly if they can in any other. The answers are the same then, one by one, and so is the
pool in the end, but for the preference of the slab, which is the element that came back last. -/
theorem returned_in_any_order {pageSize : UInt64} {pool : Pool}
    (reachable : Reachable pageSize pool) {id head : Nat} {slab : Slab} {elements others : List Nat}
    (live : pool.slab id = .ok slab) (sized : slab.elementSize ≠ 0) (notEmpty : elements ≠ [])
    (nodup : elements.Nodup) (out : ∀ element ∈ elements, slab.isAllocated element = .ok true)
    (perm : elements.Perm others) :
    ((∃ answers final, pool.run (returns id head elements) = .ok (answers, final)) ↔
      ∃ answers final, pool.run (returns id head others) = .ok (answers, final)) ∧
    ∀ answers final otherAnswers otherFinal,
      pool.run (returns id head elements) = .ok (answers, final) →
      pool.run (returns id head others) = .ok (otherAnswers, otherFinal) →
      otherAnswers = answers ∧ ∃ left, final.slab id = .ok left ∧
        left.hint = elements.getLast? ∧
        otherFinal = final.store id (.slab { left with hint := others.getLast? }) := by
  have balanced := (reachable.balanced live).1
  have isOut (element : Nat) (member : element ∈ elements) : pool.IsOut id element := by
    have read := out element member
    rw [balanced.isAllocated_eq, Except.ok.injEq, decide_eq_true_iff] at read
    exact ⟨slab, live, read⟩
  have otherIsOut (element : Nat) (member : element ∈ others) : pool.IsOut id element :=
    isOut element (perm.mem_iff.mpr member)
  have twins := Pool.twins_self reachable live
  constructor
  · constructor
    · intro ⟨answers, final, ran⟩
      rcases twins.run perm.length_eq (perm.nodup_iff.mp nodup) otherIsOut ran with
        ⟨otherFinal, otherRan, _⟩
      exact ⟨answers, otherFinal, otherRan⟩
    · intro ⟨answers, final, ran⟩
      rcases twins.run perm.length_eq.symm nodup isOut ran with ⟨otherFinal, otherRan, _⟩
      exact ⟨answers, otherFinal, otherRan⟩
  · intro answers final otherAnswers otherFinal ran otherRan
    rcases twins.run perm.length_eq (perm.nodup_iff.mp nodup) otherIsOut ran with
      ⟨_, again, finalTwins⟩
    cases otherRan.symm.trans again
    rcases Pool.exists_regained_of_run live sized ran with ⟨left, leftLive, regained⟩
    rcases Pool.exists_regained_of_run live sized otherRan with
      ⟨otherLeft, otherLive, otherRegained⟩
    have othersNotEmpty : others ≠ [] := by
      intro empty
      rw [empty] at perm
      exact notEmpty perm.eq_nil
    have hint := regained.hint_of_ne_nil notEmpty
    have otherHint := otherRegained.hint_of_ne_nil othersNotEmpty
    have sameOut := regained.occupancy_eq_of_perm otherRegained perm
    have otherFinal_eq := finalTwins.eq_store leftLive otherLive sameOut
    rw [otherHint] at otherFinal_eq
    exact ⟨rfl, left, leftLive, hint, otherFinal_eq⟩

theorem returned_in_any_order_until_retired :
    ∃ answers pool slab final otherFinal,
      (Pool.empty 48).run [.newHead, .insert 0 7 0 16, .insert 0 8 48 16, .allocate 1, .allocate 1,
        .allocate 1] = .ok (answers, pool) ∧
      pool.slab 1 = .ok slab ∧ slab.available = 0 ∧
      pool.run (returns 1 0 [0, 2, 1]) = .ok ([.freed true, .freed true, .freed false], final) ∧
      pool.run (returns 1 0 [1, 0, 2]) =
        .ok ([.freed true, .freed true, .freed false], otherFinal) ∧
      ∃ left, final.slab 1 = .ok left ∧ left.hint = some 1 ∧ left.active = false ∧
        otherFinal = final.store 1 (.slab { left with hint := some 2 }) := by
  let exhausted : Slab :=
    { run := ⟨7, 0, 48⟩
      elementSize := 16
      capacity := 3
      active := true
      occupancy := ⟨#[7]⟩ }
  let other : Slab :=
    { run := ⟨8, 48, 48⟩
      elementSize := 16
      capacity := 3
      available := 3
      hint := some 0
      active := true
      occupancy := ⟨#[0]⟩
      prev := some 0
      next := some 0 }
  let pool : Pool :=
    { pageSize := 48
      slots := #[.head ⟨2, 2⟩, .slab exhausted, .slab other]
      counters := { activeSlabs := 2, allocations := 3 } }
  let retired : Slab :=
    { exhausted with available := 3, hint := some 1, active := false, occupancy := ⟨#[0]⟩ }
  let final : Pool :=
    { pageSize := 48
      slots := #[.head ⟨2, 2⟩, .slab retired, .slab other]
      counters := { activeSlabs := 1, allocations := 3, frees := 3, retirements := 1 } }
  have ran : (Pool.empty 48).run [.newHead, .insert 0 7 0 16, .insert 0 8 48 16, .allocate 1,
      .allocate 1, .allocate 1] =
        .ok ([.head 0, .inserted (some 1), .inserted (some 2),
          .allocated (some ⟨0x4000000000000007#64⟩), .allocated (some ⟨0x4000000100000007#64⟩),
          .allocated (some ⟨0x4000000200000007#64⟩)], pool) := by
    decide +kernel
  have live : pool.slab 1 = .ok exhausted := rfl
  have returned : pool.run (returns 1 0 [0, 2, 1]) =
      .ok ([.freed true, .freed true, .freed false], final) := by
    decide +kernel
  rcases returned_in_any_order (Reachable.empty.run ran) live (by decide)
    (List.cons_ne_nil 0 [2, 1]) (by decide) (by decide +kernel)
    (by decide : [0, 2, 1].Perm [1, 0, 2]) with ⟨both, same⟩
  rcases both.mp ⟨_, final, returned⟩ with ⟨otherAnswers, otherFinal, otherReturned⟩
  rcases same _ _ _ _ returned otherReturned with ⟨rfl, left, leftLive, hint, otherFinal_eq⟩
  have left_eq : left = retired := Except.ok.inj leftLive.symm
  have inactive : left.active = false := by rw [left_eq]
  exact ⟨_, pool, exhausted, final, otherFinal, ran, live, rfl, returned, otherReturned, left,
    leftLive, hint, inactive, otherFinal_eq⟩

end SlabRings
