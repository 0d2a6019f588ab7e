import SlabRings.Proofs.Client.Rules
import SlabRings.Proofs.Requests

/-!
# Clients that keep the rules

A pool in order can carry out every operation that the rules permit, as long as
its counters do not run over, and it is in order again afterwards. So a client
that keeps the rules meets no fault, however long it goes on, and everything it
reads on the way is there to be read.
-/

namespace SlabRings

open Checked (wordValues)

/-! ## What is known of a slab -/

namespace Pool.InOrder

variable {pool : Pool} {answers : List Answer} {lists : Lists} {steps id : Nat} {slab : Slab}

theorem balanced (inOrder : pool.InOrder answers lists steps) (live : pool.slab id = .ok slab) :
    slab.Balanced :=
  Slab.balanced_bare.mp (inOrder.sound id slab.bare (account_of_slab live)).1

theorem addressable (inOrder : pool.InOrder answers lists steps) (live : pool.slab id = .ok slab) :
    slab.capacity ≤ Handle.maxIndex + 1 := by
  have size : slab.run.size = pool.pageSize :=
    (inOrder.sound id slab.bare (account_of_slab live)).2
  have admitted : Run.Admits pool.pageSize slab.elementSize :=
    inOrder.admitted id slab.bare (account_of_slab live)
  exact (inOrder.balanced live).addressable (size ▸ admitted)

theorem next_ne_none_iff (inOrder : pool.InOrder answers lists steps)
    (live : pool.slab id = .ok slab) : slab.next ≠ none ↔ slab.Offered :=
  (inOrder.rings.next_ne_none_iff live).trans (inOrder.posted id slab.bare (account_of_slab live))

theorem one_le_activeSlabs (inOrder : pool.InOrder answers lists steps)
    (live : pool.slab id = .ok slab) (active : slab.active = true) :
    1 ≤ pool.counters.activeSlabs :=
  one_le_activeSlabs_of_counted inOrder.counted live active

end Pool.InOrder

/-! ## Steps that succeed -/

theorem Pool.Rings.exists_configure {pool : Pool} {lists : Lists} (rings : pool.Rings lists)
    {id head : Nat} {slab : Slab} (isHead : pool.IsHead head) (live : pool.slab id = .ok slab)
    (detached : slab.prev = none ∧ slab.next = none)
    (few : pool.counters.activeSlabs + 1 < wordValues) (elementSize : UInt64) :
    ∃ after, pool.configure id head elementSize = .ok after := by
  have counts : ∃ counters, pool.counters.activatedBy slab = .ok counters :=
    ⟨_, Counters.activatedBy_eq_ok_iff.mpr ⟨fun _ => few, rfl⟩⟩
  rcases counts with ⟨counters, counted⟩
  have booked := rings.book live (slab.divide elementSize) rfl rfl counters
  have stillHead := (booked.isHead_iff head).mpr ((rings.isHead_iff head).mp isHead)
  rcases booked.exists_link stillHead (slab_book live _ counters) detached with ⟨after, linked⟩
  exact ⟨after, configure_eq_ok_iff.mpr ⟨slab, counters, live, counted, linked⟩⟩

theorem Pool.Rings.exists_insert {pool : Pool} {lists : Lists} {vacant : List Nat}
    (rings : pool.Rings lists) (vacancies : pool.Vacancies vacant) {head : Nat}
    (isHead : pool.IsHead head) (few : pool.counters.activeSlabs + 1 < wordValues)
    {elementSize : UInt64} (admitted : Run.Admits pool.pageSize elementSize)
    (coordinate : UInt32) (offset : UInt64) :
    ∃ id after, pool.insert head coordinate offset elementSize = .ok (some id, after) := by
  let run : Run := ⟨coordinate, offset, pool.pageSize⟩
  rcases vacancies.exists_claim fun _ => .slab { run } with ⟨id, middle, claimed⟩
  rcases writes_claim claimed with ⟨writes, _, _, sameCounters, _⟩
  have made := rings.newSlab claimed
  have stillHead := (made.isHead_iff head).mpr ((rings.isHead_iff head).mp isHead)
  have live : middle.slab id = .ok { run } := slab_eq_ok_iff.mpr writes.written
  rw [← sameCounters] at few
  rcases made.exists_configure stillHead live ⟨rfl, rfl⟩ few elementSize with ⟨after, configured⟩
  exact ⟨id, after, insert_eq_ok_iff.mpr (.inserted admitted claimed configured)⟩

namespace Pool.InOrder

variable {pool : Pool} {answers : List Answer} {lists : Lists} {steps : Nat}

theorem exists_newHead (inOrder : pool.InOrder answers lists steps) :
    ∃ answer after, Effect pool .newHead answer after := by
  rcases inOrder.vacant with ⟨ids, vacancies⟩
  rcases vacancies.exists_claim fun id => .head ⟨id, id⟩ with ⟨id, after, claimed⟩
  exact ⟨_, after, .headMade claimed⟩

theorem exists_insert (inOrder : pool.InOrder answers lists steps)
    (short : steps + 1 < wordValues) {head : Nat} (isHead : pool.IsHead head)
    (coordinate : UInt32) (offset elementSize : UInt64) :
    ∃ answer after, Effect pool (.insert head coordinate offset elementSize) answer after := by
  by_cases admitted : Run.Admits pool.pageSize elementSize
  · rcases inOrder.vacant with ⟨ids, vacancies⟩
    have few : pool.counters.activeSlabs + 1 < wordValues := by
      have below := inOrder.below.activeSlabs_le
      omega
    rcases inOrder.rings.exists_insert vacancies isHead few admitted coordinate offset with
      ⟨id, after, inserted⟩
    exact ⟨_, after, insert_eq_ok_iff.mp inserted⟩
  · exact ⟨_, pool, .sizeRefused admitted⟩

theorem exists_allocate (inOrder : pool.InOrder answers lists steps)
    (short : steps + 1 < wordValues) {id : Nat} (isSlab : pool.IsSlab id) :
    ∃ answer after, Effect pool (.allocate id) answer after := by
  rcases isSlab with ⟨slab, live⟩
  have few : pool.counters.allocations + 1 < wordValues := by
    have below := inOrder.below.allocations_le
    omega
  by_cases unsized : slab.elementSize = 0
  · rcases slab.exists_handle (Nat.zero_le _) with ⟨handle, packed⟩
    exact ⟨_, pool, .unsizedGiven live unsized packed⟩
  by_cases serves : slab.CanServe
  · have offered : slab.Offered := ⟨serves.2.2, .inl serves.2.1⟩
    have linked := (inOrder.next_ne_none_iff live).mpr offered
    rcases inOrder.rings.exists_given live (inOrder.balanced live) serves
      (inOrder.addressable live) (fun _ => linked) few with ⟨handle, after, given⟩
    exact ⟨_, after, given⟩
  · exact ⟨_, pool, .nothingGiven live unsized serves⟩

theorem exists_free (inOrder : pool.InOrder answers lists steps) (short : steps + 1 < wordValues)
    {id head element : Nat} {slab : Slab} (isHead : pool.IsHead head)
    (live : pool.slab id = .ok slab)
    (allocated : slab.elementSize ≠ 0 → slab.isAllocated element = .ok true) :
    ∃ answer after, Effect pool (.free id head element) answer after := by
  have balanced := inOrder.balanced live
  have out (sized : slab.elementSize ≠ 0) : element ∈ slab.occupancy := by
    have read := allocated sized
    rwa [balanced.isAllocated_eq, Except.ok.injEq, decide_eq_true_iff] at read
  have below := inOrder.below
  have few : pool.counters.frees + 1 < wordValues := by
    have bound := below.frees_le
    omega
  have fewer : pool.counters.retirements + 1 < wordValues := by
    have bound := below.retirements_le
    omega
  have place (sized : slab.elementSize ≠ 0) (exhausted : slab.available = 0) :
      lists.Allows head id .join := by
    refine ⟨(inOrder.rings.isHead_iff head).mp isHead, ?_⟩
    intro other has
    have linked := (inOrder.rings.next_ne_none_iff live).mpr ⟨other, has⟩
    exact Slab.not_offered_of_exhausted sized exhausted
      ((inOrder.next_ne_none_iff live).mp linked)
  rcases inOrder.rings.exists_free live balanced out (inOrder.one_le_activeSlabs live) few fewer
    place with ⟨resident, after, freed⟩
  exact ⟨_, after, free_eq_ok_iff.mp freed⟩

theorem exists_destroy (inOrder : pool.InOrder answers lists steps) {id : Nat} {slab : Slab}
    (live : pool.slab id = .ok slab) (detached : slab.isLinked = .ok false) :
    ∃ answer after, Effect pool (.destroy id) answer after := by
  have counted := Counters.deactivatedBy_eq_ok_iff.mpr ⟨inOrder.one_le_activeSlabs live, rfl⟩
  exact ⟨_, _, .destroyed live detached counted⟩

theorem exists_effect (inOrder : pool.InOrder answers lists steps) (short : steps + 1 < wordValues)
    {operation : Operation} (permitted : operation.Permitted pool answers) :
    ∃ answer after, Effect pool operation answer after := by
  cases operation with
  | newHead => exact inOrder.exists_newHead
  | insert head coordinate offset elementSize =>
      exact inOrder.exists_insert short (inOrder.known head permitted) _ _ _
  | configure id head elementSize =>
      rcases permitted with ⟨answered, _, slab, live, detached⟩
      have few : pool.counters.activeSlabs + 1 < wordValues := by
        have below := inOrder.below.activeSlabs_le
        omega
      rcases inOrder.rings.exists_configure (inOrder.known head answered) live
        (Slab.detached_of_isLinked detached) few elementSize with ⟨after, configured⟩
      exact ⟨_, after, .configured configured⟩
  | allocate id => exact inOrder.exists_allocate short permitted
  | free id head element =>
      rcases permitted with ⟨answered, slab, live, allocated⟩
      exact inOrder.exists_free short (inOrder.known head answered) live allocated
  | link id head => exact permitted.elim
  | unlink id => exact permitted.elim
  | destroy id =>
      rcases permitted with ⟨slab, live, detached⟩
      exact inOrder.exists_destroy live detached

end Pool.InOrder

/-! ## What can be read -/

structure Slab.Readable (slab : Slab) : Prop where
  isLinked : ∃ linked, slab.isLinked = .ok linked
  isAllocated (element : Nat) : ∃ allocated, slab.isAllocated element = .ok allocated
  contains (element : Nat) : element < slab.capacity →
    ∃ allocated, slab.occupancy.contains element = .ok allocated
  handle (element : Nat) : element < slab.capacity → ∃ handle, slab.handle element = .ok handle
  used : ∃ used, slab.used = .ok used
  summary : ∃ text, slab.summary = .ok text
  elementOffset (element : Nat) : element < slab.capacity → slab.run.Fits →
    ∃ offset, slab.elementOffset element = .ok offset
  firstFree : slab.available ≠ 0 →
    ∃ element, slab.occupancy.firstFree slab.capacity = some element ∧
      element < slab.capacity ∧ element ∉ slab.occupancy

structure Pool.Readable (pool : Pool) (answers : List Answer) : Prop where
  ring (head : Nat) : .head head ∈ answers → ∃ ids, pool.ring head = .ok ids
  slab (id : Nat) (slab : Slab) : pool.slab id = .ok slab → slab.Readable

namespace Pool.InOrder

variable {pool : Pool} {answers : List Answer} {lists : Lists} {steps : Nat}

theorem readable_slab (inOrder : pool.InOrder answers lists steps) {id : Nat} {slab : Slab}
    (live : pool.slab id = .ok slab) : slab.Readable := by
  have balanced := inOrder.balanced live
  have addressable := inOrder.addressable live
  exact {
    isLinked := ⟨_, inOrder.rings.isLinked_eq live⟩
    isAllocated := fun element => ⟨_, balanced.isAllocated_eq element⟩
    contains := by
      intro element inRange
      have read := balanced.isAllocated_eq element
      rw [Slab.isAllocated, if_pos inRange] at read
      exact ⟨_, read⟩
    handle := by
      intro element inRange
      exact slab.exists_handle (by omega)
    used := ⟨_, balanced.used_eq⟩
    summary := by
      rw [Slab.summary, balanced.used_eq]
      split
      · exact ⟨_, rfl⟩
      · exact ⟨_, rfl⟩
    elementOffset := by
      intro element inRange fits
      exact balanced.exists_elementOffset fits inRange
    firstFree := by
      intro room
      rcases balanced.exists_firstFree room with ⟨element, found⟩
      have least := Occupancy.firstFree_eq_some_iff.mp found
      exact ⟨element, found, least.lt_limit, least.free⟩ }

theorem readable (inOrder : pool.InOrder answers lists steps) : pool.Readable answers where
  ring head answered := by
    rcases (inOrder.rings.isHead_iff head).mp (inOrder.known head answered) with ⟨ids, present⟩
    exact ⟨ids, inOrder.rings.ring_eq present⟩
  slab _ _ live := inOrder.readable_slab live

/-! ## Whole histories -/

theorem exists_run {operations : List Operation} (inOrder : pool.InOrder answers lists steps)
    (short : steps + operations.length < wordValues) (keeps : pool.KeepsRules answers operations) :
    ∃ given final after, pool.run operations = .ok (given, final) ∧
      final.InOrder (given.reverse ++ answers) after (steps + operations.length) := by
  induction operations generalizing pool answers lists steps with
  | nil => exact ⟨[], pool, lists, rfl, inOrder⟩
  | cons operation rest induction =>
      rw [List.length_cons] at short
      rcases inOrder.exists_effect (by omega) keeps.1 with ⟨answer, middle, effect⟩
      have applied := apply_eq_ok_iff.mpr effect
      have later := inOrder.step keeps.1 effect
      rcases induction later (by omega) (keeps.2 answer middle applied) with
        ⟨given, final, after, ran, ends⟩
      refine ⟨answer :: given, final, after, ?_, ?_⟩
      · exact run_cons_eq_ok_iff.mpr ⟨answer, middle, given, applied, ran, rfl⟩
      · rw [List.reverse_cons, List.append_assoc, List.length_cons, ← Nat.add_assoc,
          Nat.add_right_comm]
        exact ends

end Pool.InOrder

/-- A client that keeps the rules meets no fault, in what it does or in what it reads
after any number of its operations. -/
theorem rules_prevent_faults {pageSize : UInt64} {operations : List Operation}
    (short : operations.length < wordValues)
    (keeps : (Pool.empty pageSize).KeepsRules [] operations) (count : Nat) :
    ∃ answers pool, (Pool.empty pageSize).run (operations.take count) = .ok (answers, pool) ∧
      pool.Readable answers := by
  have fits : 0 + (operations.take count).length < wordValues := by
    rw [Nat.zero_add]
    exact Nat.lt_of_le_of_lt (List.length_take_le' count operations) short
  rcases (Pool.inOrder_empty pageSize).exists_run fits (keeps.take count) with
    ⟨answers, pool, _, ran, inOrder⟩
  refine ⟨answers, pool, ran, ?_, inOrder.readable.slab⟩
  intro head answered
  exact inOrder.readable.ring head (by simpa using answered)

theorem rules_prevent_faults_until_destroyed :
    (Pool.empty 64).KeepsRules [] [.newHead, .insert 0 5 0 32, .insert 0 6 64 64, .allocate 1,
        .free 1 0 0, .configure 1 0 16, .allocate 1, .free 1 0 0, .destroy 1] ∧
      ∃ answers pool, (Pool.empty 64).run [.newHead, .insert 0 5 0 32, .insert 0 6 64 64,
        .allocate 1, .free 1 0 0, .configure 1 0 16, .allocate 1, .free 1 0 0, .destroy 1] =
          .ok (answers, pool) ∧ pool.Readable answers := by
  have keeps : (Pool.empty 64).KeepsRules [] [.newHead, .insert 0 5 0 32, .insert 0 6 64 64,
      .allocate 1, .free 1 0 0, .configure 1 0 16, .allocate 1, .free 1 0 0, .destroy 1] := by
    decide +kernel
  exact ⟨keeps, rules_prevent_faults (by decide) keeps 9⟩

end SlabRings
