import SlabRings.Proofs.Residence
import SlabRings.Proofs.Tracking

/-!
# Elements that cannot come back

What can be wrong with giving an element back is listed in full, each with the
fault that it meets. Nothing else stops an element: the counters have room as
long as fewer elements came back than a word can count, and the slab finds its
place on the rings, or leaves them, without a fault.
-/

namespace SlabRings

open Checked (bind_eq_ok_iff wordValues)

/-! ## How many came back -/

def Operation.isFree : Operation → Bool
  | .free _ _ _ => true
  | _ => false

theorem Transition.returned_le (transition : Transition) :
    transition.returned ≤ if transition.operation.isFree then 1 else 0 := by
  rcases transition with ⟨before, operation, answer, after⟩
  cases operation with
  | free id head element =>
      simp only [returned, Operation.isFree, if_true]
      split <;> decide
  | _ => exact Nat.zero_le _

theorem Pool.Effect.retirements_le {before after : Pool} {operation : Operation} {answer : Answer}
    (effect : Effect before operation answer after) :
    Transition.retirements ⟨before, operation, answer, after⟩ ≤
      Transition.returned ⟨before, operation, answer, after⟩ := by
  cases effect with
  | retired live sized =>
      simp [Transition.retirements, Transition.returned, isSized_account live, sized]
  | _ => exact Nat.zero_le _

theorem Reachable.retirements_le_frees {pageSize : UInt64} {pool : Pool}
    (reachable : Reachable pageSize pool) : pool.counters.retirements ≤ pool.counters.frees := by
  induction reachable with
  | empty => exact Nat.le_refl 0
  | step _ applied induction =>
      have effect := Pool.apply_eq_ok_iff.mp applied
      rw [effect.retirements, effect.frees]
      exact Nat.add_le_add induction effect.retirements_le

theorem Pool.frees_le_of_run {pool final : Pool} {operations : List Operation}
    {answers : List Answer} (ran : pool.run operations = .ok (answers, final)) :
    final.counters.frees ≤ pool.counters.frees + operations.countP Operation.isFree := by
  induction operations generalizing pool answers with
  | nil =>
      cases ran
      exact Nat.le_refl _
  | cons operation rest induction =>
      rcases run_cons_eq_ok_iff.mp ran with ⟨answer, middle, others, applied, restRan, _⟩
      have counted := (apply_eq_ok_iff.mp applied).frees
      have one := Transition.returned_le ⟨pool, operation, answer, middle⟩
      have later := induction restRan
      rw [List.countP_cons]
      dsimp only at one
      omega

/-! ## Misuse -/

namespace Pool

/-- What is wrong with giving an element back, and the fault that it meets. -/
inductive Misuse (pool : Pool) (id head element : Nat) : Fault → Prop where
  | notSlab (absent : ¬pool.IsSlab id) : Misuse pool id head element (.notSlab id)
  | beyondCapacity {slab : Slab} (live : pool.slab id = .ok slab) (sized : slab.elementSize ≠ 0)
      (beyond : slab.capacity ≤ element) :
      Misuse pool id head element (.beyondCapacity element slab.run.coordinate)
  | notAllocated {slab : Slab} (live : pool.slab id = .ok slab) (sized : slab.elementSize ≠ 0)
      (inRange : element < slab.capacity) (absent : slab.isAllocated element = .ok false) :
      Misuse pool id head element (.notAllocated element)
  | notHead {slab : Slab} {fault : Fault} (live : pool.slab id = .ok slab)
      (sized : slab.elementSize ≠ 0) (out : slab.isAllocated element = .ok true)
      (exhausted : slab.available = 0) (notHead : pool.head head = .error fault) :
      Misuse pool id head element fault
  | alreadyLinked {slab : Slab} (live : pool.slab id = .ok slab) (sized : slab.elementSize ≠ 0)
      (out : slab.isAllocated element = .ok true) (exhausted : slab.available = 0)
      (isHead : pool.IsHead head) (linked : slab.isLinked = .ok true) :
      Misuse pool id head element (.alreadyLinked id)

theorem slab_eq_error {pool : Pool} {id : Nat} (absent : ¬pool.IsSlab id) :
    pool.slab id = .error (.notSlab id) := by
  cases found : pool.slab id with
  | ok slab => exact absurd ⟨slab, found⟩ absent
  | error fault =>
      unfold Pool.slab at found
      split at found <;> cases found
      rfl

theorem head_book {pool : Pool} {id : Nat} {old : Slab} (live : pool.slab id = .ok old)
    (new : Slab) (counters : Counters) (head : Nat) :
    (pool.book id new counters).head head = pool.head head := by
  have writes := writes_book live new counters
  have stored := slab_eq_ok_iff.mp live
  have size : (pool.book id new counters).slots.size = pool.slots.size := size_store _ _ _
  by_cases same : head = id
  · rw [same, Pool.head, Pool.head, writes.written, stored]
  · rw [Pool.head, Pool.head, writes.kept head same, size]

theorem free_eq_error_of_link {pool : Pool} {id head element : Nat} {slab released : Slab}
    {fault : Fault} (live : pool.slab id = .ok slab) (sized : slab.elementSize ≠ 0)
    (releases : slab.release element = .ok released) (exhausted : slab.available = 0)
    (few : pool.counters.frees + 1 < wordValues)
    (fails : (pool.book id released
      { pool.counters with frees := pool.counters.frees + 1 }).link id head = .error fault) :
    pool.free id head element = .error fault := by
  have counted := Counters.freed_eq_ok_iff.mpr ⟨few, rfl⟩
  have tallied : (pool.store id (.slab released)).tally Counters.freed =
      .ok (pool.book id released { pool.counters with frees := pool.counters.frees + 1 }) :=
    tally_store_eq_ok_iff.mpr ⟨_, counted, rfl⟩
  rw [free, live]
  change (if slab.elementSize = 0 then _ else _) = _
  rw [if_neg sized, releases]
  change ((pool.store id (.slab released)).tally Counters.freed >>= _) = _
  rw [tallied]
  change (if slab.available = 0 then _ else _) = _
  rw [if_pos exhausted, fails]
  rfl

theorem Misuse.free_eq {pageSize : UInt64} {pool : Pool} {id head element : Nat} {fault : Fault}
    (reachable : Reachable pageSize pool) (few : pool.counters.frees + 1 < wordValues)
    (misuse : pool.Misuse id head element fault) : pool.free id head element = .error fault := by
  cases misuse with
  | notSlab absent =>
      rw [free, slab_eq_error absent]
      rfl
  | @beyondCapacity slab live sized beyond =>
      have balanced := (reachable.balanced live).1
      have absent : element ∉ slab.occupancy := fun member =>
        Nat.not_lt_of_le beyond (balanced.lt_capacity element member)
      rw [free_eq_of_not_mem live sized balanced absent, if_neg (Nat.not_lt_of_le beyond)]
  | notAllocated live sized inRange absent =>
      have balanced := (reachable.balanced live).1
      rw [balanced.isAllocated_eq, Except.ok.injEq, decide_eq_false_iff_not] at absent
      rw [free_eq_of_not_mem live sized balanced absent, if_pos inRange]
  | notHead live sized out exhausted notHead =>
      have balanced := (reachable.balanced live).1
      rw [balanced.isAllocated_eq, Except.ok.injEq, decide_eq_true_iff] at out
      rcases balanced.exists_release out with ⟨released, releases⟩
      apply free_eq_error_of_link live sized releases exhausted few
      rw [link, head_book live, notHead]
      rfl
  | alreadyLinked live sized out exhausted isHead linked =>
      have balanced := (reachable.balanced live).1
      rw [balanced.isAllocated_eq, Except.ok.injEq, decide_eq_true_iff] at out
      rcases balanced.exists_release out with ⟨released, releases⟩
      rcases isHead with ⟨neighbours, isHead⟩
      have attached : ¬(released.prev = none ∧ released.next = none) := by
        rw [(Slab.links_of_release releases).1]
        intro detached
        have both := (Slab.isLinked_eq_ok_iff.mp linked).1
        rw [detached.1] at both
        cases both
      apply free_eq_error_of_link live sized releases exhausted few
      rw [link, head_book live, isHead]
      change ((pool.book id released _).slab id >>= _) = _
      rw [slab_book live]
      change (if released.prev = none ∧ released.next = none then _ else _) = _
      rw [if_neg attached]

theorem exists_free_or_misuse {pageSize : UInt64} {pool : Pool} (reachable : Reachable pageSize pool)
    (few : pool.counters.frees + 1 < wordValues) (id head element : Nat) :
    (∃ resident after, pool.free id head element = .ok (resident, after)) ∨
      ∃ fault, pool.Misuse id head element fault := by
  rcases reachable.exists_rings with ⟨lists, rings⟩
  have fewer : pool.counters.retirements + 1 < wordValues := by
    have bound := reachable.retirements_le_frees
    omega
  by_cases isSlab : pool.IsSlab id
  · rcases isSlab with ⟨slab, live⟩
    have balanced := (reachable.balanced live).1
    have counted := one_le_activeSlabs_of_counted reachable.activeSlabs_eq_total live
    by_cases absent : slab.elementSize ≠ 0 ∧ element ∉ slab.occupancy
    · right
      by_cases inRange : element < slab.capacity
      · have free : slab.isAllocated element = .ok false := by
          rw [balanced.isAllocated_eq, decide_eq_false absent.2]
        exact ⟨_, .notAllocated live absent.1 inRange free⟩
      · exact ⟨_, .beyondCapacity live absent.1 (Nat.le_of_not_lt inRange)⟩
    have out : slab.elementSize ≠ 0 → element ∈ slab.occupancy := by
      intro sized
      by_contra missing
      exact absent ⟨sized, missing⟩
    -- Only an exhausted slab has to be linked when the element comes back.
    by_cases crowded : slab.elementSize ≠ 0 ∧ slab.available = 0
    · rcases crowded with ⟨sized, exhausted⟩
      have allocated : slab.isAllocated element = .ok true := by
        rw [balanced.isAllocated_eq, decide_eq_true (out sized)]
      cases isHead : pool.head head with
      | error fault => exact .inr ⟨_, .notHead live sized allocated exhausted isHead⟩
      | ok neighbours =>
          by_cases linked : slab.next = none
          · left
            apply rings.exists_free live balanced out counted few fewer
            intro _ _
            refine ⟨(rings.isHead_iff head).mp ⟨neighbours, isHead⟩, ?_⟩
            intro other has
            exact (rings.next_ne_none_iff live).mpr ⟨other, has⟩ linked
          · right
            have attached : slab.isLinked = .ok true := by
              rw [rings.isLinked_eq live, Option.isSome_iff_ne_none.mpr linked]
            exact ⟨_, .alreadyLinked live sized allocated exhausted ⟨neighbours, isHead⟩ attached⟩
    · left
      apply rings.exists_free live balanced out counted few fewer
      intro sized exhausted
      exact absurd ⟨sized, exhausted⟩ crowded
  · exact .inr ⟨_, .notSlab isSlab⟩

theorem free_eq_error_iff {pageSize : UInt64} {pool : Pool} (reachable : Reachable pageSize pool)
    (few : pool.counters.frees + 1 < wordValues) {id head element : Nat} {fault : Fault} :
    pool.free id head element = .error fault ↔ pool.Misuse id head element fault := by
  constructor
  · intro fails
    rcases exists_free_or_misuse reachable few id head element with
      ⟨resident, after, freed⟩ | ⟨other, misuse⟩
    · rw [freed] at fails
      cases fails
    · rw [misuse.free_eq reachable few] at fails
      cases fails
      exact misuse
  · exact Misuse.free_eq reachable few

theorem exists_misuse_iff {pageSize : UInt64} {pool : Pool} (reachable : Reachable pageSize pool)
    {id head element : Nat} :
    (∃ fault, pool.Misuse id head element fault) ↔
      ¬pool.IsSlab id ∨ ∃ slab, pool.slab id = .ok slab ∧ slab.elementSize ≠ 0 ∧
        (slab.capacity ≤ element ∨
          (element < slab.capacity ∧ slab.isAllocated element = .ok false) ∨
          (slab.available = 0 ∧ ¬pool.IsHead head) ∨
          (slab.available = 0 ∧ slab.isLinked = .ok true)) := by
  constructor
  · intro ⟨fault, misuse⟩
    cases misuse with
    | notSlab absent => exact .inl absent
    | beyondCapacity live sized beyond => exact .inr ⟨_, live, sized, .inl beyond⟩
    | notAllocated live sized inRange absent =>
        exact .inr ⟨_, live, sized, .inr (.inl ⟨inRange, absent⟩)⟩
    | notHead live sized _ exhausted notHead =>
        refine .inr ⟨_, live, sized, .inr (.inr (.inl ⟨exhausted, ?_⟩))⟩
        intro ⟨neighbours, isHead⟩
        rw [isHead] at notHead
        cases notHead
    | alreadyLinked live sized _ exhausted _ linked =>
        exact .inr ⟨_, live, sized, .inr (.inr (.inr ⟨exhausted, linked⟩))⟩
  · rintro (absent | ⟨slab, live, sized, wrong⟩)
    · exact ⟨_, .notSlab absent⟩
    have read := (reachable.balanced live).1.isAllocated_eq element
    by_cases inRange : element < slab.capacity
    · by_cases member : element ∈ slab.occupancy
      · rw [decide_eq_true member] at read
        have crowded : slab.available = 0 ∧ (¬pool.IsHead head ∨ slab.isLinked = .ok true) := by
          rcases wrong with beyond | ⟨_, absent⟩ | ⟨exhausted, notHead⟩ | ⟨exhausted, linked⟩
          · exact absurd inRange (Nat.not_lt_of_le beyond)
          · rw [read] at absent
            cases absent
          · exact ⟨exhausted, .inl notHead⟩
          · exact ⟨exhausted, .inr linked⟩
        cases isHead : pool.head head with
        | error fault => exact ⟨_, .notHead live sized read crowded.1 isHead⟩
        | ok neighbours =>
            have known : pool.IsHead head := ⟨neighbours, isHead⟩
            have linked := crowded.2.resolve_left (not_not.mpr known)
            exact ⟨_, .alreadyLinked live sized read crowded.1 known linked⟩
      · rw [decide_eq_false member] at read
        exact ⟨_, .notAllocated live sized inRange read⟩
    · exact ⟨_, .beyondCapacity live sized (Nat.le_of_not_lt inRange)⟩

end Pool

/-! ## Elements that came back, and slabs that were given up -/

theorem Accounts.Step.account_of_free {pageSize : UInt64} {accounts settled : Accounts}
    {id head element : Nat} {resident : Bool} {slab : Slab}
    (step : Step pageSize accounts (.free id head element) (.freed resident) settled)
    (live : accounts id = some slab) (sized : slab.elementSize ≠ 0) :
    ∃ left, settled id = some left ∧ left.elementSize ≠ 0 ∧ element < left.capacity ∧
      element ∉ left.occupancy := by
  cases step with
  | unsizedReturned present unsized =>
      cases live.symm.trans present
      exact absurd unsized sized
  | returned present _ releases | retired present _ releases _ _ =>
      cases live.symm.trans present
      rcases Slab.release_eq_ok_iff.mp releases with ⟨inRange, shrunk, shrinks, _, rfl⟩
      refine ⟨_, set_same _ _ _, sized, inRange, ?_⟩
      intro stillOut
      exact ((Occupancy.mem_iff_of_erase shrinks element).mp stillOut).1 rfl

namespace Pool

theorem free_again_eq {pageSize : UInt64} {before after : Pool} {id head element : Nat}
    {resident : Bool} {slab : Slab} (reachable : Reachable pageSize before)
    (live : before.slab id = .ok slab) (sized : slab.elementSize ≠ 0)
    (freed : before.free id head element = .ok (resident, after)) (other : Nat) :
    after.free id other element = .error (.notAllocated element) := by
  have effect := free_eq_ok_iff.mp freed
  rcases effect.accounts.account_of_free (account_of_slab live) sized with
    ⟨account, present, stillSized, inRange, absent⟩
  rcases account_eq_some_iff.mp present with ⟨left, leftLive, rfl⟩
  have balanced := ((reachable.step (apply_eq_ok_iff.mpr effect)).balanced leftLive).1
  rw [free_eq_of_not_mem leftLive stillSized balanced absent]
  exact congrArg Except.error (if_pos inRange)

theorem exists_free_of_spare {pageSize : UInt64} {pool : Pool} {id element : Nat} {slab : Slab}
    (reachable : Reachable pageSize pool) (few : pool.counters.frees + 1 < wordValues)
    (live : pool.slab id = .ok slab) (spare : pool.Spare id element slab) (head : Nat) :
    ∃ after, pool.free id head element = .ok (false, after) := by
  have balanced := (reachable.balanced live).1
  have room := (balanced.available_ne_zero_iff_of_elements_eq
    (balanced.elements_eq_singleton_iff.mpr spare.only_out)).mpr spare.two_le_capacity
  have out := spare.only_out element
  rw [decide_eq_true rfl] at out
  rcases exists_free_or_misuse reachable few id head element with
    ⟨resident, after, freed⟩ | ⟨fault, misuse⟩
  · rw [(resident_eq_false_iff reachable live freed).mpr spare] at freed
    exact ⟨after, freed⟩
  · exfalso
    cases misuse with
    | notSlab absent => exact absent ⟨slab, live⟩
    | beyondCapacity stored _ beyond =>
        cases live.symm.trans stored
        rw [balanced.isAllocated_eq, Except.ok.injEq, decide_eq_true_iff] at out
        exact Nat.not_lt_of_le beyond (balanced.lt_capacity element out)
    | notAllocated stored _ _ absent =>
        cases live.symm.trans stored
        rw [out] at absent
        cases absent
    | notHead stored _ _ exhausted _ | alreadyLinked stored _ _ exhausted _ _ =>
        cases live.symm.trans stored
        exact room exhausted

/-- Giving the element back faults exactly on misuse, tells what is wrong with the element, and
gives up a slab that need not stay without a fault. -/
structure CatchesMisuse (pool : Pool) (id head element : Nat) : Prop where
  faults_iff : (∃ fault, pool.free id head element = .error fault) ↔
    ¬pool.IsSlab id ∨ ∃ slab, pool.slab id = .ok slab ∧ slab.elementSize ≠ 0 ∧
      (slab.capacity ≤ element ∨
        (element < slab.capacity ∧ slab.isAllocated element = .ok false) ∨
        (slab.available = 0 ∧ ¬pool.IsHead head) ∨
        (slab.available = 0 ∧ slab.isLinked = .ok true))
  fault_iff (fault : Fault) :
    pool.free id head element = .error fault ↔ pool.Misuse id head element fault
  out_of_range (slab : Slab) : pool.slab id = .ok slab → slab.elementSize ≠ 0 →
    slab.capacity ≤ element → ∃ fault, pool.free id head element = .error fault ∧
      fault.message = s!"element {element} out of range for slab {slab.run.coordinate.toNat}"
  not_out (slab : Slab) : pool.slab id = .ok slab → slab.elementSize ≠ 0 →
    element < slab.capacity → slab.isAllocated element = .ok false →
      ∃ fault, pool.free id head element = .error fault ∧
        fault.message = s!"element {element} is not allocated"
  out_of_service (slab : Slab) : pool.slab id = .ok slab → slab.active = false →
    ∃ fault, pool.free id head element = .error fault
  twice (slab : Slab) (resident : Bool) (after : Pool) : pool.slab id = .ok slab →
    slab.elementSize ≠ 0 → pool.free id head element = .ok (resident, after) →
      ∀ other, after.free id other element = .error (.notAllocated element)
  given_up (slab : Slab) : pool.slab id = .ok slab → pool.Spare id element slab →
    ∃ after, pool.free id head element = .ok (false, after)

end Pool

/-- After any history in which fewer elements came back than a word can count, an element comes
back unless something is wrong, and what is wrong is always caught. -/
theorem misuse_caught {pageSize : UInt64} {operations : List Operation} {answers : List Answer}
    {pool : Pool} (ran : (Pool.empty pageSize).run operations = .ok (answers, pool))
    (short : operations.countP Operation.isFree < wordValues - 1) (id head element : Nat) :
    pool.CatchesMisuse id head element := by
  have reachable := Reachable.empty.run ran
  have few : pool.counters.frees + 1 < wordValues := by
    have bound := Pool.frees_le_of_run ran
    have start : (Pool.empty pageSize).counters.frees = 0 := rfl
    omega
  have caught {fault : Fault} (misuse : pool.Misuse id head element fault) :
      pool.free id head element = .error fault :=
    misuse.free_eq reachable few
  exact {
    faults_iff := by
      simp only [Pool.free_eq_error_iff reachable few]
      exact Pool.exists_misuse_iff reachable
    fault_iff := fun _ => Pool.free_eq_error_iff reachable few
    out_of_range := by
      intro slab live sized beyond
      exact ⟨_, caught (.beyondCapacity live sized beyond), rfl⟩
    not_out := by
      intro slab live sized inRange absent
      exact ⟨_, caught (.notAllocated live sized inRange absent), rfl⟩
    out_of_service := by
      intro slab live inactive
      exact ⟨_, (Pool.outOfService live (reachable.retired live inactive)).free_eq head element⟩
    twice := by
      intro slab resident after live sized freed
      exact Pool.free_again_eq reachable live sized freed
    given_up := by
      intro slab live spare
      exact Pool.exists_free_of_spare reachable few live spare head }

/-- An exhausted slab that was put back on its ring by hand cannot take its element back. The other
slab is given up, with no head named, and takes nothing back then. -/
theorem misuse_caught_beside_exhausted :
    ∃ answers pool retired outOfRange notOut,
      (Pool.empty 32).run [.newHead, .insert 0 5 0 32, .insert 0 6 32 16, .allocate 1, .link 1 0,
        .allocate 2] = .ok (answers, pool) ∧
      pool.free 1 0 0 = .error (.alreadyLinked 1) ∧ pool.free 1 2 0 = .error (.notHead 2) ∧
      pool.free 7 0 0 = .error (.notSlab 7) ∧
      pool.free 2 0 5 = .error outOfRange ∧
      outOfRange.message = "element 5 out of range for slab 6" ∧
      pool.free 2 0 1 = .error notOut ∧ notOut.message = "element 1 is not allocated" ∧
      pool.free 2 9 0 = .ok (false, retired) ∧ retired.free 2 0 0 = .error (.notAllocated 0) := by
  let exhausted : Slab :=
    { run := ⟨5, 0, 32⟩
      elementSize := 32
      capacity := 1
      active := true
      occupancy := ⟨#[1]⟩
      prev := some 0
      next := some 2 }
  let used : Slab :=
    { run := ⟨6, 32, 32⟩
      elementSize := 16
      capacity := 2
      available := 1
      active := true
      occupancy := ⟨#[1]⟩
      prev := some 1
      next := some 0 }
  let pool : Pool :=
    { pageSize := 32
      slots := #[.head ⟨2, 1⟩, .slab exhausted, .slab used]
      counters := { activeSlabs := 2, allocations := 2 } }
  have ran : (Pool.empty 32).run [.newHead, .insert 0 5 0 32, .insert 0 6 32 16, .allocate 1,
      .link 1 0, .allocate 2] =
        .ok ([.head 0, .inserted (some 1), .inserted (some 2),
          .allocated (some ⟨0x4000000000000005#64⟩), .done,
          .allocated (some ⟨0x4000000000000006#64⟩)], pool) := by
    decide +kernel
  have caught := misuse_caught ran (by decide +kernel)
  have liveExhausted : pool.slab 1 = .ok exhausted := rfl
  have live : pool.slab 2 = .ok used := rfl
  have linked : pool.Misuse 1 0 0 (.alreadyLinked 1) :=
    .alreadyLinked liveExhausted (by decide) (by decide +kernel) rfl ⟨⟨2, 1⟩, rfl⟩ rfl
  have noHead : pool.Misuse 1 2 0 (.notHead 2) :=
    .notHead liveExhausted (by decide) (by decide +kernel) rfl rfl
  have noSlab : pool.Misuse 7 0 0 (.notSlab 7) := .notSlab fun ⟨_, impossible⟩ => by
    cases impossible
  have ring : pool.ring 0 = .ok [1, 2] := by decide +kernel
  have spare : pool.Spare 2 0 used := by
    refine ⟨by decide, ?_, Nat.le_refl 2, 0, [1, 2], ring, by decide, 1, by decide, by decide⟩
    have balanced := ((Reachable.empty.run ran).balanced live).1
    apply balanced.elements_eq_singleton_iff.mp
    decide +kernel
  rcases (caught 2 0 5).out_of_range used live (by decide) (by decide) with
    ⟨outOfRange, beyond, outOfRangeText⟩
  rcases (caught 2 0 1).not_out used live (by decide) (by decide) (by decide +kernel) with
    ⟨notOut, absent, notOutText⟩
  rcases (caught 2 9 0).given_up used live spare with ⟨retired, freed⟩
  exact ⟨_, pool, retired, outOfRange, notOut, ran, ((caught 1 0 0).fault_iff _).mpr linked,
    ((caught 1 2 0).fault_iff _).mpr noHead, ((caught 7 0 0).fault_iff _).mpr noSlab, beyond,
    outOfRangeText.trans (by decide +kernel), absent, notOutText.trans (by decide +kernel), freed,
    (caught 2 9 0).twice used false retired live (by decide) freed 0⟩

end SlabRings
