import Mathlib.Order.Interval.Finset.Nat
import SlabRings.Proofs.Pool.Accounts
import SlabRings.Proofs.Transitions

/-!
# Where elements lie

A client gives a slab its run, and the slab computes the place of each element
in it. Where the runs that were given end within the addresses and do not
overlap, every element has a place, lies within the run of its slab, and shares
no byte with any other element, however often the slabs were divided anew.
-/

namespace SlabRings

open Checked (bind_eq_ok_iff wordValues)

/-! ## Bytes -/

theorem disjoint_Ico_of_le {start finish first last : Nat} (before : finish ≤ first) :
    Disjoint (Finset.Ico start finish) (Finset.Ico first last) := by
  rw [Finset.disjoint_left]
  intro byte member laterMember
  rw [Finset.mem_Ico] at member laterMember
  omega

def Run.bytes (run : Run) : Finset Nat :=
  Finset.Ico run.offset.toNat (run.offset.toNat + run.size.toNat)

namespace Slab

def elementBytes (slab : Slab) (element : Nat) : Except Fault (Finset Nat) := do
  let place ← slab.elementOffset element
  return Finset.Ico place (place + slab.elementSize.toNat)

theorem elementBytes_eq_ok_iff {slab : Slab} {element : Nat} {bytes : Finset Nat} :
    slab.elementBytes element = .ok bytes ↔
      ∃ place, slab.elementOffset element = .ok place ∧
        bytes = Finset.Ico place (place + slab.elementSize.toNat) := by
  simp only [elementBytes, bind_eq_ok_iff, pure, Except.pure, Except.ok.injEq, @eq_comm _ bytes]

theorem place_of_elementOffset {slab : Slab} {element place : Nat}
    (placed : slab.elementOffset element = .ok place) :
    place = slab.run.offset.toNat + element * slab.elementSize.toNat := by
  rcases bind_eq_ok_iff.mp placed with ⟨distance, multiplied, added⟩
  rcases Checked.mul_eq_ok_iff.mp multiplied with ⟨_, rfl⟩
  exact (Checked.add_eq_ok_iff.mp added).2

theorem Balanced.exists_elementBytes {slab : Slab} (balanced : slab.Balanced) {element : Nat}
    (fits : slab.run.Fits) (inRange : element < slab.capacity) :
    ∃ bytes, slab.elementBytes element = .ok bytes ∧ bytes ⊆ slab.run.bytes := by
  rcases balanced.exists_elementOffset fits inRange with ⟨place, placed⟩
  have within := balanced.end_le_size inRange
  refine ⟨_, elementBytes_eq_ok_iff.mpr ⟨place, placed, rfl⟩, ?_⟩
  rw [place_of_elementOffset placed]
  apply Finset.Ico_subset_Ico
  · exact Nat.le_add_right _ _
  · omega

private theorem disjoint_elementBytes_of_lt {slab : Slab} {element later : Nat}
    {bytes laterBytes : Finset Nat} (before : element < later)
    (placed : slab.elementBytes element = .ok bytes)
    (laterPlaced : slab.elementBytes later = .ok laterBytes) : Disjoint bytes laterBytes := by
  rcases elementBytes_eq_ok_iff.mp placed with ⟨place, computed, rfl⟩
  rcases elementBytes_eq_ok_iff.mp laterPlaced with ⟨laterPlace, laterComputed, rfl⟩
  have further : element * slab.elementSize.toNat + slab.elementSize.toNat ≤
      later * slab.elementSize.toNat := by
    rw [← Nat.succ_mul]
    exact Nat.mul_le_mul_right _ before
  apply disjoint_Ico_of_le
  rw [place_of_elementOffset computed, place_of_elementOffset laterComputed]
  omega

theorem disjoint_elementBytes {slab : Slab} {element other : Nat} {bytes otherBytes : Finset Nat}
    (different : element ≠ other) (placed : slab.elementBytes element = .ok bytes)
    (otherPlaced : slab.elementBytes other = .ok otherBytes) : Disjoint bytes otherBytes := by
  rcases Nat.lt_or_gt_of_ne different with before | after
  · exact disjoint_elementBytes_of_lt before placed otherPlaced
  · exact (disjoint_elementBytes_of_lt after otherPlaced placed).symm

end Slab

/-! ## The runs that a client gave -/

/-- The runs of the live slabs, as a client gives them and gets them back. -/
def Transition.entrust (runs : Nat → Option Run) (transition : Transition) : Nat → Option Run :=
  match transition.operation, transition.answer with
  | .insert _ coordinate offset _, .inserted (some id) =>
      Function.update runs id (some ⟨coordinate, offset, transition.before.pageSize⟩)
  | .destroy id, _ => Function.update runs id none
  | _, _ => runs

def runsGiven (pageSize : UInt64) (operations : List Operation) : Nat → Option Run :=
  ((Pool.empty pageSize).transitions operations).foldl Transition.entrust fun _ => none

namespace Accounts

def runs (accounts : Accounts) (id : Nat) : Option Run :=
  (accounts id).map Slab.run

theorem runs_set (accounts : Accounts) (id : Nat) (account : Option Slab) :
    (accounts.set id account).runs = Function.update accounts.runs id (account.map Slab.run) := by
  funext other
  by_cases same : other = id
  · subst same
    simp [runs]
  · simp [runs, set_other accounts same, same]

theorem runs_set_of_live {accounts : Accounts} {id : Nat} {old new : Slab}
    (live : accounts id = some old) (same : new.run = old.run) :
    (accounts.set id (some new)).runs = accounts.runs := by
  have recorded : accounts.runs id = some new.run := by rw [runs, live, same, Option.map_some]
  rw [runs_set, Option.map_some, ← recorded, Function.update_eq_self]

theorem Step.runs {accounts settled : Accounts} {operation : Operation} {answer : Answer}
    {before after : Pool} (step : Step before.pageSize accounts operation answer settled) :
    settled.runs = Transition.entrust accounts.runs ⟨before, operation, answer, after⟩ := by
  cases step with
  | headMade | sizeRefused | unsizedGiven | nothingGiven | unsizedReturned | linked | unlinked =>
      rfl
  | inserted _ _ => exact runs_set _ _ _
  | configured live => exact runs_set_of_live live rfl
  | given live _ takes =>
      exact runs_set_of_live live (Slab.run_of_take (Slab.take_of_takeHandle takes).1)
  | returned live _ releases => exact runs_set_of_live live (Slab.run_of_release releases)
  | retired live _ releases _ _ =>
      have same := Slab.run_of_release releases
      exact runs_set_of_live live same
  | destroyed _ => exact runs_set _ _ none

end Accounts

theorem runs_eq_given {pageSize : UInt64} {operations : List Operation} {answers : List Answer}
    {pool : Pool} (ran : (Pool.empty pageSize).run operations = .ok (answers, pool)) :
    Accounts.runs pool.account = runsGiven pageSize operations := by
  refine Pool.observed Transition.entrust (fun runs pool => Accounts.runs pool.account = runs)
    ?_ rfl ran
  intro runs before operation answer after same effect
  rw [effect.accounts.runs, same]

/-! ## Elements apart -/

structure RunsApart (runs : Nat → Option Run) : Prop where
  fits (id : Nat) (run : Run) : runs id = some run → run.Fits
  disjoint (id other : Nat) (run otherRun : Run) : id ≠ other → runs id = some run →
    runs other = some otherRun → Disjoint run.bytes otherRun.bytes

structure Pool.ElementsApart (pool : Pool) (runs : Nat → Option Run) : Prop where
  within (id element : Nat) (slab : Slab) : pool.slab id = .ok slab → element < slab.capacity →
    ∃ run bytes, runs id = some run ∧ slab.elementBytes element = .ok bytes ∧ bytes ⊆ run.bytes
  disjoint (id other element otherElement : Nat) (slab otherSlab : Slab)
    (bytes otherBytes : Finset Nat) : (id, element) ≠ (other, otherElement) →
    pool.slab id = .ok slab → element < slab.capacity →
    pool.slab other = .ok otherSlab → otherElement < otherSlab.capacity →
    slab.elementBytes element = .ok bytes → otherSlab.elementBytes otherElement = .ok otherBytes →
    Disjoint bytes otherBytes

namespace Pool

theorem runs_of_slab {pool : Pool} {id : Nat} {slab : Slab} (live : pool.slab id = .ok slab) :
    Accounts.runs pool.account id = some slab.run := by
  rw [Accounts.runs, account_of_slab live]
  rfl

theorem elementsApart {pageSize : UInt64} {pool : Pool}
    (sound : Accounts.Sound pageSize pool.account)
    (runsApart : RunsApart (Accounts.runs pool.account)) :
    pool.ElementsApart (Accounts.runs pool.account) := by
  have within (id element : Nat) (slab : Slab) (live : pool.slab id = .ok slab)
      (inRange : element < slab.capacity) :
      ∃ bytes, slab.elementBytes element = .ok bytes ∧ bytes ⊆ slab.run.bytes := by
    have balanced : slab.Balanced := Slab.balanced_bare.mp (sound id _ (account_of_slab live)).1
    exact balanced.exists_elementBytes (runsApart.fits id _ (runs_of_slab live)) inRange
  exact {
    within := by
      intro id element slab live inRange
      rcases within id element slab live inRange with ⟨bytes, placed, inside⟩
      exact ⟨slab.run, bytes, runs_of_slab live, placed, inside⟩
    disjoint := by
      intro id other element otherElement slab otherSlab bytes otherBytes different live inRange
        otherLive otherInRange placed otherPlaced
      by_cases sameSlab : id = other
      · subst sameSlab
        rw [live] at otherLive
        cases otherLive
        apply Slab.disjoint_elementBytes _ placed otherPlaced
        intro sameElement
        exact different (by rw [sameElement])
      · rcases within id element slab live inRange with ⟨_, same, inside⟩
        rcases within other otherElement otherSlab otherLive otherInRange with
          ⟨_, otherSame, otherInside⟩
        rw [placed] at same
        rw [otherPlaced] at otherSame
        cases same
        cases otherSame
        have runsDisjoint := runsApart.disjoint id other _ _ sameSlab (runs_of_slab live)
          (runs_of_slab otherLive)
        exact Disjoint.mono inside otherInside runsDisjoint }

end Pool

/-- Where the runs that a client gave are apart, so are the elements of its slabs after any
history, and after one slab more is divided anew, for any element size. -/
theorem elements_apart {pageSize : UInt64} {operations : List Operation} {answers : List Answer}
    {pool : Pool} (ran : (Pool.empty pageSize).run operations = .ok (answers, pool))
    (runsApart : RunsApart (runsGiven pageSize operations)) :
    pool.ElementsApart (runsGiven pageSize operations) ∧
      ∀ id head elementSize after, pool.configure id head elementSize = .ok after →
        after.ElementsApart (runsGiven pageSize operations) := by
  have reachable := Reachable.empty.run ran
  rw [← runs_eq_given ran] at runsApart ⊢
  refine ⟨Pool.elementsApart reachable.accounts_sound runsApart, ?_⟩
  intro id head elementSize after configured
  have effect : Pool.Effect pool (.configure id head elementSize) .done after :=
    .configured configured
  have later := reachable.step (Pool.apply_eq_ok_iff.mpr effect)
  have recorded : Accounts.runs after.account =
      Transition.entrust (Accounts.runs pool.account)
        ⟨pool, .configure id head elementSize, .done, after⟩ :=
    effect.accounts.runs
  have sameRuns : Accounts.runs after.account = Accounts.runs pool.account := recorded
  rw [← sameRuns] at runsApart ⊢
  exact Pool.elementsApart later.accounts_sound runsApart

/-- The run of one slab ends with the addresses. The slab is retired and divided into three
elements, with a byte left over, beside the six of another slab. -/
theorem elements_apart_up_to_the_last_address :
    ∃ answers pool slab,
      (Pool.empty 100).run [.newHead, .insert 0 5 0xffffffffffffff9c 48, .insert 0 6 0 16,
        .allocate 1, .free 1 0 0, .configure 1 0 33] = .ok (answers, pool) ∧
      RunsApart (runsGiven 100 [.newHead, .insert 0 5 0xffffffffffffff9c 48, .insert 0 6 0 16,
        .allocate 1, .free 1 0 0, .configure 1 0 33]) ∧
      pool.slab 1 = .ok slab ∧ slab.capacity = 3 ∧
      slab.elementBytes 2 = .ok (Finset.Ico (wordValues - 34) (wordValues - 1)) ∧
      pool.ElementsApart (runsGiven 100 [.newHead, .insert 0 5 0xffffffffffffff9c 48,
        .insert 0 6 0 16, .allocate 1, .free 1 0 0, .configure 1 0 33]) := by
  let last : Slab :=
    { run := ⟨5, 0xffffffffffffff9c, 100⟩
      elementSize := 33
      capacity := 3
      available := 3
      hint := some 0
      active := true
      occupancy := ⟨#[0]⟩
      prev := some 0
      next := some 2 }
  let first : Slab :=
    { run := ⟨6, 0, 100⟩
      elementSize := 16
      capacity := 6
      available := 6
      hint := some 0
      active := true
      occupancy := ⟨#[0]⟩
      prev := some 1
      next := some 0 }
  let pool : Pool :=
    { pageSize := 100
      slots := #[.head ⟨2, 1⟩, .slab last, .slab first]
      counters := { activeSlabs := 2, allocations := 1, frees := 1, retirements := 1 } }
  have ran : (Pool.empty 100).run [.newHead, .insert 0 5 0xffffffffffffff9c 48, .insert 0 6 0 16,
      .allocate 1, .free 1 0 0, .configure 1 0 33] =
        .ok ([.head 0, .inserted (some 1), .inserted (some 2),
          .allocated (some ⟨0x4000000000000005#64⟩), .freed false, .done], pool) := by
    decide +kernel
  have given (id : Nat) (run : Run) (present : Accounts.runs pool.account id = some run) :
      id = 1 ∧ run = last.run ∨ id = 2 ∧ run = first.run := by
    rcases id with _ | _ | _ | id
    · cases present
    · cases present
      exact .inl ⟨rfl, rfl⟩
    · cases present
      exact .inr ⟨rfl, rfl⟩
    · cases present
  have apart : Disjoint first.run.bytes last.run.bytes := disjoint_Ico_of_le (by decide)
  have runsApart : RunsApart (Accounts.runs pool.account) := by
    constructor
    · intro id run present
      rcases given id run present with ⟨_, rfl⟩ | ⟨_, rfl⟩
      · decide
      · decide
    · intro id other run otherRun different present otherPresent
      rcases given id run present with ⟨rfl, rfl⟩ | ⟨rfl, rfl⟩ <;>
        rcases given other otherRun otherPresent with ⟨rfl, rfl⟩ | ⟨rfl, rfl⟩
      · exact absurd rfl different
      · exact apart.symm
      · exact apart
      · exact absurd rfl different
  rw [runs_eq_given ran] at runsApart
  exact ⟨_, pool, last, ran, runsApart, rfl, rfl, rfl, (elements_apart ran runsApart).1⟩

end SlabRings
