import SlabRings.Proofs.Pool.Effects

/-!
# Accounts of a pool

Without the links, a pool is a set of slab accounts, and each operation changes
the account of at most one slab. Every step of a pool is a step of its accounts;
what the steps keep, all reachable pools have.
-/

namespace SlabRings

/-! ## Accounts of slabs that are off their rings -/

namespace Slab

theorem take_bare {slab taken : Slab} {element : Nat}
    (takes : slab.take = .ok (element, taken)) : slab.bare.take = .ok (element, taken.bare) := by
  rcases take_eq_ok_iff.mp takes with ⟨chosen, grown, grows, some, rfl⟩
  exact take_eq_ok_iff.mpr ⟨chosen, grown, grows, some, rfl⟩

theorem takeHandle_bare {slab taken : Slab} {handle : Handle}
    (takes : slab.takeHandle = .ok (handle, taken)) :
    slab.bare.takeHandle = .ok (handle, taken.bare) := by
  rcases takeHandle_eq_ok_iff.mp takes with ⟨element, taking, packed⟩
  exact takeHandle_eq_ok_iff.mpr ⟨element, take_bare taking, packed⟩

theorem release_bare {slab released : Slab} {element : Nat}
    (releases : slab.release element = .ok released) :
    slab.bare.release element = .ok released.bare := by
  rcases release_eq_ok_iff.mp releases with ⟨inRange, shrunk, shrinks, fits, rfl⟩
  exact release_eq_ok_iff.mpr ⟨inRange, shrunk, shrinks, fits, rfl⟩

theorem exists_takeHandle_of_bare {slab account : Slab} {handle : Handle}
    (takes : slab.bare.takeHandle = .ok (handle, account)) :
    ∃ taken, slab.takeHandle = .ok (handle, taken) ∧ taken.bare = account := by
  rcases takeHandle_eq_ok_iff.mp takes with ⟨element, taking, packed⟩
  rcases take_eq_ok_iff.mp taking with ⟨chosen, grown, grows, some, rfl⟩
  have takesElement : slab.take = .ok (element, _) :=
    take_eq_ok_iff.mpr ⟨chosen, grown, grows, some, rfl⟩
  exact ⟨_, takeHandle_eq_ok_iff.mpr ⟨element, takesElement, packed⟩, rfl⟩

theorem exists_release_of_bare {slab account : Slab} {element : Nat}
    (releases : slab.bare.release element = .ok account) :
    ∃ released, slab.release element = .ok released ∧ released.bare = account := by
  rcases release_eq_ok_iff.mp releases with ⟨inRange, shrunk, shrinks, fits, rfl⟩
  exact ⟨_, release_eq_ok_iff.mpr ⟨inRange, shrunk, shrinks, fits, rfl⟩, rfl⟩

theorem balanced_bare {slab : Slab} : slab.bare.Balanced ↔ slab.Balanced :=
  ⟨fun ⟨capacity, words, below, total, hinted, retired⟩ =>
      ⟨capacity, words, below, total, hinted, retired⟩,
    fun ⟨capacity, words, below, total, hinted, retired⟩ =>
      ⟨capacity, words, below, total, hinted, retired⟩⟩

theorem links_of_takeHandle {slab taken : Slab} {handle : Handle}
    (takes : slab.takeHandle = .ok (handle, taken)) :
    taken.prev = slab.prev ∧ taken.next = slab.next := by
  rcases takeHandle_eq_ok_iff.mp takes with ⟨element, taking, _⟩
  rcases take_eq_ok_iff.mp taking with ⟨_, _, _, _, rfl⟩
  exact ⟨rfl, rfl⟩

theorem links_of_release {slab released : Slab} {element : Nat}
    (releases : slab.release element = .ok released) :
    released.prev = slab.prev ∧ released.next = slab.next := by
  rcases release_eq_ok_iff.mp releases with ⟨_, _, _, _, rfl⟩
  exact ⟨rfl, rfl⟩

theorem take_of_takeHandle {slab taken : Slab} {handle : Handle}
    (takes : slab.takeHandle = .ok (handle, taken)) :
    slab.take = .ok (handle.index, taken) ∧ handle.coordinate = slab.run.coordinate := by
  rcases takeHandle_eq_ok_iff.mp takes with ⟨element, taking, packed⟩
  rcases Handle.fields_of_pack packed with ⟨_, index, coordinate⟩
  rw [index, coordinate, run_of_take taking]
  exact ⟨taking, rfl⟩

end Slab

/-! ## Steps of the accounts -/

/-- The slabs by their slots, without neighbours. -/
abbrev Accounts : Type :=
  Nat → Option Slab

namespace Accounts

def set (accounts : Accounts) (id : Nat) (account : Option Slab) : Accounts :=
  Function.update accounts id account

@[simp] theorem set_same (accounts : Accounts) (id : Nat) (account : Option Slab) :
    accounts.set id account id = account := by
  rw [set, Function.update_self]

theorem set_other (accounts : Accounts) {id other : Nat} (different : other ≠ id)
    (account : Option Slab) : accounts.set id account other = accounts other := by
  rw [set, Function.update_of_ne different]

theorem set_eq_some_iff {accounts : Accounts} {id other : Nat} {account : Option Slab}
    {slab : Slab} : accounts.set id account other = some slab ↔
      other = id ∧ account = some slab ∨ other ≠ id ∧ accounts other = some slab := by
  by_cases same : other = id
  · subst same
    simp
  · simp [set_other accounts same, same]

theorem forall_set {accounts : Accounts} {Holds : Slab → Prop}
    (all : ∀ id slab, accounts id = some slab → Holds slab) (id : Nat) {new : Slab}
    (holds : Holds new) (other : Nat) (slab : Slab)
    (present : accounts.set id (some new) other = some slab) : Holds slab := by
  rcases set_eq_some_iff.mp present with ⟨_, same⟩ | ⟨_, kept⟩
  · cases same
    exact holds
  · exact all other slab kept

theorem forall_set_none {accounts : Accounts} {Holds : Slab → Prop}
    (all : ∀ id slab, accounts id = some slab → Holds slab) (id other : Nat) (slab : Slab)
    (present : accounts.set id none other = some slab) : Holds slab := by
  rcases set_eq_some_iff.mp present with ⟨_, impossible⟩ | ⟨_, kept⟩
  · cases impossible
  · exact all other slab kept

/-- What is noted of each slab holds of its account. -/
def Noted {Note : Type} (accounts : Accounts) (Holds : Slab → Note → Prop) (notes : Nat → Note) :
    Prop :=
  ∀ id slab, accounts id = some slab → Holds slab (notes id)

namespace Noted

variable {Note : Type} {accounts : Accounts} {Holds : Slab → Note → Prop} {notes : Nat → Note}

theorem set (noted : accounts.Noted Holds notes) (id : Nat) {new : Slab} {note : Note}
    (holds : Holds new note) :
    (accounts.set id (some new)).Noted Holds (Function.update notes id note) := by
  intro other slab present
  rcases set_eq_some_iff.mp present with ⟨rfl, changed⟩ | ⟨different, kept⟩
  · cases changed
    rw [Function.update_self]
    exact holds
  · rw [Function.update_of_ne different]
    exact noted other slab kept

theorem note (noted : accounts.Noted Holds notes) {id : Nat} {slab : Slab} {note : Note}
    (live : accounts id = some slab) (holds : Holds slab note) :
    accounts.Noted Holds (Function.update notes id note) := by
  have updated := noted.set id holds
  rwa [Accounts.set, ← live, Function.update_eq_self] at updated

theorem keep (noted : accounts.Noted Holds notes) (id : Nat) {new : Slab}
    (holds : Holds new (notes id)) : (accounts.set id (some new)).Noted Holds notes := by
  have updated := noted.set id holds
  rwa [Function.update_eq_self] at updated

theorem erase (noted : accounts.Noted Holds notes) (id : Nat) :
    (accounts.set id none).Noted Holds notes := by
  intro other slab present
  rcases set_eq_some_iff.mp present with ⟨_, impossible⟩ | ⟨_, kept⟩
  · cases impossible
  · exact noted other slab kept

end Noted

/-- What an operation does to the accounts of a pool, and what it answers. -/
inductive Step (pageSize : UInt64) (accounts : Accounts) :
    Operation → Answer → Accounts → Prop where
  | headMade {id : Nat} : Step pageSize accounts .newHead (.head id) accounts
  | sizeRefused {head : Nat} {coordinate : UInt32} {offset elementSize : UInt64}
      (refused : ¬Run.Admits pageSize elementSize) :
      Step pageSize accounts (.insert head coordinate offset elementSize) (.inserted none) accounts
  | inserted {head id : Nat} {coordinate : UInt32} {offset elementSize : UInt64}
      (admitted : Run.Admits pageSize elementSize) (fresh : accounts id = none) :
      Step pageSize accounts (.insert head coordinate offset elementSize) (.inserted (some id))
        (accounts.set id
          (some (Slab.divide { run := ⟨coordinate, offset, pageSize⟩ } elementSize)))
  | configured {id head : Nat} {elementSize : UInt64} {slab : Slab}
      (live : accounts id = some slab) :
      Step pageSize accounts (.configure id head elementSize) .done
        (accounts.set id (some (slab.divide elementSize)))
  | unsizedGiven {id : Nat} {slab : Slab} {handle : Handle} (live : accounts id = some slab)
      (unsized : slab.elementSize = 0) (packed : slab.handle 0 = .ok handle) :
      Step pageSize accounts (.allocate id) (.allocated (some handle)) accounts
  | nothingGiven {id : Nat} {slab : Slab} (live : accounts id = some slab)
      (sized : slab.elementSize ≠ 0) (closed : ¬slab.CanServe) :
      Step pageSize accounts (.allocate id) (.allocated none) accounts
  | given {id : Nat} {slab taken : Slab} {handle : Handle} (live : accounts id = some slab)
      (serves : slab.CanServe) (takes : slab.takeHandle = .ok (handle, taken)) :
      Step pageSize accounts (.allocate id) (.allocated (some handle))
        (accounts.set id (some taken))
  | unsizedReturned {id head element : Nat} {slab : Slab} (live : accounts id = some slab)
      (unsized : slab.elementSize = 0) :
      Step pageSize accounts (.free id head element) (.freed true) accounts
  | returned {id head element : Nat} {slab released : Slab} (live : accounts id = some slab)
      (sized : slab.elementSize ≠ 0) (releases : slab.release element = .ok released) :
      Step pageSize accounts (.free id head element) (.freed true)
        (accounts.set id (some released))
  | retired {id head element : Nat} {slab released : Slab} (live : accounts id = some slab)
      (sized : slab.elementSize ≠ 0) (releases : slab.release element = .ok released)
      (room : slab.available ≠ 0) (allFree : released.available = released.capacity) :
      Step pageSize accounts (.free id head element) (.freed false)
        (accounts.set id (some released.retire))
  | linked {id head : Nat} : Step pageSize accounts (.link id head) .done accounts
  | unlinked {id : Nat} : Step pageSize accounts (.unlink id) .done accounts
  | destroyed {id : Nat} {slab : Slab} (live : accounts id = some slab) :
      Step pageSize accounts (.destroy id) (.released slab.run) (accounts.set id none)

end Accounts

namespace Pool

theorem account_book {pool : Pool} {id : Nat} {old : Slab} (live : pool.slab id = .ok old)
    (new : Slab) (counters : Counters) :
    (pool.book id new counters).account = Accounts.set pool.account id (some new.bare) :=
  (writes_book live new counters).account

theorem account_of_link {pool after : Pool} {id head : Nat}
    (linked : pool.link id head = .ok after) : after.account = pool.account :=
  account_eq_of_bare_eq (bare_of_link linked)

theorem account_of_unlink {pool after : Pool} {id : Nat} (unlinked : pool.unlink id = .ok after) :
    after.account = pool.account :=
  account_eq_of_bare_eq (bare_of_unlink unlinked)

theorem account_of_book_unlink {pool after : Pool} {id : Nat} {old new : Slab}
    {counters : Counters} (live : pool.slab id = .ok old)
    (unlinked : (pool.book id new counters).unlink id = .ok after) :
    after.account = Accounts.set pool.account id (some new.bare) :=
  (account_of_unlink unlinked).trans (account_book live new counters)

theorem account_of_vacate {pool : Pool} {id : Nat} {slab : Slab} (live : pool.slab id = .ok slab) :
    (pool.vacate id).account = Accounts.set pool.account id none :=
  (writes_vacate (slab_eq_ok_iff.mp live)).account

theorem account_of_newHead {pool after : Pool} {id : Nat}
    (claimed : pool.claim (fun id => .head ⟨id, id⟩) = .ok (id, after)) :
    pool.account id = none ∧ after.account = pool.account := by
  rcases writes_claim claimed with ⟨writes, _, fresh, _, _⟩
  have none := account_eq_none_iff.mpr fresh
  refine ⟨none, ?_⟩
  rw [writes.account, Slot.account?, ← none, Function.update_eq_self]

theorem account_of_configure {pool after : Pool} {id head : Nat} {elementSize : UInt64}
    (configured : pool.configure id head elementSize = .ok after) :
    ∃ slab, pool.account id = some slab ∧
      after.account = Accounts.set pool.account id (some (slab.divide elementSize)) := by
  rcases configure_eq_ok_iff.mp configured with ⟨slab, counters, live, _, linked⟩
  refine ⟨slab.bare, account_of_slab live, ?_⟩
  rw [account_of_link linked, account_book live]
  rfl

theorem account_of_insert {pool middle after : Pool} {id head : Nat} {run : Run}
    {elementSize : UInt64} (claimed : pool.claim (fun _ => .slab { run }) = .ok (id, middle))
    (configured : middle.configure id head elementSize = .ok after) :
    pool.account id = none ∧
      after.account = Accounts.set pool.account id (some (Slab.divide { run } elementSize)) := by
  rcases writes_claim claimed with ⟨writes, _, fresh, _, _⟩
  rcases account_of_configure configured with ⟨slab, present, same⟩
  rw [writes.account, Function.update_self] at present
  cases present
  refine ⟨account_eq_none_iff.mpr fresh, ?_⟩
  rw [same, writes.account, Accounts.set, Function.update_idem]
  rfl

theorem Effect.accounts {pool after : Pool} {operation : Operation} {answer : Answer}
    (effect : Effect pool operation answer after) :
    Accounts.Step pool.pageSize pool.account operation answer after.account := by
  cases effect with
  | headMade claimed =>
      rw [(account_of_newHead claimed).2]
      exact .headMade
  | sizeRefused refused => exact .sizeRefused refused
  | inserted admitted claimed configured =>
      rcases account_of_insert claimed configured with ⟨fresh, same⟩
      rw [same]
      exact .inserted admitted fresh
  | configured configured =>
      rcases account_of_configure configured with ⟨slab, present, same⟩
      rw [same]
      exact .configured present
  | unsizedGiven live unsized packed => exact .unsizedGiven (account_of_slab live) unsized packed
  | nothingGiven live sized closed => exact .nothingGiven (account_of_slab live) sized closed
  | given live serves takes _ _ =>
      rw [account_book live]
      exact .given (account_of_slab live) serves (Slab.takeHandle_bare takes)
  | @lastGiven id _ taken _ _ middle live serves takes _ unlinked _ =>
      change Accounts.Step _ _ _ _ middle.account
      rw [account_of_book_unlink live unlinked]
      exact .given (account_of_slab live) serves (Slab.takeHandle_bare takes)
  | unsizedReturned live unsized => exact .unsizedReturned (account_of_slab live) unsized
  | firstReturned live sized releases _ _ linked =>
      rw [account_of_link linked, account_book live]
      exact .returned (account_of_slab live) sized (Slab.release_bare releases)
  | returned live sized releases _ _ _ =>
      rw [account_book live]
      exact .returned (account_of_slab live) sized (Slab.release_bare releases)
  | @retired _ _ _ _ _ _ _ middle live sized releases room allFree _ _ unlinked _ =>
      change Accounts.Step _ _ _ _ middle.account
      rw [account_of_book_unlink live unlinked]
      exact .retired (account_of_slab live) sized (Slab.release_bare releases) room allFree
  | linked linked =>
      rw [account_of_link linked]
      exact .linked
  | unlinked unlinked =>
      rw [account_of_unlink unlinked]
      exact .unlinked
  | @destroyed id slab _ live _ _ =>
      change Accounts.Step _ _ _ (.released slab.bare.run) (pool.vacate id).account
      rw [account_of_vacate live]
      exact .destroyed (account_of_slab live)

theorem pageSize_of_bare_eq {before after : Pool} (same : after.bare = before.bare) :
    after.pageSize = before.pageSize :=
  (congrArg Pool.pageSize same : after.bare.pageSize = before.bare.pageSize)

private theorem pageSize_configure {pool after : Pool} {id head : Nat} {elementSize : UInt64}
    (configured : pool.configure id head elementSize = .ok after) :
    after.pageSize = pool.pageSize := by
  rcases configure_eq_ok_iff.mp configured with ⟨slab, counters, live, _, linked⟩
  exact (pageSize_of_bare_eq (bare_of_link linked)).trans rfl

theorem Effect.pageSize_eq {pool after : Pool} {operation : Operation} {answer : Answer}
    (effect : Effect pool operation answer after) : after.pageSize = pool.pageSize := by
  cases effect with
  | headMade claimed =>
      rcases writes_claim claimed with ⟨_, _, _, _, same⟩
      exact same
  | inserted admitted claimed configured =>
      rcases writes_claim claimed with ⟨_, _, _, _, same⟩
      exact (pageSize_configure configured).trans same
  | configured configured => exact pageSize_configure configured
  | lastGiven _ _ _ _ unlinked _ | retired _ _ _ _ _ _ _ unlinked _ | unlinked unlinked =>
      exact (pageSize_of_bare_eq (bare_of_unlink unlinked)).trans rfl
  | firstReturned _ _ _ _ _ linked | linked linked =>
      exact (pageSize_of_bare_eq (bare_of_link linked)).trans rfl
  | _ => rfl

end Pool

/-! ## What the accounts keep -/

namespace Accounts

def Sound (pageSize : UInt64) (accounts : Accounts) : Prop :=
  ∀ id slab, accounts id = some slab → slab.Balanced ∧ slab.run.size = pageSize

theorem Sound.set {pageSize : UInt64} {accounts : Accounts} (sound : accounts.Sound pageSize)
    (id : Nat) {slab : Slab} (balanced : slab.Balanced) (size : slab.run.size = pageSize) :
    (accounts.set id (some slab)).Sound pageSize :=
  forall_set sound id ⟨balanced, size⟩

theorem Sound.step {pageSize : UInt64} {accounts settled : Accounts} {operation : Operation}
    {answer : Answer} (sound : accounts.Sound pageSize)
    (step : Step pageSize accounts operation answer settled) : settled.Sound pageSize := by
  cases step with
  | headMade | sizeRefused | unsizedGiven | nothingGiven | unsizedReturned | linked | unlinked =>
      exact sound
  | inserted _ _ => exact sound.set _ (.divide _ _) rfl
  | configured live => exact sound.set _ (.divide _ _) (sound _ _ live).2
  | given live serves takes =>
      rcases sound _ _ live with ⟨balanced, size⟩
      have taking := (Slab.take_of_takeHandle takes).1
      refine sound.set _ (balanced.of_take serves.2.2 taking) ?_
      rw [Slab.run_of_take taking, size]
  | returned live _ releases =>
      rcases sound _ _ live with ⟨balanced, size⟩
      exact sound.set _ (balanced.of_release releases) ((Slab.run_of_release releases) ▸ size)
  | retired live _ releases _ allFree =>
      rcases sound _ _ live with ⟨balanced, size⟩
      exact sound.set _ ((balanced.of_release releases).retire allFree)
        ((Slab.run_of_release releases) ▸ size)
  | destroyed _ => exact forall_set_none sound _

end Accounts

theorem Reachable.pageSize_eq {pageSize : UInt64} {pool : Pool}
    (reachable : Reachable pageSize pool) : pool.pageSize = pageSize := by
  induction reachable with
  | empty => rfl
  | step _ applied induction => rw [(Pool.apply_eq_ok_iff.mp applied).pageSize_eq, induction]

theorem Reachable.accounts_sound {pageSize : UInt64} {pool : Pool}
    (reachable : Reachable pageSize pool) : Accounts.Sound pageSize pool.account := by
  induction reachable with
  | empty =>
      intro id slab present
      cases present
  | step earlier applied induction =>
      have step := (Pool.apply_eq_ok_iff.mp applied).accounts
      rw [earlier.pageSize_eq] at step
      exact induction.step step

theorem Reachable.balanced {pageSize : UInt64} {pool : Pool} (reachable : Reachable pageSize pool)
    {id : Nat} {slab : Slab} (live : pool.slab id = .ok slab) :
    slab.Balanced ∧ slab.run.size = pageSize := by
  rcases reachable.accounts_sound id _ (Pool.account_of_slab live) with ⟨balanced, size⟩
  exact ⟨Slab.balanced_bare.mp balanced, size⟩

end SlabRings
