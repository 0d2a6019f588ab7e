import SlabRings.Proofs.Pool.Vacancy
import SlabRings.Proofs.Rings.Refinement

/-!
# Recycling of slots

Every slot of the table holds a head or a slab, or it waits to be used again,
and only one of these. New entries go to the waiting slots, the one vacated last
first, so they disturb no other entry, and the table is never larger than the
most heads and slabs that there were at one time.
-/

namespace SlabRings

/-! ## The population of the table -/

namespace Pool

def population (pool : Pool) : Nat :=
  pool.headIds.length + pool.slabIds.length

theorem vacancy_eq_none_of_inUse {pool : Pool} {id : Nat} (inUse : pool.InUse id) :
    pool.vacancy id = none := by
  rcases inUse with ⟨neighbours, isHead⟩ | ⟨slab, live⟩
  · simp [vacancy, head_eq_ok_iff.mp isHead, Slot.vacancy?]
  · exact vacancy_eq_none_of_slab live

theorem lt_size_of_inUse {pool : Pool} {id : Nat} (inUse : pool.InUse id) :
    id < pool.slots.size := by
  rcases inUse with ⟨neighbours, isHead⟩ | ⟨slab, live⟩
  · exact lt_size_of_getElem? (head_eq_ok_iff.mp isHead)
  · exact lt_size_of_getElem? (slab_eq_ok_iff.mp live)

theorem vacancy_ne_none_iff {pool : Pool} {id : Nat} :
    pool.vacancy id ≠ none ↔ id < pool.slots.size ∧ ¬pool.InUse id := by
  constructor
  · intro vacant
    rcases Option.ne_none_iff_exists'.mp vacant with ⟨earlier, stored⟩
    refine ⟨lt_size_of_getElem? (vacancy_eq_some_iff.mp stored), ?_⟩
    intro inUse
    exact vacant (vacancy_eq_none_of_inUse inUse)
  · intro ⟨inTable, unused⟩
    have stored := Array.getElem?_eq_getElem inTable
    cases content : pool.slots[id] with
    | head neighbours =>
        rw [content, ← head_eq_ok_iff] at stored
        exact absurd (.inl ⟨neighbours, stored⟩) unused
    | slab slab =>
        rw [content, ← slab_eq_ok_iff] at stored
        exact absurd (.inr ⟨slab, stored⟩) unused
    | vacant earlier =>
        rw [content, ← vacancy_eq_some_iff] at stored
        simp [stored]

namespace Vacancies

variable {pool : Pool} {ids : List Nat}

theorem mem_iff (vacancies : pool.Vacancies ids) {id : Nat} :
    id ∈ ids ↔ id < pool.slots.size ∧ ¬pool.InUse id := by
  rw [← vacancy_ne_none_iff]
  exact ⟨vacancies.chained.vacant_of_mem, vacancies.mem_of_vacant id⟩

theorem perm_range (vacancies : pool.Vacancies ids) :
    (pool.headIds ++ (pool.slabIds ++ ids)).Perm (List.range pool.slots.size) := by
  have headsOnce : pool.headIds.Nodup := List.nodup_range.filter _
  have slabsOnce : pool.slabIds.Nodup := List.nodup_range.filter _
  have slabsApart : pool.slabIds.Disjoint ids := by
    intro id isSlab vacant
    exact (vacancies.mem_iff.mp vacant).2 (.inr (mem_slabIds.mp isSlab))
  have headsApart : pool.headIds.Disjoint (pool.slabIds ++ ids) := by
    intro id isHead other
    rw [mem_headIds] at isHead
    rcases List.mem_append.mp other with isSlab | vacant
    · exact not_isSlab_of_isHead isHead (mem_slabIds.mp isSlab)
    · exact (vacancies.mem_iff.mp vacant).2 (.inl isHead)
  have once := headsOnce.append (slabsOnce.append vacancies.nodup slabsApart) headsApart
  rw [List.perm_ext_iff_of_nodup once List.nodup_range]
  intro id
  rw [List.mem_append, List.mem_append, mem_headIds, mem_slabIds, vacancies.mem_iff,
    List.mem_range, ← or_assoc]
  change pool.InUse id ∨ _ ↔ _
  constructor
  · rintro (inUse | ⟨inTable, _⟩)
    · exact lt_size_of_inUse inUse
    · exact inTable
  · intro inTable
    by_cases inUse : pool.InUse id
    · exact .inl inUse
    · exact .inr ⟨inTable, inUse⟩

theorem population_add_length (vacancies : pool.Vacancies ids) :
    pool.population + ids.length = pool.slots.size := by
  have lengths := vacancies.perm_range.length_eq
  rw [List.length_append, List.length_append, List.length_range, ← Nat.add_assoc] at lengths
  exact lengths

end Vacancies

/-! ## The size of the table -/

theorem size_book (pool : Pool) (id : Nat) (slab : Slab) (counters : Counters) :
    (pool.book id slab counters).slots.size = pool.slots.size :=
  size_store pool id (.slab slab)

theorem size_configure {pool after : Pool} {id head : Nat} {elementSize : UInt64}
    (configured : pool.configure id head elementSize = .ok after) :
    after.slots.size = pool.slots.size := by
  rcases configure_eq_ok_iff.mp configured with ⟨slab, counters, _, _, linked⟩
  rw [size_of_bare_eq (bare_of_link linked), size_book]

theorem size_claim {pool after : Pool} {entry : Nat → Slot} {id : Nat}
    (claimed : pool.claim entry = .ok (id, after)) :
    after.slots.size = max pool.slots.size (id + 1) := by
  unfold claim at claimed
  split at claimed
  · cases claimed
    simp
  · split at claimed
    · rename_i stored
      cases claimed
      have inTable := lt_size_of_getElem? stored
      rw [max_eq_left inTable]
      exact size_store _ _ _
    · cases claimed
    · cases claimed

end Pool

def Answer.created? : Answer → Option Nat
  | head id => some id
  | inserted id => id
  | allocated _ | freed _ | released _ | done => none

namespace Pool

theorem Effect.size_eq {pool after : Pool} {operation : Operation} {answer : Answer}
    (effect : Effect pool operation answer after) :
    after.slots.size = max pool.slots.size (answer.created?.elim 0 (· + 1)) := by
  cases effect with
  | headMade claimed => exact size_claim claimed
  | inserted _ claimed configured => exact (size_configure configured).trans (size_claim claimed)
  | configured configured => simpa [Answer.created?] using size_configure configured
  | sizeRefused | unsizedGiven | nothingGiven | unsizedReturned => simp [Answer.created?]
  | given | returned => simp [Answer.created?, size_book]
  | lastGiven _ _ _ _ unlinked _ | unlinked unlinked =>
      simpa [Answer.created?] using size_of_bare_eq (bare_of_unlink unlinked)
  | retired _ _ _ _ _ _ _ unlinked _ =>
      simpa [Answer.created?, size_book] using size_of_bare_eq (bare_of_unlink unlinked)
  | firstReturned _ _ _ _ _ linked =>
      simpa [Answer.created?, size_book] using size_of_bare_eq (bare_of_link linked)
  | linked linked => simpa [Answer.created?] using size_of_bare_eq (bare_of_link linked)
  | destroyed => simp [Answer.created?, vacate]

theorem Effect.place_of_created {pool after : Pool} {operation : Operation} {answer : Answer}
    {ids : List Nat} {id : Nat} (effect : Effect pool operation answer after)
    (vacancies : pool.Vacancies ids) (created : answer.created? = some id) :
    id = ids.headD pool.slots.size := by
  cases effect with
  | headMade claimed =>
      cases created
      exact (vacancies.claim claimed rfl).1
  | inserted _ claimed _ =>
      cases created
      exact (vacancies.claim claimed rfl).1
  | _ => cases created

end Pool

/-! ## What an observer of the slots notes -/

/-- The slots that wait to be used again: each that was given up, the last one first, until the
answer to an operation tells of a new entry there. -/
def Transition.recycle (waiting : List Nat) (transition : Transition) : List Nat :=
  match transition.answer.created? with
  | some id => waiting.erase id
  | none =>
      match transition.operation with
      | .destroy id => id :: waiting
      | _ => waiting

def Transition.notePeak (most : Nat) (transition : Transition) : Nat :=
  max most transition.after.population

def awaitingReuse (pageSize : UInt64) (operations : List Operation) : List Nat :=
  ((Pool.empty pageSize).transitions operations).foldl Transition.recycle []

def peakPopulation (pageSize : UInt64) (operations : List Operation) : Nat :=
  ((Pool.empty pageSize).transitions operations).foldl Transition.notePeak 0

theorem erase_headD (ids : List Nat) (default : Nat) :
    ids.erase (ids.headD default) = ids.tail := by
  cases ids with
  | nil => rfl
  | cons first rest => exact List.erase_cons_head first rest

namespace Pool

theorem Effect.recycled {pool after : Pool} {operation : Operation} {answer : Answer}
    {waiting : List Nat} (effect : Effect pool operation answer after)
    (vacancies : pool.Vacancies waiting) :
    after.Vacancies (Transition.recycle waiting ⟨pool, operation, answer, after⟩) := by
  have chained := effect.vacancies vacancies
  have place (id : Nat) (created : answer.created? = some id) :=
    effect.place_of_created vacancies created
  cases effect with
  | headMade | inserted =>
      rw [Transition.recycle, Answer.created?]
      dsimp only
      rw [place _ rfl, erase_headD]
      exact chained
  | _ => exact chained

theorem Effect.created_of_grows {pool after : Pool} {operation : Operation} {answer : Answer}
    {waiting : List Nat} (effect : Effect pool operation answer after)
    (vacancies : pool.Vacancies waiting) (grows : pool.slots.size < after.slots.size) :
    waiting = [] ∧ ∃ id, answer.created? = some id := by
  rw [effect.size_eq] at grows
  cases created : answer.created? with
  | none => simp [created] at grows
  | some id =>
      refine ⟨?_, id, rfl⟩
      cases waiting with
      | nil => rfl
      | cons first rest =>
          have place := effect.place_of_created vacancies created
          have inTable := (vacancies.mem_iff.mp List.mem_cons_self).1
          rw [created, Option.elim_some, place, List.headD_cons] at grows
          omega

theorem Effect.size_eq_max_population {pool after : Pool} {operation : Operation}
    {answer : Answer} {waiting : List Nat} (effect : Effect pool operation answer after)
    (vacancies : pool.Vacancies waiting) :
    after.slots.size = max pool.slots.size after.population := by
  have counted := (effect.recycled vacancies).population_add_length
  by_cases grows : pool.slots.size < after.slots.size
  · rcases effect.created_of_grows vacancies grows with ⟨rfl, id, created⟩
    simp only [Transition.recycle, created, List.erase_nil, List.length_nil] at counted
    omega
  · have noSmaller : pool.slots.size ≤ after.slots.size := by
      rw [effect.size_eq]
      exact Nat.le_max_left _ _
    omega

/-! ## New entries -/

/-- A new entry came to a slot that nothing used, the one vacated last or else one behind the
table, and other slots changed only in their neighbours, if they are among the slots joined. -/
structure Entered (pool : Pool) (waiting joined : List Nat) (id : Nat) (after : Pool) : Prop where
  notInUse : ¬pool.InUse id
  place : id = waiting.headD pool.slots.size
  content (other : Nat) : other ≠ id →
    after.slots[other]?.map Slot.bare = pool.slots[other]?.map Slot.bare
  kept (other : Nat) : other ≠ id → other ∉ joined → after.slots[other]? = pool.slots[other]?

theorem Rings.getElem?_of_link {pool after : Pool} {lists : Lists} {id head : Nat}
    {ids : List Nat} (rings : pool.Rings lists) (linked : pool.link id head = .ok after)
    (present : lists head = some ids) {other : Nat} (different : other ≠ id)
    (offRing : other ∉ head :: ids) : after.slots[other]? = pool.slots[other]? := by
  rcases link_spec linked with ⟨neighbours, slab, isHead, live, _, _, links, bare⟩
  have onRing : neighbours.next ∈ head :: ids :=
    ((rings.carries.circuit present).joined_of_next List.mem_cons_self
      (links_next_of_head isHead)).1
  have notHead : other ≠ head := by
    intro same
    exact offRing (same ▸ List.mem_cons_self)
  have notNext : other ≠ neighbours.next := by
    intro same
    exact offRing (same ▸ onRing)
  apply getElem?_eq_of_bare_eq bare
  · simp [links, Links.spliceIn, Links.setNext, Links.setPrev, different, notHead]
  · simp [links, Links.spliceIn, Links.setNext, Links.setPrev, different, notNext]

theorem entered_newHead {pool after : Pool} {waiting : List Nat} {id : Nat}
    (vacancies : pool.Vacancies waiting) (made : pool.newHead = .ok (id, after)) :
    pool.Entered waiting [] id after := by
  rcases writes_claim made with ⟨writes, notHead, notSlab, _, _⟩
  exact {
    notInUse := not_or.mpr ⟨notHead, notSlab⟩
    place := (vacancies.claim made rfl).1
    content := by
      intro other different
      rw [writes.kept other different]
    kept := fun other different _ => writes.kept other different }

theorem Rings.entered_insert {pool after : Pool} {lists : Lists} {waiting : List Nat}
    {head id : Nat} {coordinate : UInt32} {offset elementSize : UInt64}
    (rings : pool.Rings lists) (vacancies : pool.Vacancies waiting)
    (inserted : pool.insert head coordinate offset elementSize = .ok (some id, after)) :
    ∃ ring, pool.ring head = .ok ring ∧ pool.Entered waiting (head :: ring) id after := by
  cases insert_eq_ok_iff.mp inserted with
  | @inserted _ _ _ _ _ middle _ admitted claimed configured =>
      rcases configure_eq_ok_iff.mp configured with ⟨slab, counters, live, _, linked⟩
      rcases writes_claim claimed with ⟨writes, notHead, notSlab, _, _⟩
      have booked := writes_book live (slab.divide elementSize) counters
      have bookedRings : (middle.book id (slab.divide elementSize) counters).Rings lists :=
        (rings.newSlab claimed).book live (slab.divide elementSize) rfl rfl counters
      rcases bookedRings.present_of_link linked with ⟨ring, present⟩
      have untouched (other : Nat) (different : other ≠ id) :
          (middle.book id (slab.divide elementSize) counters).slots[other]? =
            pool.slots[other]? :=
        (booked.kept other different).trans (writes.kept other different)
      refine ⟨ring, rings.ring_eq present, ?_⟩
      exact {
        notInUse := not_or.mpr ⟨notHead, notSlab⟩
        place := (vacancies.claim claimed rfl).1
        content := by
          intro other different
          rw [← getElem?_bare, bare_of_link linked, getElem?_bare, untouched other different]
        kept := by
          intro other different offRing
          rw [bookedRings.getElem?_of_link linked present different offRing]
          exact untouched other different }

end Pool

/-! ## Every history -/

/-- The slots of the table where these ones wait to be used again, and there were at most so many
heads and slabs at one time. -/
structure Pool.Recycles (pool : Pool) (waiting : List Nat) (most : Nat) : Prop where
  vacancies : pool.Vacancies waiting
  waits_iff (id : Nat) : id ∈ waiting ↔ id < pool.slots.size ∧ ¬pool.InUse id
  population_add_length : pool.population + waiting.length = pool.slots.size
  size_eq : pool.slots.size = most
  newHead (id : Nat) (after : Pool) :
    pool.newHead = .ok (id, after) → pool.Entered waiting [] id after
  insert (head : Nat) (coordinate : UInt32) (offset elementSize : UInt64) (id : Nat)
    (after : Pool) : pool.insert head coordinate offset elementSize = .ok (some id, after) →
      ∃ ring, pool.ring head = .ok ring ∧ pool.Entered waiting (head :: ring) id after
  grows_full (operation : Operation) (answer : Answer) (after : Pool) :
    operation.apply pool = .ok (answer, after) → pool.slots.size < after.slots.size →
      ∀ id, id < pool.slots.size → pool.InUse id

theorem vacancies_awaitingReuse {pageSize : UInt64} {operations : List Operation}
    {answers : List Answer} {pool : Pool}
    (ran : (Pool.empty pageSize).run operations = .ok (answers, pool)) :
    pool.Vacancies (awaitingReuse pageSize operations) :=
  Pool.observed Transition.recycle (fun waiting pool => pool.Vacancies waiting)
    (fun _ _ _ _ _ vacancies effect => effect.recycled vacancies)
    (Pool.vacancies_empty pageSize) ran

theorem size_eq_peakPopulation {pageSize : UInt64} {operations : List Operation}
    {answers : List Answer} {pool : Pool}
    (ran : (Pool.empty pageSize).run operations = .ok (answers, pool)) :
    pool.slots.size = peakPopulation pageSize operations := by
  have agree := Pool.observed Transition.notePeak
    (fun most pool => (∃ waiting, pool.Vacancies waiting) ∧ pool.slots.size = most) ?_
    ⟨⟨[], Pool.vacancies_empty pageSize⟩, rfl⟩ ran
  · exact agree.2
  · intro most before operation answer after ⟨⟨waiting, vacancies⟩, size⟩ effect
    refine ⟨⟨_, effect.recycled vacancies⟩, ?_⟩
    rw [effect.size_eq_max_population vacancies, size, Transition.notePeak]

/-- After any history the vacant slots are the ones that wait, all of them in one chain, and the
table has as many slots as there were heads and slabs at most. The next entry has a slot that
waits, the one vacated last, and only where none waits the table grows. -/
theorem slots_recycled {pageSize : UInt64} {operations : List Operation} {answers : List Answer}
    {pool : Pool} (ran : (Pool.empty pageSize).run operations = .ok (answers, pool)) :
    pool.Recycles (awaitingReuse pageSize operations) (peakPopulation pageSize operations) := by
  have vacancies := vacancies_awaitingReuse ran
  exact {
    vacancies
    waits_iff := fun id => vacancies.mem_iff
    population_add_length := vacancies.population_add_length
    size_eq := size_eq_peakPopulation ran
    newHead := fun id after made => Pool.entered_newHead vacancies made
    insert := fun _ _ _ _ _ _ inserted => (rings_after ran).entered_insert vacancies inserted
    grows_full := by
      intro operation answer after applied grows id inTable
      have effect := Pool.apply_eq_ok_iff.mp applied
      have nothingWaits := (effect.created_of_grows vacancies grows).1
      by_contra unused
      have waits := vacancies.mem_iff.mpr ⟨inTable, unused⟩
      rw [nothingWaits] at waits
      cases waits }

theorem slots_recycled_last_first :
    ∃ answers pool after,
      (Pool.empty 64).run [.newHead, .insert 0 5 0 32, .insert 0 6 64 32, .unlink 1, .destroy 1,
        .unlink 2, .destroy 2] = .ok (answers, pool) ∧
      pool.Recycles [2, 1] 3 ∧ pool.population = 1 ∧
      pool.newHead = .ok (2, after) ∧ pool.Entered [2, 1] [] 2 after := by
  let pool : Pool :=
    { pageSize := 64
      slots := #[.head ⟨0, 0⟩, .vacant none, .vacant (some 1)]
      lastVacated := some 2 }
  let after : Pool :=
    { pageSize := 64
      slots := #[.head ⟨0, 0⟩, .vacant none, .head ⟨2, 2⟩]
      lastVacated := some 1 }
  have ran : (Pool.empty 64).run [.newHead, .insert 0 5 0 32, .insert 0 6 64 32, .unlink 1,
      .destroy 1, .unlink 2, .destroy 2] =
        .ok ([.head 0, .inserted (some 1), .inserted (some 2), .done, .released ⟨5, 0, 64⟩,
          .done, .released ⟨6, 64, 64⟩], pool) := by
    decide +kernel
  have waiting : awaitingReuse 64 [.newHead, .insert 0 5 0 32, .insert 0 6 64 32, .unlink 1,
      .destroy 1, .unlink 2, .destroy 2] = [2, 1] := by
    decide +kernel
  have most : peakPopulation 64 [.newHead, .insert 0 5 0 32, .insert 0 6 64 32, .unlink 1,
      .destroy 1, .unlink 2, .destroy 2] = 3 := by
    decide +kernel
  have made : pool.newHead = .ok (2, after) := rfl
  have recycles := slots_recycled ran
  rw [waiting, most] at recycles
  exact ⟨_, pool, after, ran, recycles, rfl, made, recycles.newHead 2 after made⟩

end SlabRings
