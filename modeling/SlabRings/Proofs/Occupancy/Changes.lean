import Mathlib.Algebra.Order.Floor.Div
import SlabRings.Checked
import SlabRings.Proofs.Occupancy.Elements

/-!
# Changes of an occupancy

An occupancy is set up anew, has elements taken and has elements given back. A
finite set of elements, with the number of words, is changed alongside, and no
bit is looked at there: an element outside the words, a taken one to be taken
and a free one to be given back are refused, and every other change is the one
of the set. The words never part from the set.
-/

namespace SlabRings

/-! ## The set -/

/-- Taken elements, each of which has a bit in one of the words. -/
@[ext]
structure TakenSet where
  wordCount : Nat
  elements : Finset Nat
  inWords : ∀ element ∈ elements, element < 64 * wordCount
deriving DecidableEq

inductive Occupancy.Change where
  | reset (elements : Nat)
  | insert (element : Nat)
  | erase (element : Nat)
deriving DecidableEq, Repr

namespace TakenSet

def empty : TakenSet where
  wordCount := 0
  elements := ∅
  inWords := by simp

def reset (elements : Nat) : TakenSet where
  wordCount := elements ⌈/⌉ 64
  elements := ∅
  inWords := by simp

def insert (set : TakenSet) (element : Nat) : Except Fault TakenSet :=
  if inWords : element < 64 * set.wordCount then
    if element ∈ set.elements then
      .error (.alreadyAllocated element)
    else
      .ok { set with
        elements := Insert.insert element set.elements
        inWords := by simpa [inWords] using set.inWords }
  else
    .error (.outOfBounds set.wordCount (element / 64))

def erase (set : TakenSet) (element : Nat) : Except Fault TakenSet :=
  if element < 64 * set.wordCount then
    if element ∈ set.elements then
      .ok { set with
        elements := set.elements.erase element
        inWords := fun other member => set.inWords other (Finset.mem_of_mem_erase member) }
    else
      .error (.notAllocated element)
  else
    .error (.outOfBounds set.wordCount (element / 64))

def apply (set : TakenSet) : Occupancy.Change → Except Fault TakenSet
  | .reset elements => .ok (reset elements)
  | .insert element => set.insert element
  | .erase element => set.erase element

def run (set : TakenSet) (changes : List Occupancy.Change) : Except Fault TakenSet :=
  changes.foldlM apply set

theorem run_cons (set : TakenSet) (change : Occupancy.Change) (rest : List Occupancy.Change) :
    set.run (change :: rest) = set.apply change >>= fun changed => changed.run rest := by
  rw [run, List.foldlM_cons]
  rfl

end TakenSet

namespace Occupancy

/-! ## The words -/

def apply (occupancy : Occupancy) : Change → Except Fault Occupancy
  | .reset elements => .ok (vacant elements)
  | .insert element => occupancy.insert element
  | .erase element => occupancy.erase element

def run (occupancy : Occupancy) (changes : List Change) : Except Fault Occupancy :=
  changes.foldlM apply occupancy

theorem run_cons (occupancy : Occupancy) (change : Change) (rest : List Change) :
    occupancy.run (change :: rest) = occupancy.apply change >>= fun changed => changed.run rest := by
  rw [run, List.foldlM_cons]
  rfl

def takenSet (occupancy : Occupancy) : TakenSet where
  wordCount := occupancy.wordCount
  elements := occupancy.elements
  inWords := fun _ member => div_lt_wordCount.mp (lt_of_mem (mem_elements.mp member))

/-! ## Words and set change alike -/

theorem takenSet_vacant (elements : Nat) : (vacant elements).takenSet = .reset elements := by
  ext
  · simp [takenSet, TakenSet.reset, wordsFor, Nat.ceilDiv_eq_add_pred_div]
  · simp [takenSet, TakenSet.reset]

theorem takenSet_empty : ({} : Occupancy).takenSet = .empty :=
  takenSet_vacant 0

theorem map_takenSet_insert (occupancy : Occupancy) (element : Nat) :
    (occupancy.insert element).map takenSet = occupancy.takenSet.insert element := by
  by_cases inWords : element < 64 * occupancy.wordCount
  · by_cases member : element ∈ occupancy
    · simp [insert, TakenSet.insert, takenSet, Except.map, div_lt_wordCount, inWords, member]
    · have taken := insert_eq_ok_iff.mpr ⟨div_lt_wordCount.mpr inWords, member, rfl⟩
      rw [taken]
      simp [TakenSet.insert, takenSet, Except.map, inWords, member, elements_of_insert taken,
        wordCount_of_insert taken]
  · simp [insert, TakenSet.insert, takenSet, Except.map, div_lt_wordCount, inWords]

theorem map_takenSet_erase (occupancy : Occupancy) (element : Nat) :
    (occupancy.erase element).map takenSet = occupancy.takenSet.erase element := by
  by_cases inWords : element < 64 * occupancy.wordCount
  · by_cases member : element ∈ occupancy
    · have returned := erase_eq_ok_iff.mpr ⟨member, rfl⟩
      rw [returned]
      simp [TakenSet.erase, takenSet, Except.map, inWords, member, elements_of_erase returned,
        wordCount_of_erase returned]
    · simp [erase, TakenSet.erase, takenSet, Except.map, div_lt_wordCount, inWords, member]
  · simp [erase, TakenSet.erase, takenSet, Except.map, div_lt_wordCount, inWords]

theorem map_takenSet_apply (occupancy : Occupancy) (change : Change) :
    (occupancy.apply change).map takenSet = occupancy.takenSet.apply change := by
  cases change with
  | reset elements => exact congrArg Except.ok (takenSet_vacant elements)
  | insert element => exact occupancy.map_takenSet_insert element
  | erase element => exact occupancy.map_takenSet_erase element

theorem map_takenSet_run (occupancy : Occupancy) (changes : List Change) :
    (occupancy.run changes).map takenSet = occupancy.takenSet.run changes := by
  induction changes generalizing occupancy with
  | nil => rfl
  | cons change rest induction =>
      rw [run_cons, TakenSet.run_cons, ← map_takenSet_apply]
      -- A refused change ends both runs, and any other leaves a set for the rest to start from.
      cases occupancy.apply change with
      | error fault => rfl
      | ok changed => exact induction changed

/-! ## What words and set tell -/

/-- What an occupancy tells is read off the set. A change of one element is refused exactly where
the set refuses it, with a text that says why, and otherwise alters what is told of that element
alone. -/
structure BehavesAs (occupancy : Occupancy) (set : TakenSet) : Prop where
  wordCount_eq : occupancy.wordCount = set.wordCount
  count_eq : occupancy.count = set.elements.card
  contains_eq (element : Nat) : element < 64 * set.wordCount →
    occupancy.contains element = .ok (decide (element ∈ set.elements))
  insert_faults_iff (element : Nat) : (∃ fault, occupancy.insert element = .error fault) ↔
    64 * set.wordCount ≤ element ∨ element ∈ set.elements
  erase_faults_iff (element : Nat) : (∃ fault, occupancy.erase element = .error fault) ↔
    64 * set.wordCount ≤ element ∨ element ∉ set.elements
  outside (element : Nat) : 64 * set.wordCount ≤ element → ∃ fault,
    occupancy.contains element = .error fault ∧ occupancy.insert element = .error fault ∧
      occupancy.erase element = .error fault ∧ fault.message =
        s!"index out of bounds: the len is {set.wordCount} but the index is {element / 64}"
  taken_already (element : Nat) : element ∈ set.elements → ∃ fault,
    occupancy.insert element = .error fault ∧
      fault.message = s!"element {element} is already allocated"
  not_taken (element : Nat) : element < 64 * set.wordCount → element ∉ set.elements → ∃ fault,
    occupancy.erase element = .error fault ∧ fault.message = s!"element {element} is not allocated"
  after_insert (element : Nat) (grown : Occupancy) : occupancy.insert element = .ok grown →
    grown.contains element = .ok true ∧
      ∀ other, other ≠ element → grown.contains other = occupancy.contains other
  after_erase (element : Nat) (shrunk : Occupancy) : occupancy.erase element = .ok shrunk →
    shrunk.contains element = .ok false ∧
      ∀ other, other ≠ element → shrunk.contains other = occupancy.contains other

theorem behavesAs_takenSet (occupancy : Occupancy) : occupancy.BehavesAs occupancy.takenSet where
  wordCount_eq := rfl
  count_eq := occupancy.count_eq_card
  contains_eq element inWords := by
    rw [contains_eq_ok_iff]
    exact ⟨inWords, decide_eq_decide.mpr mem_elements⟩
  insert_faults_iff element := by
    rw [insert_faults_iff, ← mem_elements]
    rfl
  erase_faults_iff element := by
    rw [erase_faults_iff, ← mem_elements]
    rfl
  outside element outside := by
    have noWord : ¬element / 64 < occupancy.wordCount := by
      rw [div_lt_wordCount]
      exact Nat.not_lt_of_le outside
    exact ⟨_, if_neg noWord, if_neg noWord, if_neg noWord, rfl⟩
  taken_already element member := by
    have member := mem_elements.mp member
    refine ⟨.alreadyAllocated element, ?_, rfl⟩
    rw [insert, if_pos (lt_of_mem member), if_pos member]
  not_taken element inWords absent := by
    have inWords : element / 64 < occupancy.wordCount := div_lt_wordCount.mpr inWords
    have absent : element ∉ occupancy := fun member => absent (mem_elements.mpr member)
    refine ⟨.notAllocated element, ?_, rfl⟩
    rw [erase, if_pos inWords, if_neg absent]
  after_insert element grown taken := by
    constructor
    · rw [contains_eq_true_iff, mem_iff_of_insert taken]
      exact .inl rfl
    · intro other different
      apply contains_congr (wordCount_of_insert taken)
      rw [mem_iff_of_insert taken, or_iff_right different]
  after_erase element shrunk returned := by
    have member := (erase_eq_ok_iff.mp returned).1
    constructor
    · rw [contains_eq_false_iff, wordCount_of_erase returned, mem_iff_of_erase returned]
      exact ⟨div_lt_wordCount.mp (lt_of_mem member), fun remains => remains.1 rfl⟩
    · intro other different
      apply contains_congr (wordCount_of_erase returned)
      rw [mem_iff_of_erase returned, and_iff_right different]

/-! ## How many words there are -/

theorem count_le (occupancy : Occupancy) : occupancy.count ≤ 64 * occupancy.wordCount := by
  rw [count_eq_length_members, members]
  exact (List.length_filter_le _ _).trans_eq List.length_range

theorem wordCount_le_of_apply {occupancy changed : Occupancy} {change : Change} {words : Nat}
    (few : occupancy.wordCount ≤ words)
    (bounded : ∀ elements, change = .reset elements → elements ≤ 64 * words)
    (applied : occupancy.apply change = .ok changed) : changed.wordCount ≤ words := by
  cases change with
  | reset elements =>
      cases applied
      have bound := bounded elements rfl
      rw [wordCount_vacant, wordsFor]
      omega
  | insert element =>
      rw [wordCount_of_insert applied]
      exact few
  | erase element =>
      rw [wordCount_of_erase applied]
      exact few

theorem wordCount_le_of_run {occupancy last : Occupancy} {changes : List Change} {words : Nat}
    (few : occupancy.wordCount ≤ words)
    (bounded : ∀ elements, .reset elements ∈ changes → elements ≤ 64 * words)
    (ran : occupancy.run changes = .ok last) : last.wordCount ≤ words := by
  induction changes generalizing occupancy with
  | nil =>
      cases ran
      exact few
  | cons change rest induction =>
      rw [run_cons, Checked.bind_eq_ok_iff] at ran
      rcases ran with ⟨changed, applied, ran⟩
      have fewChanged : changed.wordCount ≤ words := by
        refine wordCount_le_of_apply few (fun elements same => ?_) applied
        exact bounded elements (same ▸ List.mem_cons_self)
      exact induction fewChanged (fun elements later => bounded elements (.tail _ later)) ran

/-! ## Runs of changes -/

/-- Changes from no words on are refused where the set refuses them, for the same cause, and lead
to words that behave as the set does. Where no more elements are asked for than `2 ^ 63` at a time,
the number of taken ones stays a machine word. -/
theorem changed_as_set (changes : List Change)
    (bounded : ∀ elements, .reset elements ∈ changes → elements ≤ 2 ^ 63) :
    (∀ fault, run {} changes = .error fault ↔ TakenSet.empty.run changes = .error fault) ∧
      ∀ set, TakenSet.empty.run changes = .ok set →
        ∃ occupancy, run {} changes = .ok occupancy ∧ occupancy.BehavesAs set ∧
          occupancy.count < Checked.wordValues := by
  have alike := map_takenSet_run {} changes
  rw [takenSet_empty] at alike
  rw [← alike]
  cases ran : run {} changes with
  | error cause => simp [Except.map]
  | ok occupancy =>
      refine ⟨fun fault => by simp [Except.map], ?_⟩
      intro set same
      cases same
      have words : occupancy.wordCount ≤ 2 ^ 57 := by
        refine wordCount_le_of_run (Nat.zero_le _) (fun elements asked => ?_) ran
        exact bounded elements asked
      have few : occupancy.count < Checked.wordValues := by
        have bound := occupancy.count_le
        unfold Checked.wordValues
        omega
      exact ⟨occupancy, rfl, occupancy.behavesAs_takenSet, few⟩

theorem changed_as_set_across_words :
    ∃ occupancy outside,
      run {} [.reset 65, .insert 63, .insert 64, .erase 63] = .ok occupancy ∧
      occupancy.wordCount = 2 ∧ occupancy.count = 1 ∧
      occupancy.contains 63 = .ok false ∧ occupancy.contains 64 = .ok true ∧
      occupancy.insert 128 = .error outside ∧
      outside.message = "index out of bounds: the len is 2 but the index is 2" ∧
      run {} [.reset 65, .insert 64, .insert 64] = .error (.alreadyAllocated 64) := by
  have changed : TakenSet.empty.run [.reset 65, .insert 63, .insert 64, .erase 63] =
      .ok ⟨2, {64}, by decide⟩ := by
    decide
  rcases (changed_as_set _ (by simp)).2 _ changed with ⟨occupancy, ran, behaves, _⟩
  rcases behaves.outside 128 (by decide) with ⟨outside, _, refused, _, text⟩
  exact ⟨occupancy, outside, ran, behaves.wordCount_eq, behaves.count_eq,
    behaves.contains_eq 63 (by decide), behaves.contains_eq 64 (by decide), refused,
    text.trans (by decide +kernel), ((changed_as_set _ (by simp)).1 _).mpr (by decide)⟩

end Occupancy

end SlabRings
