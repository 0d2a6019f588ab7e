import Mathlib.Algebra.Group.Nat.Defs
import Mathlib.Data.Finset.Card
import SlabRings.Checked
import SlabRings.Occupancy.Lemmas

/-!
# The set of taken elements

The taken elements form a finite set. Its size is what `count` adds up word by
word, its least absentee is what `firstFree` finds, and taking an element or
giving one back changes the set by that element alone.
-/

namespace SlabRings.Occupancy

/-! ## Counting word by word -/

private theorem toList_words (occupancy : Occupancy) :
    occupancy.words.toList = (List.range occupancy.wordCount).map occupancy.wordAt := by
  apply List.ext_getElem
  · simp [wordCount]
  · intro position inWords _
    have inArray : position < occupancy.words.size := by simpa using inWords
    simp [wordAt, inArray]

private theorem population_eq_countP (word : BitVec 64) :
    population word = (List.range 64).countP word.getLsbD := by
  unfold population
  split
  · rename_i zero
    subst zero
    decide
  · rfl

private theorem foldl_population (occupancy : Occupancy) (words : Nat) :
    (List.range words).foldl (fun sum position => sum + population (occupancy.wordAt position)) 0 =
      (List.range (64 * words)).countP (· ∈ occupancy) := by
  induction words with
  | zero => simp
  | succ words induction =>
      have lastWord : population (occupancy.wordAt words) =
          (List.range 64).countP fun bit => 64 * words + bit ∈ occupancy := by
        rw [population_eq_countP]
        apply List.countP_congr
        intro bit inWord
        have inWord := List.mem_range.mp inWord
        have position : (64 * words + bit) / 64 = words := by omega
        have place : (64 * words + bit) % 64 = bit := by omega
        simp [mem_def, position, place]
      rw [List.range_succ, List.foldl_append, induction, Nat.mul_succ, List.range_add,
        List.countP_append, List.countP_map]
      simp [lastWord, Function.comp_def]

theorem count_eq_length_members (occupancy : Occupancy) :
    occupancy.count = occupancy.members.length := by
  rw [count, ← Array.foldl_toList, toList_words, List.foldl_map, foldl_population, members,
    List.countP_eq_length_filter]

/-! ## The elements as a finite set -/

def elements (occupancy : Occupancy) : Finset Nat :=
  occupancy.members.toFinset

@[simp] theorem mem_elements {occupancy : Occupancy} {element : Nat} :
    element ∈ occupancy.elements ↔ element ∈ occupancy := by
  rw [elements, List.mem_toFinset, mem_members]

theorem count_eq_card (occupancy : Occupancy) : occupancy.count = occupancy.elements.card := by
  rw [count_eq_length_members, elements, List.toFinset_card_of_nodup (nodup_members occupancy)]

@[simp] theorem elements_vacant (elements : Nat) : (vacant elements).elements = ∅ := by
  ext element
  simp [not_mem_vacant]

@[simp] theorem count_vacant (elements : Nat) : (vacant elements).count = 0 := by
  rw [count_eq_card, elements_vacant, Finset.card_empty]

theorem elements_of_insert {occupancy grown : Occupancy} {element : Nat}
    (taken : occupancy.insert element = .ok grown) :
    grown.elements = Insert.insert element occupancy.elements := by
  ext other
  rw [mem_elements, Finset.mem_insert, mem_elements, mem_iff_of_insert taken]

theorem elements_of_erase {occupancy shrunk : Occupancy} {element : Nat}
    (returned : occupancy.erase element = .ok shrunk) :
    shrunk.elements = occupancy.elements.erase element := by
  ext other
  rw [mem_elements, Finset.mem_erase, mem_elements, mem_iff_of_erase returned]

theorem count_of_insert {occupancy grown : Occupancy} {element : Nat}
    (taken : occupancy.insert element = .ok grown) : grown.count = occupancy.count + 1 := by
  have absent : element ∉ occupancy.elements := by
    rw [mem_elements]
    exact (insert_eq_ok_iff.mp taken).2.1
  rw [count_eq_card, count_eq_card, elements_of_insert taken, Finset.card_insert_of_notMem absent]

theorem count_of_erase {occupancy shrunk : Occupancy} {element : Nat}
    (returned : occupancy.erase element = .ok shrunk) : shrunk.count + 1 = occupancy.count := by
  have member : element ∈ occupancy.elements := by
    rw [mem_elements]
    exact (erase_eq_ok_iff.mp returned).1
  rw [count_eq_card, count_eq_card, elements_of_erase returned, Finset.card_erase_add_one member]

theorem exists_free_of_count_lt {occupancy : Occupancy} {limit : Nat}
    (few : occupancy.count < limit) : ∃ element < limit, element ∉ occupancy := by
  rw [count_eq_card, ← Finset.card_range limit] at few
  rcases Finset.exists_mem_notMem_of_card_lt_card few with ⟨element, inRange, absent⟩
  exact ⟨element, Finset.mem_range.mp inRange, fun member => absent (mem_elements.mpr member)⟩

/-! ## The least free element -/

private theorem lowestClear_spec {word : BitVec 64} (notFull : word ≠ BitVec.allOnes 64) :
    lowestClear word < 64 ∧ word.getLsbD (lowestClear word) = false ∧
      ∀ bit < lowestClear word, word.getLsbD bit = true := by
  have someClear : ~~~word ≠ 0#64 := by
    intro allSet
    apply notFull
    rw [← BitVec.not_not (b := word), allSet]
    rfl
  have inWord : lowestClear word < 64 := BitVec.ctz_lt_iff_ne_zero.mpr someClear
  refine ⟨inWord, ?_, ?_⟩
  · have clear := BitVec.getLsbD_true_ctz_of_ne_zero someClear
    rw [BitVec.getLsbD_not, Bool.and_eq_true, Bool.not_eq_true'] at clear
    exact clear.2
  · intro bit earlier
    have set := BitVec.getLsbD_false_of_lt_ctz earlier
    rw [BitVec.getLsbD_not] at set
    have bitInWord : bit < 64 := Nat.lt_trans earlier inWord
    simpa [bitInWord] using set

private theorem mem_of_full {occupancy : Occupancy} {element : Nat}
    (full : occupancy.wordAt (element / 64) = BitVec.allOnes 64) : element ∈ occupancy := by
  rw [mem_def, full, BitVec.getLsbD_allOnes]
  exact decide_eq_true (Nat.mod_lt _ (by decide))

structure LeastFree (occupancy : Occupancy) (limit element : Nat) : Prop where
  lt_limit : element < limit
  inWords : element < 64 * occupancy.wordCount
  free : element ∉ occupancy
  taken_before : ∀ earlier < element, earlier ∈ occupancy

private theorem mem_of_lt_lowestClear {occupancy : Occupancy} {position element : Nat}
    (notFull : occupancy.wordAt position ≠ BitVec.allOnes 64)
    (fullBefore : ∀ earlier < position, occupancy.wordAt earlier = BitVec.allOnes 64)
    (before : element < 64 * position + lowestClear (occupancy.wordAt position)) :
    element ∈ occupancy := by
  rcases lowestClear_spec notFull with ⟨inWord, _, setBefore⟩
  by_cases sameWord : element / 64 = position
  · rw [mem_def, sameWord]
    exact setBefore _ (by omega)
  · exact mem_of_full (fullBefore _ (by omega))

private theorem leastFree_position {occupancy : Occupancy} {limit position : Nat}
    (inWords : position < occupancy.wordCount)
    (notFull : occupancy.wordAt position ≠ BitVec.allOnes 64)
    (fullBefore : ∀ earlier < position, occupancy.wordAt earlier = BitVec.allOnes 64)
    (below : 64 * position + lowestClear (occupancy.wordAt position) < limit) :
    occupancy.LeastFree limit (64 * position + lowestClear (occupancy.wordAt position)) := by
  rcases lowestClear_spec notFull with ⟨inWord, clear, _⟩
  refine ⟨below, by omega, ?_, fun _ before => mem_of_lt_lowestClear notFull fullBefore before⟩
  generalize lowestClear (occupancy.wordAt position) = bit at *
  have found : (64 * position + bit) / 64 = position := by omega
  have place : (64 * position + bit) % 64 = bit := by omega
  rw [mem_def, found, place, clear]
  exact Bool.false_ne_true

private theorem firstFree_cases (occupancy : Occupancy) (limit : Nat) :
    (∃ element, occupancy.firstFree limit = some element ∧ occupancy.LeastFree limit element) ∨
      (occupancy.firstFree limit = none ∧
        ∀ element < min limit (64 * occupancy.wordCount), element ∈ occupancy) := by
  cases found : occupancy.words.findIdx? (· != BitVec.allOnes 64) with
  | none =>
      right
      refine ⟨by rw [firstFree, found]; rfl, ?_⟩
      intro element below
      have inArray : element / 64 < occupancy.words.size :=
        div_lt_wordCount.mpr (lt_min_iff.mp below).2
      have full := Array.findIdx?_eq_none_iff.mp found _ (Array.getElem_mem inArray)
      apply mem_of_full
      simpa [wordAt, inArray] using full
  | some position =>
      rcases Array.findIdx?_eq_some_iff_getElem.mp found with ⟨inArray, notFull, fullBefore⟩
      have atPosition : occupancy.wordAt position ≠ BitVec.allOnes 64 := by
        simpa [wordAt, inArray] using notFull
      have before : ∀ earlier < position, occupancy.wordAt earlier = BitVec.allOnes 64 := by
        intro earlier lower
        have earlierInArray := Nat.lt_trans lower inArray
        simpa [wordAt, earlierInArray] using fullBefore earlier lower
      by_cases below : 64 * position + lowestClear (occupancy.wordAt position) < limit
      · left
        exact ⟨_, by rw [firstFree, found]; exact if_pos below,
          leastFree_position inArray atPosition before below⟩
      · right
        refine ⟨by rw [firstFree, found]; exact if_neg below, ?_⟩
        intro element lower
        have belowLimit := (lt_min_iff.mp lower).1
        exact mem_of_lt_lowestClear atPosition before (by omega)

theorem LeastFree.unique {occupancy : Occupancy} {limit left right : Nat}
    (leftLeast : occupancy.LeastFree limit left) (rightLeast : occupancy.LeastFree limit right) :
    left = right := by
  rcases Nat.lt_trichotomy left right with before | equal | after
  · exact absurd (rightLeast.taken_before _ before) leftLeast.free
  · exact equal
  · exact absurd (leftLeast.taken_before _ after) rightLeast.free

theorem firstFree_eq_some_iff {occupancy : Occupancy} {limit element : Nat} :
    occupancy.firstFree limit = some element ↔ occupancy.LeastFree limit element := by
  rcases occupancy.firstFree_cases limit with ⟨found, equal, least⟩ | ⟨equal, full⟩
  · rw [equal, Option.some.injEq]
    exact ⟨fun same => same ▸ least, fun other => least.unique other⟩
  · rw [equal]
    constructor
    · intro impossible
      cases impossible
    · intro least
      exact absurd (full element (lt_min least.lt_limit least.inWords)) least.free

theorem firstFree_eq_none_iff {occupancy : Occupancy} {limit : Nat} :
    occupancy.firstFree limit = none ↔
      ∀ element < min limit (64 * occupancy.wordCount), element ∈ occupancy := by
  rcases occupancy.firstFree_cases limit with ⟨found, equal, least⟩ | ⟨equal, full⟩
  · rw [equal]
    constructor
    · intro impossible
      cases impossible
    · intro taken
      exact absurd (taken found (lt_min least.lt_limit least.inWords)) least.free
  · exact ⟨fun _ => full, fun _ => equal⟩

theorem firstFree_eq_find? (occupancy : Occupancy) (limit : Nat) :
    occupancy.firstFree limit =
      (List.range (min limit (64 * occupancy.wordCount))).find? (· ∉ occupancy) := by
  symm
  cases found : occupancy.firstFree limit with
  | none =>
      rw [List.find?_range_eq_none]
      simpa using firstFree_eq_none_iff.mp found
  | some element =>
      have least := firstFree_eq_some_iff.mp found
      have tried := List.mem_range.mpr (lt_min least.lt_limit least.inWords)
      rw [List.find?_range_eq_some]
      exact ⟨decide_eq_true least.free, tried, by simpa using least.taken_before⟩

theorem exists_firstFree {occupancy : Occupancy} {limit : Nat}
    (covered : limit ≤ 64 * occupancy.wordCount) (few : occupancy.count < limit) :
    ∃ element, occupancy.firstFree limit = some element := by
  rcases exists_free_of_count_lt few with ⟨element, below, free⟩
  apply Option.ne_none_iff_exists'.mp
  intro nothing
  have inWords := Nat.lt_of_lt_of_le below covered
  exact free (firstFree_eq_none_iff.mp nothing element (lt_min below inWords))

/-- The search answers with the lowest free element below the limit, whichever word the limit falls
in, and with nothing where every element below the limit is taken. Among up to `2 ^ 58` words the
answer is a machine word, however far the limit. -/
theorem least_free_found (occupancy : Occupancy) (limit : Nat) :
    (∀ element, occupancy.firstFree limit = some element ↔
      element < limit ∧ element < 64 * occupancy.wordCount ∧
        occupancy.contains element = .ok false ∧
        ∀ earlier < element, occupancy.contains earlier = .ok true) ∧
      (occupancy.firstFree limit = none ↔
        ∀ element < min limit (64 * occupancy.wordCount), occupancy.contains element = .ok true) ∧
      occupancy.firstFree limit =
        (List.range (min limit (64 * occupancy.wordCount))).find? (· ∉ occupancy) ∧
      (occupancy.wordCount ≤ 2 ^ 58 →
        ∀ element, occupancy.firstFree limit = some element → element < Checked.wordValues) := by
  simp only [contains_eq_true_iff, contains_eq_false_iff]
  refine ⟨?_, firstFree_eq_none_iff, occupancy.firstFree_eq_find? limit, ?_⟩
  · intro element
    rw [firstFree_eq_some_iff]
    constructor
    · intro least
      exact ⟨least.lt_limit, least.inWords, ⟨least.inWords, least.free⟩, least.taken_before⟩
    · rintro ⟨below, inWords, ⟨_, free⟩, taken⟩
      exact ⟨below, inWords, free, taken⟩
  · intro few element found
    have inWords := (firstFree_eq_some_iff.mp found).inWords
    unfold Checked.wordValues
    omega

/-- The limit falls in the second word, short of its free elements, then behind the first of
them; then it is behind all words, and before all of them. -/
theorem least_free_found_among_words :
    ∃ occupancy : Occupancy, occupancy.words = #[BitVec.allOnes 64, 7, 0] ∧
      occupancy.firstFree 66 = none ∧ occupancy.firstFree 68 = some 67 ∧
      occupancy.firstFree 1000 = some 67 ∧ occupancy.firstFree 0 = none := by
  let occupancy : Occupancy := ⟨#[BitVec.allOnes 64, 7, 0]⟩
  have found (limit : Nat) (below : 67 < limit) : occupancy.firstFree limit = some 67 :=
    ((least_free_found occupancy limit).1 67).mpr
      ⟨below, by decide, by decide +kernel, by decide +kernel⟩
  exact ⟨occupancy, rfl, (least_free_found occupancy 66).2.1.mpr (by decide +kernel),
    found 68 (by decide), found 1000 (by decide),
    (least_free_found occupancy 0).2.1.mpr (by decide)⟩

end SlabRings.Occupancy
