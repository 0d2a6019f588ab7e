import SlabRings.Occupancy

/-!
# What the occupancy operations do to the set

Taking an element adds it and no other, giving it back removes it and no other,
and neither changes the number of words. An operation faults exactly where its
element has no word, or is on the wrong side already.
-/

namespace SlabRings.Occupancy

/-! ## Members and words -/

theorem div_lt_wordCount {occupancy : Occupancy} {element : Nat} :
    element / 64 < occupancy.wordCount ↔ element < 64 * occupancy.wordCount := by
  omega

theorem wordAt_of_le {occupancy : Occupancy} {position : Nat}
    (beyond : occupancy.wordCount ≤ position) : occupancy.wordAt position = 0 := by
  simp only [wordCount] at beyond
  simp [wordAt, beyond]

theorem lt_of_mem {occupancy : Occupancy} {element : Nat} (member : element ∈ occupancy) :
    element / 64 < occupancy.wordCount := by
  refine Classical.byContradiction fun beyond => ?_
  rw [mem_def, wordAt_of_le (Nat.le_of_not_lt beyond)] at member
  simp at member

theorem mem_members {occupancy : Occupancy} {element : Nat} :
    element ∈ occupancy.members ↔ element ∈ occupancy := by
  simp only [members, List.mem_filter, List.mem_range, decide_eq_true_eq]
  exact ⟨fun both => both.2, fun member => ⟨div_lt_wordCount.mp (lt_of_mem member), member⟩⟩

theorem nodup_members (occupancy : Occupancy) : occupancy.members.Nodup :=
  List.nodup_range.filter _

theorem contains_eq_ok_iff {occupancy : Occupancy} {element : Nat} {answer : Bool} :
    occupancy.contains element = .ok answer ↔
      element < 64 * occupancy.wordCount ∧ answer = decide (element ∈ occupancy) := by
  rw [← div_lt_wordCount]
  by_cases inWords : element / 64 < occupancy.wordCount <;> simp [contains, inWords, eq_comm]

theorem contains_eq_true_iff {occupancy : Occupancy} {element : Nat} :
    occupancy.contains element = .ok true ↔ element ∈ occupancy := by
  rw [contains_eq_ok_iff, eq_comm, decide_eq_true_iff]
  exact and_iff_right_of_imp fun member => div_lt_wordCount.mp (lt_of_mem member)

theorem contains_eq_false_iff {occupancy : Occupancy} {element : Nat} :
    occupancy.contains element = .ok false ↔
      element < 64 * occupancy.wordCount ∧ element ∉ occupancy := by
  rw [contains_eq_ok_iff, eq_comm (a := false), decide_eq_false_iff_not]

theorem contains_congr {left right : Occupancy} {element : Nat}
    (sameCount : left.wordCount = right.wordCount) (same : element ∈ left ↔ element ∈ right) :
    left.contains element = right.contains element := by
  simp [contains, sameCount, same]

/-! ## No element taken -/

@[simp] theorem wordCount_vacant (elements : Nat) :
    (vacant elements).wordCount = wordsFor elements := by
  simp [wordCount, vacant]

theorem not_mem_vacant (elements element : Nat) : element ∉ vacant elements := by
  rw [mem_def]
  by_cases inWords : element / 64 < wordsFor elements
  · simp [wordAt, vacant, inWords]
  · rw [wordAt_of_le (by rw [wordCount_vacant]; omega)]
    simp

theorem le_wordsFor (elements : Nat) : elements ≤ 64 * wordsFor elements := by
  unfold wordsFor
  omega

/-! ## One word replaced -/

@[simp] theorem wordCount_setWord (occupancy : Occupancy) (position : Nat) (word : BitVec 64) :
    (occupancy.setWord position word).wordCount = occupancy.wordCount := by
  simp [wordCount, setWord]

theorem wordAt_setWord_same {occupancy : Occupancy} {position : Nat}
    (inWords : position < occupancy.wordCount) (word : BitVec 64) :
    (occupancy.setWord position word).wordAt position = word := by
  simp only [wordCount] at inWords
  simp [wordAt, setWord, inWords]

theorem wordAt_setWord_other {occupancy : Occupancy} {position other : Nat}
    (different : other ≠ position) (word : BitVec 64) :
    (occupancy.setWord position word).wordAt other = occupancy.wordAt other := by
  simp [wordAt, setWord, different.symm]

/-! ## Taking an element -/

theorem insert_eq_ok_iff {occupancy grown : Occupancy} {element : Nat} :
    occupancy.insert element = .ok grown ↔
      element / 64 < occupancy.wordCount ∧ element ∉ occupancy ∧
        grown = occupancy.setWord (element / 64)
          (occupancy.wordAt (element / 64) ||| BitVec.twoPow 64 (element % 64)) := by
  unfold insert
  by_cases inWords : element / 64 < occupancy.wordCount <;>
    by_cases member : element ∈ occupancy <;> simp [inWords, member, eq_comm]

theorem insert_faults_iff {occupancy : Occupancy} {element : Nat} :
    (∃ fault, occupancy.insert element = .error fault) ↔
      64 * occupancy.wordCount ≤ element ∨ element ∈ occupancy := by
  rw [← Nat.not_lt, ← div_lt_wordCount]
  by_cases inWords : element / 64 < occupancy.wordCount <;>
    by_cases member : element ∈ occupancy <;> simp [insert, inWords, member]

theorem mem_iff_of_insert {occupancy grown : Occupancy} {element : Nat}
    (taken : occupancy.insert element = .ok grown) (other : Nat) :
    other ∈ grown ↔ other = element ∨ other ∈ occupancy := by
  obtain ⟨inWords, absent, rfl⟩ := insert_eq_ok_iff.mp taken
  simp only [mem_def]
  by_cases sameWord : other / 64 = element / 64
  · rw [sameWord, wordAt_setWord_same inWords]
    have sameBit : other = element ↔ element % 64 = other % 64 := by omega
    have inBits : element % 64 < 64 := Nat.mod_lt _ (by decide)
    simp [BitVec.getLsbD_twoPow, inBits, sameBit, or_comm]
  · rw [wordAt_setWord_other sameWord]
    have different : other ≠ element := fun equal => sameWord (equal ▸ rfl)
    simp [different]

theorem wordCount_of_insert {occupancy grown : Occupancy} {element : Nat}
    (taken : occupancy.insert element = .ok grown) : grown.wordCount = occupancy.wordCount := by
  obtain ⟨_, _, rfl⟩ := insert_eq_ok_iff.mp taken
  simp

/-! ## Giving an element back -/

theorem erase_eq_ok_iff {occupancy shrunk : Occupancy} {element : Nat} :
    occupancy.erase element = .ok shrunk ↔
      element ∈ occupancy ∧
        shrunk = occupancy.setWord (element / 64)
          (occupancy.wordAt (element / 64) &&& ~~~(BitVec.twoPow 64 (element % 64))) := by
  unfold erase
  by_cases member : element ∈ occupancy
  · simp [lt_of_mem member, member, eq_comm]
  · by_cases inWords : element / 64 < occupancy.wordCount <;> simp [inWords, member]

theorem erase_faults_iff {occupancy : Occupancy} {element : Nat} :
    (∃ fault, occupancy.erase element = .error fault) ↔
      64 * occupancy.wordCount ≤ element ∨ element ∉ occupancy := by
  rw [← Nat.not_lt, ← div_lt_wordCount]
  by_cases inWords : element / 64 < occupancy.wordCount <;>
    by_cases member : element ∈ occupancy <;> simp [erase, inWords, member]

theorem mem_iff_of_erase {occupancy shrunk : Occupancy} {element : Nat}
    (returned : occupancy.erase element = .ok shrunk) (other : Nat) :
    other ∈ shrunk ↔ other ≠ element ∧ other ∈ occupancy := by
  obtain ⟨member, rfl⟩ := erase_eq_ok_iff.mp returned
  simp only [mem_def]
  by_cases sameWord : other / 64 = element / 64
  · rw [sameWord, wordAt_setWord_same (lt_of_mem member)]
    have sameBit : other = element ↔ other % 64 = element % 64 := by omega
    have inBits : other % 64 < 64 := Nat.mod_lt _ (by decide)
    simp [inBits, sameBit, and_comm]
  · rw [wordAt_setWord_other sameWord]
    have different : other ≠ element := fun equal => sameWord (equal ▸ rfl)
    simp [different]

theorem wordCount_of_erase {occupancy shrunk : Occupancy} {element : Nat}
    (returned : occupancy.erase element = .ok shrunk) :
    shrunk.wordCount = occupancy.wordCount := by
  obtain ⟨_, rfl⟩ := erase_eq_ok_iff.mp returned
  simp

/-! ## One undoes the other -/

theorem eq_of_mem_iff {occupancy other : Occupancy}
    (sameCount : other.wordCount = occupancy.wordCount)
    (sameMembers : ∀ element, element ∈ other ↔ element ∈ occupancy) : other = occupancy := by
  have wordAt_eq (position : Nat) : other.wordAt position = occupancy.wordAt position := by
    apply BitVec.eq_of_getLsbD_eq
    intro bit inBits
    have same := sameMembers (64 * position + bit)
    have word : (64 * position + bit) / 64 = position := by omega
    have place : (64 * position + bit) % 64 = bit := by omega
    rwa [mem_def, mem_def, word, place, ← Bool.eq_iff_iff] at same
  rcases occupancy with ⟨words⟩
  rcases other with ⟨otherWords⟩
  have words_eq : otherWords = words := by
    apply Array.ext sameCount
    intro position inOther inWords
    simpa [wordAt, inOther, inWords] using wordAt_eq position
  rw [words_eq]

theorem insert_of_erase {occupancy shrunk : Occupancy} {element : Nat}
    (returned : occupancy.erase element = .ok shrunk) : shrunk.insert element = .ok occupancy := by
  have member := (erase_eq_ok_iff.mp returned).1
  have inWords : element / 64 < shrunk.wordCount := by
    rw [wordCount_of_erase returned]
    exact lt_of_mem member
  have absent : element ∉ shrunk := fun remains =>
    ((mem_iff_of_erase returned element).mp remains).1 rfl
  have taken := insert_eq_ok_iff.mpr ⟨inWords, absent, rfl⟩
  rw [taken]
  congr 1
  apply eq_of_mem_iff
  · rw [wordCount_of_insert taken, wordCount_of_erase returned]
  · intro other
    rw [mem_iff_of_insert taken, mem_iff_of_erase returned]
    by_cases same : other = element
    · simp [same, member]
    · simp [same]

theorem erase_of_insert {occupancy grown : Occupancy} {element : Nat}
    (taken : occupancy.insert element = .ok grown) : grown.erase element = .ok occupancy := by
  have absent := (insert_eq_ok_iff.mp taken).2.1
  have returned := erase_eq_ok_iff.mpr ⟨(mem_iff_of_insert taken element).mpr (.inl rfl), rfl⟩
  rw [returned]
  congr 1
  apply eq_of_mem_iff
  · rw [wordCount_of_erase returned, wordCount_of_insert taken]
  · intro other
    rw [mem_iff_of_erase returned, mem_iff_of_insert taken]
    by_cases same : other = element
    · simp [same, absent]
    · simp [same]

end SlabRings.Occupancy
