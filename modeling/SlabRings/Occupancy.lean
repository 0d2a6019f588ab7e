import SlabRings.Fault
import SlabRings.Text.Record

/-!
# Occupancy

Which elements of a run are taken, one bit an element, in words of 64 bits. The
words carry a finite set of element indices: `occupancy.members` lists it, and
`element ∈ occupancy` tests it. Each operation is described by what it does to
that set, so nothing later has to look at a word.
-/

namespace SlabRings

structure Occupancy where
  words : Array (BitVec 64) := #[]
deriving DecidableEq, Repr

namespace Occupancy

/-! ## Words -/

def wordsFor (elements : Nat) : Nat :=
  (elements + 63) / 64

def vacant (elements : Nat) : Occupancy where
  words := Array.replicate (wordsFor elements) 0

def wordCount (occupancy : Occupancy) : Nat :=
  occupancy.words.size

/-- The word at a position. Beyond the words no element is taken. -/
def wordAt (occupancy : Occupancy) (position : Nat) : BitVec 64 :=
  occupancy.words[position]?.getD 0

def setWord (occupancy : Occupancy) (position : Nat) (word : BitVec 64) : Occupancy where
  words := occupancy.words.setIfInBounds position word

/-! ## The set of taken elements -/

instance : Membership Nat Occupancy where
  mem occupancy element := (occupancy.wordAt (element / 64)).getLsbD (element % 64) = true

theorem mem_def {occupancy : Occupancy} {element : Nat} :
    element ∈ occupancy ↔
      (occupancy.wordAt (element / 64)).getLsbD (element % 64) = true :=
  Iff.rfl

instance (element : Nat) (occupancy : Occupancy) : Decidable (element ∈ occupancy) :=
  decidable_of_iff _ mem_def.symm

def members (occupancy : Occupancy) : List Nat :=
  (List.range (64 * occupancy.wordCount)).filter (· ∈ occupancy)

/-! ## Operations -/

def contains (occupancy : Occupancy) (element : Nat) : Except Fault Bool :=
  if element / 64 < occupancy.wordCount then
    .ok (element ∈ occupancy)
  else
    .error (.outOfBounds occupancy.wordCount (element / 64))

def insert (occupancy : Occupancy) (element : Nat) : Except Fault Occupancy :=
  if element / 64 < occupancy.wordCount then
    if element ∈ occupancy then
      .error (.alreadyAllocated element)
    else
      let word := occupancy.wordAt (element / 64) ||| BitVec.twoPow 64 (element % 64)
      .ok (occupancy.setWord (element / 64) word)
  else
    .error (.outOfBounds occupancy.wordCount (element / 64))

def erase (occupancy : Occupancy) (element : Nat) : Except Fault Occupancy :=
  if element / 64 < occupancy.wordCount then
    if element ∈ occupancy then
      let word := occupancy.wordAt (element / 64) &&& ~~~(BitVec.twoPow 64 (element % 64))
      .ok (occupancy.setWord (element / 64) word)
    else
      .error (.notAllocated element)
  else
    .error (.outOfBounds occupancy.wordCount (element / 64))

def insertRun (occupancy : Occupancy) (first : Nat) : (count : Nat) → Except Fault Occupancy
  | 0 => .ok occupancy
  | count + 1 => do insertRun (← occupancy.insert first) (first + 1) count

def eraseRun (occupancy : Occupancy) (first : Nat) : (count : Nat) → Except Fault Occupancy
  | 0 => .ok occupancy
  | count + 1 => do eraseRun (← occupancy.erase first) (first + 1) count

def lowestClear (word : BitVec 64) : Nat :=
  (~~~word).ctz.toNat

/-- The lowest free element, if it is below `limit`. Full words are passed over
whole; the first other word decides. -/
def firstFree (occupancy : Occupancy) (limit : Nat) : Option Nat := do
  let position ← occupancy.words.findIdx? (· != BitVec.allOnes 64)
  let element := 64 * position + lowestClear (occupancy.wordAt position)
  if element < limit then some element else none

def population (word : BitVec 64) : Nat :=
  if word = 0 then 0 else (List.range 64).countP word.getLsbD

def count (occupancy : Occupancy) : Nat :=
  occupancy.words.foldl (fun total word => total + population word) 0

/-! ## Text -/

def record (occupancy : Occupancy) : Text.Record where
  title := "ElementBitmap"
  fields :=
    [("words", Text.bracketed (occupancy.words.toList.map fun word => toString word.toNat))]

example : (vacant 65).record.compact = "ElementBitmap \x7b words: [0, 0] \x7d" := by cbv

example : ((vacant 3).insertRun 0 2).toOption.bind (·.firstFree 3) = some 2 := by cbv

end Occupancy

end SlabRings
