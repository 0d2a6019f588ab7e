import SlabRings.Fault

/-!
# Checked word arithmetic

Counts, indices and byte distances are natural numbers that must stay below
`wordValues`, the number of values that 64 bits have. An operation whose exact
result would leave that range is a fault; otherwise the result is the exact one,
so nothing ever wraps.
-/

namespace SlabRings.Checked

def wordValues : Nat := 0x10000000000000000

def add (left right : Nat) : Except Fault Nat :=
  if left + right < wordValues then .ok (left + right) else .error .sumOverflow

def sub (left right : Nat) : Except Fault Nat :=
  if right ≤ left then .ok (left - right) else .error .differenceOverflow

def mul (left right : Nat) : Except Fault Nat :=
  if left * right < wordValues then .ok (left * right) else .error .productOverflow

/-! ## When each operation succeeds -/

theorem bind_eq_ok_iff {first : Except Fault α} {second : α → Except Fault β} {result : β} :
    first >>= second = .ok result ↔
      ∃ middle, first = .ok middle ∧ second middle = .ok result := by
  cases first <;> simp [bind, Except.bind]

theorem add_eq_ok_iff {left right total : Nat} :
    add left right = .ok total ↔ left + right < wordValues ∧ total = left + right := by
  by_cases fits : left + right < wordValues <;> simp [add, fits, eq_comm]

theorem sub_eq_ok_iff {left right difference : Nat} :
    sub left right = .ok difference ↔ right ≤ left ∧ difference = left - right := by
  by_cases fits : right ≤ left <;> simp [sub, fits, eq_comm]

theorem mul_eq_ok_iff {left right product : Nat} :
    mul left right = .ok product ↔ left * right < wordValues ∧ product = left * right := by
  by_cases fits : left * right < wordValues <;> simp [mul, fits, eq_comm]

end SlabRings.Checked
