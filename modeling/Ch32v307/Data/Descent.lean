import Mathlib.Order.Monotone.Basic

namespace Ch32v307.Data

/-! Counts that go down by one at a time, if at all. -/

def Descent (count : Nat → Nat) : Prop :=
  ∀ i, count (i + 1) = count i ∨ count (i + 1) + 1 = count i

namespace Descent

variable {count : Nat → Nat}

/-- The step on which the count leaves a value. -/
structure Leaves (count : Nat → Nat) (value i : Nat) : Prop where
  here : count i = value
  next : count (i + 1) + 1 = value

theorem antitone (descent : Descent count) : Antitone count := by
  apply antitone_nat_of_succ_le
  intro i
  rcases descent i with same | down
  · exact same.le
  · omega

/-- Every value passed is left on one of the steps. -/
theorem leaves_between (descent : Descent count) (steps : Nat) {value : Nat}
    (below : value ≤ count 0) (passed : count steps < value) :
    ∃ i < steps, Leaves count value i := by
  induction steps with
  | zero => omega
  | succ steps ih =>
      by_cases earlier : count steps < value
      · obtain ⟨i, inSteps, leaves⟩ := ih earlier
        exact ⟨i, by omega, leaves⟩
      · rcases descent steps with same | down
        · omega
        · exact ⟨steps, by omega, by omega, by omega⟩

/-- It is left once. -/
theorem leaves_unique (descent : Descent count) {value i j : Nat}
    (left : Leaves count value i) (again : Leaves count value j) : i = j := by
  have order := antitone descent
  rcases Nat.lt_trichotomy i j with before | same | after
  · have passed : count j ≤ count (i + 1) := order before
    have := left.next
    have := again.here
    omega
  · exact same
  · have passed : count i ≤ count (j + 1) := order after
    have := again.next
    have := left.here
    omega

end Descent

end Ch32v307.Data
