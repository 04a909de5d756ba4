import Mathlib.Data.Nat.Notation

namespace Ch32v307.Data.Bits

/-! Bits and fields of a register. A driver clears what it is about to write
with a mask, then sets it. -/

variable {w : Nat}

def bit (k : Nat) : BitVec w := 1#w <<< k

theorem getLsbD_bit (k j : Nat) :
    (bit k : BitVec w).getLsbD j = (decide (j < w) && decide (j = k)) := by
  rw [bit, ← BitVec.twoPow_eq, BitVec.getLsbD_twoPow]
  by_cases same : j = k
  · simp [same]
  · simp [same, Ne.symm same]

theorem getLsbD_set (register : BitVec w) (k j : Nat) (inside : j < w) :
    (register ||| bit k).getLsbD j = (register.getLsbD j || decide (j = k)) := by
  rw [BitVec.getLsbD_or, getLsbD_bit]
  simp [inside]

theorem getLsbD_clear (register : BitVec w) (k j : Nat) (inside : j < w) :
    (register &&& ~~~bit k).getLsbD j =
      (register.getLsbD j && decide (j ≠ k)) := by
  rw [BitVec.getLsbD_and, BitVec.getLsbD_not, getLsbD_bit]
  simp [inside]

theorem and_bit_ne_zero_iff (register : BitVec w) {k : Nat} (inside : k < w) :
    register &&& bit k ≠ 0#w ↔ register.getLsbD k = true := by
  constructor
  · intro nonzero
    rw [← Bool.not_eq_false]
    intro off
    apply nonzero
    apply BitVec.eq_of_getLsbD_eq
    intro j bound
    rw [BitVec.getLsbD_and, getLsbD_bit, BitVec.getLsbD_zero]
    by_cases same : j = k
    · rw [same, off, Bool.false_and]
    · simp [same]
  · intro on zero
    have read : (register &&& bit k).getLsbD k = (0#w).getLsbD k := by
      rw [zero]
    rw [BitVec.getLsbD_and, getLsbD_bit, on, BitVec.getLsbD_zero] at read
    simp [inside] at read

/-- A bit cleared and then set if `on` reads as `on`. -/
theorem getLsbD_rewrite (register : BitVec w) (k j : Nat) (on : Bool)
    (inside : j < w) :
    (if on then register &&& ~~~bit k ||| bit k
      else register &&& ~~~bit k).getLsbD j =
      if j = k then on else register.getLsbD j := by
  cases on with
  | false =>
      rw [if_neg Bool.false_ne_true, getLsbD_clear _ _ _ inside]
      by_cases same : j = k <;> simp [same]
  | true =>
      rw [if_pos rfl, getLsbD_set _ _ _ inside, getLsbD_clear _ _ _ inside]
      by_cases same : j = k <;> simp [same]

def mask (ks : List Nat) : BitVec w :=
  ks.foldr (fun k rest => bit k ||| rest) 0

theorem getLsbD_mask (ks : List Nat) (j : Nat) (inside : j < w) :
    (mask ks : BitVec w).getLsbD j = decide (j ∈ ks) := by
  induction ks with
  | nil => simp [mask]
  | cons k rest ih =>
      rw [mask] at ih ⊢
      rw [List.foldr_cons, BitVec.getLsbD_or, ih, getLsbD_bit]
      simp [inside]

def field (start n : Nat) (register : BitVec w) : BitVec n :=
  register.extractLsb' start n

def insertField (start n : Nat) (value register : BitVec w) : BitVec w :=
  register &&& ~~~((BitVec.allOnes n).setWidth w <<< start) |||
    (value <<< start)

theorem getLsbD_insertField {start n j : Nat} (value : BitVec n)
    (register : BitVec w) (inside : j < w) :
    (insertField start n (value.setWidth w) register).getLsbD j =
      if start ≤ j ∧ j < start + n then value.getLsbD (j - start)
      else register.getLsbD j := by
  rw [insertField, BitVec.getLsbD_or, BitVec.getLsbD_and, BitVec.getLsbD_not,
    BitVec.getLsbD_shiftLeft, BitVec.getLsbD_shiftLeft, BitVec.getLsbD_setWidth,
    BitVec.getLsbD_setWidth, BitVec.getLsbD_allOnes]
  have shifted : j - start < w := by omega
  by_cases below : j < start
  · have outside : ¬ (start ≤ j ∧ j < start + n) := by omega
    simp [inside, below, outside]
  · by_cases above : j < start + n
    · have within : j - start < n := by omega
      have between : start ≤ j ∧ j < start + n := by omega
      simp [inside, below, shifted, within, between]
    · have beyond : ¬ j - start < n := by omega
      have outside : ¬ (start ≤ j ∧ j < start + n) := by omega
      have blank := BitVec.getLsbD_of_ge value (j - start) (by omega)
      simp [inside, below, shifted, beyond, outside, blank]

theorem field_insertField_same {start n : Nat} (value : BitVec n)
    (register : BitVec w) (inside : start + n ≤ w) :
    field start n (insertField start n (value.setWidth w) register) = value := by
  ext i bound
  rw [field, BitVec.getElem_extractLsb', getLsbD_insertField _ _ (by omega),
    if_pos (by omega), Nat.add_sub_cancel_left, BitVec.getLsbD_eq_getElem]

theorem field_insertField_other {start other n : Nat} (value : BitVec n)
    (register : BitVec w) (inside : other + n ≤ w)
    (apart : start + n ≤ other ∨ other + n ≤ start) :
    field other n (insertField start n (value.setWidth w) register) =
      field other n register := by
  ext i bound
  rw [field, field, BitVec.getElem_extractLsb', BitVec.getElem_extractLsb',
    getLsbD_insertField _ _ (by omega), if_neg (by omega)]

end Ch32v307.Data.Bits
