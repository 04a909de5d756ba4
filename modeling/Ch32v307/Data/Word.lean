import Mathlib.Data.Nat.Bitwise

namespace Ch32v307.Data.Word

/-! Machine words and the bytes they are sent as. -/

@[simp] theorem toNat_shiftRight_eight (word : UInt16) :
    (word >>> 8).toNat = word.toNat / 256 := by
  rw [UInt16.toNat_shiftRight]
  exact Nat.shiftRight_eq_div_pow word.toNat 8

@[simp] theorem toNat_and_byte (word : UInt16) :
    (word &&& 0xFF).toNat = word.toNat % 256 := by
  rw [UInt16.toNat_and]
  exact Nat.and_two_pow_sub_one_eq_mod word.toNat 8

theorem eq_of_bytes {left right : UInt16}
    (high : left >>> 8 = right >>> 8)
    (low : left &&& 0xFF = right &&& 0xFF) : left = right := by
  have highEq := congrArg UInt16.toNat high
  have lowEq := congrArg UInt16.toNat low
  simp only [toNat_shiftRight_eight, toNat_and_byte] at highEq lowEq
  apply UInt16.toNat_inj.mp
  omega

theorem sub_left_injective {base left right : UInt16}
    (same : base - left = base - right) : left = right := by
  have values := congrArg UInt16.toNat same
  simp only [UInt16.toNat_sub] at values
  have leftBound := left.toNat_lt
  have rightBound := right.toNat_lt
  have baseBound := base.toNat_lt
  apply UInt16.toNat_inj.mp
  omega

theorem toNat_succ {word : UInt16} (more : word.toNat < 65535) :
    (word + 1).toNat = word.toNat + 1 := by
  simp only [UInt16.toNat_add, UInt16.toNat_one]
  omega

/-- The last of the words from one on. -/
theorem toNat_last {first length size : UInt16} (nonempty : 0 < length.toNat)
    (fits : first.toNat + length.toNat ≤ size.toNat) :
    (first + length - 1).toNat = first.toNat + length.toNat - 1 := by
  have bound := size.toNat_lt
  simp only [UInt16.toNat_sub, UInt16.toNat_add, UInt16.toNat_one]
  omega

theorem succ_add_ofNat (word : UInt16) (count : Nat) :
    word + 1 + UInt16.ofNat count = word + UInt16.ofNat (count + 1) := by
  rw [UInt16.ofNat_add, UInt16.add_assoc, UInt16.add_comm (UInt16.ofNat count)]
  rfl

end Ch32v307.Data.Word
