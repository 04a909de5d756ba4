import Mathlib.Data.Rat.Floor
import Mathlib.Tactic.Linarith

namespace Ch32v307.Ws2812

/-! Colors by hue, saturation and value, in exact rationals. -/

structure Hsv where
  h : ℚ
  s : ℚ
  v : ℚ
  deriving DecidableEq

/-- Conversion to an integer type drops the fraction. -/
def truncate (value : ℚ) : ℤ := if 0 ≤ value then ⌊value⌋ else ⌈value⌉

def fmod (value modulus : ℚ) : ℚ :=
  value - modulus * truncate (value / modulus)

def sextant (i : ℤ) (v p q t : ℚ) : ℚ × ℚ × ℚ :=
  match i with
  | 0 => (v, t, p)
  | 1 => (q, v, p)
  | 2 => (p, v, t)
  | 3 => (p, q, v)
  | 4 => (t, p, v)
  | _ => (v, p, q)

def wheelChannels (hsv : Hsv) (hh : ℚ) : ℚ × ℚ × ℚ :=
  let i := truncate hh
  let ff := hh - i
  let p := hsv.v * (1 - hsv.s)
  let q := hsv.v * (1 - hsv.s * ff)
  let t := hsv.v * (1 - hsv.s * (1 - ff))
  sextant i hsv.v p q t

def hsvChannels (hsv : Hsv) : ℚ × ℚ × ℚ :=
  if hsv.s ≤ 0 then
    (hsv.v, hsv.v, hsv.v)
  else
    let hh := if hsv.h ≥ 360 then 0 else hsv.h
    wheelChannels hsv (hh / 60)

def toUint8 (value : ℚ) : UInt8 := UInt8.ofNat (truncate value).toNat

def ws2812HsvToRgb (hsv : Hsv) : UInt8 × UInt8 × UInt8 :=
  let (rF, gF, bF) := hsvChannels hsv
  (toUint8 (rF * 255), toUint8 (gF * 255), toUint8 (bF * 255))

theorem truncate_of_nonneg {value : ℚ} (nonneg : 0 ≤ value) :
    truncate value = ⌊value⌋ := if_pos nonneg

theorem fmod_nonneg {value modulus : ℚ} (nonneg : 0 ≤ value)
    (positive : 0 < modulus) : 0 ≤ fmod value modulus := by
  have quotient : 0 ≤ value / modulus := div_nonneg nonneg positive.le
  have below := Int.floor_le (value / modulus)
  rw [le_div_iff₀ positive] at below
  rw [fmod, truncate_of_nonneg quotient]
  linarith

theorem fmod_lt {value modulus : ℚ} (nonneg : 0 ≤ value)
    (positive : 0 < modulus) : fmod value modulus < modulus := by
  have quotient : 0 ≤ value / modulus := div_nonneg nonneg positive.le
  have above := Int.lt_floor_add_one (value / modulus)
  rw [div_lt_iff₀ positive] at above
  rw [fmod, truncate_of_nonneg quotient]
  linarith

theorem fmod_eq_sub {value modulus : ℚ} (nonneg : 0 ≤ value)
    (positive : 0 < modulus) (below : value < 2 * modulus) :
    fmod value modulus =
      if value ≥ modulus then value - modulus else value := by
  have quotient : 0 ≤ value / modulus := div_nonneg nonneg positive.le
  rw [fmod, truncate_of_nonneg quotient]
  by_cases wraps : value ≥ modulus
  · have one : ⌊value / modulus⌋ = 1 := by
      rw [Int.floor_eq_iff]
      constructor
      · rw [le_div_iff₀ positive]
        simpa using wraps
      · rw [div_lt_iff₀ positive]
        push_cast
        linarith
    rw [if_pos wraps, one]
    simp
  · have zero : ⌊value / modulus⌋ = 0 := by
      rw [Int.floor_eq_zero_iff, Set.mem_Ico]
      exact ⟨quotient, (div_lt_one positive).mpr (not_le.mp wraps)⟩
    rw [if_neg wraps, zero]
    simp

/-! Every channel is a part of the value. -/

def PartOf (channel value : ℚ) : Prop := 0 ≤ channel ∧ channel ≤ value

theorem partOf_self {value : ℚ} (nonneg : 0 ≤ value) : PartOf value value :=
  ⟨nonneg, le_refl value⟩

theorem partOf_mul {value weight : ℚ} (nonneg : 0 ≤ value)
    (lower : 0 ≤ weight) (upper : weight ≤ 1) :
    PartOf (value * weight) value :=
  ⟨mul_nonneg nonneg lower, mul_le_of_le_one_right nonneg upper⟩

theorem sextant_partOf (i : ℤ) {v p q t : ℚ} (whole : PartOf v v)
    (low : PartOf p v) (falling : PartOf q v) (rising : PartOf t v) :
    PartOf (sextant i v p q t).1 v ∧ PartOf (sextant i v p q t).2.1 v ∧
      PartOf (sextant i v p q t).2.2 v := by
  unfold sextant
  split
  · exact ⟨whole, rising, low⟩
  · exact ⟨falling, whole, low⟩
  · exact ⟨low, whole, rising⟩
  · exact ⟨low, falling, whole⟩
  · exact ⟨rising, low, whole⟩
  · exact ⟨whole, low, falling⟩

theorem wheelChannels_partOf {hsv : Hsv} {hh : ℚ} (hue : 0 ≤ hh)
    (weak : 0 ≤ hsv.s) (strong : hsv.s ≤ 1) (value : 0 ≤ hsv.v) :
    PartOf (wheelChannels hsv hh).1 hsv.v ∧
      PartOf (wheelChannels hsv hh).2.1 hsv.v ∧
      PartOf (wheelChannels hsv hh).2.2 hsv.v := by
  have lower := Int.floor_le hh
  have upper := Int.lt_floor_add_one hh
  rw [← truncate_of_nonneg hue] at lower upper
  have falling : 0 ≤ hsv.s * (hh - truncate hh) :=
    mul_nonneg weak (by linarith)
  have fallingLe : hsv.s * (hh - truncate hh) ≤ 1 :=
    mul_le_one₀ strong (by linarith) (by linarith)
  have rising : 0 ≤ hsv.s * (1 - (hh - truncate hh)) :=
    mul_nonneg weak (by linarith)
  have risingLe : hsv.s * (1 - (hh - truncate hh)) ≤ 1 :=
    mul_le_one₀ strong (by linarith) (by linarith)
  exact sextant_partOf _ (partOf_self value)
    (partOf_mul value (by linarith) (by linarith))
    (partOf_mul value (by linarith) (by linarith))
    (partOf_mul value (by linarith) (by linarith))

theorem hsvChannels_partOf {hsv : Hsv} (hue : 0 ≤ hsv.h) (strong : hsv.s ≤ 1)
    (value : 0 ≤ hsv.v) :
    PartOf (hsvChannels hsv).1 hsv.v ∧ PartOf (hsvChannels hsv).2.1 hsv.v ∧
      PartOf (hsvChannels hsv).2.2 hsv.v := by
  unfold hsvChannels
  split_ifs with gray full
  · exact ⟨partOf_self value, partOf_self value, partOf_self value⟩
  · exact wheelChannels_partOf (by norm_num) (not_le.mp gray).le strong value
  · exact wheelChannels_partOf (div_nonneg hue (by norm_num))
      (not_le.mp gray).le strong value

end Ch32v307.Ws2812
