import Ch32v307.Ws2812.Hsv
import Mathlib.Tactic.IntervalCases

namespace Ch32v307.Ws2812

/-! The conversion of colors against its closed form: one trapezoid over the
wheel, at a different offset for each channel. -/

def trapezoid (k : ℚ) : ℚ := max 0 (min (min k (4 - k)) 1)

/-- How far a channel is from full strength, for its offset on the wheel. -/
def drop (n : ℕ) (h : ℚ) : ℚ := trapezoid (fmod (n + h / 60) 6)

def channelAt (hsv : Hsv) (n : ℕ) : ℚ :=
  hsv.v - hsv.v * hsv.s * drop n hsv.h

def hsvFormula (hsv : Hsv) (n : ℕ) : ℤ := ⌊255 * channelAt hsv n⌋

structure Hsv.InRange (hsv : Hsv) : Prop where
  hue : 0 ≤ hsv.h ∧ hsv.h ≤ 360
  saturation : 0 ≤ hsv.s ∧ hsv.s ≤ 1
  value : 0 ≤ hsv.v ∧ hsv.v ≤ 1

/-! The four pieces of the trapezoid. -/

theorem trapezoid_rising {ff : ℚ} (lower : 0 ≤ ff) (upper : ff < 1) :
    trapezoid (0 + ff) = ff := by
  rw [trapezoid, zero_add, min_eq_left (by linarith : ff ≤ 4 - ff),
    min_eq_left upper.le, max_eq_right lower]

theorem trapezoid_top {k : ℚ} (lower : 1 ≤ k) (upper : k ≤ 3) :
    trapezoid k = 1 := by
  have within : 1 ≤ min k (4 - k) := le_min lower (by linarith)
  rw [trapezoid, min_eq_right within, max_eq_right zero_le_one]

theorem trapezoid_falling {ff : ℚ} (lower : 0 ≤ ff) (upper : ff < 1) :
    trapezoid (3 + ff) = 1 - ff := by
  have slope : 4 - (3 + ff) = 1 - ff := by ring
  rw [trapezoid, slope, min_eq_right (by linarith : 1 - ff ≤ 3 + ff),
    min_eq_left (by linarith : 1 - ff ≤ 1), max_eq_right (by linarith)]

theorem trapezoid_zero {k : ℚ} (beyond : 4 ≤ k) : trapezoid k = 0 := by
  have below : min (min k (4 - k)) 1 ≤ 0 :=
    (min_le_left _ _).trans ((min_le_right _ _).trans (by linarith))
  rw [trapezoid, max_eq_left below]

theorem trapezoid_bounds (k : ℚ) : 0 ≤ trapezoid k ∧ trapezoid k ≤ 1 :=
  ⟨le_max_left _ _, max_le zero_le_one (min_le_right _ _)⟩

/-! Sector by sector. -/

theorem fmod_sector {n i : ℕ} (offset : n < 6) (sector : i < 6) {ff : ℚ}
    (lower : 0 ≤ ff) (upper : ff < 1) :
    fmod (n + (i + ff)) 6 = ((n + i) % 6 : ℕ) + ff := by
  have offsetLe : (n : ℚ) ≤ 5 := by exact_mod_cast Nat.le_of_lt_succ offset
  have sectorLe : (i : ℚ) ≤ 5 := by exact_mod_cast Nat.le_of_lt_succ sector
  have nonneg : (0 : ℚ) ≤ n + (i + ff) := by positivity
  rw [fmod_eq_sub nonneg (by norm_num) (by linarith)]
  by_cases wraps : 6 ≤ n + i
  · have wrapsRat : (6 : ℚ) ≤ n + i := by exact_mod_cast wraps
    have place : (n + i) % 6 = n + i - 6 := by omega
    rw [if_pos (by linarith), place, Nat.cast_sub wraps]
    push_cast
    ring
  · have place : (n + i) % 6 = n + i := Nat.mod_eq_of_lt (by omega)
    have below : (n : ℚ) + i ≤ 5 := by exact_mod_cast (by omega : n + i ≤ 5)
    rw [if_neg (by linarith), place]
    push_cast
    ring

/-- The trapezoid at a whole number of sectors and a fraction. -/
def sectorDrop (ff : ℚ) : ℕ → ℚ
  | 0 => ff
  | 1 | 2 => 1
  | 3 => 1 - ff
  | _ => 0

theorem trapezoid_sector {m : ℕ} (inside : m < 6) {ff : ℚ} (lower : 0 ≤ ff)
    (upper : ff < 1) : trapezoid (m + ff) = sectorDrop ff m := by
  interval_cases m
  · exact_mod_cast trapezoid_rising lower upper
  · exact trapezoid_top (by push_cast; linarith) (by push_cast; linarith)
  · exact trapezoid_top (by push_cast; linarith) (by push_cast; linarith)
  · exact_mod_cast trapezoid_falling lower upper
  · exact trapezoid_zero (by push_cast; linarith)
  · exact trapezoid_zero (by push_cast; linarith)

/-- A place on the wheel is a sector and a fraction of one. -/
theorem exists_sector {hh : ℚ} (lower : 0 ≤ hh) (upper : hh < 6) :
    ∃ (i : ℕ) (ff : ℚ), i < 6 ∧ 0 ≤ ff ∧ ff < 1 ∧ hh = i + ff ∧
      truncate hh = i := by
  obtain ⟨i, floor⟩ := Int.eq_ofNat_of_zero_le (Int.floor_nonneg.mpr lower)
  have below := Int.floor_le hh
  have above := Int.lt_floor_add_one hh
  rw [floor] at below above
  have sector : (i : ℚ) < 6 := lt_of_le_of_lt (by exact_mod_cast below) upper
  refine ⟨i, hh - i, by exact_mod_cast sector, ?_, ?_, by ring, ?_⟩
  · exact sub_nonneg.mpr (by exact_mod_cast below)
  · have nextSector : hh < (i : ℚ) + 1 := by exact_mod_cast above
    linarith
  · rw [truncate_of_nonneg lower, floor]

theorem drop_sector {h ff : ℚ} {n i : ℕ} (offset : n < 6) (sector : i < 6)
    (lower : 0 ≤ ff) (upper : ff < 1) (place : h / 60 = i + ff) :
    drop n h = sectorDrop ff ((n + i) % 6) := by
  rw [drop, place, fmod_sector offset sector lower upper]
  exact trapezoid_sector (Nat.mod_lt _ (by decide)) lower upper

theorem wheelChannels_sector (hsv : Hsv) {i : ℕ} {ff hh : ℚ} (sector : i < 6)
    (place : hh = i + ff) (whole : truncate hh = i) :
    wheelChannels hsv hh =
      (hsv.v - hsv.v * hsv.s * sectorDrop ff ((5 + i) % 6),
        hsv.v - hsv.v * hsv.s * sectorDrop ff ((3 + i) % 6),
        hsv.v - hsv.v * hsv.s * sectorDrop ff ((1 + i) % 6)) := by
  have fraction : hh - (i : ℤ) = ff := by
    rw [place]
    push_cast
    ring
  unfold wheelChannels
  simp only [whole, fraction]
  interval_cases i
  all_goals
    simp only [sextant, sectorDrop, Nat.reduceAdd, Nat.reduceMod,
      Nat.cast_ofNat, Nat.cast_zero, Nat.cast_one]
    refine Prod.ext ?_ (Prod.ext ?_ ?_)
    all_goals
      dsimp only
      ring

theorem drop_wraps {n : ℕ} (offset : n < 6) : drop n 360 = drop n 0 := by
  have offsetLe : (n : ℚ) ≤ 5 := by exact_mod_cast Nat.le_of_lt_succ offset
  have nonneg : (0 : ℚ) ≤ n := Nat.cast_nonneg n
  have around : fmod ((n : ℚ) + 360 / 60) 6 = n := by
    rw [fmod_eq_sub (by linarith) (by norm_num) (by linarith),
      if_pos (by linarith)]
    ring
  have still : fmod ((n : ℚ) + 0 / 60) 6 = n := by
    rw [zero_div, add_zero, fmod_eq_sub nonneg (by norm_num) (by linarith),
      if_neg (by linarith)]
  rw [drop, drop, around, still]

/-- The three drops of a hue: all on the trapezoid of one sector. -/
theorem exists_drops {h : ℚ} (hue : 0 ≤ h ∧ h ≤ 360) :
    ∃ (i : ℕ) (ff : ℚ), i < 6 ∧ 0 ≤ ff ∧ ff < 1 ∧
      (if h ≥ 360 then 0 else h) / 60 = i + ff ∧
      truncate ((if h ≥ 360 then 0 else h) / 60) = i ∧
      ∀ n < 6, drop n h = sectorDrop ff ((n + i) % 6) := by
  have wrapped : 0 ≤ (if h ≥ 360 then 0 else h) / 60 ∧
      (if h ≥ 360 then 0 else h) / 60 < 6 := by
    split_ifs with full
    · norm_num
    · constructor
      · linarith [hue.1]
      · linarith
  obtain ⟨i, ff, sector, lower, upper, place, whole⟩ :=
    exists_sector wrapped.1 wrapped.2
  refine ⟨i, ff, sector, lower, upper, place, whole, fun n offset => ?_⟩
  have same : drop n h = drop n (if h ≥ 360 then 0 else h) := by
    split_ifs with full
    · rw [le_antisymm hue.2 full, drop_wraps offset]
    · rfl
  rw [same]
  exact drop_sector offset sector lower upper place

theorem hsvChannels_eq_channelAt {hsv : Hsv} (inRange : hsv.InRange) :
    hsvChannels hsv = (channelAt hsv 5, channelAt hsv 3, channelAt hsv 1) := by
  obtain ⟨i, ff, sector, _, _, place, whole, drops⟩ := exists_drops inRange.hue
  unfold hsvChannels
  by_cases gray : hsv.s ≤ 0
  · have none : hsv.s = 0 := le_antisymm gray inRange.saturation.1
    rw [if_pos gray]
    simp only [channelAt, none, mul_zero, zero_mul, sub_zero]
  · rw [if_neg gray]
    dsimp only
    rw [wheelChannels_sector hsv sector place whole]
    simp only [channelAt, drops 5 (by decide), drops 3 (by decide),
      drops 1 (by decide)]

/-- In every sector one channel is at full strength and one fully dropped. -/
theorem exists_extremes {h : ℚ} (hue : 0 ≤ h ∧ h ≤ 360) :
    (∃ n ∈ [5, 3, 1], drop n h = 0) ∧ ∃ n ∈ [5, 3, 1], drop n h = 1 := by
  obtain ⟨i, ff, sector, _, _, _, _, drops⟩ := exists_drops hue
  have red := drops 5 (by decide)
  have green := drops 3 (by decide)
  have blue := drops 1 (by decide)
  interval_cases i
  · exact ⟨⟨5, by decide, red⟩, 1, by decide, blue⟩
  · exact ⟨⟨3, by decide, green⟩, 1, by decide, blue⟩
  · exact ⟨⟨3, by decide, green⟩, 5, by decide, red⟩
  · exact ⟨⟨1, by decide, blue⟩, 5, by decide, red⟩
  · exact ⟨⟨1, by decide, blue⟩, 3, by decide, green⟩
  · exact ⟨⟨5, by decide, red⟩, 3, by decide, green⟩

/-! Bytes. -/

theorem channelAt_bounds {hsv : Hsv} (inRange : hsv.InRange) (n : ℕ) :
    hsv.v * (1 - hsv.s) ≤ channelAt hsv n ∧ channelAt hsv n ≤ hsv.v := by
  obtain ⟨lower, upper⟩ := trapezoid_bounds (fmod (n + hsv.h / 60) 6)
  have strength : 0 ≤ hsv.v * hsv.s :=
    mul_nonneg inRange.value.1 inRange.saturation.1
  constructor
  · calc
      hsv.v * (1 - hsv.s) = hsv.v - hsv.v * hsv.s * 1 := by ring
      _ ≤ hsv.v - hsv.v * hsv.s * drop n hsv.h :=
        sub_le_sub_left (mul_le_mul_of_nonneg_left upper strength) _
  · exact sub_le_self _ (mul_nonneg strength lower)

theorem hsvFormula_bounds {hsv : Hsv} (inRange : hsv.InRange) (n : ℕ) :
    ⌊255 * hsv.v * (1 - hsv.s)⌋ ≤ hsvFormula hsv n ∧
      hsvFormula hsv n ≤ ⌊255 * hsv.v⌋ := by
  obtain ⟨lower, upper⟩ := channelAt_bounds inRange n
  constructor
  · exact Int.floor_le_floor (by linarith)
  · exact Int.floor_le_floor (by linarith)

theorem hsvFormula_byte {hsv : Hsv} (inRange : hsv.InRange) (n : ℕ) :
    0 ≤ hsvFormula hsv n ∧ hsvFormula hsv n ≤ 255 := by
  obtain ⟨lower, upper⟩ := hsvFormula_bounds inRange n
  have weak : 0 ≤ 1 - hsv.s := sub_nonneg.mpr inRange.saturation.2
  have dark : 0 ≤ 255 * hsv.v := by linarith [inRange.value.1]
  have bright : ⌊255 * hsv.v⌋ ≤ 255 :=
    Int.floor_le_iff.mpr (by push_cast; linarith [inRange.value.2])
  exact ⟨(Int.floor_nonneg.mpr (mul_nonneg dark weak)).trans lower,
    upper.trans bright⟩

theorem toUint8_floor {value : ℚ} (lower : 0 ≤ ⌊value⌋)
    (upper : ⌊value⌋ ≤ 255) : ((toUint8 value).toNat : ℤ) = ⌊value⌋ := by
  have nonneg : 0 ≤ value := Int.floor_nonneg.mp lower
  have small : ⌊value⌋.toNat < 256 := by omega
  rw [toUint8, truncate_of_nonneg nonneg, UInt8.toNat_ofNat_of_lt' small]
  exact Int.toNat_of_nonneg lower

theorem channel_byte {hsv : Hsv} (inRange : hsv.InRange) (n : ℕ) :
    ((toUint8 (channelAt hsv n * 255)).toNat : ℤ) = hsvFormula hsv n := by
  obtain ⟨lower, upper⟩ := hsvFormula_byte inRange n
  rw [mul_comm]
  exact toUint8_floor lower upper

/-- Red, green and blue are the formula's channels at 5, 3 and 1. -/
structure MatchesFormula (hsv : Hsv) (rgb : UInt8 × UInt8 × UInt8) :
    Prop where
  red : (rgb.1.toNat : ℤ) = hsvFormula hsv 5
  green : (rgb.2.1.toNat : ℤ) = hsvFormula hsv 3
  blue : (rgb.2.2.toNat : ℤ) = hsvFormula hsv 1
  bounded : ∀ n ∈ [5, 3, 1], 0 ≤ hsvFormula hsv n ∧ hsvFormula hsv n ≤ 255
  largest : ((max (max rgb.1.toNat rgb.2.1.toNat) rgb.2.2.toNat : ℕ) : ℤ) =
    ⌊255 * hsv.v⌋
  smallest : ((min (min rgb.1.toNat rgb.2.1.toNat) rgb.2.2.toNat : ℕ) : ℤ) =
    ⌊255 * hsv.v * (1 - hsv.s)⌋

theorem hsvFormula_strong {hsv : Hsv} {n : ℕ} (kept : drop n hsv.h = 0) :
    hsvFormula hsv n = ⌊255 * hsv.v⌋ := by
  rw [hsvFormula, channelAt, kept, mul_zero, sub_zero]

theorem hsvFormula_weak {hsv : Hsv} {n : ℕ} (dropped : drop n hsv.h = 1) :
    hsvFormula hsv n = ⌊255 * hsv.v * (1 - hsv.s)⌋ := by
  rw [hsvFormula, channelAt, dropped]
  congr 1
  ring

theorem extreme_of_mem {Value : ℕ → ℤ} {extreme : ℤ}
    (attained : ∃ n ∈ [5, 3, 1], Value n = extreme) :
    Value 5 = extreme ∨ Value 3 = extreme ∨ Value 1 = extreme := by
  simpa using attained

theorem ws2812HsvToRgb_matches {hsv : Hsv} (inRange : hsv.InRange) :
    MatchesFormula hsv (ws2812HsvToRgb hsv) := by
  have rgb : ws2812HsvToRgb hsv =
      (toUint8 (channelAt hsv 5 * 255), toUint8 (channelAt hsv 3 * 255),
        toUint8 (channelAt hsv 1 * 255)) := by
    rw [ws2812HsvToRgb, hsvChannels_eq_channelAt inRange]
  have red := channel_byte inRange 5
  have green := channel_byte inRange 3
  have blue := channel_byte inRange 1
  obtain ⟨⟨n, listed, kept⟩, m, listed', dropped⟩ := exists_extremes inRange.hue
  have strong := extreme_of_mem ⟨n, listed, hsvFormula_strong kept⟩
  have weak := extreme_of_mem ⟨m, listed', hsvFormula_weak dropped⟩
  have redBounds := hsvFormula_bounds inRange 5
  have greenBounds := hsvFormula_bounds inRange 3
  have blueBounds := hsvFormula_bounds inRange 1
  rw [rgb]
  refine ⟨red, green, blue, fun n _ => hsvFormula_byte inRange n, ?_, ?_⟩
  · push_cast
    rw [red, green, blue]
    omega
  · push_cast
    rw [red, green, blue]
    omega

/-- Every color on the wheel is converted as the closed form says, and the two
ends of the wheel are the same color. -/
theorem hsvToRgb_formula (hsv : Hsv) (inRange : hsv.InRange) :
    MatchesFormula hsv (ws2812HsvToRgb hsv) ∧
      ws2812HsvToRgb { hsv with h := 360 } =
        ws2812HsvToRgb { hsv with h := 0 } := by
  refine ⟨ws2812HsvToRgb_matches inRange, ?_⟩
  have channels : hsvChannels { hsv with h := 360 } =
      hsvChannels { hsv with h := 0 } := by
    unfold hsvChannels
    norm_num [wheelChannels]
  rw [ws2812HsvToRgb, channels]
  rfl

/-- A pale orange: hue 30, half saturated. -/
theorem hsvToRgb_orange :
    MatchesFormula ⟨30, 1 / 2, 1⟩ (ws2812HsvToRgb ⟨30, 1 / 2, 1⟩) :=
  (hsvToRgb_formula ⟨30, 1 / 2, 1⟩
    ⟨by norm_num, by norm_num, by norm_num⟩).1

end Ch32v307.Ws2812
