import Ch32v307.Ws2812.Frame

namespace Ch32v307.Ws2812

/-! Bit timing: the period follows the core clock, the compare values do not. -/

def tim2Period (systemCoreClock : UInt32) : UInt16 :=
  let timerClock := systemCoreClock
  let prescaler : UInt16 := 1
  (timerClock / (prescaler.toUInt32 * ws2812PwmFreq) - 1).toUInt16

def countsPerBit (systemCoreClock : UInt32) : Nat :=
  (tim2Period systemCoreClock).toNat + 1

/-- The compare value for a bit, as `rgb_to_pwm` emits it. -/
def compareValue (bit : Bool) : Nat :=
  (bitDuty (if bit then 1 else 0) 0).toNat

/-- The symbols are the declared parts of the bit, to within one count. -/
structure SymbolsInTime (systemCoreClock : UInt32) : Prop where
  quotient : countsPerBit systemCoreClock = systemCoreClock.toNat / 800000
  positive : 0 < compareValue false
  ordered : compareValue false < compareValue true
  within : compareValue true < countsPerBit systemCoreClock
  zero : |100 * (compareValue false : ℤ) -
    33 * (countsPerBit systemCoreClock : ℤ)| ≤ 100
  one : |100 * (compareValue true : ℤ) -
    66 * (countsPerBit systemCoreClock : ℤ)| ≤ 100

theorem compareValue_false : compareValue false = 33 := rfl

theorem compareValue_true : compareValue true = 66 := rfl

theorem countsPerBit_eq {systemCoreClock : UInt32}
    (oneBit : 800000 ≤ systemCoreClock.toNat) :
    countsPerBit systemCoreClock = systemCoreClock.toNat / 800000 := by
  have bound := systemCoreClock.toNat_lt
  have divided : (systemCoreClock / 800000).toNat =
      systemCoreClock.toNat / 800000 := by
    rw [UInt32.toNat_div]
    rfl
  have period : (tim2Period systemCoreClock).toNat =
      systemCoreClock.toNat / 800000 - 1 := by
    change (systemCoreClock / 800000 - 1).toUInt16.toNat = _
    rw [UInt32.toNat_toUInt16, UInt32.toNat_sub_of_le _ _
      (UInt32.le_iff_toNat_le.mpr (by rw [divided]; simp; omega)), divided]
    simp
    omega
  rw [countsPerBit, period]
  omega

/-- The symbols are in time where a bit has 99 to 101 counts. -/
theorem symbolsInTime_iff (systemCoreClock : UInt32) :
    SymbolsInTime systemCoreClock ↔
      79200000 ≤ systemCoreClock.toNat ∧
        systemCoreClock.toNat < 81600000 := by
  constructor
  · rintro ⟨quotient, -, -, within, zero, one⟩
    rw [compareValue_true, abs_le] at one
    omega
  · rintro ⟨lower, upper⟩
    have counts := countsPerBit_eq (show 800000 ≤ systemCoreClock.toNat by omega)
    refine ⟨counts, ?_, ?_, ?_, ?_, ?_⟩
    · decide
    · decide
    · rw [compareValue_true]
      omega
    · rw [compareValue_false, abs_le]
      omega
    · rw [compareValue_true, abs_le]
      omega

/-- At the clock the system file selects a bit has 120 counts. -/
theorem symbols_late_at_96MHz : ¬ SymbolsInTime 96000000 := by
  intro inTime
  exact absurd inTime.one (by decide)

end Ch32v307.Ws2812
