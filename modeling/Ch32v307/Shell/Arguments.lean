import Ch32v307.Ws2812.Rainbow

namespace Ch32v307.Shell

open Ws2812

/-! The shell commands of the rainbow effect. Both read their argument through
`str_to_int`, one into a byte and one into an `int` that is clamped first. -/

/-- An `int` keeps the low 32 bits of what is computed in it. -/
def digitLoop (result : Int32) : List Char → Int32
  | [] => result
  | c :: str =>
      if '0' ≤ c ∧ c ≤ '9' then
        digitLoop (result * 10 + Int32.ofNat (c.toNat - '0'.toNat)) str
      else result

def strToInt (str : List Char) : Int32 :=
  match str with
  | '-' :: str => digitLoop 0 str * -1
  | '+' :: str => digitLoop 0 str * 1
  | str => digitLoop 0 str * 1

/-- The conversion of an `int` argument to a `uint8_t` parameter. -/
def toByte (n : Int32) : UInt8 := n.toUInt32.toUInt8

/-- `argv` without the name of the command. -/
def cmdRainbow (argv : List (List Char)) (ctrl : RainbowCtrl) : RainbowCtrl :=
  let speed := match argv with
    | [] => 3
    | str :: _ => strToInt str
  rainbowStart (toByte speed) ctrl

def clampBrightness (brightness : Int32) : Int32 :=
  let brightness := if brightness < 0 then 0 else brightness
  if brightness > 100 then 100 else brightness

def cmdBrightness (argv : List (List Char)) (ctrl : RainbowCtrl) :
    RainbowCtrl :=
  let brightness := match argv with
    | [] => 30
    | str :: _ => clampBrightness (strToInt str)
  rainbowSetBrightness (toByte brightness) ctrl

/-! What an argument says: a sign, digits, and whatever follows them. -/

inductive Sign where
  | none
  | plus
  | minus
  deriving DecidableEq, Repr

def Sign.text : Sign → List Char
  | .none => []
  | .plus => ['+']
  | .minus => ['-']

def Sign.factor : Sign → ℤ
  | .none => 1
  | .plus => 1
  | .minus => -1

def IsDigit (c : Char) : Prop := '0' ≤ c ∧ c ≤ '9'

def digitChar (digit : Fin 10) : Char := Char.ofNat ('0'.toNat + digit)

structure Argument where
  sign : Sign
  digits : List (Fin 10)
  tail : List Char
  digits_nonempty : digits ≠ []
  tail_other : ∀ c ∈ tail.head?, ¬ IsDigit c

def Argument.text (argument : Argument) : List Char :=
  argument.sign.text ++ argument.digits.map digitChar ++ argument.tail

/-- The number that `digits` continue, in base ten. -/
def decimal (value : ℤ) (digits : List (Fin 10)) : ℤ :=
  digits.foldl (fun value digit => value * 10 + digit.val) value

def Argument.value (argument : Argument) : ℤ :=
  argument.sign.factor * decimal 0 argument.digits

def clamp (value lower upper : ℤ) : ℤ := max lower (min value upper)

/-! The digit loop computes the number, as far as an `int` holds it. -/

theorem digitChar_isDigit (digit : Fin 10) : IsDigit (digitChar digit) := by
  revert digit
  unfold IsDigit
  decide

theorem digitChar_value (digit : Fin 10) :
    (digitChar digit).toNat - '0'.toNat = digit := by
  revert digit
  decide

theorem digitLoop_stop {tail : List Char}
    (other : ∀ c ∈ tail.head?, ¬ IsDigit c) (result : Int32) :
    digitLoop result tail = result := by
  cases tail with
  | nil => rfl
  | cons c tail =>
      have notDigit : ¬ ('0' ≤ c ∧ c ≤ '9') := other c rfl
      rw [digitLoop, if_neg notDigit]

theorem digitLoop_digits {tail : List Char}
    (other : ∀ c ∈ tail.head?, ¬ IsDigit c) (digits : List (Fin 10))
    (value : ℤ) :
    digitLoop (Int32.ofInt value) (digits.map digitChar ++ tail) =
      Int32.ofInt (decimal value digits) := by
  induction digits generalizing value with
  | nil => exact digitLoop_stop other _
  | cons digit digits inductionHypothesis =>
      have isDigit : '0' ≤ digitChar digit ∧ digitChar digit ≤ '9' :=
        digitChar_isDigit digit
      have step : Int32.ofInt value * 10 + Int32.ofNat digit =
          Int32.ofInt (value * 10 + digit.val) := by
        rw [Int32.ofInt_add, Int32.ofInt_mul, Int32.ofInt_eq_ofNat]
        rfl
      rw [List.map_cons, List.cons_append, digitLoop, if_pos isDigit,
        digitChar_value, step, inductionHypothesis]
      rfl

theorem strToInt_unsigned {str : List Char} (digit : Fin 10) :
    strToInt (digitChar digit :: str) =
      digitLoop 0 (digitChar digit :: str) * 1 := by
  have notMinus : digitChar digit ≠ '-' := by
    revert digit
    decide
  have notPlus : digitChar digit ≠ '+' := by
    revert digit
    decide
  unfold strToInt
  split
  · rename_i same
    exact (notMinus (List.cons.inj same).1).elim
  · rename_i same
    exact (notPlus (List.cons.inj same).1).elim
  · rfl

theorem strToInt_text (argument : Argument) :
    strToInt argument.text = Int32.ofInt argument.value := by
  obtain ⟨sign, digits, tail, nonempty, other⟩ := argument
  have loop : digitLoop 0 (digits.map digitChar ++ tail) =
      Int32.ofInt (decimal 0 digits) := digitLoop_digits other digits 0
  cases sign with
  | none =>
      cases digits with
      | nil => exact (nonempty rfl).elim
      | cons digit digits =>
          refine (strToInt_unsigned digit).trans ?_
          rw [Int32.mul_one]
          exact loop.trans (congrArg Int32.ofInt (one_mul _).symm)
  | plus =>
      change digitLoop 0 (digits.map digitChar ++ tail) * 1 = _
      rw [Int32.mul_one]
      exact loop.trans (congrArg Int32.ofInt (one_mul _).symm)
  | minus =>
      change digitLoop 0 (digits.map digitChar ++ tail) * Int32.ofInt (-1) = _
      rw [loop, ← Int32.ofInt_mul, mul_comm]
      rfl

/-! The narrowing to a byte, and the clamps on both sides of it. -/

theorem toByte_toNat (n : Int32) : ((toByte n).toNat : ℤ) = n.toInt % 256 := by
  have narrow : (toByte n).toNat = n.toBitVec.toNat % 256 := rfl
  have wide : n.toInt = n.toBitVec.toInt := rfl
  rw [narrow, wide, BitVec.toInt_eq_toNat_cond]
  split_ifs with positive
  · rfl
  · omega

theorem wrapped_emod (value : ℤ) : (Int32.ofInt value).toInt % 256 =
    value % 256 := by
  have divides : (256 : ℤ) ∣ Int32.size := by decide
  rw [Int32.toInt_ofInt, ← Int.emod_emod_of_dvd _ divides, Int.bmod_emod,
    Int.emod_emod_of_dvd _ divides]

theorem clampSpeed_toNat (speedLevel : UInt8) :
    ((clampSpeed speedLevel).toNat : ℤ) = clamp speedLevel.toNat 1 5 := by
  unfold clampSpeed clamp
  simp only [gt_iff_lt, UInt8.lt_iff_toNat_lt]
  split_ifs with slow fast fast
  · exact absurd fast (by decide)
  · change ((1 : ℕ) : ℤ) = _
    change speedLevel.toNat < 1 at slow
    omega
  · change ((5 : ℕ) : ℤ) = _
    change 5 < speedLevel.toNat at fast
    omega
  · change ¬ speedLevel.toNat < 1 at slow
    change ¬ 5 < speedLevel.toNat at fast
    omega

theorem clampBrightness_toInt (brightness : Int32) :
    (clampBrightness brightness).toInt = clamp brightness.toInt 0 100 := by
  unfold clampBrightness clamp
  simp only [gt_iff_lt, Int32.lt_iff_toInt_lt]
  split_ifs with negative above above
  · exact absurd above (by decide)
  · change (0 : ℤ) = _
    change brightness.toInt < 0 at negative
    omega
  · change (100 : ℤ) = _
    change 100 < brightness.toInt at above
    omega
  · change ¬ brightness.toInt < 0 at negative
    change ¬ 100 < brightness.toInt at above
    omega

structure AtSpeed (level : ℤ) (ctrl : RainbowCtrl) : Prop where
  hueStep : ctrl.hueStep = 2 * level
  delayMs : (ctrl.delayMs.toNat : ℤ) = 50 / level
  running : ctrl.running = true

theorem rainbowStart_atSpeed_iff (speedLevel : UInt8) (ctrl : RainbowCtrl)
    (level : ℤ) : AtSpeed level (rainbowStart speedLevel ctrl) ↔
      clamp speedLevel.toNat 1 5 = level := by
  rw [← clampSpeed_toNat]
  constructor
  · intro atSpeed
    have doubled : (2 : ℚ) * (clampSpeed speedLevel).toNat = 2 * level :=
      atSpeed.hueStep
    have same : ((clampSpeed speedLevel).toNat : ℚ) = level := by linarith
    exact_mod_cast same
  · rintro rfl
    refine ⟨rfl, ?_, rfl⟩
    change ((50 / (clampSpeed speedLevel).toUInt16).toNat : ℤ) = _
    rw [UInt16.toNat_div, UInt8.toNat_toUInt16]
    rfl

theorem rainbowSetBrightness_toNat {brightness : UInt8}
    (bright : brightness.toNat ≤ 100) (ctrl : RainbowCtrl) :
    (rainbowSetBrightness brightness ctrl).brightness = brightness := by
  have notAbove : ¬ brightness > 100 := by
    rw [gt_iff_lt, UInt8.lt_iff_toNat_lt]
    exact Nat.not_lt.mpr bright
  exact if_neg notAbove

theorem cmdRainbow_atSpeed_iff (argument : Argument)
    (more : List (List Char)) (ctrl : RainbowCtrl) (level : ℤ) :
    AtSpeed level (cmdRainbow (argument.text :: more) ctrl) ↔
      clamp (argument.value % 256) 1 5 = level := by
  change AtSpeed level (rainbowStart (toByte (strToInt argument.text)) ctrl) ↔ _
  rw [rainbowStart_atSpeed_iff, toByte_toNat, strToInt_text, wrapped_emod]

theorem cmdBrightness_toNat (argument : Argument) (more : List (List Char))
    (ctrl : RainbowCtrl) :
    ((cmdBrightness (argument.text :: more) ctrl).brightness.toNat : ℤ) =
      clamp (argument.value.bmod Int32.size) 0 100 := by
  have clamped := clampBrightness_toInt (strToInt argument.text)
  have byte := toByte_toNat (clampBrightness (strToInt argument.text))
  rw [clamped, strToInt_text, Int32.toInt_ofInt] at byte
  have within : clamp (argument.value.bmod Int32.size) 0 100 % 256 =
      clamp (argument.value.bmod Int32.size) 0 100 := by
    unfold clamp
    omega
  rw [within, ← strToInt_text] at byte
  have bright : (toByte (clampBrightness (strToInt argument.text))).toNat ≤
      100 := by
    unfold clamp at byte
    omega
  change ((rainbowSetBrightness (toByte (clampBrightness
    (strToInt argument.text))) ctrl).brightness.toNat : ℤ) = _
  rw [rainbowSetBrightness_toNat bright, byte]

/-! The two commands against the value of the argument. -/

/-- The low byte of the value lies on the same side of the levels as the value,
and so does its low word of the brightness. -/
structure Kept (value : ℤ) : Prop where
  slow : value ≤ 1 → value % 256 ≤ 1
  fast : 5 ≤ value → 5 ≤ value % 256
  dark : value ≤ 0 → value.bmod Int32.size ≤ 0
  bright : 100 ≤ value → 100 ≤ value.bmod Int32.size

theorem speed_kept_iff (value : ℤ) :
    clamp (value % 256) 1 5 = clamp value 1 5 ↔
      (value ≤ 1 → value % 256 ≤ 1) ∧ (5 ≤ value → 5 ≤ value % 256) := by
  unfold clamp
  omega

theorem brightness_kept_iff (value : ℤ) :
    clamp (value.bmod Int32.size) 0 100 = clamp value 0 100 ↔
      (value ≤ 0 → value.bmod Int32.size ≤ 0) ∧
        (100 ≤ value → 100 ≤ value.bmod Int32.size) := by
  have between : 0 ≤ value → value ≤ 100 → value.bmod Int32.size = value := by
    intro lower upper
    apply Int.bmod_eq_of_le
    · exact (by decide : -((Int32.size : ℤ) / 2) ≤ 0).trans lower
    · exact upper.trans_lt (by decide)
  unfold clamp
  omega

theorem commands_clamp_iff (argument : Argument) (more : List (List Char))
    (ctrl : RainbowCtrl) :
    (AtSpeed (clamp argument.value 1 5)
        (cmdRainbow (argument.text :: more) ctrl) ∧
      ((cmdBrightness (argument.text :: more) ctrl).brightness.toNat : ℤ) =
        clamp argument.value 0 100) ↔ Kept argument.value := by
  rw [cmdRainbow_atSpeed_iff, cmdBrightness_toNat, speed_kept_iff,
    brightness_kept_iff]
  constructor
  · rintro ⟨⟨slow, fast⟩, dark, bright⟩
    exact ⟨slow, fast, dark, bright⟩
  · rintro ⟨slow, fast, dark, bright⟩
    exact ⟨⟨slow, fast⟩, dark, bright⟩

def unsignedArgument (digit : Fin 10) (digits : List (Fin 10)) : Argument where
  sign := .none
  digits := digit :: digits
  tail := []
  digits_nonempty := List.cons_ne_nil digit digits
  tail_other := by simp

/-- `cmd_rainbow 256` runs at the slowest level and
`cmd_brightness 4294967296` turns the effect dark. -/
theorem commands_wrap :
    (unsignedArgument 2 [5, 6]).text = ['2', '5', '6'] ∧
    AtSpeed 1
      (cmdRainbow [(unsignedArgument 2 [5, 6]).text] rainbowInit.ctrl) ∧
    ¬ AtSpeed (clamp (unsignedArgument 2 [5, 6]).value 1 5)
      (cmdRainbow [(unsignedArgument 2 [5, 6]).text] rainbowInit.ctrl) ∧
    (unsignedArgument 4 [2, 9, 4, 9, 6, 7, 2, 9, 6]).value = 4294967296 ∧
    (cmdBrightness
      [(unsignedArgument 4 [2, 9, 4, 9, 6, 7, 2, 9, 6]).text]
      rainbowInit.ctrl).brightness.toNat = 0 := by
  rw [cmdRainbow_atSpeed_iff, cmdRainbow_atSpeed_iff]
  exact ⟨by decide, by decide, by decide, by decide, by decide⟩

end Ch32v307.Shell
