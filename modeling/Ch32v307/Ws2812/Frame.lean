import Mathlib.Data.Nat.Bitwise
import Mathlib.Logic.Function.Basic
import Mathlib.Tactic.IntervalCases

namespace Ch32v307.Ws2812

/-! The frame of an LED strip: bytes to PWM compare values, and the transfer of
these to the timer. -/

def ws2812LedNum : Nat := 30
def ws2812PwmFreq : UInt32 := 800000
def ws2812Bit0Duty : UInt16 := 33
def ws2812Bit1Duty : UInt16 := 66

abbrev PwmStore := UInt32 × UInt16

def bitDuty (byte : UInt8) (j : Nat) : UInt16 :=
  if byte.toNat &&& (1 <<< j) ≠ 0 then ws2812Bit1Duty else ws2812Bit0Duty

def byteLoop (byte : UInt8) : Nat → UInt32 → List PwmStore × UInt32
  | 0, bitIndex => ([], bitIndex)
  | j + 1, bitIndex =>
      let (stores, last) := byteLoop byte j (bitIndex + 1)
      ((bitIndex, bitDuty byte j) :: stores, last)

def ledBody (rgbData : Nat → UInt8) (i : Nat) (bitIndex : UInt32) :
    List PwmStore × UInt32 :=
  let g := rgbData (i * 3 + 1)
  let r := rgbData (i * 3 + 0)
  let b := rgbData (i * 3 + 2)
  let (gStores, bitIndex) := byteLoop g 8 bitIndex
  let (rStores, bitIndex) := byteLoop r 8 bitIndex
  let (bStores, bitIndex) := byteLoop b 8 bitIndex
  (gStores ++ (rStores ++ bStores), bitIndex)

def ledLoop (rgbData : Nat → UInt8) :
    Nat → Nat → UInt32 → List PwmStore × UInt32
  | 0, _, bitIndex => ([], bitIndex)
  | left + 1, i, bitIndex =>
      let (stores, bitIndex) := ledBody rgbData i bitIndex
      let (later, bitIndex) := ledLoop rgbData left (i + 1) bitIndex
      (stores ++ later, bitIndex)

def resetLoop : Nat → UInt32 → List PwmStore × UInt32
  | 0, bitIndex => ([], bitIndex)
  | left + 1, bitIndex =>
      let (stores, last) := resetLoop left (bitIndex + 1)
      ((bitIndex, 0) :: stores, last)

def rgbToPwm (ledNum : Nat) (rgbData : Nat → UInt8) : List PwmStore :=
  let (frame, bitIndex) := ledLoop rgbData ledNum 0 0
  let (reset, _) := resetLoop 50 bitIndex
  frame ++ reset

def applyStores (stores : List PwmStore) (pwmData : Nat → UInt16) :
    Nat → UInt16 :=
  stores.foldl (fun memory (index, value) =>
    Function.update memory index.toNat value) pwmData

/-- The channel's transfer counter, a register of 16 bits used. -/
def dmaSetCurrDataCounter (dataNumber : UInt16) : UInt32 :=
  dataNumber.toUInt32

/-- The half-words the channel moves to the compare register, in order. -/
def dmaTransfers (cntr : UInt32) (memory : Nat → UInt16) : List UInt16 :=
  (List.range cntr.toNat).map memory

def ws2812Update (ledNum : Nat) (rgbData : Nat → UInt8)
    (pwmData : Nat → UInt16) : (Nat → UInt16) × List UInt16 :=
  let pwmData := applyStores (rgbToPwm ledNum rgbData) pwmData
  let cntr := dmaSetCurrDataCounter (UInt16.ofNat (24 * ledNum + 50))
  (pwmData, dmaTransfers cntr pwmData)

/-! The loops store to consecutive indices. -/

def counted (bitIndex : UInt32) (count : Nat) (value : Nat → UInt16) :
    List PwmStore :=
  (List.range count).map fun k => (bitIndex + UInt32.ofNat k, value k)

theorem counted_congr (bitIndex : UInt32) {count : Nat}
    {first second : Nat → UInt16} (same : ∀ k < count, first k = second k) :
    counted bitIndex count first = counted bitIndex count second := by
  refine List.map_congr_left fun k member => ?_
  rw [same k (List.mem_range.mp member)]

theorem add_ofNat_add (bitIndex : UInt32) (first second : Nat) :
    bitIndex + UInt32.ofNat first + UInt32.ofNat second =
      bitIndex + UInt32.ofNat (first + second) := by
  rw [UInt32.ofNat_add, UInt32.add_assoc]

theorem counted_append (bitIndex : UInt32) (first second : Nat)
    (early late : Nat → UInt16) :
    counted bitIndex first early ++
        counted (bitIndex + UInt32.ofNat first) second late =
      counted bitIndex (first + second) fun k =>
        if k < first then early k else late (k - first) := by
  unfold counted
  rw [List.range_add, List.map_append, List.map_map]
  congr 1
  · refine List.map_congr_left fun k member => ?_
    simp only [if_pos (List.mem_range.mp member)]
  · refine List.map_congr_left fun k _ => ?_
    simp only [Function.comp_apply, add_ofNat_add, Nat.add_sub_cancel_left,
      if_neg (Nat.not_lt.mpr (Nat.le_add_right first k))]

theorem counted_cons (bitIndex : UInt32) (count : Nat)
    (value : Nat → UInt16) :
    (bitIndex, value 0) :: counted (bitIndex + 1) count (fun k => value (k + 1)) =
      counted bitIndex (count + 1) value := by
  have whole := counted_append bitIndex 1 count value fun k => value (k + 1)
  rw [Nat.add_comm count 1]
  refine Eq.trans ?_ (whole.trans (counted_congr bitIndex fun k _ => ?_))
  · simp [counted]
  · cases k with
    | zero => rfl
    | succ k => simp

theorem byteLoop_eq (byte : UInt8) (j : Nat) (bitIndex : UInt32) :
    byteLoop byte j bitIndex =
      (counted bitIndex j fun k => bitDuty byte (j - 1 - k),
        bitIndex + UInt32.ofNat j) := by
  induction j generalizing bitIndex with
  | zero => simp [byteLoop, counted]
  | succ j ih =>
      rw [byteLoop, ih]
      refine Prod.ext ?_ ?_
      · rw [← counted_cons]
        refine congrArg (List.cons (bitIndex, bitDuty byte j)) ?_
        refine counted_congr _ fun k _ => ?_
        congr 1
        omega
      · rw [Nat.add_comm j 1, ← add_ofNat_add]
        rfl

theorem resetLoop_eq (left : Nat) (bitIndex : UInt32) :
    resetLoop left bitIndex =
      (counted bitIndex left fun _ => 0, bitIndex + UInt32.ofNat left) := by
  induction left generalizing bitIndex with
  | zero => simp [resetLoop, counted]
  | succ left ih =>
      rw [resetLoop, ih]
      refine Prod.ext ?_ ?_
      · rw [← counted_cons]
      · rw [Nat.add_comm left 1, ← add_ofNat_add]
        rfl

/-- The bytes of an LED in the order they are sent. -/
def sentByte (rgbData : Nat → UInt8) (i : Nat) : Nat → UInt8
  | 0 => rgbData (i * 3 + 1)
  | 1 => rgbData (i * 3 + 0)
  | _ => rgbData (i * 3 + 2)

def ledValue (rgbData : Nat → UInt8) (i place : Nat) : UInt16 :=
  bitDuty (sentByte rgbData i (place / 8)) (7 - place % 8)

theorem ledBody_eq (rgbData : Nat → UInt8) (i : Nat) (bitIndex : UInt32) :
    ledBody rgbData i bitIndex =
      (counted bitIndex 24 (ledValue rgbData i),
        bitIndex + UInt32.ofNat 24) := by
  unfold ledBody
  simp only [byteLoop_eq]
  refine Prod.ext ?_ ?_
  · simp only
    rw [counted_append, counted_append]
    refine counted_congr _ fun k inRange => ?_
    by_cases green : k < 8
    · have first : k / 8 = 0 := by omega
      have place : k % 8 = k := by omega
      simp [ledValue, sentByte, green, first, place]
    · by_cases red : k - 8 < 8
      · have second : k / 8 = 1 := by omega
        have place : k % 8 = k - 8 := by omega
        simp [ledValue, sentByte, green, red, second, place]
      · have third : k / 8 = 2 := by omega
        have place : k % 8 = k - 8 - 8 := by omega
        simp [ledValue, sentByte, green, red, third, place]
  · simp only [add_ofNat_add]

theorem ledLoop_eq (rgbData : Nat → UInt8) (left i : Nat)
    (bitIndex : UInt32) :
    ledLoop rgbData left i bitIndex =
      (counted bitIndex (24 * left) fun k =>
          ledValue rgbData (i + k / 24) (k % 24),
        bitIndex + UInt32.ofNat (24 * left)) := by
  induction left generalizing i bitIndex with
  | zero => simp [ledLoop, counted]
  | succ left ih =>
      rw [ledLoop, ledBody_eq]
      simp only [ih]
      refine Prod.ext ?_ ?_
      · simp only
        rw [counted_append, Nat.mul_succ, Nat.add_comm (24 * left)]
        refine counted_congr _ fun k _ => ?_
        by_cases here : k < 24
        · simp [here, Nat.div_eq_of_lt here, Nat.mod_eq_of_lt here]
        · have led : i + 1 + (k - 24) / 24 = i + k / 24 := by omega
          have place : (k - 24) % 24 = k % 24 := by omega
          simp [here, led, place]
      · simp only [add_ofNat_add, Nat.mul_succ, Nat.add_comm (24 * left)]

def frameValue (ledNum : Nat) (rgbData : Nat → UInt8) (place : Nat) : UInt16 :=
  if place < 24 * ledNum then ledValue rgbData (place / 24) (place % 24) else 0

theorem rgbToPwm_eq (ledNum : Nat) (rgbData : Nat → UInt8) :
    rgbToPwm ledNum rgbData =
      counted 0 (24 * ledNum + 50) (frameValue ledNum rgbData) := by
  unfold rgbToPwm
  rw [ledLoop_eq]
  simp only [resetLoop_eq, counted_append]
  refine counted_congr 0 fun k _ => ?_
  simp [frameValue]

/-! What the stores leave in memory. -/

theorem applyStores_counted (count : Nat) (indexable : count ≤ 2 ^ 32)
    (value memory : Nat → UInt16) (k : Nat) :
    applyStores (counted 0 count value) memory k =
      if k < count then value k else memory k := by
  induction count with
  | zero => rfl
  | succ count ih =>
      have index : (0 + UInt32.ofNat count).toNat = count := by
        rw [UInt32.zero_add]
        exact UInt32.toNat_ofNat_of_lt (by simp only [UInt32.size]; omega)
      have last : applyStores (counted 0 (count + 1) value) memory =
          Function.update (applyStores (counted 0 count value) memory) count
            (value count) := by
        unfold applyStores counted
        rw [List.range_succ, List.map_append, List.foldl_append]
        simp only [List.map_cons, List.map_nil, List.foldl_cons,
          List.foldl_nil, index]
      rw [last, Function.update_apply, ih (by omega)]
      by_cases here : k = count
      · subst here
        simp
      · rw [if_neg here]
        exact if_congr (by omega) rfl rfl

theorem pwmData_eq {ledNum : Nat} (indexable : 24 * ledNum + 50 ≤ 2 ^ 32)
    (rgbData : Nat → UInt8) (pwmData : Nat → UInt16) (k : Nat) :
    (ws2812Update ledNum rgbData pwmData).1 k =
      if k < 24 * ledNum + 50 then frameValue ledNum rgbData k
      else pwmData k := by
  rw [ws2812Update, rgbToPwm_eq]
  exact applyStores_counted _ indexable _ pwmData k

/-! Reading the frame back. -/

def readBit (duty : UInt16) : Option Nat :=
  if duty = ws2812Bit1Duty then some 1
  else if duty = ws2812Bit0Duty then some 0
  else none

/-- Eight entries as a byte, the most significant bit first. -/
def readByte (pwmData : Nat → UInt16) (start : Nat) : Option UInt8 := do
  let value ← (List.range 8).foldlM (fun value k => do
    let bit ← readBit (pwmData (start + k))
    some (value * 2 + bit)) 0
  some (UInt8.ofNat value)

def sentPlace : Nat → Nat
  | 0 => 1
  | 1 => 0
  | channel => channel

/-- The `m`-th byte of `rgb_data` as a receiver reads it. -/
def readFrame (pwmData : Nat → UInt16) (m : Nat) : Option UInt8 :=
  readByte pwmData (24 * (m / 3) + 8 * sentPlace (m % 3))

theorem bitDuty_eq (byte : UInt8) (j : Nat) :
    bitDuty byte j =
      if byte.toNat / 2 ^ j % 2 = 1 then ws2812Bit1Duty
      else ws2812Bit0Duty := by
  have bit : (byte.toNat &&& (1 <<< j) ≠ 0) ↔ byte.toNat / 2 ^ j % 2 = 1 := by
    rw [Nat.one_shiftLeft, Nat.and_two_pow, Nat.testBit_eq_decide_div_mod_eq]
    by_cases set : byte.toNat / 2 ^ j % 2 = 1
    · simp [set]
    · simp [set]
  exact if_congr bit rfl rfl

theorem readBit_bitDuty (byte : UInt8) (j : Nat) :
    readBit (bitDuty byte j) = some (byte.toNat / 2 ^ j % 2) := by
  rw [bitDuty_eq]
  by_cases set : byte.toNat / 2 ^ j % 2 = 1
  · rw [if_pos set, set]
    rfl
  · have clear : byte.toNat / 2 ^ j % 2 = 0 := by omega
    rw [if_neg set, clear]
    rfl

theorem bitDuty_ne_zero (byte : UInt8) (j : Nat) : bitDuty byte j ≠ 0 := by
  rw [bitDuty_eq]
  split_ifs <;> decide

theorem div_two_pow_step (value j : Nat) :
    value / 2 ^ (j + 1) * 2 + value / 2 ^ j % 2 = value / 2 ^ j := by
  rw [Nat.pow_succ, ← Nat.div_div_eq_div_mul]
  exact Nat.div_add_mod' _ 2

theorem foldlM_bits (value : Nat) (bit : Nat → Option Nat) (count above : Nat)
    (bits : ∀ k < count, bit k = some (value / 2 ^ (above + count - 1 - k) % 2)) :
    (List.range count).foldlM (fun total k => do
        let next ← bit k
        some (total * 2 + next)) (value / 2 ^ (above + count)) =
      some (value / 2 ^ above) := by
  induction count generalizing above with
  | zero => rfl
  | succ count ih =>
      have earlier := ih (above + 1) fun k inRange => by
        rw [bits k (by omega)]
        congr 4
        omega
      have last := bits count (by omega)
      rw [show above + (count + 1) - 1 - count = above by omega] at last
      rw [List.range_succ, List.foldlM_append,
        show above + (count + 1) = above + 1 + count by omega, earlier]
      simp only [List.foldlM_cons, List.foldlM_nil, last, Option.bind_eq_bind,
        Option.bind_some, div_two_pow_step]
      rfl

theorem readByte_of_bits {pwmData : Nat → UInt16} {start : Nat} {byte : UInt8}
    (bits : ∀ k < 8, pwmData (start + k) = bitDuty byte (7 - k)) :
    readByte pwmData start = some byte := by
  have total := foldlM_bits byte.toNat (fun k => readBit (pwmData (start + k)))
    8 0 fun k inRange => by rw [bits k inRange, readBit_bitDuty]
  rw [show byte.toNat / 2 ^ (0 + 8) = 0 from Nat.div_eq_of_lt byte.toNat_lt]
    at total
  rw [readByte, total]
  simp

/-- The frame in memory: every index stored once, a gap of zeros that occurs
nowhere before the end, and the bytes readable from it. -/
structure FrameEncodes (ledNum : Nat) (rgbData : Nat → UInt8)
    (pwmData : Nat → UInt16) : Prop where
  indices : (rgbToPwm ledNum rgbData).map (fun store => store.1.toNat) =
    List.range (24 * ledNum + 50)
  gap : ∀ k, 24 * ledNum ≤ k → k < 24 * ledNum + 50 →
    (ws2812Update ledNum rgbData pwmData).1 k = 0
  symbols : ∀ k < 24 * ledNum, (ws2812Update ledNum rgbData pwmData).1 k ≠ 0
  decoded : ∀ m < 3 * ledNum,
    readFrame (ws2812Update ledNum rgbData pwmData).1 m = some (rgbData m)

/-- The transfers programmed into the channel cover exactly the frame, so
different frames give different waveforms. -/
structure WaveformFaithful (ledNum : Nat) (rgbData : Nat → UInt8)
    (pwmData : Nat → UInt16) : Prop where
  covers : (ws2812Update ledNum rgbData pwmData).2 =
    (List.range (24 * ledNum + 50)).map
      (ws2812Update ledNum rgbData pwmData).1
  distinct : ∀ rgbData' pwmData', (∃ m < 3 * ledNum, rgbData' m ≠ rgbData m) →
    (ws2812Update ledNum rgbData' pwmData').2 ≠
      (ws2812Update ledNum rgbData pwmData).2

theorem sentByte_sentPlace (rgbData : Nat → UInt8) (m : Nat) :
    sentByte rgbData (m / 3) (sentPlace (m % 3)) = rgbData m := by
  have split := Nat.div_add_mod' m 3
  obtain red | green | blue : m % 3 = 0 ∨ m % 3 = 1 ∨ m % 3 = 2 := by omega
  · rw [red] at split ⊢
    exact congrArg rgbData split
  · rw [green] at split ⊢
    exact congrArg rgbData split
  · rw [blue] at split ⊢
    exact congrArg rgbData split

theorem readFrame_of_frame {ledNum : Nat} {rgbData : Nat → UInt8}
    {memory : Nat → UInt16}
    (holds : ∀ k < 24 * ledNum, memory k = frameValue ledNum rgbData k)
    {m : Nat} (inRange : m < 3 * ledNum) :
    readFrame memory m = some (rgbData m) := by
  have channel : m % 3 < 3 := Nat.mod_lt m (by decide)
  have place : sentPlace (m % 3) < 3 := by
    interval_cases m % 3 <;> decide
  refine readByte_of_bits fun k bit => ?_
  have inFrame : 24 * (m / 3) + 8 * sentPlace (m % 3) + k < 24 * ledNum := by
    omega
  have led : (24 * (m / 3) + 8 * sentPlace (m % 3) + k) / 24 = m / 3 := by
    omega
  have inLed : (24 * (m / 3) + 8 * sentPlace (m % 3) + k) % 24 =
      8 * sentPlace (m % 3) + k := by omega
  have byteIndex : (8 * sentPlace (m % 3) + k) / 8 = sentPlace (m % 3) := by
    omega
  have bitIndex : (8 * sentPlace (m % 3) + k) % 8 = k := by omega
  rw [holds _ inFrame, frameValue, if_pos inFrame, led, inLed, ledValue,
    byteIndex, bitIndex, sentByte_sentPlace]

section Update

variable {ledNum : Nat} (indexable : 24 * ledNum + 50 ≤ 2 ^ 32)
  (rgbData : Nat → UInt8) (pwmData : Nat → UInt16)

include indexable

theorem update_holds : ∀ k < 24 * ledNum,
    (ws2812Update ledNum rgbData pwmData).1 k =
      frameValue ledNum rgbData k := by
  intro k inRange
  rw [pwmData_eq indexable, if_pos (by omega)]

theorem frame_encodes : FrameEncodes ledNum rgbData pwmData := by
  have holds := update_holds indexable rgbData pwmData
  refine ⟨?_, fun k after inRange => ?_, fun k inRange => ?_,
    fun m inRange => readFrame_of_frame holds inRange⟩
  · rw [rgbToPwm_eq, counted, List.map_map]
    refine (List.map_congr_left fun k member => ?_).trans (List.map_id _)
    have bound := List.mem_range.mp member
    simp only [Function.comp_apply, UInt32.zero_add, id_eq]
    exact UInt32.toNat_ofNat_of_lt (by simp only [UInt32.size]; omega)
  · rw [pwmData_eq indexable, if_pos inRange, frameValue,
      if_neg (Nat.not_lt.mpr after)]
  · rw [holds k inRange, frameValue, if_pos inRange]
    exact bitDuty_ne_zero _ _

end Update

theorem waveform_eq {ledNum : Nat} (countable : 24 * ledNum + 50 < 2 ^ 16)
    (rgbData : Nat → UInt8) (pwmData : Nat → UInt16) :
    (ws2812Update ledNum rgbData pwmData).2 =
      (List.range (24 * ledNum + 50)).map
        (ws2812Update ledNum rgbData pwmData).1 := by
  have cntr : (dmaSetCurrDataCounter (UInt16.ofNat (24 * ledNum + 50))).toNat =
      24 * ledNum + 50 := by
    rw [dmaSetCurrDataCounter, UInt16.toNat_toUInt32]
    exact UInt16.toNat_ofNat_of_lt countable
  rw [ws2812Update, dmaTransfers, cntr]

theorem waveform_faithful {ledNum : Nat}
    (countable : 24 * ledNum + 50 < 2 ^ 16) (rgbData : Nat → UInt8)
    (pwmData : Nat → UInt16) : WaveformFaithful ledNum rgbData pwmData := by
  have indexable : 24 * ledNum + 50 ≤ 2 ^ 32 := by omega
  refine ⟨waveform_eq countable rgbData pwmData, ?_⟩
  rintro rgbData' pwmData' ⟨m, inRange, different⟩ same
  rw [waveform_eq countable, waveform_eq countable] at same
  have holds : ∀ k < 24 * ledNum,
      (ws2812Update ledNum rgbData' pwmData').1 k =
        frameValue ledNum rgbData k := by
    intro k inFrame
    rw [List.map_inj_left.mp same k (List.mem_range.mpr (by omega))]
    exact update_holds indexable rgbData pwmData k inFrame
  have read := readFrame_of_frame holds inRange
  rw [readFrame_of_frame (update_holds indexable rgbData' pwmData') inRange]
    at read
  exact different (Option.some.inj read)

/-- A frame is lossless for every strip whose entries the 32-bit index can
count, and so is its waveform where the 16-bit transfer counter can. -/
theorem ws2812_frame (ledNum : Nat) (indexable : 24 * ledNum + 50 ≤ 2 ^ 32)
    (rgbData : Nat → UInt8) (pwmData : Nat → UInt16) :
    FrameEncodes ledNum rgbData pwmData ∧
      (24 * ledNum + 50 < 2 ^ 16 →
        WaveformFaithful ledNum rgbData pwmData) :=
  ⟨frame_encodes indexable rgbData pwmData,
    fun countable => waveform_faithful countable rgbData pwmData⟩

theorem ws2812_frame_strip :
    FrameEncodes ws2812LedNum UInt8.ofNat (fun _ => 0) ∧
      WaveformFaithful ws2812LedNum UInt8.ofNat (fun _ => 0) := by
  have frame := ws2812_frame ws2812LedNum (by decide) UInt8.ofNat fun _ => 0
  exact ⟨frame.1, frame.2 (by decide)⟩

/-- For 2729 LEDs the counter is programmed with ten transfers, and for some
178 million the index wraps. -/
theorem ws2812_frame_long_strip :
    ¬ WaveformFaithful 2729 UInt8.ofNat (fun _ => 0) ∧
      ¬ FrameEncodes 178956969 UInt8.ofNat (fun _ => 0) := by
  constructor
  · intro faithful
    have lengths := congrArg List.length faithful.covers
    rw [List.length_map, List.length_range, ws2812Update, dmaTransfers,
      List.length_map, List.length_range] at lengths
    exact absurd lengths (by decide)
  · intro encodes
    have listed : 4294967296 ∈ List.range (24 * 178956969 + 50) :=
      List.mem_range.mpr (by omega)
    rw [← encodes.indices] at listed
    obtain ⟨store, _, index⟩ := List.mem_map.mp listed
    exact absurd index store.1.toNat_lt.ne

end Ch32v307.Ws2812
