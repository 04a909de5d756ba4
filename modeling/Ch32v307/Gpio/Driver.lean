import Ch32v307.Gpio.Registers

namespace Ch32v307.Gpio

open Data

/-! The pin driver: its table of pins and the calls of `_ch32_pin_ops` that
change something. -/

structure PinIndex where
  index : Nat
  gpio : Port
  gpioIndex : Fin 16
  deriving DecidableEq, Repr

namespace PinIndex

def pin (index : PinIndex) : BitVec 32 := Bits.bit index.gpioIndex

/-- The clock function of the port, `GPIOx_CLK_ENABLE`. -/
def rcc (index : PinIndex) : Registers → Registers :=
  rccApb2PeriphClockCmd <|
    match index.gpio with
    | .a => 0x00000004
    | .b => 0x00000008
    | .c => 0x00000010
    | .d => 0x00000020
    | .e => 0x00000040

end PinIndex

def rccApb2PeriphAFIO : BitVec 32 := 0x00000001

def ch32Pin (index : Nat) (gpio : Port) (gpioIndex : Fin 16) :
    Option PinIndex :=
  some ⟨index, gpio, gpioIndex⟩

def ch32PinDefault : Option PinIndex := none

/-- `pins[]` for the package of 100 pins. -/
def pins : List (Option PinIndex) :=
  [ch32PinDefault, ch32Pin 1 .e 2, ch32Pin 2 .e 3, ch32Pin 3 .e 4,
    ch32Pin 4 .e 5, ch32Pin 5 .e 6, ch32PinDefault, ch32Pin 7 .c 13,
    ch32Pin 8 .c 14, ch32Pin 9 .c 15, ch32PinDefault, ch32PinDefault,
    ch32PinDefault, ch32PinDefault, ch32PinDefault, ch32Pin 15 .c 0,
    ch32Pin 16 .c 1, ch32Pin 17 .c 2, ch32Pin 18 .c 3, ch32PinDefault,
    ch32PinDefault, ch32PinDefault, ch32PinDefault, ch32Pin 23 .a 0,
    ch32Pin 24 .a 1, ch32Pin 25 .a 2, ch32Pin 26 .a 3, ch32PinDefault,
    ch32PinDefault, ch32Pin 29 .a 4, ch32Pin 30 .a 5, ch32Pin 31 .a 6,
    ch32Pin 32 .a 7, ch32Pin 33 .c 4, ch32Pin 34 .c 5, ch32Pin 35 .b 0,
    ch32Pin 36 .b 1, ch32Pin 37 .b 2, ch32Pin 38 .e 7, ch32Pin 39 .e 8,
    ch32Pin 40 .e 9, ch32Pin 41 .e 10, ch32Pin 42 .e 11, ch32Pin 43 .e 12,
    ch32Pin 44 .e 13, ch32Pin 45 .e 14, ch32Pin 46 .e 15, ch32Pin 47 .b 10,
    ch32Pin 48 .b 11, ch32PinDefault, ch32PinDefault, ch32Pin 51 .b 12,
    ch32Pin 52 .b 13, ch32Pin 53 .b 14, ch32Pin 54 .b 15, ch32Pin 55 .d 8,
    ch32Pin 56 .d 9, ch32Pin 57 .d 10, ch32Pin 58 .d 11, ch32Pin 59 .d 12,
    ch32Pin 60 .d 13, ch32Pin 61 .d 14, ch32Pin 62 .d 15, ch32Pin 63 .c 6,
    ch32Pin 64 .c 7, ch32Pin 65 .c 8, ch32Pin 66 .c 9, ch32Pin 67 .a 8,
    ch32Pin 68 .a 9, ch32Pin 69 .a 10, ch32Pin 70 .a 11, ch32Pin 71 .a 12,
    ch32Pin 72 .a 13, ch32PinDefault, ch32PinDefault, ch32PinDefault,
    ch32Pin 76 .a 14, ch32Pin 77 .a 15, ch32Pin 78 .c 10, ch32Pin 79 .c 11,
    ch32Pin 80 .c 12, ch32Pin 81 .d 0, ch32Pin 82 .d 1, ch32Pin 83 .d 2,
    ch32Pin 84 .d 3, ch32Pin 85 .d 4, ch32Pin 86 .d 5, ch32Pin 87 .d 6,
    ch32Pin 88 .d 7, ch32Pin 89 .b 3, ch32Pin 90 .b 4, ch32Pin 91 .b 5,
    ch32Pin 92 .b 6, ch32Pin 93 .b 7, ch32PinDefault, ch32Pin 95 .b 8,
    ch32Pin 96 .b 9, ch32Pin 97 .e 0, ch32Pin 98 .e 1, ch32PinDefault,
    ch32PinDefault]

def getPin (pin : UInt8) : Option PinIndex :=
  if pin.toNat < pins.length then pins[pin.toNat]?.join else none

/-- A pin number as `get_pin` receives it. -/
def lowByte (pin : Int32) : UInt8 := pin.toUInt32.toUInt8

def bit2bitno (bit : BitVec 32) : Option Nat :=
  (List.range 32).find? fun i => 1#32 <<< i = bit

def pinIrqMap : Fin 16 → IRQn
  | 0 => .exti0
  | 1 => .exti1
  | 2 => .exti2
  | 3 => .exti3
  | 4 => .exti4
  | 5 | 6 | 7 | 8 | 9 => .exti9To5
  | _ => .exti15To10

/-- The lines each handler serves. -/
def irqLines : IRQn → List (Fin 16)
  | .exti0 => [0]
  | .exti1 => [1]
  | .exti2 => [2]
  | .exti3 => [3]
  | .exti4 => [4]
  | .exti9To5 => [5, 6, 7, 8, 9]
  | .exti15To10 => [10, 11, 12, 13, 14, 15]

/-- The bit number of a pin where it is an index of `pin_irq_map[]`. -/
def irqIndex (pin : BitVec 32) : Option (Fin 16) :=
  match bit2bitno pin with
  | none => none
  | some i => if inside : i < 16 then some ⟨i, inside⟩ else none

def getPinIrqMap (pinbit : BitVec 32) : Option IRQn :=
  (irqIndex pinbit).map pinIrqMap

/-- A function and its argument by address, the function null where it is 0. -/
structure PinIrqHdr where
  pin : Int16
  mode : UInt16
  hdr : UInt32
  args : UInt32
  deriving DecidableEq, Repr

def PinIrqHdr.empty : PinIrqHdr := ⟨-1, 0, 0, 0⟩

structure Driver where
  regs : Registers
  pinIrqHdrTab : Fin 16 → PinIrqHdr

inductive RtErr where
  | eok
  | enosys
  | ebusy
  deriving DecidableEq, Repr

/-! The calls. -/

def ch32PinWrite (pin value : Int32) (driver : Driver) : Driver :=
  match getPin (lowByte pin) with
  | none => driver
  | some index =>
      { driver with
        regs := gpioWriteBit index.gpio index.pin (value ≠ 0) driver.regs }

def pinModeOutput : Int32 := 0x00
def pinModeInput : Int32 := 0x01
def pinModeInputPullup : Int32 := 0x02
def pinModeInputPulldown : Int32 := 0x03
def pinModeOutputOD : Int32 := 0x04
def pinModeInputAIN : Int32 := 0x05
def pinModeOutputAFOD : Int32 := 0x06
def pinModeOutputAFPP : Int32 := 0x07

def pinModeGpio (mode : Int32) : BitVec 32 :=
  if mode = pinModeOutput then gpioModeOutPP
  else if mode = pinModeInputAIN then gpioModeAIN
  else if mode = pinModeInput then gpioModeInFloating
  else if mode = pinModeInputPulldown then gpioModeIPD
  else if mode = pinModeInputPullup then gpioModeIPU
  else if mode = pinModeOutputOD then gpioModeOutOD
  else if mode = pinModeOutputAFOD then gpioModeAFOD
  else if mode = pinModeOutputAFPP then gpioModeAFPP
  else gpioModeOutPP

def ch32PinMode (pin mode : Int32) (driver : Driver) : Driver :=
  match getPin (lowByte pin) with
  | none => driver
  | some index =>
      let regs := index.rcc driver.regs
      { driver with
        regs :=
          gpioInit index.gpio ⟨index.pin, pinModeGpio mode, gpioSpeed50MHz⟩
            regs }

def ch32PinAttachIrq (pin : Int32) (mode hdr args : UInt32)
    (driver : Driver) : RtErr × Driver :=
  match getPin (lowByte pin) with
  | none => (.enosys, driver)
  | some index =>
      match irqIndex index.pin with
      | none => (.enosys, driver)
      | some irqindex =>
          let entry := driver.pinIrqHdrTab irqindex
          if entry.pin.toInt32 = pin ∧ entry.hdr = hdr ∧
              entry.mode.toUInt32 = mode ∧ entry.args = args then
            (.eok, driver)
          else if entry.pin ≠ -1 then
            (.ebusy, driver)
          else
            let entry : PinIrqHdr := ⟨pin.toInt16, mode.toUInt16, hdr, args⟩
            (.eok,
              { driver with
                pinIrqHdrTab :=
                  Function.update driver.pinIrqHdrTab irqindex entry })

def ch32PinDettachIrq (pin : Int32) (driver : Driver) : RtErr × Driver :=
  match getPin (lowByte pin) with
  | none => (.enosys, driver)
  | some index =>
      match irqIndex index.pin with
      | none => (.enosys, driver)
      | some irqindex =>
          if (driver.pinIrqHdrTab irqindex).pin = -1 then
            (.eok, driver)
          else
            (.eok,
              { driver with
                pinIrqHdrTab :=
                  Function.update driver.pinIrqHdrTab irqindex .empty })

/-- What the two fields hold that the `switch` of `ch32_pin_irq_enable` leaves
unset for a mode it has no case for. -/
structure Unset where
  gpioMode : BitVec 32
  extiTrigger : BitVec 32
  deriving DecidableEq

def pinIrqModeRising : UInt32 := 0x00
def pinIrqModeFalling : UInt32 := 0x01
def pinIrqModeRisingFalling : UInt32 := 0x02

def irqModeConfig (mode : UInt16) (unset : Unset) : BitVec 32 × BitVec 32 :=
  if mode.toUInt32 = pinIrqModeRising then
    (gpioModeIPD, extiTriggerRising)
  else if mode.toUInt32 = pinIrqModeFalling then
    (gpioModeIPU, extiTriggerFalling)
  else if mode.toUInt32 = pinIrqModeRisingFalling then
    (gpioModeInFloating, extiTriggerRisingFalling)
  else
    (unset.gpioMode, unset.extiTrigger)

def enableIrq (index : PinIndex) (irqindex : Fin 16) (mode : UInt16)
    (unset : Unset) (regs : Registers) : Registers :=
  let irqno := pinIrqMap irqindex
  let regs := index.rcc regs
  let regs := rccApb2PeriphClockCmd rccApb2PeriphAFIO regs
  let (gpioMode, extiTrigger) := irqModeConfig mode unset
  let regs := gpioInit index.gpio ⟨index.pin, gpioMode, gpioSpeed50MHz⟩ regs
  let regs := gpioExtiLineConfig (gpioPortSource index.gpio) irqindex regs
  let regs :=
    { regs with
      exti := extiInit ⟨index.pin, extiModeInterrupt, extiTrigger⟩ regs.exti }
  let regs := nvicSetPriority irqno (5 <<< 4) regs
  nvicEnableIRQ irqno regs

def pinIrqEnable : UInt32 := 1
def pinIrqDisable : UInt32 := 0

def ch32PinIrqEnable (pin : Int32) (enabled : UInt32) (unset : Unset)
    (driver : Driver) : RtErr × Driver :=
  match getPin (lowByte pin) with
  | none => (.enosys, driver)
  | some index =>
      if enabled = pinIrqEnable then
        match irqIndex index.pin with
        | none => (.enosys, driver)
        | some irqindex =>
            let entry := driver.pinIrqHdrTab irqindex
            if entry.pin = -1 then
              (.enosys, driver)
            else
              (.eok,
                { driver with
                  regs :=
                    enableIrq index irqindex entry.mode unset driver.regs })
      else if enabled = pinIrqDisable then
        match getPinIrqMap index.pin with
        | none => (.enosys, driver)
        | some irqno =>
            (.eok, { driver with regs := nvicDisableIRQ irqno driver.regs })
      else
        (.enosys, driver)

inductive PinCall where
  | pinMode (mode : Int32)
  | pinWrite (value : Int32)
  | attachIrq (mode hdr args : UInt32)
  | dettachIrq
  | irqEnable (enabled : UInt32) (unset : Unset)
  deriving DecidableEq

def PinCall.run (pin : Int32) (driver : Driver) : PinCall → Driver
  | .pinMode mode => ch32PinMode pin mode driver
  | .pinWrite value => ch32PinWrite pin value driver
  | .attachIrq mode hdr args => (ch32PinAttachIrq pin mode hdr args driver).2
  | .dettachIrq => (ch32PinDettachIrq pin driver).2
  | .irqEnable enabled unset =>
      (ch32PinIrqEnable pin enabled unset driver).2

/-- The registers after reset, with the table as it is initialized. -/
def Driver.reset : Driver where
  regs :=
    { apb2pcenr := 0
      gpio := fun _ => ⟨0x44444444, 0x44444444, 0⟩
      exticr := fun _ => 0
      exti := ⟨0, 0, 0, 0, 0⟩
      irqEnabled := fun _ => false
      iprior := fun _ => 0 }
  pinIrqHdrTab := fun _ => .empty

/-- Pin 4, on line 5, with a function attached and rising edges enabled. -/
def pin4Enabled : Driver :=
  (PinCall.irqEnable pinIrqEnable ⟨0, 0⟩).run 4
    ((PinCall.attachIrq 0 1 0).run 4 .reset)

/-! What each call does on a pin of the table. -/

theorem irqIndex_bit (line : Fin 16) :
    irqIndex (Bits.bit line) = some line := by
  revert line
  decide

@[simp] theorem irqIndex_pin (index : PinIndex) :
    irqIndex index.pin = some index.gpioIndex :=
  irqIndex_bit index.gpioIndex

@[simp] theorem getPinIrqMap_pin (index : PinIndex) :
    getPinIrqMap index.pin = some (pinIrqMap index.gpioIndex) := by
  rw [getPinIrqMap, irqIndex_pin]
  rfl

theorem lowByte_toInt16 (pin : Int32) :
    lowByte pin = pin.toInt16.toUInt16.toUInt8 := by
  apply UInt8.toBitVec_inj.mp
  change pin.toBitVec.setWidth 8 = (pin.toBitVec.signExtend 16).setWidth 8
  rw [BitVec.signExtend_eq_setWidth_of_le _ (by decide),
    BitVec.setWidth_setWidth_of_le _ (by decide)]

theorem storedPin_ne {pin : Int32} {index : PinIndex}
    (named : getPin (lowByte pin) = some index) : pin.toInt16 ≠ -1 := by
  intro marked
  rw [lowByte_toInt16, marked] at named
  cases named

theorem attach_unnamed {pin : Int32} (unnamed : getPin (lowByte pin) = none)
    (mode hdr args : UInt32) (driver : Driver) :
    ch32PinAttachIrq pin mode hdr args driver = (.enosys, driver) := by
  rw [ch32PinAttachIrq, unnamed]

theorem run_unnamed {pin : Int32} (unnamed : getPin (lowByte pin) = none)
    (driver : Driver) (call : PinCall) : call.run pin driver = driver := by
  cases call with
  | pinMode mode => simp [PinCall.run, ch32PinMode, unnamed]
  | pinWrite value => simp [PinCall.run, ch32PinWrite, unnamed]
  | attachIrq mode hdr args =>
      exact congrArg Prod.snd (attach_unnamed unnamed mode hdr args driver)
  | dettachIrq => simp [PinCall.run, ch32PinDettachIrq, unnamed]
  | irqEnable enabled unset =>
      simp [PinCall.run, ch32PinIrqEnable, unnamed]

theorem attach_taken {pin : Int32} {index : PinIndex} {driver : Driver}
    (named : getPin (lowByte pin) = some index)
    (taken : (driver.pinIrqHdrTab index.gpioIndex).pin ≠ -1)
    (mode hdr args : UInt32) :
    (ch32PinAttachIrq pin mode hdr args driver).2 = driver := by
  simp only [ch32PinAttachIrq, named, irqIndex_pin, if_pos taken]
  split <;> rfl

theorem attach_free {pin : Int32} {index : PinIndex} {driver : Driver}
    (named : getPin (lowByte pin) = some index)
    (free : (driver.pinIrqHdrTab index.gpioIndex).pin = -1)
    (mode hdr args : UInt32) :
    ch32PinAttachIrq pin mode hdr args driver =
      (.eok, { driver with
        pinIrqHdrTab :=
          Function.update driver.pinIrqHdrTab index.gpioIndex
            ⟨pin.toInt16, mode.toUInt16, hdr, args⟩ }) := by
  have different : Int16.toInt32 (-1) ≠ pin := by
    rintro rfl
    cases named
  simp only [ch32PinAttachIrq, named, irqIndex_pin, free, different, false_and,
    if_false, ne_eq, not_true_eq_false]

theorem dettach_named {pin : Int32} {index : PinIndex} {driver : Driver}
    (named : getPin (lowByte pin) = some index) :
    (ch32PinDettachIrq pin driver).2 =
      if (driver.pinIrqHdrTab index.gpioIndex).pin = -1 then driver
      else
        { driver with
          pinIrqHdrTab :=
            Function.update driver.pinIrqHdrTab index.gpioIndex .empty } := by
  simp only [ch32PinDettachIrq, named, irqIndex_pin]
  split <;> rfl

theorem enable_named {pin : Int32} {index : PinIndex} {driver : Driver}
    (named : getPin (lowByte pin) = some index) (unset : Unset) :
    (ch32PinIrqEnable pin pinIrqEnable unset driver).2 =
      if (driver.pinIrqHdrTab index.gpioIndex).pin = -1 then driver
      else
        { driver with
          regs :=
            enableIrq index index.gpioIndex
              (driver.pinIrqHdrTab index.gpioIndex).mode unset driver.regs } := by
  simp only [ch32PinIrqEnable, named, irqIndex_pin, if_true]
  split <;> rfl

theorem disable_named {pin : Int32} {index : PinIndex} {driver : Driver}
    (named : getPin (lowByte pin) = some index) (unset : Unset) :
    (ch32PinIrqEnable pin pinIrqDisable unset driver).2 =
      { driver with
        regs := nvicDisableIRQ (pinIrqMap index.gpioIndex) driver.regs } := by
  have disables : pinIrqDisable ≠ pinIrqEnable := by decide
  simp only [ch32PinIrqEnable, named, getPinIrqMap_pin, if_neg disables,
    if_true]

/-! What an enable writes, line by line. -/

section EnableIrq

variable (index : PinIndex) (mode : UInt16) (unset : Unset) (regs : Registers)

theorem enableIrq_lineSource (other : Fin 16) :
    lineSource other (enableIrq index index.gpioIndex mode unset regs) =
      if other = index.gpioIndex then (gpioPortSource index.gpio).setWidth 4
      else lineSource other regs := by
  let configured :=
    gpioInit index.gpio
      ⟨index.pin, (irqModeConfig mode unset).1, gpioSpeed50MHz⟩
      (rccApb2PeriphClockCmd rccApb2PeriphAFIO (index.rcc regs))
  change lineSource other
    (gpioExtiLineConfig (gpioPortSource index.gpio) index.gpioIndex
      configured) = _
  split_ifs with same
  · rw [same, lineSource_gpioExtiLineConfig_same]
  · rw [lineSource_gpioExtiLineConfig_other index.gpio same]
    rfl

theorem enableIrq_exti :
    (enableIrq index index.gpioIndex mode unset regs).exti =
      extiInit
        ⟨index.pin, extiModeInterrupt, (irqModeConfig mode unset).2⟩
        regs.exti := rfl

theorem enableIrq_lineEdges (other : Fin 16) :
    lineEdges other (enableIrq index index.gpioIndex mode unset regs).exti =
      if other = index.gpioIndex then
        triggerEdges (irqModeConfig mode unset).2
      else lineEdges other regs.exti := by
  rw [enableIrq_exti]
  exact lineEdges_extiInit index.gpioIndex other _ regs.exti

theorem enableIrq_irqEnabled :
    (enableIrq index index.gpioIndex mode unset regs).irqEnabled =
      Function.update regs.irqEnabled (pinIrqMap index.gpioIndex) true := rfl

end EnableIrq

structure LineConfig where
  registration : PinIrqHdr
  source : BitVec 4
  edges : Bool × Bool
  deriving DecidableEq

def lineConfig (line : Fin 16) (driver : Driver) : LineConfig where
  registration := driver.pinIrqHdrTab line
  source := lineSource line driver.regs
  edges := lineEdges line driver.regs.exti

theorem lineConfig_of_table {line other : Fin 16} {driver : Driver}
    {entry : PinIrqHdr} (different : line ≠ other) :
    lineConfig line
        { driver with
          pinIrqHdrTab := Function.update driver.pinIrqHdrTab other entry } =
      lineConfig line driver := by
  unfold lineConfig
  dsimp only
  rw [Function.update_of_ne different]

theorem enableIrq_lineConfig (line : Fin 16) (driver : Driver)
    (index : PinIndex) (mode : UInt16) (unset : Unset) :
    lineConfig line
        { driver with
          regs := enableIrq index index.gpioIndex mode unset driver.regs } =
      if line = index.gpioIndex then
        ⟨driver.pinIrqHdrTab line, (gpioPortSource index.gpio).setWidth 4,
          triggerEdges (irqModeConfig mode unset).2⟩
      else lineConfig line driver := by
  simp only [lineConfig, enableIrq_lineSource, enableIrq_lineEdges]
  split <;> rfl

/-- The calls that only configure the port or the vector leave every line as
it is. -/
structure SameLines (before after : Driver) : Prop where
  table : after.pinIrqHdrTab = before.pinIrqHdrTab
  exticr : after.regs.exticr = before.regs.exticr
  exti : after.regs.exti = before.regs.exti

theorem SameLines.refl (driver : Driver) : SameLines driver driver :=
  ⟨rfl, rfl, rfl⟩

theorem SameLines.lineConfig {before after : Driver}
    (same : SameLines before after) (line : Fin 16) :
    lineConfig line after = lineConfig line before := by
  simp only [Gpio.lineConfig, lineSource, same.table, same.exticr, same.exti]

theorem mode_sameLines (pin mode : Int32) (driver : Driver) :
    SameLines driver (ch32PinMode pin mode driver) := by
  unfold ch32PinMode
  cases getPin (lowByte pin) with
  | none => exact .refl driver
  | some index => exact ⟨rfl, rfl, rfl⟩

theorem write_sameLines (pin value : Int32) (driver : Driver) :
    SameLines driver (ch32PinWrite pin value driver) := by
  unfold ch32PinWrite
  cases getPin (lowByte pin) with
  | none => exact .refl driver
  | some index => exact ⟨rfl, rfl, rfl⟩

theorem irqEnable_unknown {enabled : UInt32} (notEnable : enabled ≠ pinIrqEnable)
    (notDisable : enabled ≠ pinIrqDisable) (pin : Int32) (unset : Unset)
    (driver : Driver) :
    (ch32PinIrqEnable pin enabled unset driver).2 = driver := by
  unfold ch32PinIrqEnable
  cases getPin (lowByte pin) with
  | none => rfl
  | some index => simp only [if_neg notEnable, if_neg notDisable]

theorem notEnable_sameLines {enabled : UInt32}
    (notEnable : enabled ≠ pinIrqEnable) (pin : Int32) (unset : Unset)
    (driver : Driver) :
    SameLines driver (ch32PinIrqEnable pin enabled unset driver).2 := by
  by_cases disables : enabled = pinIrqDisable
  · subst disables
    cases named : getPin (lowByte pin) with
    | none =>
        rw [ch32PinIrqEnable, named]
        exact .refl driver
    | some index =>
        rw [disable_named named]
        exact ⟨rfl, rfl, rfl⟩
  · rw [irqEnable_unknown notEnable disables]
    exact .refl driver

end Ch32v307.Gpio
