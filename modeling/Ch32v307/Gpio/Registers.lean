import Ch32v307.Data.Bits
import Mathlib.Logic.Function.Basic
import Mathlib.Tactic.SplitIfs

namespace Ch32v307.Gpio

open Data

/-! The registers the pin driver writes, and the library functions it writes
them with. -/

inductive Port where
  | a | b | c | d | e
  deriving DecidableEq, Repr

structure GpioPort where
  cfglr : BitVec 32
  cfghr : BitVec 32
  outdr : BitVec 32
  deriving DecidableEq

structure Exti where
  intenr : BitVec 32
  evenr : BitVec 32
  rtenr : BitVec 32
  ftenr : BitVec 32
  intfr : BitVec 32
  deriving DecidableEq

inductive IRQn where
  | exti0 | exti1 | exti2 | exti3 | exti4
  | exti9To5
  | exti15To10
  deriving DecidableEq

structure Registers where
  apb2pcenr : BitVec 32
  gpio : Port → GpioPort
  exticr : Fin 4 → BitVec 32
  exti : Exti
  irqEnabled : IRQn → Bool
  iprior : IRQn → BitVec 8

def rccApb2PeriphClockCmd (periph : BitVec 32) (regs : Registers) : Registers :=
  { regs with apb2pcenr := regs.apb2pcenr ||| periph }

/-! GPIO. BCR clears and BSHR sets bits of OUTDR. -/

namespace GpioPort

def bcr (bits : BitVec 32) (gpio : GpioPort) : GpioPort :=
  { gpio with outdr := gpio.outdr &&& ~~~bits }

def bshr (bits : BitVec 32) (gpio : GpioPort) : GpioPort :=
  { gpio with outdr := gpio.outdr ||| bits }

end GpioPort

def gpioModeAIN : BitVec 32 := 0x0
def gpioModeInFloating : BitVec 32 := 0x04
def gpioModeIPD : BitVec 32 := 0x28
def gpioModeIPU : BitVec 32 := 0x48
def gpioModeOutOD : BitVec 32 := 0x14
def gpioModeOutPP : BitVec 32 := 0x10
def gpioModeAFOD : BitVec 32 := 0x1C
def gpioModeAFPP : BitVec 32 := 0x18

def gpioSpeed50MHz : BitVec 32 := 3

structure GpioInit where
  gpioPin : BitVec 32
  gpioMode : BitVec 32
  gpioSpeed : BitVec 32

def currentMode (init : GpioInit) : BitVec 32 :=
  let currentmode := init.gpioMode &&& 0x0F
  if init.gpioMode &&& 0x10 ≠ 0 then currentmode ||| init.gpioSpeed
  else currentmode

/-- One turn of a loop of `GPIO_Init`, over the pins from `first` on, with the
configuration word so far. -/
def gpioInitPin (init : GpioInit) (first : Nat)
    (config : BitVec 32 × GpioPort) (pinpos : Nat) : BitVec 32 × GpioPort :=
  let (tmpreg, gpio) := config
  let pos := Bits.bit (pinpos + first)
  if init.gpioPin &&& pos = pos then
    let tmpreg := tmpreg &&& ~~~(0x0F#32 <<< (pinpos <<< 2))
    let tmpreg := tmpreg ||| (currentMode init <<< (pinpos <<< 2))
    if init.gpioMode = gpioModeIPD then (tmpreg, gpio.bcr pos)
    else if init.gpioMode = gpioModeIPU then (tmpreg, gpio.bshr pos)
    else (tmpreg, gpio)
  else config

def gpioInit (port : Port) (init : GpioInit) (regs : Registers) : Registers :=
  let gpio := regs.gpio port
  let gpio :=
    if init.gpioPin &&& 0x00FF ≠ 0 then
      let (tmpreg, gpio) :=
        (List.range 8).foldl (gpioInitPin init 0) (gpio.cfglr, gpio)
      { gpio with cfglr := tmpreg }
    else gpio
  let gpio :=
    if init.gpioPin > 0x00FF then
      let (tmpreg, gpio) :=
        (List.range 8).foldl (gpioInitPin init 8) (gpio.cfghr, gpio)
      { gpio with cfghr := tmpreg }
    else gpio
  { regs with gpio := Function.update regs.gpio port gpio }

def gpioWriteBit (port : Port) (pin : BitVec 32) (bitVal : Bool)
    (regs : Registers) : Registers :=
  let gpio := regs.gpio port
  let gpio := if bitVal then gpio.bshr pin else gpio.bcr pin
  { regs with gpio := Function.update regs.gpio port gpio }

def gpioPortSource : Port → BitVec 8
  | .a => 0x00
  | .b => 0x01
  | .c => 0x02
  | .d => 0x03
  | .e => 0x04

def gpioExtiLineConfig (portSource : BitVec 8) (line : Fin 16)
    (regs : Registers) : Registers :=
  let i : Fin 4 := ⟨line.val / 4, by omega⟩
  let shift := 4 * (line.val % 4)
  let word := regs.exticr i &&& ~~~(0x0F#32 <<< shift)
  let word := word ||| (portSource.setWidth 32 <<< shift)
  { regs with exticr := Function.update regs.exticr i word }

def lineSource (line : Fin 16) (regs : Registers) : BitVec 4 :=
  Bits.field (4 * (line.val % 4)) 4 (regs.exticr ⟨line.val / 4, by omega⟩)

/-! EXTI. -/

/-- `*(EXTI_BASE + offset) |= bits`, for an offset inside the block. A one
written to INTFR clears its bit, so this clears all of them. -/
def Exti.orAt (offset bits : BitVec 32) (exti : Exti) : Exti :=
  if offset = 0x00 then { exti with intenr := exti.intenr ||| bits }
  else if offset = 0x04 then { exti with evenr := exti.evenr ||| bits }
  else if offset = 0x08 then { exti with rtenr := exti.rtenr ||| bits }
  else if offset = 0x0C then { exti with ftenr := exti.ftenr ||| bits }
  else if offset = 0x14 then
    { exti with intfr := exti.intfr &&& ~~~(exti.intfr ||| bits) }
  else exti

def extiModeInterrupt : BitVec 32 := 0x00
def extiTriggerRising : BitVec 32 := 0x08
def extiTriggerFalling : BitVec 32 := 0x0C
def extiTriggerRisingFalling : BitVec 32 := 0x10

structure ExtiInit where
  extiLine : BitVec 32
  extiMode : BitVec 32
  extiTrigger : BitVec 32

/-- `EXTI_Init` with `EXTI_LineCmd` set to ENABLE. -/
def extiInit (init : ExtiInit) (exti : Exti) : Exti :=
  let line := init.extiLine
  let exti := { exti with intenr := exti.intenr &&& ~~~line }
  let exti := { exti with evenr := exti.evenr &&& ~~~line }
  let exti := exti.orAt init.extiMode line
  let exti := { exti with rtenr := exti.rtenr &&& ~~~line }
  let exti := { exti with ftenr := exti.ftenr &&& ~~~line }
  if init.extiTrigger = extiTriggerRisingFalling then
    let exti := { exti with rtenr := exti.rtenr ||| line }
    { exti with ftenr := exti.ftenr ||| line }
  else
    exti.orAt init.extiTrigger line

def extiGetITStatus (line : BitVec 32) (exti : Exti) : Bool :=
  exti.intfr &&& line ≠ 0 ∧ exti.intenr &&& line ≠ 0

def extiClearITPendingBit (lines : BitVec 32) (exti : Exti) : Exti :=
  { exti with intfr := exti.intfr &&& ~~~lines }

/-! The interrupt controller. -/

def nvicEnableIRQ (irqn : IRQn) (regs : Registers) : Registers :=
  { regs with irqEnabled := Function.update regs.irqEnabled irqn true }

def nvicDisableIRQ (irqn : IRQn) (regs : Registers) : Registers :=
  { regs with irqEnabled := Function.update regs.irqEnabled irqn false }

def nvicSetPriority (irqn : IRQn) (priority : BitVec 8) (regs : Registers) :
    Registers :=
  { regs with iprior := Function.update regs.iprior irqn priority }

/-! What the library functions do to one line. -/

theorem gpioExtiLineConfig_word (port : Port) (line : Fin 16)
    (word : BitVec 32) :
    (word &&& ~~~(0x0F#32 <<< (4 * (line.val % 4)))) |||
        ((gpioPortSource port).setWidth 32 <<< (4 * (line.val % 4))) =
      Bits.insertField (4 * (line.val % 4)) 4
        (((gpioPortSource port).setWidth 4).setWidth 32) word := by
  cases port <;> rfl

theorem lineSource_gpioExtiLineConfig_same (port : Port) (line : Fin 16)
    (regs : Registers) :
    lineSource line (gpioExtiLineConfig (gpioPortSource port) line regs) =
      (gpioPortSource port).setWidth 4 := by
  rw [lineSource, gpioExtiLineConfig]
  dsimp only
  rw [Function.update_self, gpioExtiLineConfig_word]
  exact Bits.field_insertField_same _ _ (by omega)

theorem lineSource_gpioExtiLineConfig_other (port : Port) {line other : Fin 16}
    (different : other ≠ line) (regs : Registers) :
    lineSource other (gpioExtiLineConfig (gpioPortSource port) line regs) =
      lineSource other regs := by
  rw [lineSource, lineSource, gpioExtiLineConfig]
  dsimp only
  have differentVal : other.val ≠ line.val := fun same =>
    different (Fin.ext same)
  by_cases sameWord : other.val / 4 = line.val / 4
  · have sameIndex : (⟨other.val / 4, by omega⟩ : Fin 4) =
        ⟨line.val / 4, by omega⟩ := Fin.ext sameWord
    rw [sameIndex, Function.update_self, gpioExtiLineConfig_word]
    exact Bits.field_insertField_other _ _ (by omega) (by omega)
  · have otherIndex : (⟨other.val / 4, by omega⟩ : Fin 4) ≠
        ⟨line.val / 4, by omega⟩ := fun same => sameWord (Fin.val_eq_of_eq same)
    rw [Function.update_of_ne otherIndex]

def triggerEdges (trigger : BitVec 32) : Bool × Bool :=
  (trigger = extiTriggerRising ∨ trigger = extiTriggerRisingFalling,
    trigger = extiTriggerFalling ∨ trigger = extiTriggerRisingFalling)

def lineEdges (line : Fin 16) (exti : Exti) : Bool × Bool :=
  (exti.rtenr.getLsbD line, exti.ftenr.getLsbD line)

theorem orAt_rtenr (offset bits : BitVec 32) (exti : Exti) :
    (exti.orAt offset bits).rtenr =
      if offset = extiTriggerRising then exti.rtenr ||| bits
      else exti.rtenr := by
  unfold Exti.orAt extiTriggerRising
  split_ifs <;> simp_all

theorem orAt_ftenr (offset bits : BitVec 32) (exti : Exti) :
    (exti.orAt offset bits).ftenr =
      if offset = extiTriggerFalling then exti.ftenr ||| bits
      else exti.ftenr := by
  unfold Exti.orAt extiTriggerFalling
  split_ifs <;> simp_all

theorem extiInit_rtenr (line trigger : BitVec 32) (exti : Exti) :
    (extiInit ⟨line, extiModeInterrupt, trigger⟩ exti).rtenr =
      if (triggerEdges trigger).1 then exti.rtenr &&& ~~~line ||| line
      else exti.rtenr &&& ~~~line := by
  unfold extiInit triggerEdges
  by_cases both : trigger = extiTriggerRisingFalling
  · simp [both, orAt_rtenr, extiModeInterrupt, extiTriggerRising]
  · simp [both, orAt_rtenr, extiModeInterrupt, extiTriggerRising]
    congr

theorem extiInit_ftenr (line trigger : BitVec 32) (exti : Exti) :
    (extiInit ⟨line, extiModeInterrupt, trigger⟩ exti).ftenr =
      if (triggerEdges trigger).2 then exti.ftenr &&& ~~~line ||| line
      else exti.ftenr &&& ~~~line := by
  unfold extiInit triggerEdges
  by_cases both : trigger = extiTriggerRisingFalling
  · simp [both, orAt_ftenr, extiModeInterrupt, extiTriggerFalling]
  · simp [both, orAt_ftenr, extiModeInterrupt, extiTriggerFalling]
    congr

theorem lineEdges_extiInit (line other : Fin 16) (trigger : BitVec 32)
    (exti : Exti) :
    lineEdges other
        (extiInit ⟨Bits.bit line, extiModeInterrupt, trigger⟩ exti) =
      if other = line then triggerEdges trigger else lineEdges other exti := by
  have inside : other.val < 32 := by omega
  rw [lineEdges, extiInit_rtenr, extiInit_ftenr,
    Bits.getLsbD_rewrite _ _ _ _ inside, Bits.getLsbD_rewrite _ _ _ _ inside]
  by_cases same : other = line
  · simp only [if_pos same, if_pos (congrArg Fin.val same)]
  · have sameVal : other.val ≠ line.val := fun equal => same (Fin.ext equal)
    simp only [if_neg same, if_neg sameVal]
    rfl

theorem extiInit_intfr {trigger : BitVec 32}
    (selects : trigger = extiTriggerRising ∨ trigger = extiTriggerFalling ∨
      trigger = extiTriggerRisingFalling) (line : BitVec 32) (exti : Exti) :
    (extiInit ⟨line, extiModeInterrupt, trigger⟩ exti).intfr = exti.intfr := by
  rcases selects with rfl | rfl | rfl <;> rfl

end Ch32v307.Gpio
