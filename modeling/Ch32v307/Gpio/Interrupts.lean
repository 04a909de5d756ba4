import Ch32v307.Data.Run
import Ch32v307.Gpio.Driver

namespace Ch32v307.Gpio

open Data

/-! Edges on the pins, the interrupt handlers, and which invocations of the
registered functions are due. -/

inductive Polarity where
  | rising
  | falling
  deriving DecidableEq, Repr

def Polarity.of (edges : Bool × Bool) : Polarity → Bool
  | .rising => edges.1
  | .falling => edges.2

/-- The EXTI latches an edge on the port selected for an enabled line whose
trigger registers ask for it. -/
def Latches (port : Port) (line : Fin 16) (polarity : Polarity)
    (regs : Registers) : Prop :=
  lineSource line regs = (gpioPortSource port).setWidth 4 ∧
    regs.exti.intenr.getLsbD line = true ∧
    polarity.of (lineEdges line regs.exti) = true

instance (port : Port) (line : Fin 16) (polarity : Polarity)
    (regs : Registers) : Decidable (Latches port line polarity regs) :=
  inferInstanceAs (Decidable (_ ∧ _ ∧ _))

def latchEdge (port : Port) (line : Fin 16) (polarity : Polarity)
    (driver : Driver) : Driver :=
  if Latches port line polarity driver.regs then
    let exti := driver.regs.exti
    let exti := { exti with intfr := exti.intfr ||| Bits.bit line }
    { driver with regs := { driver.regs with exti := exti } }
  else driver

/-- A call of a registered function, from the entry of a line. -/
structure Invocation where
  line : Fin 16
  hdr : UInt32
  args : UInt32
  deriving DecidableEq, Repr

def pinIrqHdr (irqno : Fin 16) (driver : Driver) : List Invocation :=
  let entry := driver.pinIrqHdrTab irqno
  if entry.hdr ≠ 0 then [⟨irqno, entry.hdr, entry.args⟩] else []

def halGpioExtiCallback (gpioPin : BitVec 32) (driver : Driver) :
    List Invocation :=
  match irqIndex gpioPin with
  | none => []
  | some irqno => pinIrqHdr irqno driver

def extiIrqHandler (lines : List (Fin 16)) (driver : Driver) :
    List Invocation × Driver :=
  if ∃ line ∈ lines, extiGetITStatus (Bits.bit line) driver.regs.exti then
    let invocations := lines.flatMap fun (line : Fin 16) =>
      halGpioExtiCallback (Bits.bit line) driver
    let exti :=
      extiClearITPendingBit (Bits.mask (lines.map Fin.val)) driver.regs.exti
    (invocations, { driver with regs := { driver.regs with exti := exti } })
  else
    ([], driver)

def irqHandler (irqn : IRQn) : Driver → List Invocation × Driver :=
  extiIrqHandler (irqLines irqn)

/-! The account of what is due, kept from the calls and the edges alone. -/

def modeEdges (mode : UInt32) : Bool × Bool :=
  (mode = pinIrqModeRising ∨ mode = pinIrqModeRisingFalling,
    mode = pinIrqModeFalling ∨ mode = pinIrqModeRisingFalling)

/-- A registration: the port of its pin, what it was attached with, whether
the pin's interrupt is enabled, and whether an edge it asked for has come since
then and not been served. -/
structure Registration where
  port : Port
  mode : UInt32
  hdr : UInt32
  args : UInt32
  enabled : Bool
  due : Bool
  deriving DecidableEq, Repr

abbrev Ledger := Fin 16 → Option Registration

/-- The entry of `pins[]` that a number is the index of. -/
def pinOf (pin : Int32) : Option PinIndex :=
  if 0 ≤ pin then pins[pin.toInt.toNat]?.join else none

def Registration.setEnabled (index : PinIndex) (enabled : UInt32)
    (registration : Registration) : Registration :=
  if registration.port ≠ index.gpio then registration
  else if enabled = pinIrqEnable then { registration with enabled := true }
  else if enabled = pinIrqDisable then { registration with enabled := false }
  else registration

def Registration.edge (port : Port) (polarity : Polarity)
    (registration : Registration) : Registration :=
  if registration.port = port ∧ registration.enabled ∧
      polarity.of (modeEdges registration.mode) then
    { registration with due := true }
  else registration

def Ledger.call (pin : Int32) (ledger : Ledger) (call : PinCall) : Ledger :=
  match pinOf pin, call with
  | some index, .attachIrq mode hdr args =>
      let registration : Registration :=
        ⟨index.gpio, mode, hdr, args, false, false⟩
      Function.update ledger index.gpioIndex
        (some ((ledger index.gpioIndex).getD registration))
  | some index, .dettachIrq => Function.update ledger index.gpioIndex none
  | some index, .irqEnable enabled _ =>
      Function.update ledger index.gpioIndex
        ((ledger index.gpioIndex).map (Registration.setEnabled index enabled))
  | _, _ => ledger

def Ledger.edge (port : Port) (line : Fin 16) (polarity : Polarity)
    (ledger : Ledger) : Ledger :=
  Function.update ledger line ((ledger line).map (.edge port polarity))

def Ledger.serve (invocations : List Invocation) (ledger : Ledger) : Ledger :=
  fun line =>
    if line ∈ invocations.map Invocation.line then
      (ledger line).map fun registration => { registration with due := false }
    else ledger line

/-! The driver and the account, under calls, edges and interrupts. -/

structure System where
  driver : Driver
  ledger : Ledger

def System.reset : System := ⟨.reset, fun _ => none⟩

inductive Action where
  | call (pin : Int32) (call : PinCall)
  | edge (port : Port) (line : Fin 16) (polarity : Polarity)
  | irq (irqn : IRQn)

def System.step (system : System) : Action → System
  | .call pin call =>
      ⟨call.run pin system.driver, system.ledger.call pin call⟩
  | .edge port line polarity =>
      ⟨latchEdge port line polarity system.driver,
        system.ledger.edge port line polarity⟩
  | .irq irqn =>
      let served := irqHandler irqn system.driver
      ⟨served.2, system.ledger.serve served.1⟩

def System.emit (system : System) :
    Action → List (Invocation × Option Registration)
  | .call _ _ => []
  | .edge _ _ _ => []
  | .irq irqn =>
      (irqHandler irqn system.driver).1.map fun invocation =>
        (invocation, system.ledger invocation.line)

/-- The function invoked is the one registered, and an edge it asked for on its
pin has come while enabled. -/
def Due (output : Invocation × Option Registration) : Prop :=
  ∃ registration, output.2 = some registration ∧
    registration.hdr = output.1.hdr ∧ registration.args = output.1.args ∧
    registration.due = true

def pending (line : Fin 16) (driver : Driver) : Bool :=
  driver.regs.exti.intfr.getLsbD line

def EdgeMode (mode : UInt32) : Prop :=
  mode = pinIrqModeRising ∨ mode = pinIrqModeFalling ∨
    mode = pinIrqModeRisingFalling

/-- The driver takes the number for the pin that it is the number of, although it
keeps 8 bits of it. -/
def Kept (pin : Int32) : Prop := getPin (lowByte pin) = pinOf pin

instance (pin : Int32) : Decidable (Kept pin) :=
  inferInstanceAs (Decidable (_ = _))

/-- The steps that leave nothing pending that is not due: a call is for the pin
of its number, a registration is installed on a line without a pending bit, an
enable is for the registered pin and an edge mode, an edge that is latched on a
registered line finds the registration enabled, and a shared vector is served
with every registered line of it pending. -/
def Admissible (system : System) : Action → Prop
  | .call pin (.attachIrq _ _ _) =>
      Kept pin ∧ ∀ index, pinOf pin = some index →
        system.ledger index.gpioIndex = none →
        pending index.gpioIndex system.driver = false
  | .call pin .dettachIrq => Kept pin
  | .call pin (.irqEnable enabled _) =>
      enabled = pinIrqEnable → Kept pin ∧ ∀ index registration,
        pinOf pin = some index →
        system.ledger index.gpioIndex = some registration →
        registration.port = index.gpio ∧ EdgeMode registration.mode
  | .call _ _ => True
  | .edge port line polarity =>
      ∀ registration, system.ledger line = some registration →
        Latches port line polarity system.driver.regs →
        registration.enabled = true
  | .irq irqn =>
      (∃ line ∈ irqLines irqn,
        extiGetITStatus (Bits.bit line) system.driver.regs.exti) →
      ∀ line ∈ irqLines irqn, (system.driver.pinIrqHdrTab line).hdr ≠ 0 →
        pending line system.driver = true

structure Tracks (registration : Registration) (config : LineConfig)
    (pending : Bool) : Prop where
  taken : config.registration.pin ≠ -1
  mode : config.registration.mode = registration.mode.toUInt16
  hdr : config.registration.hdr = registration.hdr
  args : config.registration.args = registration.args
  configured : registration.enabled = true →
    config.source = (gpioPortSource registration.port).setWidth 4 ∧
      config.edges = modeEdges registration.mode
  covered : pending = true → registration.due = true

def LineInv (registration : Option Registration) (config : LineConfig)
    (pending : Bool) : Prop :=
  match registration with
  | none => config.registration = .empty
  | some registration => Tracks registration config pending

def System.Inv (system : System) : Prop :=
  ∀ line, LineInv (system.ledger line) (lineConfig line system.driver)
    (pending line system.driver)

theorem System.Inv.free {system : System} (inv : system.Inv) {line : Fin 16}
    (held : system.ledger line = none) :
    (system.driver.pinIrqHdrTab line).pin = -1 := by
  have lineInv := inv line
  rw [held] at lineInv
  exact congrArg PinIrqHdr.pin lineInv

theorem System.Inv.tracks {system : System} (inv : system.Inv)
    {line : Fin 16} {registration : Registration}
    (held : system.ledger line = some registration) :
    Tracks registration (lineConfig line system.driver)
      (pending line system.driver) := by
  have lineInv := inv line
  rw [held] at lineInv
  exact lineInv

/-! Calls keep the invariant. -/

section Calls

variable {pin : Int32} {index : PinIndex} {system : System}

theorem step_call_unchanged {call : PinCall}
    (driver : call.run pin system.driver = system.driver)
    (ledger : system.ledger.call pin call = system.ledger) :
    system.step (.call pin call) = system := by
  rw [System.step, driver, ledger]

theorem inv_of_sameLines {call : PinCall}
    (same : SameLines system.driver (call.run pin system.driver))
    (tracked : ∀ line, LineInv (system.ledger.call pin call line)
      (lineConfig line system.driver) (pending line system.driver)) :
    (system.step (.call pin call)).Inv := by
  intro line
  have samePending : pending line (call.run pin system.driver) =
      pending line system.driver := by
    rw [pending, same.exti, pending]
  simp only [System.step, same.lineConfig, samePending]
  exact tracked line

theorem attach_inv (inv : system.Inv) (kept : Kept pin)
    (entry : pinOf pin = some index) {mode hdr args : UInt32}
    (quiet : system.ledger index.gpioIndex = none →
      pending index.gpioIndex system.driver = false) :
    (system.step (.call pin (.attachIrq mode hdr args))).Inv := by
  have named := kept.trans entry
  cases held : system.ledger index.gpioIndex with
  | some registration =>
      have driver := attach_taken named (inv.tracks held).taken mode hdr args
      have ledger : system.ledger.call pin (.attachIrq mode hdr args) =
          system.ledger := by
        simp only [Ledger.call, entry, held, Option.getD_some]
        rw [← held, Function.update_eq_self]
      rw [step_call_unchanged (by exact driver) ledger]
      exact inv
  | none =>
      have driver := attach_free named (inv.free held) mode hdr args
      intro line
      simp only [System.step, PinCall.run, driver, Ledger.call, entry, held,
        Option.getD_none]
      by_cases same : line = index.gpioIndex
      · rw [same, Function.update_self]
        refine ⟨?_, ?_, ?_, ?_, ?_, ?_⟩
        · simp only [lineConfig, Function.update_self]
          exact storedPin_ne named
        · simp only [lineConfig, Function.update_self]
        · simp only [lineConfig, Function.update_self]
        · simp only [lineConfig, Function.update_self]
        · intro enabled
          cases enabled
        · intro isPending
          exact absurd ((quiet held).symm.trans isPending) Bool.false_ne_true
      · rw [Function.update_of_ne same, lineConfig_of_table same]
        exact inv line

theorem dettach_inv (inv : system.Inv) (kept : Kept pin)
    (entry : pinOf pin = some index) :
    (system.step (.call pin .dettachIrq)).Inv := by
  have named := kept.trans entry
  have ledger : system.ledger.call pin .dettachIrq =
      Function.update system.ledger index.gpioIndex none := by
    simp only [Ledger.call, entry]
  cases held : system.ledger index.gpioIndex with
  | none =>
      have driver : PinCall.dettachIrq.run pin system.driver =
          system.driver := by
        rw [PinCall.run, dettach_named named, if_pos (inv.free held)]
      rw [← held, Function.update_eq_self] at ledger
      rw [step_call_unchanged driver ledger]
      exact inv
  | some registration =>
      have taken : (system.driver.pinIrqHdrTab index.gpioIndex).pin ≠ -1 :=
        (inv.tracks held).taken
      intro line
      simp only [System.step, PinCall.run, dettach_named named, ledger,
        if_neg taken]
      by_cases same : line = index.gpioIndex
      · rw [same, Function.update_self]
        simp only [lineConfig, Function.update_self, LineInv]
      · rw [Function.update_of_ne same, lineConfig_of_table same]
        exact inv line

theorem triggerEdges_irqModeConfig {mode : UInt32} (edge : EdgeMode mode)
    (unset : Unset) :
    triggerEdges (irqModeConfig mode.toUInt16 unset).2 = modeEdges mode := by
  rcases edge with rfl | rfl | rfl <;> rfl

theorem enableIrq_pending {mode : UInt32} (edge : EdgeMode mode)
    (unset : Unset) (line : Fin 16) (driver : Driver) :
    pending line
        { driver with
          regs :=
            enableIrq index index.gpioIndex mode.toUInt16 unset driver.regs } =
      pending line driver := by
  unfold pending
  dsimp only
  rw [enableIrq_exti, extiInit_intfr]
  rcases edge with rfl | rfl | rfl
  · exact Or.inl rfl
  · exact Or.inr (Or.inl rfl)
  · exact Or.inr (Or.inr rfl)

theorem enable_inv (inv : system.Inv) (kept : Kept pin)
    (entry : pinOf pin = some index) (unset : Unset)
    (owned : ∀ registration,
      system.ledger index.gpioIndex = some registration →
      registration.port = index.gpio ∧ EdgeMode registration.mode) :
    (system.step (.call pin (.irqEnable pinIrqEnable unset))).Inv := by
  have named := kept.trans entry
  cases held : system.ledger index.gpioIndex with
  | none =>
      have driver : (PinCall.irqEnable pinIrqEnable unset).run pin
          system.driver = system.driver := by
        rw [PinCall.run, enable_named named, if_pos (inv.free held)]
      have ledger : system.ledger.call pin (.irqEnable pinIrqEnable unset) =
          system.ledger := by
        simp only [Ledger.call, entry, held, Option.map_none]
        rw [← held, Function.update_eq_self]
      rw [step_call_unchanged driver ledger]
      exact inv
  | some registration =>
      obtain ⟨port, edge⟩ := owned registration held
      have tracks := inv.tracks held
      have taken : (system.driver.pinIrqHdrTab index.gpioIndex).pin ≠ -1 :=
        tracks.taken
      have mode : (system.driver.pinIrqHdrTab index.gpioIndex).mode =
          registration.mode.toUInt16 := tracks.mode
      have enabled : registration.setEnabled index pinIrqEnable =
          { registration with enabled := true } := by
        simp [Registration.setEnabled, port]
      intro line
      simp only [System.step, PinCall.run, enable_named named,
        if_neg taken, Ledger.call, entry, held, Option.map_some,
        enabled, mode]
      rw [enableIrq_pending edge, enableIrq_lineConfig]
      by_cases same : line = index.gpioIndex
      · rw [same, Function.update_self, if_pos rfl]
        refine ⟨tracks.taken, tracks.mode, tracks.hdr, tracks.args, ?_,
          tracks.covered⟩
        intro _
        exact ⟨by rw [port], triggerEdges_irqModeConfig edge unset⟩
      · rw [Function.update_of_ne same, if_neg same]
        exact inv line

theorem Tracks.setEnabled {registration : Registration} {config : LineConfig}
    {isPending : Bool} (tracks : Tracks registration config isPending)
    {enabled : UInt32} (notEnable : enabled ≠ pinIrqEnable) :
    Tracks (registration.setEnabled index enabled) config isPending := by
  unfold Registration.setEnabled
  split_ifs
  · exact tracks
  · refine ⟨tracks.taken, tracks.mode, tracks.hdr, tracks.args, ?_,
      tracks.covered⟩
    intro enabled
    cases enabled
  · exact tracks

theorem disable_inv (inv : system.Inv) {enabled : UInt32}
    (notEnable : enabled ≠ pinIrqEnable) (unset : Unset) :
    (system.step (.call pin (.irqEnable enabled unset))).Inv := by
  apply inv_of_sameLines (notEnable_sameLines notEnable pin unset system.driver)
  intro line
  have lineInv := inv line
  cases entry : pinOf pin with
  | none =>
      simp only [Ledger.call, entry]
      exact lineInv
  | some index =>
      simp only [Ledger.call, entry]
      by_cases same : line = index.gpioIndex
      · rw [same, Function.update_self]
        rw [same] at lineInv
        cases held : system.ledger index.gpioIndex with
        | none =>
            rw [held] at lineInv
            exact lineInv
        | some registration => exact (inv.tracks held).setEnabled notEnable
      · rw [Function.update_of_ne same]
        exact lineInv

/-- A call on a number of no pin. -/
theorem unnamed_inv (inv : system.Inv) (kept : Kept pin)
    (entry : pinOf pin = none) (call : PinCall) :
    (system.step (.call pin call)).Inv := by
  have ledger : system.ledger.call pin call = system.ledger := by
    simp only [Ledger.call, entry]
  have driver := run_unnamed (kept.trans entry) system.driver call
  rw [step_call_unchanged driver ledger]
  exact inv

/-- A call that is about no interrupt. -/
theorem quiet_inv {call : PinCall} (inv : system.Inv)
    (same : SameLines system.driver (call.run pin system.driver))
    (ledger : system.ledger.call pin call = system.ledger) :
    (system.step (.call pin call)).Inv := by
  apply inv_of_sameLines same
  rw [ledger]
  exact inv

theorem call_inv (inv : system.Inv) (call : PinCall)
    (admissible : Admissible system (.call pin call)) :
    (system.step (.call pin call)).Inv := by
  have unused : (∀ mode hdr args, call ≠ .attachIrq mode hdr args) →
      call ≠ .dettachIrq → (∀ enabled unset, call ≠ .irqEnable enabled unset) →
      system.ledger.call pin call = system.ledger := by
    intro attach dettach enable
    unfold Ledger.call
    split
    · exact absurd rfl (attach _ _ _)
    · exact absurd rfl dettach
    · exact absurd rfl (enable _ _)
    · rfl
  cases call with
  | pinMode mode =>
      exact quiet_inv inv (mode_sameLines pin mode system.driver)
        (unused nofun nofun nofun)
  | pinWrite value =>
      exact quiet_inv inv (write_sameLines pin value system.driver)
        (unused nofun nofun nofun)
  | attachIrq mode hdr args =>
      obtain ⟨kept, quiet⟩ := admissible
      cases entry : pinOf pin with
      | none => exact unnamed_inv inv kept entry _
      | some index => exact attach_inv inv kept entry (quiet index entry)
  | dettachIrq =>
      cases entry : pinOf pin with
      | none => exact unnamed_inv inv admissible entry _
      | some index => exact dettach_inv inv admissible entry
  | irqEnable enabled unset =>
      by_cases enables : enabled = pinIrqEnable
      · subst enables
        obtain ⟨kept, owned⟩ := admissible rfl
        cases entry : pinOf pin with
        | none => exact unnamed_inv inv kept entry _
        | some index =>
            exact enable_inv inv kept entry unset fun registration held =>
              owned index registration entry held
      · exact disable_inv inv enables unset

end Calls

/-! Edges keep the invariant. -/

theorem portSource_inj {left right : Port}
    (same : (gpioPortSource left).setWidth 4 =
      (gpioPortSource right).setWidth 4) : left = right := by
  revert same
  cases left <;> cases right <;> decide

section Edges

variable {port : Port} {line : Fin 16} {polarity : Polarity} {driver : Driver}

theorem latchEdge_lineConfig (other : Fin 16) :
    lineConfig other (latchEdge port line polarity driver) =
      lineConfig other driver := by
  unfold latchEdge
  split <;> rfl

theorem latchEdge_pending (other : Fin 16) :
    pending other (latchEdge port line polarity driver) =
      (pending other driver ||
        decide (other = line ∧ Latches port line polarity driver.regs)) := by
  unfold latchEdge pending
  split_ifs with latches
  · have inside : other.val < 32 := by omega
    rw [Bits.getLsbD_set _ _ _ inside]
    simp [latches, Fin.ext_iff]
  · simp [latches]

theorem Tracks.withDue {registration : Registration} {config : LineConfig}
    {isPending stillPending due : Bool}
    (tracks : Tracks registration config isPending)
    (covered : stillPending = true → due = true) :
    Tracks { registration with due := due } config stillPending :=
  ⟨tracks.taken, tracks.mode, tracks.hdr, tracks.args, tracks.configured,
    covered⟩

theorem Registration.edge_eq (registration : Registration) :
    registration.edge port polarity =
      { registration with due := (registration.edge port polarity).due } := by
  unfold Registration.edge
  split <;> rfl

theorem Registration.edge_due {registration : Registration}
    (due : registration.due = true) :
    (registration.edge port polarity).due = true := by
  unfold Registration.edge
  split
  · rfl
  · exact due

theorem Tracks.latched {registration : Registration}
    (tracks : Tracks registration (lineConfig line driver)
      (pending line driver))
    (enabled : registration.enabled = true)
    (latches : Latches port line polarity driver.regs) :
    (registration.edge port polarity).due = true := by
  obtain ⟨source, edges⟩ := tracks.configured enabled
  obtain ⟨selected, _, sensitive⟩ := latches
  have samePort : registration.port = port :=
    portSource_inj (source.symm.trans selected)
  have asked : polarity.of (modeEdges registration.mode) = true := by
    rw [← edges]
    exact sensitive
  simp [Registration.edge, samePort, enabled, asked]

theorem Tracks.edge {registration : Registration}
    (tracks : Tracks registration (lineConfig line driver)
      (pending line driver))
    (enabled : Latches port line polarity driver.regs →
      registration.enabled = true) :
    Tracks (registration.edge port polarity)
      (lineConfig line (latchEdge port line polarity driver))
      (pending line (latchEdge port line polarity driver)) := by
  rw [latchEdge_lineConfig, Registration.edge_eq]
  apply tracks.withDue
  rw [latchEdge_pending, Bool.or_eq_true, decide_eq_true_eq]
  rintro (already | ⟨_, latches⟩)
  · exact Registration.edge_due (tracks.covered already)
  · exact tracks.latched (enabled latches) latches

theorem edge_inv {system : System} (inv : system.Inv)
    (admissible : Admissible system (.edge port line polarity)) :
    (system.step (.edge port line polarity)).Inv := by
  intro other
  simp only [System.step, Ledger.edge]
  by_cases same : other = line
  · rw [same, Function.update_self]
    cases held : system.ledger line with
    | none =>
        have lineInv := inv line
        rw [held] at lineInv
        rw [latchEdge_lineConfig]
        exact lineInv
    | some registration =>
        exact (inv.tracks held).edge (admissible registration held)
  · rw [Function.update_of_ne same, latchEdge_lineConfig, latchEdge_pending]
    simp only [same, false_and, decide_false, Bool.or_false]
    exact inv other

end Edges

/-! So do the interrupt handlers, and every invocation is due. -/

section Handlers

variable {system : System} {irqn : IRQn}

theorem halGpioExtiCallback_bit (line : Fin 16) (driver : Driver) :
    halGpioExtiCallback (Bits.bit line) driver = pinIrqHdr line driver := by
  rw [halGpioExtiCallback, irqIndex_bit]

theorem mem_invocations {invocation : Invocation} {driver : Driver}
    (invoked : invocation ∈ (irqHandler irqn driver).1) :
    (∃ line ∈ irqLines irqn,
      extiGetITStatus (Bits.bit line) driver.regs.exti) ∧
    invocation.line ∈ irqLines irqn ∧
    (driver.pinIrqHdrTab invocation.line).hdr = invocation.hdr ∧
    (driver.pinIrqHdrTab invocation.line).args = invocation.args ∧
    invocation.hdr ≠ 0 := by
  unfold irqHandler extiIrqHandler at invoked
  split at invoked
  · rename_i served
    refine ⟨served, ?_⟩
    obtain ⟨line, member, called⟩ := List.mem_flatMap.mp invoked
    rw [halGpioExtiCallback_bit, pinIrqHdr] at called
    split at called
    · rename_i registered
      rw [List.mem_singleton] at called
      subst called
      exact ⟨member, rfl, rfl, registered⟩
    · cases called
  · cases invoked

theorem irqHandler_lineConfig (line : Fin 16) (driver : Driver) :
    lineConfig line (irqHandler irqn driver).2 = lineConfig line driver := by
  unfold irqHandler extiIrqHandler
  split <;> rfl

theorem clearITPendingBit_intfr (irqn : IRQn) (line : Fin 16) (exti : Exti) :
    (extiClearITPendingBit (Bits.mask ((irqLines irqn).map Fin.val))
      exti).intfr.getLsbD line = true ↔
      exti.intfr.getLsbD line = true ∧ line ∉ irqLines irqn := by
  have inside : line.val < 32 := by omega
  have listed : line.val ∈ (irqLines irqn).map Fin.val ↔
      line ∈ irqLines irqn := by
    simp [Fin.val_inj]
  simp only [extiClearITPendingBit, BitVec.getLsbD_and,
    BitVec.getLsbD_not, Bits.getLsbD_mask _ _ inside, listed, inside,
    decide_true, Bool.true_and, Bool.and_eq_true, Bool.not_eq_true',
    decide_eq_false_iff_not]

theorem irqHandler_cleared (line : Fin 16) (driver : Driver)
    (served : ∃ line ∈ irqLines irqn,
      extiGetITStatus (Bits.bit line) driver.regs.exti) :
    pending line (irqHandler irqn driver).2 = true ↔
      pending line driver = true ∧ line ∉ irqLines irqn := by
  rw [irqHandler, extiIrqHandler, if_pos served]
  exact clearITPendingBit_intfr irqn line driver.regs.exti

theorem irqHandler_pending {line : Fin 16} {driver : Driver}
    (isPending : pending line (irqHandler irqn driver).2 = true) :
    pending line driver = true ∧
      line ∉ (irqHandler irqn driver).1.map Invocation.line := by
  by_cases served : ∃ line ∈ irqLines irqn,
      extiGetITStatus (Bits.bit line) driver.regs.exti
  · obtain ⟨already, elsewhere⟩ :=
      (irqHandler_cleared line driver served).mp isPending
    refine ⟨already, ?_⟩
    intro invoked
    obtain ⟨invocation, called, rfl⟩ := List.mem_map.mp invoked
    exact elsewhere (mem_invocations called).2.1
  · have unchanged : irqHandler irqn driver = ([], driver) := if_neg served
    rw [unchanged] at isPending ⊢
    exact ⟨isPending, List.not_mem_nil⟩

theorem irq_inv (inv : system.Inv) : (system.step (.irq irqn)).Inv := by
  intro line
  simp only [System.step, irqHandler_lineConfig, Ledger.serve]
  cases held : system.ledger line with
  | none =>
      have lineInv := inv line
      rw [held] at lineInv
      split
      · exact lineInv
      · exact lineInv
  | some registration =>
      have tracks := inv.tracks held
      split
      · rename_i served
        apply tracks.withDue
        intro isPending
        exact absurd served (irqHandler_pending isPending).2
      · exact tracks.withDue fun isPending =>
          tracks.covered (irqHandler_pending isPending).1

theorem irq_due (inv : system.Inv) (admissible : Admissible system (.irq irqn)) :
    ∀ output ∈ system.emit (.irq irqn), Due output := by
  intro output emitted
  obtain ⟨invocation, invoked, rfl⟩ := List.mem_map.mp emitted
  obtain ⟨served, member, hdr, args, registered⟩ := mem_invocations invoked
  have isPending := admissible served _ member (hdr ▸ registered)
  cases held : system.ledger invocation.line with
  | none =>
      have lineInv := inv invocation.line
      rw [held] at lineInv
      have blank : (system.driver.pinIrqHdrTab invocation.line).hdr = 0 :=
        congrArg PinIrqHdr.hdr lineInv
      exact absurd (hdr.symm.trans blank) registered
  | some registration =>
      have tracks := inv.tracks held
      exact ⟨registration, rfl, tracks.hdr.symm.trans hdr,
        tracks.args.symm.trans args, tracks.covered isPending⟩

end Handlers

theorem reset_inv : System.reset.Inv := by
  intro line
  rfl

theorem step_inv (system : System) (action : Action) (inv : system.Inv)
    (admissible : Admissible system action) : (system.step action).Inv := by
  cases action with
  | call pin call => exact call_inv inv call admissible
  | edge port line polarity => exact edge_inv inv admissible
  | irq irqn => exact irq_inv inv

theorem emit_due (system : System) (action : Action) (inv : system.Inv)
    (admissible : Admissible system action) :
    ∀ output ∈ system.emit action, Due output := by
  cases action with
  | call pin call => simp [System.emit]
  | edge port line polarity => simp [System.emit]
  | irq irqn => exact irq_due inv admissible

/-- In a run of admissible steps from reset every invocation of a registered
function is due. -/
theorem invocations_due (actions : List Action)
    (admissible : Run.Guarded System.step Admissible .reset actions) :
    ∀ output ∈ Run.trace System.step System.emit .reset actions, Due output :=
  Run.trace_forall step_inv emit_due reset_inv admissible

theorem pin4_edge_due :
    ∃ output, Run.trace System.step System.emit .reset
        [.call 4 (.attachIrq 0 1 0), .call 4 (.irqEnable 1 ⟨0, 0⟩),
          .edge .e 5 .rising, .irq .exti9To5] = [output] ∧ Due output := by
  have admissible : Run.Guarded System.step Admissible .reset
      [.call 4 (.attachIrq 0 1 0), .call 4 (.irqEnable 1 ⟨0, 0⟩),
        .edge .e 5 .rising, .irq .exti9To5] := by
    refine ⟨?_, ?_, ?_, ?_, trivial⟩
    · exact ⟨by decide, fun index _ _ => BitVec.getLsbD_zero⟩
    · intro _
      refine ⟨by decide, fun index registration entry held => ?_⟩
      obtain rfl : index = ⟨4, .e, 5⟩ :=
        Option.some.inj (entry.symm.trans (by decide))
      cases held
      exact ⟨rfl, Or.inl rfl⟩
    · intro registration held _
      cases held
      rfl
    · intro _
      decide +kernel
  have ran : Run.trace System.step System.emit .reset
      [.call 4 (.attachIrq 0 1 0), .call 4 (.irqEnable 1 ⟨0, 0⟩),
        .edge .e 5 .rising, .irq .exti9To5] =
        [(⟨5, 1, 0⟩, some ⟨.e, 0, 1, 0, true, true⟩)] := by
    decide +kernel
  refine ⟨_, ran, invocations_due _ admissible _ ?_⟩
  rw [ran]
  exact List.mem_singleton_self _

/-- Two pins on lines 5 and 6, enabled for rising edges: an edge on the first
invokes the function of the second. -/
theorem pin5_invoked_for_pin4 :
    ¬ ∀ actions, ∀ output ∈ Run.trace System.step System.emit .reset actions,
      Due output := by
  intro allDue
  let output : Invocation × Option Registration :=
    (⟨6, 2, 0⟩, some ⟨.e, 0, 2, 0, true, false⟩)
  have invoked : output ∈ Run.trace System.step System.emit .reset
      [.call 4 (.attachIrq 0 1 0), .call 5 (.attachIrq 0 2 0),
        .call 4 (.irqEnable 1 ⟨0, 0⟩), .call 5 (.irqEnable 1 ⟨0, 0⟩),
        .edge .e 5 .rising, .irq .exti9To5] := by
    decide +kernel
  obtain ⟨registration, same, _, _, due⟩ := allDue _ output invoked
  cases same
  cases due

end Ch32v307.Gpio
