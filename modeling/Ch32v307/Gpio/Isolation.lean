import Ch32v307.Data.Run
import Ch32v307.Gpio.Driver

namespace Ch32v307.Gpio

open Data

/-! What calls on one pin number leave of the interrupt of another. -/

/-- What the delivery of a line's interrupt depends on. -/
structure LineState where
  config : LineConfig
  irqEnabled : Bool
  deriving DecidableEq

def lineState (line : Fin 16) (driver : Driver) : LineState where
  config := lineConfig line driver
  irqEnabled := driver.regs.irqEnabled (pinIrqMap line)

structure AttachedEnabled (pin : Int32) (index : PinIndex) (driver : Driver) :
    Prop where
  named : getPin (lowByte pin) = some index
  attached : (driver.pinIrqHdrTab index.gpioIndex).pin = pin.toInt16
  enabled : driver.regs.irqEnabled (pinIrqMap index.gpioIndex) = true

theorem AttachedEnabled.taken {pin : Int32} {index : PinIndex}
    {driver : Driver} (live : AttachedEnabled pin index driver) :
    (driver.pinIrqHdrTab index.gpioIndex).pin ≠ -1 := by
  rw [live.attached]
  exact storedPin_ne live.named

theorem AttachedEnabled.of_lineState {pin : Int32} {index : PinIndex}
    {driver later : Driver} (live : AttachedEnabled pin index driver)
    (unchanged : lineState index.gpioIndex later =
      lineState index.gpioIndex driver) :
    AttachedEnabled pin index later := by
  have registration := congrArg (fun line => line.config.registration.pin) unchanged
  have delivered := congrArg LineState.irqEnabled unchanged
  exact ⟨live.named, registration.trans live.attached,
    delivered.trans live.enabled⟩

/-- A call on `pin` that does not reach what `line` depends on: a detach names
another line, an enable names another line or writes what is there already, a
disable names another vector. -/
def Harmless (line : Fin 16) (pin : Int32) (driver : Driver) : PinCall → Prop
  | .pinMode _ | .pinWrite _ | .attachIrq _ _ _ => True
  | .dettachIrq =>
      ∀ other, getPin (lowByte pin) = some other → other.gpioIndex ≠ line
  | .irqEnable enabled unset =>
      ∀ other, getPin (lowByte pin) = some other →
        (enabled = pinIrqEnable → other.gpioIndex = line →
          lineSource line driver.regs =
              (gpioPortSource other.gpio).setWidth 4 ∧
            lineEdges line driver.regs.exti =
              triggerEdges
                (irqModeConfig (driver.pinIrqHdrTab line).mode unset).2) ∧
        (enabled = pinIrqDisable → pinIrqMap other.gpioIndex ≠ pinIrqMap line)

section Calls

variable {p q : Int32} {index : PinIndex} {driver : Driver}

theorem mode_lineState (line : Fin 16) (mode : Int32) :
    lineState line (ch32PinMode q mode driver) = lineState line driver := by
  unfold ch32PinMode
  cases getPin (lowByte q) with
  | none => rfl
  | some other => rfl

theorem write_lineState (line : Fin 16) (value : Int32) :
    lineState line (ch32PinWrite q value driver) = lineState line driver := by
  unfold ch32PinWrite
  cases getPin (lowByte q) with
  | none => rfl
  | some other => rfl

theorem lineState_of_table {line other : Fin 16} {entry : PinIrqHdr}
    (different : line ≠ other) :
    lineState line
        { driver with
          pinIrqHdrTab := Function.update driver.pinIrqHdrTab other entry } =
      lineState line driver := by
  rw [lineState, lineConfig_of_table different]
  rfl

theorem attach_lineState (live : AttachedEnabled p index driver)
    (mode hdr args : UInt32) :
    lineState index.gpioIndex (ch32PinAttachIrq q mode hdr args driver).2 =
      lineState index.gpioIndex driver := by
  cases named : getPin (lowByte q) with
  | none => rw [attach_unnamed named]
  | some other =>
      by_cases free : (driver.pinIrqHdrTab other.gpioIndex).pin = -1
      · rw [attach_free named free]
        apply lineState_of_table
        rintro same
        exact live.taken (same ▸ free)
      · rw [attach_taken named free]

theorem dettach_lineState (live : AttachedEnabled p index driver) :
    lineState index.gpioIndex (ch32PinDettachIrq q driver).2 =
        lineState index.gpioIndex driver ↔
      Harmless index.gpioIndex q driver .dettachIrq := by
  cases named : getPin (lowByte q) with
  | none => simp [ch32PinDettachIrq, Harmless, named]
  | some other =>
      have harmless : Harmless index.gpioIndex q driver .dettachIrq ↔
          other.gpioIndex ≠ index.gpioIndex := by
        simp [Harmless, named]
      rw [harmless, dettach_named named]
      by_cases same : other.gpioIndex = index.gpioIndex
      · rw [same, if_neg live.taken]
        refine iff_of_false ?_ (fun different => different rfl)
        intro unchanged
        have registration := congrArg
          (fun line => line.config.registration.pin) unchanged
        simp only [lineState, lineConfig, Function.update_self] at registration
        exact live.taken registration.symm
      · refine iff_of_true ?_ same
        split
        · rfl
        · exact lineState_of_table (Ne.symm same)

theorem enableIrq_lineState {line : Fin 16}
    (enabled : driver.regs.irqEnabled (pinIrqMap line) = true)
    (other : PinIndex) (mode : UInt16) (unset : Unset) :
    lineState line
        { driver with
          regs := enableIrq other other.gpioIndex mode unset driver.regs } =
      if line = other.gpioIndex then
        ⟨⟨driver.pinIrqHdrTab line, (gpioPortSource other.gpio).setWidth 4,
          triggerEdges (irqModeConfig mode unset).2⟩, true⟩
      else lineState line driver := by
  have delivers : (enableIrq other other.gpioIndex mode unset
      driver.regs).irqEnabled (pinIrqMap line) = true := by
    rw [enableIrq_irqEnabled, Function.update_apply]
    split
    · rfl
    · exact enabled
  simp only [lineState, delivers, enabled, enableIrq_lineConfig]
  split <;> rfl

theorem enable_lineState (live : AttachedEnabled p index driver)
    (unset : Unset) :
    lineState index.gpioIndex
          (ch32PinIrqEnable q pinIrqEnable unset driver).2 =
        lineState index.gpioIndex driver ↔
      Harmless index.gpioIndex q driver (.irqEnable pinIrqEnable unset) := by
  cases named : getPin (lowByte q) with
  | none => simp [ch32PinIrqEnable, Harmless, named]
  | some other =>
      have notDisable : pinIrqEnable ≠ pinIrqDisable := by decide
      rw [enable_named named]
      by_cases same : index.gpioIndex = other.gpioIndex
      · have harmless : Harmless index.gpioIndex q driver
              (.irqEnable pinIrqEnable unset) ↔
            lineSource index.gpioIndex driver.regs =
                (gpioPortSource other.gpio).setWidth 4 ∧
              lineEdges index.gpioIndex driver.regs.exti =
                triggerEdges (irqModeConfig
                  (driver.pinIrqHdrTab index.gpioIndex).mode unset).2 := by
          simp [Harmless, named, same, notDisable]
        rw [harmless, if_neg (same ▸ live.taken),
          enableIrq_lineState live.enabled, if_pos same, ← same]
        simp only [lineState, lineConfig, LineState.mk.injEq,
          LineConfig.mk.injEq, live.enabled, true_and, and_true]
        exact and_congr eq_comm eq_comm
      · have harmless : Harmless index.gpioIndex q driver
            (.irqEnable pinIrqEnable unset) := by
          simp [Harmless, named, Ne.symm same, notDisable]
        refine iff_of_true ?_ harmless
        split
        · rfl
        · rw [enableIrq_lineState live.enabled, if_neg same]

theorem disable_lineState (live : AttachedEnabled p index driver)
    (unset : Unset) :
    lineState index.gpioIndex
          (ch32PinIrqEnable q pinIrqDisable unset driver).2 =
        lineState index.gpioIndex driver ↔
      Harmless index.gpioIndex q driver (.irqEnable pinIrqDisable unset) := by
  cases named : getPin (lowByte q) with
  | none => simp [ch32PinIrqEnable, Harmless, named]
  | some other =>
      have notEnable : pinIrqDisable ≠ pinIrqEnable := by decide
      have harmless : Harmless index.gpioIndex q driver
            (.irqEnable pinIrqDisable unset) ↔
          pinIrqMap other.gpioIndex ≠ pinIrqMap index.gpioIndex := by
        simp [Harmless, named, notEnable]
      rw [harmless, disable_named named]
      by_cases same : pinIrqMap other.gpioIndex = pinIrqMap index.gpioIndex
      · refine iff_of_false ?_ (fun different => different same)
        intro unchanged
        have delivered := congrArg LineState.irqEnabled unchanged
        simp [lineState, nvicDisableIRQ, same, live.enabled] at delivered
      · refine iff_of_true ?_ same
        simp only [lineState, nvicDisableIRQ,
          Function.update_of_ne (Ne.symm same)]
        rfl

/-- A call keeps what an enabled line depends on exactly when it is harmless. -/
theorem run_lineState (live : AttachedEnabled p index driver)
    (call : PinCall) :
    lineState index.gpioIndex (call.run q driver) =
        lineState index.gpioIndex driver ↔
      Harmless index.gpioIndex q driver call := by
  cases call with
  | pinMode mode =>
      exact iff_of_true (mode_lineState index.gpioIndex mode) trivial
  | pinWrite value =>
      exact iff_of_true (write_lineState index.gpioIndex value) trivial
  | attachIrq mode hdr args =>
      exact iff_of_true (attach_lineState live mode hdr args) trivial
  | dettachIrq => exact dettach_lineState live
  | irqEnable enabled unset =>
      by_cases enables : enabled = pinIrqEnable
      · subst enables
        exact enable_lineState live unset
      · by_cases disables : enabled = pinIrqDisable
        · subst disables
          exact disable_lineState live unset
        · refine iff_of_true ?_ ?_
          · exact congrArg (lineState index.gpioIndex)
              (irqEnable_unknown enables disables q unset driver)
          · simp [Harmless, enables, disables]

end Calls

def Populated (pin : Int32) : Prop :=
  0 ≤ pin.toInt ∧ ∃ index, pins[pin.toInt.toNat]? = some (some index)

def Reachable (driver : Driver) : Prop :=
  ∃ calls : List (Int32 × PinCall),
    driver = calls.foldl (fun driver call => call.2.run call.1 driver) .reset

theorem run_named {pin : Int32} {index : PinIndex}
    (named : getPin (lowByte pin) = some index) :
    (PinCall.attachIrq 0 0 0).run pin .reset ≠ .reset := by
  intro unchanged
  have attached := attach_free named
    (by rfl : (Driver.reset.pinIrqHdrTab index.gpioIndex).pin = -1) 0 0 0
  have entry := congrArg
    (fun driver => (driver.pinIrqHdrTab index.gpioIndex).pin) unchanged
  simp only [PinCall.run, attached, Function.update_self] at entry
  exact storedPin_ne named entry

/-- Calls on one pin number leave the interrupt of an enabled pin alone exactly
when each is harmless; calls on a number that names no pin change nothing
exactly when its low byte names none either. -/
theorem isolation_iff {p : Int32} {index : PinIndex} {driver : Driver}
    (live : AttachedEnabled p index driver) (q : Int32)
    (calls : List PinCall) :
    ((∀ later ∈ Run.reached (PinCall.run q) driver calls,
        lineState index.gpioIndex later = lineState index.gpioIndex driver) ↔
      Run.Guarded (PinCall.run q) (Harmless index.gpioIndex q) driver calls) ∧
    (∀ pin, ¬ Populated pin →
      ((∀ driver call, PinCall.run pin driver call = driver) ↔
        getPin (lowByte pin) = none)) := by
  constructor
  · have exactGuard (state : Driver) (call : PinCall)
        (unchanged : lineState index.gpioIndex state =
          lineState index.gpioIndex driver) :
        lineState index.gpioIndex (call.run q state) =
            lineState index.gpioIndex driver ↔
          Harmless index.gpioIndex q state call := by
      rw [← unchanged]
      exact run_lineState (live.of_lineState unchanged) call
    exact Run.reached_forall_iff_guarded exactGuard rfl calls
  · intro pin _
    constructor
    · intro unchanged
      cases named : getPin (lowByte pin) with
      | none => rfl
      | some index =>
          exact absurd (unchanged .reset (.attachIrq 0 0 0)) (run_named named)
    · intro unnamed driver call
      exact run_unnamed unnamed driver call

theorem pin4Enabled_live : AttachedEnabled 4 ⟨4, .e, 5⟩ pin4Enabled :=
  ⟨by decide, by decide, by decide⟩

theorem pin35_leaves_pin4 :
    Run.Guarded (PinCall.run 35) (Harmless 5 35) pin4Enabled
        [.attachIrq 1 2 0, .irqEnable pinIrqDisable ⟨0, 0⟩, .dettachIrq] ∧
      ∀ later ∈ Run.reached (PinCall.run 35) pin4Enabled
        [.attachIrq 1 2 0, .irqEnable pinIrqDisable ⟨0, 0⟩, .dettachIrq],
        lineState 5 later = lineState 5 pin4Enabled := by
  have harmless : Run.Guarded (PinCall.run 35) (Harmless 5 35) pin4Enabled
      [.attachIrq 1 2 0, .irqEnable pinIrqDisable ⟨0, 0⟩, .dettachIrq] := by
    refine ⟨trivial, ?_, ?_, trivial⟩
    · intro other named
      cases named
      exact ⟨fun _ => by decide, fun _ => by decide⟩
    · intro other named
      cases named
      decide
  exact ⟨harmless, (isolation_iff pin4Enabled_live 35 _).1.mpr harmless⟩

/-- Pins 4 and 30 share line 5, and 260 is 4 in its low byte. -/
theorem line_five_not_isolated :
    (¬ ∀ p q index driver, p ≠ q → Reachable driver →
      AttachedEnabled p index driver → ∀ calls,
      ∀ later ∈ Run.reached (PinCall.run q) driver calls,
        lineState index.gpioIndex later = lineState index.gpioIndex driver) ∧
    (¬ ∀ pin, ¬ Populated pin → ∀ driver call,
      PinCall.run pin driver call = driver) := by
  constructor
  · intro isolated
    have reachable : Reachable pin4Enabled :=
      ⟨[(4, .attachIrq 0 1 0), (4, .irqEnable pinIrqEnable ⟨0, 0⟩)], rfl⟩
    have unchanged := isolated 4 30 ⟨4, .e, 5⟩ pin4Enabled (by decide)
      reachable pin4Enabled_live [.dettachIrq] _ (List.mem_singleton_self _)
    exact absurd (congrArg (fun line => line.config.registration.pin) unchanged)
      (by decide)
  · intro nothing
    have unpopulated : ¬ Populated 260 := by
      rintro ⟨_, index, entry⟩
      cases entry
    have named : getPin (lowByte 260) = some ⟨4, .e, 5⟩ := by decide
    exact run_named named (nothing 260 unpopulated _ _)

end Ch32v307.Gpio
