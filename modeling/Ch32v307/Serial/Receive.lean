import Ch32v307.Data.Run
import Ch32v307.Serial.Usart

namespace Ch32v307.Serial

open Data

/-! Reception: bytes arrive, `USART1_IRQHandler` moves them to the FIFO, and
readers take them from it. The handler makes one access to the USART, or one
store to the FIFO, in a step. -/

/-- Where the handler stands, from the status check of `uart_isr` through the
loop and the callback of `rt_hw_serial_isr` to the final clear. -/
inductive Pc where
  | idle
  | getITStatus
  | getFlagStatus
  | loadDatar
  | store (ch : BitVec 8)
  | rxIndicate
  | clearITPendingBit
  deriving DecidableEq

structure Receiver (bufsz : Nat) where
  usart : Usart
  pc : Pc
  fifo : RxFifo bufsz
  /-- Every byte that has arrived. -/
  arrived : List (BitVec 8)
  /-- Every byte a reader has taken. -/
  bytesRead : List (BitVec 8)

inductive Action where
  | arrive (byte : BitVec 8)
  | isr
  | read
  deriving DecidableEq

namespace Receiver

variable {bufsz : Nat}

def arrive (byte : BitVec 8) (receiver : Receiver bufsz) : Receiver bufsz :=
  { receiver with
    usart := receiver.usart.receive byte
    arrived := receiver.arrived ++ [byte] }

def isr (receiver : Receiver bufsz) : Receiver bufsz :=
  match receiver.pc with
  | .idle =>
      -- The request stands while RXNE and its enable bit are set.
      if usartGetITStatus usartItRxne receiver.usart then
        { receiver with pc := .getITStatus }
      else receiver
  | .getITStatus =>
      if usartGetITStatus usartItRxne receiver.usart then
        { receiver with pc := .getFlagStatus }
      else { receiver with pc := .idle }
  | .getFlagStatus =>
      if usartGetFlagStatus usartFlagRxne receiver.usart then
        { receiver with pc := .loadDatar }
      else { receiver with pc := .rxIndicate }
  | .loadDatar =>
      { receiver with
        usart := receiver.usart.loadDatar.2
        pc := .store (receiver.usart.loadDatar.1.setWidth 8) }
  | .store ch =>
      { receiver with fifo := receiver.fifo.put ch, pc := .getFlagStatus }
  | .rxIndicate => { receiver with pc := .clearITPendingBit }
  | .clearITPendingBit =>
      { receiver with
        usart := usartClearITPendingBit usartItRxne receiver.usart
        pc := .idle }

def read (receiver : Receiver bufsz) : Receiver bufsz :=
  match receiver.fifo.get with
  | none => receiver
  | some (ch, fifo) =>
      { receiver with fifo := fifo, bytesRead := receiver.bytesRead ++ [ch] }

def step (receiver : Receiver bufsz) : Action → Receiver bufsz
  | .arrive byte => receiver.arrive byte
  | .isr => receiver.isr
  | .read => receiver.read

/-- The byte waiting in DATAR. -/
def pending (usart : Usart) : List (BitVec 8) :=
  if usart.rxne then [usart.datar.setWidth 8] else []

/-- The byte the handler has loaded and not yet stored. -/
def inHand : Pc → List (BitVec 8)
  | .store ch => [ch]
  | _ => []

/-- The receiver once the device has been opened. -/
def opened (positive : 0 < bufsz) (usart : Usart) : Receiver bufsz where
  usart := usart
  pc := .idle
  fifo := .empty positive
  arrived := pending usart
  bytesRead := []

/-- Nothing is lost, repeated or out of order. -/
def Lossless (receiver : Receiver bufsz) : Prop :=
  receiver.arrived =
    receiver.bytesRead ++ receiver.fifo.contents ++ inHand receiver.pc ++
      pending receiver.usart

instance (receiver : Receiver bufsz) : Decidable receiver.Lossless :=
  inferInstanceAs (Decidable (_ = _))

/-- No byte arrives while RXNE is set, and no store fills the FIFO. -/
def Provided (receiver : Receiver bufsz) : Action → Prop
  | .arrive _ => receiver.usart.rxne = false
  | .isr => inHand receiver.pc ≠ [] → ¬ receiver.fifo.Fills
  | .read => True

/-- The final clear finds RXNE clear already. -/
def ClearsNothing (receiver : Receiver bufsz) (action : Action) : Prop :=
  action = .isr → receiver.pc = .clearITPendingBit →
    receiver.usart.rxne = false

instance (receiver : Receiver bufsz) :
    ∀ action, Decidable (Provided receiver action)
  | .arrive _ => inferInstanceAs (Decidable (_ = _))
  | .isr => inferInstanceAs (Decidable (_ → _))
  | .read => inferInstanceAs (Decidable True)

instance (receiver : Receiver bufsz) (action : Action) :
    Decidable (ClearsNothing receiver action) :=
  inferInstanceAs (Decidable (_ → _ → _))

/-- What every step keeps: the FIFO has not overflowed, and a byte is loaded
only where one waits. -/
structure Sound (receiver : Receiver bufsz) : Prop where
  notFull : receiver.fifo.isFull = false
  waiting : receiver.pc = .loadDatar → receiver.usart.rxne = true

/-! One step. -/

theorem pending_of_rxne {usart : Usart} (waiting : usart.rxne = true) :
    pending usart = [usart.datar.setWidth 8] := if_pos waiting

theorem pending_of_not_rxne {usart : Usart} (clear : usart.rxne = false) :
    pending usart = [] := by
  rw [pending, clear]
  rfl

theorem arrive_lossless {receiver : Receiver bufsz}
    (lossless : receiver.Lossless) (clear : receiver.usart.rxne = false)
    (byte : BitVec 8) : (receiver.arrive byte).Lossless := by
  have after : pending (receiver.usart.receive byte) = [byte] := by
    rw [pending_of_rxne (receive_rxne _ _), receive_datar]
  rw [Lossless, pending_of_not_rxne clear, List.append_nil] at lossless
  change receiver.arrived ++ [byte] =
    receiver.bytesRead ++ receiver.fifo.contents ++ inHand receiver.pc ++
      pending (receiver.usart.receive byte)
  rw [after, lossless]

theorem read_lossless {receiver : Receiver bufsz}
    (lossless : receiver.Lossless) (notFull : receiver.fifo.isFull = false) :
    receiver.read.Lossless := by
  unfold read
  cases taken : receiver.fifo.get with
  | none => exact lossless
  | some pair =>
      obtain ⟨ch, next⟩ := pair
      have split := (RxFifo.get_contents notFull taken).1
      rw [Lossless, split] at lossless
      change receiver.arrived =
        (receiver.bytesRead ++ [ch]) ++ next.contents ++ inHand receiver.pc ++
          pending receiver.usart
      simpa using lossless

/-- The clear throws away exactly the byte that waits. -/
theorem clear_lossless_iff {receiver : Receiver bufsz}
    (lossless : receiver.Lossless) (here : receiver.pc = .clearITPendingBit) :
    receiver.isr.Lossless ↔ receiver.usart.rxne = false := by
  have after : pending (usartClearITPendingBit usartItRxne receiver.usart) =
      [] := pending_of_not_rxne (clearITPendingBit_rxne _)
  have cleared : receiver.isr.Lossless ↔ receiver.arrived =
      receiver.bytesRead ++ receiver.fifo.contents := by
    rw [isr, here]
    change receiver.arrived =
      receiver.bytesRead ++ receiver.fifo.contents ++ [] ++
        pending (usartClearITPendingBit usartItRxne receiver.usart) ↔ _
    rw [after, List.append_nil, List.append_nil]
  rw [cleared, lossless, here]
  cases waiting : receiver.usart.rxne with
  | false => simp [inHand, pending_of_not_rxne waiting]
  | true => simp [inHand, pending_of_rxne waiting]

theorem fits_of_store {receiver : Receiver bufsz} {ch : BitVec 8}
    (room : inHand receiver.pc ≠ [] → ¬ receiver.fifo.Fills)
    (here : receiver.pc = .store ch) : ¬ receiver.fifo.Fills := by
  apply room
  rw [here]
  exact List.cons_ne_nil ch []

theorem isr_lossless {receiver : Receiver bufsz}
    (lossless : receiver.Lossless) (sound : receiver.Sound)
    (room : inHand receiver.pc ≠ [] → ¬ receiver.fifo.Fills)
    (elsewhere : receiver.pc ≠ .clearITPendingBit) :
    receiver.isr.Lossless := by
  unfold isr
  unfold Lossless at lossless ⊢
  cases here : receiver.pc with
  | idle =>
      dsimp only
      rw [here] at lossless
      split_ifs
      · exact lossless
      · rw [here]
        exact lossless
  | getITStatus =>
      dsimp only
      rw [here] at lossless
      split_ifs <;> exact lossless
  | getFlagStatus =>
      dsimp only
      rw [here] at lossless
      split_ifs <;> exact lossless
  | loadDatar =>
      have loaded : pending receiver.usart.loadDatar.2 = [] :=
        pending_of_not_rxne (loadDatar_rxne _)
      dsimp only
      rw [here, pending_of_rxne (sound.waiting here)] at lossless
      rw [loaded, List.append_nil]
      simpa [inHand, Usart.loadDatar] using lossless
  | store ch =>
      have fits := fits_of_store room here
      dsimp only
      rw [here] at lossless
      rw [RxFifo.put_contents fits]
      simpa [inHand] using lossless
  | rxIndicate =>
      rw [here] at lossless
      exact lossless
  | clearITPendingBit => exact (elsewhere here).elim

theorem step_lossless_iff {receiver : Receiver bufsz}
    (lossless : receiver.Lossless) (sound : receiver.Sound) (action : Action)
    (provided : Provided receiver action) :
    (receiver.step action).Lossless ↔ ClearsNothing receiver action := by
  cases action with
  | arrive byte =>
      exact iff_of_true (arrive_lossless lossless provided byte) nofun
  | read => exact iff_of_true (read_lossless lossless sound.notFull) nofun
  | isr =>
      by_cases here : receiver.pc = .clearITPendingBit
      · rw [ClearsNothing, forall_prop_of_true rfl, forall_prop_of_true here]
        exact clear_lossless_iff lossless here
      · exact iff_of_true (isr_lossless lossless sound provided here)
          (fun _ there => (here there).elim)

theorem step_sound {receiver : Receiver bufsz} (sound : receiver.Sound)
    (action : Action) (provided : Provided receiver action) :
    (receiver.step action).Sound := by
  obtain ⟨notFull, waiting⟩ := sound
  cases action with
  | arrive byte => exact ⟨notFull, fun _ => receive_rxne byte receiver.usart⟩
  | read =>
      change receiver.read.Sound
      unfold read
      cases taken : receiver.fifo.get with
      | none => exact ⟨notFull, waiting⟩
      | some pair => exact ⟨(RxFifo.get_contents notFull taken).2, waiting⟩
  | isr =>
      change receiver.isr.Sound
      unfold isr
      cases here : receiver.pc with
      | idle =>
          dsimp only
          split_ifs
          · exact ⟨notFull, nofun⟩
          · exact ⟨notFull, waiting⟩
      | getITStatus =>
          dsimp only
          split_ifs
          · exact ⟨notFull, nofun⟩
          · exact ⟨notFull, nofun⟩
      | getFlagStatus =>
          dsimp only
          split_ifs with set
          · rw [getFlagStatus_rxne] at set
            exact ⟨notFull, fun _ => set⟩
          · exact ⟨notFull, nofun⟩
      | loadDatar => exact ⟨notFull, nofun⟩
      | store ch =>
          have fits := fits_of_store provided here
          exact ⟨(RxFifo.put_isFull fits ch).trans notFull, nofun⟩
      | rxIndicate => exact ⟨notFull, nofun⟩
      | clearITPendingBit => exact ⟨notFull, nofun⟩

/-! A run. -/

theorem step_sound_lossless_iff (receiver : Receiver bufsz) (action : Action)
    (holds : receiver.Sound ∧ receiver.Lossless)
    (provided : Provided receiver action) :
    ((receiver.step action).Sound ∧ (receiver.step action).Lossless) ↔
      ClearsNothing receiver action := by
  rw [step_lossless_iff holds.2 holds.1 action provided]
  exact and_iff_right (step_sound holds.1 action provided)

theorem opened_sound (positive : 0 < bufsz) (usart : Usart) :
    (opened positive usart).Sound := ⟨rfl, nofun⟩

theorem opened_lossless (positive : 0 < bufsz) (usart : Usart) :
    (opened positive usart).Lossless := by
  change pending usart =
    [] ++ (RxFifo.empty positive).contents ++ [] ++ pending usart
  rw [RxFifo.empty_contents]
  rfl

/-- Reception loses nothing exactly as long as no byte arrives between the
last poll of the handler and its clear. -/
theorem receive_lossless_iff (positive : 0 < bufsz) (usart : Usart)
    (actions : List Action)
    (provided : Run.Guarded step Provided (opened positive usart) actions) :
    (∀ receiver ∈ Run.reached step (opened positive usart) actions,
      receiver.Lossless) ↔
      Run.Guarded step ClearsNothing (opened positive usart) actions := by
  have initial := opened_sound positive usart
  have sound : ∀ receiver ∈ Run.reached step (opened positive usart) actions,
      receiver.Sound :=
    Run.reached_invariant_of_guarded
      (fun _ action sound provided => step_sound sound action provided)
      initial provided
  have both := Run.reached_forall_iff_guarded_of step_sound_lossless_iff
    ⟨initial, opened_lossless positive usart⟩ provided
  constructor
  · intro lossless
    apply both.mp
    intro receiver member
    exact ⟨sound receiver member, lossless receiver member⟩
  · intro guarded receiver member
    exact (both.mpr guarded receiver member).2

/-- USART1 with reception enabled and its interrupt unmasked. -/
def usart1 : Usart := ⟨0xC0, 0, 0x202C, 0, 0⟩

/-- A byte arrives, its handler runs to the end, and a reader takes it. -/
def oneByte : List Action :=
  [.arrive 0x41] ++ List.replicate 8 .isr ++ [.read]

theorem receive_one :
    Run.Guarded step Provided (opened (by decide : 0 < 64) usart1) oneByte ∧
    ∀ receiver ∈ Run.reached step (opened (by decide : 0 < 64) usart1)
        oneByte, receiver.Lossless := by
  have provided : Run.Guarded step Provided
      (opened (by decide : 0 < 64) usart1) oneByte := by decide
  have nothing : Run.Guarded step ClearsNothing
      (opened (by decide : 0 < 64) usart1) oneByte := by decide
  exact ⟨provided, (receive_lossless_iff (by decide : 0 < 64) usart1 oneByte
    provided).mpr nothing⟩

/-- The second byte arrives between the last poll and the clear. -/
def lateByte : List Action :=
  [.arrive 0x41] ++ List.replicate 6 .isr ++ [.arrive 0x42] ++
    List.replicate 2 .isr

theorem lateByte_lost :
    Run.Guarded step Provided (opened (by decide : 0 < 64) usart1) lateByte ∧
    ∃ receiver ∈ Run.reached step (opened (by decide : 0 < 64) usart1)
        lateByte,
      receiver.pc = .idle ∧ receiver.usart.rxne = false ∧
      receiver.arrived = [0x41, 0x42] ∧ receiver.bytesRead = [] ∧
      receiver.fifo.contents = [0x41] ∧ ¬ receiver.Lossless := by
  refine ⟨by decide, lateByte.foldl step (opened (by decide) usart1), ?_⟩
  refine ⟨List.mem_of_getElem? (i := 9) rfl, ?_⟩
  exact ⟨by decide, by decide, by decide, by decide, by decide, by decide⟩

end Receiver

end Ch32v307.Serial
