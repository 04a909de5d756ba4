import Ch32v307.Data.Bits
import Ch32v307.Data.Slots
import Mathlib.Logic.Function.Basic

namespace Ch32v307.Serial

open Data

/-! The receive side of a USART, the library functions its driver reads it
with, and the software FIFO behind it. -/

structure Usart where
  statr : BitVec 16
  datar : BitVec 16
  ctlr1 : BitVec 16
  ctlr2 : BitVec 16
  ctlr3 : BitVec 16
  deriving DecidableEq

def usartFlagRxne : BitVec 16 := 0x0020
def usartItRxne : BitVec 16 := 0x0525

/-- RXNE, TC, LBD and CTS are cleared by writing zero; writing one, and writing
any other flag, changes nothing. -/
def Usart.storeStatr (value : BitVec 16) (usart : Usart) : Usart :=
  let clearable : BitVec 16 := Bits.mask [5, 6, 8, 9]
  { usart with statr := usart.statr &&& (value ||| ~~~clearable) }

/-- A load of DATAR clears RXNE. -/
def Usart.loadDatar (usart : Usart) : BitVec 16 × Usart :=
  (usart.datar, { usart with statr := usart.statr &&& ~~~Bits.bit 5 })

/-- A received byte: DATAR holds it and RXNE is set. -/
def Usart.receive (byte : BitVec 8) (usart : Usart) : Usart :=
  { usart with
    datar := byte.setWidth 16
    statr := usart.statr ||| Bits.bit 5 }

def usartGetFlagStatus (flag : BitVec 16) (usart : Usart) : Bool :=
  usart.statr &&& flag ≠ 0

def usartGetITStatus (it : BitVec 16) (usart : Usart) : Bool :=
  let usartreg := it.setWidth 8 >>> 5
  let itmask := 1#32 <<< (it &&& 0x001F).toNat
  let itmask :=
    if usartreg = 1 then itmask &&& usart.ctlr1.setWidth 32
    else if usartreg = 2 then itmask &&& usart.ctlr2.setWidth 32
    else itmask &&& usart.ctlr3.setWidth 32
  let bitpos := 1#32 <<< (it >>> 8).toNat
  let bitpos := bitpos &&& usart.statr.setWidth 32
  itmask ≠ 0 ∧ bitpos ≠ 0

def usartClearITPendingBit (it : BitVec 16) (usart : Usart) : Usart :=
  let itmask := 1#16 <<< (it >>> 8).toNat
  usart.storeStatr (~~~itmask)

def Usart.rxne (usart : Usart) : Bool := usart.statr.getLsbD 5

theorem getFlagStatus_rxne (usart : Usart) :
    usartGetFlagStatus usartFlagRxne usart = usart.rxne := by
  have set := Bits.and_bit_ne_zero_iff usart.statr (k := 5) (by decide)
  rw [Bool.eq_iff_iff, Usart.rxne, ← set]
  exact decide_eq_true_iff

@[simp] theorem receive_rxne (byte : BitVec 8) (usart : Usart) :
    (usart.receive byte).rxne = true := by
  rw [Usart.rxne, Usart.receive, Bits.getLsbD_set _ _ _ (by decide)]
  simp

@[simp] theorem receive_datar (byte : BitVec 8) (usart : Usart) :
    (usart.receive byte).datar.setWidth 8 = byte := by
  rw [Usart.receive, BitVec.setWidth_setWidth_of_le _ (by decide),
    BitVec.setWidth_eq]

@[simp] theorem loadDatar_rxne (usart : Usart) :
    usart.loadDatar.2.rxne = false := by
  rw [Usart.rxne, Usart.loadDatar, Bits.getLsbD_clear _ _ _ (by decide)]
  simp

@[simp] theorem clearITPendingBit_rxne (usart : Usart) :
    (usartClearITPendingBit usartItRxne usart).rxne = false := by
  have mask : 1#16 <<< (usartItRxne >>> 8).toNat = Bits.bit 5 := by
    decide
  rw [Usart.rxne, usartClearITPendingBit, mask, Usart.storeStatr,
    BitVec.getLsbD_and, BitVec.getLsbD_or, BitVec.getLsbD_not,
    BitVec.getLsbD_not, Bits.getLsbD_bit, Bits.getLsbD_mask _ _ (by decide)]
  simp

/-- `rt_serial_rx_fifo`; an index is always a slot of the buffer. -/
structure RxFifo (bufsz : Nat) where
  buffer : Fin bufsz → BitVec 8
  putIndex : Fin bufsz
  getIndex : Fin bufsz
  isFull : Bool

namespace RxFifo

variable {bufsz : Nat}

/-- As `rt_serial_open` allocates it. -/
def empty (positive : 0 < bufsz) : RxFifo bufsz where
  buffer := fun _ => 0
  putIndex := ⟨0, positive⟩
  getIndex := ⟨0, positive⟩
  isFull := false

/-- The store of a received character: a full FIFO drops its oldest one. -/
def put (ch : BitVec 8) (fifo : RxFifo bufsz) : RxFifo bufsz :=
  let buffer := Function.update fifo.buffer fifo.putIndex ch
  let putIndex := Slots.next fifo.putIndex
  if putIndex = fifo.getIndex then
    { buffer := buffer
      putIndex := putIndex
      getIndex := Slots.next fifo.getIndex
      isFull := true }
  else
    { fifo with buffer := buffer, putIndex := putIndex }

/-- One round of the loop of `_serial_int_rx`; `none` when it breaks out. -/
def get (fifo : RxFifo bufsz) : Option (BitVec 8 × RxFifo bufsz) :=
  if fifo.getIndex = fifo.putIndex ∧ fifo.isFull = false then none
  else
    some (fifo.buffer fifo.getIndex,
      { fifo with getIndex := Slots.next fifo.getIndex, isFull := false })

def contents (fifo : RxFifo bufsz) : List (BitVec 8) :=
  (Slots.arc fifo.getIndex fifo.putIndex).map fifo.buffer

/-- Another character would make the FIFO drop one. -/
def Fills (fifo : RxFifo bufsz) : Prop :=
  Slots.next fifo.putIndex = fifo.getIndex

instance (fifo : RxFifo bufsz) : Decidable fifo.Fills :=
  inferInstanceAs (Decidable (_ = _))

theorem empty_contents (positive : 0 < bufsz) :
    (empty positive).contents = [] := by
  rw [contents, empty, Slots.arc_self]
  rfl

theorem put_isFull {fifo : RxFifo bufsz} (room : ¬ fifo.Fills)
    (ch : BitVec 8) : (fifo.put ch).isFull = fifo.isFull := by
  have apart : Slots.next fifo.putIndex ≠ fifo.getIndex := room
  rw [put, if_neg apart]

theorem put_contents {fifo : RxFifo bufsz} (room : ¬ fifo.Fills)
    (ch : BitVec 8) : (fifo.put ch).contents = fifo.contents ++ [ch] := by
  have apart : Slots.next fifo.putIndex ≠ fifo.getIndex := room
  have kept : (Slots.arc fifo.getIndex fifo.putIndex).map
      (Function.update fifo.buffer fifo.putIndex ch) = fifo.contents := by
    apply List.map_congr_left
    intro slot member
    apply Function.update_of_ne
    rintro rfl
    exact Slots.stop_notMem_arc _ _ member
  rw [put, if_neg apart, contents, Slots.arc_snoc apart, List.map_append,
    kept, List.map_singleton]
  exact congrArg (fun byte => fifo.contents ++ [byte])
    (Function.update_self fifo.putIndex ch fifo.buffer)

theorem get_contents {fifo next : RxFifo bufsz} {ch : BitVec 8}
    (notFull : fifo.isFull = false) (taken : fifo.get = some (ch, next)) :
    fifo.contents = ch :: next.contents ∧ next.isFull = false := by
  rw [get] at taken
  split_ifs at taken with isEmpty
  have apart : fifo.getIndex ≠ fifo.putIndex :=
    fun same => isEmpty ⟨same, notFull⟩
  cases taken
  rw [contents, Slots.arc_cons apart]
  exact ⟨rfl, rfl⟩

end RxFifo

end Ch32v307.Serial
