import Ch32v307.Lcd.Position
import Mathlib.Logic.Function.Basic
import Mathlib.Tactic.IntervalCases

namespace Ch32v307.Lcd

/-! Reading points back. The panel is known by what addresses its memory and by
the words it answers, not by the layout of the memory. -/

/-- What the messages from a column command on select, and what a pixel access
moves on to. -/
structure Controller (Cell : Type) where
  locate : List BusMsg → Cell
  next : Cell → Cell

inductive Access (Cell : Type) where
  | address (messages : List BusMsg)
  | write (cell : Cell)
  | read (cell : Cell) (word : Nat)

def Access.messages {Cell : Type} : Access Cell → List BusMsg
  | .address messages => messages
  | _ => []

structure Gram (Cell : Type) where
  cells : Cell → UInt16
  access : Access Cell
  /-- The bits that come with the words and mean nothing. -/
  noise : List UInt16

def readCommand (dev : LcdDev) : UInt16 :=
  if dev.id = 0x5510 then 0x2E00 else 0x2E

def redGreenWord (color noise : UInt16) : UInt16 :=
  let red : UInt16 := color &&& 0xF800
  let green : UInt16 := (color >>> 3) &&& 0x00FC
  red ||| green ||| (noise &&& 0x0703)

def blueWord (color noise : UInt16) : UInt16 :=
  let blue : UInt16 := color <<< 11
  blue ||| (noise &&& 0x07FF)

/-- The words that follow a read command: the pixel at once; a dummy word and
the pixel; a dummy word, red and green, and blue, every channel in the top bits
of its byte. -/
def readWord (dev : LcdDev) (color noise : UInt16) (word : Nat) : UInt16 :=
  if dev.id = 0x1963 then
    if word = 0 then color else noise
  else if dev.id = 0x7796 then
    if word = 1 then color else noise
  else if word = 1 then
    redGreenWord color noise
  else if word = 2 then
    blueWord color noise
  else
    noise

namespace Controller

variable {Cell : Type} [DecidableEq Cell]

def store (controller : Controller Cell) (dev : LcdDev) (gram : Gram Cell) :
    BusMsg → Gram Cell
  | .reg value =>
      let messages := gram.access.messages
      if value = dev.setxcmd then
        { gram with access := .address [.reg value] }
      else if value = dev.wramcmd then
        { gram with access := .write (controller.locate messages) }
      else if value = readCommand dev then
        { gram with access := .read (controller.locate messages) 0 }
      else
        { gram with access := .address (messages ++ [.reg value]) }
  | .ram value =>
      match gram.access with
      | .address messages =>
          { gram with access := .address (messages ++ [.ram value]) }
      | .write cell =>
          { gram with
            cells := Function.update gram.cells cell value
            access := .write (controller.next cell) }
      | .read _ _ => gram

def load (dev : LcdDev) (gram : Gram Cell) : UInt16 × Gram Cell :=
  let noise := gram.noise.headD 0
  let gram := { gram with noise := gram.noise.tail }
  match gram.access with
  | .read cell word =>
      (readWord dev (gram.cells cell) noise word,
        { gram with access := .read cell (word + 1) })
  | _ => (noise, gram)

def bus (controller : Controller Cell) (dev : LcdDev) : Bus (Gram Cell) where
  store := controller.store dev
  load := load dev
  delay gram _ := gram

def cell (controller : Controller Cell) (dev : LcdDev) (x y : UInt16) : Cell :=
  controller.locate (lcdSetCursor dev x y)

/-- Different cursors on the screen select different cells. -/
def Distinguishes (controller : Controller Cell) (dev : LcdDev) : Prop :=
  ∀ x y x' y', x < dev.width → y < dev.height → x' < dev.width →
    y' < dev.height → controller.cell dev x y = controller.cell dev x' y' →
    lcdSetCursor dev x y = lcdSetCursor dev x' y'

end Controller

structure Draw where
  x : UInt16
  y : UInt16
  color : UInt16
  deriving DecidableEq, Repr

def Draw.messages (dev : LcdDev) (draw : Draw) : List BusMsg :=
  lcdDrawPoint dev draw.x draw.y draw.color.toUInt32

def Draw.OnScreen (dev : LcdDev) (draw : Draw) : Prop :=
  draw.x < dev.width ∧ draw.y < dev.height

instance (dev : LcdDev) (draw : Draw) : Decidable (draw.OnScreen dev) :=
  inferInstanceAs (Decidable (_ ∧ _))

/-- The color of the last draw at a point. -/
def lastColor (x y : UInt16) : List Draw → Option UInt16
  | [] => none
  | draw :: rest =>
      (lastColor x y rest).or
        (if draw.x = x ∧ draw.y = y then some draw.color else none)

/-! The words of a color give the color back. -/

theorem channels_assemble (color first second : UInt16) :
    ((redGreenWord color first >>> 11) <<< 11) |||
      ((((redGreenWord color first &&& 0xFF) <<< 8) >>> 10) <<< 5) |||
      (blueWord color second >>> 11) = color := by
  apply UInt16.toBitVec_inj.mp
  apply BitVec.eq_of_getLsbD_eq
  intro i inside
  unfold redGreenWord blueWord
  interval_cases i <;> simp

/-! A cursor on the bus. -/

/-- A message that only adds to an address. -/
def AddressPart (dev : LcdDev) : BusMsg → Prop
  | .reg value =>
      value ≠ dev.setxcmd ∧ value ≠ dev.wramcmd ∧ value ≠ readCommand dev
  | .ram _ => True

theorem lcdSetCursor_parts {dev : LcdDev} (commands : dev.CommandsSet)
    (x y : UInt16) :
    ∃ parts, lcdSetCursor dev x y = .reg dev.setxcmd :: parts ∧
      ∀ message ∈ parts, AddressPart dev message := by
  obtain ⟨wramcmd, setxcmd, setycmd⟩ := commands
  unfold lcdSetCursor
  by_cases ssd1963 : dev.id = 0x1963
  · by_cases portrait : dev.dir = 0
    · simp [ssd1963, portrait] at wramcmd setxcmd setycmd
      rw [if_pos ssd1963, if_pos portrait]
      refine ⟨_, rfl, ?_⟩
      simp [AddressPart, readCommand, lcdWrRegno, lcdWrData, ssd1963, wramcmd,
        setxcmd, setycmd]
    · simp [ssd1963, portrait] at wramcmd setxcmd setycmd
      rw [if_pos ssd1963, if_neg portrait]
      refine ⟨_, rfl, ?_⟩
      simp [AddressPart, readCommand, lcdWrRegno, lcdWrData, ssd1963, wramcmd,
        setxcmd, setycmd]
  · rw [if_neg ssd1963]
    by_cases nt35510 : dev.id = 0x5510
    · simp [nt35510] at wramcmd setxcmd setycmd
      rw [if_pos nt35510]
      refine ⟨_, rfl, ?_⟩
      simp [AddressPart, readCommand, lcdWrRegno, lcdWrData, nt35510, wramcmd,
        setxcmd, setycmd]
    · simp [nt35510, ssd1963] at wramcmd setxcmd setycmd
      rw [if_neg nt35510]
      refine ⟨_, rfl, ?_⟩
      simp [AddressPart, readCommand, lcdWrRegno, lcdWrData, nt35510, wramcmd,
        setxcmd, setycmd]

section Access

variable {Cell : Type} [DecidableEq Cell] {controller : Controller Cell}
  {dev : LcdDev}

theorem send_parts {parts : List BusMsg}
    (onlyParts : ∀ message ∈ parts, AddressPart dev message)
    (gram : Gram Cell) (messages : List BusMsg) :
    (controller.bus dev).send { gram with access := .address messages } parts =
      { gram with access := .address (messages ++ parts) } := by
  induction parts generalizing messages with
  | nil => rw [List.append_nil]; rfl
  | cons message parts ih =>
      obtain ⟨part, others⟩ := List.forall_mem_cons.mp onlyParts
      have stored : controller.store dev
          { gram with access := .address messages } message =
          { gram with access := .address (messages ++ [message]) } := by
        cases message with
        | ram value => rfl
        | reg value =>
            obtain ⟨notColumn, notWrite, notRead⟩ := part
            simp [Controller.store, Access.messages, notColumn, notWrite,
              notRead]
      calc
        (controller.bus dev).send { gram with access := .address messages }
            (message :: parts) =
            (controller.bus dev).send (controller.store dev
              { gram with access := .address messages } message) parts := rfl
        _ = _ := by
            rw [stored, ih others, List.append_assoc]
            rfl

theorem send_cursor (commands : dev.CommandsSet) (gram : Gram Cell)
    (x y : UInt16) :
    (controller.bus dev).send gram (lcdSetCursor dev x y) =
      { gram with access := .address (lcdSetCursor dev x y) } := by
  obtain ⟨parts, split, onlyParts⟩ := lcdSetCursor_parts commands x y
  have started : controller.store dev gram (.reg dev.setxcmd) =
      { gram with access := .address [.reg dev.setxcmd] } := by
    simp [Controller.store]
  calc
    (controller.bus dev).send gram (lcdSetCursor dev x y) =
        (controller.bus dev).send
          (controller.store dev gram (.reg dev.setxcmd)) parts := by
      rw [split]
      rfl
    _ = _ := by
      rw [started, send_parts onlyParts, split]
      rfl

theorem send_draw (commands : dev.CommandsSet) (gram : Gram Cell)
    (draw : Draw) :
    (controller.bus dev).send gram (draw.messages dev) =
      { gram with
        cells := Function.update gram.cells
          (controller.cell dev draw.x draw.y) draw.color
        access := .write
          (controller.next (controller.cell dev draw.x draw.y)) } := by
  have different : dev.wramcmd ≠ dev.setxcmd := by
    rw [commands.wramcmd, commands.setxcmd]
    split_ifs <;> decide
  have begun : controller.store dev
      { gram with access := .address (lcdSetCursor dev draw.x draw.y) }
      (.reg dev.wramcmd) =
      { gram with
        access := .write (controller.cell dev draw.x draw.y) } := by
    simp only [Controller.store, if_neg different, if_true]
    rfl
  rw [Draw.messages, lcdDrawPoint, Bus.send_append, Bus.send_append,
    send_cursor commands]
  change controller.store dev (controller.store dev
    { gram with access := .address (lcdSetCursor dev draw.x draw.y) }
    (.reg dev.wramcmd)) (.ram draw.color.toUInt32.toUInt16) = _
  rw [begun, UInt16.toUInt16_toUInt32]
  rfl

theorem send_readAddress (commands : dev.CommandsSet) (gram : Gram Cell)
    (x y : UInt16) :
    (controller.bus dev).send gram (readAddress dev x y) =
      { gram with access := .read (controller.cell dev x y) 0 } := by
  have command : (if dev.id = 0x5510 then lcdWrRegno 0x2E00
      else lcdWrRegno 0x2E) = .reg (readCommand dev) := by
    unfold readCommand
    split_ifs <;> rfl
  have notColumn : readCommand dev ≠ dev.setxcmd := by
    rw [readCommand, commands.setxcmd]
    split_ifs <;> decide
  have notWrite : readCommand dev ≠ dev.wramcmd := by
    rw [readCommand, commands.wramcmd]
    split_ifs <;> decide
  rw [readAddress, command, Bus.send_append, send_cursor commands]
  change controller.store dev
    { gram with access := .address (lcdSetCursor dev x y) }
    (.reg (readCommand dev)) = _
  simp only [Controller.store, if_neg notColumn, if_neg notWrite, if_true]
  rfl

theorem readPoint_cell (commands : dev.CommandsSet) {x y : UInt16}
    (onScreenX : x < dev.width) (onScreenY : y < dev.height)
    (gram : Gram Cell) :
    (lcdReadPoint (controller.bus dev) dev x y gram).1 =
      (gram.cells (controller.cell dev x y)).toUInt32 := by
  have inside : ¬ (x ≥ dev.width ∨ y ≥ dev.height) := by
    rintro (right | below)
    · exact UInt16.not_le.mpr onScreenX right
    · exact UInt16.not_le.mpr onScreenY below
  rw [lcdReadPoint, if_neg inside, send_readAddress commands]
  dsimp only [Controller.bus, Controller.load]
  by_cases ssd1963 : dev.id = 0x1963
  · rw [if_pos ssd1963]
    simp [readWord, ssd1963]
  · rw [if_neg ssd1963]
    by_cases st7796 : dev.id = 0x7796
    · rw [if_pos st7796]
      simp [readWord, st7796]
    · rw [if_neg st7796]
      simp only [readWord, if_neg ssd1963, if_neg st7796, zero_add]
      exact congrArg UInt16.toUInt32 (channels_assemble ..)

/-! The cells hold what was drawn last. -/

omit [DecidableEq Cell] in
theorem cell_eq_iff (distinct : controller.Distinguishes dev) {x y : UInt16}
    (onScreenX : x < dev.width) (onScreenY : y < dev.height) {draw : Draw}
    (onScreen : draw.OnScreen dev) :
    controller.cell dev x y = controller.cell dev draw.x draw.y ↔
      draw.x = x ∧ draw.y = y := by
  constructor
  · intro same
    obtain ⟨sameX, sameY⟩ := lcdSetCursor_injective
      (distinct x y _ _ onScreenX onScreenY onScreen.1 onScreen.2 same)
    exact ⟨sameX.symm, sameY.symm⟩
  · rintro ⟨rfl, rfl⟩
    rfl

def drawAll (controller : Controller Cell) (dev : LcdDev) (draws : List Draw)
    (gram : Gram Cell) : Gram Cell :=
  (controller.bus dev).send gram (draws.flatMap (Draw.messages dev))

theorem drawAll_cells (commands : dev.CommandsSet)
    (distinct : controller.Distinguishes dev) {x y : UInt16}
    (onScreenX : x < dev.width) (onScreenY : y < dev.height)
    {draws : List Draw} (onScreen : ∀ draw ∈ draws, draw.OnScreen dev)
    (gram : Gram Cell) :
    (drawAll controller dev draws gram).cells (controller.cell dev x y) =
      (lastColor x y draws).getD (gram.cells (controller.cell dev x y)) := by
  induction draws generalizing gram with
  | nil => rfl
  | cons draw draws ih =>
      obtain ⟨here, others⟩ := List.forall_mem_cons.mp onScreen
      rw [drawAll, List.flatMap_cons, Bus.send_append, send_draw commands]
      refine (ih others _).trans ?_
      rw [lastColor]
      cases lastColor x y draws with
      | some color => rfl
      | none =>
          have same := cell_eq_iff distinct onScreenX onScreenY here
          by_cases drawn : draw.x = x ∧ draw.y = y
          · rw [if_pos drawn]
            change Function.update gram.cells _ draw.color _ = draw.color
            rw [same.mpr drawn, Function.update_self]
          · rw [if_neg drawn]
            exact Function.update_of_ne (mt same.mp drawn) ..

/-- A point on the screen reads as the color of the last draw there; off the
screen the read is 0 and sends nothing. -/
theorem readPoint_after_draws (commands : dev.CommandsSet)
    (distinct : controller.Distinguishes dev) {draws : List Draw}
    (onScreen : ∀ draw ∈ draws, draw.OnScreen dev) (gram : Gram Cell)
    (x y : UInt16) :
    (x < dev.width → y < dev.height →
      (lcdReadPoint (controller.bus dev) dev x y
        (drawAll controller dev draws gram)).1 =
        ((lastColor x y draws).getD
          (gram.cells (controller.cell dev x y))).toUInt32) ∧
    (x ≥ dev.width ∨ y ≥ dev.height →
      ∀ {Display : Type} (bus : Bus Display) (panel : Display),
        lcdReadPoint bus dev x y panel = (0, panel)) := by
  constructor
  · intro onScreenX onScreenY
    rw [readPoint_cell commands onScreenX onScreenY,
      drawAll_cells commands distinct onScreenX onScreenY onScreen]
  · intro outside Display bus panel
    rw [lcdReadPoint, if_pos outside]

end Access

/-- Every address has a cell of its own. -/
def byMessages : Controller (List BusMsg) := ⟨id, id⟩

def ssd1963Dev : LcdDev := ⟨480, 800, 0x1963, 0, 0x2C, 0x2B, 0x2A⟩

theorem byMessages_distinguishes (dev : LcdDev) :
    byMessages.Distinguishes dev :=
  fun _ _ _ _ _ _ _ _ same => same

theorem ssd1963_readPoint :
    (lcdReadPoint (byMessages.bus ssd1963Dev) ssd1963Dev 7 9
      (drawAll byMessages ssd1963Dev
        [⟨7, 9, 0xF800⟩, ⟨7, 9, 0x07E0⟩, ⟨472, 9, 0x001F⟩]
        ⟨fun _ => 0, .address [], []⟩)).1 = 0x07E0 :=
  (readPoint_after_draws (⟨rfl, rfl, rfl⟩ : ssd1963Dev.CommandsSet)
    (byMessages_distinguishes ssd1963Dev) (by decide)
    ⟨fun _ => 0, .address [], []⟩ 7 9).1 (by decide) (by decide)

end Ch32v307.Lcd
