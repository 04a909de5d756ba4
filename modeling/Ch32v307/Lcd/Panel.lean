import Ch32v307.Data.Raster
import Ch32v307.Data.Word
import Ch32v307.Lcd.Init

namespace Ch32v307.Lcd

open Data

/-! The panel as the driver addresses it: a window set by column and row
commands, and picture memory written through it. -/

/-- The first and last address of an axis, as the bytes the panel received. -/
structure Span where
  startHigh : UInt16
  startLow : UInt16
  stopHigh : UInt16
  stopLow : UInt16
  deriving DecidableEq, Repr

def addressValue (high low : UInt16) : Nat :=
  high.toNat % 256 * 256 + low.toNat % 256

def Span.start (span : Span) : Nat := addressValue span.startHigh span.startLow

def Span.stop (span : Span) : Nat := addressValue span.stopHigh span.stopLow

/-- Take a byte in its place: start high, start low, stop high, stop low. -/
def Span.setByte (span : Span) (value : UInt16) : Nat → Span
  | 0 => { span with startHigh := value }
  | 1 => { span with startLow := value }
  | 2 => { span with stopHigh := value }
  | 3 => { span with stopLow := value }
  | _ => span

inductive Addressing where
  /-- The bytes of an address follow its command. -/
  | parameters
  /-- Each byte of an address has a command of its own. -/
  | commands
  /-- The SSD1963 in portrait: the screen's columns are its pages, and they
  are counted from the right. -/
  | pages (count : Nat)
  deriving DecidableEq, Repr

def LcdDev.addressing (dev : LcdDev) : Addressing :=
  if dev.id = 0x5510 then .commands
  else if dev.id = 0x1963 ∧ dev.dir = 0 then .pages dev.width.toNat
  else .parameters

inductive Destination where
  | column (place : Nat)
  | row (place : Nat)
  | memory
  | elsewhere
  deriving DecidableEq, Repr

/-- The destination of a data word, from the command it follows and the number
of words between them. -/
def Addressing.destination : Addressing → UInt16 → Nat → Destination
  | .parameters, selected, count =>
      if selected = 0x2A then .column count
      else if selected = 0x2B then .row count
      else if selected = 0x2C then .memory
      else .elsewhere
  | .commands, selected, _ =>
      if selected = 0x2A00 then .column 0
      else if selected = 0x2A01 then .column 1
      else if selected = 0x2A02 then .column 2
      else if selected = 0x2A03 then .column 3
      else if selected = 0x2B00 then .row 0
      else if selected = 0x2B01 then .row 1
      else if selected = 0x2B02 then .row 2
      else if selected = 0x2B03 then .row 3
      else if selected = 0x2C00 then .memory
      else .elsewhere
  | .pages _, selected, count =>
      if selected = 0x2B then .column count
      else if selected = 0x2A then .row count
      else if selected = 0x2C then .memory
      else .elsewhere

structure Panel where
  columns : Span
  rows : Span
  selected : UInt16
  count : Nat
  raster : Raster UInt16

/-- The window the address registers describe, in screen coordinates. -/
def Panel.window (panel : Panel) : Addressing → Window
  | .pages count =>
      ⟨count - 1 - panel.columns.stop, count - 1 - panel.columns.start,
        panel.rows.start, panel.rows.stop⟩
  | _ =>
      ⟨panel.columns.start, panel.columns.stop,
        panel.rows.start, panel.rows.stop⟩

def Panel.store (addressing : Addressing) (panel : Panel) : BusMsg → Panel
  | .reg value =>
      { panel with
        selected := value
        count := 0
        raster :=
          if addressing.destination value 0 = .memory then
            panel.raster.seek (panel.window addressing)
          else
            panel.raster }
  | .ram value =>
      let stored :=
        match addressing.destination panel.selected panel.count with
        | .column place =>
            { panel with columns := panel.columns.setByte value place }
        | .row place => { panel with rows := panel.rows.setByte value place }
        | .memory => { panel with raster := panel.raster.write value }
        | .elsewhere => panel
      { stored with count := panel.count + 1 }

def Panel.send (addressing : Addressing) (panel : Panel)
    (messages : List BusMsg) : Panel :=
  messages.foldl (Panel.store addressing) panel

def Panel.pixels (panel : Panel) : Nat → Nat → UInt16 := panel.raster.pixels

theorem Panel.send_append (addressing : Addressing) (panel : Panel)
    (first second : List BusMsg) :
    panel.send addressing (first ++ second) =
      (panel.send addressing first).send addressing second :=
  List.foldl_append

theorem addressValue_bytes (value : UInt16) :
    addressValue (value >>> 8) (value &&& 0xFF) = value.toNat := by
  have bound := value.toNat_lt
  rw [addressValue, Word.toNat_shiftRight_eight, Word.toNat_and_byte]
  omega

structure Panel.WindowFull (dev : LcdDev) (panel : Panel) : Prop where
  left : panel.columns.start = 0
  right : panel.columns.stop + 1 = dev.width.toNat
  top : panel.rows.start = 0
  bottom : panel.rows.stop + 1 = dev.height.toNat

/-- The window ends at the right and lower edges, except on the SSD1963, which
is told its end with every cursor. -/
def Panel.EndsFull (dev : LcdDev) (panel : Panel) : Prop :=
  dev.id ≠ 0x1963 →
    panel.columns.stop + 1 = dev.width.toNat ∧
      panel.rows.stop + 1 = dev.height.toNat

theorem Panel.WindowFull.endsFull {dev : LcdDev} {panel : Panel}
    (full : panel.WindowFull dev) : panel.EndsFull dev :=
  fun _ => ⟨full.right, full.bottom⟩

def Panel.MemorySelected (addressing : Addressing) (panel : Panel) : Prop :=
  ∀ count, addressing.destination panel.selected count = .memory

/-- The command that begins a write to picture memory. -/
def Addressing.memoryCommand : Addressing → UInt16
  | .commands => 0x2C00
  | _ => 0x2C

theorem memorySelected_of_command {addressing : Addressing} {panel : Panel}
    (selected : panel.selected = addressing.memoryCommand) :
    panel.MemorySelected addressing := by
  intro count
  rw [selected]
  cases addressing with
  | parameters => rfl
  | commands => rfl
  | pages _ => rfl

theorem send_memoryCommand (addressing : Addressing) (panel : Panel) :
    panel.send addressing [.reg addressing.memoryCommand] =
      { panel with
        selected := addressing.memoryCommand
        count := 0
        raster := panel.raster.seek (panel.window addressing) } := by
  cases addressing with
  | parameters => rfl
  | commands => rfl
  | pages _ => rfl

theorem Panel.send_ram {addressing : Addressing} {panel : Panel}
    (selected : panel.MemorySelected addressing) (colors : List UInt16) :
    panel.send addressing (colors.map .ram) =
      { panel with
        count := panel.count + colors.length
        raster := panel.raster.stream colors } := by
  induction colors generalizing panel with
  | nil => rfl
  | cons color rest ih =>
      have stored : panel.store addressing (.ram color) =
          { panel with
            count := panel.count + 1
            raster := panel.raster.write color } := by
        simp only [Panel.store, selected panel.count]
      calc
        panel.send addressing ((color :: rest).map .ram) =
            (panel.store addressing (.ram color)).send addressing
              (rest.map .ram) := rfl
        _ = _ := by
            have later := @ih { panel with
              count := panel.count + 1
              raster := panel.raster.write color } selected
            rw [stored, later]
            simp only [List.length_cons, Nat.add_assoc, Nat.add_comm 1]
            rfl

structure Panel.Addressed (dev : LcdDev) (before : Panel) (x y : Nat)
    (panel : Panel) : Prop where
  ends : panel.EndsFull dev
  selected : panel.MemorySelected dev.addressing
  raster : panel.raster =
    before.raster.seek ⟨x, dev.width.toNat - 1, y, dev.height.toNat - 1⟩

/-! One lemma for each way of addressing. -/

theorem addressValue_int (value : UInt32) :
    addressValue (highByte value) (lowByte value) = value.toNat % 65536 := by
  have high : (highByte value).toNat = value.toNat / 256 % 65536 := by
    rw [highByte, UInt32.toNat_toUInt16, UInt32.toNat_shiftRight]
    exact congrArg (· % 65536) (Nat.shiftRight_eq_div_pow value.toNat 8)
  have low : (lowByte value).toNat = value.toNat % 256 % 65536 := by
    rw [lowByte, UInt32.toNat_toUInt16, UInt32.toNat_and]
    exact congrArg (· % 65536) (Nat.and_two_pow_sub_one_eq_mod value.toNat 8)
  rw [addressValue, high, low]
  omega

theorem addressValue_last {size : UInt16} (nonempty : 0 < size.toNat) :
    addressValue (highByte (size.toUInt32 - 1)) (lowByte (size.toUInt32 - 1)) =
      size.toNat - 1 := by
  have bound := size.toNat_lt
  have value : (size.toUInt32 - 1).toNat = size.toNat - 1 :=
    UInt32.toNat_sub_of_le _ _ (UInt32.le_iff_toNat_le.mpr (by
      rw [UInt16.toNat_toUInt32]
      exact nonempty))
  rw [addressValue_int, value]
  omega

theorem send_commands_start (panel : Panel) (x y : UInt16) :
    panel.send .commands
      [.reg 0x2A00, .ram (x >>> 8), .reg 0x2A01, .ram (x &&& 0xFF),
        .reg 0x2B00, .ram (y >>> 8), .reg 0x2B01, .ram (y &&& 0xFF),
        .reg 0x2C00] =
      { columns :=
          { panel.columns with startHigh := x >>> 8, startLow := x &&& 0xFF }
        rows :=
          { panel.rows with startHigh := y >>> 8, startLow := y &&& 0xFF }
        selected := 0x2C00
        count := 0
        raster := panel.raster.seek
          ⟨x.toNat, panel.columns.stop, y.toNat, panel.rows.stop⟩ } := by
  rw [← addressValue_bytes x, ← addressValue_bytes y]
  simp [Panel.send, Panel.store, Addressing.destination, Span.setByte,
    Panel.window, Span.start, Span.stop]

theorem send_parameters_start (panel : Panel) (x y : UInt16) :
    panel.send .parameters
      [.reg 0x2A, .ram (x >>> 8), .ram (x &&& 0xFF),
        .reg 0x2B, .ram (y >>> 8), .ram (y &&& 0xFF), .reg 0x2C] =
      { columns :=
          { panel.columns with startHigh := x >>> 8, startLow := x &&& 0xFF }
        rows :=
          { panel.rows with startHigh := y >>> 8, startLow := y &&& 0xFF }
        selected := 0x2C
        count := 0
        raster := panel.raster.seek
          ⟨x.toNat, panel.columns.stop, y.toNat, panel.rows.stop⟩ } := by
  rw [← addressValue_bytes x, ← addressValue_bytes y]
  simp [Panel.send, Panel.store, Addressing.destination, Span.setByte,
    Panel.window, Span.start, Span.stop]

theorem send_parameters_window (panel : Panel)
    (columns rows : Span) :
    panel.send .parameters
      [.reg 0x2A, .ram columns.startHigh, .ram columns.startLow,
        .ram columns.stopHigh, .ram columns.stopLow,
        .reg 0x2B, .ram rows.startHigh, .ram rows.startLow,
        .ram rows.stopHigh, .ram rows.stopLow, .reg 0x2C] =
      { columns := columns
        rows := rows
        selected := 0x2C
        count := 0
        raster := panel.raster.seek
          ⟨columns.start, columns.stop, rows.start, rows.stop⟩ } := by
  simp [Panel.send, Panel.store, Addressing.destination, Span.setByte,
    Panel.window, Span.start, Span.stop]

theorem send_pages_window (count : Nat) (panel : Panel)
    (columns rows : Span) :
    panel.send (.pages count)
      [.reg 0x2B, .ram columns.startHigh, .ram columns.startLow,
        .ram columns.stopHigh, .ram columns.stopLow,
        .reg 0x2A, .ram rows.startHigh, .ram rows.startLow,
        .ram rows.stopHigh, .ram rows.stopLow, .reg 0x2C] =
      { columns := columns
        rows := rows
        selected := 0x2C
        count := 0
        raster := panel.raster.seek
          ⟨count - 1 - columns.stop, count - 1 - columns.start,
            rows.start, rows.stop⟩ } := by
  simp [Panel.send, Panel.store, Addressing.destination, Span.setByte,
    Panel.window, Span.start, Span.stop]

end Ch32v307.Lcd
