import Ch32v307.Lcd.Panel

namespace Ch32v307.Lcd

open Data

/-! Painting: what the drawing functions leave in picture memory. -/

def Panel.stops (panel : Panel) : Nat × Nat :=
  (panel.columns.stop, panel.rows.stop)

/-- A cursor starts the window at its pixel and leaves the ends where they
were. -/
structure Panel.Seeks (dev : LcdDev) (before : Panel) (x y : Nat)
    (panel : Panel) : Prop where
  selected : panel.MemorySelected dev.addressing
  stops : panel.stops = before.stops
  raster : panel.raster =
    before.raster.seek ⟨x, before.stops.1, y, before.stops.2⟩

section Cursor

variable {dev : LcdDev} {panel : Panel} {x y : UInt16}

theorem lcdSetCursor_seeks (commands : dev.CommandsSet)
    (notSsd1963 : dev.id ≠ 0x1963) :
    panel.Seeks dev x.toNat y.toNat
      (panel.send dev.addressing
        (lcdSetCursor dev x y ++ lcdWriteRamPrepare dev)) := by
  obtain ⟨wramcmd, setxcmd, setycmd⟩ := commands
  by_cases nt35510 : dev.id = 0x5510
  · have addressing : dev.addressing = .commands := if_pos nt35510
    rw [if_pos nt35510] at wramcmd setxcmd setycmd
    have messages : lcdSetCursor dev x y ++ lcdWriteRamPrepare dev =
        [.reg 0x2A00, .ram (x >>> 8), .reg 0x2A01, .ram (x &&& 0xFF),
          .reg 0x2B00, .ram (y >>> 8), .reg 0x2B01, .ram (y &&& 0xFF),
          .reg 0x2C00] := by
      simp [lcdSetCursor, lcdWriteRamPrepare, nt35510, wramcmd, setxcmd,
        setycmd, lcdWrRegno, lcdWrData]
    rw [addressing, messages, send_commands_start]
    refine ⟨?_, rfl, rfl⟩
    rw [addressing]
    exact memorySelected_of_command rfl
  · have addressing : dev.addressing = .parameters := by
      simp [LcdDev.addressing, nt35510, notSsd1963]
    have messages : lcdSetCursor dev x y ++ lcdWriteRamPrepare dev =
        [.reg 0x2A, .ram (x >>> 8), .ram (x &&& 0xFF),
          .reg 0x2B, .ram (y >>> 8), .ram (y &&& 0xFF), .reg 0x2C] := by
      simp [lcdSetCursor, lcdWriteRamPrepare, nt35510, notSsd1963, wramcmd,
        setxcmd, setycmd, lcdWrRegno, lcdWrData]
    rw [addressing, messages, send_parameters_start]
    refine ⟨?_, rfl, rfl⟩
    rw [addressing]
    exact memorySelected_of_command rfl

theorem Panel.Seeks.addressed {before : Panel} {column row : Nat}
    (seeks : before.Seeks dev column row panel) (ends : before.EndsFull dev)
    (notSsd1963 : dev.id ≠ 0x1963) :
    before.Addressed dev column row panel := by
  obtain ⟨selected, stops, raster⟩ := seeks
  obtain ⟨right, bottom⟩ := ends notSsd1963
  obtain ⟨sameRight, sameBottom⟩ := Prod.mk.inj stops
  refine ⟨fun _ => ⟨?_, ?_⟩, selected, ?_⟩
  · rw [sameRight]
    exact right
  · rw [sameBottom]
    exact bottom
  · rw [raster, ← right, ← bottom]
    rfl

theorem lcdSetCursor_landscape (commands : dev.CommandsSet)
    (ssd1963 : dev.id = 0x1963) (landscape : dev.dir ≠ 0)
    (columns : 0 < dev.width.toNat) (rows : 0 < dev.height.toNat) :
    panel.Addressed dev x.toNat y.toNat
      (panel.send dev.addressing
        (lcdSetCursor dev x y ++ lcdWriteRamPrepare dev)) := by
  obtain ⟨wramcmd, setxcmd, setycmd⟩ := commands
  have addressing : dev.addressing = .parameters := by
    simp [LcdDev.addressing, ssd1963, landscape]
  have messages : lcdSetCursor dev x y ++ lcdWriteRamPrepare dev =
      [.reg 0x2A, .ram (x >>> 8), .ram (x &&& 0xFF),
        .ram (highByte (dev.width.toUInt32 - 1)),
        .ram (lowByte (dev.width.toUInt32 - 1)),
        .reg 0x2B, .ram (y >>> 8), .ram (y &&& 0xFF),
        .ram (highByte (dev.height.toUInt32 - 1)),
        .ram (lowByte (dev.height.toUInt32 - 1)), .reg 0x2C] := by
    simp [lcdSetCursor, lcdWriteRamPrepare, ssd1963, landscape, wramcmd,
      setxcmd, setycmd, lcdWrRegno, lcdWrData]
  have sent := send_parameters_window panel
    ⟨x >>> 8, x &&& 0xFF, highByte (dev.width.toUInt32 - 1),
      lowByte (dev.width.toUInt32 - 1)⟩
    ⟨y >>> 8, y &&& 0xFF, highByte (dev.height.toUInt32 - 1),
      lowByte (dev.height.toUInt32 - 1)⟩
  rw [addressing, messages, sent]
  refine ⟨fun other => absurd ssd1963 other, ?_, ?_⟩
  · rw [addressing]
    exact memorySelected_of_command rfl
  · simp only [Span.start, Span.stop, addressValue_bytes,
      addressValue_last columns, addressValue_last rows]

theorem lcdSetCursor_pages (commands : dev.CommandsSet)
    (ssd1963 : dev.id = 0x1963) (portrait : dev.dir = 0)
    (onScreenX : x < dev.width) (rows : 0 < dev.height.toNat) :
    panel.Addressed dev x.toNat y.toNat
      (panel.send dev.addressing
        (lcdSetCursor dev x y ++ lcdWriteRamPrepare dev)) := by
  obtain ⟨wramcmd, setxcmd, setycmd⟩ := commands
  have addressing : dev.addressing = .pages dev.width.toNat := by
    simp [LcdDev.addressing, ssd1963, portrait]
  have messages : lcdSetCursor dev x y ++ lcdWriteRamPrepare dev =
      [.reg 0x2B, .ram 0, .ram 0, .ram ((dev.width - 1 - x) >>> 8),
        .ram ((dev.width - 1 - x) &&& 0xFF),
        .reg 0x2A, .ram (y >>> 8), .ram (y &&& 0xFF),
        .ram (highByte (dev.height.toUInt32 - 1)),
        .ram (lowByte (dev.height.toUInt32 - 1)), .reg 0x2C] := by
    simp [lcdSetCursor, lcdWriteRamPrepare, ssd1963, portrait, wramcmd,
      setxcmd, setycmd, lcdWrRegno, lcdWrData]
  have sent := send_pages_window dev.width.toNat panel
    ⟨0, 0, (dev.width - 1 - x) >>> 8, (dev.width - 1 - x) &&& 0xFF⟩
    ⟨y >>> 8, y &&& 0xFF, highByte (dev.height.toUInt32 - 1),
      lowByte (dev.height.toUInt32 - 1)⟩
  have inside := UInt16.lt_iff_toNat_lt.mp onScreenX
  have widthBound := dev.width.toNat_lt
  have mirrored : (dev.width - 1 - x).toNat = dev.width.toNat - 1 - x.toNat := by
    simp only [UInt16.toNat_sub, UInt16.toNat_one]
    omega
  have back : dev.width.toNat - 1 - (dev.width.toNat - 1 - x.toNat) =
      x.toNat := by omega
  rw [addressing, messages, sent]
  refine ⟨fun other => absurd ssd1963 other, ?_, ?_⟩
  · rw [addressing]
    exact memorySelected_of_command rfl
  · simp only [Span.start, Span.stop, addressValue_bytes,
      addressValue_last rows, mirrored, back]
    rfl

theorem lcdSetCursor_addressed (commands : dev.CommandsSet)
    (ends : panel.EndsFull dev) (onScreenX : x < dev.width)
    (onScreenY : y < dev.height) :
    panel.Addressed dev x.toNat y.toNat
      (panel.send dev.addressing
        (lcdSetCursor dev x y ++ lcdWriteRamPrepare dev)) := by
  have columns := UInt16.lt_iff_toNat_lt.mp onScreenX
  have rows := UInt16.lt_iff_toNat_lt.mp onScreenY
  by_cases ssd1963 : dev.id = 0x1963
  · by_cases portrait : dev.dir = 0
    · exact lcdSetCursor_pages commands ssd1963 portrait onScreenX
        (Nat.zero_lt_of_lt rows)
    · exact lcdSetCursor_landscape commands ssd1963 portrait
        (Nat.zero_lt_of_lt columns) (Nat.zero_lt_of_lt rows)
  · exact (lcdSetCursor_seeks commands ssd1963).addressed ends ssd1963

end Cursor

/-! Runs of colors, rows of runs, single points. -/

def paintRun (dev : LcdDev) (x y : UInt16) (colors : List UInt16) :
    List BusMsg :=
  lcdSetCursor dev x y ++ lcdWriteRamPrepare dev ++ colors.map .ram

theorem lcdDrawPoint_eq_paintRun (dev : LcdDev) (x y : UInt16)
    (color : UInt32) :
    lcdDrawPoint dev x y color = paintRun dev x y [color.toUInt16] := rfl

/-- The picture with a row's columns from `x` on replaced by some colors. -/
def runPainted (old : Nat → Nat → UInt16) (x y : Nat) (colors : List UInt16) :
    Nat → Nat → UInt16 := fun a b =>
  if b = y ∧ x ≤ a then colors[a - x]?.getD (old a b) else old a b

theorem runPainted_singleton (old : Nat → Nat → UInt16) (x y : Nat)
    (color : UInt16) (a b : Nat) :
    runPainted old x y [color] a b =
      if (a, b) = (x, y) then color else old a b := by
  unfold runPainted
  by_cases run : b = y ∧ x ≤ a
  · obtain ⟨row, left⟩ := run
    obtain ⟨offset, rfl⟩ := Nat.exists_eq_add_of_le left
    cases offset with
    | zero => simp [row]
    | succ offset => simp [row]
  · have other : ¬ (a, b) = (x, y) := by
      rintro ⟨⟩
      exact run ⟨rfl, Nat.le_refl _⟩
    rw [if_neg run, if_neg other]

section Runs

variable {dev : LcdDev} {panel : Panel}

theorem seek_stream_pixels {x y right bottom : Nat} (raster : Raster UInt16)
    {colors : List UInt16} (columns : x ≤ right) (rows : y ≤ bottom)
    (fits : x + colors.length ≤ right + 1) :
    ((raster.seek ⟨x, right, y, bottom⟩).stream colors).pixels =
      runPainted raster.pixels x y colors := by
  let window : Window := ⟨x, right, y, bottom⟩
  have width : window.width = right - x + 1 := rfl
  have room : colors.length ≤ window.width * window.height :=
    le_trans (by omega) (Nat.le_mul_of_pos_right _ (Nat.succ_pos _))
  funext a b
  rw [Raster.stream_pixels ⟨columns, rows⟩ (Raster.seek_at ..) room,
    runPainted]
  change (if window.Contains a b then colors[window.index a b]?.getD _ else _) = _
  by_cases inside : window.Contains a b
  · have left : x ≤ a := inside.left
    have top : y ≤ b := inside.top
    rw [if_pos inside]
    by_cases first : b = y
    · have here : window.index a b = a - x := by
        simp [window, Window.index, first]
      rw [if_pos ⟨first, left⟩, here]
      rfl
    · -- A lower row: the run has ended before.
      have below : 1 ≤ b - y := by omega
      have past : window.width ≤ window.index a b :=
        le_trans (Nat.le_mul_of_pos_left _ below) (Nat.le_add_right ..)
      rw [if_neg fun run => first run.1, List.getElem?_eq_none (by omega)]
      rfl
  · rw [if_neg inside]
    by_cases run : b = y ∧ x ≤ a
    · obtain ⟨first, left⟩ := run
      have beyond : ¬ a ≤ right := fun last =>
        inside ⟨left, last, first.ge, first.le.trans rows⟩
      rw [if_pos ⟨first, left⟩, List.getElem?_eq_none (by omega)]
      rfl
    · rw [if_neg run]
      rfl

theorem paintRun_spec (commands : dev.CommandsSet)
    (ends : panel.EndsFull dev) {x y : UInt16} (onScreenX : x < dev.width)
    (onScreenY : y < dev.height) {colors : List UInt16}
    (fits : x.toNat + colors.length ≤ dev.width.toNat) :
    (panel.send dev.addressing (paintRun dev x y colors)).EndsFull dev ∧
      (panel.send dev.addressing (paintRun dev x y colors)).pixels =
        runPainted panel.pixels x.toNat y.toNat colors := by
  have columns := UInt16.lt_iff_toNat_lt.mp onScreenX
  have rows := UInt16.lt_iff_toNat_lt.mp onScreenY
  have addressed := lcdSetCursor_addressed commands ends onScreenX onScreenY
  rw [paintRun, Panel.send_append, Panel.send_ram addressed.selected]
  refine ⟨addressed.ends, ?_⟩
  rw [Panel.pixels, addressed.raster]
  exact seek_stream_pixels panel.raster (by omega) (by omega) (by omega)

def rowsPainted (old : Nat → Nat → UInt16) (x y count : Nat)
    (rows : Nat → List UInt16) : Nat → Nat → UInt16 := fun a b =>
  if y ≤ b ∧ b < y + count ∧ x ≤ a then (rows (b - y))[a - x]?.getD (old a b)
  else old a b

theorem rowsPainted_succ (old : Nat → Nat → UInt16) (x y count : Nat)
    (rows : Nat → List UInt16) :
    runPainted (rowsPainted old x y count rows) x (y + count) (rows count) =
      rowsPainted old x y (count + 1) rows := by
  funext a b
  unfold runPainted rowsPainted
  by_cases last : b = y + count
  · subst last
    simp
  · have split : (y ≤ b ∧ b < y + (count + 1) ∧ x ≤ a) ↔
        (y ≤ b ∧ b < y + count ∧ x ≤ a) := by omega
    rw [if_neg fun run => last run.1]
    simp only [split]

def paintRows (dev : LcdDev) (x y : UInt16) (count : Nat)
    (rows : Nat → List UInt16) : List BusMsg :=
  (List.range count).flatMap fun i =>
    paintRun dev x (y + UInt16.ofNat i) (rows i)

theorem paintRows_cons (dev : LcdDev) (x y : UInt16) (count : Nat)
    (rows : Nat → List UInt16) :
    paintRows dev x y (count + 1) rows =
      paintRun dev x y (rows 0) ++
        paintRows dev x (y + 1) count fun i => rows (i + 1) := by
  simp only [paintRows, List.range_succ_eq_map, List.flatMap_cons,
    List.flatMap_map, Word.succ_add_ofNat]
  rw [show y + UInt16.ofNat 0 = y from UInt16.add_zero y]

theorem paintRows_spec (commands : dev.CommandsSet)
    (ends : panel.EndsFull dev) {x : UInt16} (onScreenX : x < dev.width)
    (y : UInt16) (count : Nat) (rows : Nat → List UInt16)
    (rowsFit : y.toNat + count ≤ dev.height.toNat)
    (fits : ∀ i < count, x.toNat + (rows i).length ≤ dev.width.toNat) :
    (panel.send dev.addressing (paintRows dev x y count rows)).EndsFull dev ∧
      (panel.send dev.addressing (paintRows dev x y count rows)).pixels =
        rowsPainted panel.pixels x.toNat y.toNat count rows := by
  induction count with
  | zero =>
      refine ⟨ends, ?_⟩
      funext a b
      have none : ¬ (y.toNat ≤ b ∧ b < y.toNat + 0 ∧ x.toNat ≤ a) := by omega
      exact (if_neg none).symm
  | succ count ih =>
      obtain ⟨endsBefore, pixelsBefore⟩ := ih (by omega) fun i inRange =>
        fits i (by omega)
      have screenBound := dev.height.toNat_lt
      have row : (y + UInt16.ofNat count).toNat = y.toNat + count := by
        simp only [UInt16.toNat_add, UInt16.toNat_ofNat']
        omega
      have onScreenY : y + UInt16.ofNat count < dev.height := by
        rw [UInt16.lt_iff_toNat_lt, row]
        omega
      have rowRun := paintRun_spec commands endsBefore onScreenX onScreenY
        (fits count (by omega))
      have split : paintRows dev x y (count + 1) rows =
          paintRows dev x y count rows ++
            paintRun dev x (y + UInt16.ofNat count) (rows count) := by
        simp [paintRows, List.range_succ]
      rw [split, Panel.send_append]
      rw [pixelsBefore, row, rowsPainted_succ] at rowRun
      exact rowRun

end Runs

/-! Rectangles. -/

/-- The picture with a rectangle replaced by an array, row after row. -/
def painted (old : Nat → Nat → UInt16) (sx sy ex ey : Nat)
    (color : Nat → UInt16) : Nat → Nat → UInt16 := fun x y =>
  if sx ≤ x ∧ x ≤ ex ∧ sy ≤ y ∧ y ≤ ey then
    color ((y - sy) * (ex - sx + 1) + (x - sx))
  else old x y

theorem rowsPainted_eq_painted (old : Nat → Nat → UInt16) {sx sy ex ey : Nat}
    (columns : sx ≤ ex) (rows : sy ≤ ey) (color : Nat → UInt16) :
    rowsPainted old sx sy (ey - sy + 1) (fun i =>
        (List.range (ex - sx + 1)).map fun j => color (i * (ex - sx + 1) + j)) =
      painted old sx sy ex ey color := by
  funext x y
  unfold rowsPainted painted
  by_cases inRows : sy ≤ y ∧ y < sy + (ey - sy + 1) ∧ sx ≤ x
  · rw [if_pos inRows]
    by_cases inside : x ≤ ex
    · have place : x - sx < ex - sx + 1 := by omega
      rw [if_pos (by omega), List.getElem?_map, List.getElem?_range place]
      rfl
    · rw [if_neg (by omega), List.getElem?_eq_none (by simp; omega)]
      rfl
  · rw [if_neg inRows, if_neg (by omega)]

end Ch32v307.Lcd
