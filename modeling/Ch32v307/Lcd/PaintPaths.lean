import Ch32v307.Lcd.Paint

namespace Ch32v307.Lcd

open Data

/-! The paint paths of the driver: row by row, through a window, point by
point. -/

variable {dev : LcdDev} {panel : Panel}

/-! Row by row. -/

theorem lcdColorFill_eq_paintRows (dev : LcdDev) (sx sy ex ey : UInt16)
    (color : Nat → UInt16) :
    lcdColorFill dev sx sy ex ey color =
      paintRows dev sx sy (ey - sy + 1).toNat fun i =>
        (List.range (ex - sx + 1).toNat).map fun j =>
          color (i * (ex - sx + 1).toNat + j) := by
  simp only [lcdColorFill, paintRows, paintRun, List.map_map]
  rfl

theorem side_toNat {first last size : UInt16} (ordered : first ≤ last)
    (onScreen : last < size) :
    (last - first + 1).toNat = last.toNat - first.toNat + 1 := by
  have lower := UInt16.le_iff_toNat_le.mp ordered
  have upper := UInt16.lt_iff_toNat_lt.mp onScreen
  have bound := size.toNat_lt
  simp only [UInt16.toNat_add, UInt16.toNat_sub, UInt16.toNat_one]
  omega

structure OnScreenRect (dev : LcdDev) (sx sy ex ey : UInt16) : Prop where
  columns : sx ≤ ex
  right : ex < dev.width
  rows : sy ≤ ey
  bottom : ey < dev.height

theorem lcdColorFill_pixels (commands : dev.CommandsSet)
    (ends : panel.EndsFull dev) {sx sy ex ey : UInt16}
    (rect : OnScreenRect dev sx sy ex ey) (color : Nat → UInt16) :
    (panel.send dev.addressing
        (lcdColorFill dev sx sy ex ey color)).pixels =
      painted panel.pixels sx.toNat sy.toNat ex.toNat ey.toNat color := by
  have columns := UInt16.le_iff_toNat_le.mp rect.columns
  have rows := UInt16.le_iff_toNat_le.mp rect.rows
  have right := UInt16.lt_iff_toNat_lt.mp rect.right
  have bottom := UInt16.lt_iff_toNat_lt.mp rect.bottom
  rw [lcdColorFill_eq_paintRows, side_toNat rect.columns rect.right,
    side_toNat rect.rows rect.bottom]
  have onScreenX : sx < dev.width := by
    rw [UInt16.lt_iff_toNat_lt]
    omega
  have filled := (paintRows_spec commands ends onScreenX sy
    (ey.toNat - sy.toNat + 1)
    (fun i => (List.range (ex.toNat - sx.toNat + 1)).map fun j =>
      color (i * (ex.toNat - sx.toNat + 1) + j))
    (by omega) (fun i _ => by simp; omega)).2
  rw [filled, rowsPainted_eq_painted _ columns rows]

/-- The row counter passes `ey` when `ey` is not the largest 16-bit value. -/
theorem lcdFillRows_eq (dev : LcdDev) (sx ey xlen : UInt16) (color : UInt32)
    (passes : ey.toNat < 65535) (count fuel : Nat) (i : UInt16)
    (remaining : i.toNat + count = ey.toNat + 1) (fueled : count < fuel) :
    lcdFillRows dev sx ey xlen color fuel i =
      some (paintRows dev sx i count fun _ =>
        List.replicate xlen.toNat color.toUInt16) := by
  induction count generalizing fuel i with
  | zero =>
      have past : ¬ i ≤ ey := by
        rw [UInt16.le_iff_toNat_le]
        omega
      cases fuel with
      | zero => omega
      | succ fuel => simp [lcdFillRows, past, paintRows]
  | succ count ih =>
      have more : i ≤ ey := by
        rw [UInt16.le_iff_toNat_le]
        omega
      have next : (i + 1).toNat = i.toNat + 1 := Word.toNat_succ (by omega)
      cases fuel with
      | zero => omega
      | succ fuel =>
          rw [lcdFillRows, if_pos more, ih fuel (i + 1) (by omega) (by omega),
            Option.map_some, paintRows_cons, paintRun, List.map_replicate]

theorem lcdFill_eq (dev : LcdDev) {sx sy ex ey : UInt16} (color : UInt32)
    (ordered : sy ≤ ey) (passes : ey.toNat < 65535) :
    lcdFill dev sx sy ex ey color =
      some (paintRows dev sx sy (ey.toNat - sy.toNat + 1) fun _ =>
        List.replicate (ex - sx + 1).toNat color.toUInt16) := by
  have rows := UInt16.le_iff_toNat_le.mp ordered
  exact lcdFillRows_eq dev sx ey (ex - sx + 1) color passes _ _ sy (by omega)
    (by omega)

/-- Filling with one color is filling with an array of that color. -/
theorem lcdFill_eq_lcdColorFill (dev : LcdDev) {sx sy ex ey : UInt16}
    (color : UInt32) (rect : OnScreenRect dev sx sy ex ey) :
    lcdFill dev sx sy ex ey color =
      some (lcdColorFill dev sx sy ex ey fun _ => color.toUInt16) := by
  have bottom := UInt16.lt_iff_toNat_lt.mp rect.bottom
  have bound := dev.height.toNat_lt
  rw [lcdFill_eq dev color rect.rows (by omega), lcdColorFill_eq_paintRows,
    side_toNat rect.rows rect.bottom]
  simp only [List.map_const', List.length_range]

/-! Through a window. -/

def paintWindow (dev : LcdDev) (sx sy width height : UInt16)
    (colors : List UInt16) : List BusMsg :=
  lcdSetWindow dev sx sy width height ++ lcdWriteRamPrepare dev ++
    colors.map .ram

theorem window_stop {first last size : UInt16} (ordered : first ≤ last)
    (onScreen : last < size) :
    first + (last - first + 1) - 1 = last := by
  have length := side_toNat ordered onScreen
  have lower := UInt16.le_iff_toNat_le.mp ordered
  have upper := UInt16.lt_iff_toNat_lt.mp onScreen
  have bound := size.toNat_lt
  apply UInt16.toNat_inj.mp
  rw [UInt16.toNat_sub, UInt16.toNat_add, length]
  simp only [UInt16.toNat_one]
  omega

/-- The bytes of two addresses. -/
def wordSpan (first last : UInt16) : Span :=
  ⟨first >>> 8, first &&& 0xFF, last >>> 8, last &&& 0xFF⟩

@[simp] theorem wordSpan_start (first last : UInt16) :
    (wordSpan first last).start = first.toNat := addressValue_bytes first

@[simp] theorem wordSpan_stop (first last : UInt16) :
    (wordSpan first last).stop = last.toNat := addressValue_bytes last

/-- What sets both ends of the window, except on the SSD1963. -/
def windowMessages (dev : LcdDev) (columns rows : Span) : List BusMsg :=
  if dev.id = 0x5510 then
    [.reg 0x2A00, .ram columns.startHigh, .reg 0x2A01, .ram columns.startLow,
      .reg 0x2A02, .ram columns.stopHigh, .reg 0x2A03, .ram columns.stopLow,
      .reg 0x2B00, .ram rows.startHigh, .reg 0x2B01, .ram rows.startLow,
      .reg 0x2B02, .ram rows.stopHigh, .reg 0x2B03, .ram rows.stopLow]
  else
    [.reg 0x2A, .ram columns.startHigh, .ram columns.startLow,
      .ram columns.stopHigh, .ram columns.stopLow,
      .reg 0x2B, .ram rows.startHigh, .ram rows.startLow,
      .ram rows.stopHigh, .ram rows.stopLow]

theorem lcdSetWindow_eq_windowMessages (commands : dev.CommandsSet)
    (notSsd1963 : dev.id ≠ 0x1963) (sx sy width height : UInt16) :
    lcdSetWindow dev sx sy width height =
      windowMessages dev (wordSpan sx (sx + width - 1))
        (wordSpan sy (sy + height - 1)) := by
  obtain ⟨-, setxcmd, setycmd⟩ := commands
  by_cases nt35510 : dev.id = 0x5510
  · simp [lcdSetWindow, windowMessages, wordSpan, nt35510, setxcmd, setycmd,
      lcdWrRegno, lcdWrData]
  · simp [lcdSetWindow, windowMessages, wordSpan, nt35510, notSsd1963, setxcmd,
      setycmd, lcdWrRegno, lcdWrData]

theorem addressing_of_notSsd1963 (notSsd1963 : dev.id ≠ 0x1963) :
    dev.addressing = if dev.id = 0x5510 then .commands else .parameters := by
  simp [LcdDev.addressing, notSsd1963]

structure Panel.Windowed (before : Panel) (columns rows : Span)
    (panel : Panel) : Prop where
  columns : panel.columns = columns
  rows : panel.rows = rows
  raster : panel.raster = before.raster

theorem send_windowMessages (notSsd1963 : dev.id ≠ 0x1963) (panel : Panel)
    (columns rows : Span) :
    panel.Windowed columns rows
      (panel.send dev.addressing (windowMessages dev columns rows)) := by
  rw [addressing_of_notSsd1963 notSsd1963, windowMessages]
  split_ifs
  · exact ⟨rfl, rfl, rfl⟩
  · exact ⟨rfl, rfl, rfl⟩

theorem lcdWriteRamPrepare_eq (commands : dev.CommandsSet)
    (notSsd1963 : dev.id ≠ 0x1963) :
    lcdWriteRamPrepare dev = [.reg dev.addressing.memoryCommand] := by
  rw [lcdWriteRamPrepare, commands.wramcmd, addressing_of_notSsd1963 notSsd1963]
  split_ifs <;> rfl

theorem window_eq_spans (notSsd1963 : dev.id ≠ 0x1963) (panel : Panel) :
    panel.window dev.addressing =
      ⟨panel.columns.start, panel.columns.stop,
        panel.rows.start, panel.rows.stop⟩ := by
  rw [addressing_of_notSsd1963 notSsd1963]
  split_ifs <;> rfl

theorem lcdSetWindow_addressed (commands : dev.CommandsSet)
    (notSsd1963 : dev.id ≠ 0x1963) (panel : Panel) {sx sy ex ey : UInt16}
    (rect : OnScreenRect dev sx sy ex ey) :
    (panel.send dev.addressing (lcdSetWindow dev sx sy (ex - sx + 1)
        (ey - sy + 1) ++ lcdWriteRamPrepare dev)).MemorySelected
          dev.addressing ∧
      (panel.send dev.addressing (lcdSetWindow dev sx sy (ex - sx + 1)
        (ey - sy + 1) ++ lcdWriteRamPrepare dev)).raster =
        panel.raster.seek ⟨sx.toNat, ex.toNat, sy.toNat, ey.toNat⟩ := by
  obtain ⟨columns, rows, raster⟩ := send_windowMessages notSsd1963 panel
    (wordSpan sx ex) (wordSpan sy ey)
  rw [lcdSetWindow_eq_windowMessages commands notSsd1963,
    window_stop rect.columns rect.right, window_stop rect.rows rect.bottom,
    Panel.send_append, lcdWriteRamPrepare_eq commands notSsd1963,
    send_memoryCommand]
  refine ⟨memorySelected_of_command rfl, ?_⟩
  dsimp only
  rw [window_eq_spans notSsd1963, raster, columns, rows]
  simp only [wordSpan_start, wordSpan_stop]

theorem seek_stream_window (raster : Raster UInt16) {sx sy ex ey : Nat}
    (columns : sx ≤ ex) (rows : sy ≤ ey) (color : Nat → UInt16) :
    ((raster.seek ⟨sx, ex, sy, ey⟩).stream
        ((List.range ((ex - sx + 1) * (ey - sy + 1))).map color)).pixels =
      painted raster.pixels sx sy ex ey color := by
  let window : Window := ⟨sx, ex, sy, ey⟩
  have room : ((List.range ((ex - sx + 1) * (ey - sy + 1))).map color).length ≤
      window.width * window.height := by
    rw [List.length_map, List.length_range]
    exact Nat.le_refl _
  funext x y
  rw [Raster.stream_pixels ⟨columns, rows⟩ (Raster.seek_at ..) room]
  change (if window.Contains x y then _ else _) = _
  by_cases inside : window.Contains x y
  · have rectangle : sx ≤ x ∧ x ≤ ex ∧ sy ≤ y ∧ y ≤ ey :=
      ⟨inside.left, inside.right, inside.top, inside.bottom⟩
    have place : window.index x y < (ex - sx + 1) * (ey - sy + 1) :=
      Window.index_lt inside
    rw [if_pos inside, painted, if_pos rectangle]
    change (List.map color _)[window.index x y]?.getD _ = _
    rw [List.getElem?_map, List.getElem?_range place]
    rfl
  · have outside : ¬ (sx ≤ x ∧ x ≤ ex ∧ sy ≤ y ∧ y ≤ ey) :=
      fun ⟨left, right, top, bottom⟩ => inside ⟨left, right, top, bottom⟩
    rw [if_neg inside, painted, if_neg outside]
    rfl

theorem paintWindow_pixels (commands : dev.CommandsSet)
    (notSsd1963 : dev.id ≠ 0x1963) (panel : Panel) {sx sy ex ey : UInt16}
    (rect : OnScreenRect dev sx sy ex ey) (color : Nat → UInt16) :
    (panel.send dev.addressing
        (paintWindow dev sx sy (ex - sx + 1) (ey - sy + 1)
          ((List.range ((ex - sx + 1).toNat * (ey - sy + 1).toNat)).map
            color))).pixels =
      painted panel.pixels sx.toNat sy.toNat ex.toNat ey.toNat color := by
  obtain ⟨selected, raster⟩ :=
    lcdSetWindow_addressed commands notSsd1963 panel rect
  rw [paintWindow, Panel.send_append, Panel.send_ram selected, Panel.pixels,
    raster, side_toNat rect.columns rect.right, side_toNat rect.rows rect.bottom]
  exact seek_stream_window panel.raster
    (UInt16.le_iff_toNat_le.mp rect.columns)
    (UInt16.le_iff_toNat_le.mp rect.rows) color

/-! Point by point. -/

def paintPoints (dev : LcdDev) (order : List (UInt16 × UInt16))
    (picture : Nat → Nat → UInt16) : List BusMsg :=
  order.flatMap fun (x, y) =>
    lcdDrawPoint dev x y (picture x.toNat y.toNat).toUInt32

def places (order : List (UInt16 × UInt16)) : List (Nat × Nat) :=
  order.map fun (x, y) => (x.toNat, y.toNat)

theorem paintPoints_spec (commands : dev.CommandsSet)
    (ends : panel.EndsFull dev) (picture : Nat → Nat → UInt16)
    {order : List (UInt16 × UInt16)}
    (onScreen : ∀ x y, (x, y) ∈ order → x < dev.width ∧ y < dev.height) :
    (panel.send dev.addressing (paintPoints dev order picture)).EndsFull dev ∧
      ∀ a b,
        (panel.send dev.addressing (paintPoints dev order picture)).pixels a b =
          if (a, b) ∈ places order then picture a b else panel.pixels a b := by
  induction order using List.reverseRecOn with
  | nil => exact ⟨ends, fun _ _ => rfl⟩
  | append_singleton order point ih =>
      obtain ⟨x, y⟩ := point
      obtain ⟨endsBefore, pixelsBefore⟩ := ih fun a b member =>
        onScreen a b (List.mem_append_left _ member)
      obtain ⟨onScreenX, onScreenY⟩ := onScreen x y (by simp)
      have fits : x.toNat + [picture x.toNat y.toNat].length ≤
          dev.width.toNat := UInt16.lt_iff_toNat_lt.mp onScreenX
      obtain ⟨endsAfter, pixelsAfter⟩ :=
        paintRun_spec commands endsBefore onScreenX onScreenY fits
      have split : paintPoints dev (order ++ [(x, y)]) picture =
          paintPoints dev order picture ++
            paintRun dev x y [picture x.toNat y.toNat] := by
        simp [paintPoints, lcdDrawPoint_eq_paintRun]
      rw [split, Panel.send_append]
      refine ⟨endsAfter, fun a b => ?_⟩
      rw [pixelsAfter, runPainted_singleton, pixelsBefore]
      have member : (a, b) ∈ places (order ++ [(x, y)]) ↔
          (a, b) ∈ places order ∨ (a, b) = (x.toNat, y.toNat) := by
        simp [places]
      by_cases here : (a, b) = (x.toNat, y.toNat)
      · rw [if_pos here, if_pos (member.mpr (.inr here))]
        obtain ⟨rfl, rfl⟩ := Prod.mk.inj here
        rfl
      · rw [if_neg here]
        exact if_congr (by rw [member, or_iff_left here]) rfl rfl

/-- The points of a rectangle, in some order. -/
def CoversRect (order : List (UInt16 × UInt16)) (sx sy ex ey : UInt16) : Prop :=
  ∀ x y, (x, y) ∈ order ↔ (sx ≤ x ∧ x ≤ ex) ∧ sy ≤ y ∧ y ≤ ey

theorem mem_places_iff {order : List (UInt16 × UInt16)}
    {sx sy ex ey : UInt16} (covers : CoversRect order sx sy ex ey)
    (a b : Nat) :
    (a, b) ∈ places order ↔
      sx.toNat ≤ a ∧ a ≤ ex.toNat ∧ sy.toNat ≤ b ∧ b ≤ ey.toNat := by
  constructor
  · intro member
    obtain ⟨⟨x, y⟩, listed, same⟩ := List.mem_map.mp member
    obtain ⟨rfl, rfl⟩ := Prod.mk.inj same
    obtain ⟨⟨left, right⟩, top, bottom⟩ := (covers x y).mp listed
    exact ⟨UInt16.le_iff_toNat_le.mp left, UInt16.le_iff_toNat_le.mp right,
      UInt16.le_iff_toNat_le.mp top, UInt16.le_iff_toNat_le.mp bottom⟩
  · rintro ⟨left, right, top, bottom⟩
    have column : (UInt16.ofNat a).toNat = a :=
      UInt16.toNat_ofNat_of_lt (lt_of_le_of_lt right ex.toNat_lt)
    have row : (UInt16.ofNat b).toNat = b :=
      UInt16.toNat_ofNat_of_lt (lt_of_le_of_lt bottom ey.toNat_lt)
    refine List.mem_map.mpr ⟨(UInt16.ofNat a, UInt16.ofNat b), ?_, ?_⟩
    · refine (covers _ _).mpr ?_
      simp only [UInt16.le_iff_toNat_le, column, row]
      exact ⟨⟨left, right⟩, top, bottom⟩
    · exact Prod.ext column row

theorem paintPoints_pixels (commands : dev.CommandsSet)
    (ends : panel.EndsFull dev) {sx sy ex ey : UInt16}
    (rect : OnScreenRect dev sx sy ex ey) (color : Nat → UInt16)
    {order : List (UInt16 × UInt16)} (covers : CoversRect order sx sy ex ey) :
    (panel.send dev.addressing
        (paintPoints dev order fun x y =>
          color ((y - sy.toNat) * (ex.toNat - sx.toNat + 1) +
            (x - sx.toNat)))).pixels =
      painted panel.pixels sx.toNat sy.toNat ex.toNat ey.toNat color := by
  funext a b
  have onScreen : ∀ x y, (x, y) ∈ order →
      x < dev.width ∧ y < dev.height := by
    intro x y member
    obtain ⟨⟨-, right⟩, -, bottom⟩ := (covers x y).mp member
    exact ⟨UInt16.lt_of_le_of_lt right rect.right,
      UInt16.lt_of_le_of_lt bottom rect.bottom⟩
  rw [(paintPoints_spec commands ends _ onScreen).2, painted]
  exact if_congr (mem_places_iff covers a b) rfl rfl

/-- The paint paths leave the same picture: the rectangle holds the array and
every other pixel is as before. -/
theorem paintPaths_agree (commands : dev.CommandsSet)
    (notSsd1963 : dev.id ≠ 0x1963) (full : panel.WindowFull dev)
    {sx sy ex ey : UInt16} (rect : OnScreenRect dev sx sy ex ey)
    (color : Nat → UInt16) :
    (panel.send dev.addressing
        (lcdColorFill dev sx sy ex ey color)).pixels =
      painted panel.pixels sx.toNat sy.toNat ex.toNat ey.toNat color ∧
    (panel.send dev.addressing
        (paintWindow dev sx sy (ex - sx + 1) (ey - sy + 1)
          ((List.range ((ex - sx + 1).toNat * (ey - sy + 1).toNat)).map
            color))).pixels =
      painted panel.pixels sx.toNat sy.toNat ex.toNat ey.toNat color ∧
    (∀ order, CoversRect order sx sy ex ey →
      (panel.send dev.addressing
          (paintPoints dev order fun x y =>
            color ((y - sy.toNat) * (ex.toNat - sx.toNat + 1) +
              (x - sx.toNat)))).pixels =
        painted panel.pixels sx.toNat sy.toNat ex.toNat ey.toNat color) ∧
    ∀ c : UInt32, ∃ messages,
      lcdFill dev sx sy ex ey c = some messages ∧
      (panel.send dev.addressing messages).pixels =
        (panel.send dev.addressing
          (lcdColorFill dev sx sy ex ey fun _ => c.toUInt16)).pixels := by
  have ends := full.endsFull
  refine ⟨lcdColorFill_pixels commands ends rect color,
    paintWindow_pixels commands notSsd1963 panel rect color,
    fun order covers => paintPoints_pixels commands ends rect color covers,
    fun c => ⟨_, lcdFill_eq_lcdColorFill dev c rect, rfl⟩⟩

def ili9341Dev : LcdDev := ⟨240, 320, 0x9341, 0, 0x2C, 0x2A, 0x2B⟩

def blackPanel : Panel where
  columns := ⟨0, 0, 0, 239⟩
  rows := ⟨0, 0, 1, 63⟩
  selected := 0
  count := 0
  raster := ⟨⟨0, 239, 0, 319⟩, 0, 0, fun _ _ => 0⟩

theorem blackPanel_colorFill :
    (blackPanel.send ili9341Dev.addressing
        (lcdColorFill ili9341Dev 10 300 20 319 UInt16.ofNat)).pixels =
      painted (fun _ _ => 0) 10 300 20 319 UInt16.ofNat :=
  (paintPaths_agree (⟨rfl, rfl, rfl⟩ : ili9341Dev.CommandsSet) (by decide)
    (⟨rfl, rfl, rfl, rfl⟩ : blackPanel.WindowFull ili9341Dev)
    ⟨by decide, by decide, by decide, by decide⟩ UInt16.ofNat).1

end Ch32v307.Lcd
