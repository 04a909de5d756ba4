import Ch32v307.Lcd.DiscShape
import Ch32v307.Lcd.Glyph
import Ch32v307.Lcd.TextPlaces

namespace Ch32v307.Lcd

/-! What the primitives that test their coordinates write beside the panel. -/

def PixelRun.OnPanel (dev : LcdDev) (run : PixelRun) : Prop :=
  ∀ column row, run.Touches column row →
    column < dev.width.toNat ∧ row < dev.height.toNat

/-- The call ends, and its runs write pixels of the panel only. The messages
tell the runs (`paintRuns_injective`). -/
def WritesOnPanel (dev : LcdDev) (messages : Option (List BusMsg)) : Prop :=
  ∃ runs, messages = some (paintRuns dev runs) ∧
    ∀ run ∈ runs, run.OnPanel dev

section Runs

variable {dev : LcdDev}

theorem writesOnPanel_runs (runs : List PixelRun) :
    WritesOnPanel dev (some (paintRuns dev runs)) ↔
      ∀ run ∈ runs, run.OnPanel dev := by
  constructor
  · rintro ⟨others, same, onPanel⟩
    obtain rfl := paintRuns_injective (Option.some.inj same)
    exact onPanel
  · intro onPanel
    exact ⟨runs, rfl, onPanel⟩

theorem not_writesOnPanel_none : ¬ WritesOnPanel dev none := by
  rintro ⟨runs, returned, -⟩
  cases returned

/-- A run that is not empty is on the panel when both its ends are. -/
theorem onPanel_iff {run : PixelRun} (written : run.colors ≠ []) :
    run.OnPanel dev ↔
      run.x.toNat + run.colors.length ≤ dev.width.toNat ∧ run.y < dev.height := by
  have positive := List.length_pos_of_ne_nil written
  rw [UInt16.lt_iff_toNat_lt]
  constructor
  · intro onPanel
    have first := onPanel run.x.toNat run.y.toNat ⟨rfl, le_refl _, by omega⟩
    have last := onPanel (run.x.toNat + (run.colors.length - 1)) run.y.toNat
      ⟨rfl, by omega, by omega⟩
    omega
  · rintro ⟨right, bottom⟩ column row ⟨inRow, -, inside⟩
    omega

theorem pointRun_onPanel {x y color : UInt16} :
    (pointRun x y color).OnPanel dev ↔ x < dev.width ∧ y < dev.height := by
  rw [onPanel_iff (List.cons_ne_nil _ _), UInt16.lt_iff_toNat_lt (a := x)]
  rfl

end Runs

/-! Horizontal lines and filled circles. -/

/-- What the tests let through ends before the right edge, above the last row
they let through. -/
def HlineFits (dev : LcdDev) (x y len : UInt16) : Prop :=
  HlineDrawn dev x y len →
    x.toNat + len.toNat ≤ dev.width.toNat ∧ y < dev.height

def Hline.Fits (dev : LcdDev) (line : Hline) : Prop :=
  HlineFits dev (UInt16.ofInt line.x) (UInt16.ofInt line.y)
    (UInt16.ofInt line.len)

section Lines

variable {dev : LcdDev}

theorem hlineRun_onPanel {x y len : UInt16} (drawn : HlineDrawn dev x y len)
    (color : UInt16) :
    (hlineRun x y len color).OnPanel dev ↔ HlineFits dev x y len := by
  have positive : 0 < len.toNat := by
    have other : len.toNat ≠ 0 := fun zero => drawn.1 (UInt16.toNat_inj.mp zero)
    omega
  have written : (hlineRun x y len color).colors ≠ [] :=
    List.ne_nil_of_length_pos (by rwa [hlineRun, List.length_replicate])
  rw [onPanel_iff written, hlineRun, List.length_replicate]
  exact ⟨fun fits _ => fits, fun fits => fits drawn⟩

theorem drawHlines_onPanel (lines : List Hline) (color : UInt16) :
    WritesOnPanel dev (drawHlines dev color lines) ↔
      ∀ line ∈ lines, line.Fits dev := by
  by_cases ends : ∀ line ∈ lines, ¬ line.Endless dev
  · rw [drawHlines_eq ends, writesOnPanel_runs]
    constructor
    · intro onPanel line member drawn
      exact (hlineRun_onPanel drawn color).mp
        (onPanel _ (mem_hlineRuns.mpr ⟨line, member, drawn, rfl⟩)) drawn
    · intro fits run member
      obtain ⟨line, inLines, drawn, rfl⟩ := mem_hlineRuns.mp member
      exact (hlineRun_onPanel drawn color).mpr (fits line inLines)
  · simp only [not_forall, not_not] at ends
    obtain ⟨line, member, endless⟩ := ends
    rw [drawHlines_endless member endless]
    refine iff_of_false not_writesOnPanel_none fun fits => ?_
    have bottom := UInt16.lt_iff_toNat_lt.mp (fits line member endless.1).2
    have := endless.2
    have := dev.height.toNat_lt
    omega

theorem lcdDrawHline_onPanel (x y len color : UInt16) :
    WritesOnPanel dev (lcdDrawHline dev x y len color) ↔
      HlineFits dev x y len := by
  by_cases drawn : HlineDrawn dev x y len
  · by_cases last : y.toNat = 65535
    · rw [lcdDrawHline_endless drawn last]
      refine iff_of_false not_writesOnPanel_none fun fits => ?_
      have bottom := UInt16.lt_iff_toNat_lt.mp (fits drawn).2
      have := dev.height.toNat_lt
      omega
    · have := y.toNat_lt
      rw [lcdDrawHline_drawn drawn (by omega), writesOnPanel_runs,
        List.forall_mem_singleton]
      exact hlineRun_onPanel drawn color
  · rw [lcdDrawHline_dropped drawn]
    exact iff_of_true ⟨[], rfl, List.forall_mem_nil _⟩ fun shown =>
      absurd shown drawn

end Lines

def DiscFits (dev : LcdDev) (x y r : UInt16) : Prop :=
  ∀ row half, DiscRow r.toNat row half →
    ∀ line ∈ runLines x.toNat y.toNat row half, line.Fits dev

theorem lcdFillCircle_onPanel {dev : LcdDev} {x y : UInt16} (r color : UInt16) :
    WritesOnPanel dev (lcdFillCircle dev x y r color) ↔ DiscFits dev x y r :=
  (drawHlines_onPanel _ color).trans
    (forall_discLines_iff fun _ empty drawn => absurd empty drawn.1)

/-! Characters. -/

def CharStyle.runs (style : CharStyle) (visit : Visit) : List PixelRun :=
  if visit.temp &&& 0x80 ≠ 0 then
    [pointRun visit.x visit.y style.color.toUInt16]
  else if style.mode = 0 then
    [pointRun visit.x visit.y style.gBackColor.toUInt16]
  else []

def Cell.OnPanel (dev : LcdDev) (cell : Cell) : Prop :=
  cell.x < dev.width ∧ cell.y < dev.height

section Visits

variable {dev : LcdDev}

theorem draw_eq_runs (style : CharStyle) (visit : Visit) :
    style.draw dev visit = paintRuns dev (style.runs visit) := by
  unfold CharStyle.draw CharStyle.runs
  split_ifs
  · exact lcdDrawPoint_eq_paintRuns dev _ _ _
  · exact lcdDrawPoint_eq_paintRuns dev _ _ _
  · rfl

theorem draws_eq_runs (style : CharStyle) (visits : List Visit) :
    visits.flatMap (style.draw dev) =
      paintRuns dev (visits.flatMap style.runs) := by
  induction visits with
  | nil => rfl
  | cons visit rest ih =>
      rw [List.flatMap_cons, List.flatMap_cons, paintRuns_append, ih,
        draw_eq_runs]

theorem runs_onPanel (style : CharStyle) (visit : Visit) :
    (∀ run ∈ style.runs visit, run.OnPanel dev) ↔
      (visit.cell.set = true ∨ style.mode = 0 → visit.cell.OnPanel dev) := by
  have point : ∀ color, (∀ run ∈ [pointRun visit.x visit.y color],
      run.OnPanel dev) ↔ visit.cell.OnPanel dev := by
    intro color
    rw [List.forall_mem_singleton]
    exact pointRun_onPanel
  have set : visit.cell.set = true ↔ visit.temp &&& 0x80 ≠ 0 :=
    decide_eq_true_iff
  unfold CharStyle.runs
  rw [set]
  split_ifs with bit background
  · rw [point]
    exact ⟨fun onPanel _ => onPanel, fun onPanel => onPanel (Or.inl bit)⟩
  · rw [point]
    exact ⟨fun onPanel _ => onPanel, fun onPanel => onPanel (Or.inr background)⟩
  · exact iff_of_true (List.forall_mem_nil _) fun drawn =>
      absurd drawn (not_or.mpr ⟨bit, background⟩)

theorem visits_onPanel (style : CharStyle) (visits : List Visit) :
    WritesOnPanel dev (some (visits.flatMap (style.draw dev))) ↔
      ∀ cell ∈ visits.map Visit.cell,
        cell.set = true ∨ style.mode = 0 → cell.OnPanel dev := by
  rw [draws_eq_runs, writesOnPanel_runs]
  simp only [List.forall_mem_flatMap, List.forall_mem_map, runs_onPanel]

end Visits

/-- How many of the first positions of a character are beside the panel. -/
def offPanelCount (dev : LcdDev) (x y : UInt16) (size : UInt8) : Nat :=
  if x < dev.width then
    if y < dev.height then 0 else 1
  else if y < dev.height then
    min size.toNat (dev.height.toNat - y.toNat)
  else if y = 65535 then
    min (8 * (charSize size).toNat) (dev.height.toNat + 1)
  else 1

def glyphBytes (font : UInt8 → UInt8 → Nat → UInt8) (chr size : UInt8) :
    List UInt8 :=
  (List.range (charSize size).toNat).map (font size (chr - 32))

/-- None of the positions beside the panel has a color. -/
def CharFits (dev : LcdDev) (font : UInt8 → UInt8 → Nat → UInt8)
    (x y : UInt16) (chr size mode : UInt8) : Prop :=
  IsCharSize size → ∀ j < offPanelCount dev x y size, mode ≠ 0 ∧
    topBit (font size (chr - 32) (j / 8)) (j % 8) = false

section Char

variable {dev : LcdDev} {style : CharStyle}

/-- Above its first row a column never ends. -/
theorem showBytes_wrapped (last : style.y0 = 65535) (size : 8 ≤ style.size.toNat)
    {x y : UInt16} {pfont : List UInt8} (inside : y.toNat < dev.height.toNat) :
    (style.showBytes dev pfont x y).map Visit.cell =
      columnCells pfont x y
        (min (8 * pfont.length) (dev.height.toNat - y.toNat)) := by
  have height := dev.height.toNat_lt
  have start : style.y0.toNat = 65535 := by rw [last]; rfl
  induction pfont generalizing y with
  | nil => simp [CharStyle.showBytes, columnCells]
  | cons temp pfont ih =>
      obtain ⟨left, remaining⟩ : ∃ left, y.toNat + left =
          style.y0.toNat + style.size.toNat :=
        ⟨style.y0.toNat + style.size.toNat - y.toNat, by omega⟩
      obtain ⟨cells, leaves⟩ := showByte_cells (le_refl 8) temp inside remaining
        (by omega) (x := x)
      rw [CharStyle.showBytes, columnCells_cons, List.length_cons, leaves]
      by_cases bottom : dev.height.toNat - y.toNat ≤ min 8 left
      · have all : min (8 * (pfont.length + 1)) (dev.height.toNat - y.toNat) - 8 =
            0 := by omega
        have rows : min 8 (min left (dev.height.toNat - y.toNat)) =
            min 8 (min (8 * (pfont.length + 1))
              (dev.height.toNat - y.toNat)) := by omega
        rw [if_pos bottom, all, cells, rows]
        simp [columnCells]
      · have down : (y + UInt16.ofNat 8).toNat = y.toNat + 8 := by
          simp only [UInt16.toNat_add, UInt16.toNat_ofNat']
          omega
        have rows : min 8 (min left (dev.height.toNat - y.toNat)) =
            min 8 (min (8 * (pfont.length + 1))
              (dev.height.toNat - y.toNat)) := by omega
        have later : min (8 * pfont.length)
              (dev.height.toNat - (y + UInt16.ofNat 8).toNat) =
            min (8 * (pfont.length + 1)) (dev.height.toNat - y.toNat) - 8 := by
          omega
        rw [if_neg bottom, if_neg (by omega : ¬ left ≤ 8), List.map_append, cells,
          ih (by omega), rows, later]

/-- After the last row of all the loop is above the screen. -/
theorem showByte_last (last : style.y0 = 65535)
    (screen : 0 < dev.height.toNat) (x : UInt16) (temp : UInt8) :
    style.showByte dev 8 temp x 65535 =
      (⟨x, 65535, temp⟩ :: (style.showByte dev 7 (temp <<< 1) x 0).1,
        (style.showByte dev 7 (temp <<< 1) x 0).2) := by
  have above : ¬ (65535 + 1 : UInt16) ≥ dev.height := by
    rw [ge_iff_le, UInt16.le_iff_toNat_le]
    exact Nat.not_le.mpr screen
  have inColumn : ¬ (((65535 + 1 : UInt16).toNat : ℤ) - style.y0.toNat =
      style.size.toNat) := by
    rw [last]
    change ¬ ((0 : ℤ) - (65535 : ℕ) = _)
    omega
  exact showByte_more above inColumn 7 temp

theorem showByte_last_cells (last : style.y0 = 65535)
    (size : 8 ≤ style.size.toNat) (screen : 0 < dev.height.toNat) (x : UInt16)
    (temp : UInt8) :
    (style.showByte dev 8 temp x 65535).1.map Visit.cell =
        (List.range (min 8 (dev.height.toNat + 1))).map
          (fun r => ⟨x, 65535 + UInt16.ofNat r, topBit temp r⟩) ∧
      (style.showByte dev 8 temp x 65535).2 =
        if dev.height.toNat ≤ 7 then none else some (x, 7) := by
  have height := dev.height.toNat_lt
  have start : style.y0.toNat = 65535 := by rw [last]; rfl
  have first : (0 : UInt16).toNat = 0 := rfl
  obtain ⟨cells, leaves⟩ := showByte_cells (by decide : 7 ≤ 8) (temp <<< 1)
    (by rw [first]; exact screen)
    (by rw [start, first]; exact Nat.zero_add _ :
      (0 : UInt16).toNat + (65535 + style.size.toNat) = _)
    (by omega) (x := x)
  rw [showByte_last last screen]
  constructor
  · have rows : min 8 (dev.height.toNat + 1) =
        min 7 (min (65535 + style.size.toNat)
          (dev.height.toNat - (0 : UInt16).toNat)) + 1 := by
      rw [first]
      omega
    rw [rows, List.range_succ_eq_map, List.map_cons, List.map_cons,
      List.map_map, cells]
    refine List.cons_eq_cons.mpr ⟨?_, List.map_congr_left fun r inRange => ?_⟩
    · rw [topBit_zero]
      rfl
    · rw [List.mem_range] at inRange
      rw [topBit_shiftLeft temp (by omega)]
      exact congrArg (fun row => Cell.mk x row _)
        (Data.Word.succ_add_ofNat 65535 r)
  · dsimp only
    rw [leaves, first, if_neg (by omega : ¬ 65535 + style.size.toNat ≤ 7),
      Nat.min_eq_left (by omega)]
    rfl

/-- A character that begins in the last row of all goes on above the screen. -/
theorem showBytes_last (last : style.y0 = 65535) (size : 8 ≤ style.size.toNat)
    (screen : 0 < dev.height.toNat) (x : UInt16) (temp : UInt8)
    (pfont : List UInt8) :
    (style.showBytes dev (temp :: pfont) x 65535).map Visit.cell =
      columnCells (temp :: pfont) x 65535
        (min (8 * (pfont.length + 1)) (dev.height.toNat + 1)) := by
  obtain ⟨cells, leaves⟩ := showByte_last_cells last size screen x temp
  have rows : min 8 (min (8 * (pfont.length + 1)) (dev.height.toNat + 1)) =
      min 8 (dev.height.toNat + 1) := by omega
  rw [CharStyle.showBytes, leaves, columnCells_cons, rows, ← cells]
  by_cases bottom : dev.height.toNat ≤ 7
  · have all : min (8 * (pfont.length + 1)) (dev.height.toNat + 1) - 8 = 0 := by
      omega
    rw [if_pos bottom, all]
    simp [columnCells]
  · have seventh : (7 : UInt16).toNat = 7 := rfl
    have later : min (8 * pfont.length) (dev.height.toNat - 7) =
        min (8 * (pfont.length + 1)) (dev.height.toNat + 1) - 8 := by omega
    rw [if_neg bottom]
    dsimp only
    rw [List.map_append, showBytes_wrapped last size (by rw [seventh]; omega),
      seventh, later]
    rfl

/-- Otherwise below the screen there is one position. -/
theorem showBytes_below (temp : UInt8) (pfont : List UInt8) (x y : UInt16)
    (below : y + 1 ≥ dev.height) :
    style.showBytes dev (temp :: pfont) x y = [⟨x, y, temp⟩] := by
  rw [CharStyle.showBytes, showByte_bottom below]

end Char

section Cells

variable {dev : LcdDev} {font : UInt8 → UInt8 → Nat → UInt8} {x y : UInt16}
  {chr size : UInt8}

theorem size_bounds (supported : IsCharSize size) :
    8 ≤ size.toNat ∧ size.toNat ≤ 8 * (charSize size).toNat := by
  rcases supported with rfl | rfl | rfl | rfl
  all_goals decide

theorem glyphBytes_length (font : UInt8 → UInt8 → Nat → UInt8)
    (chr size : UInt8) :
    (glyphBytes font chr size).length = (charSize size).toNat := by
  rw [glyphBytes, List.length_map, List.length_range]

theorem exists_glyphBytes (font : UInt8 → UInt8 → Nat → UInt8) (chr : UInt8)
    (supported : IsCharSize size) :
    ∃ temp pfont, glyphBytes font chr size = temp :: pfont := by
  apply List.exists_cons_of_length_pos
  have := size_bounds supported
  rw [glyphBytes_length]
  omega

theorem columnCells_column {pfont : List UInt8} {count : Nat} {cell : Cell}
    (member : cell ∈ columnCells pfont x y count) : cell.x = x := by
  obtain ⟨r, -, rfl⟩ := mem_columnCells.mp member
  rfl

theorem columnCells_split {pfont : List UInt8} {first count : Nat}
    (part : first ≤ count) :
    columnCells pfont x y count = columnCells pfont x y first ++
      (List.range (count - first)).map fun r =>
        ⟨x, y + UInt16.ofNat (first + r),
          topBit (pfont.getD ((first + r) / 8) 0) ((first + r) % 8)⟩ := by
  obtain ⟨more, rfl⟩ := Nat.exists_eq_add_of_le part
  rw [Nat.add_sub_cancel_left, columnCells, List.range_add, List.map_append,
    List.map_map]
  rfl

/-- What begins on the panel stays there. -/
theorem glyphCells_onPanel (onScreen : x < dev.width) {rows : Nat}
    {columns : List (List UInt8)} :
    ∀ cell ∈ glyphCells dev y rows columns x, cell.OnPanel dev := by
  have width := dev.width.toNat_lt
  have height := dev.height.toNat_lt
  have inside := UInt16.lt_iff_toNat_lt.mp onScreen
  intro cell member
  obtain ⟨c, -, r, -, row, begun, rfl⟩ := (mem_glyphCells onScreen).mp member
  constructor
  · rw [UInt16.lt_iff_toNat_lt]
    simp only [UInt16.toNat_add, UInt16.toNat_ofNat']
    omega
  · rw [UInt16.lt_iff_toNat_lt]
    simp only [UInt16.toNat_add, UInt16.toNat_ofNat']
    omega

theorem firstColumn_cells (font : UInt8 → UInt8 → Nat → UInt8)
    (x y : UInt16) (chr : UInt8) (supported : IsCharSize size) {count : Nat}
    (inColumn : count ≤ size.toNat) :
    (∃ rest, glyphColumns font chr size =
        (glyphBytes font chr size).take (columnBytes size) :: rest) ∧
      columnCells ((glyphBytes font chr size).take (columnBytes size)) x y
        count = columnCells (glyphBytes font chr size) x y count := by
  obtain ⟨-, bytes, columns⟩ := columnBytes_cut supported
  obtain ⟨more, half⟩ : ∃ more, size.toNat / 2 = more + 1 :=
    ⟨size.toNat / 2 - 1, by omega⟩
  have whole : columnBytes size ≤ (charSize size).toNat := by
    rw [bytes, half, Nat.succ_mul]
    omega
  constructor
  · have first : (glyphBytes font chr size).take (columnBytes size) =
        (List.range (columnBytes size)).map fun k =>
          font size (chr - 32) (0 * columnBytes size + k) := by
      rw [glyphBytes, ← List.map_take, List.take_range, Nat.min_eq_left whole]
      simp only [Nat.zero_mul, Nat.zero_add]
    rw [glyphColumns, half, List.range_succ_eq_map, List.map_cons, ← first]
    exact ⟨_, rfl⟩
  · refine List.map_congr_left fun r inRange => ?_
    rw [List.mem_range] at inRange
    have byte : r / 8 < columnBytes size := by
      unfold columnBytes
      omega
    rw [List.getD_eq_getElem?_getD, List.getD_eq_getElem?_getD,
      List.getElem?_take_of_lt byte]

theorem offPanelCount_below (row : ¬ y < dev.height)
    (below : y + 1 ≥ dev.height) (some_bytes : 0 < (charSize size).toNat) :
    offPanelCount dev x y size = 1 := by
  rw [offPanelCount, if_neg row, if_neg row]
  split_ifs with column last
  · rfl
  · have none : dev.height.toNat ≤ 0 := by
      rw [last] at below
      exact UInt16.le_iff_toNat_le.mp below
    omega
  · rfl

theorem last_row_of_not_below (row : ¬ y < dev.height)
    (above : ¬ y + 1 ≥ dev.height) : y = 65535 ∧ 0 < dev.height.toNat := by
  rw [UInt16.lt_iff_toNat_lt] at row
  rw [ge_iff_le, UInt16.le_iff_toNat_le, UInt16.toNat_add,
    UInt16.toNat_one] at above
  have bound := y.toNat_lt
  have last : y.toNat = 65535 := by omega
  exact ⟨UInt16.toNat_inj.mp last, by omega⟩

/-- The cells are those given, which are beside the panel, and then others,
which are on it. -/
def BesideFirst (dev : LcdDev) (beside cells : List Cell) : Prop :=
  ∃ others, cells = beside ++ others ∧
    (∀ cell ∈ beside, ¬ cell.OnPanel dev) ∧ ∀ cell ∈ others, cell.OnPanel dev

theorem besideFirst_onRow (font : UInt8 → UInt8 → Nat → UInt8) (chr : UInt8)
    (supported : IsCharSize size) (row : y < dev.height) :
    BesideFirst dev
      (columnCells (glyphBytes font chr size) x y (offPanelCount dev x y size))
      (glyphCells dev y size.toNat (glyphColumns font chr size) x) := by
  by_cases column : x < dev.width
  · rw [offPanelCount, if_pos column, if_pos row]
    refine ⟨_, rfl, ?_, glyphCells_onPanel column⟩
    intro cell member
    cases member
  · obtain ⟨⟨rest, columns⟩, same⟩ := firstColumn_cells font x y chr supported
      (Nat.min_le_left size.toNat (dev.height.toNat - y.toNat))
    rw [offPanelCount, if_neg column, if_pos row, columns, glyphCells, same]
    refine ⟨_, rfl, ?_, ?_⟩
    · intro cell member onPanel
      exact column (columnCells_column member ▸ onPanel.1)
    · intro cell member
      split_ifs at member with ended
      · cases member
      · rw [not_or, ge_iff_le, UInt16.not_le] at ended
        exact glyphCells_onPanel ended.2 cell member

theorem besideFirst_below {style : CharStyle} (row : ¬ y < dev.height)
    (below : y + 1 ≥ dev.height) (some_bytes : 0 < (charSize size).toNat)
    (temp : UInt8) (pfont : List UInt8) :
    BesideFirst dev
      (columnCells (temp :: pfont) x y (offPanelCount dev x y size))
      ((style.showBytes dev (temp :: pfont) x y).map Visit.cell) := by
  rw [offPanelCount_below row below some_bytes,
    showBytes_below temp pfont x y below]
  refine ⟨[], ?_, ?_, List.forall_mem_nil _⟩
  · exact congrArg (fun cell => [cell]) (visit_cell x y temp)
  · intro cell member onPanel
    obtain rfl := List.mem_singleton.mp member
    exact row ((UInt16.add_zero y) ▸ onPanel.2)

/-- From the last row of all, the first position alone is below the screen. -/
theorem besideFirst_last {style : CharStyle} {temp : UInt8}
    {pfont : List UInt8} (last : style.y0 = 65535)
    (tall : 8 ≤ style.size.toNat) (row : ¬ (65535 : UInt16) < dev.height)
    (screen : 0 < dev.height.toNat)
    (length : pfont.length + 1 = (charSize size).toNat) :
    BesideFirst dev
      (columnCells (temp :: pfont) x 65535 (offPanelCount dev x 65535 size))
      ((style.showBytes dev (temp :: pfont) x 65535).map Visit.cell) := by
  rw [showBytes_last last tall screen, offPanelCount, if_neg row, if_neg row,
    if_pos rfl, length]
  by_cases column : x < dev.width
  · rw [if_pos column, columnCells_split (by omega : 1 ≤ min
      (8 * (charSize size).toNat) (dev.height.toNat + 1))]
    refine ⟨_, rfl, ?_, ?_⟩
    · intro cell member onPanel
      obtain ⟨r, first, rfl⟩ := mem_columnCells.mp member
      obtain rfl : r = 0 := by omega
      exact row onPanel.2
    · intro cell member
      obtain ⟨r, inRange, rfl⟩ := List.mem_map.mp member
      rw [List.mem_range] at inRange
      have height := dev.height.toNat_lt
      refine ⟨column, ?_⟩
      rw [UInt16.lt_iff_toNat_lt]
      simp only [UInt16.toNat_add, UInt16.toNat_ofNat', UInt16.reduceToNat]
      omega
  · rw [if_neg column]
    refine ⟨[], (List.append_nil _).symm, ?_, List.forall_mem_nil _⟩
    intro cell member onPanel
    exact column (columnCells_column member ▸ onPanel.1)

theorem charVisits_besideFirst (dev : LcdDev)
    (font : UInt8 → UInt8 → Nat → UInt8) (x y : UInt16) (chr : UInt8)
    (supported : IsCharSize size) (mode : UInt8) (color gBackColor : UInt32) :
    BesideFirst dev
      (columnCells (glyphBytes font chr size) x y (offPanelCount dev x y size))
      ((charVisits dev font ⟨y, size, mode, color, gBackColor⟩ x chr).map
        Visit.cell) := by
  have positive := size_bounds supported
  have some_bytes : 0 < (charSize size).toNat := by omega
  by_cases row : y < dev.height
  · rw [charVisits_cells supported row]
    exact besideFirst_onRow font chr supported row
  · obtain ⟨temp, pfont, bytes⟩ := exists_glyphBytes font chr supported
    have shown : charVisits dev font ⟨y, size, mode, color, gBackColor⟩ x chr =
        CharStyle.showBytes ⟨y, size, mode, color, gBackColor⟩ dev
          (temp :: pfont) x y := by
      rw [charVisits, if_pos supported, ← bytes]
      rfl
    rw [shown, bytes]
    by_cases below : y + 1 ≥ dev.height
    · exact besideFirst_below row below some_bytes temp pfont
    · obtain ⟨rfl, screen⟩ := last_row_of_not_below row below
      have length : pfont.length + 1 = (charSize size).toNat := by
        rw [← glyphBytes_length font chr size, bytes, List.length_cons]
      exact besideFirst_last rfl positive.1 row screen length

theorem offPanelCount_le (dev : LcdDev) (x y : UInt16)
    (supported : IsCharSize size) :
    offPanelCount dev x y size ≤ 8 * (charSize size).toNat := by
  have positive := size_bounds supported
  unfold offPanelCount
  split_ifs
  all_goals omega

theorem lcdShowChar_onPanel (font : UInt8 → UInt8 → Nat → UInt8)
    (gBackColor : UInt32) (x y : UInt16) (chr size mode : UInt8)
    (color : UInt16) :
    WritesOnPanel dev
        (some (lcdShowChar dev font gBackColor x y chr size mode color)) ↔
      CharFits dev font x y chr size mode := by
  rw [lcdShowChar, visits_onPanel]
  by_cases supported : IsCharSize size
  · obtain ⟨others, cells, beside, onPanel⟩ := charVisits_besideFirst dev font
      x y chr supported mode color.toUInt32 gBackColor
    have bit : ∀ j < offPanelCount dev x y size,
        (glyphBytes font chr size).getD (j / 8) 0 =
          font size (chr - 32) (j / 8) := by
      intro j inRange
      have := offPanelCount_le dev x y supported
      simp [glyphBytes, (by omega : j / 8 < (charSize size).toNat)]
    rw [cells]
    constructor
    · intro drawn _ j inRange
      have member : (⟨x, y + UInt16.ofNat j,
          topBit ((glyphBytes font chr size).getD (j / 8) 0) (j % 8)⟩ : Cell) ∈
            columnCells (glyphBytes font chr size) x y
              (offPanelCount dev x y size) :=
        mem_columnCells.mpr ⟨j, inRange, rfl⟩
      have clear := mt (drawn _ (List.mem_append_left others member))
        (beside _ member)
      rw [not_or, bit j inRange, Bool.not_eq_true] at clear
      exact ⟨clear.2, clear.1⟩
    · intro fits cell member drawn
      rcases List.mem_append.mp member with first | later
      · obtain ⟨j, inRange, rfl⟩ := mem_columnCells.mp first
        obtain ⟨overlay, clear⟩ := fits supported j inRange
        rw [bit j inRange, clear] at drawn
        exact absurd drawn (not_or.mpr ⟨Bool.false_ne_true, overlay⟩)
      · exact onPanel cell later
  · rw [charVisits, if_neg supported]
    exact iff_of_true (List.forall_mem_nil _) fun other => absurd other supported

end Cells

/-! Strings. -/

/-- Each character begins on the panel, up to the first below the box. -/
def TextFits (dev : LcdDev) (x y width height : UInt16) (size : UInt8)
    (p : List UInt8) : Prop :=
  IsCharSize size → ∀ i < (printed p).length,
    (∀ j ≤ i, (textPlace x y width size j).2 < height + y) →
      (textPlace x y width size i).1 < dev.width ∧
        (textPlace x y width size i).2 < dev.height

section Strings

variable {dev : LcdDev}

theorem isRuns_messages (font : UInt8 → UInt8 → Nat → UInt8)
    (gBackColor : UInt32) (call : CharCall) :
    IsRuns dev (call.messages dev font gBackColor) :=
  lcdShowChar_isRuns dev font gBackColor _ _ _ _ _ _

theorem writesOnPanel_flatMap {Item : Type} {f : Item → List BusMsg}
    (each : ∀ item, IsRuns dev (f item)) (items : List Item) :
    WritesOnPanel dev (some (items.flatMap f)) ↔
      ∀ item ∈ items, WritesOnPanel dev (some (f item)) := by
  choose runs same using each
  have whole : items.flatMap f = paintRuns dev (items.flatMap runs) := by
    induction items with
    | nil => rfl
    | cons item rest ih =>
        rw [List.flatMap_cons, List.flatMap_cons, paintRuns_append, ih, same]
  rw [whole, writesOnPanel_runs, List.forall_mem_flatMap]
  simp only [same, writesOnPanel_runs]

theorem charFits_mode_zero {font : UInt8 → UInt8 → Nat → UInt8} {x y : UInt16}
    {chr size : UInt8} (supported : IsCharSize size) :
    CharFits dev font x y chr size 0 ↔ x < dev.width ∧ y < dev.height := by
  have none : offPanelCount dev x y size = 0 ↔
      x < dev.width ∧ y < dev.height := by
    have positive := size_bounds supported
    unfold offPanelCount
    split_ifs with column row row last
    · exact iff_of_true rfl ⟨column, row⟩
    · exact iff_of_false not_false fun onPanel => row onPanel.2
    · have inside := UInt16.lt_iff_toNat_lt.mp row
      exact iff_of_false (by omega) fun onPanel => column onPanel.1
    · exact iff_of_false (by omega) fun onPanel => column onPanel.1
    · exact iff_of_false not_false fun onPanel => column onPanel.1
  rw [← none]
  constructor
  · intro fits
    by_contra some_beside
    exact (fits supported 0 (Nat.pos_of_ne_zero some_beside)).1 rfl
  · intro zero _ j inRange
    rw [zero] at inRange
    cases inRange

theorem lcdShowString_onPanel (font : UInt8 → UInt8 → Nat → UInt8)
    (gBackColor : UInt32) (x y width height : UInt16) (size : UInt8)
    (p : List UInt8) (color : UInt16) :
    WritesOnPanel dev
        (some ((lcdShowString x y width height size p color).flatMap
          (CharCall.messages dev font gBackColor))) ↔
      TextFits dev x y width height size p := by
  rw [writesOnPanel_flatMap (isRuns_messages font gBackColor)]
  by_cases supported : IsCharSize size
  · simp only [mem_lcdShowString supported]
    constructor
    · intro onPanel _ i inString inBox
      obtain ⟨chr, shown⟩ : ∃ chr, (printed p)[i]? = some chr :=
        ⟨_, List.getElem?_eq_getElem inString⟩
      exact (charFits_mode_zero supported).mp ((lcdShowChar_onPanel ..).mp
        (onPanel _ ⟨i, chr, shown, inBox, rfl⟩))
    · rintro fits call ⟨i, chr, shown, inBox, rfl⟩
      obtain ⟨inString, -⟩ := List.getElem?_eq_some_iff.mp shown
      exact (lcdShowChar_onPanel ..).mpr ((charFits_mode_zero supported).mpr
        (fits supported i inString inBox))
  · refine iff_of_true ?_ fun other => absurd other supported
    intro call member
    obtain ⟨_, _, -, -, rfl⟩ := mem_show.mp member
    exact (lcdShowChar_onPanel ..).mpr fun other => absurd other supported

end Strings

/-- The four primitives that test their coordinates, and when they keep to the
panel. -/
theorem guarded_onPanel_iff (dev : LcdDev)
    (font : UInt8 → UInt8 → Nat → UInt8) (gBackColor : UInt32)
    (color : UInt16) :
    (∀ x y len, WritesOnPanel dev (lcdDrawHline dev x y len color) ↔
      HlineFits dev x y len) ∧
    (∀ x y r, WritesOnPanel dev (lcdFillCircle dev x y r color) ↔
      DiscFits dev x y r) ∧
    (∀ x y chr size mode,
      WritesOnPanel dev
          (some (lcdShowChar dev font gBackColor x y chr size mode color)) ↔
        CharFits dev font x y chr size mode) ∧
    ∀ x y width height size p,
      WritesOnPanel dev
          (some ((lcdShowString x y width height size p color).flatMap
            (CharCall.messages dev font gBackColor))) ↔
        TextFits dev x y width height size p :=
  ⟨fun x y len => lcdDrawHline_onPanel x y len color,
    fun _ _ r => lcdFillCircle_onPanel r color,
    fun x y chr size mode =>
      lcdShowChar_onPanel font gBackColor x y chr size mode color,
    fun x y width height size p =>
      lcdShowString_onPanel font gBackColor x y width height size p color⟩

/-- A line past the right edge is drawn to its end, and a character right of
the panel has its first column. -/
theorem guarded_beside_panel :
    ¬ WritesOnPanel ili9341Dev (lcdDrawHline ili9341Dev 230 10 20 0xF800) ∧
      ¬ WritesOnPanel ili9341Dev
        (some (lcdShowChar ili9341Dev (fun _ _ _ => 0x3C) 0xFFFF 240 0 65 16 0
          0xF800)) := by
  rw [lcdDrawHline_onPanel, lcdShowChar_onPanel]
  constructor
  · intro fits
    exact absurd (fits (by decide)) (by decide)
  · intro fits
    exact absurd ((charFits_mode_zero (by decide)).mp fits).1 (by decide)

end Ch32v307.Lcd
