import Ch32v307.Lcd.Points

namespace Ch32v307.Lcd

/-! The characters themselves: the cells a call draws against the cells of the
glyph. -/

/-! Bits of a byte, most significant first. -/

def topBit (temp : UInt8) (j : Nat) : Bool := temp.toNat.testBit (7 - j)

theorem topBit_zero (temp : UInt8) :
    topBit temp 0 = decide (temp &&& 0x80 ≠ 0) := by
  have mask : (temp &&& 0x80).toNat = (temp.toNat.testBit 7).toNat * 2 ^ 7 :=
    (UInt8.toNat_and temp 0x80).trans (Nat.and_two_pow temp.toNat 7)
  have zero : temp &&& 0x80 = 0 ↔ (temp &&& 0x80).toNat = 0 :=
    UInt8.toNat_inj.symm
  rw [Bool.eq_iff_iff, decide_eq_true_iff, ne_eq, zero, mask, topBit]
  cases temp.toNat.testBit 7 with
  | false => simp
  | true => simp

theorem topBit_shiftLeft (temp : UInt8) {j : Nat} (inByte : j < 7) :
    topBit (temp <<< 1) j = topBit temp (j + 1) := by
  have shifted : (temp <<< 1).toNat = temp.toNat <<< 1 % 2 ^ 8 :=
    UInt8.toNat_shiftLeft temp 1
  have place : 7 - j = 7 - (j + 1) + 1 := by omega
  have low : 7 - (j + 1) + 1 < 8 := by omega
  rw [topBit, topBit, shifted, Nat.testBit_mod_two_pow, place,
    Nat.testBit_shiftLeft, decide_eq_true low,
    decide_eq_true (Nat.le_add_left 1 _), Nat.add_sub_cancel]
  rfl

/-! Cells. -/

structure Cell where
  x : UInt16
  y : UInt16
  set : Bool
  deriving DecidableEq, Repr

def Visit.cell (visit : Visit) : Cell :=
  ⟨visit.x, visit.y, decide (visit.temp &&& 0x80 ≠ 0)⟩

theorem visit_cell (x y : UInt16) (temp : UInt8) :
    Visit.cell ⟨x, y, temp⟩ = ⟨x, y + UInt16.ofNat 0, topBit temp 0⟩ := by
  rw [topBit_zero]
  exact congrArg (fun row => Cell.mk x row _) (UInt16.add_zero y).symm

/-- The cells of one column from a row on, by the bytes that are left of it. -/
def columnCells (pfont : List UInt8) (x y : UInt16) (count : Nat) :
    List Cell :=
  (List.range count).map fun r =>
    ⟨x, y + UInt16.ofNat r, topBit (pfont.getD (r / 8) 0) (r % 8)⟩

section Column

variable {dev : LcdDev} {style : CharStyle}

/-- A byte shows as many cells as it has bits, unless the bottom of the screen
or the end of the column comes first. -/
theorem showByte_cells {bits : Nat} (inByte : bits ≤ 8) (temp : UInt8)
    {x y : UInt16} {left : Nat} (onScreen : y.toNat < dev.height.toNat)
    (remaining : y.toNat + left = style.y0.toNat + style.size.toNat)
    (more : 0 < left) :
    (style.showByte dev bits temp x y).1.map Visit.cell =
        (List.range (min bits (min left (dev.height.toNat - y.toNat)))).map
          (fun r => ⟨x, y + UInt16.ofNat r, topBit temp r⟩) ∧
      (style.showByte dev bits temp x y).2 =
        if dev.height.toNat - y.toNat ≤ min bits left then none
        else if left ≤ bits then
          if x + 1 ≥ dev.width then none else some (x + 1, style.y0)
        else some (x, y + UInt16.ofNat bits) := by
  have height := dev.height.toNat_lt
  induction bits generalizing temp y left with
  | zero =>
      have inside : ¬ dev.height.toNat - y.toNat ≤ min 0 left := by omega
      have unfinished : ¬ left ≤ 0 := by omega
      rw [CharStyle.showByte, Nat.zero_min, if_neg inside, if_neg unfinished]
      exact ⟨rfl, congrArg (fun row => some (x, row)) (UInt16.add_zero y).symm⟩
  | succ bits ih =>
      have down : (y + 1).toNat = y.toNat + 1 := Data.Word.toNat_succ (by omega)
      have here := visit_cell x y temp
      by_cases bottom : y + 1 ≥ dev.height
      · have last := UInt16.le_iff_toNat_le.mp bottom
        have one : min (bits + 1) (min left (dev.height.toNat - y.toNat)) =
            1 := by omega
        have reached : dev.height.toNat - y.toNat ≤ min (bits + 1) left := by
          omega
        rw [showByte_bottom bottom, one, if_pos reached]
        exact ⟨congrArg (fun cell => [cell]) here, rfl⟩
      · have above : ¬ dev.height.toNat ≤ (y + 1).toNat :=
          mt UInt16.le_iff_toNat_le.mpr bottom
        by_cases full : ((y + 1).toNat : ℤ) - style.y0.toNat =
            style.size.toNat
        · have one : min (bits + 1) (min left (dev.height.toNat - y.toNat)) =
              1 := by omega
          have inside : ¬ dev.height.toNat - y.toNat ≤ min (bits + 1) left := by
            omega
          rw [showByte_full bottom full, one, if_neg inside,
            if_pos (by omega : left ≤ bits + 1)]
          exact ⟨congrArg (fun cell => [cell]) here, rfl⟩
        · obtain ⟨cells, leaves⟩ := ih (by omega) (temp <<< 1)
            (by omega : (y + 1).toNat < dev.height.toNat)
            (by omega : (y + 1).toNat + (left - 1) = _) (by omega)
          have count : min (bits + 1) (min left (dev.height.toNat - y.toNat)) =
              min bits (min (left - 1)
                (dev.height.toNat - (y + 1).toNat)) + 1 := by omega
          rw [showByte_more bottom full, count]
          constructor
          · rw [List.map_cons, cells, List.range_succ_eq_map, List.map_cons,
              List.map_map, here]
            refine congrArg _ (List.map_congr_left fun r inRange => ?_)
            rw [List.mem_range] at inRange
            rw [topBit_shiftLeft temp (by omega), Data.Word.succ_add_ofNat]
            rfl
          · have reached : dev.height.toNat - (y + 1).toNat ≤
                  min bits (left - 1) ↔
                dev.height.toNat - y.toNat ≤ min (bits + 1) left := by omega
            have ended : left - 1 ≤ bits ↔ left ≤ bits + 1 := by omega
            rw [leaves, Data.Word.succ_add_ofNat]
            simp only [reached, ended]

theorem columnCells_cons (temp : UInt8) (pfont : List UInt8) (x y : UInt16)
    (count : Nat) :
    columnCells (temp :: pfont) x y count =
      (List.range (min 8 count)).map
          (fun r => ⟨x, y + UInt16.ofNat r, topBit temp r⟩) ++
        columnCells pfont x (y + UInt16.ofNat 8) (count - 8) := by
  have split : count = min 8 count + (count - 8) := by omega
  have first : ∀ r < min 8 count,
      (⟨x, y + UInt16.ofNat r, topBit ((temp :: pfont).getD (r / 8) 0) (r % 8)⟩ :
        Cell) = ⟨x, y + UInt16.ofNat r, topBit temp r⟩ := by
    intro r inByte
    rw [Nat.div_eq_of_lt (by omega : r < 8), Nat.mod_eq_of_lt (by omega : r < 8)]
    rfl
  have later : ∀ r < count - 8,
      (⟨x, y + UInt16.ofNat (min 8 count + r),
        topBit ((temp :: pfont).getD ((min 8 count + r) / 8) 0)
          ((min 8 count + r) % 8)⟩ : Cell) =
      ⟨x, y + UInt16.ofNat 8 + UInt16.ofNat r,
        topBit (pfont.getD (r / 8) 0) (r % 8)⟩ := by
    intro r beyond
    have byte : min 8 count = 8 := by omega
    have place : (8 + r) / 8 = r / 8 + 1 := by omega
    rw [byte, place, Nat.add_mod_left, UInt16.ofNat_add, UInt16.add_assoc]
    rfl
  rw [columnCells, columnCells, split, List.range_add, List.map_append,
    List.map_map, ← split]
  congr 1
  · exact List.map_congr_left fun r inRange => first r (List.mem_range.mp inRange)
  · exact List.map_congr_left fun r inRange => later r (List.mem_range.mp inRange)

/-- The bytes of a column show its cells down to the bottom of the screen. -/
theorem showBytes_column (rest : List UInt8) {pfont : List UInt8}
    {x y : UInt16} {left : Nat} (onScreen : y.toNat < dev.height.toNat)
    (remaining : y.toNat + left = style.y0.toNat + style.size.toNat)
    (more : 0 < left)
    (covered : left ≤ 8 * pfont.length)
    (needed : 8 * pfont.length < left + 8) :
    (style.showBytes dev (pfont ++ rest) x y).map Visit.cell =
      columnCells pfont x y (min left (dev.height.toNat - y.toNat)) ++
        if dev.height.toNat - y.toNat ≤ left ∨ x + 1 ≥ dev.width then []
        else (style.showBytes dev rest (x + 1) style.y0).map Visit.cell := by
  have height := dev.height.toNat_lt
  induction pfont generalizing y left with
  | nil =>
      rw [List.length_nil] at covered
      omega
  | cons temp pfont ih =>
      rw [List.length_cons] at covered needed
      obtain ⟨cells, leaves⟩ := showByte_cells (le_refl 8) temp onScreen
        remaining more (x := x)
      rw [List.cons_append, CharStyle.showBytes, columnCells_cons, leaves]
      by_cases bottom : dev.height.toNat - y.toNat ≤ min 8 left
      · have all : min left (dev.height.toNat - y.toNat) - 8 = 0 := by omega
        have reached : dev.height.toNat - y.toNat ≤ left := by omega
        rw [if_pos bottom, if_pos (Or.inl reached), all, cells]
        simp [columnCells]
      · rw [if_neg bottom]
        by_cases ended : left ≤ 8
        · -- The column ends in this byte, the last it has.
          have none_left : pfont = [] := List.eq_nil_of_length_eq_zero (by omega)
          have all : min left (dev.height.toNat - y.toNat) - 8 = 0 := by omega
          have inside : ¬ dev.height.toNat - y.toNat ≤ left := by omega
          rw [if_pos ended, all, none_left]
          by_cases right : x + 1 ≥ dev.width
          · rw [if_pos right, if_pos (Or.inr right), cells]
            simp [columnCells]
          · rw [if_neg right, if_neg (not_or.mpr ⟨inside, right⟩),
              List.map_append, cells]
            simp [columnCells]
        · have down : (y + UInt16.ofNat 8).toNat = y.toNat + 8 := by
            simp only [UInt16.toNat_add, UInt16.toNat_ofNat']
            omega
          have rows : min (left - 8)
                (dev.height.toNat - (y + UInt16.ofNat 8).toNat) =
              min left (dev.height.toNat - y.toNat) - 8 := by omega
          have reached : dev.height.toNat - (y + UInt16.ofNat 8).toNat ≤
              left - 8 ↔ dev.height.toNat - y.toNat ≤ left := by omega
          rw [if_neg ended, List.map_append, cells,
            ih (by omega) (by omega : _ + (left - 8) = _) (by omega) (by omega)
              (by omega), rows, List.append_assoc]
          simp only [reached]

/-! Column after column. -/

/-- The cells from a column on, by the bytes of the columns. -/
def glyphCells (dev : LcdDev) (y0 : UInt16) (size : Nat) :
    List (List UInt8) → UInt16 → List Cell
  | [], _ => []
  | pfont :: rest, x =>
      columnCells pfont x y0 (min size (dev.height.toNat - y0.toNat)) ++
        if dev.height.toNat - y0.toNat ≤ size ∨ x + 1 ≥ dev.width then []
        else glyphCells dev y0 size rest (x + 1)

theorem showBytes_glyphCells {bytes : Nat} (cut : ColumnBytes style.size bytes)
    (onScreen : style.y0.toNat < dev.height.toNat)
    (positive : 0 < style.size.toNat) {columns : List (List UInt8)}
    (whole : ∀ column ∈ columns, column.length = bytes) (x : UInt16) :
    (style.showBytes dev columns.flatten x style.y0).map Visit.cell =
      glyphCells dev style.y0 style.size.toNat columns x := by
  induction columns generalizing x with
  | nil => rfl
  | cons column rest ih =>
      obtain ⟨begun, covered, -⟩ := cut
      obtain ⟨here, others⟩ := List.forall_mem_cons.mp whole
      rw [List.flatten_cons, showBytes_column rest.flatten onScreen rfl positive
        (by omega) (by omega), glyphCells, ih others]

section Cells

variable {y0 : UInt16} {size : Nat}

theorem mem_columnCells {pfont : List UInt8} {x y : UInt16} {count : Nat}
    {cell : Cell} :
    cell ∈ columnCells pfont x y count ↔
      ∃ r < count, cell = ⟨x, y + UInt16.ofNat r,
        topBit (pfont.getD (r / 8) 0) (r % 8)⟩ := by
  simp only [columnCells, List.mem_map, List.mem_range, eq_comm]

/-- Below the top row only the first column is begun when the glyph reaches
the bottom of the screen. -/
theorem mem_glyphCells {columns : List (List UInt8)} {x : UInt16}
    (onScreen : x < dev.width) {cell : Cell} :
    cell ∈ glyphCells dev y0 size columns x ↔
      ∃ c < columns.length, ∃ r < size, y0.toNat + r < dev.height.toNat ∧
        (c = 0 ∨ y0.toNat + size < dev.height.toNat ∧
          x.toNat + c < dev.width.toNat) ∧
        cell = ⟨x + UInt16.ofNat c, y0 + UInt16.ofNat r,
          topBit ((columns.getD c []).getD (r / 8) 0) (r % 8)⟩ := by
  have width := dev.width.toNat_lt
  induction columns generalizing x with
  | nil =>
      constructor
      · intro member
        cases member
      · rintro ⟨c, inColumns, -⟩
        cases inColumns
  | cons pfont rest ih =>
      have inside := UInt16.lt_iff_toNat_lt.mp onScreen
      have next : (x + 1).toNat = x.toNat + 1 := Data.Word.toNat_succ (by omega)
      have first : x + UInt16.ofNat 0 = x := UInt16.add_zero x
      rw [glyphCells, List.mem_append, mem_columnCells]
      constructor
      · rintro (⟨r, inRows, rfl⟩ | later)
        · refine ⟨0, Nat.succ_pos _, r, by omega, by omega, Or.inl rfl, ?_⟩
          rw [first]
          rfl
        · split_ifs at later with ended
          · cases later
          · rw [not_or, ge_iff_le, UInt16.not_le] at ended
            obtain ⟨below, more⟩ := ended
            obtain ⟨c, inColumns, r, inRows, row, begun, rfl⟩ :=
              (ih more).mp later
            rw [UInt16.lt_iff_toNat_lt, next] at more
            rw [next] at begun
            refine ⟨c + 1, Nat.succ_lt_succ inColumns, r, inRows, row,
              Or.inr (by omega), ?_⟩
            rw [Data.Word.succ_add_ofNat]
            rfl
      · rintro ⟨c, inColumns, r, inRows, row, begun, rfl⟩
        cases c with
        | zero =>
            left
            refine ⟨r, by omega, ?_⟩
            rw [first]
            rfl
        | succ c =>
            right
            have more : x + 1 < dev.width := by
              rw [UInt16.lt_iff_toNat_lt, next]
              omega
            have unended : ¬ (dev.height.toNat - y0.toNat ≤ size ∨
                x + 1 ≥ dev.width) := by
              rw [not_or, ge_iff_le, UInt16.not_le]
              exact ⟨by omega, more⟩
            rw [if_neg unended]
            refine (ih more).mpr ⟨c, Nat.lt_of_succ_lt_succ inColumns, r, inRows,
              row, Or.inr (by omega), ?_⟩
            rw [Data.Word.succ_add_ofNat]
            rfl

theorem columnCells_nodup (pfont : List UInt8) (x : UInt16) {count : Nat}
    (room : y0.toNat + count ≤ 65536) :
    ((columnCells pfont x y0 count).map fun cell =>
      (cell.x, cell.y)).Nodup := by
  rw [columnCells, List.map_map]
  refine List.Nodup.map_on ?_ List.nodup_range
  intro r inRange other otherInRange same
  rw [List.mem_range] at inRange otherInRange
  have rows := congrArg (fun pixel => UInt16.toNat (Prod.snd pixel)) same
  simp only [Function.comp_apply, UInt16.toNat_add, UInt16.toNat_ofNat'] at rows
  omega

/-- No pixel is visited twice. -/
theorem glyphCells_nodup {columns : List (List UInt8)} {x : UInt16}
    (onScreen : x < dev.width) (row : y0.toNat < dev.height.toNat) :
    ((glyphCells dev y0 size columns x).map fun cell =>
      (cell.x, cell.y)).Nodup := by
  have width := dev.width.toNat_lt
  have height := dev.height.toNat_lt
  induction columns generalizing x with
  | nil => exact List.nodup_nil
  | cons pfont rest ih =>
      rw [glyphCells, List.map_append, List.nodup_append]
      refine ⟨columnCells_nodup pfont x (by omega), ?_, ?_⟩
      · split_ifs with ended
        · exact List.nodup_nil
        · rw [not_or, ge_iff_le, UInt16.not_le] at ended
          exact ih ended.2
      · intro pixel inColumn other inRest same
        split_ifs at inRest with ended
        · cases inRest
        · rw [not_or, ge_iff_le, UInt16.not_le] at ended
          obtain ⟨cell, cells, rfl⟩ := List.mem_map.mp inColumn
          obtain ⟨later, laterCells, rfl⟩ := List.mem_map.mp inRest
          obtain ⟨r, -, rfl⟩ := mem_columnCells.mp cells
          obtain ⟨c, -, _, -, -, begun, rfl⟩ :=
            (mem_glyphCells ended.2).mp laterCells
          have columns := congrArg (fun pixel => UInt16.toNat (Prod.fst pixel)) same
          have more := UInt16.lt_iff_toNat_lt.mp ended.2
          have inside := UInt16.lt_iff_toNat_lt.mp onScreen
          simp only [UInt16.toNat_add, UInt16.toNat_ofNat',
            UInt16.toNat_one] at columns begun more
          omega

end Cells

end Column

/-! The glyphs of a font. -/

/-- `ceil(size / 8)`, the bytes of a column. -/
def columnBytes (size : UInt8) : Nat := (size.toNat + 7) / 8

/-- The bit of a glyph at a column and a row, the top row first. -/
def glyphBit (font : UInt8 → UInt8 → Nat → UInt8) (chr size : UInt8)
    (column row : Nat) : Bool :=
  topBit (font size (chr - 32) (column * columnBytes size + row / 8)) (row % 8)

def glyphColumns (font : UInt8 → UInt8 → Nat → UInt8) (chr size : UInt8) :
    List (List UInt8) :=
  (List.range (size.toNat / 2)).map fun column =>
    (List.range (columnBytes size)).map fun k =>
      font size (chr - 32) (column * columnBytes size + k)

theorem map_range_mul {Item : Type} (f : Nat → Item) (count size : Nat) :
    (List.range (count * size)).map f =
      ((List.range count).map fun block =>
        (List.range size).map fun k => f (block * size + k)).flatten := by
  induction count with
  | zero => simp
  | succ count ih =>
      rw [Nat.succ_mul, List.range_add, List.map_append, ih, List.range_succ,
        List.map_append, List.flatten_append, List.map_map]
      simp [Function.comp_def]

section Glyph

variable {dev : LcdDev} {font : UInt8 → UInt8 → Nat → UInt8}
  {x y : UInt16} {chr size mode : UInt8}

theorem columnBytes_cut (supported : IsCharSize size) :
    ColumnBytes size (columnBytes size) ∧
      (charSize size).toNat = size.toNat / 2 * columnBytes size ∧
      2 ≤ size.toNat / 2 := by
  rcases supported with rfl | rfl | rfl | rfl
  all_goals exact ⟨⟨by decide, by decide, by decide⟩, by decide, by decide⟩

theorem glyphColumns_bit {column row : Nat} (inColumns : column < size.toNat / 2)
    (inRows : row < size.toNat) :
    topBit (((glyphColumns font chr size).getD column []).getD (row / 8) 0)
      (row % 8) = glyphBit font chr size column row := by
  have byte : row / 8 < columnBytes size := by
    unfold columnBytes
    omega
  simp [glyphColumns, glyphBit, inColumns, byte]

theorem charVisits_cells (supported : IsCharSize size)
    (row : y < dev.height) (color gBackColor : UInt32) :
    (charVisits dev font ⟨y, size, mode, color, gBackColor⟩ x chr).map
        Visit.cell =
      glyphCells dev y size.toNat (glyphColumns font chr size) x := by
  obtain ⟨cut, count, -⟩ := columnBytes_cut supported
  have whole : ∀ column ∈ glyphColumns font chr size,
      column.length = columnBytes size := by
    intro column member
    obtain ⟨c, -, rfl⟩ := List.mem_map.mp member
    rw [List.length_map, List.length_range]
  have positive : 0 < size.toNat := by
    have := cut.begun
    have := cut.positive
    omega
  rw [charVisits, if_pos supported]
  dsimp only
  rw [count, map_range_mul]
  exact showBytes_glyphCells cut (UInt16.lt_iff_toNat_lt.mp row) positive
    whole x

/-! What a character is to be. -/

structure Dot where
  x : UInt16
  y : UInt16
  color : UInt32
  deriving DecidableEq, Repr

def Dot.draw (dev : LcdDev) (dot : Dot) : List BusMsg :=
  lcdDrawPoint dev dot.x dot.y dot.color

/-- The cell at a column and a row of the glyph lies on the panel. -/
structure CellVisible (dev : LcdDev) (x y : UInt16) (size : UInt8)
    (column row : Nat) : Prop where
  inColumns : column < size.toNat / 2
  inRows : row < size.toNat
  right : x.toNat + column < dev.width.toNat
  bottom : y.toNat + row < dev.height.toNat

/-- The dot is what the glyph has at a visible cell. -/
structure DotOfCell (font : UInt8 → UInt8 → Nat → UInt8) (x y : UInt16)
    (chr size mode : UInt8) (color gBackColor : UInt32) (column row : Nat)
    (dot : Dot) : Prop where
  x : dot.x.toNat = x.toNat + column
  y : dot.y.toNat = y.toNat + row
  color : (glyphBit font chr size column row = true ∧ dot.color = color) ∨
    (glyphBit font chr size column row = false ∧ mode = 0 ∧
      dot.color = gBackColor)

/-- The call draws one point at each visible cell that has a color, and no
other point. -/
def ShowsGlyph (dev : LcdDev) (font : UInt8 → UInt8 → Nat → UInt8)
    (gBackColor : UInt32) (x y : UInt16) (chr size mode : UInt8)
    (color : UInt16) : Prop :=
  ∃ dots : List Dot,
    lcdShowChar dev font gBackColor x y chr size mode color =
        dots.flatMap (Dot.draw dev) ∧
      (dots.map fun dot => (dot.x, dot.y)).Nodup ∧
      ∀ dot, dot ∈ dots ↔ ∃ column row,
        CellVisible dev x y size column row ∧
          DotOfCell font x y chr size mode color.toUInt32 gBackColor column row
            dot

/-- The glyph ends above the last row of the panel, or what it loses there has
no color. -/
def GlyphFits (dev : LcdDev) (font : UInt8 → UInt8 → Nat → UInt8)
    (x y : UInt16) (chr size mode : UInt8) : Prop :=
  y.toNat + size.toNat < dev.height.toNat ∨
    dev.width.toNat ≤ x.toNat + 1 ∨
    mode ≠ 0 ∧ ∀ column row, 0 < column →
      CellVisible dev x y size column row →
        glyphBit font chr size column row = false

/-! The dots of the loops. -/

def Cell.dot (mode : UInt8) (color gBackColor : UInt32) (cell : Cell) :
    Option Dot :=
  if cell.set then some ⟨cell.x, cell.y, color⟩
  else if mode = 0 then some ⟨cell.x, cell.y, gBackColor⟩
  else none

def glyphDots (dev : LcdDev) (font : UInt8 → UInt8 → Nat → UInt8)
    (gBackColor : UInt32) (x y : UInt16) (chr size mode : UInt8)
    (color : UInt16) : List Dot :=
  (glyphCells dev y size.toNat (glyphColumns font chr size) x).filterMap
    (Cell.dot mode color.toUInt32 gBackColor)

theorem draw_cells (style : CharStyle) (visits : List Visit) :
    visits.flatMap (style.draw dev) =
      ((visits.map Visit.cell).filterMap
        (Cell.dot style.mode style.color style.gBackColor)).flatMap
          (Dot.draw dev) := by
  induction visits with
  | nil => rfl
  | cons visit rest ih =>
      rw [List.flatMap_cons, List.map_cons, List.filterMap_cons, ih]
      unfold CharStyle.draw Cell.dot Visit.cell
      by_cases set : visit.temp &&& 0x80 ≠ 0
      · simp [set, Dot.draw]
      · by_cases overlay : style.mode = 0
        · simp [set, overlay, Dot.draw]
        · simp [set, overlay]

theorem lcdShowChar_dots (supported : IsCharSize size) (row : y < dev.height)
    (gBackColor : UInt32) (color : UInt16) :
    lcdShowChar dev font gBackColor x y chr size mode color =
      (glyphDots dev font gBackColor x y chr size mode color).flatMap
        (Dot.draw dev) := by
  rw [lcdShowChar, draw_cells, charVisits_cells supported row]
  rfl

theorem cell_dot_iff {cell : Cell} {color gBackColor : UInt32} {dot : Dot} :
    cell.dot mode color gBackColor = some dot ↔
      dot.x = cell.x ∧ dot.y = cell.y ∧
        ((cell.set = true ∧ dot.color = color) ∨
          (cell.set = false ∧ mode = 0 ∧ dot.color = gBackColor)) := by
  obtain ⟨dotX, dotY, dotColor⟩ := dot
  unfold Cell.dot
  split_ifs with set overlay
  · simp [set, eq_comm]
  · simp [set, overlay, eq_comm]
  · simp [set, overlay]

/-- Of the visible cells the loops come to those of the first column, and to
the others when the glyph ends above the last row. -/
theorem mem_glyphDots (onScreen : x < dev.width) {gBackColor : UInt32}
    {color : UInt16} {dot : Dot} :
    dot ∈ glyphDots dev font gBackColor x y chr size mode color ↔
      ∃ column row, CellVisible dev x y size column row ∧
        (column = 0 ∨ y.toNat + size.toNat < dev.height.toNat) ∧
        DotOfCell font x y chr size mode color.toUInt32 gBackColor column row
          dot := by
  have width := dev.width.toNat_lt
  have height := dev.height.toNat_lt
  have inside := UInt16.lt_iff_toNat_lt.mp onScreen
  have columns : (glyphColumns font chr size).length = size.toNat / 2 := by
    simp [glyphColumns]
  have exactX : ∀ column, x.toNat + column < dev.width.toNat →
      (x + UInt16.ofNat column).toNat = x.toNat + column := by
    intro column right
    simp only [UInt16.toNat_add, UInt16.toNat_ofNat']
    omega
  have exactY : ∀ row, y.toNat + row < dev.height.toNat →
      (y + UInt16.ofNat row).toNat = y.toNat + row := by
    intro row bottom
    simp only [UInt16.toNat_add, UInt16.toNat_ofNat']
    omega
  rw [glyphDots, List.mem_filterMap]
  constructor
  · rintro ⟨cell, member, drawn⟩
    obtain ⟨column, inColumns, row, inRows, bottom, begun, rfl⟩ :=
      (mem_glyphCells onScreen).mp member
    rw [columns] at inColumns
    have right : x.toNat + column < dev.width.toNat := by omega
    obtain ⟨dotX, dotY, dotColor⟩ := cell_dot_iff.mp drawn
    dsimp only at dotX dotY dotColor
    rw [glyphColumns_bit inColumns inRows] at dotColor
    refine ⟨column, row, ⟨inColumns, inRows, right, bottom⟩, by omega, ?_, ?_,
      dotColor⟩
    · rw [dotX, exactX column right]
    · rw [dotY, exactY row bottom]
  · rintro ⟨column, row, ⟨inColumns, inRows, right, bottom⟩, begun, dotX, dotY,
      dotColor⟩
    refine ⟨_, (mem_glyphCells onScreen).mpr ⟨column, columns.symm ▸ inColumns,
      row, inRows, bottom, by omega, rfl⟩, cell_dot_iff.mpr ⟨?_, ?_, ?_⟩⟩
    · exact UInt16.toNat_inj.mp (dotX.trans (exactX column right).symm)
    · exact UInt16.toNat_inj.mp (dotY.trans (exactY row bottom).symm)
    · dsimp only
      rw [glyphColumns_bit inColumns inRows]
      exact dotColor

theorem glyphDots_nodup (onScreen : x < dev.width) (row : y < dev.height)
    (gBackColor : UInt32) (color : UInt16) :
    ((glyphDots dev font gBackColor x y chr size mode color).map fun dot =>
      (dot.x, dot.y)).Nodup := by
  have cells : ((glyphCells dev y size.toNat (glyphColumns font chr size) x).map
      fun cell => (cell.x, cell.y)).Nodup :=
    glyphCells_nodup onScreen (UInt16.lt_iff_toNat_lt.mp row)
  unfold List.Nodup at cells ⊢
  rw [List.pairwise_map] at cells ⊢
  rw [glyphDots, List.pairwise_filterMap]
  refine cells.imp ?_
  intro cell other apart dot drawn otherDot otherDrawn same
  obtain ⟨dotX, dotY, -⟩ := cell_dot_iff.mp drawn
  obtain ⟨otherX, otherY, -⟩ := cell_dot_iff.mp otherDrawn
  rw [dotX, dotY, otherX, otherY] at same
  exact apart same

theorem exists_dotOfCell {column row : Nat}
    (visible : CellVisible dev x y size column row)
    (drawn : mode = 0 ∨ glyphBit font chr size column row = true)
    (color gBackColor : UInt32) :
    ∃ dot, DotOfCell font x y chr size mode color gBackColor column row dot := by
  have width := dev.width.toNat_lt
  have height := dev.height.toNat_lt
  obtain ⟨-, -, right, bottom⟩ := visible
  have exactX : (UInt16.ofNat (x.toNat + column)).toNat = x.toNat + column := by
    rw [UInt16.toNat_ofNat']
    omega
  have exactY : (UInt16.ofNat (y.toNat + row)).toNat = y.toNat + row := by
    rw [UInt16.toNat_ofNat']
    omega
  cases set : glyphBit font chr size column row with
  | true => exact ⟨⟨_, _, color⟩, exactX, exactY, Or.inl ⟨set, rfl⟩⟩
  | false =>
      have background : mode = 0 := by
        rcases drawn with background | other
        · exact background
        · rw [set] at other
          cases other
      exact ⟨⟨_, _, gBackColor⟩, exactX, exactY,
        Or.inr ⟨set, background, rfl⟩⟩

/-- What is cut off has a cell that should be drawn. -/
theorem exists_lost_cell (supported : IsCharSize size) (row : y < dev.height)
    (cut : ¬ GlyphFits dev font x y chr size mode) :
    ∃ column row, 0 < column ∧ CellVisible dev x y size column row ∧
      (mode = 0 ∨ glyphBit font chr size column row = true) := by
  simp only [GlyphFits, not_or, not_and, not_forall] at cut
  obtain ⟨reaches, wide, lost⟩ := cut
  have inside := UInt16.lt_iff_toNat_lt.mp row
  obtain ⟨bytes, -, columns⟩ := columnBytes_cut supported
  by_cases background : mode = 0
  · exact ⟨1, 0, Nat.one_pos, ⟨by omega, by omega, by omega, by omega⟩,
      Or.inl background⟩
  · obtain ⟨column, row, later, visible, set⟩ := lost background
    exact ⟨column, row, later, visible, Or.inr (Bool.not_eq_false _ ▸ set)⟩

/-- The other columns are lost when the glyph reaches the last row. -/
theorem not_showsGlyph (supported : IsCharSize size) (onScreen : x < dev.width)
    (row : y < dev.height) (cut : ¬ GlyphFits dev font x y chr size mode)
    (gBackColor : UInt32) (color : UInt16) :
    ¬ ShowsGlyph dev font gBackColor x y chr size mode color := by
  obtain ⟨column, place, later, visible, drawn⟩ :=
    exists_lost_cell supported row cut
  obtain ⟨dot, dotOfCell⟩ :=
    exists_dotOfCell visible drawn color.toUInt32 gBackColor
  have reaches : ¬ y.toNat + size.toNat < dev.height.toNat := fun below =>
    cut (Or.inl below)
  rintro ⟨dots, same, -, members⟩
  rw [lcdShowChar_dots supported row] at same
  have member := (members dot).mpr ⟨column, place, visible, dotOfCell⟩
  have sized : ∀ dot : Dot,
      (dot.draw dev).length = (lcdSetCursor dev 0 0).length + 2 :=
    fun dot => lcdDrawPoint_length dev dot.x dot.y dot.color
  obtain ⟨other, inDots, sameBlock⟩ :=
    exists_block_of_flatMap_eq (Nat.succ_pos _) sized same.symm member
  obtain ⟨otherColumn, otherPlace, -, begun, otherDot⟩ :=
    (mem_glyphDots onScreen).mp inDots
  have sameX := congrArg UInt16.toNat (lcdDrawPoint_inj sameBlock).1
  rw [dotOfCell.x, otherDot.x] at sameX
  omega

theorem showsGlyph_iff (supported : IsCharSize size) (onScreen : x < dev.width)
    (row : y < dev.height) (gBackColor : UInt32) (color : UInt16) :
    ShowsGlyph dev font gBackColor x y chr size mode color ↔
      GlyphFits dev font x y chr size mode := by
  constructor
  · intro shows
    by_contra cut
    exact not_showsGlyph supported onScreen row cut gBackColor color shows
  · intro fits
    refine ⟨glyphDots dev font gBackColor x y chr size mode color,
      lcdShowChar_dots supported row gBackColor color,
      glyphDots_nodup onScreen row gBackColor color, fun dot => ?_⟩
    rw [mem_glyphDots onScreen]
    constructor
    · rintro ⟨column, row, visible, -, dotOfCell⟩
      exact ⟨column, row, visible, dotOfCell⟩
    · rintro ⟨column, row, visible, dotOfCell⟩
      refine ⟨column, row, visible, ?_, dotOfCell⟩
      rcases Nat.eq_zero_or_pos column with first | later
      · exact Or.inl first
      · rcases fits with below | narrow | ⟨overlay, clear⟩
        · exact Or.inr below
        · have right := visible.right
          omega
        · rcases dotOfCell.color with ⟨set, -⟩ | ⟨-, background, -⟩
          · rw [clear column row later visible] at set
            cases set
          · exact absurd background overlay

end Glyph

theorem showsGlyph_centered :
    ShowsGlyph ili9341Dev (fun _ _ _ => 0x3C) 0xFFFF 100 100 65 16 0 0xF800 ↔
      GlyphFits ili9341Dev (fun _ _ _ => 0x3C) 100 100 65 16 0 :=
  showsGlyph_iff (by decide) (by decide) (by decide) 0xFFFF 0xF800

/-- A glyph that exactly fits against the bottom edge has its first column
only. -/
theorem glyph_at_bottom_lost :
    (304 : UInt16).toNat + (16 : UInt8).toNat = ili9341Dev.height.toNat ∧
      ¬ ShowsGlyph ili9341Dev (fun _ _ _ => 0x3C) 0xFFFF 100 304 65 16 0
        0xF800 := by
  have cut : ¬ GlyphFits ili9341Dev (fun _ _ _ => 0x3C) 100 304 65 16 0 := by
    rintro (below | narrow | ⟨overlay, -⟩)
    · exact absurd below (by decide)
    · exact absurd narrow (by decide)
    · exact overlay rfl
  exact ⟨by decide, not_showsGlyph (by decide) (by decide) (by decide) cut
    0xFFFF 0xF800⟩

end Ch32v307.Lcd
