import Mathlib.Data.List.Basic
import Mathlib.Tactic.Ring
import Ch32v307.Lcd.Text

namespace Ch32v307.Lcd

/-! Strings: where the loop draws each character, against the lines of the
box. -/

/-- The columns of a box, `ceil(width / (size / 2))`. -/
def boxColumns (width : UInt16) (size : UInt8) : Nat :=
  (width.toNat + size.toNat / 2 - 1) / (size.toNat / 2)

/-- The characters before the first that is not printable. -/
def printed (p : List UInt8) : List UInt8 := p.takeWhile fun chr => Printable chr

def layoutCall (x y width : UInt16) (size : UInt8) (color : UInt16)
    (item : UInt8 × Nat) : CharCall :=
  let n := boxColumns width size
  ⟨x + UInt16.ofNat (item.2 % n * (size.toNat / 2)),
    y + UInt16.ofNat (item.2 / n * size.toNat), item.1, size, 0, color⟩

/-- The characters of the lines that begin inside the box, each in its place. -/
def textLayout (x y width height : UInt16) (size : UInt8) (p : List UInt8)
    (color : UInt16) : List CharCall :=
  let n := boxColumns width size
  ((printed p).zipIdx.filter fun item =>
    item.2 / n * size.toNat < height.toNat).map (layoutCall x y width size color)

/-- The whole text is in one line, or the lines begin where an `uint8_t` can
say. -/
def LinesBegin (x width height : UInt16) (size : UInt8) (p : List UInt8) :
    Prop :=
  x.toNat < 256 ∨ (printed p).length ≤ boxColumns width size ∨
    height.toNat ≤ size.toNat

/-! The arithmetic of lines. -/

theorem succ_line {k n : Nat} (last : k % n + 1 = n) :
    (k + 1) / n = k / n + 1 ∧ (k + 1) % n = 0 := by
  rw [Nat.div_mod_unique (by omega), Nat.mul_succ]
  have whole := Nat.mod_add_div k n
  constructor
  · omega
  · omega

theorem succ_column {k n : Nat} (more : k % n + 1 < n) :
    (k + 1) / n = k / n ∧ (k + 1) % n = k % n + 1 := by
  rw [Nat.div_mod_unique (by omega)]
  have whole := Nat.mod_add_div k n
  constructor
  · omega
  · exact more

theorem ceil_div_spec {width half : Nat} (wide : 1 ≤ width)
    (positive : 0 < half) :
    1 ≤ (width + half - 1) / half ∧
      ((width + half - 1) / half - 1) * half < width ∧
      width ≤ (width + half - 1) / half * half := by
  have whole := Nat.div_add_mod' (width + half - 1) half
  have part := Nat.mod_lt (width + half - 1) positive
  have first : 1 ≤ (width + half - 1) / half :=
    (Nat.one_le_div_iff positive).mpr (by omega)
  refine ⟨first, ?_, by omega⟩
  rw [Nat.sub_mul]
  omega

/-- The box ends in the 16-bit range, with room for one more character. -/
structure TextRoom (x y width height : UInt16) (size : UInt8) : Prop where
  supported : IsCharSize size
  wide : 1 ≤ width.toNat
  right : x.toNat + width.toNat < 65536 - size.toNat
  bottom : y.toNat + height.toNat < 65536 - size.toNat

section Layout

variable {x y width height : UInt16} {size : UInt8} {color : UInt16}

def textBox (x y width height : UInt16) (size : UInt8) (color : UInt16) :
    TextBox :=
  ⟨x.toUInt8, width + x, height + y, size, color⟩

theorem half_size (supported : IsCharSize size) :
    6 ≤ size.toNat / 2 ∧ size.toNat ≤ 32 := by
  rcases supported with rfl | rfl | rfl | rfl
  all_goals decide

namespace TextRoom

variable (room : TextRoom x y width height size)

include room

theorem boxColumns_spec :
    1 ≤ boxColumns width size ∧
      (boxColumns width size - 1) * (size.toNat / 2) < width.toNat ∧
      width.toNat ≤ boxColumns width size * (size.toNat / 2) :=
  ceil_div_spec room.wide (by have := half_size room.supported; omega)

end TextRoom

/-- The cursor before a character: at the start, or behind the character
before, which a line inside the box has. -/
inductive CursorAt (x y width height : UInt16) (size : UInt8) :
    Nat → UInt16 → UInt16 → Prop where
  | start : CursorAt x y width height size 0 x y
  | behind {k : Nat} {column row : UInt16}
      (across : column.toNat = x.toNat +
        (k % boxColumns width size + 1) * (size.toNat / 2))
      (down : row.toNat = y.toNat + k / boxColumns width size * size.toNat)
      (inside : k / boxColumns width size * size.toNat < height.toNat) :
      CursorAt x y width height size (k + 1) column row

/-- The cursor is where the layout has the character. -/
structure PlacedAt (x y width : UInt16) (size : UInt8) (i : Nat)
    (column row : UInt16) : Prop where
  across : column.toNat =
    x.toNat + i % boxColumns width size * (size.toNat / 2)
  down : row.toNat = y.toNat + i / boxColumns width size * size.toNat

namespace TextRoom

variable (color) (room : TextRoom x y width height size) {i : Nat}
  {column row : UInt16}

include room

theorem ends_toNat :
    (width + x).toNat = width.toNat + x.toNat ∧
      (height + y).toNat = height.toNat + y.toNat := by
  have right := room.right
  have bottom := room.bottom
  rw [UInt16.toNat_add, UInt16.toNat_add]
  omega

theorem wrap_stays (cursor : CursorAt x y width height size i column row)
    (inLine : i = 0 ∨ i % boxColumns width size ≠ 0) :
    (textBox x y width height size color).wrap column row = (column, row) ∧
      PlacedAt x y width size i column row := by
  obtain ⟨columns, fits, -⟩ := room.boxColumns_spec
  have ends := room.ends_toNat.1
  have wide := room.wide
  cases cursor with
  | start =>
      refine ⟨if_neg ?_, ?_, ?_⟩
      · change ¬ width + x ≤ x
        rw [UInt16.le_iff_toNat_le]
        omega
      · rw [Nat.zero_mod, Nat.zero_mul, Nat.add_zero]
      · rw [Nat.zero_div, Nat.zero_mul, Nat.add_zero]
  | @behind k _ _ across down inside =>
      have more : k % boxColumns width size + 1 < boxColumns width size := by
        have part := Nat.mod_lt k (by omega : boxColumns width size > 0)
        rcases Nat.lt_or_eq_of_le part with more | last
        · exact more
        · have := (succ_line last).2
          omega
      have before : (k % boxColumns width size + 1) * (size.toNat / 2) ≤
          (boxColumns width size - 1) * (size.toNat / 2) :=
        Nat.mul_le_mul_right _ (by omega)
      obtain ⟨line, place⟩ := succ_column more
      refine ⟨if_neg ?_, ?_, ?_⟩
      · change ¬ width + x ≤ column
        rw [UInt16.le_iff_toNat_le]
        omega
      · rw [place, across]
      · rw [line, down]

theorem wrap_begins (cursor : CursorAt x y width height size i column row)
    (later : i ≠ 0) (newLine : i % boxColumns width size = 0) :
    (textBox x y width height size color).wrap column row =
        (x.toUInt8.toUInt16, row + size.toUInt16) ∧
      (row + size.toUInt16).toNat =
        y.toNat + i / boxColumns width size * size.toNat := by
  obtain ⟨columns, -, covers⟩ := room.boxColumns_spec
  have ends := room.ends_toNat.1
  have bottom := room.bottom
  cases cursor with
  | start => exact absurd rfl later
  | @behind k _ _ across down inside =>
      have last : k % boxColumns width size + 1 = boxColumns width size := by
        have part := Nat.mod_lt k (by omega : boxColumns width size > 0)
        rcases Nat.lt_or_eq_of_le part with more | last
        · have := (succ_column more).2
          omega
        · exact last
      rw [last] at across
      refine ⟨if_pos ?_, ?_⟩
      · change width + x ≤ column
        rw [UInt16.le_iff_toNat_le]
        omega
      · rw [(succ_line last).1, Nat.succ_mul, UInt16.toNat_add,
          UInt8.toNat_toUInt16]
        omega

/-- The row after the test is always that of the layout. -/
theorem wrap_row (cursor : CursorAt x y width height size i column row) :
    ((textBox x y width height size color).wrap column row).2.toNat =
      y.toNat + i / boxColumns width size * size.toNat := by
  by_cases inLine : i = 0 ∨ i % boxColumns width size ≠ 0
  · obtain ⟨wrapped, placed⟩ := room.wrap_stays color cursor inLine
    rw [wrapped, placed.down]
  · rw [not_or, not_not] at inLine
    obtain ⟨wrapped, down⟩ :=
      room.wrap_begins color cursor inLine.1 inLine.2
    rw [wrapped, down]

/-- The column is, where the start of the lines has not been cut. -/
theorem wrap_placed (cursor : CursorAt x y width height size i column row)
    (kept : x.toNat < 256 ∨ i < boxColumns width size) :
    PlacedAt x y width size i
      ((textBox x y width height size color).wrap column row).1
      ((textBox x y width height size color).wrap column row).2 := by
  by_cases inLine : i = 0 ∨ i % boxColumns width size ≠ 0
  · obtain ⟨wrapped, placed⟩ := room.wrap_stays color cursor inLine
    rw [wrapped]
    exact placed
  · rw [not_or, not_not] at inLine
    have beyond : ¬ i < boxColumns width size := by
      intro first
      rw [Nat.mod_eq_of_lt first] at inLine
      exact inLine.1 inLine.2
    have small : x.toNat < 256 := kept.resolve_right beyond
    obtain ⟨wrapped, down⟩ :=
      room.wrap_begins color cursor inLine.1 inLine.2
    rw [wrapped]
    refine ⟨?_, down⟩
    rw [inLine.2, UInt8.toNat_toUInt16, UInt16.toNat_toUInt8]
    omega

theorem cursor_next (placed : PlacedAt x y width size i column row)
    (inside : i / boxColumns width size * size.toNat < height.toNat) :
    CursorAt x y width height size (i + 1) (column + (size / 2).toUInt16) row := by
  obtain ⟨columns, fits, -⟩ := room.boxColumns_spec
  have right := room.right
  have part := Nat.mod_lt i (by omega : boxColumns width size > 0)
  have before : i % boxColumns width size * (size.toNat / 2) ≤
      (boxColumns width size - 1) * (size.toNat / 2) :=
    Nat.mul_le_mul_right _ (by omega)
  have half : (size / 2).toUInt16.toNat = size.toNat / 2 := by
    rw [UInt8.toNat_toUInt16, UInt8.toNat_div]
    rfl
  refine .behind ?_ placed.down inside
  rw [UInt16.toNat_add, half, placed.across, Nat.succ_mul]
  omega

/-- A character in a line that begins below the box ends the text. -/
theorem below_iff (cursor : CursorAt x y width height size i column row) :
    ((textBox x y width height size color).wrap column row).2 ≥
        (textBox x y width height size color).height ↔
      ¬ i / boxColumns width size * size.toNat < height.toNat := by
  have down := room.wrap_row color cursor
  change height + y ≤ _ ↔ _
  rw [UInt16.le_iff_toNat_le, down, room.ends_toNat.2]
  omega

end TextRoom

theorem printed_cons {chr : UInt8} (printable : Printable chr)
    (rest : List UInt8) : printed (chr :: rest) = chr :: printed rest :=
  List.takeWhile_cons_of_pos (by simpa using printable)

theorem printed_stop {chr : UInt8} (other : ¬ Printable chr)
    (rest : List UInt8) : printed (chr :: rest) = [] :=
  List.takeWhile_cons_of_neg (by simpa using other)

theorem show_cons (box : TextBox) {chr : UInt8} (printable : Printable chr)
    (rest : List UInt8) (column row : UInt16) :
    box.show (chr :: rest) column row =
      if (box.wrap column row).2 ≥ box.height then []
      else
        ⟨(box.wrap column row).1, (box.wrap column row).2, chr, box.size, 0,
            box.color⟩ ::
          box.show rest ((box.wrap column row).1 + (box.size / 2).toUInt16)
            (box.wrap column row).2 := by
  rw [TextBox.show, if_pos printable]

/-- The lines after one that begins below the box do, too. -/
theorem filter_below (characters : List UInt8) {i n : Nat}
    (below : ¬ i / n * size.toNat < height.toNat) :
    (characters.zipIdx i).filter
      (fun item => item.2 / n * size.toNat < height.toNat) = [] := by
  rw [List.filter_eq_nil_iff]
  intro item member inside
  have order := Nat.div_le_div_right (c := n) (List.le_snd_of_mem_zipIdx member)
  have lines := Nat.mul_le_mul_right size.toNat order
  rw [decide_eq_true_iff] at inside
  omega

theorem placed_eq {i : Nat} {column row : UInt16}
    (placed : PlacedAt x y width size i column row) (chr : UInt8) :
    (⟨column, row, chr, size, 0, color⟩ : CharCall) =
      layoutCall x y width size color (chr, i) := by
  obtain ⟨across, down⟩ := placed
  have sameColumn : column =
      x + UInt16.ofNat (i % boxColumns width size * (size.toNat / 2)) := by
    apply UInt16.toNat_inj.mp
    have := column.toNat_lt
    rw [UInt16.toNat_add, UInt16.toNat_ofNat']
    omega
  have sameRow : row =
      y + UInt16.ofNat (i / boxColumns width size * size.toNat) := by
    apply UInt16.toNat_inj.mp
    have := row.toNat_lt
    rw [UInt16.toNat_add, UInt16.toNat_ofNat']
    omega
  rw [sameColumn, sameRow]
  rfl

/-- The first line is the only one that begins inside a low box. -/
theorem first_line_of_low {i n : Nat} (columns : 1 ≤ n)
    (low : height.toNat ≤ size.toNat)
    (inside : i / n * size.toNat < height.toNat) : i < n := by
  by_contra later
  have line : 1 ≤ i / n := (Nat.one_le_div_iff columns).mpr (by omega)
  have := Nat.mul_le_mul_right size.toNat line
  omega

section Text

variable (color) (room : TextRoom x y width height size) {p : List UInt8}
  {i : Nat} {column row : UInt16}

include room

/-- From any character on, the loop draws the rest of the layout. -/
theorem show_layout (cursor : CursorAt x y width height size i column row)
    (lines : x.toNat < 256 ∨
      i + (printed p).length ≤ boxColumns width size ∨
      height.toNat ≤ size.toNat) :
    (textBox x y width height size color).show p column row =
      (((printed p).zipIdx i).filter fun item =>
        item.2 / boxColumns width size * size.toNat < height.toNat).map
          (layoutCall x y width size color) := by
  induction p generalizing i column row with
  | nil => rfl
  | cons chr rest ih =>
      by_cases printable : Printable chr
      · rw [printed_cons printable] at lines ⊢
        rw [show_cons _ printable]
        rw [List.length_cons] at lines
        by_cases inside : i / boxColumns width size * size.toNat < height.toNat
        · have kept : x.toNat < 256 ∨ i < boxColumns width size := by
            rcases lines with small | one | short
            · exact Or.inl small
            · exact Or.inr (by omega)
            · exact Or.inr
                (first_line_of_low room.boxColumns_spec.1 short inside)
          have placed := room.wrap_placed color cursor kept
          rw [if_neg (mt (room.below_iff color cursor).mp (not_not.mpr inside)),
            List.zipIdx_cons, List.filter_cons_of_pos (by simpa using inside),
            List.map_cons]
          have later := ih (room.cursor_next placed inside) (by omega)
          rw [← later]
          exact congrArg (· :: _) (placed_eq placed chr)
        · rw [if_pos ((room.below_iff color cursor).mpr inside),
            filter_below _ inside]
          rfl
      · rw [printed_stop printable, TextBox.show, if_neg printable]
        rfl

/-- Where the start of the lines has been cut, a character is drawn there. -/
theorem exists_cut_call (high : size.toNat < height.toNat)
    (cursor : CursorAt x y width height size i column row)
    (first : i ≤ boxColumns width size)
    (long : boxColumns width size < i + (printed p).length) :
    ∃ call ∈ (textBox x y width height size color).show p column row,
      call.x.toNat < 256 := by
  induction p generalizing i column row with
  | nil =>
      have none : (printed []).length = 0 := rfl
      omega
  | cons chr rest ih =>
      by_cases printable : Printable chr
      · rw [printed_cons printable, List.length_cons] at long
        rw [show_cons _ printable]
        rcases Nat.lt_or_eq_of_le first with inLine | ended
        · have inside : i / boxColumns width size * size.toNat <
              height.toNat := by
            rw [Nat.div_eq_of_lt inLine]
            omega
          have placed := room.wrap_placed color cursor (Or.inr inLine)
          rw [if_neg (mt (room.below_iff color cursor).mp (not_not.mpr inside))]
          obtain ⟨call, member, cut⟩ :=
            ih (room.cursor_next placed inside) (by omega) (by omega)
          exact ⟨call, List.mem_cons_of_mem _ member, cut⟩
        · have columns := room.boxColumns_spec.1
          have inside : i / boxColumns width size * size.toNat <
              height.toNat := by
            rw [ended, Nat.div_self columns]
            omega
          rw [if_neg (mt (room.below_iff color cursor).mp (not_not.mpr inside))]
          refine ⟨_, List.mem_cons_self, ?_⟩
          obtain ⟨wrapped, -⟩ := room.wrap_begins color cursor
            (by omega) (by rw [ended, Nat.mod_self])
          rw [wrapped]
          exact x.toUInt8.toNat_lt
      · have none : (printed (chr :: rest)).length = 0 := by
          rw [printed_stop printable]
          rfl
        omega

theorem layoutCall_x (item : UInt8 × Nat) :
    (layoutCall x y width size color item).x.toNat =
      x.toNat + item.2 % boxColumns width size * (size.toNat / 2) := by
  obtain ⟨columns, fits, -⟩ := room.boxColumns_spec
  have right := room.right
  have part := Nat.mod_lt item.2 (by omega : boxColumns width size > 0)
  have before : item.2 % boxColumns width size * (size.toNat / 2) ≤
      (boxColumns width size - 1) * (size.toNat / 2) :=
    Nat.mul_le_mul_right _ (by omega)
  change (x + UInt16.ofNat _).toNat = _
  rw [UInt16.toNat_add, UInt16.toNat_ofNat']
  omega

theorem not_layout (cut : ¬ LinesBegin x width height size p) :
    lcdShowString x y width height size p color ≠
      textLayout x y width height size p color := by
  simp only [LinesBegin, not_or, Nat.not_lt, Nat.not_le] at cut
  obtain ⟨large, long, high⟩ := cut
  obtain ⟨call, member, small⟩ := exists_cut_call color room high
    .start (Nat.zero_le _)
    (by omega : boxColumns width size < 0 + (printed p).length)
  intro same
  change call ∈ lcdShowString x y width height size p color at member
  rw [same] at member
  obtain ⟨item, -, rfl⟩ := List.mem_map.mp member
  rw [layoutCall_x color room] at small
  omega

/-- The loop makes the layout when its lines can begin where they should. -/
theorem lcdShowString_layout_iff (p : List UInt8) (color : UInt16) :
    lcdShowString x y width height size p color =
        textLayout x y width height size p color ↔
      LinesBegin x width height size p := by
  constructor
  · intro same
    by_contra cut
    exact not_layout color room cut same
  · intro lines
    refine (show_layout color room .start ?_).trans rfl
    rw [Nat.zero_add]
    exact lines

end Text

theorem lcdShowString_layout_portrait :
    lcdShowString 20 40 60 64 16 [0x48, 0x65, 0x6C, 0x6C, 0x6F] 0xF800 =
      textLayout 20 40 60 64 16 [0x48, 0x65, 0x6C, 0x6C, 0x6F] 0xF800 :=
  (lcdShowString_layout_iff
    ⟨Or.inr (Or.inl rfl), by decide, by decide, by decide⟩ _ _).mpr
      (Or.inl (by decide))

/-- On a wide panel the second line begins at column 44. -/
theorem lcdShowString_wraps_left :
    TextRoom 300 10 24 64 16 ∧
      lcdShowString 300 10 24 64 16 [0x48, 0x65, 0x6C, 0x6C, 0x6F] 0xF800 ≠
        textLayout 300 10 24 64 16 [0x48, 0x65, 0x6C, 0x6C, 0x6F] 0xF800 :=
  ⟨⟨Or.inr (Or.inl rfl), by decide, by decide, by decide⟩, by decide⟩

end Layout

end Ch32v307.Lcd
