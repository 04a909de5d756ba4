import Mathlib.Data.List.Basic
import Mathlib.Data.List.Induction

namespace Ch32v307.Data

/-! Picture memory behind a window: colors are written one after the other at a
cursor that runs through the window row by row. -/

structure Window where
  left : Nat
  right : Nat
  top : Nat
  bottom : Nat
  deriving DecidableEq, Repr

namespace Window

structure Valid (window : Window) : Prop where
  columns : window.left ≤ window.right
  rows : window.top ≤ window.bottom

def width (window : Window) : Nat := window.right - window.left + 1

def height (window : Window) : Nat := window.bottom - window.top + 1

structure Contains (window : Window) (x y : Nat) : Prop where
  left : window.left ≤ x
  right : x ≤ window.right
  top : window.top ≤ y
  bottom : y ≤ window.bottom

instance (window : Window) (x y : Nat) : Decidable (window.Contains x y) :=
  decidable_of_iff (window.left ≤ x ∧ x ≤ window.right ∧
      window.top ≤ y ∧ y ≤ window.bottom)
    ⟨fun ⟨left, right, top, bottom⟩ => ⟨left, right, top, bottom⟩,
      fun ⟨left, right, top, bottom⟩ => ⟨left, right, top, bottom⟩⟩

/-- The place of a pixel in the order of writing. -/
def index (window : Window) (x y : Nat) : Nat :=
  (y - window.top) * window.width + (x - window.left)

theorem width_pos (window : Window) : 0 < window.width :=
  Nat.succ_pos _

theorem index_eq_iff {window : Window} {x y : Nat}
    (inside : window.Contains x y) (place : Nat) :
    window.index x y = place ↔
      x = window.left + place % window.width ∧
        y = window.top + place / window.width := by
  have column : x - window.left < window.width := by
    have := inside.left
    have := inside.right
    unfold width
    omega
  have left := inside.left
  have top := inside.top
  constructor
  · rintro rfl
    rw [index, Nat.mul_add_mod', Nat.mod_eq_of_lt column,
      Nat.mul_comm (y - window.top), Nat.mul_add_div window.width_pos,
      Nat.div_eq_of_lt column]
    omega
  · rintro ⟨columnEq, rowEq⟩
    have split := Nat.div_add_mod place window.width
    have rowPart : (y - window.top) * window.width =
        window.width * (place / window.width) := by
      rw [rowEq, Nat.add_sub_cancel_left, Nat.mul_comm]
    unfold index
    omega

theorem left_add_width {window : Window} (valid : window.Valid) :
    window.left + window.width = window.right + 1 := by
  have columns := valid.columns
  unfold width
  omega

theorem top_add_height {window : Window} (valid : window.Valid) :
    window.top + window.height = window.bottom + 1 := by
  have rows := valid.rows
  unfold height
  omega

theorem index_lt {window : Window} {x y : Nat}
    (inside : window.Contains x y) :
    window.index x y < window.width * window.height := by
  have column : x - window.left < window.width := by
    have := inside.left
    have := inside.right
    unfold width
    omega
  have row : y - window.top + 1 ≤ window.height := by
    have := inside.top
    have := inside.bottom
    unfold height
    omega
  calc
    window.index x y < (y - window.top) * window.width + window.width :=
      Nat.add_lt_add_left column _
    _ = (y - window.top + 1) * window.width := (Nat.succ_mul ..).symm
    _ ≤ window.height * window.width := Nat.mul_le_mul_right _ row
    _ = window.width * window.height := Nat.mul_comm ..

theorem contains_of_place {window : Window} {place : Nat}
    (valid : window.Valid)
    (inRange : place < window.width * window.height) :
    window.Contains (window.left + place % window.width)
      (window.top + place / window.width) := by
  have column := Nat.mod_lt place window.width_pos
  have row : place / window.width < window.height :=
    Nat.div_lt_of_lt_mul inRange
  have columns := left_add_width valid
  have rows := top_add_height valid
  refine ⟨Nat.le_add_right .., ?_, Nat.le_add_right .., ?_⟩
  · omega
  · omega

end Window

structure Raster (Color : Type) where
  window : Window
  column : Nat
  row : Nat
  pixels : Nat → Nat → Color

namespace Raster

variable {Color : Type}

def seek (raster : Raster Color) (window : Window) : Raster Color :=
  { raster with window := window, column := window.left, row := window.top }

/-- Step to the next pixel of the window, from the last one to the first. -/
def advance (raster : Raster Color) : Raster Color :=
  if raster.column < raster.window.right then
    { raster with column := raster.column + 1 }
  else if raster.row < raster.window.bottom then
    { raster with column := raster.window.left, row := raster.row + 1 }
  else
    { raster with column := raster.window.left, row := raster.window.top }

def setPixel (raster : Raster Color) (color : Color) : Raster Color :=
  { raster with
    pixels := fun x y =>
      if x = raster.column ∧ y = raster.row then color else raster.pixels x y }

def write (raster : Raster Color) (color : Color) : Raster Color :=
  (raster.setPixel color).advance

def stream (raster : Raster Color) (colors : List Color) : Raster Color :=
  colors.foldl write raster

@[simp] theorem advance_window (raster : Raster Color) :
    raster.advance.window = raster.window := by
  unfold advance
  split_ifs <;> rfl

@[simp] theorem advance_pixels (raster : Raster Color) :
    raster.advance.pixels = raster.pixels := by
  unfold advance
  split_ifs <;> rfl

@[simp] theorem write_window (raster : Raster Color) (color : Color) :
    (raster.write color).window = raster.window := advance_window _

theorem write_pixels (raster : Raster Color) (color : Color) (x y : Nat) :
    (raster.write color).pixels x y =
      if x = raster.column ∧ y = raster.row then color
      else raster.pixels x y := by
  rw [write, advance_pixels]
  rfl

@[simp] theorem stream_nil (raster : Raster Color) :
    raster.stream [] = raster := rfl

theorem stream_concat (raster : Raster Color) (colors : List Color)
    (color : Color) :
    raster.stream (colors ++ [color]) = (raster.stream colors).write color := by
  simp [stream]

@[simp] theorem stream_window (raster : Raster Color) (colors : List Color) :
    (raster.stream colors).window = raster.window := by
  induction colors using List.reverseRecOn with
  | nil => rfl
  | append_singleton colors color ih =>
      rw [stream_concat, write_window, ih]

/-- Where the cursor stands after a number of writes from the first pixel. -/
structure At (raster : Raster Color) (place : Nat) : Prop where
  column : raster.column =
    raster.window.left + place % raster.window.width
  row : raster.row =
    raster.window.top + place / raster.window.width % raster.window.height

theorem seek_at (raster : Raster Color) (window : Window) :
    (raster.seek window).At 0 := by
  constructor
  · simp [seek]
  · simp [seek]

private theorem next_in_row {place width : Nat}
    (more : place % width + 1 < width) :
    (place + 1) / width = place / width ∧
      (place + 1) % width = place % width + 1 := by
  refine (Nat.div_mod_unique (by omega)).mpr ⟨?_, more⟩
  have split := Nat.mod_add_div place width
  omega

private theorem next_row {place width : Nat} (positive : 0 < width)
    (last : ¬ place % width + 1 < width) :
    (place + 1) / width = place / width + 1 ∧ (place + 1) % width = 0 := by
  refine (Nat.div_mod_unique positive).mpr ⟨?_, positive⟩
  have split := Nat.mod_add_div place width
  have bound := Nat.mod_lt place positive
  rw [Nat.mul_succ]
  omega

theorem write_at {raster : Raster Color} {place : Nat}
    (valid : raster.window.Valid) (standing : raster.At place)
    (color : Color) : (raster.write color).At (place + 1) := by
  obtain ⟨column, row⟩ := standing
  have columns := Window.left_add_width valid
  have rows := Window.top_add_height valid
  have rowPositive : 0 < raster.window.height := Nat.succ_pos _
  by_cases more : place % raster.window.width + 1 < raster.window.width
  · obtain ⟨sameRow, nextColumn⟩ := next_in_row more
    have inside : raster.column < raster.window.right := by omega
    have written : raster.write color =
        { raster.setPixel color with column := raster.column + 1 } :=
      if_pos inside
    rw [written]
    refine ⟨?_, ?_⟩
    · change raster.column + 1 = raster.window.left + _ % raster.window.width
      omega
    · change raster.row =
        raster.window.top + _ / raster.window.width % raster.window.height
      rw [sameRow, row]
  · obtain ⟨nextRow, firstColumn⟩ := next_row raster.window.width_pos more
    have edge : ¬ raster.column < raster.window.right := by omega
    by_cases below : place / raster.window.width % raster.window.height + 1 <
        raster.window.height
    · have above : raster.row < raster.window.bottom := by omega
      have written : raster.write color =
          { raster.setPixel color with
            column := raster.window.left, row := raster.row + 1 } :=
        (if_neg edge).trans (if_pos above)
      rw [written]
      refine ⟨?_, ?_⟩
      · change raster.window.left =
          raster.window.left + _ % raster.window.width
        rw [firstColumn, Nat.add_zero]
      · change raster.row + 1 =
          raster.window.top + _ / raster.window.width % raster.window.height
        rw [nextRow, (next_in_row below).2, row, Nat.add_assoc]
    · have last : ¬ raster.row < raster.window.bottom := by omega
      have written : raster.write color =
          { raster.setPixel color with
            column := raster.window.left, row := raster.window.top } :=
        (if_neg edge).trans (if_neg last)
      rw [written]
      refine ⟨?_, ?_⟩
      · change raster.window.left =
          raster.window.left + _ % raster.window.width
        rw [firstColumn, Nat.add_zero]
      · change raster.window.top =
          raster.window.top + _ / raster.window.width % raster.window.height
        rw [nextRow, (next_row rowPositive below).2, Nat.add_zero]

theorem stream_at {raster : Raster Color} (valid : raster.window.Valid)
    (standing : raster.At 0) (colors : List Color) :
    (raster.stream colors).At colors.length := by
  induction colors using List.reverseRecOn with
  | nil => exact standing
  | append_singleton colors color ih =>
      rw [stream_concat, List.length_append, List.length_singleton]
      refine write_at ?_ ih color
      rwa [stream_window]

theorem cursor_inside {raster : Raster Color} {place : Nat}
    (valid : raster.window.Valid) (standing : raster.At place) :
    raster.window.Contains raster.column raster.row := by
  obtain ⟨column, row⟩ := standing
  have columns := Window.left_add_width valid
  have rows := Window.top_add_height valid
  have inColumn := Nat.mod_lt place raster.window.width_pos
  have rowPositive : 0 < raster.window.height := Nat.succ_pos _
  have inRow := Nat.mod_lt (place / raster.window.width) rowPositive
  constructor
  · omega
  · omega
  · omega
  · omega

/-- A stream of any length stays in the window. -/
theorem stream_outside {raster : Raster Color} (valid : raster.window.Valid)
    (standing : raster.At 0) (colors : List Color) {x y : Nat}
    (outside : ¬ raster.window.Contains x y) :
    (raster.stream colors).pixels x y = raster.pixels x y := by
  induction colors using List.reverseRecOn with
  | nil => rfl
  | append_singleton colors color ih =>
      have place := stream_at valid standing colors
      have inside := cursor_inside (by rwa [stream_window]) place
      rw [stream_window] at inside
      rw [stream_concat, write_pixels, ih]
      refine if_neg ?_
      rintro ⟨rfl, rfl⟩
      exact outside inside

/-- A stream that fits the window fills its pixels in order and leaves the
others as they are. -/
theorem stream_pixels {raster : Raster Color} (valid : raster.window.Valid)
    (standing : raster.At 0) {colors : List Color}
    (fits : colors.length ≤ raster.window.width * raster.window.height)
    (x y : Nat) :
    (raster.stream colors).pixels x y =
      if raster.window.Contains x y then
        colors[raster.window.index x y]?.getD (raster.pixels x y)
      else
        raster.pixels x y := by
  induction colors using List.reverseRecOn with
  | nil => simp
  | append_singleton colors color ih =>
      rw [List.length_append, List.length_singleton] at fits
      have place := stream_at valid standing colors
      have row : colors.length / raster.window.width %
          raster.window.height = colors.length / raster.window.width :=
        Nat.mod_eq_of_lt (Nat.div_lt_of_lt_mul fits)
      rw [stream_concat, write_pixels, ih (by omega), place.column, place.row,
        stream_window, row]
      by_cases inside : raster.window.Contains x y
      · simp only [if_pos inside, ← Window.index_eq_iff inside]
        rcases Nat.lt_trichotomy (raster.window.index x y) colors.length with
          before | here | later
        · rw [if_neg (Nat.ne_of_lt before), List.getElem?_append_left before]
        · rw [if_pos here, here, List.getElem?_concat_length]
          rfl
        · rw [if_neg (Nat.ne_of_gt later), List.getElem?_eq_none (Nat.le_of_lt later),
            List.getElem?_eq_none (by
              rw [List.length_append, List.length_singleton]
              exact later)]
      · rw [if_neg inside, if_neg inside]
        refine if_neg fun ⟨columnEq, rowEq⟩ => inside ?_
        rw [columnEq, rowEq]
        exact Window.contains_of_place valid fits

theorem stream_replicate_keeps (raster : Raster Color) (count : Nat)
    {color : Color} {x y : Nat} (colored : raster.pixels x y = color) :
    (raster.stream (List.replicate count color)).pixels x y = color := by
  induction count with
  | zero => exact colored
  | succ count ih =>
      rw [List.replicate_succ', stream_concat, write_pixels, ih, ite_self]

/-- One color, streamed at least as long as the window is large, covers the
window. -/
theorem stream_replicate_covers {raster : Raster Color}
    (valid : raster.window.Valid) (standing : raster.At 0) {count : Nat}
    (enough : raster.window.width * raster.window.height ≤ count)
    (color : Color) {x y : Nat} (inside : raster.window.Contains x y) :
    (raster.stream (List.replicate count color)).pixels x y = color := by
  obtain ⟨more, rfl⟩ := Nat.exists_eq_add_of_le enough
  rw [List.replicate_add, stream, List.foldl_append]
  apply stream_replicate_keeps
  change (raster.stream (List.replicate _ color)).pixels x y = color
  rw [stream_pixels valid standing (by simp), if_pos inside,
    List.getElem?_replicate_of_lt (Window.index_lt inside)]
  rfl

end Raster

end Ch32v307.Data
