import Ch32v307.Lcd.Shapes

namespace Ch32v307.Lcd

open Data

/-! Boxes on the panel, and drawing that stays inside one. -/

structure Box where
  left : ℤ
  right : ℤ
  top : ℤ
  bottom : ℤ
  deriving DecidableEq, Repr

namespace Box

structure Contains (box : Box) (x y : ℤ) : Prop where
  left : box.left ≤ x
  right : x ≤ box.right
  top : box.top ≤ y
  bottom : y ≤ box.bottom

theorem pixel_contains (x y : ℤ) : Contains ⟨x, x, y, y⟩ x y :=
  ⟨Int.le_refl x, Int.le_refl x, Int.le_refl y, Int.le_refl y⟩

structure OnPanel (dev : LcdDev) (box : Box) : Prop where
  left : 0 ≤ box.left
  right : box.right < dev.width.toNat
  top : 0 ≤ box.top
  bottom : box.bottom < dev.height.toNat

end Box

/-- The integer is a value of the unsigned type with this many values. -/
def Fits (values integer : ℤ) : Prop := 0 ≤ integer ∧ integer < values

instance (values integer : ℤ) : Decidable (Fits values integer) :=
  inferInstanceAs (Decidable (_ ∧ _))

theorem ofInt_toNat {integer : ℤ} (fits : Fits 65536 integer) :
    ((UInt16.ofInt integer).toNat : ℤ) = integer := by
  obtain ⟨nonneg, below⟩ := fits
  rw [UInt16.ofInt, UInt16.toNat_ofNat']
  omega

section Panel

variable {dev : LcdDev} {box : Box}

theorem Box.OnPanel.column_fits (onPanel : box.OnPanel dev) {x : ℤ}
    (left : box.left ≤ x) (right : x ≤ box.right + 1) : Fits 65536 x := by
  have width := dev.width.toNat_lt
  have := onPanel.left
  have := onPanel.right
  constructor
  · omega
  · omega

theorem Box.OnPanel.row_fits (onPanel : box.OnPanel dev) {y : ℤ}
    (top : box.top ≤ y) (bottom : y ≤ box.bottom + 1) : Fits 65536 y := by
  have height := dev.height.toNat_lt
  have := onPanel.top
  have := onPanel.bottom
  constructor
  · omega
  · omega

/-! Runs in a box. -/

structure PixelRun.Within (box : Box) (run : PixelRun) : Prop where
  starts : box.Contains run.x.toNat run.y.toNat
  ends : (run.x.toNat : ℤ) + run.colors.length ≤ box.right + 1

theorem PixelRun.Within.onScreen {run : PixelRun} (within : run.Within box)
    (onPanel : box.OnPanel dev) : run.OnScreen dev := by
  obtain ⟨⟨_, right, _, bottom⟩, ends⟩ := within
  have := onPanel.right
  have := onPanel.bottom
  constructor
  · rw [UInt16.lt_iff_toNat_lt]
    omega
  · rw [UInt16.lt_iff_toNat_lt]
    omega
  · omega

theorem PixelRun.Within.contains {run : PixelRun} (within : run.Within box)
    {x y : Nat} (touches : run.Touches x y) : box.Contains x y := by
  obtain ⟨⟨left, _, top, bottom⟩, ends⟩ := within
  obtain ⟨rfl, after, before⟩ := touches
  exact ⟨by omega, by omega, top, bottom⟩

/-- The messages are runs inside the box. -/
def StaysIn (dev : LcdDev) (box : Box) (messages : List BusMsg) : Prop :=
  ∃ runs, messages = paintRuns dev runs ∧ ∀ run ∈ runs, run.Within box

theorem staysIn_nil : StaysIn dev box [] :=
  ⟨[], rfl, by simp⟩

theorem staysIn_append {first second : List BusMsg}
    (stays : StaysIn dev box first) (others : StaysIn dev box second) :
    StaysIn dev box (first ++ second) := by
  obtain ⟨runs, rfl, within⟩ := stays
  obtain ⟨more, rfl, moreWithin⟩ := others
  refine ⟨runs ++ more, (paintRuns_append ..).symm, fun run member => ?_⟩
  rcases List.mem_append.mp member with here | there
  · exact within run here
  · exact moreWithin run there

theorem staysIn_flatMap {α : Type} {f : α → List BusMsg} {list : List α}
    (each : ∀ a ∈ list, StaysIn dev box (f a)) :
    StaysIn dev box (list.flatMap f) := by
  induction list with
  | nil => exact staysIn_nil
  | cons a rest ih =>
      obtain ⟨here, others⟩ := List.forall_mem_cons.mp each
      exact staysIn_append here (ih others)

/-- On the panel, nothing outside the box changes. -/
theorem StaysIn.outside {messages : List BusMsg}
    (stays : StaysIn dev box messages) (commands : dev.CommandsSet)
    (onPanel : box.OnPanel dev) {panel : Panel} (ends : panel.EndsFull dev)
    {x y : Nat} (outside : ¬ box.Contains x y) :
    (panel.send dev.addressing messages).pixels x y = panel.pixels x y := by
  obtain ⟨runs, rfl, within⟩ := stays
  have onScreen : ∀ run ∈ runs, run.OnScreen dev := fun run member =>
    (within run member).onScreen onPanel
  rw [(paintRuns_spec commands ends onScreen).2]
  clear onScreen
  generalize panel.pixels = picture
  induction runs generalizing picture with
  | nil => rfl
  | cons run runs ih =>
      obtain ⟨here, others⟩ := List.forall_mem_cons.mp within
      rw [List.foldl_cons, ih others]
      exact PixelRun.paint_untouched (mt here.contains outside) picture

/-! Rectangles and lines of one color. -/

theorem pointRun_within {x y : UInt16}
    (inside : box.Contains x.toNat y.toNat) (color : UInt16) :
    (pointRun x y color).Within box := by
  refine ⟨inside, ?_⟩
  have right := inside.right
  change (x.toNat : ℤ) + 1 ≤ box.right + 1
  omega

theorem lcdDrawPoint_staysIn {x y : UInt16}
    (inside : box.Contains x.toNat y.toNat) (color : UInt32) :
    StaysIn dev box (lcdDrawPoint dev x y color) := by
  refine ⟨_, lcdDrawPoint_eq_paintRuns dev x y color, fun run member => ?_⟩
  obtain rfl := List.mem_singleton.mp member
  exact pointRun_within inside _

theorem drawPoints_staysIn (onPanel : box.OnPanel dev) (color : UInt16)
    {points : List (ℤ × ℤ)}
    (inside : ∀ point ∈ points, box.Contains point.1 point.2) :
    StaysIn dev box (drawPoints dev color points) := by
  refine staysIn_flatMap fun point member => lcdDrawPoint_staysIn ?_ _
  obtain ⟨left, right, top, bottom⟩ := inside point member
  have column := ofInt_toNat (onPanel.column_fits left (by omega))
  have row := ofInt_toNat (onPanel.row_fits top (by omega))
  rw [column, row]
  exact ⟨left, right, top, bottom⟩

theorem Box.OnPanel.rect {sx sy ex ey : UInt16} (columns : sx ≤ ex)
    (rows : sy ≤ ey)
    (onPanel : Box.OnPanel dev ⟨sx.toNat, ex.toNat, sy.toNat, ey.toNat⟩) :
    OnScreenRect dev sx sy ex ey := by
  have right : (ex.toNat : ℤ) < dev.width.toNat := onPanel.right
  have bottom : (ey.toNat : ℤ) < dev.height.toNat := onPanel.bottom
  refine ⟨columns, ?_, rows, ?_⟩
  · exact UInt16.lt_iff_toNat_lt.mpr (by omega)
  · exact UInt16.lt_iff_toNat_lt.mpr (by omega)

theorem Box.OnPanel.rect_of_toNat_le {sx sy ex ey : UInt16}
    (columns : (sx.toNat : ℤ) ≤ ex.toNat) (rows : (sy.toNat : ℤ) ≤ ey.toNat)
    (onPanel : Box.OnPanel dev ⟨sx.toNat, ex.toNat, sy.toNat, ey.toNat⟩) :
    OnScreenRect dev sx sy ex ey :=
  onPanel.rect (UInt16.le_iff_toNat_le.mpr (Int.ofNat_le.mp columns))
    (UInt16.le_iff_toNat_le.mpr (Int.ofNat_le.mp rows))

theorem rowRuns_within {sx sy ex ey : UInt16}
    (rect : OnScreenRect dev sx sy ex ey)
    (left : box.left ≤ sx.toNat) (right : ex.toNat ≤ box.right)
    (top : box.top ≤ sy.toNat) (bottom : ey.toNat ≤ box.bottom)
    {colors : Nat → List UInt16}
    (length : ∀ i, (colors i).length = (ex - sx + 1).toNat) :
    ∀ run ∈ rowRuns sx sy (ey - sy + 1).toNat colors, run.Within box := by
  have columns := UInt16.le_iff_toNat_le.mp rect.columns
  have rows := UInt16.le_iff_toNat_le.mp rect.rows
  have screen := UInt16.lt_iff_toNat_lt.mp rect.bottom
  have bound := dev.height.toNat_lt
  have width := side_toNat rect.columns rect.right
  intro run member
  obtain ⟨i, inRange, rfl⟩ := List.mem_map.mp member
  rw [List.mem_range, side_toNat rect.rows rect.bottom] at inRange
  have row : (sy + UInt16.ofNat i).toNat = sy.toNat + i := by
    simp only [UInt16.toNat_add, UInt16.toNat_ofNat']
    omega
  refine ⟨⟨left, ?_, ?_, ?_⟩, ?_⟩
  · change (sx.toNat : ℤ) ≤ box.right
    omega
  · change box.top ≤ ((sy + UInt16.ofNat i).toNat : ℤ)
    omega
  · change ((sy + UInt16.ofNat i).toNat : ℤ) ≤ box.bottom
    omega
  · change (sx.toNat : ℤ) + (colors i).length ≤ box.right + 1
    rw [length, width]
    omega

theorem lcdColorFill_staysIn {sx sy ex ey : UInt16}
    (rect : OnScreenRect dev sx sy ex ey)
    (left : box.left ≤ sx.toNat) (right : ex.toNat ≤ box.right)
    (top : box.top ≤ sy.toNat) (bottom : ey.toNat ≤ box.bottom)
    (color : Nat → UInt16) :
    StaysIn dev box (lcdColorFill dev sx sy ex ey color) := by
  rw [lcdColorFill_eq_paintRows, paintRows_eq_paintRuns]
  exact ⟨_, rfl, rowRuns_within rect left right top bottom (by simp)⟩

theorem lcdFill_staysIn {sx sy ex ey : UInt16}
    (rect : OnScreenRect dev sx sy ex ey)
    (left : box.left ≤ sx.toNat) (right : ex.toNat ≤ box.right)
    (top : box.top ≤ sy.toNat) (bottom : ey.toNat ≤ box.bottom)
    (color : UInt32) :
    ∃ messages, lcdFill dev sx sy ex ey color = some messages ∧
      StaysIn dev box messages :=
  ⟨_, lcdFill_eq_lcdColorFill dev color rect,
    lcdColorFill_staysIn rect left right top bottom _⟩

structure Hline.Within (box : Box) (line : Hline) : Prop where
  length : 0 ≤ line.len
  left : box.left ≤ line.x
  right : line.x + line.len ≤ box.right + 1
  top : box.top ≤ line.y
  bottom : line.y ≤ box.bottom

/-- The values the source computes from the arguments fit `uint16_t`. -/
structure Hline.Exact (line : Hline) : Prop where
  x : Fits 65536 line.x
  y : Fits 65536 line.y
  len : Fits 65536 line.len
  last : line.len ≠ 0 → Fits 65536 (line.x + line.len - 1)

theorem Hline.Within.exact {line : Hline} (within : line.Within box)
    (onPanel : box.OnPanel dev) : line.Exact := by
  obtain ⟨length, left, right, top, bottom⟩ := within
  constructor
  · exact onPanel.column_fits left (by omega)
  · exact onPanel.row_fits top (by omega)
  · have := dev.width.toNat_lt
    have := onPanel.left
    have := onPanel.right
    exact ⟨length, by omega⟩
  · intro nonempty
    exact onPanel.column_fits (by omega) (by omega)

theorem lcdDrawHline_staysIn {x y len : UInt16} {line : Hline}
    (within : line.Within box) (onPanel : box.OnPanel dev)
    (sameX : (x.toNat : ℤ) = line.x) (sameY : (y.toNat : ℤ) = line.y)
    (sameLen : (len.toNat : ℤ) = line.len) (color : UInt16) :
    ∃ messages, lcdDrawHline dev x y len color = some messages ∧
      StaysIn dev box messages := by
  obtain ⟨length, left, right, top, bottom⟩ := within
  have := onPanel.right
  have := onPanel.bottom
  unfold lcdDrawHline
  split
  · exact ⟨[], rfl, staysIn_nil⟩
  case isFalse drawn =>
    have nonempty : len.toNat ≠ 0 := fun zero =>
      drawn (Or.inl (UInt16.toNat_inj.mp zero))
    have last : (x + len - 1).toNat = x.toNat + len.toNat - 1 :=
      Word.toNat_last (by omega) (by omega : _ ≤ dev.width.toNat)
    apply lcdFill_staysIn
    · constructor
      · rw [UInt16.le_iff_toNat_le]
        omega
      · rw [UInt16.lt_iff_toNat_lt]
        omega
      · exact UInt16.le_refl y
      · rw [UInt16.lt_iff_toNat_lt]
        omega
    · omega
    · omega
    · omega
    · omega

theorem drawHlines_staysIn (onPanel : box.OnPanel dev) (color : UInt16)
    {lines : List Hline} (within : ∀ line ∈ lines, line.Within box) :
    ∃ messages, drawHlines dev color lines = some messages ∧
      StaysIn dev box messages := by
  induction lines with
  | nil => exact ⟨[], rfl, staysIn_nil⟩
  | cons line rest ih =>
      obtain ⟨here, others⟩ := List.forall_mem_cons.mp within
      have fits := here.exact onPanel
      obtain ⟨first, drawn, firstStays⟩ := lcdDrawHline_staysIn here onPanel
        (ofInt_toNat fits.x) (ofInt_toNat fits.y) (ofInt_toNat fits.len) color
      obtain ⟨later, remaining, laterStays⟩ := ih others
      refine ⟨first ++ later, ?_, staysIn_append firstStays laterStays⟩
      rw [drawHlines, drawn, remaining]
      rfl

end Panel

end Ch32v307.Lcd
