import Ch32v307.Lcd.Runs

namespace Ch32v307.Lcd

/-! Lines, rectangles, circles and characters. The source computes in `int` and
`uint32_t` and converts to the `uint16_t` of a parameter; since both keep the
low 16 bits, the argument is the conversion of the exact integer. -/

def drawPoints (dev : LcdDev) (color : UInt16) (points : List (ℤ × ℤ)) :
    List BusMsg :=
  points.flatMap fun point =>
    lcdDrawPoint dev (UInt16.ofInt point.1) (UInt16.ofInt point.2)
      color.toUInt32

/-! Lines. -/

structure Line where
  deltaX : ℤ
  deltaY : ℤ
  incx : ℤ
  incy : ℤ

def increment (delta : ℤ) : ℤ :=
  if delta > 0 then 1 else if delta = 0 then 0 else -1

/-- The increments of the coordinates, made positive, and their directions. -/
def Line.between (x1 y1 x2 y2 : UInt16) : Line :=
  let deltaX : ℤ := x2.toNat - x1.toNat
  let deltaY : ℤ := y2.toNat - y1.toNat
  { deltaX := if deltaX < 0 then -deltaX else deltaX
    deltaY := if deltaY < 0 then -deltaY else deltaY
    incx := increment deltaX
    incy := increment deltaY }

def Line.distance (line : Line) : ℤ :=
  if line.deltaX > line.deltaY then line.deltaX else line.deltaY

structure LineState where
  xerr : ℤ
  yerr : ℤ
  row : ℤ
  col : ℤ

def Line.next (line : Line) (state : LineState) : LineState :=
  let xerr := state.xerr + line.deltaX
  let yerr := state.yerr + line.deltaY
  { xerr := if xerr > line.distance then xerr - line.distance else xerr
    yerr := if yerr > line.distance then yerr - line.distance else yerr
    row := if xerr > line.distance then state.row + line.incx else state.row
    col := if yerr > line.distance then state.col + line.incy else state.col }

/-- The points of the loop. Its counter is an `uint16_t` compared with an
`int`, so a bound of 65535 is never passed: `none` once every value of the
counter has been seen. -/
def Line.points (line : Line) :
    Nat → UInt16 → LineState → Option (List (ℤ × ℤ))
  | 0, _, _ => none
  | fuel + 1, t, state =>
      if (t.toNat : ℤ) ≤ line.distance + 1 then
        (line.points fuel (t + 1) (line.next state)).map
          ((state.row, state.col) :: ·)
      else
        some []

def linePoints (x1 y1 x2 y2 : UInt16) : Option (List (ℤ × ℤ)) :=
  (Line.between x1 y1 x2 y2).points (65536 + 1) 0
    ⟨0, 0, x1.toNat, y1.toNat⟩

def lcdDrawLine (dev : LcdDev) (x1 y1 x2 y2 color : UInt16) :
    Option (List BusMsg) :=
  (linePoints x1 y1 x2 y2).map (drawPoints dev color)

def lcdDrawRectangle (dev : LcdDev) (x1 y1 x2 y2 color : UInt16) :
    Option (List BusMsg) := do
  let top ← lcdDrawLine dev x1 y1 x2 y1 color
  let left ← lcdDrawLine dev x1 y1 x1 y2 color
  let bottom ← lcdDrawLine dev x1 y2 x2 y2 color
  let right ← lcdDrawLine dev x2 y1 x2 y2 color
  some (top ++ left ++ bottom ++ right)

/-! Circles. -/

def circlePoints (x0 y0 a b : ℤ) : List (ℤ × ℤ) :=
  [ (x0 + a, y0 - b),
    (x0 + b, y0 - a),
    (x0 + b, y0 + a),
    (x0 + a, y0 + b),
    (x0 - a, y0 + b),
    (x0 - b, y0 + a),
    (x0 - a, y0 - b),
    (x0 - b, y0 - a) ]

/-- The values of `a` and `b` in the rounds of the loop. -/
def circleRounds : Nat → (a b di : ℤ) → Option (List (ℤ × ℤ))
  | 0, _, _, _ => none
  | fuel + 1, a, b, di =>
      if a ≤ b then
        let rounds :=
          if di < 0 then circleRounds fuel (a + 1) b (di + 4 * (a + 1) + 6)
          else
            circleRounds fuel (a + 1) (b - 1) (di + 10 + 4 * (a + 1 - b))
        rounds.map ((a, b) :: ·)
      else
        some []

def lcdDrawCircle (dev : LcdDev) (x0 y0 : UInt16) (r : UInt8)
    (color : UInt16) : Option (List BusMsg) :=
  (circleRounds (256 + 1) 0 r.toNat (3 - 2 * r.toNat)).map fun rounds =>
    drawPoints dev color
      (rounds.flatMap fun round =>
        circlePoints x0.toNat y0.toNat round.1 round.2)

/-! Filled circles. -/

def lcdDrawHline (dev : LcdDev) (x y len color : UInt16) :
    Option (List BusMsg) :=
  if len = 0 ∨ x > dev.width ∨ y > dev.height then some []
  else lcdFill dev x y (x + len - 1) y color.toUInt32

/-- The exact arguments of a call of `lcd_draw_hline`. -/
structure Hline where
  x : ℤ
  y : ℤ
  len : ℤ
  deriving DecidableEq, Repr

def drawHlines (dev : LcdDev) (color : UInt16) :
    List Hline → Option (List BusMsg)
  | [] => some []
  | line :: rest => do
      let first ← lcdDrawHline dev (UInt16.ofInt line.x) (UInt16.ofInt line.y)
        (UInt16.ofInt line.len) color
      let others ← drawHlines dev color rest
      some (first ++ others)

structure Disc where
  x : ℤ
  y : ℤ
  imax : UInt32
  sqmax : UInt32

def Disc.around (x y r : UInt16) : Disc where
  x := x.toNat
  y := y.toNat
  imax := r.toUInt32 * 707 / 1000 + 1
  sqmax := r.toUInt32 * r.toUInt32 + r.toUInt32 / 2

/-- The row `i` has left the circle at the half-width `xr`. -/
def Disc.narrows (disc : Disc) (i xr : UInt32) : Prop :=
  i * i + xr * xr > disc.sqmax

instance (disc : Disc) (i xr : UInt32) : Decidable (disc.narrows i xr) :=
  inferInstanceAs (Decidable (_ > _))

def Disc.nextXr (disc : Disc) (i xr : UInt32) : UInt32 :=
  if disc.narrows i xr then xr - 1 else xr

/-- The lines of one round, from outside and from inside. -/
def Disc.lines (disc : Disc) (i xr : UInt32) : List Hline :=
  let outside :=
    if disc.narrows i xr ∧ xr > disc.imax then
      [ ⟨disc.x - i.toNat + 1, disc.y + xr.toNat, 2 * (i.toNat - 1)⟩,
        ⟨disc.x - i.toNat + 1, disc.y - xr.toNat, 2 * (i.toNat - 1)⟩ ]
    else []
  let xr := disc.nextXr i xr
  outside ++
    [ ⟨disc.x - xr.toNat, disc.y + i.toNat, 2 * xr.toNat⟩,
      ⟨disc.x - xr.toNat, disc.y - i.toNat, 2 * xr.toNat⟩ ]

/-- The values of `i` and `xr` at the head of the rounds: `i` runs from 1 to
`imax`, far from the end of its range. -/
def Disc.rounds (disc : Disc) : Nat → (i xr : UInt32) → List (UInt32 × UInt32)
  | 0, _, _ => []
  | count + 1, i, xr =>
      (i, xr) :: disc.rounds count (i + 1) (disc.nextXr i xr)

def discRounds (x y r : UInt16) : List (UInt32 × UInt32) :=
  let disc := Disc.around x y r
  disc.rounds disc.imax.toNat 1 r.toUInt32

def discLines (x y r : UInt16) : List Hline :=
  ⟨x.toNat - r.toNat, y.toNat, 2 * r.toNat⟩ ::
    (discRounds x y r).flatMap fun round =>
      (Disc.around x y r).lines round.1 round.2

def lcdFillCircle (dev : LcdDev) (x y r color : UInt16) :
    Option (List BusMsg) :=
  drawHlines dev color (discLines x y r)

/-! Characters. -/

/-- What is fixed while a character is shown. -/
structure CharStyle where
  y0 : UInt16
  size : UInt8
  mode : UInt8
  color : UInt32
  gBackColor : UInt32

/-- A position the loops come to, and the byte whose top bit decides there. -/
structure Visit where
  x : UInt16
  y : UInt16
  temp : UInt8
  deriving DecidableEq, Repr

def CharStyle.draw (style : CharStyle) (dev : LcdDev) (visit : Visit) :
    List BusMsg :=
  if visit.temp &&& 0x80 ≠ 0 then lcdDrawPoint dev visit.x visit.y style.color
  else if style.mode = 0 then
    lcdDrawPoint dev visit.x visit.y style.gBackColor
  else []

/-- The loop over the bits of a byte, with the position it leaves; `none` when
it returns from the function. -/
def CharStyle.showByte (style : CharStyle) (dev : LcdDev) :
    Nat → UInt8 → UInt16 → UInt16 → List Visit × Option (UInt16 × UInt16)
  | 0, _, x, y => ([], some (x, y))
  | bits + 1, temp, x, y =>
      let visit : Visit := ⟨x, y, temp⟩
      let y := y + 1
      if y ≥ dev.height then ([visit], none)
      else if (y.toNat : ℤ) - style.y0.toNat = style.size.toNat then
        let x := x + 1
        if x ≥ dev.width then ([visit], none)
        else ([visit], some (x, style.y0))
      else
        let later := style.showByte dev bits (temp <<< 1) x y
        (visit :: later.1, later.2)

section Byte

variable {style : CharStyle} {dev : LcdDev} {x y : UInt16}

theorem showByte_bottom (bottom : y + 1 ≥ dev.height) (bits : Nat)
    (temp : UInt8) :
    style.showByte dev (bits + 1) temp x y = ([⟨x, y, temp⟩], none) := by
  rw [CharStyle.showByte]
  exact if_pos bottom

theorem showByte_full (above : ¬ y + 1 ≥ dev.height)
    (full : ((y + 1).toNat : ℤ) - style.y0.toNat = style.size.toNat)
    (bits : Nat) (temp : UInt8) :
    style.showByte dev (bits + 1) temp x y =
      ([⟨x, y, temp⟩],
        if x + 1 ≥ dev.width then none else some (x + 1, style.y0)) := by
  rw [CharStyle.showByte]
  refine (if_neg above).trans ((if_pos full).trans ?_)
  exact (apply_ite (Prod.mk [(⟨x, y, temp⟩ : Visit)]) _ _ _).symm

theorem showByte_more (above : ¬ y + 1 ≥ dev.height)
    (more : ¬ ((y + 1).toNat : ℤ) - style.y0.toNat = style.size.toNat)
    (bits : Nat) (temp : UInt8) :
    style.showByte dev (bits + 1) temp x y =
      (⟨x, y, temp⟩ :: (style.showByte dev bits (temp <<< 1) x (y + 1)).1,
        (style.showByte dev bits (temp <<< 1) x (y + 1)).2) := by
  rw [CharStyle.showByte]
  exact (if_neg above).trans (if_neg more)

end Byte

def CharStyle.showBytes (style : CharStyle) (dev : LcdDev) :
    List UInt8 → UInt16 → UInt16 → List Visit
  | [], _, _ => []
  | temp :: rest, x, y =>
      let shown := style.showByte dev 8 temp x y
      match shown.2 with
      | none => shown.1
      | some (x, y) => shown.1 ++ style.showBytes dev rest x y

def charSize (size : UInt8) : UInt8 :=
  (size / 8 + if size % 8 ≠ 0 then 1 else 0) * (size / 2)

def IsCharSize (size : UInt8) : Prop :=
  size = 12 ∨ size = 16 ∨ size = 24 ∨ size = 32

instance (size : UInt8) : Decidable (IsCharSize size) :=
  inferInstanceAs (Decidable (_ ∨ _))

/-- `font` is the memory of the four tables: the bytes of the character at an
index of the table for a size. -/
def charVisits (dev : LcdDev) (font : UInt8 → UInt8 → Nat → UInt8)
    (style : CharStyle) (x : UInt16) (chr : UInt8) : List Visit :=
  if IsCharSize style.size then
    let pfont := font style.size (chr - 32)
    style.showBytes dev ((List.range (charSize style.size).toNat).map pfont) x
      style.y0
  else
    []

def lcdShowChar (dev : LcdDev) (font : UInt8 → UInt8 → Nat → UInt8)
    (gBackColor : UInt32) (x y : UInt16) (chr size mode : UInt8)
    (color : UInt16) : List BusMsg :=
  let style : CharStyle := ⟨y, size, mode, color.toUInt32, gBackColor⟩
  (charVisits dev font style x chr).flatMap (style.draw dev)

/-! Points one by one are runs. -/

theorem drawPoints_isRuns (dev : LcdDev) (color : UInt16)
    (points : List (ℤ × ℤ)) : IsRuns dev (drawPoints dev color points) :=
  isRuns_flatMap (fun _ => lcdDrawPoint_isRuns dev _ _ _) points

theorem lcdDrawLine_isRuns {dev : LcdDev} {x1 y1 x2 y2 color : UInt16}
    {messages : List BusMsg}
    (returned : lcdDrawLine dev x1 y1 x2 y2 color = some messages) :
    IsRuns dev messages := by
  obtain ⟨points, -, rfl⟩ := Option.map_eq_some_iff.mp returned
  exact drawPoints_isRuns dev color points

theorem lcdShowChar_isRuns (dev : LcdDev)
    (font : UInt8 → UInt8 → Nat → UInt8) (gBackColor : UInt32) (x y : UInt16)
    (chr size mode : UInt8) (color : UInt16) :
    IsRuns dev
      (lcdShowChar dev font gBackColor x y chr size mode color) := by
  refine isRuns_flatMap (fun visit => ?_) _
  unfold CharStyle.draw
  split_ifs
  · exact lcdDrawPoint_isRuns dev _ _ _
  · exact lcdDrawPoint_isRuns dev _ _ _
  · exact ⟨[], rfl⟩

end Ch32v307.Lcd
