import Ch32v307.Lcd.ShapeBounds

namespace Ch32v307.Lcd

open Data

/-! Every drawing call against its nominal box. -/

inductive DrawCall where
  | lcdDrawLine (x1 y1 x2 y2 color : UInt16)
  | lcdDrawRectangle (x1 y1 x2 y2 color : UInt16)
  | lcdDrawCircle (x0 y0 : UInt16) (r : UInt8) (color : UInt16)
  | lcdFillCircle (x y r color : UInt16)
  | lcdDrawHline (x y len color : UInt16)
  | lcdFill (sx sy ex ey : UInt16) (color : UInt32)
  | lcdColorFill (sx sy ex ey : UInt16) (color : Nat → UInt16)
  | lcdShowChar (font : UInt8 → UInt8 → Nat → UInt8) (gBackColor : UInt32)
      (x y : UInt16) (chr size mode : UInt8) (color : UInt16)

namespace DrawCall

/-- The messages of a call; `none` when it does not return. -/
def messages (dev : LcdDev) : DrawCall → Option (List BusMsg)
  | lcdDrawLine x1 y1 x2 y2 color => Lcd.lcdDrawLine dev x1 y1 x2 y2 color
  | lcdDrawRectangle x1 y1 x2 y2 color =>
      Lcd.lcdDrawRectangle dev x1 y1 x2 y2 color
  | lcdDrawCircle x0 y0 r color => Lcd.lcdDrawCircle dev x0 y0 r color
  | lcdFillCircle x y r color => Lcd.lcdFillCircle dev x y r color
  | lcdDrawHline x y len color => Lcd.lcdDrawHline dev x y len color
  | lcdFill sx sy ex ey color => Lcd.lcdFill dev sx sy ex ey color
  | lcdColorFill sx sy ex ey color =>
      some (Lcd.lcdColorFill dev sx sy ex ey color)
  | lcdShowChar font gBackColor x y chr size mode color =>
      some (Lcd.lcdShowChar dev font gBackColor x y chr size mode color)

def box : DrawCall → Box
  | lcdDrawLine x1 y1 x2 y2 _ => Line.box x1 y1 x2 y2
  | lcdDrawRectangle x1 y1 x2 y2 _ => Line.box x1 y1 x2 y2
  | lcdDrawCircle x0 y0 r _ => circleBox x0.toNat y0.toNat r.toNat
  | lcdFillCircle x y r _ => circleBox x.toNat y.toNat r.toNat
  | lcdDrawHline x y len _ =>
      ⟨x.toNat, x.toNat + len.toNat - 1, y.toNat, y.toNat⟩
  | lcdFill sx sy ex ey _ => ⟨sx.toNat, ex.toNat, sy.toNat, ey.toNat⟩
  | lcdColorFill sx sy ex ey _ => ⟨sx.toNat, ex.toNat, sy.toNat, ey.toNat⟩
  | lcdShowChar _ _ x y _ size _ _ =>
      ⟨x.toNat, x.toNat + (size.toNat / 2 : ℕ) - 1,
        y.toNat, y.toNat + size.toNat - 1⟩

/-- A line has a pixel at least, and a rectangle its corners in order. -/
def Proper : DrawCall → Prop
  | lcdDrawHline _ _ len _ => 1 ≤ len.toNat
  | lcdFill sx sy ex ey _ => sx ≤ ex ∧ sy ≤ ey
  | lcdColorFill sx sy ex ey _ => sx ≤ ex ∧ sy ≤ ey
  | _ => True

/-- The points of a line, before their conversion to `uint16_t`. -/
def ExactLine (x1 y1 x2 y2 : UInt16) : Prop :=
  ∀ points, linePoints x1 y1 x2 y2 = some points → ∀ point ∈ points,
    Fits 65536 point.1 ∧ Fits 65536 point.2

def ExactCircle (x0 y0 : UInt16) (r : UInt8) : Prop :=
  ∀ rounds, circleRounds (256 + 1) 0 r.toNat (3 - 2 * r.toNat) = some rounds →
    ∀ round ∈ rounds, ∀ point ∈ circlePoints x0.toNat y0.toNat round.1 round.2,
      Fits 65536 point.1 ∧ Fits 65536 point.2

structure ExactDisc (x y r : UInt16) : Prop where
  lines : ∀ line ∈ discLines x y r, line.Exact
  product : Fits 4294967296 (r.toNat * 707)
  square : Fits 4294967296 (r.toNat * r.toNat + r.toNat / 2)
  rounds : ∀ round ∈ discRounds x y r,
    (Disc.around x y r).ExactRound round.1 round.2

structure ExactRect (sx sy ex ey : UInt16) : Prop where
  width : Fits 65536 ((ex.toNat : ℤ) - sx.toNat + 1)
  height : Fits 65536 ((ey.toNat : ℤ) - sy.toNat + 1)
  passed : Fits 65536 (ey.toNat + 1)

/-- No coordinate, length or radius that the call computes wraps around. -/
def Exact (dev : LcdDev) : DrawCall → Prop
  | lcdDrawLine x1 y1 x2 y2 _ => ExactLine x1 y1 x2 y2
  | lcdDrawRectangle x1 y1 x2 y2 _ =>
      ExactLine x1 y1 x2 y1 ∧ ExactLine x1 y1 x1 y2 ∧
        ExactLine x1 y2 x2 y2 ∧ ExactLine x2 y1 x2 y2
  | lcdDrawCircle x0 y0 r _ => ExactCircle x0 y0 r
  | lcdFillCircle x y r _ => ExactDisc x y r
  | lcdDrawHline x y len _ => Hline.Exact ⟨x.toNat, y.toNat, len.toNat⟩
  | lcdFill sx sy ex ey _ => ExactRect sx sy ex ey
  | lcdColorFill sx sy ex ey _ => ExactRect sx sy ex ey
  | lcdShowChar font gBackColor x y chr size mode color =>
      ∀ visit ∈ charVisits dev font ⟨y, size, mode, color.toUInt32, gBackColor⟩
          x chr,
        Fits 65536 (visit.x.toNat + 1) ∧ Fits 65536 (visit.y.toNat + 1)

/-- The call returns, each of its runs is inside the box, and the panel shows
no change elsewhere. -/
structure Contained (dev : LcdDev) (call : DrawCall) : Prop where
  exact : call.Exact dev
  drawn : ∃ sent, call.messages dev = some sent ∧
    StaysIn dev call.box sent ∧
    ∀ panel : Panel, panel.EndsFull dev → ∀ x y : Nat,
      ¬ call.box.Contains x y →
        (panel.send dev.addressing sent).pixels x y = panel.pixels x y

/-- The sizes for which a call stays in its box. -/
def Sized : DrawCall → Prop
  | lcdDrawLine x1 y1 x2 y2 _ =>
      |(x2.toNat : ℤ) - x1.toNat| < 65534 ∧ |(y2.toNat : ℤ) - y1.toNat| < 65534
  | lcdDrawRectangle x1 y1 x2 y2 _ =>
      |(x2.toNat : ℤ) - x1.toNat| < 65534 ∧ |(y2.toNat : ℤ) - y1.toNat| < 65534
  | lcdFillCircle _ _ r _ => r ≠ 0
  | _ => True

end DrawCall

/-! Lines and rectangles. -/

section Lines

variable {dev : LcdDev} {box : Box} {x1 y1 x2 y2 : UInt16}

theorem distance_lt_iff :
    (Line.between x1 y1 x2 y2).distance < 65534 ↔
      |(x2.toNat : ℤ) - x1.toNat| < 65534 ∧
        |(y2.toNat : ℤ) - y1.toNat| < 65534 := by
  rw [Line.distance_eq_max, Line.deltaX_between, Line.deltaY_between, max_lt_iff]

theorem linePoints_inside
    (short : (Line.between x1 y1 x2 y2).distance < 65534) :
    ∃ points, linePoints x1 y1 x2 y2 = some points ∧
      ∀ point ∈ points, (Line.box x1 y1 x2 y2).Contains point.1 point.2 := by
  have nonneg : 0 ≤ (Line.between x1 y1 x2 y2).distance :=
    Line.distance_nonneg
  refine ⟨_, Line.linePoints_eq short, ?_⟩
  rw [List.forall_mem_map]
  intro round inRange
  rw [List.mem_range] at inRange
  exact Line.tracks_inside (Line.iterate_tracks round) (by omega)

theorem linePoints_endless
    (long : 65534 ≤ (Line.between x1 y1 x2 y2).distance) :
    linePoints x1 y1 x2 y2 = none :=
  Line.points_endless long ..

/-- A box with the two ends has the line. -/
theorem lcdDrawLine_staysIn (onPanel : box.OnPanel dev)
    (first : box.Contains x1.toNat y1.toNat)
    (last : box.Contains x2.toNat y2.toNat)
    (short : (Line.between x1 y1 x2 y2).distance < 65534) (color : UInt16) :
    DrawCall.ExactLine x1 y1 x2 y2 ∧
      ∃ sent, lcdDrawLine dev x1 y1 x2 y2 color = some sent ∧
        StaysIn dev box sent := by
  obtain ⟨points, drawn, between⟩ := linePoints_inside short
  have inside : ∀ point ∈ points, box.Contains point.1 point.2 := by
    intro point member
    obtain ⟨left, right, top, bottom⟩ := between point member
    constructor
    · exact (le_min first.left last.left).trans left
    · exact right.trans (max_le first.right last.right)
    · exact (le_min first.top last.top).trans top
    · exact bottom.trans (max_le first.bottom last.bottom)
  constructor
  · intro other same point member
    obtain rfl := Option.some.inj (drawn.symm.trans same)
    obtain ⟨left, right, top, bottom⟩ := inside point member
    exact ⟨onPanel.column_fits left (by omega), onPanel.row_fits top (by omega)⟩
  · refine ⟨_, ?_, drawPoints_staysIn onPanel color inside⟩
    rw [lcdDrawLine, drawn]
    rfl

/-- Every line of a rectangle has two of its corners as ends. -/
theorem lcdDrawRectangle_staysIn (onPanel : box.OnPanel dev)
    (first : box.Contains x1.toNat y1.toNat)
    (last : box.Contains x2.toNat y2.toNat)
    (wide : |(x2.toNat : ℤ) - x1.toNat| < 65534)
    (high : |(y2.toNat : ℤ) - y1.toNat| < 65534) (color : UInt16) :
    (DrawCall.lcdDrawRectangle x1 y1 x2 y2 color).Exact dev ∧
      ∃ sent, lcdDrawRectangle dev x1 y1 x2 y2 color = some sent ∧
        StaysIn dev box sent := by
  have upperRight : box.Contains x2.toNat y1.toNat :=
    ⟨last.left, last.right, first.top, first.bottom⟩
  have lowerLeft : box.Contains x1.toNat y2.toNat :=
    ⟨first.left, first.right, last.top, last.bottom⟩
  have level : ∀ a : UInt16, |(a.toNat : ℤ) - a.toNat| < 65534 := by
    intro a
    rw [sub_self, abs_zero]
    decide
  obtain ⟨topExact, top, topDrawn, topStays⟩ := lcdDrawLine_staysIn onPanel
    first upperRight (distance_lt_iff.mpr ⟨wide, level y1⟩) color
  obtain ⟨leftExact, left, leftDrawn, leftStays⟩ := lcdDrawLine_staysIn onPanel
    first lowerLeft (distance_lt_iff.mpr ⟨level x1, high⟩) color
  obtain ⟨bottomExact, bottom, bottomDrawn, bottomStays⟩ :=
    lcdDrawLine_staysIn onPanel lowerLeft last
      (distance_lt_iff.mpr ⟨wide, level y2⟩) color
  obtain ⟨rightExact, right, rightDrawn, rightStays⟩ :=
    lcdDrawLine_staysIn onPanel upperRight last
      (distance_lt_iff.mpr ⟨level x2, high⟩) color
  refine ⟨⟨topExact, leftExact, bottomExact, rightExact⟩,
    top ++ left ++ bottom ++ right, ?_, ?_⟩
  · rw [lcdDrawRectangle, topDrawn, leftDrawn, bottomDrawn, rightDrawn]
    rfl
  · exact staysIn_append (staysIn_append (staysIn_append topStays leftStays)
      bottomStays) rightStays

end Lines

/-! Circles. -/

section Circles

variable {dev : LcdDev}

theorem lcdDrawCircle_staysIn {x0 y0 : UInt16} {r : UInt8}
    (onPanel : (circleBox x0.toNat y0.toNat r.toNat).OnPanel dev)
    (color : UInt16) :
    DrawCall.ExactCircle x0 y0 r ∧
      ∃ sent, lcdDrawCircle dev x0 y0 r color = some sent ∧
        StaysIn dev (circleBox x0.toNat y0.toNat r.toNat) sent := by
  obtain ⟨rounds, counted, inside⟩ := circle_inside x0.toNat y0.toNat r
  constructor
  · intro other same round inRounds point member
    obtain rfl := Option.some.inj (counted.symm.trans same)
    obtain ⟨left, right, top, bottom⟩ :=
      inside point (List.mem_flatMap.mpr ⟨round, inRounds, member⟩)
    exact ⟨onPanel.column_fits left (by omega), onPanel.row_fits top (by omega)⟩
  · refine ⟨_, ?_, drawPoints_staysIn onPanel color inside⟩
    rw [lcdDrawCircle, counted]
    rfl

theorem lcdFillCircle_staysIn {x y r : UInt16}
    (onPanel : (circleBox x.toNat y.toNat r.toNat).OnPanel dev)
    (nonempty : r ≠ 0) (color : UInt16) :
    DrawCall.ExactDisc x y r ∧
      ∃ sent, lcdFillCircle dev x y r color = some sent ∧
        StaysIn dev (circleBox x.toNat y.toNat r.toNat) sent := by
  have left : 0 ≤ (x.toNat : ℤ) - r.toNat := onPanel.left
  have right : (x.toNat : ℤ) + r.toNat < dev.width.toNat := onPanel.right
  have width := dev.width.toNat_lt
  have small : r.toNat < 32768 := by omega
  have within := Disc.discLines_within (x := x) (y := y) nonempty small
  have square := Disc.square_toNat r.toUInt32 (by
    rw [UInt16.toNat_toUInt32]
    exact small)
  rw [UInt16.toNat_toUInt32] at square
  refine ⟨⟨?_, ?_, ?_, ?_⟩, drawHlines_staysIn onPanel color within⟩
  · exact fun line member => (within line member).exact onPanel
  · constructor
    · omega
    · omega
  · have sum : r.toNat * r.toNat + r.toNat / 2 < 4294967296 := by omega
    constructor
    · exact_mod_cast Nat.zero_le _
    · exact_mod_cast sum
  · intro round member
    exact Disc.exactRound (Disc.discRounds_inRound nonempty small round member)
      (by omega)

/-- The circle of radius 0 has one round, and counts its half-width down
from 0. -/
theorem not_exactDisc_zero (x y : UInt16) : ¬ DrawCall.ExactDisc x y 0 := by
  intro exact
  have round : ((1, 0) : UInt32 × UInt32) ∈ discRounds x y 0 :=
    List.mem_cons_self
  have narrows : (Disc.around x y 0).narrows 1 0 := by
    change (1 : UInt32) * 1 + 0 * 0 > 0 * 0 + 0 / 2
    decide
  exact absurd ((exact.rounds _ round).half narrows).1 (by decide)

end Circles

/-! Rectangles of one color, of an array, and characters. -/

section Areas

variable {dev : LcdDev}

theorem exactRect {sx sy ex ey : UInt16} (rect : OnScreenRect dev sx sy ex ey) :
    DrawCall.ExactRect sx sy ex ey := by
  obtain ⟨columns, right, rows, bottom⟩ := rect
  have width := dev.width.toNat_lt
  have height := dev.height.toNat_lt
  rw [UInt16.le_iff_toNat_le] at columns rows
  rw [UInt16.lt_iff_toNat_lt] at right bottom
  refine ⟨⟨?_, ?_⟩, ⟨?_, ?_⟩, ⟨?_, ?_⟩⟩
  all_goals omega

theorem lcdShowChar_staysIn (font : UInt8 → UInt8 → Nat → UInt8)
    (gBackColor : UInt32) {x y : UInt16} (chr : UInt8) {size : UInt8}
    (mode : UInt8) (color : UInt16)
    (onPanel : (DrawCall.lcdShowChar font gBackColor x y chr size mode
      color).box.OnPanel dev) :
    (DrawCall.lcdShowChar font gBackColor x y chr size mode color).Exact dev ∧
      StaysIn dev
        (DrawCall.lcdShowChar font gBackColor x y chr size mode color).box
        (lcdShowChar dev font gBackColor x y chr size mode color) := by
  have right : (x.toNat : ℤ) + (size.toNat / 2 : ℕ) - 1 < dev.width.toNat :=
    onPanel.right
  have bottom : (y.toNat : ℤ) + size.toNat - 1 < dev.height.toNat :=
    onPanel.bottom
  have width := dev.width.toNat_lt
  have height := dev.height.toNat_lt
  let style : CharStyle := ⟨y, size, mode, color.toUInt32, gBackColor⟩
  have inside : ∀ visit ∈ charVisits dev font style x chr,
      style.Inside x.toNat (size.toNat / 2) visit :=
    charVisits_inside font x chr (by change y.toNat + size.toNat ≤ _; omega)
      (by change x.toNat + size.toNat / 2 ≤ _; omega)
  constructor
  · intro visit member
    obtain ⟨-, visitRight, -, visitBottom⟩ := inside visit member
    change visit.y.toNat < y.toNat + size.toNat at visitBottom
    refine ⟨⟨?_, ?_⟩, ⟨?_, ?_⟩⟩
    all_goals omega
  · refine staysIn_flatMap fun visit member => ?_
    obtain ⟨visitLeft, visitRight, visitTop, visitBottom⟩ := inside visit member
    have contained : (DrawCall.lcdShowChar font gBackColor x y chr size mode
        color).box.Contains visit.x.toNat visit.y.toNat := by
      change y.toNat ≤ visit.y.toNat at visitTop
      change visit.y.toNat < y.toNat + size.toNat at visitBottom
      constructor
      all_goals
        simp only [DrawCall.box]
        omega
    unfold CharStyle.draw
    split_ifs
    · exact lcdDrawPoint_staysIn contained _
    · exact lcdDrawPoint_staysIn contained _
    · exact staysIn_nil

end Areas

/-- What a call draws, when it is large enough to draw at all. -/
theorem sized_staysIn {dev : LcdDev} {call : DrawCall} (proper : call.Proper)
    (onPanel : call.box.OnPanel dev) (sized : call.Sized) :
    call.Exact dev ∧ ∃ sent, call.messages dev = some sent ∧
      StaysIn dev call.box sent := by
  cases call with
  | lcdDrawLine x1 y1 x2 y2 color =>
      exact lcdDrawLine_staysIn onPanel Line.box_first Line.box_last
        (distance_lt_iff.mpr sized) color
  | lcdDrawRectangle x1 y1 x2 y2 color =>
      exact lcdDrawRectangle_staysIn onPanel Line.box_first Line.box_last
        sized.1 sized.2 color
  | lcdDrawCircle x0 y0 r color => exact lcdDrawCircle_staysIn onPanel color
  | lcdFillCircle x y r color => exact lcdFillCircle_staysIn onPanel sized color
  | lcdDrawHline x y len color =>
      let line : Hline := ⟨x.toNat, y.toNat, len.toNat⟩
      have within : line.Within (DrawCall.lcdDrawHline x y len color).box := by
        constructor
        all_goals
          simp only [DrawCall.box, line]
          omega
      exact ⟨within.exact onPanel,
        lcdDrawHline_staysIn within onPanel rfl rfl rfl color⟩
  | lcdFill sx sy ex ey color =>
      have rect := Box.OnPanel.rect proper.1 proper.2 onPanel
      exact ⟨exactRect rect, lcdFill_staysIn rect (le_refl _) (le_refl _)
        (le_refl _) (le_refl _) color⟩
  | lcdColorFill sx sy ex ey color =>
      have rect := Box.OnPanel.rect proper.1 proper.2 onPanel
      exact ⟨exactRect rect, _, rfl, lcdColorFill_staysIn rect (le_refl _)
        (le_refl _) (le_refl _) (le_refl _) color⟩
  | lcdShowChar font gBackColor x y chr size mode color =>
      obtain ⟨exactness, stays⟩ :=
        lcdShowChar_staysIn font gBackColor chr mode color onPanel
      exact ⟨exactness, _, rfl, stays⟩

theorem lcdDrawLine_endless (dev : LcdDev) {x1 y1 x2 y2 : UInt16}
    (color : UInt16)
    (long : 65534 ≤ (Line.between x1 y1 x2 y2).distance) :
    lcdDrawLine dev x1 y1 x2 y2 color = none := by
  rw [lcdDrawLine, linePoints_endless long]
  rfl

/-- The loop that does not end draws on past the end of the line. -/
theorem endless_leaves_box {x1 y1 x2 y2 : UInt16}
    (long : 65534 ≤ (Line.between x1 y1 x2 y2).distance) :
    ∃ rounds : Nat, ¬ (Line.box x1 y1 x2 y2).Contains
      ((Line.between x1 y1 x2 y2).next^[rounds]
        ⟨0, 0, x1.toNat, y1.toNat⟩).row
      ((Line.between x1 y1 x2 y2).next^[rounds]
        ⟨0, 0, x1.toNat, y1.toNat⟩).col := by
  obtain ⟨bound, counted⟩ := Int.eq_ofNat_of_zero_le
    ((by decide : (0 : ℤ) ≤ 65534).trans long)
  exact ⟨bound + 2, Line.past_end_outside (by omega) (by omega)
    (Line.iterate_tracks _)⟩

/-- A rectangle draws a line along each of its sides. -/
theorem lcdDrawRectangle_returns {dev : LcdDev} {x1 y1 x2 y2 color : UInt16}
    {sent : List BusMsg}
    (drawn : lcdDrawRectangle dev x1 y1 x2 y2 color = some sent) :
    (Line.between x1 y1 x2 y1).distance < 65534 ∧
      (Line.between x1 y1 x1 y2).distance < 65534 := by
  obtain ⟨top, topDrawn, later⟩ := Option.bind_eq_some_iff.mp drawn
  obtain ⟨left, leftDrawn, -⟩ := Option.bind_eq_some_iff.mp later
  constructor
  · by_contra long
    rw [lcdDrawLine_endless dev color (not_lt.mp long)] at topDrawn
    cases topDrawn
  · by_contra long
    rw [lcdDrawLine_endless dev color (not_lt.mp long)] at leftDrawn
    cases leftDrawn

/-- A call whose box is on the panel keeps to it, without a value that wraps
around, precisely for the sizes its counters can count. -/
theorem drawing_contained_iff {dev : LcdDev} (commands : dev.CommandsSet)
    {call : DrawCall} (proper : call.Proper)
    (onPanel : call.box.OnPanel dev) : call.Contained dev ↔ call.Sized := by
  constructor
  · rintro ⟨exactness, sent, returned, -⟩
    cases call with
    | lcdDrawLine x1 y1 x2 y2 color =>
        refine distance_lt_iff.mp (not_le.mp fun long => ?_)
        have endless := lcdDrawLine_endless dev color long
        exact absurd (returned.symm.trans endless) (by simp)
    | lcdDrawRectangle x1 y1 x2 y2 color =>
        obtain ⟨wide, high⟩ := lcdDrawRectangle_returns returned
        exact ⟨(distance_lt_iff.mp wide).1, (distance_lt_iff.mp high).2⟩
    | lcdFillCircle x y r color =>
        rintro rfl
        exact not_exactDisc_zero x y exactness
    | lcdDrawCircle | lcdDrawHline | lcdFill | lcdColorFill | lcdShowChar =>
        trivial
  · intro sized
    obtain ⟨exactness, sent, returned, stays⟩ := sized_staysIn proper onPanel sized
    exact ⟨exactness, sent, returned, stays, fun panel ends x y outside =>
      stays.outside commands onPanel ends outside⟩

theorem fillCircle_contained :
    (DrawCall.lcdFillCircle 100 100 20 0xF800).Contained ili9341Dev := by
  have commands : ili9341Dev.CommandsSet := ⟨rfl, rfl, rfl⟩
  have onPanel : (DrawCall.lcdFillCircle 100 100 20 0xF800).box.OnPanel
      ili9341Dev := ⟨by decide, by decide, by decide, by decide⟩
  have proper : (DrawCall.lcdFillCircle 100 100 20 0xF800).Proper := trivial
  have sized : (DrawCall.lcdFillCircle 100 100 20 0xF800).Sized :=
    (by decide : (20 : UInt16) ≠ 0)
  exact (drawing_contained_iff commands proper onPanel).mpr sized

theorem lcdDrawHline_long {y : UInt16} (onScreen : ¬ y > ili9341Dev.height)
    (passes : y.toNat < 65535) :
    lcdDrawHline ili9341Dev 101 y 65534 0xF800 =
      some (paintRun ili9341Dev 101 y (List.replicate 65534 0xF800)) := by
  have drawn : ¬ ((65534 : UInt16) = 0 ∨ 101 > ili9341Dev.width ∨
      y > ili9341Dev.height) := by
    rintro (empty | right | bottom)
    · exact absurd empty (by decide)
    · exact absurd right (by decide)
    · exact onScreen bottom
  rw [lcdDrawHline, if_neg drawn, lcdFill_eq _ _ (UInt16.le_refl y) passes,
    Nat.sub_self, paintRows_cons]
  exact congrArg some (List.append_nil _)

/-- The half-width of the circle of radius 0 wraps to 4294967295, and the
length of its lines to 65534. -/
theorem lcdFillCircle_zero :
    lcdFillCircle ili9341Dev 100 100 0 0xF800 =
      some (paintRun ili9341Dev 101 101 (List.replicate 65534 0xF800) ++
        paintRun ili9341Dev 101 99 (List.replicate 65534 0xF800)) := by
  have lines : discLines 100 100 0 =
      [⟨100, 100, 0⟩, ⟨-4294967195, 101, 8589934590⟩,
        ⟨-4294967195, 99, 8589934590⟩] := by decide
  have center : lcdDrawHline ili9341Dev 100 100 0 0xF800 = some [] := rfl
  have below := lcdDrawHline_long (y := 101) (by decide) (by decide)
  have above := lcdDrawHline_long (y := 99) (by decide) (by decide)
  rw [lcdFillCircle, lines]
  have drawn : drawHlines ili9341Dev 0xF800
      [⟨100, 100, 0⟩, ⟨-4294967195, 101, 8589934590⟩,
        ⟨-4294967195, 99, 8589934590⟩] =
      (lcdDrawHline ili9341Dev 100 100 0 0xF800).bind fun first =>
        ((lcdDrawHline ili9341Dev 101 101 65534 0xF800).bind fun second =>
          ((lcdDrawHline ili9341Dev 101 99 65534 0xF800).bind fun third =>
            some (third ++ [])).bind fun later => some (second ++ later)).bind
          fun later => some (first ++ later) := rfl
  rw [drawn, center, below, above]
  simp only [Option.bind_some, List.append_nil, List.nil_append]

theorem fillCircle_zero_strays :
    (DrawCall.lcdFillCircle 100 100 0 0xF800).box.OnPanel ili9341Dev ∧
      ∃ sent, lcdFillCircle ili9341Dev 100 100 0 0xF800 = some sent ∧
        ¬ (DrawCall.lcdFillCircle 100 100 0 0xF800).box.Contains 150 200 ∧
        (blackPanel.send ili9341Dev.addressing sent).pixels 150 200 =
          0xF800 := by
  refine ⟨⟨by decide, by decide, by decide, by decide⟩, _,
    lcdFillCircle_zero, fun inside => absurd inside.right (by decide), ?_⟩
  have commands : ili9341Dev.CommandsSet := ⟨rfl, rfl, rfl⟩
  have notSsd1963 : ili9341Dev.id ≠ 0x1963 := by decide
  let window : Window := ⟨101, 239, 99, 319⟩
  have inside : window.Contains 150 200 := by decide
  have valid : window.Valid := ⟨by decide, by decide⟩
  have room : window.width * window.height ≤ 65534 := by decide
  have covered : ∀ (raster : Raster UInt16) (count : Nat),
      window.width * window.height ≤ count →
      ((raster.seek window).stream (List.replicate count 0xF800)).pixels
        150 200 = 0xF800 := fun raster count enough =>
    Raster.stream_replicate_covers valid (Raster.seek_at ..) enough _ inside
  have left : (⟨(101 : UInt16).toNat, blackPanel.stops.1, (99 : UInt16).toNat,
      blackPanel.stops.2⟩ : Window) = window := by decide
  rw [Panel.send_append, (paintRun_stream commands notSsd1963 ..).2,
    (paintRun_stream commands notSsd1963 ..).1, left]
  exact covered _ _ room

end Ch32v307.Lcd
