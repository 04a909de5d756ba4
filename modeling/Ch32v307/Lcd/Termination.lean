import Ch32v307.Data.Loop
import Ch32v307.Lcd.DiscShape

namespace Ch32v307.Lcd

open Data Data.Loop

/-! The loops of the drawing primitives without a budget, with their counters
at the widths of the source. -/

/-! Fills. -/

/-- The loop over `j`, one write to memory in each round. -/
def ColumnLoop (xlen : UInt16) (color : UInt16 → UInt16) :
    List BusMsg → UInt16 → Prop :=
  While (fun j => j < xlen) (computed (fun j => [.ram (color j)]) (· + 1)) 0

/-- A round of the loop over `i`: the address of a row, and its columns. -/
def rowRound (dev : LcdDev) (sx xlen : UInt16) (row : UInt16 → UInt16)
    (color : UInt16 → UInt16 → UInt16) (i : UInt16) (out : List BusMsg)
    (next : UInt16) : Prop :=
  ∃ columns j, ColumnLoop xlen (color i) columns j ∧
    out = lcdSetCursor dev sx (row i) ++ lcdWriteRamPrepare dev ++ columns ∧
    next = i + 1

def LcdFillRuns (dev : LcdDev) (sx sy ex ey : UInt16) (color : UInt32)
    (out : List BusMsg) : Prop :=
  let xlen := ex - sx + 1
  ∃ i, While (fun i => i ≤ ey)
    (rowRound dev sx xlen (fun i => i) fun _ _ => color.toUInt16) sy out i

def LcdColorFillRuns (dev : LcdDev) (sx sy ex ey : UInt16)
    (color : Nat → UInt16) (out : List BusMsg) : Prop :=
  let width := ex - sx + 1
  let height := ey - sy + 1
  ∃ i, While (fun i => i < height)
    (rowRound dev sx width (sy + ·)
      fun i j => color (i.toNat * width.toNat + j.toNat)) 0 out i

/-! Lines, rectangles and circles. -/

def linePointRound (dev : LcdDev) (line : Line) (color : UInt16) :
    UInt16 × LineState → List BusMsg → UInt16 × LineState → Prop :=
  computed (fun state => drawPoints dev color [(state.2.row, state.2.col)])
    fun state => (state.1 + 1, line.next state.2)

def LcdDrawLineRuns (dev : LcdDev) (x1 y1 x2 y2 color : UInt16)
    (out : List BusMsg) : Prop :=
  let line := Line.between x1 y1 x2 y2
  ∃ last, While (fun state => (state.1.toNat : ℤ) ≤ line.distance + 1)
    (linePointRound dev line color) (0, ⟨0, 0, x1.toNat, y1.toNat⟩) out last

def LcdDrawRectangleRuns (dev : LcdDev) (x1 y1 x2 y2 color : UInt16)
    (out : List BusMsg) : Prop :=
  ∃ top left bottom right,
    LcdDrawLineRuns dev x1 y1 x2 y1 color top ∧
    LcdDrawLineRuns dev x1 y1 x1 y2 color left ∧
    LcdDrawLineRuns dev x1 y2 x2 y2 color bottom ∧
    LcdDrawLineRuns dev x2 y1 x2 y2 color right ∧
    out = top ++ left ++ bottom ++ right

/-- The values of `a`, `b` and `di`. -/
structure CircleState where
  a : ℤ
  b : ℤ
  di : ℤ

def CircleState.next (state : CircleState) : CircleState :=
  let a := state.a + 1
  if state.di < 0 then ⟨a, state.b, state.di + 4 * a + 6⟩
  else ⟨a, state.b - 1, state.di + 10 + 4 * (a - state.b)⟩

def CircleLoop (dev : LcdDev) (x0 y0 : UInt16) (color : UInt16) :
    CircleState → List BusMsg → CircleState → Prop :=
  While (fun state => state.a ≤ state.b)
    (computed
      (fun state => drawPoints dev color
        (circlePoints x0.toNat y0.toNat state.a state.b))
      CircleState.next)

def LcdDrawCircleRuns (dev : LcdDev) (x0 y0 : UInt16) (r : UInt8)
    (color : UInt16) (out : List BusMsg) : Prop :=
  ∃ last, CircleLoop dev x0 y0 color ⟨0, r.toNat, 3 - 2 * r.toNat⟩ out last

/-! Filled circles. -/

def LcdDrawHlineRuns (dev : LcdDev) (x y len color : UInt16)
    (out : List BusMsg) : Prop :=
  if len = 0 ∨ x > dev.width ∨ y > dev.height then out = []
  else LcdFillRuns dev x y (x + len - 1) y color.toUInt32 out

def HlinesRun (dev : LcdDev) (color : UInt16) :
    List Hline → List BusMsg → Prop
  | [], out => out = []
  | line :: rest, out =>
      ∃ first others,
        LcdDrawHlineRuns dev (UInt16.ofInt line.x) (UInt16.ofInt line.y)
          (UInt16.ofInt line.len) color first ∧
        HlinesRun dev color rest others ∧ out = first ++ others

/-- A round of the loop over `i`, with `xr`. -/
def discRound (dev : LcdDev) (disc : Disc) (color : UInt16)
    (state : UInt32 × UInt32) (out : List BusMsg) (next : UInt32 × UInt32) :
    Prop :=
  HlinesRun dev color (disc.lines state.1 state.2) out ∧
    next = (state.1 + 1, disc.nextXr state.1 state.2)

def LcdFillCircleRuns (dev : LcdDev) (x y r color : UInt16)
    (out : List BusMsg) : Prop :=
  let disc := Disc.around x y r
  ∃ middle rounds last,
    LcdDrawHlineRuns dev (UInt16.ofInt (x.toNat - r.toNat))
      (UInt16.ofInt y.toNat) (UInt16.ofInt (2 * r.toNat)) color middle ∧
    While (fun state => state.1 ≤ disc.imax) (discRound dev disc color)
      (1, r.toUInt32) rounds last ∧
    out = middle ++ rounds

/-! The columns of a row always end. -/

theorem iterate_succ_zero (k : Nat) :
    (· + 1)^[k] (0 : UInt16) = UInt16.ofNat k := by
  induction k with
  | zero => rfl
  | succ k ih =>
      rw [Function.iterate_succ_apply', ih, UInt16.ofNat_add]
      rfl

/-- A counter below a bound of its own width. -/
theorem count_below (bound : UInt16) :
    (∀ k < bound.toNat, (· + 1)^[k] (0 : UInt16) < bound) ∧
      ¬ (· + 1)^[bound.toNat] (0 : UInt16) < bound := by
  have small := bound.toNat_lt
  constructor
  · intro k below
    rw [iterate_succ_zero, UInt16.lt_iff_toNat_lt, UInt16.toNat_ofNat']
    omega
  · rw [iterate_succ_zero, UInt16.lt_iff_toNat_lt, UInt16.toNat_ofNat']
    omega

theorem columnLoop_runs (xlen : UInt16) (color : UInt16 → UInt16) :
    ∃ j, ColumnLoop xlen color
      ((List.range xlen.toNat).map fun j => .ram (color (UInt16.ofNat j))) j := by
  have ran : While (fun j : UInt16 => j < xlen)
      (computed (fun j => [BusMsg.ram (color j)]) (· + 1)) 0 _ _ :=
    while_count xlen.toNat (count_below xlen).1 (count_below xlen).2
  simp only [iterate_succ_zero] at ran
  rw [List.map_eq_flatMap]
  exact ⟨_, ran⟩

def rowMessages (dev : LcdDev) (sx xlen : UInt16) (row : UInt16 → UInt16)
    (color : UInt16 → UInt16 → UInt16) (i : UInt16) : List BusMsg :=
  lcdSetCursor dev sx (row i) ++ lcdWriteRamPrepare dev ++
    (List.range xlen.toNat).map fun j => .ram (color i (UInt16.ofNat j))

/-- So a row is computed. -/
theorem rowRound_eq (dev : LcdDev) (sx xlen : UInt16) (row : UInt16 → UInt16)
    (color : UInt16 → UInt16 → UInt16) :
    rowRound dev sx xlen row color =
      computed (rowMessages dev sx xlen row color) (· + 1) := by
  funext i out next
  apply propext
  obtain ⟨last, ran⟩ := columnLoop_runs xlen (color i)
  constructor
  · rintro ⟨columns, j, again, rfl, rfl⟩
    obtain ⟨rfl, -⟩ := again.unique (computed_functional _ _) ran
    exact ⟨rfl, rfl⟩
  · rintro ⟨rfl, rfl⟩
    exact ⟨_, last, ran, rfl, rfl⟩

section Fills

variable {dev : LcdDev} {sx sy ex ey : UInt16}

theorem rowMessages_const (i xlen color : UInt16) :
    rowMessages dev sx xlen (fun i => i) (fun _ _ => color) i =
      lcdSetCursor dev sx i ++ lcdWriteRamPrepare dev ++
        List.replicate xlen.toNat (.ram color) := by
  rw [rowMessages, List.map_const', List.length_range]

theorem lcdFillRows_runs (xlen : UInt16) (color : UInt32) (fuel : Nat)
    (i : UInt16) {out : List BusMsg}
    (filled : lcdFillRows dev sx ey xlen color fuel i = some out) :
    ∃ last, While (fun i => i ≤ ey)
      (rowRound dev sx xlen (fun i => i) fun _ _ => color.toUInt16) i out
        last := by
  rw [rowRound_eq]
  induction fuel generalizing i out with
  | zero => cases filled
  | succ fuel ih =>
      rw [lcdFillRows] at filled
      split_ifs at filled with more
      · obtain ⟨later, rest, rfl⟩ := Option.map_eq_some_iff.mp filled
        obtain ⟨last, ran⟩ := ih (i + 1) rest
        refine ⟨last, .more more ⟨?_, rfl⟩ ran⟩
        exact (rowMessages_const i xlen color.toUInt16).symm
      · obtain rfl := Option.some.inj filled
        exact ⟨i, .done more⟩

theorem not_lcdFillRuns (last : ey.toNat = 65535) (color : UInt32)
    (out : List BusMsg) : ¬ LcdFillRuns dev sx sy ex ey color out := by
  rintro ⟨i, ran⟩
  refine not_ends (fun i => ?_) sy ⟨out, i, ran⟩
  have := i.toNat_lt
  rw [UInt16.le_iff_toNat_le]
  omega

theorem exists_lcdFill (dev : LcdDev) (sx sy ex : UInt16)
    (passes : ey.toNat < 65535) (color : UInt32) :
    ∃ sent, lcdFill dev sx sy ex ey color = some sent := by
  by_cases ordered : sy ≤ ey
  · exact ⟨_, lcdFill_eq dev color ordered passes⟩
  · refine ⟨[], ?_⟩
    rw [lcdFill, lcdFillRows, if_neg ordered]

theorem lcdFillRuns_iff (color : UInt32) (out : List BusMsg) :
    LcdFillRuns dev sx sy ex ey color out ↔
      lcdFill dev sx sy ex ey color = some out := by
  refine result_iff ?_ (fun out filled => lcdFillRows_runs _ color _ sy filled) ?_ out
  · rintro out other ⟨i, ran⟩ ⟨j, again⟩
    rw [rowRound_eq] at ran again
    exact (ran.unique (computed_functional _ _) again).1
  · intro none
    refine not_lcdFillRuns ?_ color
    by_contra other
    have := ey.toNat_lt
    obtain ⟨sent, filled⟩ :=
      exists_lcdFill dev sx sy ex (by omega : ey.toNat < 65535) color
    cases filled.symm.trans none

theorem lcdFill_ends_iff (color : UInt32) :
    (∃ out, LcdFillRuns dev sx sy ex ey color out) ↔ ey ≠ 65535 := by
  constructor
  · rintro ⟨out, ran⟩ rfl
    exact not_lcdFillRuns rfl color out ran
  · intro other
    have passes : ey.toNat < 65535 := by
      have bound := ey.toNat_lt
      have different : ey.toNat ≠ 65535 := fun last =>
        other (UInt16.toNat_inj.mp last)
      omega
    obtain ⟨sent, filled⟩ := exists_lcdFill dev sx sy ex passes color
    exact ⟨sent, (lcdFillRuns_iff color sent).mpr filled⟩

/-- The rows of the color fill are counted from 0, below a bound. -/
theorem lcdColorFill_runs (dev : LcdDev) (sx sy ex ey : UInt16)
    (color : Nat → UInt16) :
    LcdColorFillRuns dev sx sy ex ey color
      (lcdColorFill dev sx sy ex ey color) := by
  let width := ex - sx + 1
  let height := ey - sy + 1
  have counted : ∀ {k : Nat} {bound : UInt16}, k < bound.toNat →
      (UInt16.ofNat k).toNat = k := by
    intro k bound below
    have := bound.toNat_lt
    rw [UInt16.toNat_ofNat']
    omega
  have rows : While (fun i => i < height)
      (computed (rowMessages dev sx width (sy + ·)
        fun i j => color (i.toNat * width.toNat + j.toNat)) (· + 1)) 0 _ _ :=
    while_count height.toNat (count_below height).1 (count_below height).2
  simp only [iterate_succ_zero] at rows
  have same : lcdColorFill dev sx sy ex ey color =
      (List.range height.toNat).flatMap fun k =>
        rowMessages dev sx width (sy + ·)
          (fun i j => color (i.toNat * width.toNat + j.toNat))
          (UInt16.ofNat k) := by
    refine List.flatMap_congr fun k inRows => ?_
    rw [List.mem_range] at inRows
    refine congrArg (_ ++ ·) (List.map_congr_left fun j inColumns => ?_)
    rw [List.mem_range] at inColumns
    dsimp only
    rw [counted inRows, counted inColumns]
  rw [LcdColorFillRuns, rowRound_eq, same]
  exact ⟨_, rows⟩

theorem lcdColorFillRuns_iff (color : Nat → UInt16) (out : List BusMsg) :
    LcdColorFillRuns dev sx sy ex ey color out ↔
      out = lcdColorFill dev sx sy ex ey color := by
  have ran := lcdColorFill_runs dev sx sy ex ey color
  constructor
  · intro again
    rw [LcdColorFillRuns, rowRound_eq] at ran again
    obtain ⟨_, ran⟩ := ran
    obtain ⟨_, again⟩ := again
    exact (again.unique (computed_functional _ _) ran).1
  · rintro rfl
    exact ran

end Fills

section Points

variable {dev : LcdDev} {x1 y1 x2 y2 color : UInt16}

theorem drawPoints_append (first second : List (ℤ × ℤ)) :
    drawPoints dev color (first ++ second) =
      drawPoints dev color first ++ drawPoints dev color second :=
  List.flatMap_append

theorem linePoints_runs (line : Line) (fuel : Nat) (t : UInt16)
    (state : LineState) {points : List (ℤ × ℤ)}
    (plotted : line.points fuel t state = some points) :
    ∃ last, While (fun state => (state.1.toNat : ℤ) ≤ line.distance + 1)
      (linePointRound dev line color) (t, state)
      (drawPoints dev color points) last := by
  induction fuel generalizing t state points with
  | zero => cases plotted
  | succ fuel ih =>
      rw [Line.points] at plotted
      split_ifs at plotted with more
      · obtain ⟨later, rest, rfl⟩ := Option.map_eq_some_iff.mp plotted
        obtain ⟨last, ran⟩ := ih (t + 1) (line.next state) rest
        refine ⟨last, ?_⟩
        rw [← List.singleton_append, drawPoints_append]
        exact .more more ⟨rfl, rfl⟩ ran
      · obtain rfl := Option.some.inj plotted
        exact ⟨_, .done more⟩

theorem not_lcdDrawLineRuns
    (long : 65534 ≤ (Line.between x1 y1 x2 y2).distance) (out : List BusMsg) :
    ¬ LcdDrawLineRuns dev x1 y1 x2 y2 color out := by
  rintro ⟨last, ran⟩
  refine not_ends (fun state => ?_) _ ⟨out, last, ran⟩
  have := state.1.toNat_lt
  omega

theorem lcdDrawLineRuns_iff (out : List BusMsg) :
    LcdDrawLineRuns dev x1 y1 x2 y2 color out ↔
      lcdDrawLine dev x1 y1 x2 y2 color = some out := by
  refine result_iff ?_ ?_ ?_ out
  · rintro out other ⟨_, ran⟩ ⟨_, again⟩
    exact (ran.unique (computed_functional _ _) again).1
  · intro out drawn
    obtain ⟨points, plotted, rfl⟩ := Option.map_eq_some_iff.mp drawn
    exact linePoints_runs _ _ _ _ plotted
  · intro none
    refine not_lcdDrawLineRuns ?_
    by_contra short
    obtain ⟨points, plotted, -⟩ := linePoints_inside (Int.not_le.mp short)
    rw [lcdDrawLine, plotted] at none
    cases none

theorem lcdDrawLine_ends_iff :
    (∃ out, LcdDrawLineRuns dev x1 y1 x2 y2 color out) ↔
      |(x2.toNat : ℤ) - x1.toNat| < 65534 ∧
        |(y2.toNat : ℤ) - y1.toNat| < 65534 := by
  rw [← distance_lt_iff]
  constructor
  · rintro ⟨out, ran⟩
    by_contra long
    exact not_lcdDrawLineRuns (Int.not_lt.mp long) out ran
  · intro short
    obtain ⟨points, plotted, -⟩ := linePoints_inside short
    exact ⟨_, linePoints_runs _ _ _ _ plotted⟩

theorem lcdDrawRectangleRuns_iff (out : List BusMsg) :
    LcdDrawRectangleRuns dev x1 y1 x2 y2 color out ↔
      lcdDrawRectangle dev x1 y1 x2 y2 color = some out := by
  unfold LcdDrawRectangleRuns lcdDrawRectangle
  simp only [lcdDrawLineRuns_iff, Option.bind_eq_bind,
    Option.bind_eq_some_iff, Option.some_inj]
  constructor
  · rintro ⟨top, left, bottom, right, ranTop, ranLeft, ranBottom, ranRight, rfl⟩
    exact ⟨top, ranTop, left, ranLeft, bottom, ranBottom, right, ranRight, rfl⟩
  · rintro ⟨top, ranTop, left, ranLeft, bottom, ranBottom, right, ranRight, rfl⟩
    exact ⟨top, left, bottom, right, ranTop, ranLeft, ranBottom, ranRight, rfl⟩

theorem lcdDrawRectangle_ends_iff :
    (∃ out, LcdDrawRectangleRuns dev x1 y1 x2 y2 color out) ↔
      |(x2.toNat : ℤ) - x1.toNat| < 65534 ∧
        |(y2.toNat : ℤ) - y1.toNat| < 65534 := by
  have still : ∀ a : UInt16, |(a.toNat : ℤ) - a.toNat| < 65534 := by
    intro a
    rw [Int.sub_self]
    decide
  constructor
  · rintro ⟨out, top, left, -, -, ranTop, ranLeft, -⟩
    exact ⟨(lcdDrawLine_ends_iff.mp ⟨top, ranTop⟩).1,
      (lcdDrawLine_ends_iff.mp ⟨left, ranLeft⟩).2⟩
  · rintro ⟨wide, high⟩
    obtain ⟨top, ranTop⟩ := lcdDrawLine_ends_iff.mpr ⟨wide, still y1⟩
    obtain ⟨left, ranLeft⟩ := lcdDrawLine_ends_iff.mpr ⟨still x1, high⟩
    obtain ⟨bottom, ranBottom⟩ := lcdDrawLine_ends_iff.mpr ⟨wide, still y2⟩
    obtain ⟨right, ranRight⟩ := lcdDrawLine_ends_iff.mpr ⟨still x2, high⟩
    exact ⟨_, top, left, bottom, right, ranTop, ranLeft, ranBottom, ranRight,
      rfl⟩

theorem circleRounds_runs (x0 y0 : UInt16) (fuel : Nat) (a b di : ℤ)
    {rounds : List (ℤ × ℤ)} (counted : circleRounds fuel a b di = some rounds) :
    ∃ last, CircleLoop dev x0 y0 color ⟨a, b, di⟩
      (drawPoints dev color (rounds.flatMap fun round =>
        circlePoints x0.toNat y0.toNat round.1 round.2)) last := by
  induction fuel generalizing a b di rounds with
  | zero => cases counted
  | succ fuel ih =>
      rw [circleRounds] at counted
      by_cases more : a ≤ b
      · rw [if_pos more] at counted
        obtain ⟨later, rest, rfl⟩ := Option.map_eq_some_iff.mp counted
        have next : ∃ last, CircleLoop dev x0 y0 color
            (CircleState.next ⟨a, b, di⟩)
            (drawPoints dev color (later.flatMap fun round =>
              circlePoints x0.toNat y0.toNat round.1 round.2)) last := by
          unfold CircleState.next
          split_ifs at rest ⊢
          · exact ih _ _ _ rest
          · exact ih _ _ _ rest
        obtain ⟨last, ran⟩ := next
        rw [List.flatMap_cons, drawPoints_append]
        exact ⟨last, .more more ⟨rfl, rfl⟩ ran⟩
      · rw [if_neg more] at counted
        obtain rfl := Option.some.inj counted
        exact ⟨_, .done more⟩

theorem lcdDrawCircleRuns_iff (x0 y0 : UInt16) (r : UInt8) (out : List BusMsg) :
    LcdDrawCircleRuns dev x0 y0 r color out ↔
      lcdDrawCircle dev x0 y0 r color = some out := by
  refine result_iff ?_ ?_ ?_ out
  · rintro out other ⟨_, ran⟩ ⟨_, again⟩
    exact (ran.unique (computed_functional _ _) again).1
  · intro out drawn
    obtain ⟨rounds, counted, rfl⟩ := Option.map_eq_some_iff.mp drawn
    exact circleRounds_runs _ _ _ _ _ _ counted
  · intro none
    obtain ⟨rounds, counted, -⟩ := circle_inside x0.toNat y0.toNat r
    rw [lcdDrawCircle, counted] at none
    cases none

theorem lcdDrawCircle_ends (dev : LcdDev) (x0 y0 : UInt16) (r : UInt8)
    (color : UInt16) : ∃ out, LcdDrawCircleRuns dev x0 y0 r color out := by
  obtain ⟨rounds, counted, -⟩ := circle_inside x0.toNat y0.toNat r
  exact ⟨_, circleRounds_runs _ _ _ _ _ _ counted⟩

end Points

section Discs

variable {dev : LcdDev} {color : UInt16}

theorem lcdDrawHlineRuns_iff (x y len : UInt16) (out : List BusMsg) :
    LcdDrawHlineRuns dev x y len color out ↔
      lcdDrawHline dev x y len color = some out := by
  unfold LcdDrawHlineRuns lcdDrawHline
  split_ifs
  · rw [Option.some_inj, eq_comm]
  · exact lcdFillRuns_iff color.toUInt32 out

theorem hlinesRun_iff (lines : List Hline) (out : List BusMsg) :
    HlinesRun dev color lines out ↔ drawHlines dev color lines = some out := by
  induction lines generalizing out with
  | nil => rw [HlinesRun, drawHlines, Option.some_inj, eq_comm]
  | cons line rest ih =>
      simp only [HlinesRun, drawHlines, lcdDrawHlineRuns_iff, ih,
        Option.bind_eq_bind, Option.bind_eq_some_iff, Option.some_inj]
      constructor
      · rintro ⟨first, others, ran, later, rfl⟩
        exact ⟨first, ran, others, later, rfl⟩
      · rintro ⟨first, ran, others, later, rfl⟩
        exact ⟨first, others, ran, later, rfl⟩

theorem hlinesRun_append (first second : List Hline) (out : List BusMsg) :
    HlinesRun dev color (first ++ second) out ↔
      ∃ before after, HlinesRun dev color first before ∧
        HlinesRun dev color second after ∧ out = before ++ after := by
  induction first generalizing out with
  | nil =>
      constructor
      · intro ran
        exact ⟨[], out, rfl, ran, rfl⟩
      · rintro ⟨_, after, rfl, ran, rfl⟩
        exact ran
  | cons line rest ih =>
      constructor
      · rintro ⟨here, others, ran, later, rfl⟩
        obtain ⟨before, after, ranBefore, ranAfter, rfl⟩ := (ih others).mp later
        exact ⟨here ++ before, after, ⟨here, before, ran, ranBefore, rfl⟩,
          ranAfter, (List.append_assoc ..).symm⟩
      · rintro ⟨_, after, ⟨here, before, ran, ranBefore, rfl⟩, ranAfter, rfl⟩
        exact ⟨here, before ++ after, ran,
          (ih _).mpr ⟨before, after, ranBefore, ranAfter, rfl⟩,
          List.append_assoc ..⟩

/-- The loop over `i` passes the rounds up to `imax`. -/
theorem discLoop_iff (dev) (color) (disc : Disc) (small : disc.imax.toNat < 4294967295)
    (count : Nat) (i xr : UInt32)
    (counted : i.toNat + count = disc.imax.toNat + 1) (out : List BusMsg) :
    (∃ last, While (fun state : UInt32 × UInt32 => state.1 ≤ disc.imax)
      (discRound dev disc color) (i, xr) out last) ↔
      HlinesRun dev color ((disc.rounds count i xr).flatMap fun round =>
        disc.lines round.1 round.2) out := by
  induction count generalizing i xr out with
  | zero =>
      have past : ¬ i ≤ disc.imax := by
        rw [UInt32.le_iff_toNat_le]
        omega
      constructor
      · rintro ⟨last, ran⟩
        cases ran with
        | done => rfl
        | more goes => exact absurd goes past
      · rintro rfl
        exact ⟨(i, xr), .done past⟩
  | succ count ih =>
      have inRounds : i ≤ disc.imax := by
        rw [UInt32.le_iff_toNat_le]
        omega
      have next : (i + 1).toNat = i.toNat + 1 := by
        rw [UInt32.toNat_add, UInt32.toNat_one]
        omega
      rw [Disc.rounds, List.flatMap_cons, hlinesRun_append]
      constructor
      · rintro ⟨last, ran⟩
        cases ran with
        | done ended => exact absurd inRounds ended
        | more _ here rest =>
            obtain ⟨drawn, rfl⟩ := here
            exact ⟨_, _, drawn, (ih _ _ (by omega) _).mp ⟨last, rest⟩, rfl⟩
      · rintro ⟨before, after, drawn, later, rfl⟩
        obtain ⟨last, rest⟩ := (ih _ _ (by omega) after).mpr later
        exact ⟨last, .more inRounds ⟨drawn, rfl⟩ rest⟩

theorem lcdFillCircleRuns_iff (x y r : UInt16) (out : List BusMsg) :
    LcdFillCircleRuns dev x y r color out ↔
      lcdFillCircle dev x y r color = some out := by
  have rows := Disc.imax_toNat x y r
  have bound := r.toNat_lt
  have loop := discLoop_iff dev color (Disc.around x y r)
    (by omega) (Disc.around x y r).imax.toNat 1 r.toUInt32 (Nat.add_comm ..)
  rw [lcdFillCircle, ← hlinesRun_iff, discLines, HlinesRun]
  constructor
  · rintro ⟨middle, rounds, last, ran, looped, rfl⟩
    exact ⟨middle, rounds, ran, (loop rounds).mp ⟨last, looped⟩, rfl⟩
  · rintro ⟨middle, rounds, ran, looped, rfl⟩
    obtain ⟨last, looped⟩ := (loop rounds).mpr looped
    exact ⟨middle, rounds, last, ran, looped, rfl⟩

/-- No row of the disc is drawn in the last row of all. -/
def DiscEnds (dev : LcdDev) (x y r : UInt16) : Prop :=
  ∀ row half, DiscRow r.toNat row half →
    ∀ line ∈ runLines x.toNat y.toNat row half, ¬ line.Endless dev

theorem lcdFillCircle_ends_iff (x y r : UInt16) :
    (∃ out, LcdFillCircleRuns dev x y r color out) ↔ DiscEnds dev x y r := by
  simp only [lcdFillCircleRuns_iff]
  refine Iff.trans ?_ (forall_discLines_iff fun _ empty endless =>
    endless.1.1 empty)
  constructor
  · rintro ⟨out, drawn⟩ line member endless
    rw [lcdFillCircle, drawHlines_endless member endless] at drawn
    cases drawn
  · intro ends
    exact ⟨_, drawHlines_eq ends color⟩

/-- On every panel that leaves the last row of all out, a filled circle ends. -/
theorem lcdFillCircle_ends (low : dev.height.toNat < 65535) (x y r : UInt16) :
    ∃ out, LcdFillCircleRuns dev x y r color out := by
  rw [lcdFillCircle_ends_iff]
  rintro row half inDisc line member ⟨⟨-, -, inRows⟩, last⟩
  rw [UInt16.le_iff_toNat_le] at inRows
  omega

end Discs

/-- When each primitive reaches its end. -/
theorem primitives_end_iff (dev : LcdDev) (color : UInt16) :
    (∀ sx sy ex ey fill,
      (∃ out, LcdFillRuns dev sx sy ex ey fill out) ↔ ey ≠ 65535) ∧
    (∀ sx sy ex ey block, ∃ out, LcdColorFillRuns dev sx sy ex ey block out) ∧
    (∀ x1 y1 x2 y2,
      (∃ out, LcdDrawLineRuns dev x1 y1 x2 y2 color out) ↔
        |(x2.toNat : ℤ) - x1.toNat| < 65534 ∧
          |(y2.toNat : ℤ) - y1.toNat| < 65534) ∧
    (∀ x1 y1 x2 y2,
      (∃ out, LcdDrawRectangleRuns dev x1 y1 x2 y2 color out) ↔
        |(x2.toNat : ℤ) - x1.toNat| < 65534 ∧
          |(y2.toNat : ℤ) - y1.toNat| < 65534) ∧
    (∀ x0 y0 r, ∃ out, LcdDrawCircleRuns dev x0 y0 r color out) ∧
    ∀ x y r,
      (∃ out, LcdFillCircleRuns dev x y r color out) ↔ DiscEnds dev x y r :=
  ⟨fun _ _ _ _ fill => lcdFill_ends_iff fill,
    fun sx sy ex ey block => ⟨_, lcdColorFill_runs dev sx sy ex ey block⟩,
    fun _ _ _ _ => lcdDrawLine_ends_iff,
    fun _ _ _ _ => lcdDrawRectangle_ends_iff,
    fun x0 y0 r => lcdDrawCircle_ends dev x0 y0 r color,
    lcdFillCircle_ends_iff⟩

/-- A row bound of 65535 and a line of 65534 steps are never passed. -/
theorem fill_to_last_row_endless :
    (¬ ∃ out, LcdFillRuns ili9341Dev 0 0 0 65535 0xF800 out) ∧
      ¬ ∃ out, LcdDrawLineRuns ili9341Dev 0 0 65534 0 0xF800 out := by
  constructor
  · rintro ⟨out, ran⟩
    exact not_lcdFillRuns rfl 0xF800 out ran
  · rintro ⟨out, ran⟩
    exact not_lcdDrawLineRuns (by decide) out ran

end Ch32v307.Lcd
