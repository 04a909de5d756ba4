import Mathlib.Algebra.Order.Field.Rat
import Mathlib.Data.List.Chain
import Mathlib.Data.List.Range
import Mathlib.Tactic.FieldSimp
import Ch32v307.Lcd.ShapeBounds

namespace Ch32v307.Lcd

/-! The line itself: the points of a call, first to last. -/

/-! One coordinate. From the first round on its moves are those of the ideal
line, rounded up and counted one round late. -/

section Coordinate

variable {distance delta err moved : ℤ} {rounds : Nat}

theorem along_err_pos (moves : 0 < delta)
    (along : Along distance delta (rounds + 1) err moved) : 0 < err := by
  obtain ⟨errNonneg, -, -, balance, started⟩ := along
  rcases errNonneg.eq_or_lt with zero | positive
  · rw [started zero.symm, ← zero] at balance
    have gained : 0 < ((rounds + 1 : ℕ) : ℤ) * delta := by positivity
    omega
  · exact positive

theorem along_still (along : Along distance 0 rounds err moved)
    (moves : 0 < distance) : moved = 0 := by
  obtain ⟨errNonneg, -, forward, balance, -⟩ := along
  have gained : 0 ≤ distance * moved := by positivity
  have none : distance * moved = 0 := by
    rw [mul_zero] at balance
    omega
  rcases mul_eq_zero.mp none with zero | zero
  · omega
  · exact zero

theorem along_longest (moves : 0 < distance)
    (along : Along distance distance (rounds + 1) err moved) :
    moved = rounds := by
  have positive := along_err_pos moves along
  obtain ⟨-, bounded, -, balance, -⟩ := along
  push_cast at balance
  have below : distance * moved < distance * (rounds + 1) := by linarith
  have above : distance * (rounds - 1) < distance * moved := by linarith
  have := lt_of_mul_lt_mul_left below moves.le
  have := lt_of_mul_lt_mul_left above moves.le
  omega

/-- In the last round a coordinate has moved all the way. -/
theorem along_end (nonneg : 0 ≤ delta) (shorter : delta ≤ distance)
    (counted : (rounds : ℤ) = distance)
    (along : Along distance delta (rounds + 1) err moved) : moved = delta := by
  have most : moved ≤ delta := by
    apply along_moved_le nonneg shorter along
    push_cast
    omega
  rcases nonneg.eq_or_lt with zero | moves
  · have forward := along.forward
    omega
  · obtain ⟨-, bounded, -, balance, -⟩ := along
    push_cast at balance
    rw [counted] at balance
    have above : distance * (delta - 1) < distance * moved := by linarith
    have := lt_of_mul_lt_mul_left above (by omega)
    omega

theorem along_deviation (nonneg : 0 ≤ delta) (shorter : delta ≤ distance)
    (moves : 0 < distance)
    (along : Along distance delta (rounds + 1) err moved) :
    |distance * moved - rounds * delta| < distance := by
  rcases nonneg.eq_or_lt with rfl | slanted
  · rw [along_still along moves]
    simpa using moves
  · have positive := along_err_pos slanted along
    obtain ⟨-, bounded, -, balance, -⟩ := along
    push_cast at balance
    rw [abs_lt]
    constructor
    · linarith
    · linarith

end Coordinate

/-! One coordinate, in its place. -/

section Place

variable {first last err position : ℤ} {rounds : Nat}

theorem increment_mul_abs (delta : ℤ) : increment delta * |delta| = delta := by
  unfold increment
  split_ifs with ascending level
  · rw [abs_of_pos ascending, one_mul]
  · rw [level, zero_mul]
  · rw [abs_of_nonpos (by omega)]
    ring

theorem abs_increment_le (delta : ℤ) : |increment delta| ≤ 1 := by
  unfold increment
  split_ifs
  all_goals simp

theorem reaches_start {distance delta inc : ℤ}
    (reaches : Along.Reaches distance delta inc first 0 err position) :
    position = first := by
  obtain ⟨moved, ⟨errNonneg, bounded, forward, balance, started⟩, rfl⟩ :=
    reaches
  have nonneg : 0 ≤ distance * moved :=
    mul_nonneg (errNonneg.trans bounded) forward
  rw [Nat.cast_zero, zero_mul] at balance
  rw [started (by omega), mul_zero, add_zero]

theorem reaches_longest
    (reaches : Along.Reaches |last - first| |last - first|
      (increment (last - first)) first (rounds + 1) err position) :
    position = first + increment (last - first) * rounds := by
  obtain ⟨moved, along, rfl⟩ := reaches
  rcases (abs_nonneg (last - first)).eq_or_lt with level | moves
  · rw [abs_eq_zero.mp level.symm]
    simp [increment]
  · rw [along_longest moves along]

theorem reaches_end {distance : ℤ} (shorter : |last - first| ≤ distance)
    (counted : (rounds : ℤ) = distance)
    (reaches : Along.Reaches distance |last - first|
      (increment (last - first)) first (rounds + 1) err position) :
    position = last := by
  obtain ⟨moved, along, rfl⟩ := reaches
  rw [along_end (abs_nonneg _) shorter counted along, increment_mul_abs]
  ring

/-- A move between the ends does not lead away from the last one. -/
theorem increment_approaches
    (above : min first last ≤ position + increment (last - first))
    (below : position + increment (last - first) ≤ max first last) :
    |last - (position + increment (last - first))| ≤ |last - position| := by
  unfold increment at *
  split_ifs at * with ascending level
  · rw [abs_of_nonneg (by omega), abs_of_nonneg (by omega)]
    omega
  · rw [add_zero]
  · rw [abs_of_nonpos (by omega), abs_of_nonpos (by omega)]
    omega

theorem increment_step {next : ℤ}
    (moved : next = position ∨ next = position + increment (last - first))
    (above : min first last ≤ next) (below : next ≤ max first last) :
    |next - position| ≤ 1 ∧ |last - next| ≤ |last - position| := by
  rcases moved with rfl | rfl
  · rw [sub_self, abs_zero]
    exact ⟨zero_le_one, le_refl _⟩
  · rw [add_sub_cancel_left]
    exact ⟨abs_increment_le _, increment_approaches above below⟩

/-- Every value between the ends is this many increments from the first. -/
theorem increment_reaches {value : ℤ} (above : min first last ≤ value)
    (below : value ≤ max first last) :
    |value - first| ≤ |last - first| ∧
      first + increment (last - first) * |value - first| = value := by
  unfold increment
  split_ifs with ascending level
  · rw [abs_of_pos ascending, abs_of_nonneg (by omega)]
    omega
  · have dot : value = first := by omega
    rw [dot, sub_self, abs_zero]
    exact ⟨abs_nonneg _, by ring⟩
  · rw [abs_of_nonpos (by omega), abs_of_nonpos (by omega)]
    omega

end Place

/-! The ideal line. -/

/-- The ideal line over a coordinate of its longer axis. -/
def idealLine (mainFirst sideFirst mainLast sideLast main : ℤ) : ℚ :=
  sideFirst +
    (main - mainFirst) * ((sideLast - sideFirst) / (mainLast - mainFirst))

theorem idealLine_start (mainFirst sideFirst mainLast sideLast : ℤ) :
    idealLine mainFirst sideFirst mainLast sideLast mainFirst = sideFirst := by
  simp [idealLine]

/-- The deviation, in moves of the two coordinates. -/
theorem deviation_eq {mainFirst sideFirst mainLast sideLast : ℤ}
    (moves : 0 < |mainLast - mainFirst|) (mainMoved sideMoved : ℤ) :
    ((sideFirst + increment (sideLast - sideFirst) * sideMoved : ℤ) : ℚ) -
        idealLine mainFirst sideFirst mainLast sideLast
          (mainFirst + increment (mainLast - mainFirst) * mainMoved) =
      increment (sideLast - sideFirst) *
        ((|mainLast - mainFirst| * sideMoved -
            mainMoved * |sideLast - sideFirst| : ℤ) /
          (|mainLast - mainFirst| : ℤ)) := by
  have mainWay := increment_mul_abs (mainLast - mainFirst)
  have sideWay := increment_mul_abs (sideLast - sideFirst)
  have directed : increment (mainLast - mainFirst) ≠ 0 := by
    intro level
    rw [level, zero_mul] at mainWay
    rw [← mainWay, abs_zero] at moves
    exact absurd moves (lt_irrefl 0)
  generalize increment (mainLast - mainFirst) = mainInc at *
  generalize increment (sideLast - sideFirst) = sideInc at *
  generalize |mainLast - mainFirst| = distance at *
  generalize |sideLast - sideFirst| = delta at *
  have mainWayRat : (mainLast - mainFirst : ℚ) = mainInc * distance := by
    exact_mod_cast mainWay.symm
  have sideWayRat : (sideLast - sideFirst : ℚ) = sideInc * delta := by
    exact_mod_cast sideWay.symm
  have directedRat : (mainInc : ℚ) ≠ 0 := by exact_mod_cast directed
  have movesRat : (distance : ℚ) ≠ 0 := by exact_mod_cast moves.ne'
  rw [idealLine, mainWayRat, sideWayRat]
  push_cast
  field_simp
  ring

theorem abs_div_lt_one {offset distance : ℤ} (moves : 0 < distance)
    (within : |offset| < distance) : |(offset : ℚ) / (distance : ℤ)| < 1 := by
  have movesRat : (0 : ℚ) < distance := by exact_mod_cast moves
  rw [abs_div, abs_of_pos movesRat, div_lt_one movesRat]
  exact_mod_cast within

theorem reaches_deviation {mainFirst sideFirst mainLast sideLast : ℤ}
    {rounds : Nat} {mainErr sideErr main side : ℤ}
    (shorter : |sideLast - sideFirst| ≤ |mainLast - mainFirst|)
    (mainReaches : Along.Reaches |mainLast - mainFirst| |mainLast - mainFirst|
      (increment (mainLast - mainFirst)) mainFirst rounds mainErr main)
    (sideReaches : Along.Reaches |mainLast - mainFirst| |sideLast - sideFirst|
      (increment (sideLast - sideFirst)) sideFirst rounds sideErr side) :
    |side - idealLine mainFirst sideFirst mainLast sideLast main| < 1 := by
  cases rounds with
  | zero =>
      rw [reaches_start mainReaches, reaches_start sideReaches,
        idealLine_start, sub_self, abs_zero]
      exact one_pos
  | succ rounds =>
      rw [reaches_longest mainReaches]
      obtain ⟨moved, along, rfl⟩ := sideReaches
      rcases (abs_nonneg (mainLast - mainFirst)).eq_or_lt with level | moves
      · have still : sideLast - sideFirst = 0 := by
          apply abs_eq_zero.mp
          exact le_antisymm (shorter.trans level.ge) (abs_nonneg _)
        have dot : mainLast - mainFirst = 0 := abs_eq_zero.mp level.symm
        rw [still, dot]
        simp [increment, idealLine_start]
      · have deviation := along_deviation (abs_nonneg _) shorter moves along
        have within : |((|mainLast - mainFirst| * moved -
            rounds * |sideLast - sideFirst| : ℤ) : ℚ) /
              (|mainLast - mainFirst| : ℤ)| < 1 :=
          abs_div_lt_one moves deviation
        rw [deviation_eq moves, abs_mul]
        have unit : |(increment (sideLast - sideFirst) : ℚ)| ≤ 1 := by
          exact_mod_cast abs_increment_le (sideLast - sideFirst)
        exact (mul_le_of_le_one_left (abs_nonneg _) unit).trans_lt within

/-! What a line is to be. -/

/-- One point to the next: a step of one pixel at most, and not away from the
end. -/
structure Approaches (x2 y2 : UInt16) (here next : UInt16 × UInt16) :
    Prop where
  columnStep : |(next.1.toNat : ℤ) - here.1.toNat| ≤ 1
  rowStep : |(next.2.toNat : ℤ) - here.2.toNat| ≤ 1
  column : |(x2.toNat : ℤ) - next.1.toNat| ≤ |(x2.toNat : ℤ) - here.1.toNat|
  row : |(y2.toNat : ℤ) - next.2.toNat| ≤ |(y2.toNat : ℤ) - here.2.toNat|

/-- The points of a line that is flat when it is at least as wide as high, and
steep when it is at least as high as wide. -/
structure LineShape (x1 y1 x2 y2 : UInt16) (points : List (UInt16 × UInt16)) :
    Prop where
  count : (points.length : ℤ) =
    max |(x2.toNat : ℤ) - x1.toNat| |(y2.toNat : ℤ) - y1.toNat| + 2
  first : points.head? = some (x1, y1)
  last : points.getLast? = some (x2, y2)
  connected : points.IsChain (Approaches x2 y2)
  flatCovers : |(y2.toNat : ℤ) - y1.toNat| ≤ |(x2.toNat : ℤ) - x1.toNat| →
    ∀ x : UInt16, min (x1.toNat : ℤ) x2.toNat ≤ x.toNat →
      (x.toNat : ℤ) ≤ max (x1.toNat : ℤ) x2.toNat → ∃ y, (x, y) ∈ points
  steepCovers : |(x2.toNat : ℤ) - x1.toNat| ≤ |(y2.toNat : ℤ) - y1.toNat| →
    ∀ y : UInt16, min (y1.toNat : ℤ) y2.toNat ≤ y.toNat →
      (y.toNat : ℤ) ≤ max (y1.toNat : ℤ) y2.toNat → ∃ x, (x, y) ∈ points
  flatDeviation : |(y2.toNat : ℤ) - y1.toNat| ≤ |(x2.toNat : ℤ) - x1.toNat| →
    ∀ point ∈ points, |(point.2.toNat : ℚ) - idealLine x1.toNat y1.toNat
      x2.toNat y2.toNat point.1.toNat| < 1
  steepDeviation : |(x2.toNat : ℤ) - x1.toNat| ≤ |(y2.toNat : ℤ) - y1.toNat| →
    ∀ point ∈ points, |(point.1.toNat : ℚ) - idealLine y1.toNat x1.toNat
      y2.toNat x2.toNat point.2.toNat| < 1

/-! The rounds of the loop. -/

namespace Line

variable {x1 y1 x2 y2 : UInt16} {round : Nat}

/-- The state after some rounds. -/
def stateAt (x1 y1 x2 y2 : UInt16) (round : Nat) : LineState :=
  (between x1 y1 x2 y2).next^[round] ⟨0, 0, x1.toNat, y1.toNat⟩

/-- The point a round plots. -/
def plotted (x1 y1 x2 y2 : UInt16) (round : Nat) : UInt16 × UInt16 :=
  (UInt16.ofInt (stateAt x1 y1 x2 y2 round).row,
    UInt16.ofInt (stateAt x1 y1 x2 y2 round).col)

def plottedPoints (x1 y1 x2 y2 : UInt16) : List (UInt16 × UInt16) :=
  (List.range ((between x1 y1 x2 y2).distance.toNat + 2)).map
    (plotted x1 y1 x2 y2)

theorem lcdDrawLine_eq (dev : LcdDev) (color : UInt16)
    (passes : (between x1 y1 x2 y2).distance < 65534) :
    lcdDrawLine dev x1 y1 x2 y2 color =
      some ((plottedPoints x1 y1 x2 y2).flatMap fun point =>
        lcdDrawPoint dev point.1 point.2 color.toUInt32) := by
  rw [lcdDrawLine, linePoints_eq passes, Option.map_some, drawPoints,
    plottedPoints, List.flatMap_map, List.flatMap_map]
  rfl

variable (x1 y1 x2 y2 round)

theorem stateAt_tracks :
    (between x1 y1 x2 y2).Tracks x1.toNat y1.toNat round
      (stateAt x1 y1 x2 y2 round) :=
  iterate_tracks round

theorem stateAt_inside
    (inRounds : (round : ℤ) ≤ (between x1 y1 x2 y2).distance + 1) :
    (box x1 y1 x2 y2).Contains (stateAt x1 y1 x2 y2 round).row
      (stateAt x1 y1 x2 y2 round).col :=
  tracks_inside (stateAt_tracks ..) inRounds

/-- The conversions to `uint16_t` are exact. -/
theorem plotted_toNat
    (inRounds : (round : ℤ) ≤ (between x1 y1 x2 y2).distance + 1) :
    ((plotted x1 y1 x2 y2 round).1.toNat : ℤ) =
        (stateAt x1 y1 x2 y2 round).row ∧
      ((plotted x1 y1 x2 y2 round).2.toNat : ℤ) =
        (stateAt x1 y1 x2 y2 round).col := by
  obtain ⟨left, right, top, bottom⟩ := stateAt_inside x1 y1 x2 y2 round inRounds
  simp only [box] at left right top bottom
  have := x1.toNat_lt
  have := x2.toNat_lt
  have := y1.toNat_lt
  have := y2.toNat_lt
  constructor
  · exact ofInt_toNat ⟨by omega, by omega⟩
  · exact ofInt_toNat ⟨by omega, by omega⟩

theorem mem_plottedPoints {point : UInt16 × UInt16} :
    point ∈ plottedPoints x1 y1 x2 y2 ↔
      ∃ round : Nat, (round : ℤ) ≤ (between x1 y1 x2 y2).distance + 1 ∧
        plotted x1 y1 x2 y2 round = point := by
  have nonneg : 0 ≤ (between x1 y1 x2 y2).distance := distance_nonneg
  simp only [plottedPoints, List.mem_map, List.mem_range]
  constructor
  · rintro ⟨round, inRange, same⟩
    exact ⟨round, by omega, same⟩
  · rintro ⟨round, inRounds, same⟩
    exact ⟨round, by omega, same⟩

/-! The ends. -/

theorem plotted_first : plotted x1 y1 x2 y2 0 = (x1, y1) := by
  have nonneg : 0 ≤ (between x1 y1 x2 y2).distance := distance_nonneg
  obtain ⟨column, row⟩ := plotted_toNat x1 y1 x2 y2 0 (by omega)
  exact Prod.ext (UInt16.toNat_inj.mp (Int.ofNat.inj column))
    (UInt16.toNat_inj.mp (Int.ofNat.inj row))

theorem plotted_last :
    plotted x1 y1 x2 y2 ((between x1 y1 x2 y2).distance.toNat + 1) =
      (x2, y2) := by
  have nonneg : 0 ≤ (between x1 y1 x2 y2).distance := distance_nonneg
  have counted := Int.toNat_of_nonneg nonneg
  have tracks := stateAt_tracks x1 y1 x2 y2
    ((between x1 y1 x2 y2).distance.toNat + 1)
  have wider := deltaX_le_distance (between x1 y1 x2 y2)
  have higher := deltaY_le_distance (between x1 y1 x2 y2)
  obtain ⟨across, down⟩ := tracks
  rw [deltaX_between] at across wider
  rw [deltaY_between] at down higher
  obtain ⟨column, row⟩ := plotted_toNat x1 y1 x2 y2
    ((between x1 y1 x2 y2).distance.toNat + 1) (by push_cast; omega)
  rw [reaches_end wider counted across] at column
  rw [reaches_end higher counted down] at row
  exact Prod.ext (UInt16.toNat_inj.mp (Int.ofNat.inj column))
    (UInt16.toNat_inj.mp (Int.ofNat.inj row))

/-! One round to the next. -/

theorem stateAt_succ :
    stateAt x1 y1 x2 y2 (round + 1) =
      (between x1 y1 x2 y2).next (stateAt x1 y1 x2 y2 round) :=
  Function.iterate_succ_apply' ..

theorem next_row (line : Line) (state : LineState) :
    (line.next state).row = state.row ∨
      (line.next state).row = state.row + line.incx := by
  unfold next
  dsimp only
  split_ifs
  · exact Or.inr rfl
  · exact Or.inl rfl

theorem next_col (line : Line) (state : LineState) :
    (line.next state).col = state.col ∨
      (line.next state).col = state.col + line.incy := by
  unfold next
  dsimp only
  split_ifs
  · exact Or.inr rfl
  · exact Or.inl rfl

theorem plotted_approaches
    (inRounds : (round : ℤ) ≤ (between x1 y1 x2 y2).distance) :
    Approaches x2 y2 (plotted x1 y1 x2 y2 round)
      (plotted x1 y1 x2 y2 (round + 1)) := by
  obtain ⟨column, row⟩ := plotted_toNat x1 y1 x2 y2 round (by omega)
  obtain ⟨nextColumn, nextRow⟩ := plotted_toNat x1 y1 x2 y2 (round + 1)
    (by push_cast; omega)
  obtain ⟨left, right, top, bottom⟩ := stateAt_inside x1 y1 x2 y2 (round + 1)
    (by push_cast; omega)
  rw [← nextColumn] at left right
  rw [← nextRow] at top bottom
  have across := next_row (between x1 y1 x2 y2) (stateAt x1 y1 x2 y2 round)
  have down := next_col (between x1 y1 x2 y2) (stateAt x1 y1 x2 y2 round)
  rw [← stateAt_succ, ← nextColumn, ← column] at across
  rw [← stateAt_succ, ← nextRow, ← row] at down
  obtain ⟨columnStep, columnNearer⟩ := increment_step across left right
  obtain ⟨rowStep, rowNearer⟩ := increment_step down top bottom
  exact ⟨columnStep, rowStep, columnNearer, rowNearer⟩

/-! The longer axis. -/

variable {x1 y1 x2 y2}

theorem flat_distance
    (flat : |(y2.toNat : ℤ) - y1.toNat| ≤ |(x2.toNat : ℤ) - x1.toNat|) :
    (between x1 y1 x2 y2).distance = |(x2.toNat : ℤ) - x1.toNat| := by
  rw [distance_eq_max, deltaX_between, deltaY_between]
  exact max_eq_left flat

theorem steep_distance
    (steep : |(x2.toNat : ℤ) - x1.toNat| ≤ |(y2.toNat : ℤ) - y1.toNat|) :
    (between x1 y1 x2 y2).distance = |(y2.toNat : ℤ) - y1.toNat| := by
  rw [distance_eq_max, deltaX_between, deltaY_between]
  exact max_eq_right steep

/-- Both coordinates of a flat line, counted by the width. -/
theorem flat_tracks
    (flat : |(y2.toNat : ℤ) - y1.toNat| ≤ |(x2.toNat : ℤ) - x1.toNat|) :
    Along.Reaches |(x2.toNat : ℤ) - x1.toNat| |(x2.toNat : ℤ) - x1.toNat|
        (increment (x2.toNat - x1.toNat)) x1.toNat round
        (stateAt x1 y1 x2 y2 round).xerr (stateAt x1 y1 x2 y2 round).row ∧
      Along.Reaches |(x2.toNat : ℤ) - x1.toNat| |(y2.toNat : ℤ) - y1.toNat|
        (increment (y2.toNat - y1.toNat)) y1.toNat round
        (stateAt x1 y1 x2 y2 round).yerr (stateAt x1 y1 x2 y2 round).col := by
  obtain ⟨across, down⟩ := stateAt_tracks x1 y1 x2 y2 round
  rw [flat_distance flat, deltaX_between] at across
  rw [flat_distance flat, deltaY_between] at down
  exact ⟨across, down⟩

theorem steep_tracks
    (steep : |(x2.toNat : ℤ) - x1.toNat| ≤ |(y2.toNat : ℤ) - y1.toNat|) :
    Along.Reaches |(y2.toNat : ℤ) - y1.toNat| |(y2.toNat : ℤ) - y1.toNat|
        (increment (y2.toNat - y1.toNat)) y1.toNat round
        (stateAt x1 y1 x2 y2 round).yerr (stateAt x1 y1 x2 y2 round).col ∧
      Along.Reaches |(y2.toNat : ℤ) - y1.toNat| |(x2.toNat : ℤ) - x1.toNat|
        (increment (x2.toNat - x1.toNat)) x1.toNat round
        (stateAt x1 y1 x2 y2 round).xerr (stateAt x1 y1 x2 y2 round).row := by
  obtain ⟨across, down⟩ := stateAt_tracks x1 y1 x2 y2 round
  rw [steep_distance steep, deltaX_between] at across
  rw [steep_distance steep, deltaY_between] at down
  exact ⟨down, across⟩

theorem flat_covers
    (flat : |(y2.toNat : ℤ) - y1.toNat| ≤ |(x2.toNat : ℤ) - x1.toNat|)
    (x : UInt16) (left : min (x1.toNat : ℤ) x2.toNat ≤ x.toNat)
    (right : (x.toNat : ℤ) ≤ max (x1.toNat : ℤ) x2.toNat) :
    ∃ y, (x, y) ∈ plottedPoints x1 y1 x2 y2 := by
  obtain ⟨inside, reached⟩ := increment_reaches left right
  have round := Int.toNat_of_nonneg (abs_nonneg ((x.toNat : ℤ) - x1.toNat))
  have inRounds : ((|(x.toNat : ℤ) - x1.toNat|.toNat + 1 : ℕ) : ℤ) ≤
      (between x1 y1 x2 y2).distance + 1 := by
    rw [flat_distance flat]
    push_cast
    omega
  have column := (plotted_toNat x1 y1 x2 y2 _ inRounds).1
  rw [reaches_longest (flat_tracks _ flat).1, round, reached] at column
  have same := UInt16.toNat_inj.mp (Int.ofNat.inj column)
  exact ⟨_, (mem_plottedPoints ..).mpr ⟨_, inRounds, Prod.ext same rfl⟩⟩

theorem steep_covers
    (steep : |(x2.toNat : ℤ) - x1.toNat| ≤ |(y2.toNat : ℤ) - y1.toNat|)
    (y : UInt16) (top : min (y1.toNat : ℤ) y2.toNat ≤ y.toNat)
    (bottom : (y.toNat : ℤ) ≤ max (y1.toNat : ℤ) y2.toNat) :
    ∃ x, (x, y) ∈ plottedPoints x1 y1 x2 y2 := by
  obtain ⟨inside, reached⟩ := increment_reaches top bottom
  have round := Int.toNat_of_nonneg (abs_nonneg ((y.toNat : ℤ) - y1.toNat))
  have inRounds : ((|(y.toNat : ℤ) - y1.toNat|.toNat + 1 : ℕ) : ℤ) ≤
      (between x1 y1 x2 y2).distance + 1 := by
    rw [steep_distance steep]
    push_cast
    omega
  have row := (plotted_toNat x1 y1 x2 y2 _ inRounds).2
  rw [reaches_longest (steep_tracks _ steep).1, round, reached] at row
  have same := UInt16.toNat_inj.mp (Int.ofNat.inj row)
  exact ⟨_, (mem_plottedPoints ..).mpr ⟨_, inRounds, Prod.ext rfl same⟩⟩

theorem plottedPoints_shape :
    LineShape x1 y1 x2 y2 (plottedPoints x1 y1 x2 y2) := by
  have nonneg : 0 ≤ (between x1 y1 x2 y2).distance := distance_nonneg
  have counted := Int.toNat_of_nonneg nonneg
  constructor
  case count =>
    rw [plottedPoints, List.length_map, List.length_range,
      Nat.cast_add, counted, distance_eq_max, deltaX_between, deltaY_between]
    rfl
  case first =>
    rw [plottedPoints, List.range_succ_eq_map, List.map_cons, plotted_first]
    rfl
  case last =>
    rw [plottedPoints, List.range_succ, List.map_append, List.getLast?_append]
    exact congrArg some (plotted_last ..)
  case connected =>
    rw [plottedPoints, List.isChain_map, List.isChain_range_succ]
    intro round inRange
    exact plotted_approaches x1 y1 x2 y2 round (by omega)
  case flatCovers => exact flat_covers
  case steepCovers => exact steep_covers
  case flatDeviation =>
    intro flat point member
    obtain ⟨round, inRounds, rfl⟩ := (mem_plottedPoints ..).mp member
    obtain ⟨column, row⟩ := plotted_toNat x1 y1 x2 y2 round inRounds
    obtain ⟨across, down⟩ := flat_tracks round flat
    rw [← column] at across
    rw [← row] at down
    exact reaches_deviation flat across down
  case steepDeviation =>
    intro steep point member
    obtain ⟨round, inRounds, rfl⟩ := (mem_plottedPoints ..).mp member
    obtain ⟨column, row⟩ := plotted_toNat x1 y1 x2 y2 round inRounds
    obtain ⟨down, across⟩ := steep_tracks round steep
    rw [← column] at across
    rw [← row] at down
    exact reaches_deviation steep down across

end Line

/-- On a panel every line is exact. -/
theorem lcdDrawLine_exact (dev : LcdDev) (x1 y1 x2 y2 color : UInt16)
    (onPanel1 : x1.toNat < 32768 ∧ y1.toNat < 32768)
    (onPanel2 : x2.toNat < 32768 ∧ y2.toNat < 32768) :
    ∃ points, LineShape x1 y1 x2 y2 points ∧
      lcdDrawLine dev x1 y1 x2 y2 color = some (points.flatMap fun point =>
        lcdDrawPoint dev point.1 point.2 color.toUInt32) := by
  have short : (Line.between x1 y1 x2 y2).distance < 65534 := by
    rw [Line.distance_eq_max, Line.deltaX_between, Line.deltaY_between,
      max_lt_iff, abs_lt, abs_lt]
    omega
  exact ⟨_, Line.plottedPoints_shape, Line.lcdDrawLine_eq dev color short⟩

theorem lcdDrawLine_exact_slanted :
    ∃ points, LineShape 10 20 3 24 points ∧
      lcdDrawLine LcdDev.zero 10 20 3 24 0xF800 =
        some (points.flatMap fun point =>
          lcdDrawPoint LcdDev.zero point.1 point.2 0xF800) :=
  lcdDrawLine_exact LcdDev.zero 10 20 3 24 0xF800 (by decide) (by decide)

end Ch32v307.Lcd
