import Mathlib.Tactic.Linarith
import Mathlib.Tactic.Positivity
import Mathlib.Tactic.Ring
import Ch32v307.Lcd.Box

namespace Ch32v307.Lcd

/-! What each shape visits lies in its nominal box. -/

/-! Lines. Each coordinate moves with an error term of its own. -/

/-- The error term after some rounds, and how far the coordinate has moved. -/
structure Along (distance delta : ℤ) (rounds : Nat) (err moved : ℤ) :
    Prop where
  nonneg : 0 ≤ err
  bounded : err ≤ distance
  forward : 0 ≤ moved
  balance : err + distance * moved = rounds * delta
  started : err = 0 → moved = 0

def Along.Reaches (distance delta inc start : ℤ) (rounds : Nat)
    (err position : ℤ) : Prop :=
  ∃ moved, Along distance delta rounds err moved ∧
    position = start + inc * moved

theorem along_start {distance : ℤ} (nonneg : 0 ≤ distance)
    (delta inc start : ℤ) :
    Along.Reaches distance delta inc start 0 0 start := by
  refine ⟨0, ⟨le_refl 0, nonneg, le_refl 0, ?_, fun _ => rfl⟩, ?_⟩
  · simp
  · simp

theorem along_next {distance delta inc start err position : ℤ} {rounds : Nat}
    (nonneg : 0 ≤ delta) (shorter : delta ≤ distance)
    (reaches : Along.Reaches distance delta inc start rounds err position) :
    Along.Reaches distance delta inc start (rounds + 1)
      (if err + delta > distance then err + delta - distance else err + delta)
      (if err + delta > distance then position + inc else position) := by
  obtain ⟨moved, ⟨errNonneg, bounded, forward, balance, started⟩, rfl⟩ := reaches
  split
  case isTrue passes =>
    refine ⟨moved + 1, ⟨?_, ?_, ?_, ?_, ?_⟩, ?_⟩
    · omega
    · omega
    · omega
    · push_cast
      linarith
    · intro zero
      omega
    · ring
  case isFalse stays =>
    refine ⟨moved, ⟨?_, ?_, forward, ?_, ?_⟩, rfl⟩
    · omega
    · omega
    · push_cast
      linarith
    · intro zero
      exact started (by omega)

/-- Within one round more than the distance, no coordinate passes its end. -/
theorem along_moved_le {distance delta err moved : ℤ} {rounds : Nat}
    (nonneg : 0 ≤ delta) (shorter : delta ≤ distance)
    (along : Along distance delta rounds err moved)
    (inRounds : (rounds : ℤ) ≤ distance + 1) : moved ≤ delta := by
  obtain ⟨errNonneg, bounded, forward, balance, started⟩ := along
  rcases errNonneg.eq_or_lt with zero | positive
  · rw [started zero.symm]
    exact nonneg
  · have rounded : rounds * delta ≤ (distance + 1) * delta :=
      mul_le_mul_of_nonneg_right inRounds nonneg
    have below : distance * moved < distance * (delta + 1) := by
      calc
        distance * moved < rounds * delta := by linarith
        _ ≤ (distance + 1) * delta := rounded
        _ = distance * delta + delta := by ring
        _ ≤ distance * delta + distance := by linarith
        _ = distance * (delta + 1) := by ring
    have := lt_of_mul_lt_mul_left below (by linarith)
    omega

/-- One round later, the coordinate with the larger increment is past its
end. -/
theorem along_past_end {distance err moved : ℤ} {rounds : Nat}
    (moves : 0 < distance) (along : Along distance distance rounds err moved)
    (counted : (rounds : ℤ) = distance + 2) : moved = distance + 1 := by
  obtain ⟨errNonneg, bounded, forward, balance, started⟩ := along
  rw [counted] at balance
  have running : 0 < err := by
    rcases errNonneg.eq_or_lt with zero | positive
    · rw [started zero.symm, ← zero] at balance
      have : 0 < (distance + 2) * distance := by positivity
      omega
    · exact positive
  have below : distance * moved < distance * (distance + 2) := by linarith
  have above : distance * distance < distance * moved := by linarith
  have := lt_of_mul_lt_mul_left below moves.le
  have := lt_of_mul_lt_mul_left above moves.le
  omega

theorem increment_past {first last : ℤ} (apart : 0 < |last - first|) :
    ¬ (min first last ≤
        first + increment (last - first) * (|last - first| + 1) ∧
      first + increment (last - first) * (|last - first| + 1) ≤
        max first last) := by
  unfold increment
  split_ifs with ascending level
  · rw [abs_of_pos ascending]
    omega
  · rw [level, abs_zero] at apart
    omega
  · rw [abs_of_nonpos (by omega)]
    omega

theorem increment_between {first last moved : ℤ} (forward : 0 ≤ moved)
    (inside : moved ≤ |last - first|) :
    min first last ≤ first + increment (last - first) * moved ∧
      first + increment (last - first) * moved ≤ max first last := by
  unfold increment
  split_ifs with ascending level
  · rw [abs_of_pos ascending] at inside
    omega
  · rw [level, abs_zero] at inside
    omega
  · rw [abs_of_nonpos (by omega)] at inside
    omega

/-- In the rounds of the loop a coordinate is between its two ends. -/
theorem reaches_between {distance first last err position : ℤ} {rounds : Nat}
    (shorter : |last - first| ≤ distance)
    (inRounds : (rounds : ℤ) ≤ distance + 1)
    (reaches : Along.Reaches distance |last - first|
      (increment (last - first)) first rounds err position) :
    min first last ≤ position ∧ position ≤ max first last := by
  obtain ⟨moved, along, rfl⟩ := reaches
  exact increment_between along.forward
    (along_moved_le (abs_nonneg _) shorter along inRounds)

/-- The round after the last would take the widest coordinate past its end. -/
theorem reaches_past {first last err position : ℤ} {rounds : Nat}
    (apart : 0 < |last - first|)
    (counted : (rounds : ℤ) = |last - first| + 2)
    (reaches : Along.Reaches |last - first| |last - first|
      (increment (last - first)) first rounds err position) :
    ¬ (min first last ≤ position ∧ position ≤ max first last) := by
  obtain ⟨moved, along, rfl⟩ := reaches
  rw [along_past_end apart along counted]
  exact increment_past apart

theorem magnitude (delta : ℤ) :
    (if delta < 0 then -delta else delta) = |delta| := by
  split_ifs with negative
  · exact (abs_of_neg negative).symm
  · exact (abs_of_nonneg (not_lt.mp negative)).symm

namespace Line

/-- Both coordinates after some rounds of the loop. -/
structure Tracks (line : Line) (x1 y1 : ℤ) (rounds : Nat)
    (state : LineState) : Prop where
  row : Along.Reaches line.distance line.deltaX line.incx x1 rounds state.xerr
    state.row
  col : Along.Reaches line.distance line.deltaY line.incy y1 rounds state.yerr
    state.col

theorem distance_eq_max (line : Line) :
    line.distance = max line.deltaX line.deltaY := by
  unfold distance
  split_ifs with wider
  · exact (max_eq_left wider.le).symm
  · exact (max_eq_right (not_lt.mp wider)).symm

theorem deltaX_le_distance (line : Line) : line.deltaX ≤ line.distance := by
  rw [distance_eq_max]
  exact le_max_left ..

theorem deltaY_le_distance (line : Line) : line.deltaY ≤ line.distance := by
  rw [distance_eq_max]
  exact le_max_right ..

theorem tracks_next {line : Line} {a b : ℤ} {rounds : Nat}
    {state : LineState} (deltaX : 0 ≤ line.deltaX) (deltaY : 0 ≤ line.deltaY)
    (tracks : line.Tracks a b rounds state) :
    line.Tracks a b (rounds + 1) (line.next state) := by
  constructor
  · exact along_next deltaX line.deltaX_le_distance tracks.row
  · exact along_next deltaY line.deltaY_le_distance tracks.col

variable {x1 y1 x2 y2 : UInt16}

theorem deltaX_between :
    (between x1 y1 x2 y2).deltaX = |(x2.toNat : ℤ) - x1.toNat| :=
  magnitude _

theorem deltaY_between :
    (between x1 y1 x2 y2).deltaY = |(y2.toNat : ℤ) - y1.toNat| :=
  magnitude _

theorem deltaX_nonneg : 0 ≤ (between x1 y1 x2 y2).deltaX := by
  rw [deltaX_between]
  exact abs_nonneg _

theorem deltaY_nonneg : 0 ≤ (between x1 y1 x2 y2).deltaY := by
  rw [deltaY_between]
  exact abs_nonneg _

theorem distance_nonneg : 0 ≤ (between x1 y1 x2 y2).distance :=
  deltaX_nonneg.trans (deltaX_le_distance _)

def box (x1 y1 x2 y2 : UInt16) : Box where
  left := min x1.toNat x2.toNat
  right := max x1.toNat x2.toNat
  top := min y1.toNat y2.toNat
  bottom := max y1.toNat y2.toNat

theorem box_first : (box x1 y1 x2 y2).Contains x1.toNat y1.toNat :=
  ⟨min_le_left .., le_max_left .., min_le_left .., le_max_left ..⟩

theorem box_last : (box x1 y1 x2 y2).Contains x2.toNat y2.toNat :=
  ⟨min_le_right .., le_max_right .., min_le_right .., le_max_right ..⟩

theorem tracks_inside {rounds : Nat} {state : LineState}
    (tracks : (between x1 y1 x2 y2).Tracks x1.toNat y1.toNat rounds state)
    (inRounds : (rounds : ℤ) ≤ (between x1 y1 x2 y2).distance + 1) :
    (box x1 y1 x2 y2).Contains state.row state.col := by
  obtain ⟨row, col⟩ := tracks
  have wider := deltaX_le_distance (between x1 y1 x2 y2)
  have higher := deltaY_le_distance (between x1 y1 x2 y2)
  rw [deltaX_between] at row wider
  rw [deltaY_between] at col higher
  obtain ⟨left, right⟩ := reaches_between wider inRounds row
  obtain ⟨top, bottom⟩ := reaches_between higher inRounds col
  exact ⟨left, right, top, bottom⟩

theorem iterate_tracks (rounds : Nat) :
    (between x1 y1 x2 y2).Tracks x1.toNat y1.toNat rounds
      ((between x1 y1 x2 y2).next^[rounds] ⟨0, 0, x1.toNat, y1.toNat⟩) := by
  induction rounds with
  | zero =>
      exact ⟨along_start distance_nonneg .., along_start distance_nonneg ..⟩
  | succ rounds ih =>
      rw [Function.iterate_succ_apply']
      exact tracks_next deltaX_nonneg deltaY_nonneg ih

/-- The round after the last one of the loop would leave the box. -/
theorem past_end_outside (moves : 0 < (between x1 y1 x2 y2).distance)
    {rounds : Nat}
    (counted : (rounds : ℤ) = (between x1 y1 x2 y2).distance + 2)
    {state : LineState}
    (tracks : (between x1 y1 x2 y2).Tracks x1.toNat y1.toNat rounds state) :
    ¬ (box x1 y1 x2 y2).Contains state.row state.col := by
  obtain ⟨row, col⟩ := tracks
  have widest := distance_eq_max (between x1 y1 x2 y2)
  intro inside
  rcases max_choice (between x1 y1 x2 y2).deltaX (between x1 y1 x2 y2).deltaY
    with wider | higher
  · rw [wider, deltaX_between] at widest
    rw [widest] at moves counted
    rw [widest, deltaX_between] at row
    exact reaches_past moves counted row ⟨inside.left, inside.right⟩
  · rw [higher, deltaY_between] at widest
    rw [widest] at moves counted
    rw [widest, deltaY_between] at col
    exact reaches_past moves counted col ⟨inside.top, inside.bottom⟩

/-- The counter passes its bound when that is below 65535, and the loop lists
the states of its rounds. -/
theorem points_eq {line : Line} (passes : line.distance < 65534)
    (remaining fuel : Nat) (t : UInt16) (state : LineState)
    (counted : (t.toNat : ℤ) + remaining = line.distance + 2)
    (fueled : remaining < fuel) :
    line.points fuel t state =
      some ((List.range remaining).map fun round =>
        ((line.next^[round] state).row, (line.next^[round] state).col)) := by
  induction remaining generalizing fuel t state with
  | zero =>
      cases fuel with
      | zero => omega
      | succ fuel =>
          have past : ¬ (t.toNat : ℤ) ≤ line.distance + 1 := by omega
          exact if_neg past
  | succ remaining ih =>
      cases fuel with
      | zero => omega
      | succ fuel =>
          have more : (t.toNat : ℤ) ≤ line.distance + 1 := by omega
          have next : (t + 1).toNat = t.toNat + 1 :=
            Data.Word.toNat_succ (by omega)
          rw [points, if_pos more, ih fuel (t + 1) (line.next state) (by omega)
            (by omega), List.range_succ_eq_map, List.map_cons, List.map_map]
          rfl

theorem linePoints_eq (passes : (between x1 y1 x2 y2).distance < 65534) :
    linePoints x1 y1 x2 y2 =
      some ((List.range ((between x1 y1 x2 y2).distance.toNat + 2)).map
        fun round =>
          let state := (between x1 y1 x2 y2).next^[round]
            ⟨0, 0, x1.toNat, y1.toNat⟩
          (state.row, state.col)) := by
  have nonneg : 0 ≤ (between x1 y1 x2 y2).distance := distance_nonneg
  have zero : (0 : UInt16).toNat = 0 := rfl
  exact points_eq passes _ (65536 + 1) 0 _ (by rw [zero]; omega) (by omega)

/-- Otherwise the loop never ends. -/
theorem points_endless {line : Line} (endless : 65534 ≤ line.distance)
    (fuel : Nat) (t : UInt16) (state : LineState) :
    line.points fuel t state = none := by
  induction fuel generalizing t state with
  | zero => rfl
  | succ fuel ih =>
      have bound := t.toNat_lt
      have more : (t.toNat : ℤ) ≤ line.distance + 1 := by omega
      rw [points, if_pos more, ih]
      rfl

end Line

/-! Circles. -/

def circleBox (x y r : ℤ) : Box := ⟨x - r, x + r, y - r, y + r⟩

theorem circlePoints_inside {x0 y0 a b r : ℤ} (nonneg : 0 ≤ a) (steep : a ≤ b)
    (inside : b ≤ r) :
    ∀ point ∈ circlePoints x0 y0 a b,
      (circleBox x0 y0 r).Contains point.1 point.2 := by
  simp only [circlePoints, List.forall_mem_cons, List.not_mem_nil,
    false_implies, implies_true, and_true]
  refine ⟨?_, ?_, ?_, ?_, ?_, ?_, ?_, ?_⟩
  all_goals
    constructor
    all_goals
      simp only [circleBox]
      omega

theorem circleRounds_inside {r : ℤ} (fuel : Nat) (a b di : ℤ)
    (nonneg : 0 ≤ a) (started : a ≤ r + 1) (inside : b ≤ r)
    (fueled : r + 1 < a + fuel) :
    ∃ rounds, circleRounds fuel a b di = some rounds ∧
      ∀ round ∈ rounds, 0 ≤ round.1 ∧ round.1 ≤ round.2 ∧ round.2 ≤ r := by
  induction fuel generalizing a b di with
  | zero => omega
  | succ fuel ih =>
      rw [circleRounds]
      split
      case isFalse crossed => exact ⟨[], rfl, by simp⟩
      case isTrue more =>
        have here : 0 ≤ a ∧ a ≤ b ∧ b ≤ r := ⟨nonneg, more, inside⟩
        split_ifs with outside
        · obtain ⟨rounds, counted, bounds⟩ := ih (a + 1) b
            (di + 4 * (a + 1) + 6) (by omega) (by omega) inside (by omega)
          refine ⟨(a, b) :: rounds, by rw [counted]; rfl, ?_⟩
          exact List.forall_mem_cons.mpr ⟨here, bounds⟩
        · obtain ⟨rounds, counted, bounds⟩ := ih (a + 1) (b - 1)
            (di + 10 + 4 * (a + 1 - b)) (by omega) (by omega) (by omega)
            (by omega)
          refine ⟨(a, b) :: rounds, by rw [counted]; rfl, ?_⟩
          exact List.forall_mem_cons.mpr ⟨here, bounds⟩

theorem circle_inside (x0 y0 : ℤ) (r : UInt8) :
    ∃ rounds, circleRounds (256 + 1) 0 r.toNat (3 - 2 * r.toNat) =
        some rounds ∧
      ∀ point ∈ rounds.flatMap fun round =>
          circlePoints x0 y0 round.1 round.2,
        (circleBox x0 y0 r.toNat).Contains point.1 point.2 := by
  have bound := r.toNat_lt
  obtain ⟨rounds, counted, bounds⟩ :=
    circleRounds_inside (r := r.toNat) (256 + 1) 0 r.toNat (3 - 2 * r.toNat)
      (le_refl 0) (by omega) (le_refl _) (by omega)
  refine ⟨rounds, counted, fun point member => ?_⟩
  obtain ⟨round, inRounds, here⟩ := List.mem_flatMap.mp member
  obtain ⟨nonneg, steep, inside⟩ := bounds round inRounds
  exact circlePoints_inside nonneg steep inside point here

/-! Filled circles of a radius from 1 on: the half-width is never 0 where it is
counted down. -/

namespace Disc

/-- The values at the head of a round. -/
structure InRound (r : UInt16) (i xr : UInt32) : Prop where
  first : 1 ≤ i.toNat
  row : i.toNat ≤ r.toNat
  half : xr.toNat ≤ r.toNat
  half_range : r.toNat < 32768

variable {x y r : UInt16} {i xr : UInt32}

theorem imax_toNat (x y r : UInt16) :
    (around x y r).imax.toNat = r.toNat * 707 / 1000 + 1 := by
  have bound := r.toNat_lt
  have product : (r.toUInt32 * 707).toNat = r.toNat * 707 := by
    simp only [UInt32.toNat_mul, UInt16.toNat_toUInt32, UInt32.reduceToNat]
    exact Nat.mod_eq_of_lt (by omega)
  simp only [around, UInt32.toNat_add, UInt32.toNat_div, product,
    UInt32.reduceToNat]
  omega

theorem square_toNat (value : UInt32) (small : value.toNat < 32768) :
    (value * value).toNat = value.toNat * value.toNat ∧
      value.toNat * value.toNat < 1073741824 := by
  have square : value.toNat * value.toNat < 32768 * 32768 :=
    Nat.mul_lt_mul'' small small
  constructor
  · rw [UInt32.toNat_mul]
    omega
  · omega

theorem sqmax_toNat (x y r : UInt16) :
    (around x y r).sqmax.toNat = r.toNat * r.toNat + r.toNat / 2 := by
  have bound := r.toNat_lt
  have square : r.toNat * r.toNat ≤ 65535 * 65535 :=
    Nat.mul_le_mul (by omega) (by omega)
  simp only [around, UInt32.toNat_add, UInt32.toNat_mul, UInt32.toNat_div,
    UInt16.toNat_toUInt32, UInt32.reduceToNat]
  omega

theorem squares_toNat (inRound : InRound r i xr) :
    (i * i + xr * xr).toNat =
      i.toNat * i.toNat + xr.toNat * xr.toNat := by
  obtain ⟨first, row, half, small⟩ := inRound
  have rowSquare := square_toNat i (by omega)
  have halfSquare := square_toNat xr (by omega)
  rw [UInt32.toNat_add, rowSquare.1, halfSquare.1]
  omega

theorem half_pos (inRound : InRound r i xr)
    (narrows : (around x y r).narrows i xr) : 0 < xr.toNat := by
  have exceeds := UInt32.lt_iff_toNat_lt.mp narrows
  rw [squares_toNat inRound, sqmax_toNat] at exceeds
  have rows := Nat.mul_le_mul inRound.row inRound.row
  rcases Nat.eq_zero_or_pos xr.toNat with zero | positive
  · rw [zero] at exceeds
    omega
  · exact positive

theorem pred_toNat (positive : 0 < xr.toNat) :
    (xr - 1).toNat = xr.toNat - 1 :=
  UInt32.toNat_sub_of_le _ _ (UInt32.le_iff_toNat_le.mpr positive)

theorem nextXr_le (inRound : InRound r i xr) :
    ((around x y r).nextXr i xr).toNat ≤ r.toNat := by
  unfold nextXr
  split
  case isTrue narrows =>
    rw [pred_toNat (half_pos inRound narrows)]
    exact (Nat.sub_le ..).trans inRound.half
  case isFalse => exact inRound.half

theorem rounds_inRound (count : Nat) (i xr : UInt32)
    (first : 1 ≤ i.toNat) (rows : i.toNat + count ≤ r.toNat + 1)
    (half : xr.toNat ≤ r.toNat) (small : r.toNat < 32768) :
    ∀ round ∈ (around x y r).rounds count i xr,
      InRound r round.1 round.2 := by
  induction count generalizing i xr with
  | zero => simp [rounds]
  | succ count ih =>
      have here : InRound r i xr := ⟨first, by omega, half, small⟩
      have next : (i + 1).toNat = i.toNat + 1 := by
        rw [UInt32.toNat_add, UInt32.toNat_one]
        omega
      rw [rounds, List.forall_mem_cons]
      exact ⟨here, ih (i + 1) _ (by omega) (by omega) (nextXr_le here)⟩

theorem discRounds_inRound (nonempty : r ≠ 0) (small : r.toNat < 32768) :
    ∀ round ∈ discRounds x y r, InRound r round.1 round.2 := by
  have positive : r.toNat ≠ 0 := fun zero =>
    nonempty (UInt16.toNat_inj.mp zero)
  have imax := imax_toNat x y r
  apply rounds_inRound
  · exact le_refl 1
  · rw [imax, UInt32.toNat_one]
    omega
  · rw [UInt16.toNat_toUInt32]
  · exact small

theorem lines_within (inRound : InRound r i xr) :
    ∀ line ∈ (around x y r).lines i xr,
      line.Within (circleBox x.toNat y.toNat r.toNat) := by
  have next := nextXr_le (x := x) (y := y) inRound
  obtain ⟨first, row, half, small⟩ := inRound
  intro line member
  rcases List.mem_append.mp member with outside | inside
  · split_ifs at outside
    · rcases List.mem_pair.mp outside with rfl | rfl
      all_goals
        constructor
        all_goals
          simp only [circleBox, around]
          omega
    · cases outside
  · rcases List.mem_pair.mp inside with rfl | rfl
    all_goals
      constructor
      all_goals
        simp only [circleBox, around] at next ⊢
        omega

theorem discLines_within (nonempty : r ≠ 0) (small : r.toNat < 32768) :
    ∀ line ∈ discLines x y r,
      line.Within (circleBox x.toNat y.toNat r.toNat) := by
  unfold discLines
  rw [List.forall_mem_cons]
  constructor
  · constructor
    all_goals
      simp only [circleBox]
      omega
  · intro line member
    obtain ⟨round, inRounds, here⟩ := List.mem_flatMap.mp member
    exact lines_within (discRounds_inRound nonempty small round inRounds) line
      here

/-- The values of a round that the source computes in `uint32_t`. -/
structure ExactRound (disc : Disc) (i xr : UInt32) : Prop where
  next : Fits 4294967296 (i.toNat + 1)
  squares : Fits 4294967296 (i.toNat * i.toNat + xr.toNat * xr.toNat)
  across : Fits 4294967296 (disc.x - i.toNat)
  half : disc.narrows i xr → Fits 4294967296 (xr.toNat - 1)

theorem exactRound (inRound : InRound r i xr) (inside : r.toNat ≤ x.toNat) :
    (around x y r).ExactRound i xr := by
  have rowSquare := square_toNat i
    (inRound.row.trans_lt inRound.half_range)
  have halfSquare := square_toNat xr
    (inRound.half.trans_lt inRound.half_range)
  have bound := x.toNat_lt
  have iBound := inRound.row
  have rBound := inRound.half_range
  constructor
  · constructor
    · omega
    · omega
  · have sum : i.toNat * i.toNat + xr.toNat * xr.toNat < 4294967296 := by omega
    constructor
    · exact_mod_cast Nat.zero_le _
    · exact_mod_cast sum
  · simp only [around]
    constructor
    · omega
    · omega
  · intro narrows
    have positive := half_pos inRound narrows
    have xrBound := inRound.half
    constructor
    · omega
    · omega

end Disc

/-! Characters. A column takes a number of bytes, the last of them in part. -/

section Char

variable {style : CharStyle} {dev : LcdDev}

/-- The position a byte leaves: further down its column, or at the top of the
next one. -/
inductive CharStyle.Leaves (style : CharStyle) (bits : Nat) (x y : UInt16) :
    UInt16 → UInt16 → Prop where
  | below {later : UInt16} (row : later.toNat = y.toNat + bits)
      (inside : y.toNat + bits < style.y0.toNat + style.size.toNat) :
      style.Leaves bits x y x later
  | next {column : UInt16} (column_next : column.toNat = x.toNat + 1)
      (full : style.y0.toNat + style.size.toNat ≤ y.toNat + bits) :
      style.Leaves bits x y column style.y0

structure CharStyle.InColumn (style : CharStyle) (x : UInt16)
    (visit : Visit) : Prop where
  column : visit.x = x
  top : style.y0.toNat ≤ visit.y.toNat
  bottom : visit.y.toNat < style.y0.toNat + style.size.toNat

theorem showByte_inside
    (screen : style.y0.toNat + style.size.toNat ≤ dev.height.toNat)
    (bits : Nat) (temp : UInt8) {x y : UInt16}
    (top : style.y0.toNat ≤ y.toNat)
    (row : y.toNat < style.y0.toNat + style.size.toNat)
    (column : x.toNat < dev.width.toNat) :
    (∀ visit ∈ (style.showByte dev bits temp x y).1,
        style.InColumn x visit) ∧
      ∀ left ∈ (style.showByte dev bits temp x y).2,
        style.Leaves bits x y left.1 left.2 := by
  have height := dev.height.toNat_lt
  have width := dev.width.toNat_lt
  induction bits generalizing temp y with
  | zero =>
      refine ⟨by simp [CharStyle.showByte], fun left member => ?_⟩
      obtain rfl := Option.some.inj member
      exact .below rfl row
  | succ bits ih =>
      have here : style.InColumn x ⟨x, y, temp⟩ := ⟨rfl, top, row⟩
      have alone : ∀ visit ∈ [(⟨x, y, temp⟩ : Visit)],
          style.InColumn x visit := by
        rw [List.forall_mem_singleton]
        exact here
      have down : (y + 1).toNat = y.toNat + 1 := Data.Word.toNat_succ (by omega)
      by_cases bottom : y + 1 ≥ dev.height
      · rw [showByte_bottom bottom]
        exact ⟨alone, by simp⟩
      · by_cases full : ((y + 1).toNat : ℤ) - style.y0.toNat = style.size.toNat
        · rw [showByte_full bottom full]
          refine ⟨alone, fun left member => ?_⟩
          split_ifs at member with offRight
          · cases member
          · obtain rfl := Option.some.inj member
            exact .next (Data.Word.toNat_succ (by omega)) (by omega)
        · rw [showByte_more bottom full]
          obtain ⟨inside, leaves⟩ := @ih (temp <<< 1) (y + 1) (by omega)
            (by omega)
          refine ⟨List.forall_mem_cons.mpr ⟨here, inside⟩, ?_⟩
          rintro ⟨column, row⟩ member
          cases leaves _ member with
          | below sameRow inside => exact .below (by omega) (by omega)
          | next column_next full => exact .next column_next (by omega)

/-- A column of a character takes this many bytes. -/
structure ColumnBytes (size : UInt8) (bytes : Nat) : Prop where
  begun : 8 * bytes < size.toNat + 8
  covered : size.toNat ≤ 8 * bytes
  positive : 0 < bytes

/-- The position before a byte, by its column and its place in the column. -/
structure CharStyle.Before (style : CharStyle) (x0 bytes columns : Nat)
    (remaining : Nat) (x y : UInt16) (column part : Nat) : Prop where
  across : x.toNat = x0 + column
  down : y.toNat = style.y0.toNat + 8 * part
  inColumn : part < bytes
  remaining : column * bytes + part + remaining = columns * bytes

theorem before_column {x0 bytes columns remaining column part : Nat}
    {x y : UInt16}
    (before : style.Before x0 bytes columns (remaining + 1) x y column part) :
    column < columns := by
  by_contra outside
  have wide := Nat.mul_le_mul_right bytes (Nat.le_of_not_lt outside)
  have remains := before.remaining
  omega

theorem before_next {x0 bytes columns remaining column part : Nat}
    {x y nextX nextY : UInt16} (cut : ColumnBytes style.size bytes)
    (before : style.Before x0 bytes columns (remaining + 1) x y column part)
    (leaves : style.Leaves 8 x y nextX nextY) :
    ∃ column part,
      style.Before x0 bytes columns remaining nextX nextY column part := by
  obtain ⟨begun, covered, -⟩ := cut
  obtain ⟨xEq, yEq, inColumn, remains⟩ := before
  cases leaves with
  | below row inside =>
      exact ⟨column, part + 1, xEq, by omega, by omega, by omega⟩
  | next column_next full =>
      have last : part + 1 = bytes := by omega
      refine ⟨column + 1, 0, by omega, rfl, by omega, ?_⟩
      rw [Nat.succ_mul]
      omega

structure CharStyle.Inside (style : CharStyle) (x0 columns : Nat)
    (visit : Visit) : Prop where
  left : x0 ≤ visit.x.toNat
  right : visit.x.toNat < x0 + columns
  top : style.y0.toNat ≤ visit.y.toNat
  bottom : visit.y.toNat < style.y0.toNat + style.size.toNat

theorem showBytes_inside {x0 bytes columns : Nat}
    (cut : ColumnBytes style.size bytes)
    (screen : style.y0.toNat + style.size.toNat ≤ dev.height.toNat)
    (wide : x0 + columns ≤ dev.width.toNat) (pfont : List UInt8)
    {x y : UInt16} {column part : Nat}
    (before : style.Before x0 bytes columns pfont.length x y column part) :
    ∀ visit ∈ style.showBytes dev pfont x y,
      style.Inside x0 columns visit := by
  induction pfont generalizing x y column part with
  | nil => simp [CharStyle.showBytes]
  | cons temp rest ih =>
      rw [List.length_cons] at before
      have inColumns := before_column before
      obtain ⟨across, down, inColumn, remains⟩ := id before
      have begun := cut.begun
      have row : y.toNat < style.y0.toNat + style.size.toNat := by omega
      obtain ⟨inside, leaves⟩ := showByte_inside screen 8 temp
        (Nat.le.intro down.symm) row (by omega : x.toNat < dev.width.toNat)
      have here : ∀ visit ∈ (style.showByte dev 8 temp x y).1,
          style.Inside x0 columns visit := by
        intro visit member
        obtain ⟨rfl, top, bottom⟩ := inside visit member
        exact ⟨by omega, by omega, top, bottom⟩
      rw [CharStyle.showBytes]
      cases left : (style.showByte dev 8 temp x y).2 with
      | none => exact here
      | some next =>
          obtain ⟨column, part, nextBefore⟩ :=
            before_next cut before (leaves next left)
          intro visit member
          rcases List.mem_append.mp member with first | later
          · exact here visit first
          · exact ih nextBefore visit later

theorem charSize_columns {size : UInt8} (supported : IsCharSize size) :
    ∃ bytes, ColumnBytes size bytes ∧
      (charSize size).toNat = size.toNat / 2 * bytes := by
  rcases supported with rfl | rfl | rfl | rfl
  · exact ⟨2, ⟨by decide, by decide, by decide⟩, by decide⟩
  · exact ⟨2, ⟨by decide, by decide, by decide⟩, by decide⟩
  · exact ⟨3, ⟨by decide, by decide, by decide⟩, by decide⟩
  · exact ⟨4, ⟨by decide, by decide, by decide⟩, by decide⟩

theorem charVisits_inside (font : UInt8 → UInt8 → Nat → UInt8) (x : UInt16)
    (chr : UInt8)
    (screen : style.y0.toNat + style.size.toNat ≤ dev.height.toNat)
    (wide : x.toNat + style.size.toNat / 2 ≤ dev.width.toNat) :
    ∀ visit ∈ charVisits dev font style x chr,
      style.Inside x.toNat (style.size.toNat / 2) visit := by
  unfold charVisits
  split
  case isFalse => simp
  case isTrue supported =>
    obtain ⟨bytes, cut, count⟩ := charSize_columns supported
    have before : style.Before x.toNat bytes (style.size.toNat / 2)
        ((List.range (charSize style.size).toNat).map
          (font style.size (chr - 32))).length x style.y0 0 0 := by
      refine ⟨rfl, rfl, cut.positive, ?_⟩
      rw [List.length_map, List.length_range, count]
      omega
    exact showBytes_inside cut screen wide _ before

end Char

end Ch32v307.Lcd
