import Mathlib.Tactic.Linarith
import Mathlib.Tactic.Ring
import Ch32v307.Data.Descent
import Ch32v307.Lcd.Clear
import Ch32v307.Lcd.Drawing
import Ch32v307.Lcd.Hlines

namespace Ch32v307.Lcd

open Data

/-! The filled circle itself: the pixels of a call against the disc. -/

/-! The half-width of the disc, row by row, in natural numbers. -/

def discSquare (r : Nat) : Nat := r * r + r / 2

def discRows (r : Nat) : Nat := r * 707 / 1000 + 1

def discHalf (r : Nat) : Nat → Nat
  | 0 => r
  | i + 1 =>
      let xr := discHalf r i
      if discSquare r < (i + 1) * (i + 1) + xr * xr then xr - 1 else xr

/-- The half-width of the disc in a row, in closed form. -/
def discWidth (r row : Nat) : Nat := Nat.sqrt (discSquare r - row * row)

theorem discHalf_descent (r : Nat) : Descent (discHalf r) := by
  intro i
  rw [discHalf]
  split_ifs
  · omega
  · exact Or.inl rfl

theorem discHalf_le (r i : Nat) : discHalf r i ≤ r :=
  (discHalf_descent r).antitone (Nat.zero_le i)

/-- How the half-width follows the circle: not outside of it below the
diagonal, and one less than a width that was. -/
structure DiscTracks (r i xr : Nat) : Prop where
  kept : i ≤ xr → i * i + xr * xr ≤ discSquare r
  tight : xr < r → discSquare r < i * i + (xr + 1) * (xr + 1)

theorem discTracks_next {r i xr : Nat} (tracks : DiscTracks r i xr) :
    DiscTracks r (i + 1)
      (if discSquare r < (i + 1) * (i + 1) + xr * xr then xr - 1 else xr) := by
  obtain ⟨kept, tight⟩ := tracks
  split
  case isTrue narrows =>
    cases xr with
    | zero =>
        constructor
        · intro below
          omega
        · intro _
          exact Nat.lt_succ_of_lt narrows
    | succ xr =>
        rw [Nat.add_sub_cancel]
        constructor
        · intro below
          have before := kept (by omega)
          linarith
        · intro _
          exact narrows
  case isFalse stays =>
    constructor
    · intro _
      omega
    · intro smaller
      have before := tight smaller
      linarith

theorem discTracks (r i : Nat) : DiscTracks r i (discHalf r i) := by
  induction i with
  | zero =>
      constructor
      · intro _
        simp only [discHalf, discSquare]
        omega
      · intro smaller
        exact absurd smaller (lt_irrefl r)
  | succ i ih => exact discTracks_next ih

/-! The runs of the rows: one from the center, some from the half-widths, some
from where a half-width is left. -/

inductive DiscRun (r : Nat) : (row half : Nat) → Prop where
  | center : DiscRun r 0 r
  | inside {i : Nat} (inRounds : i < discRows r) :
      DiscRun r (i + 1) (discHalf r (i + 1))
  | outside {row i : Nat} (inRounds : i < discRows r)
      (leaves : Descent.Leaves (discHalf r) row i) (beyond : discRows r < row) :
      DiscRun r row i

/-- The two fronts meet: the half-width does not stay above the last row. -/
def FrontsMeet (r : Nat) : Prop :=
  discSquare r <
    discRows r * discRows r + (discRows r + 1) * (discRows r + 1)

section Rows

variable {r row half : Nat}

theorem discRows_le (positive : 1 ≤ r) : discRows r ≤ r := by
  unfold discRows
  omega

theorem half_within (large : 2 ≤ r) {i : Nat} (inRows : i ≤ discRows r)
    (crossed : discHalf r i < i) :
    i * i + discHalf r i * discHalf r i ≤ (r + 1) * (r + 1) := by
  have rows : 1000 * discRows r ≤ 707 * r + 1000 := by
    unfold discRows
    omega
  have product : i * i + discHalf r i * discHalf r i ≤
      discRows r * discRows r + (discRows r - 1) * (discRows r - 1) :=
    Nat.add_le_add (Nat.mul_le_mul inRows inRows)
      (Nat.mul_le_mul (by omega) (by omega))
  obtain ⟨last, lastRow⟩ : ∃ last, discRows r = last + 1 := ⟨_, rfl⟩
  rw [lastRow] at rows product
  rw [Nat.add_sub_cancel] at product
  nlinarith

/-- No run reaches outside the circle of the next radius. -/
theorem DiscRun.within (large : 2 ≤ r) (run : DiscRun r row half) :
    row * row + half * half ≤ (r + 1) * (r + 1) := by
  have square : discSquare r ≤ (r + 1) * (r + 1) := by
    have : (r + 1) * (r + 1) = r * r + 2 * r + 1 := by ring
    unfold discSquare
    omega
  cases run with
  | center => nlinarith
  | @inside i inRounds =>
      rcases Nat.lt_or_ge (discHalf r (i + 1)) (i + 1) with crossed | below
      · exact half_within large inRounds crossed
      · exact ((discTracks r (i + 1)).kept below).trans square
  | outside inRounds leaves beyond =>
      have kept := (discTracks r half).kept
      rw [leaves.here] at kept
      have := kept (by omega)
      omega

/-- Every run reaches past the circle of the radius before. -/
theorem DiscRun.past (large : 2 ≤ r) (run : DiscRun r row half) :
    (r - 1) * (r - 1) < row * row + half * half := by
  have rows := discRows_le (Nat.le_of_succ_le large)
  obtain ⟨before, rfl⟩ : ∃ before, r = before + 1 := ⟨r - 1, by omega⟩
  have square : (before + 1) * (before + 1) ≤ discSquare (before + 1) :=
    Nat.le_add_right ..
  rw [Nat.add_sub_cancel]
  cases run with
  | center => linarith
  | @inside i inRounds =>
      rcases (discHalf_le (before + 1) (i + 1)).lt_or_eq with smaller | whole
      · have tight := (discTracks (before + 1) (i + 1)).tight smaller
        linarith
      · rw [whole]
        linarith [Nat.zero_le ((i + 1) * (i + 1))]
  | outside inRounds leaves beyond =>
      have := leaves.next
      have := leaves.here
      have := discHalf_le (before + 1) half
      have tight := (discTracks (before + 1) (half + 1)).tight (by omega)
      rw [leaves.next] at tight
      have : half ≤ before := by omega
      linarith

theorem discRows_square (r : Nat) :
    2 * ((discRows r - 1) * (discRows r - 1)) ≤ r * r := by
  have rows : 1000 * (discRows r - 1) ≤ 707 * r := by
    unfold discRows
    omega
  nlinarith

/-- Only the last row of the rounds can lie beyond the diagonal. -/
theorem row_le_discHalf {i : Nat} (inRounds : i < discRows r) :
    i ≤ discHalf r i := by
  by_contra crossed
  have rounds : i ≤ discRows r - 1 := by omega
  have radius : discRows r - 1 ≤ r := by
    unfold discRows
    omega
  have tight := (discTracks r i).tight (by omega)
  have inner : i * i ≤ (discRows r - 1) * (discRows r - 1) :=
    Nat.mul_le_mul rounds rounds
  have half : (discHalf r i + 1) * (discHalf r i + 1) ≤ i * i :=
    Nat.mul_le_mul (by omega) (by omega)
  have square := discRows_square r
  unfold discSquare at tight
  omega

/-- Twice the square before the last row leaves room for two more. -/
theorem beyond_diagonal {i : Nat} (inRounds : i < discRows r)
    (positive : 1 ≤ i) :
    (i + 1) * (i + 1) + (i - 1) * (i - 1) ≤ discSquare r := by
  obtain ⟨before, rfl⟩ : ∃ before, i = before + 1 := ⟨i - 1, by omega⟩
  have rounds : before + 1 ≤ discRows r - 1 := by omega
  have inner := Nat.mul_le_mul rounds rounds
  have square := discRows_square r
  have sum : (before + 1 + 1) * (before + 1 + 1) + before * before =
      2 * ((before + 1) * (before + 1)) + 2 := by ring
  rw [Nat.add_sub_cancel, sum]
  unfold discSquare
  rcases Nat.lt_or_ge r 4 with small | large
  · have rows : before + 1 ≤ r * 707 / 1000 := by
      unfold discRows at rounds
      omega
    obtain ⟨rfl, rfl⟩ | ⟨rfl, rfl⟩ | ⟨rfl, rfl⟩ :
        r = 2 ∧ before = 0 ∨ r = 3 ∧ before = 0 ∨ r = 3 ∧ before = 1 := by
      omega
    all_goals decide
  · omega

/-- In the rows of the rounds the half-width is not outside of the circle. -/
theorem discHalf_in_circle (positive : 1 ≤ r) {i : Nat}
    (inRows : i ≤ discRows r) :
    i * i + discHalf r i * discHalf r i ≤ discSquare r := by
  cases i with
  | zero =>
      unfold discSquare
      change 0 * 0 + r * r ≤ _
      omega
  | succ i =>
      rcases Nat.lt_or_ge (discHalf r (i + 1)) (i + 1) with crossed | below
      · have diagonal : i ≤ discHalf r i := row_le_discHalf (by omega)
        have kept := (discTracks r i).kept diagonal
        rw [discHalf] at crossed ⊢
        split_ifs at crossed ⊢ with narrows
        · rcases diagonal.eq_or_lt with on | above
          · have first : 1 ≤ i := by
              by_contra none
              obtain rfl : i = 0 := by omega
              change 0 = r at on
              omega
            rw [← on]
            exact beyond_diagonal (by omega) first
          · have last : discHalf r i = i + 1 := by omega
            rw [last] at kept ⊢
            rw [Nat.add_sub_cancel, Nat.add_comm]
            exact kept
        · omega
      · exact (discTracks r (i + 1)).kept below

theorem discHalf_eq_discWidth (positive : 1 ≤ r) {i : Nat}
    (inRows : i ≤ discRows r) : discHalf r i = discWidth r i := by
  have inside := discHalf_in_circle positive inRows
  refine Nat.eq_sqrt.mpr ⟨by omega, ?_⟩
  rcases (discHalf_le r i).lt_or_eq with smaller | whole
  · have tight := (discTracks r i).tight smaller
    omega
  · have next : (r + 1) * (r + 1) = r * r + 2 * r + 1 := by ring
    rw [whole, next]
    unfold discSquare
    omega

/-- The runs of the disc are its rows, those left out that the fronts do not
reach. -/
theorem discRun_iff (positive : 1 ≤ r) :
    DiscRun r row half ↔
      half = discWidth r row ∧ row ≤ r ∧
        (row ≤ discRows r ∨ half < discRows r) := by
  have rows := discRows_le positive
  constructor
  · intro run
    cases run with
    | center =>
        exact ⟨discHalf_eq_discWidth positive (Nat.zero_le _), Nat.zero_le r,
          Or.inl (Nat.zero_le _)⟩
    | inside inRounds =>
        exact ⟨discHalf_eq_discWidth positive inRounds, by omega,
          Or.inl inRounds⟩
    | outside inRounds leaves beyond =>
        have inside := discHalf_in_circle positive inRounds.le
        have radius := discHalf_le r half
        have next := leaves.next
        have tight := (discTracks r (half + 1)).tight
        rw [next] at tight
        rw [leaves.here] at inside radius
        have outside := tight (by omega)
        exact ⟨Nat.eq_sqrt.mpr ⟨by omega, by omega⟩, radius,
          Or.inr inRounds⟩
  · rintro ⟨width, inDisc, reached⟩
    rcases Nat.lt_or_ge (discRows r) row with beyond | inRows
    · have inRounds : half < discRows r := reached.resolve_left (by omega)
      obtain ⟨inside, outside⟩ := Nat.eq_sqrt.mp width
      have row_square : row * row ≤ discSquare r := by
        have := Nat.mul_le_mul inDisc inDisc
        unfold discSquare
        omega
      have here : discHalf r half = row := by
        rw [discHalf_eq_discWidth positive inRounds.le]
        refine (Nat.eq_sqrt.mpr ⟨by omega, ?_⟩).symm
        have : (half + 1) * (half + 1) + row * row ≤
            half * half + (row + 1) * (row + 1) := by nlinarith
        omega
      have narrows : discSquare r <
          (half + 1) * (half + 1) + discHalf r half * discHalf r half := by
        rw [here]
        omega
      refine .outside inRounds ⟨here, ?_⟩ beyond
      rw [discHalf, if_pos narrows, here]
      omega
    · rw [width, ← discHalf_eq_discWidth positive inRows]
      cases row with
      | zero => exact .center
      | succ row => exact .inside inRows

theorem DiscRun.positive (large : 2 ≤ r) (run : DiscRun r row half) :
    0 < half := by
  have rows := discRows_le (Nat.le_of_succ_le large)
  have square : r * r < discSquare r := by
    unfold discSquare
    omega
  cases run with
  | center => omega
  | @inside i inRounds =>
      by_contra none
      have zero : discHalf r (i + 1) = 0 := by omega
      have tight := (discTracks r (i + 1)).tight (by omega)
      rw [zero] at tight
      have : (i + 1) * (i + 1) ≤ r * r :=
        Nat.mul_le_mul (by omega) (by omega)
      omega
  | outside inRounds leaves beyond =>
      cases half with
      | zero =>
          have top : r = row := leaves.here
          have := leaves.next
          have tight := (discTracks r (0 + 1)).tight (by omega)
          rw [leaves.next, ← top] at tight
          unfold discSquare at tight
          omega
      | succ half => exact Nat.succ_pos half

theorem DiscRun.unique {other : Nat} (run : DiscRun r row half)
    (again : DiscRun r row other) : half = other := by
  cases run with
  | center =>
      cases again with
      | center => rfl
      | outside _ _ beyond => omega
  | inside inRounds =>
      cases again with
      | inside => rfl
      | outside _ _ beyond => omega
  | outside inRounds leaves beyond =>
      cases again with
      | center => omega
      | inside => omega
      | outside _ leavesAgain _ =>
          exact (discHalf_descent r).leaves_unique leaves leavesAgain

theorem half_le_discRows (meet : FrontsMeet r) :
    discHalf r (discRows r) ≤ discRows r := by
  by_contra above
  have kept := (discTracks r (discRows r)).kept (by omega)
  have wider : (discRows r + 1) * (discRows r + 1) ≤
      discHalf r (discRows r) * discHalf r (discRows r) :=
    Nat.mul_le_mul (by omega) (by omega)
  unfold FrontsMeet at meet
  omega

theorem DiscRun.exists_of_le (meet : FrontsMeet r) (inDisc : row ≤ r) :
    ∃ half, DiscRun r row half := by
  cases row with
  | zero => exact ⟨r, .center⟩
  | succ row =>
      by_cases inner : row < discRows r
      · exact ⟨_, .inside inner⟩
      · have passed := half_le_discRows meet
        obtain ⟨i, inRounds, leaves⟩ := (discHalf_descent r).leaves_between
          (discRows r) (inDisc : row + 1 ≤ discHalf r 0) (by omega)
        exact ⟨i, .outside inRounds leaves (by omega)⟩

/-- Far beyond the size of any panel of the driver. -/
theorem frontsMeet_of_le (small : r ≤ 3000) : FrontsMeet r := by
  have rows : 707 * r + 1 ≤ 1000 * discRows r := by
    unfold discRows
    omega
  have square : 2 * discSquare r ≤ 2 * (r * r) + r := by
    unfold discSquare
    omega
  unfold FrontsMeet
  nlinarith

end Rows

/-! The rounds of the loop have these half-widths. -/

/-- The lines of a run, below and above the center. -/
def runLines (x y : ℤ) (row half : Nat) : List Hline :=
  [⟨x - half, y + row, 2 * half⟩, ⟨x - half, y - row, 2 * half⟩]

namespace Disc

structure AtRound (r : UInt16) (start : Nat) (i xr : UInt32) : Prop where
  i : i.toNat = start + 1
  xr : xr.toNat = discHalf r.toNat start

variable {x y r : UInt16} {start : Nat} {i xr : UInt32}

theorem discRows_bound (r : UInt16) : discRows r.toNat ≤ 46334 := by
  have bound := r.toNat_lt
  unfold discRows
  omega

/-- The squares stay in 32 bits, for the circle does. -/
theorem AtRound.squares_exact (atRound : AtRound r start i xr)
    (inRows : start < discRows r.toNat) :
    (i * i + xr * xr).toNat =
      (start + 1) * (start + 1) +
        discHalf r.toNat start * discHalf r.toNat start := by
  have bound := r.toNat_lt
  have rows := discRows_bound r
  have row : (start + 1) * (start + 1) ≤ 46334 * 46334 :=
    Nat.mul_le_mul (by omega) (by omega)
  have sum : (start + 1) * (start + 1) +
      discHalf r.toNat start * discHalf r.toNat start < 4294967296 := by
    rcases Nat.lt_or_ge (discHalf r.toNat start) start with crossed | below
    · have half : discHalf r.toNat start * discHalf r.toNat start ≤
          46334 * 46334 := Nat.mul_le_mul (by omega) (by omega)
      omega
    · have kept := (discTracks r.toNat start).kept below
      have square : r.toNat * r.toNat ≤ 65535 * 65535 :=
        Nat.mul_le_mul (by omega) (by omega)
      have next : (start + 1) * (start + 1) = start * start + 2 * start + 1 := by
        ring
      unfold discSquare at kept
      omega
  rw [UInt32.toNat_add, UInt32.toNat_mul, UInt32.toNat_mul, atRound.i,
    atRound.xr, ← Nat.add_mod, Nat.mod_eq_of_lt sum]

theorem AtRound.narrows_iff (atRound : AtRound r start i xr)
    (inRows : start < discRows r.toNat) :
    (around x y r).narrows i xr ↔
      discSquare r.toNat < (start + 1) * (start + 1) +
        discHalf r.toNat start * discHalf r.toNat start := by
  rw [narrows, gt_iff_lt, UInt32.lt_iff_toNat_lt,
    atRound.squares_exact inRows, sqmax_toNat]
  rfl

theorem AtRound.half_pos (atRound : AtRound r start i xr)
    (inRows : start < discRows r.toNat) (positive : 1 ≤ r.toNat)
    (narrows : (around x y r).narrows i xr) : 0 < xr.toNat := by
  have exceeds := (atRound.narrows_iff inRows).mp narrows
  have rows := discRows_le positive
  have row : (start + 1) * (start + 1) ≤ r.toNat * r.toNat :=
    Nat.mul_le_mul (by omega) (by omega)
  rw [atRound.xr]
  unfold discSquare at exceeds
  rcases Nat.eq_zero_or_pos (discHalf r.toNat start) with zero | wide
  · rw [zero] at exceeds
    omega
  · exact wide

theorem AtRound.nextXr_toNat (atRound : AtRound r start i xr)
    (inRows : start < discRows r.toNat) (positive : 1 ≤ r.toNat) :
    ((around x y r).nextXr i xr).toNat = discHalf r.toNat (start + 1) := by
  have narrowsIff := atRound.narrows_iff (x := x) (y := y) inRows
  rw [nextXr, discHalf]
  by_cases narrows : (around x y r).narrows i xr
  · rw [if_pos narrows, if_pos (narrowsIff.mp narrows),
      pred_toNat (atRound.half_pos inRows positive narrows), atRound.xr]
  · rw [if_neg narrows, if_neg (mt narrowsIff.mpr narrows), atRound.xr]

theorem AtRound.next (atRound : AtRound r start i xr)
    (inRows : start < discRows r.toNat) (positive : 1 ≤ r.toNat) :
    AtRound r (start + 1) (i + 1) ((around x y r).nextXr i xr) := by
  have rows := discRows_bound r
  refine ⟨?_, atRound.nextXr_toNat inRows positive⟩
  rw [UInt32.toNat_add, UInt32.toNat_one, atRound.i]
  omega

theorem exists_atRound (r : UInt16) {k : Nat} (rows : k ≤ r.toNat) :
    ∃ round : UInt32 × UInt32, AtRound r k round.1 round.2 := by
  have bound := r.toNat_lt
  have half := discHalf_le r.toNat k
  refine ⟨(UInt32.ofNat (k + 1), UInt32.ofNat (discHalf r.toNat k)), ?_, ?_⟩
  · rw [UInt32.toNat_ofNat']
    omega
  · rw [UInt32.toNat_ofNat']
    omega

theorem AtRound.unique {i' xr' : UInt32} (atRound : AtRound r start i xr)
    (again : AtRound r start i' xr') : (i, xr) = (i', xr') :=
  Prod.ext (UInt32.toNat_inj.mp (atRound.i.trans again.i.symm))
    (UInt32.toNat_inj.mp (atRound.xr.trans again.xr.symm))

theorem mem_rounds (count : Nat) (atRound : AtRound r start i xr)
    (inRows : start + count ≤ discRows r.toNat) (positive : 1 ≤ r.toNat)
    {round : UInt32 × UInt32} :
    round ∈ (around x y r).rounds count i xr ↔
      ∃ k, start ≤ k ∧ k < start + count ∧ AtRound r k round.1 round.2 := by
  induction count generalizing start i xr with
  | zero =>
      constructor
      · intro member
        cases member
      · rintro ⟨k, above, below, -⟩
        omega
  | succ count ih =>
      have next := atRound.next (x := x) (y := y) (by omega) positive
      rw [rounds, List.mem_cons, ih next (by omega)]
      constructor
      · rintro (rfl | ⟨k, above, below, there⟩)
        · exact ⟨start, le_refl _, by omega, atRound⟩
        · exact ⟨k, by omega, by omega, there⟩
      · rintro ⟨k, above, below, there⟩
        rcases above.eq_or_lt with rfl | later
        · exact Or.inl (there.unique atRound)
        · exact Or.inr ⟨k, later, by omega, there⟩

theorem discRows_eq (x y r : UInt16) :
    (around x y r).imax.toNat = discRows r.toNat :=
  imax_toNat x y r

/-- The half-width is left in a round that narrows. -/
theorem AtRound.leaves_iff (atRound : AtRound r start i xr)
    (inRows : start < discRows r.toNat) (positive : 1 ≤ r.toNat) :
    (around x y r).narrows i xr ↔
      Descent.Leaves (discHalf r.toNat) xr.toNat start := by
  have narrowsIff := atRound.narrows_iff (x := x) (y := y) inRows
  have next := atRound.nextXr_toNat (x := x) (y := y) inRows positive
  constructor
  · intro narrows
    have wide := atRound.half_pos inRows positive narrows
    rw [nextXr, if_pos narrows, pred_toNat wide] at next
    exact ⟨atRound.xr.symm, by omega⟩
  · intro leaves
    by_contra stays
    rw [nextXr, if_neg stays] at next
    have := leaves.next
    omega

theorem AtRound.lines_eq (atRound : AtRound r start i xr)
    (inRows : start < discRows r.toNat) (positive : 1 ≤ r.toNat) :
    (around x y r).lines i xr =
      (if (around x y r).narrows i xr ∧ xr > (around x y r).imax then
          runLines x.toNat y.toNat xr.toNat start
        else []) ++
        runLines x.toNat y.toNat (start + 1)
          (discHalf r.toNat (start + 1)) := by
  have next := atRound.nextXr_toNat (x := x) (y := y) inRows positive
  have left : (x.toNat : ℤ) - (start + 1 : ℕ) + 1 = x.toNat - start := by
    push_cast
    ring
  have length : (2 : ℤ) * ((start + 1 : ℕ) - 1) = 2 * start := by
    push_cast
    ring
  have across : (around x y r).x = x.toNat := rfl
  have down : (around x y r).y = y.toNat := rfl
  unfold lines
  dsimp only
  rw [next, atRound.i, across, down, left, length]
  rfl

end Disc

theorem mem_discLines {x y r : UInt16} (positive : 1 ≤ r.toNat)
    {line : Hline} :
    line ∈ discLines x y r ↔
      ∃ row half, DiscRun r.toNat row half ∧
        line ∈ runLines x.toNat y.toNat row half := by
  have rows := discRows_le positive
  have first : Disc.AtRound r 0 1 r.toUInt32 := ⟨rfl, r.toNat_toUInt32⟩
  have rounds : ∀ round, round ∈ discRounds x y r ↔
      ∃ k, 0 ≤ k ∧ k < 0 + discRows r.toNat ∧
        Disc.AtRound r k round.1 round.2 := by
    intro round
    rw [discRounds, Disc.discRows_eq]
    exact Disc.mem_rounds _ first (by omega) positive
  have center : ∀ line, line ∈ runLines x.toNat y.toNat 0 r.toNat ↔
      line = ⟨x.toNat - r.toNat, y.toNat, 2 * r.toNat⟩ := by
    intro line
    simp [runLines]
  rw [discLines, List.mem_cons, List.mem_flatMap, ← center]
  constructor
  · rintro (middle | ⟨round, inRounds, member⟩)
    · exact ⟨0, r.toNat, .center, middle⟩
    · obtain ⟨k, -, below, atRound⟩ := (rounds round).mp inRounds
      rw [atRound.lines_eq (by omega) positive, List.mem_append] at member
      rcases member with outside | inside
      · split_ifs at outside with beyond
        · obtain ⟨narrows, beyond⟩ := beyond
          have leaves := (atRound.leaves_iff (by omega) positive).mp narrows
          rw [gt_iff_lt, UInt32.lt_iff_toNat_lt, Disc.discRows_eq] at beyond
          exact ⟨_, k, .outside (by omega) leaves beyond, outside⟩
        · cases outside
      · exact ⟨k + 1, _, .inside (by omega), inside⟩
  · rintro ⟨row, half, run, member⟩
    cases run with
    | center => exact Or.inl member
    | @inside k inRows =>
        obtain ⟨round, atRound⟩ := Disc.exists_atRound r (k := k) (by omega)
        refine Or.inr ⟨round, (rounds round).mpr
          ⟨k, by omega, by omega, atRound⟩, ?_⟩
        rw [atRound.lines_eq (by omega) positive]
        exact List.mem_append_right _ member
    | outside inRows leaves beyond =>
        obtain ⟨round, atRound⟩ := Disc.exists_atRound r (k := half) (by omega)
        refine Or.inr ⟨round, (rounds round).mpr
          ⟨half, by omega, by omega, atRound⟩, ?_⟩
        have xr : round.2.toNat = row := atRound.xr.trans leaves.here
        have narrows := (atRound.leaves_iff (x := x) (y := y) (by omega)
          positive).mpr (xr.symm ▸ leaves)
        have wide : round.2 > (Disc.around x y r).imax := by
          rw [gt_iff_lt, UInt32.lt_iff_toNat_lt, Disc.discRows_eq, xr]
          exact beyond
        rw [atRound.lines_eq (by omega) positive, if_pos ⟨narrows, wide⟩, xr]
        exact List.mem_append_left _ member

/-- The rows of a disc and their half-widths, in closed form: up to the last
row of the rounds, and beyond it those that a half-width of the rounds reaches.
Without a radius the half-width goes below zero in the first round. -/
inductive DiscRow (r : Nat) : (row half : Nat) → Prop where
  | row {row : Nat} (positive : 1 ≤ r) (inDisc : row ≤ r)
      (reached : row ≤ discRows r ∨ discWidth r row < discRows r) :
      DiscRow r row (discWidth r row)
  | below (point : r = 0) : DiscRow r 1 4294967295

theorem discLines_zero (x y : UInt16) :
    discLines x y 0 =
      ⟨x.toNat - 0, y.toNat, 2 * 0⟩ :: runLines x.toNat y.toNat 1 4294967295 :=
  rfl

/-- What holds of a line without pixels holds of all lines when it holds of
the rows. -/
theorem forall_discLines_iff {x y r : UInt16} {Holds : Hline → Prop}
    (empty : ∀ line : Hline, UInt16.ofInt line.len = 0 → Holds line) :
    (∀ line ∈ discLines x y r, Holds line) ↔
      ∀ row half, DiscRow r.toNat row half →
        ∀ line ∈ runLines x.toNat y.toNat row half, Holds line := by
  by_cases positive : 1 ≤ r.toNat
  · constructor
    · intro holds row half inDisc line member
      cases inDisc with
      | row _ inDisc reached =>
          have run := (discRun_iff positive).mpr ⟨rfl, inDisc, reached⟩
          exact holds line
            ((mem_discLines positive).mpr ⟨row, _, run, member⟩)
      | below point => omega
    · intro holds line member
      obtain ⟨row, half, run, ends⟩ := (mem_discLines positive).mp member
      obtain ⟨rfl, inDisc, reached⟩ := (discRun_iff positive).mp run
      exact holds row _ (.row positive inDisc reached) line ends
  · obtain rfl : r = 0 := by
      apply UInt16.toNat_inj.mp
      change r.toNat = 0
      omega
    rw [discLines_zero, List.forall_mem_cons]
    constructor
    · rintro ⟨-, holds⟩ row half inDisc
      cases inDisc with
      | row positive => exact absurd positive (by decide)
      | below => exact holds
    · intro holds
      exact ⟨empty _ rfl, holds 1 _ (.below rfl)⟩

/-! What a filled circle is to be. -/

structure SolidDisc (x y r : ℤ) (painted : ℤ → ℤ → Prop) : Prop where
  inside : ∀ dx dy, dx * dx + dy * dy ≤ (r - 1) * (r - 1) →
    painted (x + dx) (y + dy)
  outside : ∀ dx dy, painted (x + dx) (y + dy) →
    dx * dx + dy * dy ≤ (r + 1) * (r + 1)
  symmetric : ∀ dx dy, painted (x + dx) (y - dy) ↔ painted (x + dx) (y + dy)
  rows : ∀ dy, -r ≤ dy → dy ≤ r → ∃ left right, left ≤ right ∧
    ∀ dx, painted (x + dx) (y + dy) ↔ left ≤ dx ∧ dx ≤ right

def LinesCover (lines : List Hline) (column row : ℤ) : Prop :=
  ∃ line ∈ lines, line.y = row ∧ line.x ≤ column ∧
    column < line.x + line.len

section Solid

variable {x y r : UInt16}

theorem runLines_cover (x y dx dy : ℤ) (row half : Nat) :
    LinesCover (runLines x y row half) (x + dx) (y + dy) ↔
      dy.natAbs = row ∧ -(half : ℤ) ≤ dx ∧ dx < half := by
  simp only [LinesCover, runLines, List.mem_cons, List.not_mem_nil, or_false,
    exists_eq_or_imp, exists_eq_left]
  omega

theorem discLines_cover (large : 2 ≤ r.toNat) (dx dy : ℤ) :
    LinesCover (discLines x y r) (x.toNat + dx) (y.toNat + dy) ↔
      ∃ half, DiscRun r.toNat dy.natAbs half ∧ -(half : ℤ) ≤ dx ∧
        dx < half := by
  constructor
  · rintro ⟨line, member, covers⟩
    obtain ⟨row, half, run, ends⟩ := (mem_discLines (by omega)).mp member
    obtain ⟨rfl, inside⟩ :=
      (runLines_cover _ _ dx dy row half).mp ⟨line, ends, covers⟩
    exact ⟨half, run, inside⟩
  · rintro ⟨half, run, inside⟩
    obtain ⟨line, ends, covers⟩ :=
      (runLines_cover x.toNat y.toNat dx dy _ half).mpr ⟨rfl, inside⟩
    exact ⟨line, (mem_discLines (by omega)).mpr ⟨_, half, run, ends⟩, covers⟩

theorem discLines_solid (large : 2 ≤ r.toNat) (meet : FrontsMeet r.toNat) :
    SolidDisc x.toNat y.toNat r.toNat (LinesCover (discLines x y r)) := by
  have cover := discLines_cover (x := x) (y := y) large
  constructor
  case inside =>
    intro dx dy near
    have row : |dy| ≤ |(r.toNat : ℤ) - 1| := by
      rw [abs_le_iff_mul_self_le]
      linarith [mul_self_nonneg dx]
    rw [abs_of_nonneg (by omega : 0 ≤ (r.toNat : ℤ) - 1), abs_le] at row
    obtain ⟨half, run⟩ := DiscRun.exists_of_le meet
      (by omega : dy.natAbs ≤ r.toNat)
    have past := Int.ofNat_lt.mpr (run.past large)
    push_cast [Nat.cast_sub (by omega : 1 ≤ r.toNat)] at past
    rw [abs_mul_abs_self] at past
    have column : |dx| < |(half : ℤ)| := by
      rw [abs_lt_iff_mul_self_lt]
      linarith
    rw [Nat.abs_cast, abs_lt] at column
    exact (cover dx dy).mpr ⟨half, run, column.1.le, column.2⟩
  case outside =>
    intro dx dy painted
    obtain ⟨half, run, left, right⟩ := (cover dx dy).mp painted
    have within := Int.ofNat_le.mpr (run.within large)
    push_cast at within
    rw [abs_mul_abs_self] at within
    have column : |dx| ≤ |(half : ℤ)| := by
      rw [Nat.abs_cast, abs_le]
      omega
    rw [abs_le_iff_mul_self_le] at column
    linarith
  case symmetric =>
    intro dx dy
    rw [sub_eq_add_neg, cover, cover, Int.natAbs_neg]
  case rows =>
    intro dy top bottom
    obtain ⟨half, run⟩ := DiscRun.exists_of_le meet
      (by omega : dy.natAbs ≤ r.toNat)
    have positive := run.positive large
    refine ⟨-half, half - 1, by omega, fun dx => ?_⟩
    rw [cover]
    constructor
    · rintro ⟨other, again, left, right⟩
      obtain rfl := run.unique again
      omega
    · rintro ⟨left, right⟩
      exact ⟨half, run, left, by omega⟩

end Solid

/-! The pixels of runs. -/

def PaintedBy (runs : List PixelRun) (column row : ℤ) : Prop :=
  ∃ run ∈ runs, row = run.y.toNat ∧ (run.x.toNat : ℤ) ≤ column ∧
    column < run.x.toNat + run.colors.length

theorem paintedBy_iff_touches (runs : List PixelRun) (column row : Nat) :
    PaintedBy runs column row ↔ ∃ run ∈ runs, run.Touches column row := by
  constructor
  · rintro ⟨run, member, inRow, left, right⟩
    exact ⟨run, member, by omega, by omega, by omega⟩
  · rintro ⟨run, member, inRow, left, right⟩
    exact ⟨run, member, by omega, by omega, by omega⟩

theorem paint_uniform {color : UInt16} {run : PixelRun}
    (uniform : ∀ other ∈ run.colors, other = color) {column row : Nat}
    (touches : run.Touches column row) (picture : Nat → Nat → UInt16) :
    run.paint picture column row = color := by
  obtain ⟨inRow, left, right⟩ := touches
  have place : column - run.x.toNat < run.colors.length := by omega
  unfold PixelRun.paint runPainted
  rw [if_pos ⟨inRow, left⟩, List.getElem?_eq_getElem place, Option.getD_some]
  exact uniform _ (List.getElem_mem place)

/-- Runs of one color leave their pixels in that color, in any order. -/
theorem foldl_paint_color {color : UInt16} {runs : List PixelRun}
    (uniform : ∀ run ∈ runs, ∀ other ∈ run.colors, other = color)
    (picture : Nat → Nat → UInt16) (column row : Nat) :
    (PaintedBy runs column row →
        runs.foldl PixelRun.paint picture column row = color) ∧
      (¬ PaintedBy runs column row →
        runs.foldl PixelRun.paint picture column row = picture column row) := by
  simp only [paintedBy_iff_touches]
  induction runs generalizing picture with
  | nil => simp
  | cons run rest ih =>
      obtain ⟨here, others⟩ := List.forall_mem_cons.mp uniform
      obtain ⟨later, untouched⟩ := ih others (run.paint picture)
      rw [List.foldl_cons]
      by_cases again : ∃ other ∈ rest, other.Touches column row
      · refine ⟨fun _ => later again, fun none => absurd again ?_⟩
        rintro ⟨other, member, touches⟩
        exact none ⟨other, List.mem_cons_of_mem _ member, touches⟩
      · rw [untouched again]
        constructor
        · rintro ⟨other, member, touches⟩
          rcases List.mem_cons.mp member with rfl | member
          · exact paint_uniform here touches picture
          · exact absurd ⟨other, member, touches⟩ again
        · intro none
          exact PixelRun.paint_untouched
            (fun touches => none ⟨run, List.mem_cons_self, touches⟩) picture

section Painted

variable {dev : LcdDev} {box : Box} {lines : List Hline}

theorem paintedBy_hlineRuns (onPanel : box.OnPanel dev)
    (within : ∀ line ∈ lines, line.Within box) (color : UInt16)
    (column row : ℤ) :
    PaintedBy (hlineRuns dev color lines) column row ↔
      LinesCover lines column row := by
  constructor
  · rintro ⟨run, member, inRow, left, right⟩
    obtain ⟨line, inLines, -, rfl⟩ := mem_hlineRuns.mp member
    have exact := (within line inLines).exact onPanel
    simp only [Hline.run, hlineRun, List.length_replicate] at inRow left right
    rw [ofInt_toNat exact.y] at inRow
    rw [ofInt_toNat exact.x] at left right
    rw [ofInt_toNat exact.len] at right
    exact ⟨line, inLines, inRow.symm, left, right⟩
  · rintro ⟨line, inLines, inRow, left, right⟩
    have inBox := within line inLines
    have exact := inBox.exact onPanel
    have x := ofInt_toNat exact.x
    have y := ofInt_toNat exact.y
    have len := ofInt_toNat exact.len
    refine ⟨line.run color, mem_hlineRuns.mpr ⟨line, inLines, ⟨?_, ?_, ?_⟩, rfl⟩,
      ?_, ?_, ?_⟩
    · intro empty
      rw [empty] at len
      have zero : line.len = 0 := len.symm
      omega
    · have := inBox.right
      have := onPanel.right
      rw [UInt16.le_iff_toNat_le]
      omega
    · have := inBox.bottom
      have := onPanel.bottom
      rw [UInt16.le_iff_toNat_le]
      omega
    all_goals
      simp only [Hline.run, hlineRun, List.length_replicate]
      omega

theorem hlineRuns_onScreen (onPanel : box.OnPanel dev)
    (within : ∀ line ∈ lines, line.Within box) (color : UInt16) :
    ∀ run ∈ hlineRuns dev color lines, run.OnScreen dev := by
  intro run member
  obtain ⟨line, inLines, ⟨nonempty, -, -⟩, rfl⟩ := mem_hlineRuns.mp member
  have inBox := within line inLines
  have exact := inBox.exact onPanel
  have x := ofInt_toNat exact.x
  have y := ofInt_toNat exact.y
  have len := ofInt_toNat exact.len
  have counted : (UInt16.ofInt line.len).toNat ≠ 0 := fun zero =>
    nonempty (UInt16.toNat_inj.mp zero)
  have := inBox.right
  have := inBox.bottom
  have := onPanel.right
  have := onPanel.bottom
  constructor
  all_goals
    simp only [Hline.run, hlineRun, UInt16.lt_iff_toNat_lt,
      List.length_replicate]
    omega

theorem hlineRuns_uniform (color : UInt16) :
    ∀ run ∈ hlineRuns dev color lines, ∀ other ∈ run.colors,
      other = color := by
  intro run member other inColors
  obtain ⟨line, -, -, rfl⟩ := mem_hlineRuns.mp member
  exact List.eq_of_mem_replicate inColors

end Painted

/-! The panels of the driver. -/

/-- What `lcddev` holds: zero, and what the functions leave that write it. -/
inductive LcdDev.Reachable : LcdDev → Prop where
  | start : Reachable .zero
  | lcdInit {Display : Type} {dev : LcdDev} (tables : RegInit)
      (bus : Bus Display) (panel : Display) (before : Reachable dev) :
      Reachable (lcdInit tables bus dev panel).1
  | lcdDisplayDir {dev : LcdDev} (dir : UInt8) (before : Reachable dev) :
      Reachable (lcdDisplayDir dev dir).1
  | lcdScanDir {dev : LcdDev} (dir : UInt8) (before : Reachable dev) :
      Reachable (lcdScanDir dev dir).1

structure LcdDev.Sized (dev : LcdDev) : Prop where
  width : dev.width.toNat ≤ 800
  height : dev.height.toNat ≤ 800
  commands : dev = .zero ∨ dev.CommandsSet

theorem portraitSetup_sides (dev : LcdDev) :
    (portraitSetup dev).width.toNat ≤ 800 ∧
      (portraitSetup dev).height.toNat ≤ 800 := by
  rw [portraitSetup_eq]
  dsimp only
  unfold portraitSize
  split_ifs
  all_goals exact ⟨by decide, by decide⟩

theorem landscapeSetup_sides (dev : LcdDev) :
    (landscapeSetup dev).width.toNat ≤ 800 ∧
      (landscapeSetup dev).height.toNat ≤ 800 := by
  unfold landscapeSetup
  dsimp only
  split_ifs
  all_goals simp [LcdDev.setSize, LcdDev.setCommands]

theorem scanDirSize_sides {dev : LcdDev}
    (sides : dev.width.toNat ≤ 800 ∧ dev.height.toNat ≤ 800)
    (regval : UInt16) :
    (scanDirSize dev regval).width.toNat ≤ 800 ∧
      (scanDirSize dev regval).height.toNat ≤ 800 := by
  rcases scanDirSize_cases dev regval with same | swapped
  · rw [same]
    exact sides
  · rw [swapped]
    exact sides.symm

theorem lcdDisplayDir_sized (dev : LcdDev) (dir : UInt8) :
    (lcdDisplayDir dev dir).1.Sized := by
  have sides : (directed dev dir).width.toNat ≤ 800 ∧
      (directed dev dir).height.toNat ≤ 800 := by
    unfold directed
    split_ifs
    · exact portraitSetup_sides _
    · exact landscapeSetup_sides _
  obtain ⟨width, height⟩ := scanDirSize_sides sides
    (scanDirRegval (directed dev dir)
      (rotateScanDir (directed dev dir) dftScanDir))
  exact ⟨width, height, Or.inr (lcdDisplayDir_commandsSet dev dir)⟩

theorem LcdDev.Reachable.sized {dev : LcdDev} (reachable : dev.Reachable) :
    dev.Sized := by
  induction reachable with
  | start => exact ⟨by decide, by decide, Or.inl rfl⟩
  | @lcdInit Display dev tables bus panel before ih =>
      exact lcdDisplayDir_sized { dev with id := probedId bus panel } 0
  | lcdDisplayDir dir before ih => exact lcdDisplayDir_sized _ dir
  | @lcdScanDir dev dir before ih =>
      obtain ⟨width, height⟩ := scanDirSize_sides ⟨ih.width, ih.height⟩
        (scanDirRegval dev (rotateScanDir dev dir))
      refine ⟨width, height, ?_⟩
      rcases ih.commands with rfl | commands
      · left
        rcases scanDirSize_cases .zero (scanDirRegval .zero
          (rotateScanDir .zero dir)) with same | swapped
        · exact same
        · exact swapped
      · exact Or.inr (scanDirSize_commandsSet _ commands)

/-- On every panel of the driver a filled circle is a solid disc, its
half-width is not counted down from 0, and nothing else is painted. -/
theorem lcdFillCircle_solid {dev : LcdDev} (reachable : dev.Reachable)
    {x y r : UInt16} (large : 2 ≤ r.toNat)
    (onPanel : (circleBox x.toNat y.toNat r.toNat).OnPanel dev)
    (color : UInt16) :
    ∃ runs, lcdFillCircle dev x y r color = some (paintRuns dev runs) ∧
      SolidDisc x.toNat y.toNat r.toNat (PaintedBy runs) ∧
      (∀ round ∈ discRounds x y r,
        (Disc.around x y r).narrows round.1 round.2 → 0 < round.2.toNat) ∧
      ∀ panel : Panel, panel.EndsFull dev → ∀ column row : Nat,
        let painted := panel.send dev.addressing (paintRuns dev runs)
        (PaintedBy runs column row → painted.pixels column row = color) ∧
          (¬ PaintedBy runs column row →
            painted.pixels column row = panel.pixels column row) := by
  obtain ⟨width, height, commands⟩ := reachable.sized
  have left : 0 ≤ (x.toNat : ℤ) - r.toNat := onPanel.left
  have right : (x.toNat : ℤ) + r.toNat < dev.width.toNat := onPanel.right
  have nonempty : r ≠ 0 := by
    rintro rfl
    exact absurd large (by decide)
  have small : r.toNat < 32768 := by omega
  have within := Disc.discLines_within (x := x) (y := y) nonempty small
  have solid := discLines_solid (x := x) (y := y) large
    (frontsMeet_of_le (by omega))
  have ends : ∀ line ∈ discLines x y r, ¬ line.Endless dev := by
    rintro line member ⟨-, last⟩
    have inBox := within line member
    have exact := ofInt_toNat (inBox.exact onPanel).y
    have := inBox.bottom
    have := onPanel.bottom
    omega
  refine ⟨hlineRuns dev color (discLines x y r), drawHlines_eq ends color,
    ?_, ?_, ?_⟩
  · have same : PaintedBy (hlineRuns dev color (discLines x y r)) =
        LinesCover (discLines x y r) := by
      funext column row
      exact propext (paintedBy_hlineRuns onPanel within color column row)
    rw [same]
    exact solid
  · intro round member
    exact Disc.half_pos (Disc.discRounds_inRound nonempty small round member)
  · intro panel ends column row
    have commandsSet : dev.CommandsSet := by
      rcases commands with rfl | commandsSet
      · change (x.toNat : ℤ) + r.toNat < (0 : ℕ) at right
        omega
      · exact commandsSet
    dsimp only
    rw [(paintRuns_spec commandsSet ends
      (hlineRuns_onScreen onPanel within color)).2]
    exact foldl_paint_color (hlineRuns_uniform color) panel.pixels column row

theorem lcdFillCircle_solid_portrait :
    ∃ runs, lcdFillCircle (lcdDisplayDir .zero 0).1 100 100 20 0xF800 =
        some (paintRuns (lcdDisplayDir .zero 0).1 runs) ∧
      SolidDisc 100 100 20 (PaintedBy runs) := by
  have reachable : (lcdDisplayDir .zero 0).1.Reachable :=
    .lcdDisplayDir 0 .start
  obtain ⟨runs, drawn, solid, -⟩ := lcdFillCircle_solid reachable
    (x := 100) (y := 100) (r := 20) (by decide)
    ⟨by decide, by decide, by decide, by decide⟩ 0xF800
  exact ⟨runs, drawn, solid⟩

end Ch32v307.Lcd
