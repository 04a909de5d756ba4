import Mathlib.Analysis.Real.Sqrt
import Mathlib.Data.List.Chain
import Mathlib.Tactic.IntervalCases
import Ch32v307.Lcd.Points

namespace Ch32v307.Lcd

/-! The circle itself: the offsets of a call against the raster circle. -/

/-! The integer nearest to a root. -/

def NearestRoot (square b : ℤ) : Prop :=
  0 ≤ square ∧ |√(square : ℝ) - b| ≤ 1 / 2

theorem sqrt_le_half_above {square b : ℤ} :
    √(square : ℝ) ≤ b + 1 / 2 ↔ 0 ≤ b ∧ 4 * square ≤ (2 * b + 1) ^ 2 := by
  rw [Real.sqrt_le_iff]
  constructor
  · rintro ⟨nonneg, bounded⟩
    have doubled : (0 : ℝ) ≤ 2 * b + 1 := by linarith
    have scaled : (4 * square : ℝ) ≤ (2 * b + 1) ^ 2 := by linarith
    have integer : 0 ≤ 2 * b + 1 := by exact_mod_cast doubled
    exact ⟨by omega, by exact_mod_cast scaled⟩
  · rintro ⟨nonneg, bounded⟩
    have real : (0 : ℝ) ≤ b := by exact_mod_cast nonneg
    have scaled : (4 * square : ℝ) ≤ (2 * b + 1) ^ 2 := by
      exact_mod_cast bounded
    exact ⟨by linarith, by linarith⟩

theorem half_below_le_sqrt {square b : ℤ} (positive : 0 < b) :
    b - 1 / 2 ≤ √(square : ℝ) ↔ (2 * b - 1) ^ 2 ≤ 4 * square := by
  have real : (1 : ℝ) ≤ b := by exact_mod_cast positive
  rw [Real.le_sqrt' (by linarith)]
  constructor
  · intro bounded
    have scaled : (2 * b - 1 : ℝ) ^ 2 ≤ 4 * square := by linarith
    exact_mod_cast scaled
  · intro bounded
    have scaled : (2 * b - 1 : ℝ) ^ 2 ≤ 4 * square := by exact_mod_cast bounded
    linarith

theorem nearestRoot_iff {square b : ℤ} :
    NearestRoot square b ↔
      0 ≤ square ∧ 0 ≤ b ∧ (b = 0 ∨ (2 * b - 1) ^ 2 ≤ 4 * square) ∧
        4 * square ≤ (2 * b + 1) ^ 2 := by
  have sides : |√(square : ℝ) - b| ≤ 1 / 2 ↔
      b - 1 / 2 ≤ √(square : ℝ) ∧ √(square : ℝ) ≤ b + 1 / 2 := by
    rw [abs_le, neg_le_sub_iff_le_add, sub_le_iff_le_add, sub_le_iff_le_add,
      add_comm (1 / 2 : ℝ)]
  rw [NearestRoot, sides, sqrt_le_half_above]
  rcases lt_trichotomy b 0 with negative | rfl | positive
  · have below : ¬ 0 ≤ b := by omega
    simp [below]
  · have root := Real.sqrt_nonneg (square : ℝ)
    have least : ((0 : ℤ) : ℝ) - 1 / 2 ≤ √(square : ℝ) := by
      push_cast
      linarith
    simp only [least, true_and, le_refl, true_or]
  · rw [half_below_le_sqrt positive]
    have nonneg := positive.le
    have nonzero := positive.ne'
    simp only [nonneg, nonzero, true_and, false_or]

instance (square b : ℤ) : Decidable (NearestRoot square b) :=
  decidable_of_iff _ nearestRoot_iff.symm

/-! What a circle is to be. -/

/-- The offsets of the octant below the diagonal, column by column. -/
structure BestCircle (r : ℤ) (offsets : List (ℤ × ℤ)) : Prop where
  columns : offsets.map Prod.fst =
    (List.range offsets.length).map fun column : Nat => (column : ℤ)
  octant : ∀ a b, (a, b) ∈ offsets ↔
    0 ≤ a ∧ a ≤ b ∧ NearestRoot (r * r - a * a) b
  connected : offsets.IsChain fun here next => |next.2 - here.2| ≤ 1

/-- The eight reflections of an offset in the axes and the diagonals. -/
def reflections (x0 y0 : ℤ) (offset : ℤ × ℤ) : List (ℤ × ℤ) :=
  let (a, b) := offset
  [(a, -b), (b, -a), (b, a), (a, b), (-a, b), (-b, a), (-a, -b), (-b, -a)].map
    fun (dx, dy) => (x0 + dx, y0 + dy)

/-- The call plots the eight reflections of each offset, and nothing else. -/
def DrawsBestCircle (dev : LcdDev) (x0 y0 : UInt16) (r : UInt8)
    (color : UInt16) : Prop :=
  ∃ offsets, BestCircle r.toNat offsets ∧
    lcdDrawCircle dev x0 y0 r color =
      some (drawPoints dev color
        (offsets.flatMap (reflections x0.toNat y0.toNat)))

/-! The rounds of the loop. -/

/-- One offset to the next. The decision variable is twice
`(a + 1) * (a + 1) + b * b - b - r * r`, and `4 * a + 1` more: `a` has been
counted up before its share is added. -/
def circleStep (r : ℤ) (offset : ℤ × ℤ) : ℤ × ℤ :=
  let (a, b) := offset
  (a + 1,
    if r * r ≤ (a + 1) * (a + 1) + b * b - b + 2 * a then b - 1 else b)

def circleDecision (r a b : ℤ) : ℤ :=
  2 * ((a + 1) * (a + 1) + b * b - b - r * r) + 4 * a + 1

theorem circleRounds_succ (r : ℤ) (fuel : Nat) {a b : ℤ} (more : a ≤ b) :
    circleRounds (fuel + 1) a b (circleDecision r a b) =
      (circleRounds fuel (circleStep r (a, b)).1 (circleStep r (a, b)).2
        (circleDecision r (circleStep r (a, b)).1
          (circleStep r (a, b)).2)).map ((a, b) :: ·) := by
  rw [circleRounds, if_pos more]
  dsimp only [circleStep]
  have drops : circleDecision r a b < 0 ↔
      ¬ r * r ≤ (a + 1) * (a + 1) + b * b - b + 2 * a := by
    unfold circleDecision
    omega
  by_cases inside : circleDecision r a b < 0
  · rw [if_pos inside, if_neg (drops.mp inside)]
    congr 2
    unfold circleDecision
    ring
  · rw [if_neg inside, if_pos (not_not.mp (mt drops.mpr inside))]
    congr 2
    unfold circleDecision
    ring

theorem circleDecision_start (r : ℤ) : circleDecision r 0 r = 3 - 2 * r := by
  unfold circleDecision
  ring

/-- The rounds from an offset on, which is the first of them if there is one. -/
theorem circleRounds_chain {r : ℤ} (fuel : Nat) {a b : ℤ}
    {rounds : List (ℤ × ℤ)}
    (counted : circleRounds fuel a b (circleDecision r a b) = some rounds) :
    (∀ first ∈ rounds.head?, first = (a, b)) ∧
      rounds.IsChain fun here next => next = circleStep r here := by
  induction fuel generalizing a b rounds with
  | zero => cases counted
  | succ fuel ih =>
      by_cases more : a ≤ b
      · rw [circleRounds_succ r fuel more] at counted
        obtain ⟨later, remaining, rfl⟩ := Option.map_eq_some_iff.mp counted
        obtain ⟨next, chain⟩ := ih remaining
        exact ⟨by simp, List.isChain_cons.mpr ⟨next, chain⟩⟩
      · rw [circleRounds, if_neg more] at counted
        obtain rfl := Option.some.inj counted
        exact ⟨by simp, .nil⟩

theorem chain_columns {r : ℤ} {rounds : List (ℤ × ℤ)} {start : ℤ}
    (first : ∀ offset ∈ rounds.head?, offset.1 = start)
    (chain : rounds.IsChain fun here next => next = circleStep r here) :
    rounds.map Prod.fst =
      (List.range rounds.length).map fun column : Nat => start + (column : ℤ) := by
  induction rounds generalizing start with
  | nil => rfl
  | cons here rest ih =>
      obtain ⟨next, later⟩ := List.isChain_cons.mp chain
      have here_first : here.1 = start := first here rfl
      have nextStart : ∀ offset ∈ rest.head?, offset.1 = start + 1 := by
        intro offset member
        rw [next offset member, ← here_first]
        rfl
      rw [List.map_cons, ih nextStart later, List.length_cons,
        List.range_succ_eq_map, List.map_cons, List.map_map, here_first]
      simp [Function.comp_def, add_assoc, add_comm (1 : ℤ)]

theorem circleStep_connected {r : ℤ} {here next : ℤ × ℤ}
    (step : next = circleStep r here) : |next.2 - here.2| ≤ 1 := by
  rw [step]
  dsimp only [circleStep]
  split_ifs
  · simp
  · simp

/-- What holds of the rounds for every radius. -/
theorem circleRounds_structure {r : ℤ} {fuel : Nat} {rounds : List (ℤ × ℤ)}
    (counted : circleRounds fuel 0 r (3 - 2 * r) = some rounds) :
    rounds.map Prod.fst =
        (List.range rounds.length).map (fun column : Nat => (column : ℤ)) ∧
      rounds.IsChain fun here next => |next.2 - here.2| ≤ 1 := by
  rw [← circleDecision_start] at counted
  obtain ⟨first, chain⟩ := circleRounds_chain fuel counted
  have start : ∀ offset ∈ rounds.head?, offset.1 = 0 := by
    intro offset member
    rw [first offset member]
  have columns := chain_columns start chain
  constructor
  · rw [columns]
    simp
  · exact chain.imp fun here next => circleStep_connected

/-! Small radii. -/

theorem nearestRoot_le {r a b : ℤ} (nonneg : 0 ≤ r)
    (nearest : NearestRoot (r * r - a * a) b) : b ≤ r := by
  obtain ⟨-, -, least, -⟩ := nearestRoot_iff.mp nearest
  have := mul_self_nonneg a
  rcases least with zero | least
  · omega
  · by_contra beyond
    have : 0 ≤ (b - r - 1) * (b + r) := by
      apply mul_nonneg
      · omega
      · omega
    linarith

theorem circleRounds_small {r : ℤ} (nonneg : 0 ≤ r) (small : r ≤ 3) :
    ∃ rounds, circleRounds (256 + 1) 0 r (3 - 2 * r) = some rounds ∧
      ∀ a b, (a, b) ∈ rounds ↔
        0 ≤ a ∧ a ≤ b ∧ NearestRoot (r * r - a * a) b := by
  obtain ⟨rounds, counted, plotted, complete⟩ :
      ∃ rounds, circleRounds (256 + 1) 0 r (3 - 2 * r) = some rounds ∧
        (∀ offset ∈ rounds, 0 ≤ offset.1 ∧ offset.1 ≤ offset.2 ∧
          NearestRoot (r * r - offset.1 * offset.1) offset.2) ∧
        ∀ b ∈ [0, 1, 2, 3], ∀ a ∈ [0, 1, 2, 3], a ≤ b →
          NearestRoot (r * r - a * a) b → (a, b) ∈ rounds := by
    interval_cases r
    · exact ⟨[(0, 0)], by decide, by decide, by decide⟩
    · exact ⟨[(0, 1)], by decide, by decide, by decide⟩
    · exact ⟨[(0, 2), (1, 2)], by decide, by decide, by decide⟩
    · exact ⟨[(0, 3), (1, 3), (2, 2)], by decide, by decide, by decide⟩
  refine ⟨rounds, counted, fun a b => ⟨plotted (a, b), ?_⟩⟩
  rintro ⟨left, steep, nearest⟩
  have bound := nearestRoot_le nonneg nearest
  have listed : ∀ value : ℤ, 0 ≤ value → value ≤ b →
      value ∈ [0, 1, 2, 3] := by
    intro value above below
    simp only [List.mem_cons, List.not_mem_nil, or_false]
    omega
  exact complete b (listed b (left.trans steep) (le_refl b)) a
    (listed a left steep) steep nearest

/-! Larger radii: an offset is missed, or is not the nearest. -/

def circleStrays (r : ℤ) : Nat → ℤ × ℤ → Bool
  | 0, _ => false
  | count + 1, (a, b) =>
      decide (a ≤ b) && (!decide (NearestRoot (r * r - a * a) b) ||
        circleStrays r count (circleStep r (a, b)))

theorem exists_stray {r : ℤ} (count fuel : Nat) {a b : ℤ}
    {rounds : List (ℤ × ℤ)} (strays : circleStrays r count (a, b))
    (counted : circleRounds fuel a b (circleDecision r a b) = some rounds) :
    ∃ offset ∈ rounds, ¬ NearestRoot (r * r - offset.1 * offset.1) offset.2 := by
  induction count generalizing fuel a b rounds with
  | zero => cases strays
  | succ count ih =>
      rw [circleStrays, Bool.and_eq_true, decide_eq_true_iff,
        Bool.or_eq_true, Bool.not_eq_true', decide_eq_false_iff_not] at strays
      obtain ⟨more, strays⟩ := strays
      cases fuel with
      | zero => cases counted
      | succ fuel =>
          rw [circleRounds_succ r fuel more] at counted
          obtain ⟨later, remaining, rfl⟩ := Option.map_eq_some_iff.mp counted
          rcases strays with here | there
          · exact ⟨(a, b), List.mem_cons_self, here⟩
          · obtain ⟨offset, member, stray⟩ := ih fuel there remaining
            exact ⟨offset, List.mem_cons_of_mem _ member, stray⟩

theorem circleStrays_large {r : UInt8} (large : 5 ≤ r.toNat) :
    circleStrays r.toNat 32 (0, r.toNat) := by
  have each : ∀ r : Fin 256, 5 ≤ r.val → circleStrays r.val 32 (0, r.val) := by
    decide +kernel
  exact each r.toFin large

/-- The loop of radius 4 ends before its last offset, on the diagonal. -/
theorem circleRounds_four {rounds : List (ℤ × ℤ)}
    (counted : circleRounds (256 + 1) 0 (4 : ℕ) (circleDecision (4 : ℕ) 0 (4 : ℕ)) =
      some rounds) : (3, 3) ∉ rounds := by
  have ended : circleRounds (256 + 1) 0 (4 : ℕ)
      (circleDecision (4 : ℕ) 0 (4 : ℕ)) = some [(0, 4), (1, 4), (2, 3)] := by
    decide
  obtain rfl := Option.some.inj (ended.symm.trans counted)
  decide

/-! The messages tell the offsets. -/

section Offsets

variable {dev : LcdDev} {x0 y0 : UInt16} {r : UInt8}

theorem ofInt_inj {a b : ℤ} (fits : Fits 65536 a) (fits' : Fits 65536 b)
    (same : UInt16.ofInt a = UInt16.ofInt b) : a = b := by
  rw [← ofInt_toNat fits, ← ofInt_toNat fits', same]

theorem circlePoints_reflections (x0 y0 a b : ℤ) :
    circlePoints x0 y0 a b = reflections x0 y0 (a, b) := by
  simp only [circlePoints, reflections, List.map_cons, List.map_nil,
    sub_eq_add_neg]

theorem lcdDrawCircle_reflections {dev : LcdDev} {x0 y0 : UInt16} {r : UInt8}
    {rounds : List (ℤ × ℤ)}
    (counted : circleRounds (256 + 1) 0 r.toNat (3 - 2 * r.toNat) = some rounds)
    (color : UInt16) :
    lcdDrawCircle dev x0 y0 r color =
      some (drawPoints dev color
        (rounds.flatMap (reflections x0.toNat y0.toNat))) := by
  simp only [lcdDrawCircle, counted, Option.map_some, circlePoints_reflections]

theorem circleBlock_inj
    (onPanel : (circleBox x0.toNat y0.toNat r.toNat).OnPanel dev)
    (color : UInt16) {a b a' b' : ℤ}
    (inside : 0 ≤ a ∧ a ≤ b ∧ b ≤ r.toNat)
    (inside' : 0 ≤ a' ∧ a' ≤ b' ∧ b' ≤ r.toNat)
    (same : drawPoints dev color (reflections x0.toNat y0.toNat (a, b)) =
      drawPoints dev color (reflections x0.toNat y0.toNat (a', b'))) :
    (a, b) = (a', b') := by
  have contains : ∀ {a b : ℤ}, 0 ≤ a ∧ a ≤ b ∧ b ≤ r.toNat →
      (circleBox x0.toNat y0.toNat r.toNat).Contains (x0.toNat + a)
        (y0.toNat - b) := by
    intro a b inside
    constructor
    all_goals
      simp only [circleBox]
      omega
  have here := contains inside
  have there := contains inside'
  obtain ⟨first, -⟩ := List.append_inj same
    ((lcdDrawPoint_length ..).trans (lcdDrawPoint_length ..).symm)
  obtain ⟨column, row, -⟩ := lcdDrawPoint_inj first
  have sameColumn := ofInt_inj (onPanel.column_fits here.left (by
    have := here.right; omega)) (onPanel.column_fits there.left (by
    have := there.right; omega)) column
  have sameRow := ofInt_inj (onPanel.row_fits here.top (by
    have := here.bottom; omega)) (onPanel.row_fits there.top (by
    have := there.bottom; omega)) row
  exact Prod.ext (by simpa using sameColumn) (by simpa using sameRow)

/-- Of two lists of offsets with the same messages, each has those of the
other. -/
theorem circleOffsets_subset
    (onPanel : (circleBox x0.toNat y0.toNat r.toNat).OnPanel dev)
    (color : UInt16) {left right : List (ℤ × ℤ)}
    (inside : ∀ offset ∈ left,
      0 ≤ offset.1 ∧ offset.1 ≤ offset.2 ∧ offset.2 ≤ r.toNat)
    (inside' : ∀ offset ∈ right,
      0 ≤ offset.1 ∧ offset.1 ≤ offset.2 ∧ offset.2 ≤ r.toNat)
    (same : drawPoints dev color
        (left.flatMap (reflections x0.toNat y0.toNat)) =
      drawPoints dev color
        (right.flatMap (reflections x0.toNat y0.toNat))) :
    left ⊆ right := by
  unfold drawPoints at same
  rw [List.flatMap_assoc, List.flatMap_assoc] at same
  have sized : ∀ offset : ℤ × ℤ,
      ((reflections x0.toNat y0.toNat offset).flatMap fun point =>
        lcdDrawPoint dev (UInt16.ofInt point.1) (UInt16.ofInt point.2)
          color.toUInt32).length = 8 * ((lcdSetCursor dev 0 0).length + 2) :=
    fun offset => drawPoints_length dev color _
  intro offset member
  obtain ⟨other, inRight, sameBlock⟩ := exists_block_of_flatMap_eq
    (Nat.mul_pos (by decide) (Nat.succ_pos _)) sized same member
  have equal : offset = other := circleBlock_inj onPanel color
    (inside offset member) (inside' other inRight) sameBlock
  rw [equal]
  exact inRight

theorem not_drawsBestCircle
    (onPanel : (circleBox x0.toNat y0.toNat r.toNat).OnPanel dev)
    (large : 3 < r.toNat) (color : UInt16) :
    ¬ DrawsBestCircle dev x0 y0 r color := by
  have bound := r.toNat_lt
  rintro ⟨offsets, best, drawn⟩
  obtain ⟨rounds, counted, inside⟩ :=
    circleRounds_inside (r := r.toNat) (256 + 1) 0 r.toNat (3 - 2 * r.toNat)
      (le_refl 0) (by omega) (le_refl _) (by omega)
  rw [lcdDrawCircle_reflections counted, Option.some_inj] at drawn
  have bounds : ∀ offset ∈ offsets, 0 ≤ offset.1 ∧ offset.1 ≤ offset.2 ∧
      offset.2 ≤ r.toNat := by
    rintro ⟨a, b⟩ member
    obtain ⟨left, steep, nearest⟩ := (best.octant a b).mp member
    exact ⟨left, steep, nearestRoot_le (by omega) nearest⟩
  have plotted := circleOffsets_subset onPanel color inside bounds drawn
  have missed := circleOffsets_subset onPanel color bounds inside drawn.symm
  rw [← circleDecision_start] at counted
  rcases Nat.lt_or_eq_of_le large with larger | four
  · obtain ⟨⟨a, b⟩, member, stray⟩ :=
      exists_stray 32 _ (circleStrays_large larger) counted
    exact stray ((best.octant a b).mp (plotted member)).2.2
  · rw [← four] at counted best
    exact circleRounds_four counted
      (missed ((best.octant 3 3).mpr (by decide)))

/-- The loop draws the best circle for the radii up to 3 only. -/
theorem drawsBestCircle_iff
    (onPanel : (circleBox x0.toNat y0.toNat r.toNat).OnPanel dev)
    (color : UInt16) :
    DrawsBestCircle dev x0 y0 r color ↔ r.toNat ≤ 3 := by
  constructor
  · intro best
    by_contra large
    exact not_drawsBestCircle onPanel (Nat.lt_of_not_le large) color best
  · intro small
    obtain ⟨rounds, counted, octant⟩ :=
      circleRounds_small (r := r.toNat) (by omega) (by omega)
    obtain ⟨columns, connected⟩ := circleRounds_structure counted
    exact ⟨rounds, ⟨columns, octant, connected⟩,
      lcdDrawCircle_reflections counted color⟩

theorem drawsBestCircle_three :
    DrawsBestCircle ili9341Dev 100 100 3 0xF800 ↔ (3 : UInt8).toNat ≤ 3 :=
  drawsBestCircle_iff ⟨by decide, by decide, by decide, by decide⟩ 0xF800

/-- The nearest integer to the root of `5 * 5 - 2 * 2` is 5, and the offset in
column 2 has 4. -/
theorem drawCircle_five_strays :
    (circleBox 100 100 5).OnPanel ili9341Dev ∧
      ¬ DrawsBestCircle ili9341Dev 100 100 5 0xF800 := by
  have onPanel : (circleBox (100 : UInt16).toNat (100 : UInt16).toNat
      (5 : UInt8).toNat).OnPanel ili9341Dev :=
    ⟨by decide, by decide, by decide, by decide⟩
  exact ⟨onPanel, not_drawsBestCircle onPanel (by decide) 0xF800⟩

end Offsets

end Ch32v307.Lcd
