import Mathlib.Data.List.Basic

namespace Ch32v307.Data.Tiling

/-! Spans laid end to end. -/

structure Span (Label : Type) where
  start : Nat
  stop : Nat
  label : Label

variable {Label : Type}

def Span.length (span : Span Label) : Nat := span.stop - span.start

/-- The spans follow each other from `lo` to `hi`, none shorter than `least`. -/
def Tiles (least : Nat) : Nat → List (Span Label) → Nat → Prop
  | lo, [], hi => lo = hi
  | lo, span :: rest, hi =>
      span.start = lo ∧ span.start + least ≤ span.stop ∧
        Tiles least span.stop rest hi

section Tiles

variable {least lo hi : Nat} {spans first second : List (Span Label)}

theorem tiles_append :
    Tiles least lo (first ++ second) hi ↔
      ∃ mid, Tiles least lo first mid ∧ Tiles least mid second hi := by
  induction first generalizing lo with
  | nil => simp [Tiles]
  | cons span rest ih =>
      simp only [List.cons_append, Tiles, ih]
      constructor
      · rintro ⟨start, long, mid, before, after⟩
        exact ⟨mid, ⟨start, long, before⟩, after⟩
      · rintro ⟨mid, ⟨start, long, before⟩, after⟩
        exact ⟨start, long, mid, before, after⟩

theorem Tiles.le (tiles : Tiles least lo spans hi) : lo ≤ hi := by
  induction spans generalizing lo with
  | nil => exact Nat.le_of_eq tiles
  | cons span rest ih =>
      obtain ⟨rfl, long, after⟩ := tiles
      have := ih after
      omega

theorem tiles_unique {other : Nat} (tiles : Tiles least lo spans hi)
    (again : Tiles least lo spans other) : hi = other := by
  induction spans generalizing lo with
  | nil => exact (tiles : lo = hi).symm.trans again
  | cons span rest ih => exact ih tiles.2.2 again.2.2

/-- A tiling around one of its spans. -/
theorem tiles_around {span : Span Label} :
    Tiles least lo (first ++ span :: second) hi ↔
      Tiles least lo first span.start ∧ span.start + least ≤ span.stop ∧
        Tiles least span.stop second hi := by
  rw [tiles_append]
  constructor
  · rintro ⟨mid, before, rfl, long, after⟩
    exact ⟨before, long, after⟩
  · rintro ⟨before, long, after⟩
    exact ⟨span.start, before, rfl, long, after⟩

theorem Tiles.bounds (tiles : Tiles least lo spans hi) {span : Span Label}
    (member : span ∈ spans) :
    lo ≤ span.start ∧ span.start + least ≤ span.stop ∧ span.stop ≤ hi := by
  obtain ⟨first, second, rfl⟩ := List.append_of_mem member
  obtain ⟨before, long, after⟩ := tiles_around.mp tiles
  exact ⟨before.le, long, after.le⟩

/-- Two spans of a tiling are the same one, or one ends before the other
begins. -/
theorem Tiles.apart (tiles : Tiles least lo spans hi)
    {left right : Span Label} (inLeft : left ∈ spans) (inRight : right ∈ spans) :
    left = right ∨ left.stop ≤ right.start ∨ right.stop ≤ left.start := by
  obtain ⟨first, second, rfl⟩ := List.append_of_mem inLeft
  obtain ⟨before, -, after⟩ := tiles_around.mp tiles
  rcases List.mem_append.mp inRight with earlier | later
  · exact Or.inr (Or.inr (before.bounds earlier).2.2)
  · rcases List.mem_cons.mp later with rfl | later
    · exact Or.inl rfl
    · exact Or.inr (Or.inl (after.bounds later).1)

theorem Tiles.eq_of_start (tiles : Tiles least lo spans hi)
    (positive : 0 < least) {left right : Span Label} (inLeft : left ∈ spans)
    (inRight : right ∈ spans) (same : left.start = right.start) :
    left = right := by
  have := tiles.bounds inLeft
  have := tiles.bounds inRight
  rcases tiles.apart inLeft inRight with equal | before | after
  · exact equal
  · omega
  · omega

theorem Tiles.count (tiles : Tiles least lo spans hi) :
    lo + spans.length * least ≤ hi := by
  induction spans generalizing lo with
  | nil => simpa using Nat.le_of_eq tiles
  | cons span rest ih =>
      obtain ⟨rfl, long, after⟩ := tiles
      have := ih after
      rw [List.length_cons, Nat.succ_mul]
      omega

/-- The first span of a kind is the lowest one. -/
theorem Tiles.find?_le (tiles : Tiles least lo spans hi)
    {kind : Span Label → Bool} {found : Span Label}
    (first : spans.find? kind = some found) {span : Span Label}
    (member : span ∈ spans) (also : kind span = true) :
    found.start ≤ span.start := by
  induction spans generalizing lo with
  | nil => cases member
  | cons head rest ih =>
      obtain ⟨-, long, after⟩ := tiles
      rcases List.mem_cons.mp member with rfl | later
      · rw [List.find?_cons_of_pos also] at first
        exact Nat.le_of_eq (congrArg Span.start (Option.some.inj first)).symm
      · by_cases here : kind head = true
        · rw [List.find?_cons_of_pos here] at first
          have := (after.bounds later).1
          have same := congrArg Span.start (Option.some.inj first)
          omega
        · rw [List.find?_cons_of_neg here] at first
          exact ih after first later

end Tiles

end Ch32v307.Data.Tiling
