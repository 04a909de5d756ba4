import Mathlib.Tactic.SplitIfs

namespace Ch32v307.Data.Slots

/-! The slots of a circular buffer. An arc runs from a first slot up to, but
not including, a stop; a slot at its end is appended, one at its start taken. -/

variable {size : Nat}

def next (slot : Fin size) : Fin size :=
  if inside : slot.val + 1 < size then ⟨slot.val + 1, inside⟩
  else ⟨0, slot.pos⟩

def distance (first stop : Fin size) : Nat :=
  if first ≤ stop then stop.val - first.val
  else stop.val + size - first.val

def walk : Nat → Fin size → List (Fin size)
  | 0, _ => []
  | steps + 1, slot => slot :: walk steps (next slot)

def arc (first stop : Fin size) : List (Fin size) :=
  walk (distance first stop) first

theorem next_val (slot : Fin size) :
    (next slot).val = if slot.val + 1 < size then slot.val + 1 else 0 := by
  unfold next
  split_ifs <;> rfl

theorem next_injective {slot other : Fin size} (same : next slot = next other) :
    slot = other := by
  have values := congrArg Fin.val same
  rw [next_val, next_val] at values
  have := slot.isLt
  have := other.isLt
  apply Fin.ext
  split_ifs at values <;> omega

theorem distance_self (slot : Fin size) : distance slot slot = 0 := by
  simp [distance]

theorem eq_of_distance {first stop : Fin size}
    (nowhere : distance first stop = 0) : first = stop := by
  have := first.isLt
  apply Fin.ext
  simp only [distance, Fin.le_def] at nowhere
  split_ifs at nowhere <;> omega

theorem distance_next {first stop : Fin size} (apart : first ≠ stop) :
    distance first stop = distance (next first) stop + 1 := by
  have different : first.val ≠ stop.val := fun same => apart (Fin.ext same)
  have := first.isLt
  have := stop.isLt
  simp only [distance, Fin.le_def, next_val]
  split_ifs <;> omega

@[simp] theorem arc_self (slot : Fin size) : arc slot slot = [] := by
  rw [arc, distance_self]
  rfl

theorem arc_cons {first stop : Fin size} (apart : first ≠ stop) :
    arc first stop = first :: arc (next first) stop := by
  rw [arc, distance_next apart]
  rfl

/-- Induction along an arc. -/
theorem arc_induction (stop : Fin size) {motive : Fin size → Prop}
    (atStop : motive stop)
    (before : ∀ first, first ≠ stop → motive (next first) → motive first)
    (first : Fin size) : motive first := by
  generalize length : distance first stop = steps
  induction steps generalizing first with
  | zero =>
      rw [eq_of_distance length]
      exact atStop
  | succ steps ih =>
      have apart : first ≠ stop := by
        rintro rfl
        rw [distance_self] at length
        cases length
      rw [distance_next apart] at length
      exact before first apart (ih _ (Nat.succ.inj length))

theorem stop_notMem_arc (first stop : Fin size) : stop ∉ arc first stop := by
  induction first using arc_induction stop with
  | atStop => simp
  | before first apart ih =>
      rw [arc_cons apart, List.mem_cons, not_or]
      exact ⟨apart.symm, ih⟩

theorem arc_snoc {first stop : Fin size} (room : next stop ≠ first) :
    arc first (next stop) = arc first stop ++ [stop] := by
  induction first using arc_induction stop with
  | atStop => rw [arc_cons room.symm, arc_self, arc_self, List.nil_append]
  | before first apart ih =>
      have roomLater : next stop ≠ next first :=
        fun same => apart (next_injective same).symm
      rw [arc_cons room.symm, ih roomLater, arc_cons apart, List.cons_append]

end Ch32v307.Data.Slots
