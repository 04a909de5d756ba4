import Mathlib.Data.List.Sort

namespace Ch32v307.Data.Deadline

/-! Deadlines on a clock that wraps, and agendas in the order of deadlines. -/

section Clock

variable {modulus half later earlier : Nat}

/-- What a clock of the given modulus reads as the time from one moment to
another. -/
def lapse (modulus later earlier : Nat) : Nat :=
  (modulus - earlier % modulus + later % modulus) % modulus

/-- What the clock reads depends on the moments' distance only. -/
theorem lapse_shift {distance : Nat}
    (same : later % modulus = (earlier % modulus + distance) % modulus)
    (near : distance < modulus) : lapse modulus later earlier = distance := by
  have below : earlier % modulus ≤ modulus :=
    Nat.le_of_lt (Nat.mod_lt _ (by omega))
  calc lapse modulus later earlier
      = (modulus - earlier % modulus + (earlier % modulus + distance)) %
          modulus := by rw [lapse, same, Nat.add_mod_mod]
    _ = (distance + modulus) % modulus := by congr 1; omega
    _ = distance := by rw [Nat.add_mod_right, Nat.mod_eq_of_lt near]

theorem lapse_of_le (le : earlier ≤ later) (near : later - earlier < modulus) :
    lapse modulus later earlier = later - earlier := by
  apply lapse_shift _ near
  rw [Nat.mod_add_mod, Nat.add_sub_cancel' le]

theorem lapse_of_lt (lt : later < earlier) (near : earlier - later < modulus) :
    lapse modulus later earlier = modulus - (earlier - later) := by
  apply lapse_shift _ (by omega)
  rw [Nat.mod_add_mod, show earlier + (modulus - (earlier - later)) =
    later + modulus by omega, Nat.add_mod_right]

/-- Moments less than half a turn apart are told apart. -/
theorem lapse_lt_iff (turn : 2 * half ≤ modulus) (before : later < earlier + half)
    (after : earlier < later + half) :
    lapse modulus later earlier < half ↔ earlier ≤ later := by
  constructor
  · intro small
    apply Nat.le_of_not_lt
    intro lt
    rw [lapse_of_lt lt (by omega)] at small
    omega
  · intro le
    rw [lapse_of_le le (by omega)]
    omega

end Clock

section Agenda

variable {Entry : Type} {due : Entry → Nat} {agenda : List Entry}
  {entry other : Entry}

/-- Nothing comes before what is due earlier. -/
def InOrder (due : Entry → Nat) (agenda : List Entry) : Prop :=
  agenda.Pairwise fun first second => due first ≤ due second

/-- An entry goes behind those due no later. -/
def insertDue (due : Entry → Nat) (entry : Entry) (agenda : List Entry) :
    List Entry :=
  agenda.orderedInsert (fun first second => due first < due second) entry

theorem insertDue_perm : (insertDue due entry agenda).Perm (entry :: agenda) :=
  List.perm_orderedInsert _ entry agenda

@[simp] theorem mem_insertDue :
    other ∈ insertDue due entry agenda ↔ other = entry ∨ other ∈ agenda := by
  rw [insertDue_perm.mem_iff, List.mem_cons]

theorem InOrder.insertDue (order : InOrder due agenda) :
    InOrder due (insertDue due entry agenda) := by
  induction agenda with
  | nil => exact List.pairwise_singleton _ _
  | cons head rest ih =>
      obtain ⟨least, tail⟩ := List.pairwise_cons.mp order
      rw [Deadline.insertDue, List.orderedInsert]
      split
      case isTrue sooner =>
        refine List.pairwise_cons.mpr ⟨?_, order⟩
        intro next member
        cases List.mem_cons.mp member with
        | inl same => exact same ▸ Nat.le_of_lt sooner
        | inr later =>
            exact Nat.le_trans (Nat.le_of_lt sooner) (least next later)
      case isFalse later =>
        refine List.pairwise_cons.mpr ⟨?_, ih tail⟩
        intro next member
        cases mem_insertDue.mp member with
        | inl same => exact same ▸ Nat.le_of_not_lt later
        | inr inside => exact least next inside

theorem InOrder.congr {other : Entry → Nat} (order : InOrder due agenda)
    (same : ∀ next ∈ agenda, other next = due next) : InOrder other agenda :=
  List.Pairwise.imp_of_mem
    (fun first second le => by rw [same _ first, same _ second]; exact le) order

end Agenda

end Ch32v307.Data.Deadline
