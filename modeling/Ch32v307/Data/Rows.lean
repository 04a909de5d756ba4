import Mathlib.Data.List.Nodup
import Mathlib.Logic.Function.Basic

namespace Ch32v307.Data.Rows

/-! Rows of items of which each stands in one row at most. -/

variable {Label Item : Type} [DecidableEq Label] [DecidableEq Item]

/-- Every row without the item. -/
def without (rows : Label → List Item) (item : Item) : Label → List Item :=
  fun label => (rows label).erase item

/-- One row replaced. -/
def place (rows : Label → List Item) (label : Label) (items : List Item) :
    Label → List Item :=
  Function.update rows label items

structure Apart (rows : Label → List Item) : Prop where
  nodup : ∀ label, (rows label).Nodup
  unique : ∀ {label other item}, item ∈ rows label → item ∈ rows other →
    label = other

section Place

variable {rows : Label → List Item} {label other : Label} {items : List Item}

omit [DecidableEq Item] in
@[simp] theorem place_self : place rows label items label = items :=
  Function.update_self ..

omit [DecidableEq Item] in
theorem place_other (apart : other ≠ label) :
    place rows label items other = rows other := Function.update_of_ne apart ..

end Place

section Without

variable {rows : Label → List Item} {label : Label} {item other : Item}

omit [DecidableEq Label] in
theorem Apart.mem_without (apart : Apart rows) :
    other ∈ without rows item label ↔ other ≠ item ∧ other ∈ rows label :=
  (apart.nodup label).mem_erase_iff

omit [DecidableEq Label] in
theorem without_absent (absent : item ∉ rows label) :
    without rows item label = rows label := List.erase_of_not_mem absent

omit [DecidableEq Label] in
theorem Apart.without (apart : Apart rows) (item : Item) :
    Apart (without rows item) where
  nodup label := (apart.nodup label).erase item
  unique here there :=
    apart.unique (apart.mem_without.mp here).2 (apart.mem_without.mp there).2

end Without

section Insert

variable {rows : Label → List Item} {label other : Label} {item found : Item}
  {items : List Item}

omit [DecidableEq Item] in
/-- A row with one more item, wherever it stands. -/
theorem mem_place (perm : items.Perm (item :: rows label)) :
    found ∈ place rows label items other ↔
      found ∈ rows other ∨ (other = label ∧ found = item) := by
  cases decEq other label with
  | isTrue same =>
      subst same
      rw [place_self, perm.mem_iff, List.mem_cons, or_comm]
      simp
  | isFalse differ =>
      rw [place_other differ]
      simp [differ]

omit [DecidableEq Item] in
theorem Apart.place (apart : Apart rows) (fresh : ∀ label, item ∉ rows label)
    (perm : items.Perm (item :: rows label)) :
    Apart (place rows label items) := by
  constructor
  · intro other
    cases decEq other label with
    | isTrue same =>
        subst same
        rw [place_self, perm.nodup_iff, List.nodup_cons]
        exact ⟨fresh other, apart.nodup other⟩
    | isFalse differ =>
        rw [place_other differ]
        exact apart.nodup other
  · intro first second found here there
    rw [mem_place perm] at here there
    cases here with
    | inl here =>
        cases there with
        | inl there => exact apart.unique here there
        | inr there => exact absurd (there.2 ▸ here) (fresh first)
    | inr here =>
        cases there with
        | inl there => exact absurd (here.2 ▸ there) (fresh second)
        | inr there => exact here.1.trans there.1.symm

end Insert

/-- An item before the first that it comes before. -/
def insertBefore (before : Item → Bool) (item : Item) : List Item → List Item
  | [] => [item]
  | next :: rest =>
      if before next then item :: next :: rest
      else next :: insertBefore before item rest

omit [DecidableEq Item] in
theorem insertBefore_perm (before : Item → Bool) (item : Item)
    (items : List Item) :
    (insertBefore before item items).Perm (item :: items) := by
  induction items with
  | nil => exact .refl _
  | cons next rest ih =>
      rw [insertBefore]
      split
      case isTrue => exact .refl _
      case isFalse => exact (ih.cons next).trans (.swap item next rest)

end Ch32v307.Data.Rows
