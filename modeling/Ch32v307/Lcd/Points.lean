import Ch32v307.Lcd.Drawing
import Ch32v307.Lcd.Position
import Ch32v307.Lcd.Runs

namespace Ch32v307.Lcd

/-! Drawings point by point. The messages tell the points. -/

theorem length_flatMap_sized {Item Message : Type}
    {block : Item → List Message} {size : Nat}
    (sized : ∀ item, (block item).length = size) (items : List Item) :
    (items.flatMap block).length = items.length * size := by
  induction items with
  | nil => simp
  | cons item rest ih =>
      rw [List.flatMap_cons, List.length_append, sized, ih, List.length_cons,
        Nat.succ_mul, Nat.add_comm]

/-- Blocks of one size, one after the other, tell the blocks. -/
theorem exists_block_of_flatMap_eq {Item Message : Type}
    {block : Item → List Message} {size : Nat} (positive : 0 < size)
    (sized : ∀ item, (block item).length = size) {left right : List Item}
    (same : left.flatMap block = right.flatMap block) {a : Item}
    (member : a ∈ left) : ∃ b ∈ right, block a = block b := by
  induction left generalizing right with
  | nil => cases member
  | cons first rest ih =>
      cases right with
      | nil =>
          have lengths := congrArg List.length same
          rw [List.flatMap_nil, List.flatMap_cons, List.length_append, sized,
            List.length_nil] at lengths
          omega
      | cons b others =>
          rw [List.flatMap_cons, List.flatMap_cons] at same
          obtain ⟨here, later⟩ :=
            List.append_inj same ((sized first).trans (sized b).symm)
          rcases List.mem_cons.mp member with rfl | inRest
          · exact ⟨b, List.mem_cons_self, here⟩
          · obtain ⟨other, inOthers, sameBlock⟩ := ih later inRest
            exact ⟨other, List.mem_cons_of_mem _ inOthers, sameBlock⟩

theorem lcdSetCursor_length (dev : LcdDev) (x y x' y' : UInt16) :
    (lcdSetCursor dev x y).length = (lcdSetCursor dev x' y').length := by
  unfold lcdSetCursor
  split_ifs
  all_goals rfl

theorem lcdDrawPoint_length (dev : LcdDev) (x y : UInt16) (color : UInt32) :
    (lcdDrawPoint dev x y color).length =
      (lcdSetCursor dev 0 0).length + 2 := by
  simp [lcdDrawPoint, lcdWriteRamPrepare, lcdSetCursor_length dev x y 0 0]

theorem lcdDrawPoint_inj {dev : LcdDev} {x y x' y' : UInt16}
    {color color' : UInt32}
    (same : lcdDrawPoint dev x y color = lcdDrawPoint dev x' y' color') :
    x = x' ∧ y = y' ∧ color.toUInt16 = color'.toUInt16 := by
  unfold lcdDrawPoint at same
  obtain ⟨address, colors⟩ := List.append_inj' same rfl
  obtain ⟨column, row⟩ :=
    lcdSetCursor_injective (List.append_cancel_right address)
  obtain ⟨sameColor, -⟩ := List.cons.inj colors
  exact ⟨column, row, BusMsg.ram.inj sameColor⟩

theorem drawPoints_length (dev : LcdDev) (color : UInt16)
    (points : List (ℤ × ℤ)) :
    (drawPoints dev color points).length =
      points.length * ((lcdSetCursor dev 0 0).length + 2) :=
  length_flatMap_sized (fun _ => lcdDrawPoint_length ..) points

/-! So do the messages of runs: no address begins with a color. -/

theorem colors_append_inj {colors others : List UInt16}
    {left right : List BusMsg}
    (leftHead : ∀ color, left.head? ≠ some (.ram color))
    (rightHead : ∀ color, right.head? ≠ some (.ram color))
    (same : colors.map BusMsg.ram ++ left = others.map BusMsg.ram ++ right) :
    colors = others ∧ left = right := by
  induction colors generalizing others with
  | nil =>
      cases others with
      | nil => exact ⟨rfl, same⟩
      | cons other others =>
          subst same
          exact absurd rfl (leftHead other)
  | cons color colors ih =>
      cases others with
      | nil =>
          subst same
          exact absurd rfl (rightHead color)
      | cons other others =>
          obtain ⟨here, later⟩ := List.cons.inj same
          obtain ⟨rfl, rest⟩ := ih later
          exact ⟨by rw [BusMsg.ram.inj here], rest⟩

theorem lcdSetCursor_head (dev : LcdDev) (x y : UInt16) :
    ∃ rest, lcdSetCursor dev x y = lcdWrRegno dev.setxcmd :: rest := by
  unfold lcdSetCursor
  split_ifs
  all_goals exact ⟨_, rfl⟩

theorem paintRuns_head (dev : LcdDev) (runs : List PixelRun) (color : UInt16) :
    (paintRuns dev runs).head? ≠ some (.ram color) := by
  cases runs with
  | nil =>
      intro same
      cases same
  | cons run rest =>
      obtain ⟨later, address⟩ := lcdSetCursor_head dev run.x run.y
      rw [paintRuns_cons, paintRun, address]
      intro same
      cases Option.some.inj same

theorem paintRuns_injective {dev : LcdDev} {left right : List PixelRun}
    (same : paintRuns dev left = paintRuns dev right) : left = right := by
  induction left generalizing right with
  | nil =>
      cases right with
      | nil => rfl
      | cons run rest =>
          obtain ⟨later, address⟩ := lcdSetCursor_head dev run.x run.y
          rw [paintRuns_cons, paintRun, address] at same
          cases same
  | cons run rest ih =>
      cases right with
      | nil =>
          obtain ⟨later, address⟩ := lcdSetCursor_head dev run.x run.y
          rw [paintRuns_cons, paintRun, address] at same
          cases same
      | cons other others =>
          simp only [paintRuns_cons, paintRun, List.append_assoc] at same
          obtain ⟨cursor, messages⟩ :=
            List.append_inj same (lcdSetCursor_length ..)
          obtain ⟨column, row⟩ := lcdSetCursor_injective cursor
          obtain ⟨colors, later⟩ := colors_append_inj (paintRuns_head dev rest)
            (paintRuns_head dev others) (List.append_cancel_left messages)
          obtain ⟨x, y, shown⟩ := run
          obtain rfl : x = other.x := column
          obtain rfl : y = other.y := row
          obtain rfl : shown = other.colors := colors
          rw [ih later]

end Ch32v307.Lcd
