import Ch32v307.Lcd.Box

namespace Ch32v307.Lcd

/-! Horizontal lines: a run of one color, nothing, or a row counter that never
passes the last row of all. -/

/-- The tests of `lcd_draw_hline` let the line through. -/
def HlineDrawn (dev : LcdDev) (x y len : UInt16) : Prop :=
  len ≠ 0 ∧ x ≤ dev.width ∧ y ≤ dev.height

instance (dev : LcdDev) (x y len : UInt16) :
    Decidable (HlineDrawn dev x y len) :=
  inferInstanceAs (Decidable (_ ∧ _))

def hlineRun (x y len color : UInt16) : PixelRun :=
  ⟨x, y, List.replicate len.toNat color⟩

theorem hlineDrawn_iff {dev : LcdDev} {x y len : UInt16} :
    HlineDrawn dev x y len ↔
      ¬ (len = 0 ∨ x > dev.width ∨ y > dev.height) := by
  simp only [HlineDrawn, not_or, ne_eq, gt_iff_lt, UInt16.not_lt]

section Line

variable {dev : LcdDev} {x y len : UInt16}

theorem lcdDrawHline_dropped (dropped : ¬ HlineDrawn dev x y len)
    (color : UInt16) : lcdDrawHline dev x y len color = some [] := by
  rw [hlineDrawn_iff, not_not] at dropped
  exact if_pos dropped

theorem lcdDrawHline_drawn (drawn : HlineDrawn dev x y len)
    (passes : y.toNat < 65535) (color : UInt16) :
    lcdDrawHline dev x y len color =
      some (paintRuns dev [hlineRun x y len color]) := by
  have width : x + len - 1 - x + 1 = len := by
    apply UInt16.toNat_inj.mp
    have := x.toNat_lt
    have := len.toNat_lt
    simp only [UInt16.toNat_add, UInt16.toNat_sub, UInt16.toNat_one]
    omega
  rw [lcdDrawHline, if_neg (hlineDrawn_iff.mp drawn),
    lcdFill_eq dev color.toUInt32 (UInt16.le_refl y) passes, Nat.sub_self,
    paintRows_cons, width, paintRuns_cons, UInt16.toUInt16_toUInt32]
  rfl

theorem lcdFillRows_endless (dev : LcdDev) (sx xlen : UInt16)
    (color : UInt32) {ey : UInt16} (last : ey.toNat = 65535) (fuel : Nat)
    (i : UInt16) : lcdFillRows dev sx ey xlen color fuel i = none := by
  induction fuel generalizing i with
  | zero => rfl
  | succ fuel ih =>
      have more : i ≤ ey := by
        have := i.toNat_lt
        rw [UInt16.le_iff_toNat_le]
        omega
      rw [lcdFillRows, if_pos more, ih]
      rfl

theorem lcdDrawHline_endless (drawn : HlineDrawn dev x y len)
    (last : y.toNat = 65535) (color : UInt16) :
    lcdDrawHline dev x y len color = none := by
  rw [lcdDrawHline, if_neg (hlineDrawn_iff.mp drawn)]
  exact lcdFillRows_endless dev x _ _ last _ y

end Line

/-! A list of lines, with the arguments as `uint16_t`. -/

namespace Hline

def Drawn (dev : LcdDev) (line : Hline) : Prop :=
  HlineDrawn dev (UInt16.ofInt line.x) (UInt16.ofInt line.y)
    (UInt16.ofInt line.len)

instance (dev : LcdDev) (line : Hline) : Decidable (line.Drawn dev) :=
  inferInstanceAs (Decidable (HlineDrawn ..))

def run (color : UInt16) (line : Hline) : PixelRun :=
  hlineRun (UInt16.ofInt line.x) (UInt16.ofInt line.y)
    (UInt16.ofInt line.len) color

/-- The line is drawn in the row its counter never passes. -/
def Endless (dev : LcdDev) (line : Hline) : Prop :=
  line.Drawn dev ∧ (UInt16.ofInt line.y).toNat = 65535

end Hline

def hlineRuns (dev : LcdDev) (color : UInt16) (lines : List Hline) :
    List PixelRun :=
  lines.flatMap fun line => if line.Drawn dev then [line.run color] else []

section Lines

variable {dev : LcdDev} {lines : List Hline}

theorem hlineRuns_cons (color : UInt16) (line : Hline) (rest : List Hline) :
    hlineRuns dev color (line :: rest) =
      (if line.Drawn dev then [line.run color] else []) ++
        hlineRuns dev color rest :=
  List.flatMap_cons

theorem mem_hlineRuns {color : UInt16} {run : PixelRun} :
    run ∈ hlineRuns dev color lines ↔
      ∃ line ∈ lines, line.Drawn dev ∧ run = line.run color := by
  unfold hlineRuns
  rw [List.mem_flatMap]
  constructor
  · rintro ⟨line, member, drawn⟩
    split_ifs at drawn with shown
    · exact ⟨line, member, shown, List.mem_singleton.mp drawn⟩
    · cases drawn
  · rintro ⟨line, member, shown, rfl⟩
    refine ⟨line, member, ?_⟩
    rw [if_pos shown]
    exact List.mem_singleton_self _

theorem drawHlines_eq (ends : ∀ line ∈ lines, ¬ line.Endless dev)
    (color : UInt16) :
    drawHlines dev color lines =
      some (paintRuns dev (hlineRuns dev color lines)) := by
  induction lines with
  | nil => rfl
  | cons line rest ih =>
      obtain ⟨here, others⟩ := List.forall_mem_cons.mp ends
      by_cases drawn : line.Drawn dev
      · have passes : (UInt16.ofInt line.y).toNat < 65535 := by
          have bound := (UInt16.ofInt line.y).toNat_lt
          have other : (UInt16.ofInt line.y).toNat ≠ 65535 := fun last =>
            here ⟨drawn, last⟩
          omega
        rw [drawHlines, lcdDrawHline_drawn drawn passes, ih others, hlineRuns_cons,
          if_pos drawn, paintRuns_append]
        rfl
      · rw [drawHlines, lcdDrawHline_dropped drawn, ih others, hlineRuns_cons,
          if_neg drawn]
        rfl

theorem drawHlines_endless {line : Hline} (member : line ∈ lines)
    (endless : line.Endless dev) (color : UInt16) :
    drawHlines dev color lines = none := by
  induction lines with
  | nil => cases member
  | cons first rest ih =>
      rcases List.mem_cons.mp member with rfl | later
      · rw [drawHlines, lcdDrawHline_endless endless.1 endless.2]
        rfl
      · rw [drawHlines, ih later]
        cases lcdDrawHline dev (UInt16.ofInt first.x) (UInt16.ofInt first.y)
          (UInt16.ofInt first.len) color with
        | none => rfl
        | some sent => rfl

end Lines

end Ch32v307.Lcd
