import Ch32v307.Lcd.PaintPaths

namespace Ch32v307.Lcd

open Data

/-! What the driver draws is a list of runs: a cursor, the command that begins
a write to memory, and colors. -/

structure PixelRun where
  x : UInt16
  y : UInt16
  colors : List UInt16
  deriving DecidableEq, Repr

def paintRuns (dev : LcdDev) (runs : List PixelRun) : List BusMsg :=
  runs.flatMap fun run => paintRun dev run.x run.y run.colors

@[simp] theorem paintRuns_nil (dev : LcdDev) : paintRuns dev [] = [] := rfl

@[simp] theorem paintRuns_cons (dev : LcdDev) (run : PixelRun)
    (runs : List PixelRun) :
    paintRuns dev (run :: runs) =
      paintRun dev run.x run.y run.colors ++ paintRuns dev runs := rfl

@[simp] theorem paintRuns_append (dev : LcdDev) (first second : List PixelRun) :
    paintRuns dev (first ++ second) =
      paintRuns dev first ++ paintRuns dev second :=
  List.flatMap_append

def pointRun (x y : UInt16) (color : UInt16) : PixelRun := ⟨x, y, [color]⟩

theorem lcdDrawPoint_eq_paintRuns (dev : LcdDev) (x y : UInt16)
    (color : UInt32) :
    lcdDrawPoint dev x y color =
      paintRuns dev [pointRun x y color.toUInt16] := by
  rw [lcdDrawPoint_eq_paintRun, paintRuns_cons, paintRuns_nil, List.append_nil]
  rfl

def rowRuns (x y : UInt16) (count : Nat) (rows : Nat → List UInt16) :
    List PixelRun :=
  (List.range count).map fun i => ⟨x, y + UInt16.ofNat i, rows i⟩

theorem paintRows_eq_paintRuns (dev : LcdDev) (x y : UInt16) (count : Nat)
    (rows : Nat → List UInt16) :
    paintRows dev x y count rows = paintRuns dev (rowRuns x y count rows) := by
  rw [paintRows, paintRuns, rowRuns, List.flatMap_map]

/-- The messages are runs, whatever the arguments of the call. -/
def IsRuns (dev : LcdDev) (messages : List BusMsg) : Prop :=
  ∃ runs, messages = paintRuns dev runs

theorem isRuns_append {dev : LcdDev} {first second : List BusMsg}
    (isRuns : IsRuns dev first) (others : IsRuns dev second) :
    IsRuns dev (first ++ second) := by
  obtain ⟨runs, rfl⟩ := isRuns
  obtain ⟨more, rfl⟩ := others
  exact ⟨runs ++ more, (paintRuns_append ..).symm⟩

theorem isRuns_flatMap {α : Type} {dev : LcdDev} {f : α → List BusMsg}
    (each : ∀ a, IsRuns dev (f a)) (list : List α) :
    IsRuns dev (list.flatMap f) := by
  induction list with
  | nil => exact ⟨[], rfl⟩
  | cons a rest ih =>
      rw [List.flatMap_cons]
      exact isRuns_append (each a) ih

theorem lcdDrawPoint_isRuns (dev : LcdDev) (x y : UInt16) (color : UInt32) :
    IsRuns dev (lcdDrawPoint dev x y color) :=
  ⟨_, lcdDrawPoint_eq_paintRuns dev x y color⟩

theorem lcdColorFill_isRuns (dev : LcdDev) (sx sy ex ey : UInt16)
    (color : Nat → UInt16) : IsRuns dev (lcdColorFill dev sx sy ex ey color) :=
  ⟨_, by rw [lcdColorFill_eq_paintRows, paintRows_eq_paintRuns]⟩

theorem lcdFillRows_isRuns {dev : LcdDev} {sx ey xlen : UInt16}
    {color : UInt32} (fuel : Nat) (i : UInt16) {messages : List BusMsg}
    (returned : lcdFillRows dev sx ey xlen color fuel i = some messages) :
    IsRuns dev messages := by
  induction fuel generalizing i messages with
  | zero => cases returned
  | succ fuel ih =>
      rw [lcdFillRows] at returned
      split at returned
      · obtain ⟨later, filled, rfl⟩ := Option.map_eq_some_iff.mp returned
        refine isRuns_append ?_ (ih (i + 1) filled)
        exact ⟨[⟨sx, i, List.replicate xlen.toNat color.toUInt16⟩], by
          simp [paintRun]⟩
      · cases returned
        exact ⟨[], rfl⟩

theorem lcdFill_isRuns {dev : LcdDev} {sx sy ex ey : UInt16} {color : UInt32}
    {messages : List BusMsg}
    (returned : lcdFill dev sx sy ex ey color = some messages) :
    IsRuns dev messages :=
  lcdFillRows_isRuns _ sy returned

/-! Runs leave the ends of the window alone. -/

section Stops

variable {dev : LcdDev}

/-- A run streams its colors through what is left of the window. -/
theorem paintRun_stream (commands : dev.CommandsSet)
    (notSsd1963 : dev.id ≠ 0x1963) (panel : Panel) (x y : UInt16)
    (colors : List UInt16) :
    (panel.send dev.addressing (paintRun dev x y colors)).stops =
        panel.stops ∧
      (panel.send dev.addressing (paintRun dev x y colors)).pixels =
        ((panel.raster.seek
          ⟨x.toNat, panel.stops.1, y.toNat, panel.stops.2⟩).stream
            colors).pixels := by
  have seeks : panel.Seeks dev x.toNat y.toNat
      (panel.send dev.addressing
        (lcdSetCursor dev x y ++ lcdWriteRamPrepare dev)) :=
    lcdSetCursor_seeks commands notSsd1963
  rw [paintRun, Panel.send_append, Panel.send_ram seeks.selected]
  refine ⟨seeks.stops, ?_⟩
  rw [Panel.pixels, seeks.raster]

theorem isRuns_stops (commands : dev.CommandsSet)
    (notSsd1963 : dev.id ≠ 0x1963) (panel : Panel) {messages : List BusMsg}
    (isRuns : IsRuns dev messages) :
    (panel.send dev.addressing messages).stops = panel.stops := by
  obtain ⟨runs, rfl⟩ := isRuns
  induction runs generalizing panel with
  | nil => rfl
  | cons run runs ih =>
      rw [paintRuns_cons, Panel.send_append, ih,
        (paintRun_stream commands notSsd1963 ..).1]

end Stops

/-! Runs on the screen, seen on the picture. -/

structure PixelRun.OnScreen (dev : LcdDev) (run : PixelRun) : Prop where
  column : run.x < dev.width
  row : run.y < dev.height
  fits : run.x.toNat + run.colors.length ≤ dev.width.toNat

def PixelRun.paint (picture : Nat → Nat → UInt16) (run : PixelRun) :
    Nat → Nat → UInt16 :=
  runPainted picture run.x.toNat run.y.toNat run.colors

structure PixelRun.Touches (run : PixelRun) (x y : Nat) : Prop where
  row : y = run.y.toNat
  left : run.x.toNat ≤ x
  right : x < run.x.toNat + run.colors.length

theorem PixelRun.paint_touched {run : PixelRun} {x y : Nat}
    (touches : run.Touches x y) (picture other : Nat → Nat → UInt16) :
    run.paint picture x y = run.paint other x y := by
  obtain ⟨row, left, right⟩ := touches
  have place : x - run.x.toNat < run.colors.length := by omega
  unfold PixelRun.paint runPainted
  rw [if_pos ⟨row, left⟩, if_pos ⟨row, left⟩, List.getElem?_eq_getElem place]
  rfl

theorem PixelRun.paint_untouched {run : PixelRun} {x y : Nat}
    (apart : ¬ run.Touches x y) (picture : Nat → Nat → UInt16) :
    run.paint picture x y = picture x y := by
  unfold PixelRun.paint runPainted
  by_cases inRow : y = run.y.toNat ∧ run.x.toNat ≤ x
  · have past : ¬ x < run.x.toNat + run.colors.length := fun right =>
      apart ⟨inRow.1, inRow.2, right⟩
    rw [if_pos inRow, List.getElem?_eq_none (by omega)]
    rfl
  · rw [if_neg inRow]

theorem paintRuns_spec {dev : LcdDev} (commands : dev.CommandsSet)
    {panel : Panel} (ends : panel.EndsFull dev) {runs : List PixelRun}
    (onScreen : ∀ run ∈ runs, run.OnScreen dev) :
    (panel.send dev.addressing (paintRuns dev runs)).EndsFull dev ∧
      (panel.send dev.addressing (paintRuns dev runs)).pixels =
        runs.foldl PixelRun.paint panel.pixels := by
  induction runs generalizing panel with
  | nil => exact ⟨ends, rfl⟩
  | cons run runs ih =>
      obtain ⟨here, others⟩ := List.forall_mem_cons.mp onScreen
      obtain ⟨endsAfter, pixelsAfter⟩ :=
        paintRun_spec commands ends here.column here.row here.fits
      rw [paintRuns_cons, Panel.send_append, List.foldl_cons,
        PixelRun.paint, ← pixelsAfter]
      exact ih endsAfter others

end Ch32v307.Lcd
