import Ch32v307.Data.Shuffle
import Ch32v307.Lcd.Box
import Ch32v307.Lcd.Position

namespace Ch32v307.Lcd

open Data

/-! Two threads that draw at once. The driver has no lock: what one thread sends
falls between the messages of the other wherever the scheduler switches. -/

inductive SharedCall where
  | rtLcdWrite (pos : Int32) (buffer size : UInt32)
  | lcdDrawPoint (x y : UInt16) (color : UInt32)
  | lcdFill (sx sy ex ey : UInt16) (color : UInt32)
  | lcdColorFill (sx sy ex ey : UInt16) (color : Nat → UInt16)

instance {Display : Type} (lcd : LcdState Display) (pos : Int32) :
    Decidable (lcd.Rejects pos) :=
  inferInstanceAs (Decidable (_ ∨ _))

def BusEvent.message? : BusEvent → Option BusMsg
  | .store message => some message
  | _ => none

namespace SharedCall

variable {Display : Type}

/-- The messages of a call; `none` when it does not return. -/
def messages (lcd : LcdState Display) : SharedCall → Option (List BusMsg)
  | rtLcdWrite pos buffer size =>
      some ((lcd.writeLog pos buffer size).filterMap BusEvent.message?)
  | lcdDrawPoint x y color => some (Lcd.lcdDrawPoint lcd.lcddev x y color)
  | lcdFill sx sy ex ey color => Lcd.lcdFill lcd.lcddev sx sy ex ey color
  | lcdColorFill sx sy ex ey color =>
      some (Lcd.lcdColorFill lcd.lcddev sx sy ex ey color)

/-- The transactions of a call: a cursor and the colors written at it. -/
def runs (lcd : LcdState Display) : SharedCall → List PixelRun
  | rtLcdWrite pos buffer _ =>
      if lcd.Rejects pos then []
      else [pointRun (positionX pos) (positionY pos) buffer.toUInt16]
  | lcdDrawPoint x y color => [pointRun x y color.toUInt16]
  | lcdFill sx sy ex ey color =>
      rowRuns sx sy (ey - sy + 1).toNat fun _ =>
        List.replicate (ex - sx + 1).toNat color.toUInt16
  | lcdColorFill sx sy ex ey color =>
      rowRuns sx sy (ey - sy + 1).toNat fun i =>
        (List.range (ex - sx + 1).toNat).map fun j =>
          color (i * (ex - sx + 1).toNat + j)

def region : SharedCall → Box
  | rtLcdWrite pos _ _ =>
      ⟨(positionX pos).toNat, (positionX pos).toNat, (positionY pos).toNat,
        (positionY pos).toNat⟩
  | lcdDrawPoint x y _ => ⟨x.toNat, x.toNat, y.toNat, y.toNat⟩
  | lcdFill sx sy ex ey _ => ⟨sx.toNat, ex.toNat, sy.toNat, ey.toNat⟩
  | lcdColorFill sx sy ex ey _ => ⟨sx.toNat, ex.toNat, sy.toNat, ey.toNat⟩

/-- The region is a rectangle on the screen. -/
structure OnPanel (lcd : LcdState Display) (call : SharedCall) : Prop where
  columns : call.region.left ≤ call.region.right
  rows : call.region.top ≤ call.region.bottom
  onPanel : call.region.OnPanel lcd.lcddev

def Disjoint (first second : SharedCall) : Prop :=
  ∀ x y, ¬ (first.region.Contains x y ∧ second.region.Contains x y)

end SharedCall

/-! Runs that touch no common pixel commute. -/

theorem PixelRun.paint_comm {first second : PixelRun}
    (apart : ∀ x y, ¬ (first.Touches x y ∧ second.Touches x y))
    (picture : Nat → Nat → UInt16) :
    first.paint (second.paint picture) = second.paint (first.paint picture) := by
  funext x y
  by_cases touched : first.Touches x y
  · have untouched : ¬ second.Touches x y := fun both =>
      apart x y ⟨touched, both⟩
    rw [PixelRun.paint_untouched untouched]
    exact PixelRun.paint_touched touched _ _
  · rw [PixelRun.paint_untouched touched]
    by_cases other : second.Touches x y
    · exact PixelRun.paint_touched other _ _
    · rw [PixelRun.paint_untouched other, PixelRun.paint_untouched other,
        PixelRun.paint_untouched touched]

/-! A call alone. -/

section Alone

variable {Display : Type} {lcd : LcdState Display}

theorem writeLog_messages (pos : Int32) (buffer size : UInt32) :
    (lcd.writeLog pos buffer size).filterMap BusEvent.message? =
      paintRuns lcd.lcddev
        ((SharedCall.rtLcdWrite pos buffer size).runs lcd) := by
  by_cases rejected : lcd.Rejects pos
  · rw [writeLog_rejected rejected, SharedCall.runs, if_pos rejected]
    rfl
  · have kept : BusEvent.message? ∘ BusEvent.store = some := rfl
    rw [writeLog_accepted rejected, SharedCall.runs, if_neg rejected,
      List.filterMap_map, kept, List.filterMap_some]
    exact lcdDrawPoint_eq_paintRuns ..

/-- On the panel, the messages of a call are those of its runs. -/
theorem messages_eq_runs {call : SharedCall} (onPanel : call.OnPanel lcd) :
    call.messages lcd = some (paintRuns lcd.lcddev (call.runs lcd)) := by
  cases call with
  | rtLcdWrite pos buffer size =>
      exact congrArg some (writeLog_messages pos buffer size)
  | lcdDrawPoint x y color =>
      exact congrArg some (lcdDrawPoint_eq_paintRuns lcd.lcddev x y color)
  | lcdFill sx sy ex ey color =>
      have rect := onPanel.onPanel.rect_of_toNat_le onPanel.columns onPanel.rows
      rw [SharedCall.messages, lcdFill_eq_lcdColorFill _ _ rect,
        lcdColorFill_eq_paintRows, paintRows_eq_paintRuns]
      simp only [SharedCall.runs, List.map_const', List.length_range]
  | lcdColorFill sx sy ex ey color =>
      rw [SharedCall.messages, lcdColorFill_eq_paintRows,
        paintRows_eq_paintRuns]
      rfl

/-- The runs of a call stay in its region. -/
theorem runs_within {call : SharedCall} (onPanel : call.OnPanel lcd) :
    ∀ run ∈ call.runs lcd, run.Within call.region := by
  cases call with
  | rtLcdWrite pos buffer size =>
      intro run member
      by_cases rejected : lcd.Rejects pos
      · rw [SharedCall.runs, if_pos rejected] at member
        cases member
      · rw [SharedCall.runs, if_neg rejected] at member
        obtain rfl := List.mem_singleton.mp member
        exact pointRun_within (Box.pixel_contains ..) _
  | lcdDrawPoint x y color =>
      intro run member
      obtain rfl := List.mem_singleton.mp member
      exact pointRun_within (Box.pixel_contains ..) _
  | lcdFill sx sy ex ey color =>
      have rect := onPanel.onPanel.rect_of_toNat_le onPanel.columns onPanel.rows
      exact rowRuns_within rect (Int.le_refl _) (Int.le_refl _) (Int.le_refl _)
        (Int.le_refl _) (by simp)
  | lcdColorFill sx sy ex ey color =>
      have rect := onPanel.onPanel.rect_of_toNat_le onPanel.columns onPanel.rows
      exact rowRuns_within rect (Int.le_refl _) (Int.le_refl _) (Int.le_refl _)
        (Int.le_refl _) (by simp)

end Alone

/-! Two calls at once. -/

section Together

variable {Display : Type} {lcd : LcdState Display} {first second : SharedCall}

theorem runs_apart (firstOn : first.OnPanel lcd) (secondOn : second.OnPanel lcd)
    (disjoint : first.Disjoint second) :
    ∀ a ∈ first.runs lcd, ∀ b ∈ second.runs lcd, ∀ picture,
      a.paint (b.paint picture) = b.paint (a.paint picture) := by
  intro a inFirst b inSecond picture
  refine PixelRun.paint_comm (fun x y both => ?_) picture
  exact disjoint x y ⟨(runs_within firstOn a inFirst).contains both.1,
    (runs_within secondOn b inSecond).contains both.2⟩

theorem runs_onScreen {call : SharedCall} (onPanel : call.OnPanel lcd) :
    ∀ run ∈ call.runs lcd, run.OnScreen lcd.lcddev :=
  fun run member => (runs_within onPanel run member).onScreen onPanel.onPanel

/-- What a shuffle of the transactions leaves on the panel. -/
theorem shuffled_pixels (commands : lcd.lcddev.CommandsSet)
    (firstOn : first.OnPanel lcd) (secondOn : second.OnPanel lcd)
    (disjoint : first.Disjoint second) {panel : Panel}
    (ends : panel.EndsFull lcd.lcddev) {merged : List PixelRun}
    (shuffle : Shuffle (first.runs lcd) (second.runs lcd) merged) :
    (panel.send lcd.lcddev.addressing
        (paintRuns lcd.lcddev merged)).pixels =
      (first.runs lcd ++ second.runs lcd).foldl PixelRun.paint
        panel.pixels := by
  have onScreen : ∀ run ∈ merged, run.OnScreen lcd.lcddev := by
    intro run member
    rcases shuffle.mem member with inFirst | inSecond
    · exact runs_onScreen firstOn run inFirst
    · exact runs_onScreen secondOn run inSecond
  rw [(paintRuns_spec commands ends onScreen).2]
  exact shuffle.foldl_eq (runs_apart firstOn secondOn disjoint) _

/-- Interleavings that leave each transaction whole give the panel of one call
after the other, in either order. -/
theorem unsplit_sequential (commands : lcd.lcddev.CommandsSet)
    (firstOn : first.OnPanel lcd) (secondOn : second.OnPanel lcd)
    (disjoint : first.Disjoint second) {panel : Panel}
    (ends : panel.EndsFull lcd.lcddev) {merged : List PixelRun}
    (shuffle : Shuffle (first.runs lcd) (second.runs lcd) merged) :
    ∃ firstSent secondSent, first.messages lcd = some firstSent ∧
      second.messages lcd = some secondSent ∧
      Shuffle firstSent secondSent (paintRuns lcd.lcddev merged) ∧
      (panel.send lcd.lcddev.addressing
          (paintRuns lcd.lcddev merged)).pixels =
        (panel.send lcd.lcddev.addressing
          (firstSent ++ secondSent)).pixels ∧
      (panel.send lcd.lcddev.addressing
          (paintRuns lcd.lcddev merged)).pixels =
        (panel.send lcd.lcddev.addressing
          (secondSent ++ firstSent)).pixels := by
  refine ⟨_, _, messages_eq_runs firstOn, messages_eq_runs secondOn,
    shuffle.flatMap _, ?_, ?_⟩
  · rw [← paintRuns_append,
      shuffled_pixels commands firstOn secondOn disjoint ends shuffle]
    exact (shuffled_pixels commands firstOn secondOn disjoint ends
      (Shuffle.append _ _)).symm
  · rw [← paintRuns_append,
      shuffled_pixels commands firstOn secondOn disjoint ends shuffle]
    exact (shuffled_pixels commands firstOn secondOn disjoint ends
      (Shuffle.append _ _).swap).symm

end Together

/-- A pixel of the device between the two rows of a fill. -/
def writeBetweenRows : List PixelRun :=
  [⟨10, 20, [0x001F, 0x001F]⟩, ⟨5, 0, [0xF800]⟩, ⟨10, 21, [0x001F, 0x001F]⟩]

theorem writeBetweenRows_sequential :
    ∃ writeSent fillSent,
      (SharedCall.rtLcdWrite 5 0xF800 4).messages portraitScreen =
        some writeSent ∧
      (SharedCall.lcdFill 10 20 11 21 0x001F).messages portraitScreen =
        some fillSent ∧
      Shuffle writeSent fillSent
        (paintRuns portraitScreen.lcddev writeBetweenRows) ∧
      (blackPanel.send portraitScreen.lcddev.addressing
          (paintRuns portraitScreen.lcddev writeBetweenRows)).pixels =
        (blackPanel.send portraitScreen.lcddev.addressing
          (writeSent ++ fillSent)).pixels ∧
      (blackPanel.send portraitScreen.lcddev.addressing
          (paintRuns portraitScreen.lcddev writeBetweenRows)).pixels =
        (blackPanel.send portraitScreen.lcddev.addressing
          (fillSent ++ writeSent)).pixels := by
  have commands : portraitScreen.lcddev.CommandsSet := ⟨rfl, rfl, rfl⟩
  have writeOn : (SharedCall.rtLcdWrite 5 0xF800 4).OnPanel portraitScreen :=
    ⟨by decide, by decide, by decide, by decide, by decide, by decide⟩
  have fillOn : (SharedCall.lcdFill 10 20 11 21 0x001F).OnPanel
      portraitScreen :=
    ⟨by decide, by decide, by decide, by decide, by decide, by decide⟩
  have disjoint : (SharedCall.rtLcdWrite 5 0xF800 4).Disjoint
      (SharedCall.lcdFill 10 20 11 21 0x001F) := by
    rintro x y ⟨here, there⟩
    have overlap : (10 : ℤ) ≤ 5 := Int.le_trans there.left here.right
    exact absurd overlap (by decide)
  have ends : blackPanel.EndsFull portraitScreen.lcddev := fun _ => ⟨rfl, rfl⟩
  have shuffle : Shuffle
      ((SharedCall.rtLcdWrite 5 0xF800 4).runs portraitScreen)
      ((SharedCall.lcdFill 10 20 11 21 0x001F).runs portraitScreen)
      writeBetweenRows :=
    .second (.first (.second .nil))
  exact unsplit_sequential commands writeOn fillOn disjoint ends shuffle

/-- Two points, the second thread running between the cursor and the memory
command of the first: the first point stays black. -/
theorem split_points :
    (SharedCall.lcdDrawPoint 10 20 0xF800).OnPanel portraitScreen ∧
      (SharedCall.lcdDrawPoint 30 40 0x001F).OnPanel portraitScreen ∧
      (SharedCall.lcdDrawPoint 10 20 0xF800).Disjoint
        (SharedCall.lcdDrawPoint 30 40 0x001F) ∧
      ∃ merged, Shuffle (lcdDrawPoint ili9341Dev 10 20 0xF800)
          (lcdDrawPoint ili9341Dev 30 40 0x001F) merged ∧
        (blackPanel.send ili9341Dev.addressing merged).pixels 10 20 = 0 ∧
        (blackPanel.send ili9341Dev.addressing
          (lcdDrawPoint ili9341Dev 10 20 0xF800 ++
            lcdDrawPoint ili9341Dev 30 40 0x001F)).pixels 10 20 = 0xF800 ∧
        (blackPanel.send ili9341Dev.addressing
          (lcdDrawPoint ili9341Dev 30 40 0x001F ++
            lcdDrawPoint ili9341Dev 10 20 0xF800)).pixels 10 20 = 0xF800 := by
  let merged := lcdSetCursor ili9341Dev 10 20 ++
    (lcdDrawPoint ili9341Dev 30 40 0x001F ++
      (lcdWriteRamPrepare ili9341Dev ++ [.ram 0xF800]))
  have shuffle : Shuffle (lcdDrawPoint ili9341Dev 10 20 0xF800)
      (lcdDrawPoint ili9341Dev 30 40 0x001F) merged :=
    Shuffle.prepend_first (lcdSetCursor ili9341Dev 10 20)
      (Shuffle.append (lcdDrawPoint ili9341Dev 30 40 0x001F) _).swap
  refine ⟨?_, ?_, ?_, merged, shuffle, by decide, by decide, by decide⟩
  · exact ⟨by decide, by decide, by decide, by decide, by decide, by decide⟩
  · exact ⟨by decide, by decide, by decide, by decide, by decide, by decide⟩
  · rintro x y ⟨here, there⟩
    have overlap : (30 : ℤ) ≤ 10 := Int.le_trans there.left here.right
    exact absurd overlap (by decide)

/-- The panel with its window set to the first six columns and ten rows. -/
def narrowPanel : Panel :=
  blackPanel.send ili9341Dev.addressing (lcdSetWindow ili9341Dev 0 0 6 10)

/-- Two fills, row by row in turn. -/
def alternatingRows : List PixelRun :=
  [⟨10, 5, [0xF800, 0xF800, 0xF800]⟩, ⟨10, 7, [0x001F, 0x001F, 0x001F]⟩,
    ⟨10, 6, [0xF800, 0xF800, 0xF800]⟩, ⟨10, 8, [0x001F, 0x001F, 0x001F]⟩]

/-- Beyond the end of a window rows run down the panel, and what two fills leave
there is that of neither order. -/
theorem narrow_window_mixes :
    ∃ first second,
      first = (SharedCall.lcdFill 10 5 12 6 0xF800).runs portraitScreen ∧
      second = (SharedCall.lcdFill 10 7 12 8 0x001F).runs portraitScreen ∧
      Shuffle first second alternatingRows ∧
      (narrowPanel.send ili9341Dev.addressing
        (paintRuns ili9341Dev alternatingRows)).pixels 10 7 = 0xF800 ∧
      (narrowPanel.send ili9341Dev.addressing
        (paintRuns ili9341Dev alternatingRows)).pixels 10 8 = 0x001F ∧
      (narrowPanel.send ili9341Dev.addressing
        (paintRuns ili9341Dev (first ++ second))).pixels 10 7 = 0x001F ∧
      (narrowPanel.send ili9341Dev.addressing
        (paintRuns ili9341Dev (second ++ first))).pixels 10 8 = 0xF800 := by
  refine ⟨_, _, rfl, rfl, ?_, by decide, by decide, by decide, by decide⟩
  exact .first (.second (.first (.second .nil)))

end Ch32v307.Lcd
