import Ch32v307.Lcd.Device

namespace Ch32v307.Lcd

open Data

/-! Pixel positions: the encoding of the graphic device class against the
decoding of the LCD device. -/

def rtgraphicPixelPosition (x y : Int32) : Int32 := (x <<< 16) ||| y

/-- The position a client passes for a column and a row. -/
def clientPosition (x y : UInt16) : Int32 :=
  rtgraphicPixelPosition x.toUInt32.toInt32 y.toUInt32.toInt32

private theorem mask_getElem {i : Nat} (inRange : i < 16) :
    (65535#16)[i] = true := by
  rw [show (65535#16) = BitVec.allOnes 16 from rfl, BitVec.getElem_allOnes]

/-! The device takes the row for the column and the column for the row. -/

theorem positionX_clientPosition (x y : UInt16) :
    positionX (clientPosition x y) = y := by
  apply UInt16.toBitVec_inj.mp
  ext i inRange
  simp [positionX, clientPosition, rtgraphicPixelPosition,
    mask_getElem inRange]

theorem positionY_clientPosition (x y : UInt16) :
    positionY (clientPosition x y) = x := by
  apply UInt16.toBitVec_inj.mp
  ext i inRange
  have high : 16 + i < 32 := by omega
  have above : ¬ 16 + i < 16 := by omega
  have word : i < 32 := by omega
  simp [positionY, clientPosition, rtgraphicPixelPosition,
    mask_getElem inRange, BitVec.getElem_sshiftRight, high, above, word,
    BitVec.getLsbD_eq_getElem inRange]

/-! The messages of a cursor determine the pixel. -/

theorem lcdSetCursor_injective {dev : LcdDev} {x y x' y' : UInt16}
    (same : lcdSetCursor dev x y = lcdSetCursor dev x' y') :
    x = x' ∧ y = y' := by
  unfold lcdSetCursor at same
  split_ifs at same
  all_goals
    simp only [lcdWrData, lcdWrRegno, List.cons_append, List.nil_append,
      List.cons.injEq, BusMsg.ram.injEq, true_and, and_true] at same
    obtain ⟨xHigh, xLow, yHigh, yLow⟩ := same
  -- Only the SSD1963 in portrait counts its columns from the right.
  · have mirrored := Word.eq_of_bytes xHigh xLow
    exact ⟨Word.sub_left_injective mirrored, Word.eq_of_bytes yHigh yLow⟩
  all_goals exact ⟨Word.eq_of_bytes xHigh xLow, Word.eq_of_bytes yHigh yLow⟩

theorem lcdDrawPoint_injective {dev : LcdDev} {x y x' y' : UInt16}
    {color : UInt32}
    (same : lcdDrawPoint dev x y color = lcdDrawPoint dev x' y' color) :
    x = x' ∧ y = y' := by
  unfold lcdDrawPoint at same
  exact lcdSetCursor_injective
    (List.append_cancel_right (List.append_cancel_right same))

/-- A client's write and read at a pixel reach that pixel. -/
structure PixelReached (lcd : LcdState Display) (x y : UInt16) : Prop where
  write : ∀ buffer, lcd.DrawsAt (clientPosition x y) buffer 4 x y
  read : ∀ replies, lcd.SamplesAt replies (clientPosition x y) 4 x y

theorem drawsAt_decoded {lcd : LcdState Display} {pos : Int32}
    {buffer size : UInt32} {x y : UInt16}
    (drawn : lcd.DrawsAt pos buffer size x y) :
    x = positionX pos ∧ y = positionY pos := by
  unfold LcdState.DrawsAt at drawn
  by_cases rejected : lcd.Rejects pos
  · rw [writeLog_rejected rejected] at drawn
    exact absurd (List.map_eq_nil_iff.mp drawn.symm) (lcdDrawPoint_ne_nil _ _ _ _)
  · rw [writeLog_accepted rejected] at drawn
    exact lcdDrawPoint_injective (store_map_injective drawn).symm

/-- Of the pixels on the screen a client reaches those of the diagonal. -/
theorem pixelReached_iff {lcd : LcdState Display}
    (width : lcd.lcdDev.width = lcd.lcddev.width)
    (height : lcd.lcdDev.height = lcd.lcddev.height) {x y : UInt16}
    (onScreen : lcd.OnScreen x y) :
    PixelReached lcd x y ↔ x = y := by
  constructor
  · intro reached
    have decoded := (drawsAt_decoded (reached.write 0)).1
    rw [positionX_clientPosition] at decoded
    exact decoded
  · rintro rfl
    have decodedX := positionX_clientPosition x x
    have decodedY := positionY_clientPosition x x
    constructor
    · intro buffer
      have drawn := drawsAt_iff width height (clientPosition x x) buffer 4
      rw [decodedX, decodedY] at drawn
      exact drawn.mpr onScreen
    · intro replies
      have sampled := samplesAt_iff width height replies (clientPosition x x) 4
      rw [decodedX, decodedY] at sampled
      exact sampled.mpr onScreen

/-- An ILI9341 in portrait, its geometry copied by a change of direction. -/
def portraitScreen : LcdState Unit where
  lcddev := ⟨240, 320, 0x9341, 0, 0x2C, 0x2A, 0x2B⟩
  lcdDev := ⟨240, 320, 0, 0, rtNull⟩
  lcdInfo := ⟨0, 0, 0, 0, 0, rtNull⟩
  panel := ()

theorem portraitScreen_reaches_diagonal :
    PixelReached portraitScreen 100 100 ↔ (100 : UInt16) = 100 :=
  pixelReached_iff rfl rfl (by constructor <;> decide)

/-- The first pixel of row 300 is on the screen and out of a client's reach. -/
theorem portraitScreen_misses_row :
    portraitScreen.GeometryAgrees ∧ portraitScreen.OnScreen 0 300 ∧
      ¬ PixelReached portraitScreen 0 300 := by
  refine ⟨⟨rfl, rfl, rfl⟩, by constructor <;> decide, fun reached => ?_⟩
  exact absurd (drawsAt_decoded (reached.write 0)).1 (by decide)

end Ch32v307.Lcd
