import Ch32v307.Lcd.Position

namespace Ch32v307.Lcd

/-! The size argument of a pixel transfer, and the bytes that really move. -/

def wordBytes (word : UInt32) : List UInt8 :=
  [word.toUInt8, (word >>> 8).toUInt8, (word >>> 16).toUInt8,
    (word >>> 24).toUInt8]

def Transfer.storedBytes (transfer : Transfer) : List UInt8 :=
  match transfer.stored with
  | none => []
  | some word => wordBytes word

/-- The transfer moves no more bytes than it was given, reports how many whole
pixels they are, and reports nothing only when it has done nothing. -/
structure SizeHonoured (bitsPerPixel : UInt8) (size : UInt32)
    (before after : LcdState Display) (transfer : Transfer) : Prop where
  stored : transfer.storedBytes.length ≤ size.toNat
  loaded : transfer.loaded ≤ size.toNat
  returned : transfer.size ≤ size
  wholePixels : ∃ pixels : Nat,
    8 * transfer.size.toNat = pixels * bitsPerPixel.toNat
  untouched : transfer.size = 0 →
    transfer.storedBytes = [] ∧ transfer.loaded = 0 ∧ after = before

/-- Pixels are of the width `RTGRAPHIC_CTRL_GET_INFO` reports. -/
def TransferHonoured (bus : Bus Display) (lcd : LcdState Display)
    (size : UInt32) (result : Transfer × LcdState Display) : Prop :=
  ∀ args info,
    (rtLcdControl bus lcd rtgraphicCtrlGetInfo args).1 = (rtEok, .info info) →
    SizeHonoured info.bitsPerPixel size lcd result.2 result.1

theorem transferHonoured_iff (bus : Bus Display) (lcd : LcdState Display)
    (size : UInt32) (result : Transfer × LcdState Display) :
    TransferHonoured bus lcd size result ↔
      SizeHonoured 16 size lcd result.2 result.1 := by
  constructor
  · intro honoured
    exact honoured 0 _ rfl
  · intro honoured args info reported
    have same := congrArg Prod.snd reported
    cases same
    exact honoured

section Transfers

variable (bus : Bus Display) {lcd : LcdState Display} {pos : Int32}
  (size : UInt32)

theorem rtLcdRead_honoured_iff :
    TransferHonoured bus lcd size (rtLcdRead bus lcd pos size) ↔
      lcd.Rejects pos ∨ 4 ≤ size := by
  rw [transferHonoured_iff]
  by_cases rejected : lcd.Rejects pos
  · have unchanged : rtLcdRead bus lcd pos size = (⟨0, none, 0⟩, lcd) :=
      if_pos rejected
    rw [unchanged]
    refine iff_of_true ?_ (Or.inl rejected)
    exact ⟨Nat.zero_le _, Nat.zero_le _, UInt32.zero_le, ⟨0, rfl⟩,
      fun _ => ⟨rfl, rfl, rfl⟩⟩
  · have sampled : (rtLcdRead bus lcd pos size).1 =
        ⟨0, some (lcdReadPoint bus lcd.lcddev (positionX pos) (positionY pos)
          lcd.panel).1, 4⟩ := congrArg Prod.fst (if_neg rejected)
    rw [sampled]
    constructor
    · intro honoured
      exact Or.inr honoured.returned
    · rintro (rejects | enough)
      · exact absurd rejects rejected
      · refine ⟨?_, Nat.zero_le _, enough, ⟨2, rfl⟩, nofun⟩
        exact UInt32.le_iff_toNat_le.mp enough

theorem rtLcdWrite_honoured_iff (buffer : UInt32) :
    TransferHonoured bus lcd size (rtLcdWrite bus lcd pos buffer size) ↔
      ¬ lcd.Rejects pos ∧ 4 ≤ size := by
  rw [transferHonoured_iff]
  by_cases rejected : lcd.Rejects pos
  · have loads : rtLcdWrite bus lcd pos buffer size = (⟨4, none, 0⟩, lcd) :=
      if_pos rejected
    rw [loads]
    refine iff_of_false ?_ fun accepted => accepted.1 rejected
    intro honoured
    have nothingLoaded : 4 = 0 := (honoured.untouched rfl).2.1
    cases nothingLoaded
  · have drawn : (rtLcdWrite bus lcd pos buffer size).1 = ⟨4, none, 4⟩ :=
      congrArg Prod.fst (if_neg rejected)
    rw [drawn]
    constructor
    · intro honoured
      exact ⟨rejected, honoured.returned⟩
    · rintro ⟨_, enough⟩
      refine ⟨Nat.zero_le _, ?_, enough, ⟨2, rfl⟩, nofun⟩
      exact UInt32.le_iff_toNat_le.mp enough

end Transfers

/-- A read honours its size where it is refused or given a word to fill, a
write where it is not refused and given a word. -/
theorem transferSizes_iff (bus : Bus Display) (lcd : LcdState Display)
    (pos : Int32) (buffer size : UInt32) :
    (TransferHonoured bus lcd size (rtLcdRead bus lcd pos size) ↔
      lcd.Rejects pos ∨ 4 ≤ size) ∧
    (TransferHonoured bus lcd size (rtLcdWrite bus lcd pos buffer size) ↔
      ¬ lcd.Rejects pos ∧ 4 ≤ size) :=
  ⟨rtLcdRead_honoured_iff bus size, rtLcdWrite_honoured_iff bus size buffer⟩

/-- A read into a buffer of one pixel stores two, and a write out of bounds
reads its buffer. -/
theorem portraitScreen_overruns :
    (¬ TransferHonoured recorderBus (portraitScreen.onRecorder []) 2
      (rtLcdRead recorderBus (portraitScreen.onRecorder []) 0 2)) ∧
    ¬ TransferHonoured recorderBus (portraitScreen.onRecorder []) 4
      (rtLcdWrite recorderBus (portraitScreen.onRecorder []) 300 0 4) := by
  constructor
  · rw [rtLcdRead_honoured_iff]
    rintro (rejected | enough)
    · exact absurd rejected (by unfold LcdState.Rejects; decide)
    · exact absurd enough (by decide)
  · rw [rtLcdWrite_honoured_iff]
    rintro ⟨accepted, _⟩
    exact accepted (by unfold LcdState.Rejects; decide)

end Ch32v307.Lcd
