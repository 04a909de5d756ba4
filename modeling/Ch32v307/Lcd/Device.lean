import Ch32v307.Lcd.Recorder

namespace Ch32v307.Lcd

/-! The graphic device over the panel driver. It keeps its own copy of the
geometry in `lcd_dev` and tests positions against that copy. -/

structure LcdDevice where
  width : UInt16
  height : UInt16
  dir : UInt8
  id : UInt8
  fb : UInt32
  deriving DecidableEq, Repr

structure RtDeviceGraphicInfo where
  pixelFormat : UInt8
  bitsPerPixel : UInt8
  reserved : UInt16
  width : UInt16
  height : UInt16
  framebuffer : UInt32
  deriving DecidableEq, Repr

/-- The driver's `lcddev`, the device's `lcd_dev` and `lcd_info`, and the
panel. -/
structure LcdState (Display : Type) where
  lcddev : LcdDev
  lcdDev : LcdDevice
  lcdInfo : RtDeviceGraphicInfo
  panel : Display

def rtNull : UInt32 := 0

def LcdState.zero (panel : Display) : LcdState Display where
  lcddev := LcdDev.zero
  lcdDev := ⟨0, 0, 0, 0, rtNull⟩
  lcdInfo := ⟨0, 0, 0, 0, 0, rtNull⟩
  panel := panel

def rtEok : Int32 := 0
def rtError : Int32 := 1

def rtgraphicPixelFormatRgb565 : UInt8 := 5

def rtgraphicCtrlRectUpdate : Int32 := 128 + 0
def rtgraphicCtrlPoweron : Int32 := 128 + 1
def rtgraphicCtrlPoweroff : Int32 := 128 + 2
def rtgraphicCtrlGetInfo : Int32 := 128 + 3
def rtgraphicCtrlSetBrightness : Int32 := 128 + 6
def rtgraphicCtrlGetBrightness : Int32 := 128 + 7
def rtgraphicCtrlSetDirection : Int32 := 128 + 8
def rtgraphicCtrlGetDirection : Int32 := 128 + 9

def rtLcdInit (tables : RegInit) (bus : Bus Display) (lcd : LcdState Display) :
    Int32 × LcdState Display :=
  let (lcddev, panel) := lcdInit tables bus lcd.lcddev lcd.panel
  (rtEok, { lcd with lcddev := lcddev, panel := panel })

def rtLcdOpen (bus : Bus Display) (lcd : LcdState Display) :
    Int32 × LcdState Display :=
  (rtEok, { lcd with panel := bus.send lcd.panel (lcdDisplayOn lcd.lcddev) })

def rtLcdClose (bus : Bus Display) (lcd : LcdState Display) :
    Int32 × LcdState Display :=
  (rtEok, { lcd with panel := bus.send lcd.panel (lcdDisplayOff lcd.lcddev) })

/-- What a transfer does with the caller's buffer: the bytes it reads from it,
the word it stores there, and the size it returns. -/
structure Transfer where
  loaded : Nat
  stored : Option UInt32
  size : UInt32
  deriving DecidableEq, Repr

def positionX (pos : Int32) : UInt16 := (pos &&& 0xFFFF).toUInt32.toUInt16

def positionY (pos : Int32) : UInt16 :=
  ((pos >>> 16) &&& 0xFFFF).toUInt32.toUInt16

def rtLcdRead (bus : Bus Display) (lcd : LcdState Display) (pos : Int32)
    (_size : UInt32) : Transfer × LcdState Display :=
  let x := positionX pos
  let y := positionY pos
  if x ≥ lcd.lcdDev.width ∨ y ≥ lcd.lcdDev.height then
    (⟨0, none, 0⟩, lcd)
  else
    let (color, panel) := lcdReadPoint bus lcd.lcddev x y lcd.panel
    (⟨0, some color, 4⟩, { lcd with panel := panel })

/-- `buffer` is the word the pointer is read as. -/
def rtLcdWrite (bus : Bus Display) (lcd : LcdState Display) (pos : Int32)
    (buffer : UInt32) (_size : UInt32) : Transfer × LcdState Display :=
  let x := positionX pos
  let y := positionY pos
  let color := buffer
  if x ≥ lcd.lcdDev.width ∨ y ≥ lcd.lcdDev.height then
    (⟨4, none, 0⟩, lcd)
  else
    let panel := bus.send lcd.panel (lcdDrawPoint lcd.lcddev x y color)
    (⟨4, none, 4⟩, { lcd with panel := panel })

/-- What a control command stores through `args`. -/
inductive ArgsStore where
  | nothing
  | byte (value : UInt8)
  | info (value : RtDeviceGraphicInfo)
  deriving DecidableEq, Repr

def LcdDevice.copyGeometry (device : LcdDevice) (dev : LcdDev) : LcdDevice :=
  { device with width := dev.width, height := dev.height, dir := dev.dir }

/-- `args` is the byte the pointer is read as by the commands that read it. -/
def rtLcdControl (bus : Bus Display) (lcd : LcdState Display) (cmd : Int32)
    (args : UInt8) : (Int32 × ArgsStore) × LcdState Display :=
  if cmd = rtgraphicCtrlGetInfo then
    let info :=
      { lcd.lcdInfo with
        bitsPerPixel := 16
        pixelFormat := rtgraphicPixelFormatRgb565
        width := lcd.lcddev.width
        height := lcd.lcddev.height
        framebuffer := rtNull }
    ((rtEok, .info info), { lcd with lcdInfo := info })
  else if cmd = rtgraphicCtrlRectUpdate then
    ((rtEok, .nothing), lcd)
  else if cmd = rtgraphicCtrlPoweron then
    let panel := bus.send lcd.panel (lcdDisplayOn lcd.lcddev)
    ((rtEok, .nothing), { lcd with panel := panel })
  else if cmd = rtgraphicCtrlPoweroff then
    let panel := bus.send lcd.panel (lcdDisplayOff lcd.lcddev)
    ((rtEok, .nothing), { lcd with panel := panel })
  else if cmd = rtgraphicCtrlSetBrightness then
    if lcd.lcddev.id = 0x1963 then
      let panel := bus.send lcd.panel (lcdSsdBacklightSet args)
      ((rtEok, .nothing), { lcd with panel := panel })
    else
      ((rtEok, .nothing), lcd)
  else if cmd = rtgraphicCtrlGetBrightness then
    ((rtEok, .byte 100), lcd)
  else if cmd = rtgraphicCtrlSetDirection then
    let (lcddev, messages) := lcdDisplayDir lcd.lcddev args
    let panel := bus.send lcd.panel messages
    let lcdDev := lcd.lcdDev.copyGeometry lcddev
    ((rtEok, .nothing),
      { lcd with lcddev := lcddev, lcdDev := lcdDev, panel := panel })
  else if cmd = rtgraphicCtrlGetDirection then
    ((rtEok, .byte lcd.lcdDev.dir), lcd)
  else
    ((-rtError, .nothing), lcd)

/-- `rt_hw_lcd_init`, up to the registration of the device. -/
def rtHwLcdInit (lcd : LcdState Display) : LcdState Display :=
  { lcd with
    lcdDev :=
      { lcd.lcdDev.copyGeometry lcd.lcddev with
        id := lcd.lcddev.id.toUInt8
        fb := rtNull } }

inductive Call where
  | rtLcdInit
  | rtLcdOpen
  | rtLcdClose
  | rtLcdControl (cmd : Int32) (args : UInt8)
  | rtLcdRead (pos : Int32) (size : UInt32)
  | rtLcdWrite (pos : Int32) (buffer : UInt32) (size : UInt32)
  | lcdInit
  deriving DecidableEq, Repr

def Call.perform (tables : RegInit) (bus : Bus Display) (lcd : LcdState Display) :
    Call → LcdState Display
  | .rtLcdInit => (Lcd.rtLcdInit tables bus lcd).2
  | .rtLcdOpen => (Lcd.rtLcdOpen bus lcd).2
  | .rtLcdClose => (Lcd.rtLcdClose bus lcd).2
  | .rtLcdControl cmd args => (Lcd.rtLcdControl bus lcd cmd args).2
  | .rtLcdRead pos size => (Lcd.rtLcdRead bus lcd pos size).2
  | .rtLcdWrite pos buffer size => (Lcd.rtLcdWrite bus lcd pos buffer size).2
  | .lcdInit =>
      let (lcddev, panel) := Lcd.lcdInit tables bus lcd.lcddev lcd.panel
      { lcd with lcddev := lcddev, panel := panel }

structure Session (Display : Type) where
  lcd : LcdState Display
  initialized : Bool

def Call.runsLcdInit : Call → Bool
  | .rtLcdInit => true
  | .lcdInit => true
  | _ => false

def Session.step (tables : RegInit) (bus : Bus Display) (session : Session Display)
    (call : Call) : Session Display where
  lcd := call.perform tables bus session.lcd
  initialized := session.initialized || call.runsLcdInit

/-- Where `INIT_DEVICE_EXPORT(rt_hw_lcd_init)` leaves the device, before `main`
runs. -/
def Session.boot (panel : Display) : Session Display where
  lcd := rtHwLcdInit (LcdState.zero panel)
  initialized := false

/-! What a pixel call does, seen on the bus. -/

def LcdState.onRecorder (lcd : LcdState Display) (replies : List UInt16) :
    LcdState Recorder :=
  { lcd with panel := Recorder.start replies }

def LcdState.writeLog (lcd : LcdState Display) (pos : Int32) (buffer size : UInt32) :
    List BusEvent :=
  (rtLcdWrite recorderBus (lcd.onRecorder []) pos buffer size).2.panel.log

def LcdState.readLog (lcd : LcdState Display) (replies : List UInt16) (pos : Int32)
    (size : UInt32) : List BusEvent :=
  (rtLcdRead recorderBus (lcd.onRecorder replies) pos size).2.panel.log

def LcdState.DrawsAt (lcd : LcdState Display) (pos : Int32) (buffer size : UInt32)
    (x y : UInt16) : Prop :=
  lcd.writeLog pos buffer size =
    (lcdDrawPoint lcd.lcddev x y buffer).map .store

def LcdState.SamplesAt (lcd : LcdState Display) (replies : List UInt16) (pos : Int32)
    (size : UInt32) (x y : UInt16) : Prop :=
  ∃ value later, lcd.readLog replies pos size =
    (readAddress lcd.lcddev x y).map .store ++ .load value :: later

def LcdState.Rejects (lcd : LcdState Display) (pos : Int32) : Prop :=
  positionX pos ≥ lcd.lcdDev.width ∨ positionY pos ≥ lcd.lcdDev.height

theorem writeLog_rejected {lcd : LcdState Display} {pos : Int32}
    (rejected : lcd.Rejects pos) (buffer size : UInt32) :
    lcd.writeLog pos buffer size = [] := by
  have unchanged : rtLcdWrite recorderBus (lcd.onRecorder []) pos buffer size =
      (⟨4, none, 0⟩, lcd.onRecorder []) := if_pos rejected
  rw [LcdState.writeLog, unchanged]
  rfl

theorem writeLog_accepted {lcd : LcdState Display} {pos : Int32}
    (accepted : ¬ lcd.Rejects pos) (buffer size : UInt32) :
    lcd.writeLog pos buffer size =
      (lcdDrawPoint lcd.lcddev (positionX pos) (positionY pos) buffer).map
        .store := by
  have drawn : (rtLcdWrite recorderBus (lcd.onRecorder []) pos buffer size).2 =
      { lcd.onRecorder [] with
        panel := recorderBus.send (Recorder.start [])
          (lcdDrawPoint lcd.lcddev (positionX pos) (positionY pos) buffer) } :=
    congrArg Prod.snd (if_neg accepted)
  rw [LcdState.writeLog, drawn]
  exact recorderBus_send_log ..

theorem readLog_rejected {lcd : LcdState Display} {pos : Int32}
    (rejected : lcd.Rejects pos) (replies : List UInt16) (size : UInt32) :
    lcd.readLog replies pos size = [] := by
  have unchanged : rtLcdRead recorderBus (lcd.onRecorder replies) pos size =
      (⟨0, none, 0⟩, lcd.onRecorder replies) := if_pos rejected
  rw [LcdState.readLog, unchanged]
  rfl

theorem readLog_accepted {lcd : LcdState Display} {pos : Int32}
    (accepted : ¬ lcd.Rejects pos) (replies : List UInt16) (size : UInt32) :
    lcd.readLog replies pos size =
      (lcdReadPoint recorderBus lcd.lcddev (positionX pos) (positionY pos)
        (Recorder.start replies)).2.log := by
  have sampled : (rtLcdRead recorderBus (lcd.onRecorder replies) pos size).2 =
      { lcd.onRecorder replies with
        panel := (lcdReadPoint recorderBus lcd.lcddev (positionX pos)
          (positionY pos) (Recorder.start replies)).2 } :=
    congrArg Prod.snd (if_neg accepted)
  rw [LcdState.readLog, sampled]

/-! Geometry that agrees makes the two bounds tests the same test. -/

structure LcdState.GeometryAgrees (lcd : LcdState Display) : Prop where
  width : lcd.lcdDev.width = lcd.lcddev.width
  height : lcd.lcdDev.height = lcd.lcddev.height
  dir : lcd.lcdDev.dir = lcd.lcddev.dir

def LcdState.OnScreen (lcd : LcdState Display) (x y : UInt16) : Prop :=
  x < lcd.lcddev.width ∧ y < lcd.lcddev.height

theorem rejects_iff {lcd : LcdState Display}
    (width : lcd.lcdDev.width = lcd.lcddev.width)
    (height : lcd.lcdDev.height = lcd.lcddev.height) (pos : Int32) :
    lcd.Rejects pos ↔ ¬ lcd.OnScreen (positionX pos) (positionY pos) := by
  unfold LcdState.Rejects LcdState.OnScreen
  rw [width, height, not_and_or, UInt16.not_lt, UInt16.not_lt]

theorem lcdDrawPoint_ne_nil (dev : LcdDev) (x y : UInt16) (color : UInt32) :
    lcdDrawPoint dev x y color ≠ [] := by
  simp [lcdDrawPoint]

theorem drawsAt_iff {lcd : LcdState Display}
    (width : lcd.lcdDev.width = lcd.lcddev.width)
    (height : lcd.lcdDev.height = lcd.lcddev.height) (pos : Int32)
    (buffer size : UInt32) :
    lcd.DrawsAt pos buffer size (positionX pos) (positionY pos) ↔
      lcd.OnScreen (positionX pos) (positionY pos) := by
  by_cases rejected : lcd.Rejects pos
  · have outside := (rejects_iff width height pos).mp rejected
    rw [LcdState.DrawsAt, writeLog_rejected rejected]
    refine iff_of_false (fun drawn => ?_) outside
    exact lcdDrawPoint_ne_nil _ _ _ _ (List.map_eq_nil_iff.mp drawn.symm)
  · have inside := not_not.mp (mt (rejects_iff width height pos).mpr rejected)
    exact iff_of_true (writeLog_accepted rejected buffer size) inside

theorem samplesAt_iff {lcd : LcdState Display}
    (width : lcd.lcdDev.width = lcd.lcddev.width)
    (height : lcd.lcdDev.height = lcd.lcddev.height) (replies : List UInt16)
    (pos : Int32) (size : UInt32) :
    lcd.SamplesAt replies pos size (positionX pos) (positionY pos) ↔
      lcd.OnScreen (positionX pos) (positionY pos) := by
  by_cases rejected : lcd.Rejects pos
  · have outside := (rejects_iff width height pos).mp rejected
    rw [LcdState.SamplesAt, readLog_rejected rejected]
    refine iff_of_false (fun ⟨value, later, sampled⟩ => ?_) outside
    simp at sampled
  · have inside := not_not.mp (mt (rejects_iff width height pos).mpr rejected)
    refine iff_of_true ?_ inside
    obtain ⟨value, later, sampled⟩ :=
      lcdReadPoint_log inside (Recorder.start replies)
    refine ⟨value, later, ?_⟩
    rw [readLog_accepted rejected, sampled, Recorder.start_log,
      List.nil_append]

end Ch32v307.Lcd
