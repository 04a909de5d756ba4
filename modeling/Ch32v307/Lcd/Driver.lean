import Ch32v307.Kernel.SysTick

namespace Ch32v307.Lcd

/-! The panel driver. A function that only writes is the list of its stores to
`LCD->LCD_REG` and `LCD->LCD_RAM`, in order; a function that also reads runs
on a bus. -/

inductive BusMsg where
  | reg (value : UInt16)
  | ram (value : UInt16)
  deriving DecidableEq, Repr

/-- What answers on the other side of the driver: the panel, and time. -/
structure Bus (Display : Type) where
  store : Display → BusMsg → Display
  load : Display → UInt16 × Display
  delay : Display → Kernel.DelayCall → Display

def Bus.send (bus : Bus Display) (panel : Display) (messages : List BusMsg) : Display :=
  messages.foldl bus.store panel

@[simp] theorem Bus.send_append (bus : Bus Display) (panel : Display)
    (first second : List BusMsg) :
    bus.send panel (first ++ second) = bus.send (bus.send panel first) second :=
  List.foldl_append

/-- `_lcd_dev`, the type of `lcddev`. -/
structure LcdDev where
  width : UInt16
  height : UInt16
  id : UInt16
  dir : UInt8
  wramcmd : UInt16
  setxcmd : UInt16
  setycmd : UInt16
  deriving DecidableEq, Repr

def LcdDev.zero : LcdDev := ⟨0, 0, 0, 0, 0, 0, 0⟩

def white : UInt16 := 0xFFFF

def lcdWrData (data : UInt16) : BusMsg := .ram data

def lcdWrRegno (regno : UInt16) : BusMsg := .reg regno

def lcdWriteReg (regno data : UInt16) : List BusMsg :=
  [.reg regno, .ram data]

def lcdWriteRamPrepare (dev : LcdDev) : List BusMsg := [.reg dev.wramcmd]

/-- `value >> 8` of an `int`, as `lcd_wr_data` receives it. -/
def highByte (value : UInt32) : UInt16 := (value >>> 8).toUInt16

def lowByte (value : UInt32) : UInt16 := (value &&& 0xFF).toUInt16

def lcdDisplayOn (dev : LcdDev) : List BusMsg :=
  if dev.id = 0x5510 then [lcdWrRegno 0x2900] else [lcdWrRegno 0x29]

def lcdDisplayOff (dev : LcdDev) : List BusMsg :=
  if dev.id = 0x5510 then [lcdWrRegno 0x2800] else [lcdWrRegno 0x28]

def lcdSetCursor (dev : LcdDev) (x y : UInt16) : List BusMsg :=
  if dev.id = 0x1963 then
    (if dev.dir = 0 then
      let x := dev.width - 1 - x
      [lcdWrRegno dev.setxcmd, lcdWrData 0, lcdWrData 0,
        lcdWrData (x >>> 8), lcdWrData (x &&& 0xFF)]
    else
      [lcdWrRegno dev.setxcmd, lcdWrData (x >>> 8), lcdWrData (x &&& 0xFF),
        lcdWrData (highByte (dev.width.toUInt32 - 1)),
        lcdWrData (lowByte (dev.width.toUInt32 - 1))]) ++
    [lcdWrRegno dev.setycmd, lcdWrData (y >>> 8), lcdWrData (y &&& 0xFF),
      lcdWrData (highByte (dev.height.toUInt32 - 1)),
      lcdWrData (lowByte (dev.height.toUInt32 - 1))]
  else if dev.id = 0x5510 then
    [lcdWrRegno dev.setxcmd, lcdWrData (x >>> 8),
      lcdWrRegno (dev.setxcmd + 1), lcdWrData (x &&& 0xFF),
      lcdWrRegno dev.setycmd, lcdWrData (y >>> 8),
      lcdWrRegno (dev.setycmd + 1), lcdWrData (y &&& 0xFF)]
  else
    [lcdWrRegno dev.setxcmd, lcdWrData (x >>> 8), lcdWrData (x &&& 0xFF),
      lcdWrRegno dev.setycmd, lcdWrData (y >>> 8), lcdWrData (y &&& 0xFF)]

def readAddress (dev : LcdDev) (x y : UInt16) : List BusMsg :=
  lcdSetCursor dev x y ++
    [if dev.id = 0x5510 then lcdWrRegno 0x2E00 else lcdWrRegno 0x2E]

def lcdReadPoint (bus : Bus Display) (dev : LcdDev) (x y : UInt16)
    (panel : Display) : UInt32 × Display :=
  if x ≥ dev.width ∨ y ≥ dev.height then
    (0, panel)
  else
    let panel := bus.send panel (readAddress dev x y)
    let (r, panel) := bus.load panel
    if dev.id = 0x1963 then
      (r.toUInt32, panel)
    else
      let (r, panel) := bus.load panel
      if dev.id = 0x7796 then
        (r.toUInt32, panel)
      else
        let (b, panel) := bus.load panel
        let g := (r &&& 0xFF) <<< 8
        ((((r >>> 11) <<< 11) ||| ((g >>> 10) <<< 5) ||| (b >>> 11)).toUInt32,
          panel)

def lcdDrawPoint (dev : LcdDev) (x y : UInt16) (color : UInt32) : List BusMsg :=
  lcdSetCursor dev x y ++ lcdWriteRamPrepare dev ++ [.ram color.toUInt16]

/-- The product with `2.55` is the source's, in `double`. -/
def lcdSsdBacklightSet (pwm : UInt8) : List BusMsg :=
  [lcdWrRegno 0xBE, lcdWrData 0x05, lcdWrData (pwm.toFloat * 2.55).toUInt16,
    lcdWrData 0x01, lcdWrData 0xFF, lcdWrData 0x00, lcdWrData 0x00]

def rotateScanDir (dev : LcdDev) (dir : UInt8) : UInt8 :=
  if (dev.dir = 1 ∧ dev.id ≠ 0x1963) ∨ (dev.dir = 0 ∧ dev.id = 0x1963) then
    match dir with
    | 0 => 6
    | 1 => 7
    | 2 => 4
    | 3 => 5
    | 4 => 1
    | 5 => 0
    | 6 => 3
    | 7 => 2
    | _ => dir
  else
    dir

/-- The scan direction bits of register 0x36, with the BGR bit of the three
controllers that need it. -/
def scanDirRegval (dev : LcdDev) (dir : UInt8) : UInt16 :=
  let regval : UInt16 :=
    match dir with
    | 0 => 0x00
    | 1 => 0x80
    | 2 => 0x40
    | 3 => 0xC0
    | 4 => 0x20
    | 5 => 0x60
    | 6 => 0xA0
    | 7 => 0xE0
    | _ => 0x00
  if dev.id = 0x9341 ∨ dev.id = 0x7789 ∨ dev.id = 0x7796 then
    regval ||| 0x08
  else
    regval

def LcdDev.swapSides (dev : LcdDev) : LcdDev :=
  { dev with width := dev.height, height := dev.width }

def scanDirSize (dev : LcdDev) (regval : UInt16) : LcdDev :=
  if dev.id ≠ 0x1963 then
    if regval &&& 0x20 ≠ 0 then
      if dev.width < dev.height then dev.swapSides else dev
    else
      if dev.width > dev.height then dev.swapSides else dev
  else
    dev

/-- The end of `lcd_scan_dir`: the address window becomes the whole screen. -/
def scanDirWindow (dev : LcdDev) : List BusMsg :=
  if dev.id = 0x5510 then
    [lcdWrRegno dev.setxcmd, lcdWrData 0,
      lcdWrRegno (dev.setxcmd + 1), lcdWrData 0,
      lcdWrRegno (dev.setxcmd + 2),
      lcdWrData (highByte (dev.width.toUInt32 - 1)),
      lcdWrRegno (dev.setxcmd + 3),
      lcdWrData (lowByte (dev.width.toUInt32 - 1)),
      lcdWrRegno dev.setycmd, lcdWrData 0,
      lcdWrRegno (dev.setycmd + 1), lcdWrData 0,
      lcdWrRegno (dev.setycmd + 2),
      lcdWrData (highByte (dev.height.toUInt32 - 1)),
      lcdWrRegno (dev.setycmd + 3),
      lcdWrData (lowByte (dev.height.toUInt32 - 1))]
  else
    [lcdWrRegno dev.setxcmd, lcdWrData 0, lcdWrData 0,
      lcdWrData (highByte (dev.width.toUInt32 - 1)),
      lcdWrData (lowByte (dev.width.toUInt32 - 1)),
      lcdWrRegno dev.setycmd, lcdWrData 0, lcdWrData 0,
      lcdWrData (highByte (dev.height.toUInt32 - 1)),
      lcdWrData (lowByte (dev.height.toUInt32 - 1))]

def lcdScanDir (dev : LcdDev) (dir : UInt8) : LcdDev × List BusMsg :=
  let regval := scanDirRegval dev (rotateScanDir dev dir)
  let dirreg := if dev.id = 0x5510 then 0x3600 else 0x36
  let dev' := scanDirSize dev regval
  (dev', lcdWriteReg dirreg regval ++ scanDirWindow dev')

def dftScanDir : UInt8 := 0

def LcdDev.setCommands (dev : LcdDev) (wramcmd setxcmd setycmd : UInt16) :
    LcdDev :=
  { dev with wramcmd := wramcmd, setxcmd := setxcmd, setycmd := setycmd }

def LcdDev.setSize (dev : LcdDev) (width height : UInt16) : LcdDev :=
  { dev with width := width, height := height }

def portraitSetup (dev : LcdDev) : LcdDev :=
  let dev := dev.setSize 240 320
  let dev :=
    if dev.id = 0x5510 then
      (dev.setCommands 0x2C00 0x2A00 0x2B00).setSize 480 800
    else if dev.id = 0x1963 then
      (dev.setCommands 0x2C 0x2B 0x2A).setSize 480 800
    else
      dev.setCommands 0x2C 0x2A 0x2B
  let dev :=
    if dev.id = 0x5310 ∨ dev.id = 0x7796 then dev.setSize 320 480 else dev
  if dev.id = 0x9806 then dev.setSize 480 800 else dev

def landscapeSetup (dev : LcdDev) : LcdDev :=
  let dev := dev.setSize 320 240
  let dev :=
    if dev.id = 0x5510 then
      (dev.setCommands 0x2C00 0x2A00 0x2B00).setSize 800 480
    else if dev.id = 0x1963 ∨ dev.id = 0x9806 then
      (dev.setCommands 0x2C 0x2A 0x2B).setSize 800 480
    else
      dev.setCommands 0x2C 0x2A 0x2B
  if dev.id = 0x5310 ∨ dev.id = 0x7796 then dev.setSize 480 320 else dev

def lcdDisplayDir (dev : LcdDev) (dir : UInt8) : LcdDev × List BusMsg :=
  let dev := { dev with dir := dir }
  let dev := if dir = 0 then portraitSetup dev else landscapeSetup dev
  lcdScanDir dev dftScanDir

def lcdSetWindow (dev : LcdDev) (sx sy width height : UInt16) : List BusMsg :=
  let twidth := sx + width - 1
  let theight := sy + height - 1
  if dev.id = 0x1963 ∧ dev.dir ≠ 1 then
    let sx := dev.width - width - sx
    let height := sy + height - 1
    let ex := sx.toUInt32 + width.toUInt32 - 1
    [lcdWrRegno dev.setxcmd, lcdWrData (sx >>> 8), lcdWrData (sx &&& 0xFF),
      lcdWrData (highByte ex), lcdWrData (lowByte ex),
      lcdWrRegno dev.setycmd, lcdWrData (sy >>> 8), lcdWrData (sy &&& 0xFF),
      lcdWrData (height >>> 8), lcdWrData (height &&& 0xFF)]
  else if dev.id = 0x5510 then
    [lcdWrRegno dev.setxcmd, lcdWrData (sx >>> 8),
      lcdWrRegno (dev.setxcmd + 1), lcdWrData (sx &&& 0xFF),
      lcdWrRegno (dev.setxcmd + 2), lcdWrData (twidth >>> 8),
      lcdWrRegno (dev.setxcmd + 3), lcdWrData (twidth &&& 0xFF),
      lcdWrRegno dev.setycmd, lcdWrData (sy >>> 8),
      lcdWrRegno (dev.setycmd + 1), lcdWrData (sy &&& 0xFF),
      lcdWrRegno (dev.setycmd + 2), lcdWrData (theight >>> 8),
      lcdWrRegno (dev.setycmd + 3), lcdWrData (theight &&& 0xFF)]
  else
    [lcdWrRegno dev.setxcmd, lcdWrData (sx >>> 8), lcdWrData (sx &&& 0xFF),
      lcdWrData (twidth >>> 8), lcdWrData (twidth &&& 0xFF),
      lcdWrRegno dev.setycmd, lcdWrData (sy >>> 8), lcdWrData (sy &&& 0xFF),
      lcdWrData (theight >>> 8), lcdWrData (theight &&& 0xFF)]

def lcdClear (dev : LcdDev) (color : UInt16) : List BusMsg :=
  let totalpoint := dev.width.toUInt32 * dev.height.toUInt32
  lcdSetCursor dev 0 0 ++ lcdWriteRamPrepare dev ++
    List.replicate totalpoint.toNat (.ram color)

/-- The row loop of `lcd_fill`. Its counter is an `uint16_t` compared with
`<=`, so a row bound of 65535 is never passed: `none` once every value of the
counter has been seen. -/
def lcdFillRows (dev : LcdDev) (sx ey xlen : UInt16) (color : UInt32) :
    Nat → UInt16 → Option (List BusMsg)
  | 0, _ => none
  | fuel + 1, i =>
      if i ≤ ey then
        (lcdFillRows dev sx ey xlen color fuel (i + 1)).map
          (lcdSetCursor dev sx i ++ lcdWriteRamPrepare dev ++
            List.replicate xlen.toNat (.ram color.toUInt16) ++ ·)
      else
        some []

def lcdFill (dev : LcdDev) (sx sy ex ey : UInt16) (color : UInt32) :
    Option (List BusMsg) :=
  let xlen := ex - sx + 1
  lcdFillRows dev sx ey xlen color (65536 + 1) sy

/-- `color` is the memory behind the pointer. The index is an `int`: an array
that fits the 32-bit address space keeps it below `2 ^ 31`. -/
def lcdColorFill (dev : LcdDev) (sx sy ex ey : UInt16) (color : Nat → UInt16) :
    List BusMsg :=
  let width := ex - sx + 1
  let height := ey - sy + 1
  (List.range height.toNat).flatMap fun i =>
    lcdSetCursor dev sx (sy + UInt16.ofNat i) ++ lcdWriteRamPrepare dev ++
      (List.range width.toNat).map fun j => .ram (color (i * width.toNat + j))

/-! The command codes go with the controller and the direction. -/

/-- The commands are those `lcd_display_dir` chooses for the controller. -/
structure LcdDev.CommandsSet (dev : LcdDev) : Prop where
  wramcmd : dev.wramcmd = if dev.id = 0x5510 then 0x2C00 else 0x2C
  setxcmd : dev.setxcmd =
    if dev.id = 0x5510 then 0x2A00
    else if dev.id = 0x1963 ∧ dev.dir = 0 then 0x2B else 0x2A
  setycmd : dev.setycmd =
    if dev.id = 0x5510 then 0x2B00
    else if dev.id = 0x1963 ∧ dev.dir = 0 then 0x2A else 0x2B

def portraitSize (id : UInt16) : UInt16 × UInt16 :=
  if id = 0x5510 ∨ id = 0x1963 ∨ id = 0x9806 then (480, 800)
  else if id = 0x5310 ∨ id = 0x7796 then (320, 480)
  else (240, 320)

end Ch32v307.Lcd
