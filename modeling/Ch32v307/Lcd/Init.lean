import Ch32v307.Lcd.Driver

namespace Ch32v307.Lcd

/-! Bring-up of the panel: identify the controller, run its register table,
set portrait and clear. -/

/-- One entry of an `lcd_ex_*_reginit` function. -/
inductive InitStep where
  | store (message : BusMsg)
  | delay (call : Kernel.DelayCall)

structure RegInit where
  st7789 : List InitStep
  ili9341 : List InitStep
  nt35310 : List InitStep
  st7796 : List InitStep
  nt35510 : List InitStep
  ili9806 : List InitStep
  ssd1963 : List InitStep

def InitStep.perform (bus : Bus Display) (panel : Display) : InitStep → Display
  | .store message => bus.store panel message
  | .delay call => bus.delay panel call

def loadMany (bus : Bus Display) : Nat → Display → Display
  | 0, panel => panel
  | count + 1, panel => loadMany bus count (bus.load panel).2

/-- The two bytes of an identifier, after some words that are dropped. -/
def readId (bus : Bus Display) (regno : UInt16) (dropped : Nat) (panel : Display) :
    UInt16 × Display :=
  let panel := bus.store panel (lcdWrRegno regno)
  let panel := loadMany bus dropped panel
  let (high, panel) := bus.load panel
  let (low, panel) := bus.load panel
  ((high <<< 8) ||| low, panel)

def readId5510 (bus : Bus Display) (panel : Display) : UInt16 × Display :=
  let panel := bus.send panel (lcdWriteReg 0xF000 0x0055 ++
    lcdWriteReg 0xF001 0x00AA ++ lcdWriteReg 0xF002 0x0052 ++
    lcdWriteReg 0xF003 0x0008 ++ lcdWriteReg 0xF004 0x0001)
  let panel := bus.store panel (lcdWrRegno 0xC500)
  let (high, panel) := bus.load panel
  let panel := bus.store panel (lcdWrRegno 0xC501)
  let (low, panel) := bus.load panel
  ((high <<< 8) ||| low, bus.delay panel (.ms 5))

/-- The identification chain of `lcd_init`; each controller is tried only when
the ones before it did not answer. -/
def probeId (bus : Bus Display) (panel : Display) : UInt16 × Display :=
  let (id, panel) := readId bus 0xD3 2 panel
  if id = 0x9341 then (id, panel)
  else
    let (id, panel) := readId bus 0x04 2 panel
    let id := if id = 0x8552 then 0x7789 else id
    if id = 0x7789 then (id, panel)
    else
      let (id, panel) := readId bus 0xD4 2 panel
      if id = 0x5310 then (id, panel)
      else
        let (id, panel) := readId bus 0xD3 2 panel
        if id = 0x7796 then (id, panel)
        else
          let (id, panel) := readId5510 bus panel
          if id = 0x5510 then (id, panel)
          else
            let (id, panel) := readId bus 0xD3 2 panel
            if id = 0x9806 then (id, panel)
            else
              let (id, panel) := readId bus 0xA1 1 panel
              (if id = 0x5761 then 0x1963 else id, panel)

def regInitFor (tables : RegInit) (id : UInt16) : List InitStep :=
  if id = 0x7789 then tables.st7789
  else if id = 0x9341 then tables.ili9341
  else if id = 0x5310 then tables.nt35310
  else if id = 0x7796 then tables.st7796
  else if id = 0x5510 then tables.nt35510
  else if id = 0x9806 then tables.ili9806
  else if id = 0x1963 then
    tables.ssd1963 ++ (lcdSsdBacklightSet 100).map .store
  else []

def lcdInit (tables : RegInit) (bus : Bus Display) (dev : LcdDev)
    (panel : Display) : LcdDev × Display :=
  let panel := bus.delay panel (.ms 50)
  let (id, panel) := probeId bus panel
  let dev := { dev with id := id }
  let panel := (regInitFor tables id).foldl (InitStep.perform bus) panel
  let (dev, messages) := lcdDisplayDir dev 0
  let panel := bus.send panel messages
  (dev, bus.send panel (lcdClear dev white))

def probedId (bus : Bus Display) (panel : Display) : UInt16 :=
  (probeId bus (bus.delay panel (.ms 50))).1

/-! What every access to the bus keeps, the bring-up keeps. -/

structure Bus.Keeps (bus : Bus Display) (Inv : Display → Prop) : Prop where
  store : ∀ panel message, Inv panel → Inv (bus.store panel message)
  load : ∀ panel, Inv panel → Inv (bus.load panel).2
  delay : ∀ panel call, Inv panel → Inv (bus.delay panel call)

section Keeps

variable {bus : Bus Display} {Inv : Display → Prop} (keeps : bus.Keeps Inv)

include keeps

theorem send_keeps (messages : List BusMsg) {panel : Display}
    (initial : Inv panel) : Inv (bus.send panel messages) := by
  induction messages generalizing panel with
  | nil => exact initial
  | cons message rest ih => exact ih (keeps.store panel message initial)

theorem loadMany_keeps (count : Nat) {panel : Display} (initial : Inv panel) :
    Inv (loadMany bus count panel) := by
  induction count generalizing panel with
  | zero => exact initial
  | succ count ih => exact ih (keeps.load panel initial)

theorem readId_keeps (regno : UInt16) (dropped : Nat) {panel : Display}
    (initial : Inv panel) : Inv (readId bus regno dropped panel).2 := by
  have asked := keeps.store panel (lcdWrRegno regno) initial
  have skipped := loadMany_keeps keeps dropped asked
  exact keeps.load _ (keeps.load _ skipped)

theorem readId5510_keeps {panel : Display} (initial : Inv panel) :
    Inv (readId5510 bus panel).2 := by
  have unlocked := send_keeps keeps (lcdWriteReg 0xF000 0x0055 ++
    lcdWriteReg 0xF001 0x00AA ++ lcdWriteReg 0xF002 0x0052 ++
    lcdWriteReg 0xF003 0x0008 ++ lcdWriteReg 0xF004 0x0001) initial
  have high := keeps.load _ (keeps.store _ (lcdWrRegno 0xC500) unlocked)
  have low := keeps.load _ (keeps.store _ (lcdWrRegno 0xC501) high)
  exact keeps.delay _ (.ms 5) low

theorem probeId_keeps {panel : Display} (initial : Inv panel) :
    Inv (probeId bus panel).2 := by
  have ili9341 := readId_keeps keeps 0xD3 2 initial
  have st7789 := readId_keeps keeps 0x04 2 ili9341
  have nt35310 := readId_keeps keeps 0xD4 2 st7789
  have st7796 := readId_keeps keeps 0xD3 2 nt35310
  have nt35510 := readId5510_keeps keeps st7796
  have ili9806 := readId_keeps keeps 0xD3 2 nt35510
  have ssd1963 := readId_keeps keeps 0xA1 1 ili9806
  have either : ∀ {found : Prop} [Decidable found]
      {here later : UInt16 × Display}, Inv here.2 → Inv later.2 →
      Inv (if found then here else later).2 := by
    intro found _ here later kept others
    split
    · exact kept
    · exact others
  exact either ili9341 (either st7789 (either nt35310 (either st7796
    (either nt35510 (either ili9806 ssd1963)))))

theorem regInit_keeps (steps : List InitStep) {panel : Display}
    (initial : Inv panel) :
    Inv (steps.foldl (InitStep.perform bus) panel) := by
  induction steps generalizing panel with
  | nil => exact initial
  | cons step rest ih =>
      apply ih
      cases step with
      | store message => exact keeps.store panel message initial
      | delay call => exact keeps.delay panel call initial

/-- The bring-up starts with a delay; what holds after it stays. -/
theorem lcdInit_keeps (tables : RegInit) (dev : LcdDev) {panel : Display}
    (initial : Inv (bus.delay panel (.ms 50))) :
    Inv (lcdInit tables bus dev panel).2 := by
  unfold lcdInit
  apply send_keeps keeps
  apply send_keeps keeps
  apply regInit_keeps keeps
  exact probeId_keeps keeps initial

end Keeps

/-! Geometry and command codes after a change of direction and after the
bring-up. -/

theorem scanDirSize_commandsSet {dev : LcdDev} (regval : UInt16)
    (commands : dev.CommandsSet) : (scanDirSize dev regval).CommandsSet := by
  unfold scanDirSize
  split_ifs
  all_goals exact ⟨commands.wramcmd, commands.setxcmd, commands.setycmd⟩

theorem scanDirSize_portrait {dev : LcdDev} (portrait : dev.dir = 0)
    (upright : dev.width < dev.height) :
    scanDirSize dev (scanDirRegval dev (rotateScanDir dev dftScanDir)) =
      dev := by
  by_cases ssd1963 : dev.id = 0x1963
  · simp [scanDirSize, ssd1963]
  · have rotated : rotateScanDir dev dftScanDir = 0 := by
      simp [rotateScanDir, portrait, ssd1963, dftScanDir]
    have unexchanged : scanDirRegval dev 0 &&& 0x20 = 0 := by
      unfold scanDirRegval
      split_ifs <;> decide
    have notWider : ¬ dev.width > dev.height := UInt16.lt_asymm upright
    rw [rotated]
    simp [scanDirSize, ssd1963, unexchanged, notWider]

theorem portraitSetup_eq (dev : LcdDev) :
    portraitSetup dev =
      { dev with
        width := (portraitSize dev.id).1
        height := (portraitSize dev.id).2
        wramcmd := if dev.id = 0x5510 then 0x2C00 else 0x2C
        setxcmd := if dev.id = 0x5510 then 0x2A00
          else if dev.id = 0x1963 then 0x2B else 0x2A
        setycmd := if dev.id = 0x5510 then 0x2B00
          else if dev.id = 0x1963 then 0x2A else 0x2B } := by
  obtain ⟨width, height, id, dir, wramcmd, setxcmd, setycmd⟩ := dev
  by_cases nt35510 : id = 0x5510
  · subst nt35510
    rfl
  by_cases ssd1963 : id = 0x1963
  · subst ssd1963
    rfl
  by_cases ili9806 : id = 0x9806
  · subst ili9806
    rfl
  by_cases mid : id = 0x5310 ∨ id = 0x7796
  all_goals
    simp [portraitSetup, portraitSize, LcdDev.setSize, LcdDev.setCommands,
      nt35510, ssd1963, ili9806, mid]

theorem portraitSize_upright (id : UInt16) :
    (portraitSize id).1 < (portraitSize id).2 := by
  unfold portraitSize
  split_ifs <;> decide

theorem lcdDisplayDir_portrait (dev : LcdDev) :
    (lcdDisplayDir dev 0).1 = portraitSetup { dev with dir := 0 } := by
  have setup := portraitSetup_eq { dev with dir := 0 }
  have upright : (portraitSetup { dev with dir := 0 }).width <
      (portraitSetup { dev with dir := 0 }).height := by
    rw [setup]
    exact portraitSize_upright dev.id
  have portrait : (portraitSetup { dev with dir := 0 }).dir = 0 := by
    rw [setup]
  have scanned : lcdDisplayDir dev 0 =
      lcdScanDir (portraitSetup { dev with dir := 0 }) dftScanDir := rfl
  rw [scanned, lcdScanDir]
  exact scanDirSize_portrait portrait upright

theorem landscapeSetup_fields (dev : LcdDev) :
    (landscapeSetup dev).id = dev.id ∧ (landscapeSetup dev).dir = dev.dir ∧
      (landscapeSetup dev).wramcmd =
        (if dev.id = 0x5510 then 0x2C00 else 0x2C) ∧
      (landscapeSetup dev).setxcmd =
        (if dev.id = 0x5510 then 0x2A00 else 0x2A) ∧
      (landscapeSetup dev).setycmd =
        (if dev.id = 0x5510 then 0x2B00 else 0x2B) := by
  obtain ⟨width, height, id, dir, wramcmd, setxcmd, setycmd⟩ := dev
  by_cases nt35510 : id = 0x5510
  · subst nt35510
    exact ⟨rfl, rfl, rfl, rfl, rfl⟩
  by_cases wide : id = 0x1963 ∨ id = 0x9806
  all_goals
    by_cases mid : id = 0x5310 ∨ id = 0x7796
    all_goals
      simp [landscapeSetup, LcdDev.setSize, LcdDev.setCommands, nt35510, wide,
        mid]

theorem lcdDisplayDir_commandsSet (dev : LcdDev) (dir : UInt8) :
    (lcdDisplayDir dev dir).1.CommandsSet := by
  apply scanDirSize_commandsSet
  by_cases portrait : dir = 0
  · rw [if_pos portrait, portraitSetup_eq]
    constructor <;> simp [portrait]
  · rw [if_neg portrait]
    obtain ⟨sameId, sameDir, wramcmd, setxcmd, setycmd⟩ :=
      landscapeSetup_fields { dev with dir := dir }
    constructor
    · rw [sameId, wramcmd]
    · rw [sameId, sameDir, setxcmd]
      simp [portrait]
    · rw [sameId, sameDir, setycmd]
      simp [portrait]

/-- The driver's record once `lcd_init` has returned: portrait at the size of
the controller it found. -/
theorem lcdInit_fst (tables : RegInit) (bus : Bus Display) (dev : LcdDev)
    (panel : Display) :
    (lcdInit tables bus dev panel).1 =
      portraitSetup { dev with id := probedId bus panel, dir := 0 } :=
  lcdDisplayDir_portrait { dev with id := probedId bus panel }

/-- The bring-up ends with the portrait direction and a white screen. -/
theorem lcdInit_last (tables : RegInit) (bus : Bus Display) (dev : LcdDev)
    (panel : Display) :
    ∃ before, lcdInit tables bus dev panel =
      let directed := lcdDisplayDir { dev with id := probedId bus panel } 0
      (directed.1, bus.send (bus.send before directed.2)
        (lcdClear directed.1 white)) := by
  unfold lcdInit probedId
  dsimp only
  generalize probeId bus (bus.delay panel (.ms 50)) = found
  generalize lcdDisplayDir _ 0 = directed
  exact ⟨_, rfl⟩

end Ch32v307.Lcd
