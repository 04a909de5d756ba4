import Ch32v307.Data.Run
import Ch32v307.Lcd.Shapes

namespace Ch32v307.Lcd

open Data

/-! Clearing after a history of calls. `lcd_clear` gives the panel only the
start of the window, so what it reaches is decided by the call that last set
the end. -/

inductive PanelCall where
  | lcdDisplayDir (dir : UInt8)
  | lcdScanDir (dir : UInt8)
  | lcdSetWindow (sx sy width height : UInt16)
  | lcdDrawPoint (x y : UInt16) (color : UInt32)
  | lcdFill (sx sy ex ey : UInt16) (color : UInt32)
  | lcdColorFill (sx sy ex ey : UInt16) (color : Nat → UInt16)
  | lcdDrawLine (x1 y1 x2 y2 color : UInt16)
  | lcdShowChar (font : UInt8 → UInt8 → Nat → UInt8) (gBackColor : UInt32)
      (x y : UInt16) (chr size mode : UInt8) (color : UInt16)

/-- The record and the messages a call leaves; `none` when it does not
return. -/
def PanelCall.messages (dev : LcdDev) :
    PanelCall → Option (LcdDev × List BusMsg)
  | .lcdDisplayDir dir => some (Lcd.lcdDisplayDir dev dir)
  | .lcdScanDir dir => some (Lcd.lcdScanDir dev dir)
  | .lcdSetWindow sx sy width height =>
      some (dev, Lcd.lcdSetWindow dev sx sy width height)
  | .lcdDrawPoint x y color => some (dev, Lcd.lcdDrawPoint dev x y color)
  | .lcdFill sx sy ex ey color =>
      (Lcd.lcdFill dev sx sy ex ey color).map (dev, ·)
  | .lcdColorFill sx sy ex ey color =>
      some (dev, Lcd.lcdColorFill dev sx sy ex ey color)
  | .lcdDrawLine x1 y1 x2 y2 color =>
      (Lcd.lcdDrawLine dev x1 y1 x2 y2 color).map (dev, ·)
  | .lcdShowChar font gBackColor x y chr size mode color =>
      some (dev,
        Lcd.lcdShowChar dev font gBackColor x y chr size mode color)

structure Screen where
  dev : LcdDev
  panel : Panel

def Screen.perform (addressing : Addressing) (screen : Screen)
    (call : PanelCall) : Option Screen :=
  (call.messages screen.dev).map fun sent =>
    ⟨sent.1, screen.panel.send addressing sent.2⟩

def Screen.performAll (addressing : Addressing) (screen : Screen)
    (calls : List PanelCall) : Option Screen :=
  calls.foldlM (Screen.perform addressing) screen

/-- A panel on the bus, with the words it has in store for the loads. -/
def panelBus (addressing : Addressing) : Bus (Panel × List UInt16) where
  store state message := (state.1.store addressing message, state.2)
  load state := (state.2.headD 0, (state.1, state.2.tail))
  delay state _ := state

def screenAfterInit (tables : RegInit) (addressing : Addressing)
    (dev : LcdDev) (panel : Panel) (replies : List UInt16) : Screen :=
  let (dev, state) := lcdInit tables (panelBus addressing) dev (panel, replies)
  ⟨dev, state.1⟩

/-- Every pixel of the screen has the color. -/
def Screen.Shows (screen : Screen) (color : UInt16) : Prop :=
  ∀ x y, x < screen.dev.width.toNat → y < screen.dev.height.toNat →
    screen.panel.pixels x y = color

def Screen.clear (addressing : Addressing) (screen : Screen)
    (color : UInt16) : Screen :=
  ⟨screen.dev, screen.panel.send addressing (lcdClear screen.dev color)⟩

@[simp] theorem Screen.clear_dev (addressing : Addressing) (screen : Screen)
    (color : UInt16) : (screen.clear addressing color).dev = screen.dev := rfl

def Screen.Clears (addressing : Addressing) (screen : Screen)
    (color : UInt16) : Prop :=
  (screen.clear addressing color).Shows color

/-! The record and the end of the window, followed through the calls. -/

structure Tracked where
  dev : LcdDev
  endX : Nat
  endY : Nat

def Tracked.whole (dev : LcdDev) : Tracked :=
  ⟨dev, dev.width.toNat - 1, dev.height.toNat - 1⟩

def Tracked.next (tracked : Tracked) : PanelCall → Tracked
  | .lcdDisplayDir dir => .whole (Lcd.lcdDisplayDir tracked.dev dir).1
  | .lcdScanDir dir => .whole (Lcd.lcdScanDir tracked.dev dir).1
  | .lcdSetWindow sx sy width height =>
      { tracked with
        endX := sx.toNat + width.toNat - 1
        endY := sy.toNat + height.toNat - 1 }
  | _ => tracked

/-- A window a call may set lies on the screen. -/
def OnPanel (tracked : Tracked) : PanelCall → Prop
  | .lcdSetWindow sx sy width height =>
      (0 < width.toNat ∧ 0 < height.toNat) ∧
        sx.toNat + width.toNat ≤ tracked.dev.width.toNat ∧
        sy.toNat + height.toNat ≤ tracked.dev.height.toNat
  | _ => True

instance (tracked : Tracked) : ∀ call, Decidable (OnPanel tracked call)
  | .lcdSetWindow .. => inferInstanceAs (Decidable (_ ∧ _))
  | .lcdDisplayDir _ => inferInstanceAs (Decidable True)
  | .lcdScanDir _ => inferInstanceAs (Decidable True)
  | .lcdDrawPoint .. => inferInstanceAs (Decidable True)
  | .lcdFill .. => inferInstanceAs (Decidable True)
  | .lcdColorFill .. => inferInstanceAs (Decidable True)
  | .lcdDrawLine .. => inferInstanceAs (Decidable True)
  | .lcdShowChar .. => inferInstanceAs (Decidable True)

/-- The window ends at the last column and the last row. -/
def Tracked.AtCorner (tracked : Tracked) : Prop :=
  tracked.endX + 1 = tracked.dev.width.toNat ∧
    tracked.endY + 1 = tracked.dev.height.toNat

instance (tracked : Tracked) : Decidable tracked.AtCorner :=
  inferInstanceAs (Decidable (_ ∧ _))

/-! What stays true of the record. -/

structure LcdDev.Ready (dev : LcdDev) : Prop where
  commands : dev.CommandsSet
  notSsd1963 : dev.id ≠ 0x1963
  columns : 0 < dev.width.toNat
  rows : 0 < dev.height.toNat

/-- What is known of a screen and of the account of its calls. -/
structure Follows (addressing : Addressing) (tracked : Tracked)
    (screen : Screen) : Prop where
  dev : screen.dev = tracked.dev
  ready : tracked.dev.Ready
  matched : tracked.dev.addressing = addressing
  stops : screen.panel.stops = (tracked.endX, tracked.endY)
  columns : tracked.endX < tracked.dev.width.toNat
  rows : tracked.endY < tracked.dev.height.toNat

theorem addressing_eq {dev other : LcdDev} (same : other.id = dev.id)
    (notSsd1963 : dev.id ≠ 0x1963) : other.addressing = dev.addressing := by
  simp [LcdDev.addressing, same, notSsd1963]

theorem scanDirSize_cases (dev : LcdDev) (regval : UInt16) :
    scanDirSize dev regval = dev ∨ scanDirSize dev regval = dev.swapSides := by
  unfold scanDirSize
  split_ifs
  all_goals first
    | exact Or.inl rfl
    | exact Or.inr rfl

theorem scanDirSize_id (dev : LcdDev) (regval : UInt16) :
    (scanDirSize dev regval).id = dev.id := by
  rcases scanDirSize_cases dev regval with same | swapped
  · rw [same]
  · rw [swapped]
    rfl

theorem scanDirSize_size {dev : LcdDev}
    (size : 0 < dev.width.toNat ∧ 0 < dev.height.toNat) (regval : UInt16) :
    0 < (scanDirSize dev regval).width.toNat ∧
      0 < (scanDirSize dev regval).height.toNat := by
  rcases scanDirSize_cases dev regval with same | swapped
  · rw [same]
    exact size
  · rw [swapped]
    exact size.symm

theorem scanDirSize_ready {dev : LcdDev} (ready : dev.Ready)
    (regval : UInt16) : (scanDirSize dev regval).Ready := by
  obtain ⟨columns, rows⟩ := scanDirSize_size ⟨ready.columns, ready.rows⟩ regval
  refine ⟨scanDirSize_commandsSet regval ready.commands, ?_, columns, rows⟩
  rw [scanDirSize_id]
  exact ready.notSsd1963

theorem landscapeSetup_size (dev : LcdDev) :
    0 < (landscapeSetup dev).width.toNat ∧
      0 < (landscapeSetup dev).height.toNat := by
  unfold landscapeSetup
  dsimp only
  split_ifs <;> simp [LcdDev.setSize, LcdDev.setCommands]

theorem portraitSetup_size (dev : LcdDev) :
    0 < (portraitSetup dev).width.toNat ∧
      0 < (portraitSetup dev).height.toNat := by
  rw [portraitSetup_eq]
  dsimp only
  unfold portraitSize
  split_ifs <;> exact ⟨by decide, by decide⟩

/-- The record between the size and the scan direction of
`lcd_display_dir`. -/
def directed (dev : LcdDev) (dir : UInt8) : LcdDev :=
  if dir = 0 then portraitSetup { dev with dir := dir }
  else landscapeSetup { dev with dir := dir }

theorem lcdDisplayDir_eq_lcdScanDir (dev : LcdDev) (dir : UInt8) :
    lcdDisplayDir dev dir = lcdScanDir (directed dev dir) dftScanDir := rfl

theorem directed_id (dev : LcdDev) (dir : UInt8) :
    (directed dev dir).id = dev.id := by
  unfold directed
  split_ifs
  · rw [portraitSetup_eq]
  · exact (landscapeSetup_fields { dev with dir := dir }).1

theorem lcdDisplayDir_id (dev : LcdDev) (dir : UInt8) :
    (lcdDisplayDir dev dir).1.id = dev.id :=
  (scanDirSize_id ..).trans (directed_id dev dir)

theorem directed_size (dev : LcdDev) (dir : UInt8) :
    0 < (directed dev dir).width.toNat ∧
      0 < (directed dev dir).height.toNat := by
  unfold directed
  split_ifs
  · exact portraitSetup_size _
  · exact landscapeSetup_size _

theorem lcdDisplayDir_ready {dev : LcdDev} (notSsd1963 : dev.id ≠ 0x1963)
    (dir : UInt8) : (lcdDisplayDir dev dir).1.Ready := by
  have size : 0 < (lcdDisplayDir dev dir).1.width.toNat ∧
      0 < (lcdDisplayDir dev dir).1.height.toNat :=
    scanDirSize_size (directed_size dev dir) _
  refine ⟨lcdDisplayDir_commandsSet dev dir, ?_, size.1, size.2⟩
  rw [lcdDisplayDir_id]
  exact notSsd1963

/-! The calls that set the end of the window. -/

theorem windowMessages_stops {dev : LcdDev} (notSsd1963 : dev.id ≠ 0x1963)
    (panel : Panel) (columns rows : Span) :
    (panel.send dev.addressing (windowMessages dev columns rows)).stops =
      (columns.stop, rows.stop) := by
  have windowed := send_windowMessages notSsd1963 panel columns rows
  rw [Panel.stops, windowed.columns, windowed.rows]

theorem scanDirWindow_eq_windowMessages {dev : LcdDev} (ready : dev.Ready) :
    scanDirWindow dev = windowMessages dev
      ⟨0, 0, highByte (dev.width.toUInt32 - 1),
        lowByte (dev.width.toUInt32 - 1)⟩
      ⟨0, 0, highByte (dev.height.toUInt32 - 1),
        lowByte (dev.height.toUInt32 - 1)⟩ := by
  obtain ⟨⟨-, setxcmd, setycmd⟩, notSsd1963, -, -⟩ := ready
  by_cases nt35510 : dev.id = 0x5510
  · simp [scanDirWindow, windowMessages, nt35510, setxcmd, setycmd, lcdWrRegno,
      lcdWrData]
  · simp [scanDirWindow, windowMessages, nt35510, notSsd1963, setxcmd, setycmd,
      lcdWrRegno, lcdWrData]

theorem scanDirWindow_stops {dev : LcdDev} (ready : dev.Ready)
    (panel : Panel) :
    (panel.send dev.addressing (scanDirWindow dev)).stops =
      (dev.width.toNat - 1, dev.height.toNat - 1) := by
  rw [scanDirWindow_eq_windowMessages ready,
    windowMessages_stops ready.notSsd1963]
  simp only [Span.stop, addressValue_last ready.columns,
    addressValue_last ready.rows]

theorem lcdScanDir_stops {dev : LcdDev} {dir : UInt8}
    (ready : (lcdScanDir dev dir).1.Ready) (panel : Panel) :
    (panel.send (lcdScanDir dev dir).1.addressing
        (lcdScanDir dev dir).2).stops =
      ((lcdScanDir dev dir).1.width.toNat - 1,
        (lcdScanDir dev dir).1.height.toNat - 1) := by
  let dirreg : UInt16 := if dev.id = 0x5510 then 0x3600 else 0x36
  let regval := scanDirRegval dev (rotateScanDir dev dir)
  have messages : (lcdScanDir dev dir).2 =
      lcdWriteReg dirreg regval ++ scanDirWindow (lcdScanDir dev dir).1 := rfl
  rw [messages, Panel.send_append]
  exact scanDirWindow_stops ready _

theorem lcdSetWindow_stops {dev : LcdDev} (ready : dev.Ready) (panel : Panel)
    {sx sy width height : UInt16}
    (nonempty : 0 < width.toNat ∧ 0 < height.toNat)
    (columns : sx.toNat + width.toNat ≤ dev.width.toNat)
    (rows : sy.toNat + height.toNat ≤ dev.height.toNat) :
    (panel.send dev.addressing (lcdSetWindow dev sx sy width height)).stops =
      (sx.toNat + width.toNat - 1, sy.toNat + height.toNat - 1) := by
  rw [lcdSetWindow_eq_windowMessages ready.commands ready.notSsd1963,
    windowMessages_stops ready.notSsd1963]
  simp only [wordSpan_stop, Word.toNat_last nonempty.1 columns,
    Word.toNat_last nonempty.2 rows]

/-! One call. -/

section Step

variable {addressing : Addressing} {tracked : Tracked} {screen : Screen}

theorem follows_of_runs (follows : Follows addressing tracked screen)
    {messages : List BusMsg} (isRuns : IsRuns tracked.dev messages) :
    Follows addressing tracked
      ⟨tracked.dev, screen.panel.send addressing messages⟩ := by
  obtain ⟨-, ready, rfl, stops, columns, rows⟩ := follows
  refine ⟨rfl, ready, rfl, ?_, columns, rows⟩
  exact (isRuns_stops ready.commands ready.notSsd1963 _ isRuns).trans stops

theorem follows_whole {dev : LcdDev} (ready : dev.Ready) {panel : Panel}
    (stops : panel.stops = (dev.width.toNat - 1, dev.height.toNat - 1)) :
    Follows dev.addressing (.whole dev) ⟨dev, panel⟩ :=
  ⟨rfl, ready, rfl, stops, Nat.sub_one_lt_of_lt ready.columns,
    Nat.sub_one_lt_of_lt ready.rows⟩

theorem follows_lcdScanDir {dev : LcdDev} {dir : UInt8}
    (ready : (lcdScanDir dev dir).1.Ready)
    (matched : (lcdScanDir dev dir).1.addressing = addressing)
    (panel : Panel) :
    Follows addressing (.whole (lcdScanDir dev dir).1)
      ⟨(lcdScanDir dev dir).1,
        panel.send addressing (lcdScanDir dev dir).2⟩ := by
  subst matched
  exact follows_whole ready (lcdScanDir_stops ready panel)

theorem follows_lcdDisplayDir {dev : LcdDev} (notSsd1963 : dev.id ≠ 0x1963)
    {dir : UInt8}
    (matched : (lcdDisplayDir dev dir).1.addressing = addressing)
    (panel : Panel) :
    Follows addressing (.whole (lcdDisplayDir dev dir).1)
      ⟨(lcdDisplayDir dev dir).1,
        panel.send addressing (lcdDisplayDir dev dir).2⟩ := by
  have ready := lcdDisplayDir_ready notSsd1963 dir
  rw [lcdDisplayDir_eq_lcdScanDir] at ready matched ⊢
  exact follows_lcdScanDir ready matched panel

theorem perform_follows {call : PanelCall} {later : Screen}
    (follows : Follows addressing tracked screen)
    (onPanel : OnPanel tracked call)
    (performed : screen.perform addressing call = some later) :
    Follows addressing (tracked.next call) later := by
  obtain ⟨sent, messages, rfl⟩ := Option.map_eq_some_iff.mp performed
  obtain ⟨dev, ready, matched, stops, columns, rows⟩ := id follows
  rw [dev] at messages
  cases call with
  | lcdDisplayDir dir =>
      cases messages
      have same := lcdDisplayDir_id tracked.dev dir
      exact follows_lcdDisplayDir ready.notSsd1963
        ((addressing_eq same ready.notSsd1963).trans matched) _
  | lcdScanDir dir =>
      cases messages
      have same := scanDirSize_id tracked.dev
        (scanDirRegval tracked.dev (rotateScanDir tracked.dev dir))
      exact follows_lcdScanDir (scanDirSize_ready ready _)
        ((addressing_eq same ready.notSsd1963).trans matched) _
  | lcdSetWindow sx sy width height =>
      cases messages
      obtain ⟨nonempty, inColumns, inRows⟩ := onPanel
      subst matched
      refine ⟨rfl, ready, rfl, ?_, ?_, ?_⟩
      · exact lcdSetWindow_stops ready _ nonempty inColumns inRows
      · change sx.toNat + width.toNat - 1 < tracked.dev.width.toNat
        omega
      · change sy.toNat + height.toNat - 1 < tracked.dev.height.toNat
        omega
  | lcdDrawPoint x y color =>
      cases messages
      exact follows_of_runs follows (lcdDrawPoint_isRuns ..)
  | lcdFill sx sy ex ey color =>
      obtain ⟨filled, returned, rfl⟩ := Option.map_eq_some_iff.mp messages
      exact follows_of_runs follows (lcdFill_isRuns returned)
  | lcdColorFill sx sy ex ey color =>
      cases messages
      exact follows_of_runs follows (lcdColorFill_isRuns ..)
  | lcdDrawLine x1 y1 x2 y2 color =>
      obtain ⟨drawn, returned, rfl⟩ := Option.map_eq_some_iff.mp messages
      exact follows_of_runs follows (lcdDrawLine_isRuns returned)
  | lcdShowChar font gBackColor x y chr size mode color =>
      cases messages
      exact follows_of_runs follows (lcdShowChar_isRuns ..)

end Step

/-! A history of calls. -/

theorem performAll_follows {addressing : Addressing} {tracked : Tracked}
    {screen later : Screen} {calls : List PanelCall}
    (follows : Follows addressing tracked screen)
    (onPanel : Run.Guarded Tracked.next OnPanel tracked calls)
    (performed : screen.performAll addressing calls = some later) :
    Follows addressing (calls.foldl Tracked.next tracked) later := by
  induction calls generalizing tracked screen with
  | nil =>
      cases performed
      exact follows
  | cons call rest ih =>
      obtain ⟨here, others⟩ := onPanel
      obtain ⟨next, first, remaining⟩ := Option.bind_eq_some_iff.mp performed
      exact ih (perform_follows follows here first) others remaining

/-! Clearing. -/

theorem lcdClear_eq_paintRun (dev : LcdDev) (color : UInt16) :
    lcdClear dev color = paintRun dev 0 0
      (List.replicate (dev.width.toNat * dev.height.toNat) color) := by
  have total : (dev.width.toUInt32 * dev.height.toUInt32).toNat =
      dev.width.toNat * dev.height.toNat := by
    rw [UInt32.toNat_mul, UInt16.toNat_toUInt32, UInt16.toNat_toUInt32]
    refine Nat.mod_eq_of_lt ?_
    calc
      dev.width.toNat * dev.height.toNat < 65536 * 65536 :=
        Nat.mul_lt_mul'' dev.width.toNat_lt dev.height.toNat_lt
      _ = 2 ^ 32 := rfl
  rw [lcdClear, paintRun, total, List.map_replicate]

theorem lcdClear_isRuns (dev : LcdDev) (color : UInt16) :
    IsRuns dev (lcdClear dev color) := by
  let colors := List.replicate (dev.width.toNat * dev.height.toNat) color
  refine ⟨[⟨0, 0, colors⟩], ?_⟩
  rw [paintRuns_cons, paintRuns_nil, List.append_nil]
  exact lcdClear_eq_paintRun dev color

/-- Clearing streams one color through the window from the corner of the
screen to the end it was left with. -/
theorem lcdClear_pixels {addressing : Addressing} {tracked : Tracked}
    {screen : Screen} (follows : Follows addressing tracked screen)
    (color : UInt16) :
    (screen.clear addressing color).panel.pixels =
      ((screen.panel.raster.seek ⟨0, tracked.endX, 0, tracked.endY⟩).stream
        (List.replicate (tracked.dev.width.toNat * tracked.dev.height.toNat)
          color)).pixels := by
  obtain ⟨dev, ready, rfl, stops, -, -⟩ := follows
  rw [Screen.clear, dev, lcdClear_eq_paintRun,
    (paintRun_stream ready.commands ready.notSsd1963 ..).2, stops]
  rfl

/-- A pixel the window leaves out has the color already. -/
def Screen.ColoredBeyond (screen : Screen) (tracked : Tracked)
    (color : UInt16) : Prop :=
  ∀ x y, x < screen.dev.width.toNat → y < screen.dev.height.toNat →
    tracked.endX < x ∨ tracked.endY < y → screen.panel.pixels x y = color

/-- Clearing leaves what lies beyond the window. -/
theorem lcdClear_beyond {addressing : Addressing} {tracked : Tracked}
    {screen : Screen} (follows : Follows addressing tracked screen)
    (color : UInt16) {x y : Nat}
    (beyond : tracked.endX < x ∨ tracked.endY < y) :
    (screen.clear addressing color).panel.pixels x y =
      screen.panel.pixels x y := by
  rw [lcdClear_pixels follows]
  refine Raster.stream_outside ⟨Nat.zero_le _, Nat.zero_le _⟩
    (Raster.seek_at ..) _ fun inside => ?_
  rcases beyond with right | bottom
  · exact absurd inside.right (Nat.not_le_of_lt right)
  · exact absurd inside.bottom (Nat.not_le_of_lt bottom)

theorem clears_iff_coloredBeyond {addressing : Addressing}
    {tracked : Tracked} {screen : Screen}
    (follows : Follows addressing tracked screen) (color : UInt16) :
    screen.Clears addressing color ↔ screen.ColoredBeyond tracked color := by
  let window : Window := ⟨0, tracked.endX, 0, tracked.endY⟩
  have valid : window.Valid := ⟨Nat.zero_le _, Nat.zero_le _⟩
  have standing := Raster.seek_at screen.panel.raster window
  have room : window.width * window.height ≤
      tracked.dev.width.toNat * tracked.dev.height.toNat :=
    Nat.mul_le_mul (Nat.succ_le_of_lt follows.columns)
      (Nat.succ_le_of_lt follows.rows)
  constructor
  · intro cleared x y inColumns inRows beyond
    rw [← lcdClear_beyond follows color beyond]
    exact cleared x y inColumns inRows
  · intro colored x y inColumns inRows
    by_cases beyond : tracked.endX < x ∨ tracked.endY < y
    · rw [lcdClear_beyond follows color beyond]
      exact colored x y inColumns inRows beyond
    · have inside : window.Contains x y := by
        constructor
        · exact Nat.zero_le x
        · exact Nat.le_of_not_lt fun right => beyond (Or.inl right)
        · exact Nat.zero_le y
        · exact Nat.le_of_not_lt fun bottom => beyond (Or.inr bottom)
      rw [lcdClear_pixels follows]
      exact Raster.stream_replicate_covers valid standing room color inside

/-- Some color reveals a window that ends before the last column or row. -/
theorem clears_iff_atCorner {addressing : Addressing} {tracked : Tracked}
    {screen : Screen} (follows : Follows addressing tracked screen) :
    (∀ color, screen.Clears addressing color) ↔ tracked.AtCorner := by
  have columns := follows.columns
  have rows := follows.rows
  have sizes := congrArg (fun dev => (dev.width.toNat, dev.height.toNat))
    follows.dev
  obtain ⟨width, height⟩ := Prod.mk.inj sizes
  constructor
  · intro cleared
    let x := screen.dev.width.toNat - 1
    let y := screen.dev.height.toNat - 1
    have other : screen.panel.pixels x y ≠ screen.panel.pixels x y + 1 := by
      intro same
      exact absurd (UInt16.add_eq_left.mp same.symm) (by decide)
    have colored := (clears_iff_coloredBeyond follows
      (screen.panel.pixels x y + 1)).mp (cleared _)
    have reached : ¬ (tracked.endX < x ∨ tracked.endY < y) := fun beyond =>
      other (colored x y (by omega) (by omega) beyond)
    constructor
    · omega
    · omega
  · rintro ⟨lastColumn, lastRow⟩ color
    refine (clears_iff_coloredBeyond follows color).mpr ?_
    intro x y inColumns inRows beyond
    omega

theorem whole_atCorner {dev : LcdDev} (ready : dev.Ready) :
    (Tracked.whole dev).AtCorner :=
  ⟨Nat.sub_one_add_one_eq_of_pos ready.columns,
    Nat.sub_one_add_one_eq_of_pos ready.rows⟩

theorem clear_follows {addressing : Addressing} {tracked : Tracked}
    {screen : Screen} (follows : Follows addressing tracked screen)
    (color : UInt16) :
    Follows addressing tracked (screen.clear addressing color) := by
  have dev := follows.dev
  have cleared := follows_of_runs follows (lcdClear_isRuns tracked.dev color)
  rw [← dev] at cleared
  exact cleared

/-! After the bring-up. -/

theorem panelBus_send (addressing : Addressing)
    (state : Panel × List UInt16) (messages : List BusMsg) :
    (panelBus addressing).send state messages =
      (state.1.send addressing messages, state.2) := by
  induction messages generalizing state with
  | nil => rfl
  | cons message rest ih => exact ih _

theorem screenAfterInit_last (tables : RegInit) (addressing : Addressing)
    (dev : LcdDev) (panel : Panel) (replies : List UInt16) :
    ∃ (probed : LcdDev) (before : Panel),
      screenAfterInit tables addressing dev panel replies =
        Screen.clear addressing
          ⟨(lcdDisplayDir probed 0).1,
            before.send addressing (lcdDisplayDir probed 0).2⟩ white := by
  obtain ⟨before, ended⟩ :=
    lcdInit_last tables (panelBus addressing) dev (panel, replies)
  refine ⟨{ dev with id := probedId (panelBus addressing) (panel, replies) },
    before.1, ?_⟩
  rw [screenAfterInit, ended]
  simp only [panelBus_send, Screen.clear]

/-- The bring-up ends with clearing a screen whose window is whole. -/
theorem screenAfterInit_clear (tables : RegInit) {addressing : Addressing}
    {dev : LcdDev} {panel : Panel} {replies : List UInt16}
    (notSsd1963 :
      (screenAfterInit tables addressing dev panel replies).dev.id ≠ 0x1963)
    (matched :
      (screenAfterInit tables addressing dev panel replies).dev.addressing =
        addressing) :
    ∃ directed : Screen, Follows addressing (.whole directed.dev) directed ∧
      screenAfterInit tables addressing dev panel replies =
        directed.clear addressing white := by
  obtain ⟨probed, before, after⟩ :=
    screenAfterInit_last tables addressing dev panel replies
  rw [after, Screen.clear_dev] at notSsd1963 matched
  dsimp only at notSsd1963 matched
  rw [lcdDisplayDir_id] at notSsd1963
  exact ⟨⟨(lcdDisplayDir probed 0).1,
      before.send addressing (lcdDisplayDir probed 0).2⟩,
    follows_lcdDisplayDir notSsd1963 matched before, after⟩

theorem screenAfterInit_follows (tables : RegInit) {addressing : Addressing}
    {dev : LcdDev} {panel : Panel} {replies : List UInt16}
    (notSsd1963 :
      (screenAfterInit tables addressing dev panel replies).dev.id ≠ 0x1963)
    (matched :
      (screenAfterInit tables addressing dev panel replies).dev.addressing =
        addressing) :
    Follows addressing
      (.whole (screenAfterInit tables addressing dev panel replies).dev)
      (screenAfterInit tables addressing dev panel replies) := by
  obtain ⟨directed, follows, cleared⟩ :=
    screenAfterInit_clear tables notSsd1963 matched
  rw [cleared]
  exact clear_follows follows white

theorem screenAfterInit_white (tables : RegInit) {addressing : Addressing}
    {dev : LcdDev} {panel : Panel} {replies : List UInt16}
    (notSsd1963 :
      (screenAfterInit tables addressing dev panel replies).dev.id ≠ 0x1963)
    (matched :
      (screenAfterInit tables addressing dev panel replies).dev.addressing =
        addressing) :
    (screenAfterInit tables addressing dev panel replies).Shows white := by
  obtain ⟨directed, follows, cleared⟩ :=
    screenAfterInit_clear tables notSsd1963 matched
  rw [cleared]
  exact (clears_iff_atCorner follows).mpr (whole_atCorner follows.ready) white

/-- After `lcd_init` and a history of calls, clearing covers the screen in
every color precisely if the window the history leaves ends at the corner. -/
theorem lcdClear_total_iff (tables : RegInit) {addressing : Addressing}
    {dev : LcdDev} {panel : Panel} {replies : List UInt16}
    {calls : List PanelCall} {screen : Screen}
    (notSsd1963 :
      (screenAfterInit tables addressing dev panel replies).dev.id ≠ 0x1963)
    (matched :
      (screenAfterInit tables addressing dev panel replies).dev.addressing =
        addressing)
    (onPanel : Run.Guarded Tracked.next OnPanel
      (.whole (screenAfterInit tables addressing dev panel replies).dev) calls)
    (performed : (screenAfterInit tables addressing dev panel
      replies).performAll addressing calls = some screen) :
    ((∀ color, screen.Clears addressing color) ↔
        (calls.foldl Tracked.next (.whole (screenAfterInit tables addressing
          dev panel replies).dev)).AtCorner) ∧
      ∀ color, screen.Clears addressing color ↔
        screen.ColoredBeyond (calls.foldl Tracked.next (.whole
          (screenAfterInit tables addressing dev panel replies).dev)) color := by
  have initial := screenAfterInit_follows tables notSsd1963 matched
  have follows := performAll_follows initial onPanel performed
  exact ⟨clears_iff_atCorner follows, clears_iff_coloredBeyond follows⟩

/-! An ILI9341, brought up from a black panel. -/

def noTables : RegInit := ⟨[], [], [], [], [], [], []⟩

def ili9341Screen : Screen :=
  screenAfterInit noTables .parameters LcdDev.zero blackPanel
    [0, 0, 0x93, 0x41]

theorem ili9341Screen_dev : ili9341Screen.dev = ili9341Dev :=
  (lcdInit_fst noTables (panelBus .parameters) LcdDev.zero
    (blackPanel, [0, 0, 0x93, 0x41])).trans rfl

theorem ili9341Screen_addressing :
    ili9341Screen.dev.id ≠ 0x1963 ∧
      ili9341Screen.dev.addressing = .parameters := by
  rw [ili9341Screen_dev]
  exact ⟨by decide, rfl⟩

/-- A window, a scan direction and a point, then the clear. -/
def windowThenScanDir : List PanelCall :=
  [.lcdSetWindow 10 20 30 40, .lcdScanDir 0, .lcdDrawPoint 5 6 7]

theorem ili9341Screen_clears :
    ∃ screen, ili9341Screen.performAll .parameters windowThenScanDir =
        some screen ∧
      ∀ color, screen.Clears .parameters color := by
  obtain ⟨notSsd1963, matched⟩ := ili9341Screen_addressing
  have onPanel : Run.Guarded Tracked.next OnPanel
      (.whole ili9341Screen.dev) windowThenScanDir := by
    rw [ili9341Screen_dev]
    decide
  have corner : (windowThenScanDir.foldl Tracked.next
      (.whole ili9341Screen.dev)).AtCorner := by
    rw [ili9341Screen_dev]
    decide
  exact ⟨_, rfl, (lcdClear_total_iff noTables notSsd1963 matched onPanel
    rfl).1.mpr corner⟩

/-- The last pixel keeps the white of the bring-up through a clear to black. -/
theorem lcdSetWindow_stale :
    ∃ screen, ili9341Screen.performAll .parameters
        [.lcdSetWindow 10 20 30 40] = some screen ∧
      Run.Guarded Tracked.next OnPanel (.whole ili9341Screen.dev)
        [.lcdSetWindow 10 20 30 40] ∧
      (screen.clear .parameters 0).panel.pixels 239 319 = white ∧
      ¬ screen.Clears .parameters 0 := by
  obtain ⟨notSsd1963, matched⟩ := ili9341Screen_addressing
  have onPanel : Run.Guarded Tracked.next OnPanel (.whole ili9341Screen.dev)
      [.lcdSetWindow 10 20 30 40] := by
    rw [ili9341Screen_dev]
    decide
  have initial := screenAfterInit_follows noTables notSsd1963 matched
  have follows := performAll_follows initial onPanel rfl
  have last : 239 < ili9341Screen.dev.width.toNat ∧
      319 < ili9341Screen.dev.height.toNat := by
    rw [ili9341Screen_dev]
    decide
  have kept : (ili9341Screen.panel.send .parameters
      (lcdSetWindow ili9341Screen.dev 10 20 30 40)).pixels 239 319 = white := by
    have unpainted : ∀ panel : Panel, (panel.send .parameters
        (lcdSetWindow ili9341Dev 10 20 30 40)).pixels = panel.pixels :=
      fun _ => rfl
    rw [ili9341Screen_dev, unpainted]
    exact screenAfterInit_white noTables notSsd1963 matched 239 319 last.1 last.2
  have beyond : ([PanelCall.lcdSetWindow 10 20 30 40].foldl Tracked.next
      (.whole ili9341Screen.dev)).endX < 239 := by
    rw [ili9341Screen_dev]
    decide
  have stale := (lcdClear_beyond follows 0 (y := 319) (Or.inl beyond)).trans kept
  refine ⟨_, rfl, onPanel, stale, fun cleared => ?_⟩
  have black : (0 : UInt16) = white :=
    (cleared 239 319 last.1 last.2).symm.trans stale
  exact absurd black (by decide)

end Ch32v307.Lcd
