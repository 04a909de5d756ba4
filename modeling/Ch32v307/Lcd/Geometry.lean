import Ch32v307.Data.Run
import Ch32v307.Lcd.Device

namespace Ch32v307.Lcd

open Data

/-! The geometry copy over whole sessions with the device. -/

/-- The copies agree, pixel calls reach exactly the driver's screen, and
`RTGRAPHIC_CTRL_GET_INFO` reports the bounds they enforce. -/
structure LcdState.Coherent (lcd : LcdState Display) : Prop
    extends lcd.GeometryAgrees where
  draws : ∀ pos buffer size,
    lcd.DrawsAt pos buffer size (positionX pos) (positionY pos) ↔
      lcd.OnScreen (positionX pos) (positionY pos)
  samples : ∀ replies pos size,
    lcd.SamplesAt replies pos size (positionX pos) (positionY pos) ↔
      lcd.OnScreen (positionX pos) (positionY pos)
  reported : ∀ args, ∃ info,
    (rtLcdControl recorderBus (lcd.onRecorder []) rtgraphicCtrlGetInfo args).1 =
      (rtEok, .info info) ∧
    ∀ pos,
      (∀ buffer size,
        lcd.DrawsAt pos buffer size (positionX pos) (positionY pos) ↔
          positionX pos < info.width ∧ positionY pos < info.height) ∧
      ∀ replies size,
        lcd.SamplesAt replies pos size (positionX pos) (positionY pos) ↔
          positionX pos < info.width ∧ positionY pos < info.height

theorem coherent_iff (lcd : LcdState Display) :
    lcd.Coherent ↔ lcd.GeometryAgrees := by
  refine ⟨fun coherent => coherent.toGeometryAgrees, fun agrees => ?_⟩
  have draws := drawsAt_iff agrees.width agrees.height
  have samples := samplesAt_iff agrees.width agrees.height
  refine ⟨agrees, draws, samples, fun args => ?_⟩
  exact ⟨_, rfl, fun pos => ⟨draws pos, fun replies => samples replies pos⟩⟩

structure InitMatches (bus : Bus Display) (lcd : LcdState Display) : Prop where
  width : lcd.lcdDev.width = (portraitSize (probedId bus lcd.panel)).1
  height : lcd.lcdDev.height = (portraitSize (probedId bus lcd.panel)).2
  dir : lcd.lcdDev.dir = 0

/-- Every call that runs `lcd_init` finds `lcd_dev` as it will leave
`lcddev`. -/
def InitGuard (bus : Bus Display) (session : Session Display) (call : Call) :
    Prop :=
  call.runsLcdInit = true → InitMatches bus session.lcd

variable (tables : RegInit) (bus : Bus Display)

theorem lcdInit_agrees_iff (lcd : LcdState Display) :
    (Call.lcdInit.perform tables bus lcd).GeometryAgrees ↔
      InitMatches bus lcd := by
  have lcddev : (Call.lcdInit.perform tables bus lcd).lcddev =
      portraitSetup
        { lcd.lcddev with id := probedId bus lcd.panel, dir := 0 } :=
    lcdInit_fst tables bus lcd.lcddev lcd.panel
  rw [portraitSetup_eq] at lcddev
  constructor
  · rintro ⟨width, height, dir⟩
    rw [lcddev] at width height dir
    exact ⟨width, height, dir⟩
  · rintro ⟨width, height, dir⟩
    constructor
    · rw [lcddev]
      exact width
    · rw [lcddev]
      exact height
    · rw [lcddev]
      exact dir

theorem rtLcdControl_agrees {lcd : LcdState Display}
    (agrees : lcd.GeometryAgrees) (cmd : Int32) (args : UInt8) :
    (rtLcdControl bus lcd cmd args).2.GeometryAgrees := by
  by_cases setDirection : cmd = rtgraphicCtrlSetDirection
  · subst setDirection
    exact ⟨rfl, rfl, rfl⟩
  · rw [rtLcdControl, if_neg setDirection]
    split_ifs
    all_goals exact ⟨agrees.width, agrees.height, agrees.dir⟩

theorem perform_transfer_agrees {lcd : LcdState Display}
    (agrees : lcd.GeometryAgrees) (pos : Int32) (buffer size : UInt32) :
    (rtLcdRead bus lcd pos size).2.GeometryAgrees ∧
      (rtLcdWrite bus lcd pos buffer size).2.GeometryAgrees := by
  unfold rtLcdRead rtLcdWrite
  dsimp only
  split_ifs
  · exact ⟨agrees, agrees⟩
  · exact ⟨⟨agrees.width, agrees.height, agrees.dir⟩,
      ⟨agrees.width, agrees.height, agrees.dir⟩⟩

theorem perform_agrees_iff {lcd : LcdState Display}
    (agrees : lcd.GeometryAgrees) (call : Call) :
    (call.perform tables bus lcd).GeometryAgrees ↔
      (call.runsLcdInit = true → InitMatches bus lcd) := by
  cases call with
  | rtLcdInit =>
      rw [show (Call.rtLcdInit.runsLcdInit = true) = True from
        propext ⟨fun _ => trivial, fun _ => rfl⟩, true_imp_iff]
      exact lcdInit_agrees_iff tables bus lcd
  | lcdInit =>
      rw [show (Call.lcdInit.runsLcdInit = true) = True from
        propext ⟨fun _ => trivial, fun _ => rfl⟩, true_imp_iff]
      exact lcdInit_agrees_iff tables bus lcd
  | rtLcdOpen =>
      exact iff_of_true ⟨agrees.width, agrees.height, agrees.dir⟩ nofun
  | rtLcdClose =>
      exact iff_of_true ⟨agrees.width, agrees.height, agrees.dir⟩ nofun
  | rtLcdControl cmd args =>
      exact iff_of_true (rtLcdControl_agrees bus agrees cmd args) nofun
  | rtLcdRead pos size =>
      exact iff_of_true (perform_transfer_agrees bus agrees pos 0 size).1 nofun
  | rtLcdWrite pos buffer size =>
      exact iff_of_true (perform_transfer_agrees bus agrees pos buffer size).2
        nofun

theorem boot_agrees (panel : Display) :
    (Session.boot panel).lcd.GeometryAgrees := ⟨rfl, rfl, rfl⟩

theorem uninitialized_agrees (panel : Display) (calls : List Call) :
    ∀ session ∈ Run.reached (Session.step tables bus) (Session.boot panel)
        calls,
      session.initialized = false → session.lcd.GeometryAgrees := by
  refine Run.reached_invariant (fun session call agrees later => ?_)
    (fun _ => boot_agrees panel) calls
  obtain ⟨before, notInit⟩ := Bool.or_eq_false_iff.mp later
  refine (perform_agrees_iff tables bus (agrees before) call).mpr fun runs => ?_
  rw [notInit] at runs
  cases runs

/-- The device stays coherent once initialized exactly in the sessions where
each run of `lcd_init` finds the geometry it will set already copied. -/
theorem session_coherent_iff (panel : Display) (calls : List Call) :
    (∀ session ∈ Run.reached (Session.step tables bus) (Session.boot panel)
        calls,
      session.initialized = true → session.lcd.Coherent) ↔
    Run.Guarded (Session.step tables bus) (InitGuard bus)
      (Session.boot panel) calls := by
  have exactGuard : ∀ (session : Session Display) call,
      session.lcd.GeometryAgrees →
      ((session.step tables bus call).lcd.GeometryAgrees ↔
        InitGuard bus session call) :=
    fun session call agrees => perform_agrees_iff tables bus agrees call
  rw [← Run.reached_forall_iff_guarded exactGuard (boot_agrees panel) calls]
  refine forall₂_congr fun session member => ?_
  rw [coherent_iff]
  refine ⟨fun afterInit => ?_, fun agrees _ => agrees⟩
  cases initialized : session.initialized with
  | true => exact afterInit initialized
  | false =>
      exact uninitialized_agrees tables bus panel calls session member
        initialized

/-- The first words an ILI9341 answers to command 0xD3. -/
def ili9341Replies : List UInt16 := [0, 0, 0x93, 0x41]

/-- `main` initializes the panel after the device has been registered: whatever
the register tables hold, the device still believes the screen to be empty. -/
theorem main_lcdInit_incoherent :
    ¬ ∃ tables : RegInit, ∀ session ∈ Run.reached
        (Session.step tables recorderBus)
        (Session.boot (Recorder.start ili9341Replies)) [.lcdInit],
      session.initialized = true → session.lcd.Coherent := by
  rintro ⟨tables, coherent⟩
  have agrees : (Call.lcdInit.perform tables recorderBus
      (Session.boot (Recorder.start ili9341Replies)).lcd).GeometryAgrees :=
    (coherent _ List.mem_cons_self rfl).toGeometryAgrees
  have found : probedId recorderBus (Recorder.start ili9341Replies) = 0x9341 :=
    by decide
  have width : (0 : UInt16) = (portraitSize (probedId recorderBus
      (Recorder.start ili9341Replies))).1 :=
    ((lcdInit_agrees_iff _ _ _).mp agrees).width
  rw [found] at width
  exact absurd width (by decide)

end Ch32v307.Lcd
