import Ch32v307.Data.Run
import Ch32v307.Ws2812.Frame
import Ch32v307.Ws2812.Hsv
import Mathlib.Tactic.Positivity

namespace Ch32v307.Ws2812

open Data

/-! The rainbow thread and the commands that steer it from other threads. A
step of the thread makes one access to `rainbow_ctrl` or one call. -/

structure RainbowCtrl where
  hue : ℚ
  hueStep : ℚ
  delayMs : UInt16
  brightness : UInt8
  mode : UInt8
  running : Bool

inductive Pc where
  | checkRunning
  | idle
  | setBrightness
  | color (i : Nat)
  | update
  | advanceHue
  | delay
  deriving DecidableEq, Repr

structure RainbowThread where
  pc : Pc
  hue : ℚ
  hsv : Hsv
  ledData : Nat → UInt8

structure Rainbow where
  ctrl : RainbowCtrl
  thread : RainbowThread

/-- The state `rainbow_init` leaves, its thread at the head of the loop. -/
def rainbowInit : Rainbow where
  ctrl :=
    { hue := 0, hueStep := 5, delayMs := 25, brightness := 30, mode := 1,
      running := false }
  thread :=
    { pc := .checkRunning, hue := 0, hsv := ⟨0, 1, 0⟩, ledData := fun _ => 0 }

/-! The commands. -/

inductive Command where
  | start (speedLevel : UInt8)
  | stop
  | setSpeed (speedLevel : UInt8)
  | setBrightness (brightness : UInt8)
  deriving DecidableEq, Repr

def clampSpeed (speedLevel : UInt8) : UInt8 :=
  let speedLevel := if speedLevel < 1 then 1 else speedLevel
  if speedLevel > 5 then 5 else speedLevel

def rainbowSetSpeed (speedLevel : UInt8) (ctrl : RainbowCtrl) : RainbowCtrl :=
  let speedLevel := clampSpeed speedLevel
  { ctrl with
    hueStep := 2 * speedLevel.toNat
    delayMs := 50 / speedLevel.toUInt16 }

def rainbowStart (speedLevel : UInt8) (ctrl : RainbowCtrl) : RainbowCtrl :=
  let speedLevel := clampSpeed speedLevel
  { ctrl with
    hueStep := 2 * speedLevel.toNat
    delayMs := 50 / speedLevel.toUInt16
    running := true }

def rainbowStop (ctrl : RainbowCtrl) : RainbowCtrl :=
  { ctrl with running := false }

def rainbowSetBrightness (brightness : UInt8) (ctrl : RainbowCtrl) :
    RainbowCtrl :=
  { ctrl with brightness := if brightness > 100 then 100 else brightness }

def Command.apply : Command → RainbowCtrl → RainbowCtrl
  | .start speedLevel => rainbowStart speedLevel
  | .stop => rainbowStop
  | .setSpeed speedLevel => rainbowSetSpeed speedLevel
  | .setBrightness brightness => rainbowSetBrightness brightness

/-! The loop. -/

def colorOrUpdate (i : Nat) : Pc :=
  if i < ws2812LedNum then .color i else .update

def ledHsv (thread : RainbowThread) (i : Nat) : Hsv :=
  { thread.hsv with
    h := fmod (thread.hue + i * (360 / ws2812LedNum)) 360 }

def setLed (ledData : Nat → UInt8) (i : Nat) (rgb : UInt8 × UInt8 × UInt8) :
    Nat → UInt8 :=
  let ledData := Function.update ledData (i * 3 + 0) rgb.1
  let ledData := Function.update ledData (i * 3 + 1) rgb.2.1
  Function.update ledData (i * 3 + 2) rgb.2.2

def nextHue (hue hueStep : ℚ) : ℚ :=
  let hue := hue + hueStep
  if hue ≥ 360 then hue - 360 else hue

def rainbowThreadStep (ctrl : RainbowCtrl) (thread : RainbowThread) :
    RainbowThread :=
  match thread.pc with
  | .checkRunning =>
      { thread with pc := if ¬ ctrl.running then .idle else .setBrightness }
  | .idle => { thread with pc := .checkRunning }
  | .setBrightness =>
      { thread with
        hsv := { thread.hsv with v := ctrl.brightness.toNat / 100 }
        pc := colorOrUpdate 0 }
  | .color i =>
      let hsv := ledHsv thread i
      { thread with
        hsv := hsv
        ledData := setLed thread.ledData i (ws2812HsvToRgb hsv)
        pc := colorOrUpdate (i + 1) }
  | .update => { thread with pc := .advanceHue }
  | .advanceHue =>
      { thread with hue := nextHue thread.hue ctrl.hueStep, pc := .delay }
  | .delay => { thread with pc := .checkRunning }

inductive Event where
  | command (command : Command)
  | check (running : Bool) (hue : ℚ)
  | readBrightness (brightness : UInt8)
  | hsvToRgb (hsv : Hsv)
  | frame (ledData : Nat → UInt8)
  | readHueStep (hueStep : ℚ)
  | mdelay (ms : UInt16)

def rainbowThreadEvent (ctrl : RainbowCtrl) (thread : RainbowThread) : Event :=
  match thread.pc with
  | .checkRunning => .check ctrl.running thread.hue
  | .idle => .mdelay 100
  | .setBrightness => .readBrightness ctrl.brightness
  | .color i => .hsvToRgb (ledHsv thread i)
  | .update => .frame thread.ledData
  | .advanceHue => .readHueStep ctrl.hueStep
  | .delay => .mdelay ctrl.delayMs

/-- A command arrives, or the thread makes a step. -/
inductive Action where
  | command (command : Command)
  | thread
  deriving DecidableEq, Repr

def Rainbow.step (rainbow : Rainbow) : Action → Rainbow
  | .command command =>
      { rainbow with ctrl := command.apply rainbow.ctrl }
  | .thread =>
      { rainbow with thread := rainbowThreadStep rainbow.ctrl rainbow.thread }

def Rainbow.event (rainbow : Rainbow) : Action → Event
  | .command command => .command command
  | .thread => rainbowThreadEvent rainbow.ctrl rainbow.thread

def rainbowEvents (actions : List Action) : List Event :=
  Run.outputs Rainbow.step Rainbow.event rainbowInit actions

/-! Bounds, kept by every command and by every step of the loop. -/

structure RainbowCtrl.Bounded (ctrl : RainbowCtrl) : Prop where
  hue : 0 ≤ ctrl.hue ∧ ctrl.hue < 360
  hueStep : 0 < ctrl.hueStep ∧ ctrl.hueStep ≤ 10
  delayMs : 10 ≤ ctrl.delayMs ∧ ctrl.delayMs ≤ 50
  brightness : ctrl.brightness ≤ 100

structure RainbowThread.Bounded (thread : RainbowThread) : Prop where
  hue : 0 ≤ thread.hue ∧ thread.hue < 360
  saturation : thread.hsv.s = 1
  value : 0 ≤ thread.hsv.v ∧ thread.hsv.v ≤ 1

structure Rainbow.Bounded (rainbow : Rainbow) : Prop where
  ctrl : rainbow.ctrl.Bounded
  thread : rainbow.thread.Bounded

theorem clampSpeed_bounds (speedLevel : UInt8) :
    1 ≤ (clampSpeed speedLevel).toNat ∧ (clampSpeed speedLevel).toNat ≤ 5 := by
  unfold clampSpeed
  dsimp only
  split_ifs with slow fast fast
  · exact ⟨by decide, by decide⟩
  · exact ⟨by decide, by decide⟩
  · exact ⟨by decide, by decide⟩
  · rw [UInt8.lt_iff_toNat_lt] at slow
    rw [gt_iff_lt, UInt8.lt_iff_toNat_lt] at fast
    exact ⟨Nat.not_lt.mp slow, Nat.not_lt.mp fast⟩

theorem speed_bounded {ctrl : RainbowCtrl} (bounded : ctrl.Bounded)
    (speedLevel : UInt8) (running : Bool) :
    RainbowCtrl.Bounded
      { ctrl with
        hueStep := 2 * (clampSpeed speedLevel).toNat
        delayMs := 50 / (clampSpeed speedLevel).toUInt16
        running := running } := by
  obtain ⟨slowest, fastest⟩ := clampSpeed_bounds speedLevel
  have slowestRat : (1 : ℚ) ≤ (clampSpeed speedLevel).toNat := by
    exact_mod_cast slowest
  have fastestRat : ((clampSpeed speedLevel).toNat : ℚ) ≤ 5 := by
    exact_mod_cast fastest
  have delay : (50 / (clampSpeed speedLevel).toUInt16).toNat =
      50 / (clampSpeed speedLevel).toNat := by
    rw [UInt16.toNat_div, UInt8.toNat_toUInt16]
    rfl
  refine ⟨bounded.hue, ⟨?_, ?_⟩, ?_, bounded.brightness⟩
  · dsimp only
    linarith
  · dsimp only
    linarith
  · rw [UInt16.le_iff_toNat_le, UInt16.le_iff_toNat_le, delay]
    generalize (clampSpeed speedLevel).toNat = level at slowest fastest
    interval_cases level <;> decide

theorem apply_bounded {ctrl : RainbowCtrl} (bounded : ctrl.Bounded)
    (command : Command) : (command.apply ctrl).Bounded := by
  cases command with
  | start speedLevel => exact speed_bounded bounded speedLevel true
  | stop =>
      exact ⟨bounded.hue, bounded.hueStep, bounded.delayMs, bounded.brightness⟩
  | setSpeed speedLevel => exact speed_bounded bounded speedLevel ctrl.running
  | setBrightness brightness =>
      refine ⟨bounded.hue, bounded.hueStep, bounded.delayMs, ?_⟩
      change (if brightness > 100 then 100 else brightness) ≤ 100
      split_ifs with bright
      · decide
      · exact UInt8.not_lt.mp bright

/-- The conditional subtraction is the remainder, since no step is as large as
the whole circle. -/
theorem nextHue_eq_fmod {hue hueStep : ℚ} (onCircle : 0 ≤ hue ∧ hue < 360)
    (step : 0 < hueStep ∧ hueStep ≤ 10) :
    nextHue hue hueStep = fmod (hue + hueStep) 360 := by
  rw [fmod_eq_sub (by linarith) (by norm_num) (by linarith)]
  rfl

theorem ledHsv_hue {thread : RainbowThread} (bounded : thread.Bounded)
    (i : Nat) : 0 ≤ (ledHsv thread i).h ∧ (ledHsv thread i).h < 360 := by
  have place : (0 : ℚ) ≤ i * (360 / ws2812LedNum) := by positivity
  have nonneg : 0 ≤ thread.hue + i * (360 / ws2812LedNum) :=
    add_nonneg bounded.hue.1 place
  exact ⟨fmod_nonneg nonneg (by norm_num), fmod_lt nonneg (by norm_num)⟩

theorem threadStep_bounded {ctrl : RainbowCtrl} {thread : RainbowThread}
    (settings : ctrl.Bounded) (bounded : thread.Bounded) :
    (rainbowThreadStep ctrl thread).Bounded := by
  obtain ⟨hue, saturation, value⟩ := bounded
  unfold rainbowThreadStep
  cases thread.pc with
  | checkRunning => exact ⟨hue, saturation, value⟩
  | idle => exact ⟨hue, saturation, value⟩
  | setBrightness =>
      have bright : (ctrl.brightness.toNat : ℚ) ≤ 100 := by
        exact_mod_cast UInt8.le_iff_toNat_le.mp settings.brightness
      refine ⟨hue, saturation, ?_, ?_⟩
      · dsimp only
        positivity
      · dsimp only
        linarith
  | color i => exact ⟨hue, saturation, value⟩
  | update => exact ⟨hue, saturation, value⟩
  | advanceHue =>
      refine ⟨?_, saturation, value⟩
      have nonneg : 0 ≤ thread.hue + ctrl.hueStep :=
        add_nonneg hue.1 settings.hueStep.1.le
      dsimp only
      rw [nextHue_eq_fmod hue settings.hueStep]
      exact ⟨fmod_nonneg nonneg (by norm_num), fmod_lt nonneg (by norm_num)⟩
  | delay => exact ⟨hue, saturation, value⟩

theorem rainbowInit_bounded : rainbowInit.Bounded := by
  refine ⟨⟨?_, ?_, ⟨by decide, by decide⟩, by decide⟩, ⟨?_, rfl, ?_⟩⟩
  all_goals norm_num [rainbowInit]

theorem step_bounded {rainbow : Rainbow} (bounded : rainbow.Bounded)
    (action : Action) : (rainbow.step action).Bounded := by
  cases action with
  | command command =>
      exact ⟨apply_bounded bounded.ctrl command, bounded.thread⟩
  | thread => exact ⟨bounded.ctrl, threadStep_bounded bounded.ctrl bounded.thread⟩

theorem run_bounded (actions : List Action) :
    (actions.foldl Rainbow.step rainbowInit).Bounded := by
  apply List.foldlRecOn
  · exact rainbowInit_bounded
  · intro rainbow bounded action _
    exact step_bounded bounded action

/-! What a run may be asked about. -/

def Event.isCheck : Event → Bool
  | .check _ _ => true
  | _ => false

def Event.isFrame : Event → Bool
  | .frame _ => true
  | _ => false

def Event.isStart : Event → Bool
  | .command (.start _) => true
  | _ => false

def Event.hueStep? : Event → Option ℚ
  | .readHueStep hueStep => some hueStep
  | _ => none

/-- Every color asked for is in range, and so are its channels before they are
converted to bytes. -/
def Event.InRange : Event → Prop
  | .hsvToRgb hsv =>
      (0 ≤ hsv.h ∧ hsv.h < 360) ∧ hsv.s = 1 ∧ (0 ≤ hsv.v ∧ hsv.v ≤ 1) ∧
        PartOf ((hsvChannels hsv).1 * 255) 255 ∧
        PartOf ((hsvChannels hsv).2.1 * 255) 255 ∧
        PartOf ((hsvChannels hsv).2.2 * 255) 255
  | _ => True

theorem partOf_byte {channel value : ℚ} (part : PartOf channel value)
    (unit : value ≤ 1) : PartOf (channel * 255) 255 := by
  obtain ⟨lower, upper⟩ := part
  constructor
  · positivity
  · linarith

theorem event_inRange {rainbow : Rainbow} (bounded : rainbow.Bounded)
    (action : Action) : (rainbow.event action).InRange := by
  cases action with
  | command command => trivial
  | thread =>
      unfold Rainbow.event rainbowThreadEvent
      cases rainbow.thread.pc with
      | color i =>
          obtain ⟨_, saturation, value⟩ := bounded.thread
          have hue := ledHsv_hue bounded.thread i
          have strong : (ledHsv rainbow.thread i).s = 1 := saturation
          have bright : 0 ≤ (ledHsv rainbow.thread i).v ∧
              (ledHsv rainbow.thread i).v ≤ 1 := value
          obtain ⟨red, green, blue⟩ :=
            hsvChannels_partOf hue.1 strong.le bright.1
          exact ⟨hue, strong, bright, partOf_byte red bright.2,
            partOf_byte green bright.2, partOf_byte blue bright.2⟩
      | checkRunning => trivial
      | idle => trivial
      | setBrightness => trivial
      | update => trivial
      | advanceHue => trivial
      | delay => trivial

theorem event_check {rainbow : Rainbow} {action : Action} {running : Bool}
    {hue : ℚ} (emitted : rainbow.event action = .check running hue) :
    action = .thread ∧ rainbow.thread.pc = .checkRunning ∧
      rainbow.ctrl.running = running ∧ rainbow.thread.hue = hue := by
  cases action with
  | command command => cases emitted
  | thread =>
      unfold Rainbow.event rainbowThreadEvent at emitted
      dsimp only at emitted
      cases place : rainbow.thread.pc
      all_goals rw [place] at emitted
      case checkRunning =>
        obtain ⟨rfl, rfl⟩ := Event.check.inj emitted
        exact ⟨rfl, rfl, rfl, rfl⟩
      all_goals cases emitted

theorem event_command {rainbow : Rainbow} {action : Action} {command : Command}
    (emitted : rainbow.event action = .command command) :
    action = .command command := by
  cases action with
  | command other =>
      cases emitted
      rfl
  | thread =>
      unfold Rainbow.event rainbowThreadEvent at emitted
      dsimp only at emitted
      split at emitted <;> cases emitted

/-! One iteration, from its reading of `running` to the next. -/

/-- What an iteration that began at `start` has done when its thread stands at
`pc` with the hue `hue`. -/
def Progress (start : ℚ) (pc : Pc) (hue : ℚ) (done : List Event) : Prop :=
  match pc with
  | .idle => False
  | .setBrightness | .color _ | .update =>
      done.countP Event.isFrame = 0 ∧
        done.filterMap Event.hueStep? = [] ∧ hue = start
  | .advanceHue =>
      done.countP Event.isFrame = 1 ∧
        done.filterMap Event.hueStep? = [] ∧ hue = start
  | .delay | .checkRunning =>
      done.countP Event.isFrame = 1 ∧
        ∃ hueStep, done.filterMap Event.hueStep? = [hueStep] ∧
          hue = fmod (start + hueStep) 360

theorem progress_silent {start hue : ℚ} {pc : Pc} {done : List Event}
    {event : Event} (progress : Progress start pc hue done)
    (noFrame : event.isFrame = false) (noStep : event.hueStep? = none) :
    Progress start pc hue (done ++ [event]) := by
  have frames : (done ++ [event]).countP Event.isFrame =
      done.countP Event.isFrame := by simp [noFrame]
  have steps : (done ++ [event]).filterMap Event.hueStep? =
      done.filterMap Event.hueStep? := by simp [noStep]
  unfold Progress at progress ⊢
  rw [frames, steps]
  exact progress

theorem progress_colorOrUpdate {start hue : ℚ} {done : List Event} (i : Nat)
    (progress : Progress start .update hue done) :
    Progress start (colorOrUpdate i) hue done := by
  unfold colorOrUpdate
  split
  · exact progress
  · exact progress

theorem progress_step {start : ℚ} {rainbow : Rainbow} {done : List Event}
    {action : Action} (bounded : rainbow.Bounded)
    (progress : Progress start rainbow.thread.pc rainbow.thread.hue done)
    (noCheck : (rainbow.event action).isCheck = false) :
    Progress start (rainbow.step action).thread.pc
      (rainbow.step action).thread.hue (done ++ [rainbow.event action]) := by
  cases action with
  | command command => exact progress_silent progress rfl rfl
  | thread =>
      obtain ⟨ctrl, pc, hue, hsv, ledData⟩ := rainbow
      cases pc with
      | checkRunning => cases noCheck
      | idle => exact progress.elim
      | setBrightness =>
          have painting : Progress start .update hue done := progress
          apply progress_colorOrUpdate 0
          exact progress_silent painting rfl rfl
      | color i =>
          have painting : Progress start .update hue done := progress
          apply progress_colorOrUpdate (i + 1)
          exact progress_silent painting rfl rfl
      | update =>
          obtain ⟨frames, steps, same⟩ := progress
          refine ⟨?_, ?_, same⟩
          · rw [List.countP_append, frames]
            rfl
          · rw [List.filterMap_append, steps]
            rfl
      | advanceHue =>
          obtain ⟨frames, steps, same⟩ := progress
          refine ⟨?_, ctrl.hueStep, ?_, ?_⟩
          · rw [List.countP_append, frames]
            rfl
          · rw [List.filterMap_append, steps]
            rfl
          · rw [← same]
            exact nextHue_eq_fmod bounded.thread.hue bounded.ctrl.hueStep
      | delay => exact progress_silent progress rfl rfl

theorem iteration_sound {actions : List Action}
    {before middle after : List Event} {hue hue' : ℚ} {running' : Bool}
    (split : rainbowEvents actions =
      before ++ .check true hue :: (middle ++ .check running' hue' :: after))
    (inside : ∀ event ∈ middle, event.isCheck = false) :
    middle.countP Event.isFrame = 1 ∧
      ∃ hueStep, middle.filterMap Event.hueStep? = [hueStep] ∧
        hue' = fmod (hue + hueStep) 360 := by
  obtain ⟨early, late, _, _, fromCheck⟩ := Run.outputs_split split
  have bounded := run_bounded early
  obtain ⟨first, rest, checked, afterCheck⟩ := Run.outputs_cons fromCheck
  obtain ⟨rfl, place, running, same⟩ := event_check checked
  obtain ⟨during, last, _, performed, fromNext⟩ :=
    Run.outputs_split afterCheck
  obtain ⟨next, _, nextChecked, _⟩ := Run.outputs_cons fromNext
  obtain ⟨_, nextPlace, _, nextHue⟩ := event_check nextChecked
  generalize early.foldl Rainbow.step rainbowInit = rainbow at *
  have begun : Progress hue (rainbow.step .thread).thread.pc
      (rainbow.step .thread).thread.hue [] := by
    simp [Rainbow.step, rainbowThreadStep, place, running, same, Progress]
  have ended := Run.outputs_invariant
    (fun state done => state.Bounded ∧
      Progress hue state.thread.pc state.thread.hue done)
    (fun event => event.isCheck = false)
    (fun _ _ action ⟨kept, progress⟩ noCheck =>
      ⟨step_bounded kept action, progress_step kept progress noCheck⟩)
    ⟨step_bounded bounded .thread, begun⟩
    (performed.symm ▸ inside)
  have finished := ended.2
  rw [performed, nextPlace, nextHue] at finished
  exact finished

/-! An iteration that reads `running` while the effect is stopped. -/

theorem stopped_step {rainbow : Rainbow} {action : Action}
    (stopped : rainbow.ctrl.running = false)
    (noStart : (rainbow.event action).isStart = false) :
    (rainbow.step action).ctrl.running = false := by
  cases action with
  | thread => exact stopped
  | command command =>
      cases command with
      | start speedLevel => cases noStart
      | stop => rfl
      | setSpeed speedLevel => exact stopped
      | setBrightness brightness => exact stopped

def Resting (pc : Pc) : Prop := pc = .idle ∨ pc = .checkRunning

theorem resting_step {rainbow : Rainbow} {action : Action}
    (resting : Resting rainbow.thread.pc)
    (noCheck : (rainbow.event action).isCheck = false) :
    Resting (rainbow.step action).thread.pc ∧
      (rainbow.event action).isFrame = false := by
  cases action with
  | command command => exact ⟨resting, rfl⟩
  | thread =>
      obtain ⟨ctrl, pc, hue, hsv, ledData⟩ := rainbow
      rcases resting with idle | checking
      · cases idle
        exact ⟨Or.inr rfl, rfl⟩
      · cases checking
        cases noCheck

theorem stopped_iteration {actions : List Action}
    {before between tail after : List Event} {running : Bool} {hue : ℚ}
    (split : rainbowEvents actions =
      before ++ .command .stop ::
        (between ++ .check running hue :: (tail ++ after)))
    (noStart : ∀ event ∈ between, event.isStart = false)
    (inside : ∀ event ∈ tail, event.isCheck = false) :
    running = false ∧ ∀ event ∈ tail, event.isFrame = false := by
  obtain ⟨early, late, _, _, fromStop⟩ := Run.outputs_split split
  obtain ⟨stopping, rest, stops, afterStop⟩ := Run.outputs_cons fromStop
  obtain rfl := event_command stops
  obtain ⟨during, rest, _, waited, fromCheck⟩ := Run.outputs_split afterStop
  obtain ⟨first, rest, checked, afterCheck⟩ := Run.outputs_cons fromCheck
  obtain ⟨rfl, place, read, _⟩ := event_check checked
  obtain ⟨_, _, _, performed, _⟩ := Run.outputs_split afterCheck
  have stopped := Run.outputs_invariant
    (fun (state : Rainbow) _ => state.ctrl.running = false)
    (fun (event : Event) => event.isStart = false)
    (fun _ _ _ still noStart => stopped_step still noStart)
    (by rfl) (waited.symm ▸ noStart)
  rw [stopped] at read
  generalize during.foldl Rainbow.step _ = rainbow at *
  have begun : Resting (rainbow.step .thread).thread.pc := by
    simp [Rainbow.step, rainbowThreadStep, place, stopped, Resting]
  have ended := Run.outputs_invariant
    (fun (state : Rainbow) done => Resting state.thread.pc ∧
      ∀ event ∈ done, Event.isFrame event = false)
    (fun event => event.isCheck = false)
    (fun state done action ⟨resting, quiet⟩ noCheck =>
      have ⟨next, noFrame⟩ := resting_step resting noCheck
      ⟨next, List.forall_mem_append.mpr
        ⟨quiet, List.forall_mem_singleton.mpr noFrame⟩⟩)
    ⟨begun, by simp⟩ (performed.symm ▸ inside)
  rw [performed] at ended
  exact ⟨read.symm, ended.2⟩

theorem outputs_inRange (actions : List Action) :
    ∀ event ∈ rainbowEvents actions, event.InRange := by
  have everything : ∀ event ∈ rainbowEvents actions, True := by simp
  have ended := Run.outputs_invariant
    (fun (rainbow : Rainbow) done => rainbow.Bounded ∧
      ∀ event ∈ done, Event.InRange event)
    (fun _ => True)
    (fun _ _ action ⟨bounded, inRange⟩ _ =>
      ⟨step_bounded bounded action, List.forall_mem_append.mpr
        ⟨inRange, List.forall_mem_singleton.mpr
          (event_inRange bounded action)⟩⟩)
    ⟨rainbowInit_bounded, by simp⟩ everything
  exact ended.2

/-- The rainbow controller under every interleaving of its commands with the
steps of its thread. -/
theorem rainbow_controller (actions : List Action) :
    (rainbowInit.Bounded ∧
      ∀ rainbow ∈ Run.reached Rainbow.step rainbowInit actions,
        rainbow.Bounded) ∧
    (∀ event ∈ rainbowEvents actions, event.InRange) ∧
    (∀ before hue middle running' hue' after,
      rainbowEvents actions =
        before ++ .check true hue ::
          (middle ++ .check running' hue' :: after) →
      (∀ event ∈ middle, event.isCheck = false) →
      middle.countP Event.isFrame = 1 ∧
        ∃ hueStep, middle.filterMap Event.hueStep? = [hueStep] ∧
          hue' = fmod (hue + hueStep) 360) ∧
    (∀ before between running hue tail after,
      rainbowEvents actions =
        before ++ .command .stop ::
          (between ++ .check running hue :: (tail ++ after)) →
      (∀ event ∈ between, event.isStart = false) →
      (∀ event ∈ tail, event.isCheck = false) →
      running = false ∧ ∀ event ∈ tail, event.isFrame = false) := by
  refine ⟨⟨rainbowInit_bounded, ?_⟩, outputs_inRange actions, ?_, ?_⟩
  · apply Run.reached_invariant _ rainbowInit_bounded
    intro rainbow action bounded
    exact step_bounded bounded action
  · intro before hue middle running' hue' after split inside
    exact iteration_sound split inside
  · intro before between running hue tail after split noStart inside
    exact stopped_iteration split noStart inside

end Ch32v307.Ws2812
