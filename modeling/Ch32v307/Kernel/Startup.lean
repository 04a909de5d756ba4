import Ch32v307.Data.Run
import Ch32v307.Lcd.Recorder
import Mathlib.Algebra.BigOperators.Ring.List

namespace Ch32v307.Kernel

open Data Lcd

/-! The calls between reset and the drawing in `main`, and the state the delay
functions read: the clock frequency and the factor `g_fac_us`. -/

/-- The calls of the start-up that touch neither of the two. -/
inductive StartupCall where
  | systemInit
  | sysTickConfig
  | rtHwPinInit
  | rtHwUsartInit
  | rtSystemHeapInit
  | rtConsoleSetDevice
  | rtShowVersion
  | rtSystemTimerInit
  | rtSystemSchedulerInit
  | rtApplicationInit
  | rtSystemTimerThreadInit
  | rtThreadIdleInit
  | rtSystemSchedulerStart
  | rtHwLcdInit
  | finshSystemInit
  | dbgmcuGetChipid
  | ws2812Init
  | rainbowInit
  | rainbowStart (speedLevel : UInt8)
  deriving DecidableEq, Repr

inductive BootCall where
  | startup (call : StartupCall)
  /-- The frequency read back from the clock registers. -/
  | systemCoreClockUpdate (frequency : UInt32)
  | delayInit (sysclk : UInt16)
  | delay (call : DelayCall)
  deriving DecidableEq, Repr

/-- `rtthread_startup` with the functions of the `INIT_BOARD_EXPORT` table,
then the main thread: the `INIT_DEVICE_EXPORT` and `INIT_APP_EXPORT` tables and
`main` as far as `lcd_init`. -/
def callsBeforeLcdInit (frequency : UInt32) : List BootCall :=
  [ .startup .systemInit,
    .startup .sysTickConfig,
    .startup .rtHwPinInit,
    .startup .rtHwUsartInit,
    .startup .rtSystemHeapInit,
    .startup .rtConsoleSetDevice,
    .startup .rtShowVersion,
    .startup .rtSystemTimerInit,
    .startup .rtSystemSchedulerInit,
    .startup .rtApplicationInit,
    .startup .rtSystemTimerThreadInit,
    .startup .rtThreadIdleInit,
    .startup .rtSystemSchedulerStart,
    .startup .rtHwLcdInit,
    .startup .finshSystemInit,
    .systemCoreClockUpdate frequency,
    .startup .dbgmcuGetChipid,
    .startup .ws2812Init,
    .startup .rainbowInit,
    .startup (.rainbowStart 3) ]

def delayOf : BusEvent → Option BootCall
  | .delay call => some (.delay call)
  | _ => none

/-- The delays of `lcd_init`, against a panel that answers `replies`. -/
def lcdInitDelays (tables : RegInit) (dev : LcdDev) (replies : List UInt16) :
    List BootCall :=
  (lcdInit tables recorderBus dev (Recorder.start replies)).2.log.filterMap
    delayOf

def startupCalls (tables : RegInit) (dev : LcdDev) (replies : List UInt16)
    (frequency : UInt32) : List BootCall :=
  callsBeforeLcdInit frequency ++ lcdInitDelays tables dev replies

structure Board where
  systemCoreClock : UInt32
  gFacUs : UInt16
  deriving DecidableEq, Repr

/-- The initialisers of the two variables. -/
def Board.reset : Board := ⟨96000000, 0⟩

def Board.perform (board : Board) : BootCall → Board
  | .startup _ => board
  | .systemCoreClockUpdate frequency =>
      { board with systemCoreClock := frequency }
  | .delayInit sysclk => { board with gFacUs := delayInit sysclk }
  | .delay _ => board

/-! What the delay functions load. -/

/-- The calls of `delay_us` that `delay_ms` makes. -/
def delayMsCalls (nms : UInt16) : List UInt32 :=
  let repeats := nms.toUInt32 / 1000
  let remain := nms.toUInt32 % 1000
  List.replicate repeats.toNat (1000 * 1000) ++
    if remain ≠ 0 then [remain * 1000] else []

def loaded (gFacUs : UInt16) (tick : SysTick) (nus : UInt32) : Nat :=
  (delayStart gFacUs nus tick).cmp.toNat

structure LongEnoughUs (board : Board) (nus : UInt32) : Prop where
  unwrapped : nus.toNat * board.gFacUs.toNat < UInt32.size
  loads : ∀ tick,
    nus.toNat * (board.systemCoreClock.toNat / 8000000) ≤
      loaded board.gFacUs tick nus

structure ExactMs (board : Board) (nms : UInt16) : Prop where
  unwrapped : ∀ nus ∈ delayMsCalls nms,
    nus.toNat * board.gFacUs.toNat < UInt32.size
  loads : ∀ tick,
    ((delayMsCalls nms).map (loaded board.gFacUs tick)).sum =
      nms.toNat * 1000 * (board.systemCoreClock.toNat / 8000000)

/-- Every delay comes after some call of `delay_init`. -/
def FactorBeforeUse (calls : List BootCall) : Prop :=
  ∀ before call after, calls = before ++ .delay call :: after →
    ∃ sysclk, .delayInit sysclk ∈ before

theorem loaded_eq_mul {gFacUs : UInt16} {nus : UInt32}
    (unwrapped : nus.toNat * gFacUs.toNat < UInt32.size) (tick : SysTick) :
    loaded gFacUs tick nus = nus.toNat * gFacUs.toNat := by
  change (nus * gFacUs.toUInt32).toUInt64.toNat = _
  rw [UInt32.toNat_toUInt64, UInt32.toNat_mul, UInt16.toNat_toUInt32]
  exact Nat.mod_eq_of_lt unwrapped

theorem remain_toNat (nms : UInt16) :
    (nms.toUInt32 % 1000 * 1000).toNat = nms.toNat % 1000 * 1000 := by
  have small : nms.toNat % 1000 * 1000 < 4294967296 := by
    have := Nat.mod_lt nms.toNat (by decide : 1000 > 0)
    omega
  simpa using Nat.mod_eq_of_lt small

theorem delayMsCalls_le (nms : UInt16) :
    ∀ nus ∈ delayMsCalls nms, nus.toNat ≤ 1000000 := by
  intro nus member
  rcases List.mem_append.mp member with second | rest
  · rw [List.eq_of_mem_replicate second]
    decide
  · split_ifs at rest with remains
    · rw [List.mem_singleton.mp rest, remain_toNat]
      omega
    · cases rest

/-- The calls wait for every millisecond once. -/
theorem delayMsCalls_sum (nms : UInt16) :
    ((delayMsCalls nms).map UInt32.toNat).sum = nms.toNat * 1000 := by
  have seconds : (1000 * 1000 : UInt32).toNat = 1000000 := by decide
  have quotient : (nms.toUInt32 / 1000).toNat = nms.toNat / 1000 := by simp
  rw [delayMsCalls, List.map_append, List.sum_append, List.map_replicate,
    List.sum_replicate, seconds, quotient, nsmul_eq_mul,
    Nat.cast_id]
  split_ifs with remains
  · rw [List.map_singleton, List.sum_singleton, remain_toNat]
    omega
  · have divides : nms.toNat % 1000 = 0 := by
      simpa using congrArg UInt32.toNat (not_not.mp remains)
    rw [List.map_nil, List.sum_nil]
    omega

theorem delayMs_loads {gFacUs : UInt16}
    (fits : 1000000 * gFacUs.toNat < UInt32.size) (nms : UInt16)
    (tick : SysTick) :
    (∀ nus ∈ delayMsCalls nms,
      nus.toNat * gFacUs.toNat < UInt32.size) ∧
    ((delayMsCalls nms).map (loaded gFacUs tick)).sum =
      nms.toNat * 1000 * gFacUs.toNat := by
  have unwrapped : ∀ nus ∈ delayMsCalls nms,
      nus.toNat * gFacUs.toNat < UInt32.size := by
    intro nus member
    have bounded := Nat.mul_le_mul_right gFacUs.toNat
      (delayMsCalls_le nms nus member)
    exact bounded.trans_lt fits
  refine ⟨unwrapped, ?_⟩
  have each : (delayMsCalls nms).map (loaded gFacUs tick) =
      ((delayMsCalls nms).map UInt32.toNat).map (· * gFacUs.toNat) := by
    rw [List.map_map]
    apply List.map_congr_left
    intro nus member
    exact loaded_eq_mul (unwrapped nus member) tick
  rw [each, List.sum_map_mul_right, List.map_id', delayMsCalls_sum]

/-! With the factor at its initial value the loads are zero. -/

theorem slowClock_iff (clock : UInt32) :
    clock.toNat / 8000000 = 0 ↔ clock < 8000000 := by
  rw [UInt32.lt_iff_toNat_lt]
  exact Nat.div_eq_zero_iff_lt (by decide)

theorem longEnoughUs_iff {board : Board} (unset : board.gFacUs = 0)
    (nus : UInt32) : LongEnoughUs board nus ↔
      nus = 0 ∨ board.systemCoreClock < 8000000 := by
  have unwrapped : nus.toNat * (0 : UInt16).toNat < UInt32.size :=
    (by decide : 0 < UInt32.size)
  have zero : nus.toNat = 0 ↔ nus = 0 := UInt32.toNat_inj (b := 0)
  rw [← zero, ← slowClock_iff, ← Nat.mul_eq_zero]
  constructor
  · intro longEnough
    have loads := longEnough.loads ⟨0, 0, 0, 0⟩
    rw [unset, loaded_eq_mul unwrapped] at loads
    exact Nat.le_zero.mp loads
  · intro nothing
    constructor
    · rw [unset]
      exact unwrapped
    · intro tick
      rw [nothing]
      exact Nat.zero_le _

theorem exactMs_iff {board : Board} (unset : board.gFacUs = 0)
    (nms : UInt16) : ExactMs board nms ↔
      nms = 0 ∨ board.systemCoreClock < 8000000 := by
  have fits : 1000000 * (0 : UInt16).toNat < UInt32.size := by decide
  have zero : nms.toNat = 0 ↔ nms = 0 := UInt16.toNat_inj (b := 0)
  rw [← zero, ← slowClock_iff]
  constructor
  · intro exactly
    have loads := exactly.loads ⟨0, 0, 0, 0⟩
    rw [unset, (delayMs_loads fits nms _).2] at loads
    rcases Nat.mul_eq_zero.mp loads.symm with time | clock
    · exact Or.inl (by omega)
    · exact Or.inr clock
  · intro nothing
    constructor
    · rw [unset]
      exact (delayMs_loads fits nms ⟨0, 0, 0, 0⟩).1
    · intro tick
      rw [unset, (delayMs_loads fits nms tick).2]
      rcases nothing with time | clock
      · rw [time]
        omega
      · rw [clock]
        rfl

/-! The runs: `delay_init` is among none of their calls. -/

def BootCall.setsFactor : BootCall → Bool
  | .delayInit _ => true
  | _ => false

theorem callsBeforeLcdInit_setNoFactor (frequency : UInt32) :
    (callsBeforeLcdInit frequency).all (fun call => ! call.setsFactor) =
      true := rfl

theorem startupCalls_setNoFactor (tables : RegInit) (dev : LcdDev)
    (replies : List UInt16) (frequency : UInt32) :
    ∀ call ∈ startupCalls tables dev replies frequency,
      call.setsFactor = false := by
  intro call member
  rcases List.mem_append.mp member with early | inLcdInit
  · have none := callsBeforeLcdInit_setNoFactor frequency
    rw [List.all_eq_true] at none
    exact (Bool.not_eq_true' _).mp (none call early)
  · obtain ⟨event, -, delayed⟩ := List.mem_filterMap.mp inLcdInit
    cases event with
    | delay call =>
        cases delayed
        rfl
    | store message => cases delayed
    | load value => cases delayed

theorem recorderBus_keeps_logged (event : BusEvent) :
    recorderBus.Keeps (fun recorder => event ∈ recorder.log) where
  store recorder message logged := List.mem_append_left _ logged
  load recorder logged := by
    rw [recorderBus_load_log]
    exact List.mem_append_left _ logged
  delay recorder call logged := List.mem_append_left _ logged

theorem lcdInit_delays (tables : RegInit) (dev : LcdDev)
    (replies : List UInt16) :
    .delay (.ms 50) ∈ lcdInitDelays tables dev replies := by
  have first : BusEvent.delay (.ms 50) ∈
      (recorderBus.delay (Recorder.start replies) (.ms 50)).log :=
    List.mem_singleton.mpr rfl
  have logged :=
    lcdInit_keeps (recorderBus_keeps_logged _) tables dev first
  exact List.mem_filterMap.mpr ⟨_, logged, rfl⟩

theorem startupCalls_factorUnset (tables : RegInit) (dev : LcdDev)
    (replies : List UInt16) (frequency : UInt32) :
    ¬ FactorBeforeUse (startupCalls tables dev replies frequency) := by
  intro initialised
  have used : .delay (.ms 50) ∈ startupCalls tables dev replies frequency :=
    List.mem_append_right _ (lcdInit_delays tables dev replies)
  obtain ⟨before, after, same⟩ := List.append_of_mem used
  obtain ⟨sysclk, member⟩ := initialised before (.ms 50) after same
  have called : .delayInit sysclk ∈
      startupCalls tables dev replies frequency := by
    rw [same]
    exact List.mem_append_left _ member
  exact Bool.noConfusion
    (startupCalls_setNoFactor tables dev replies frequency _ called)

theorem startupCalls_gFacUs (tables : RegInit) (dev : LcdDev)
    (replies : List UInt16) (frequency : UInt32) :
    ∀ board ∈ Run.reached Board.perform Board.reset
        (startupCalls tables dev replies frequency),
      board.gFacUs = 0 := by
  have guarded : Run.Guarded Board.perform
      (fun _ call => call.setsFactor = false) Board.reset
      (startupCalls tables dev replies frequency) := by
    apply Run.guarded_of_forall
    intro call member _
    exact startupCalls_setNoFactor tables dev replies frequency call member
  refine Run.reached_invariant_of_guarded ?_ rfl guarded
  intro board call unset setsNone
  cases call with
  | startup call => exact unset
  | systemCoreClockUpdate frequency => exact unset
  | delayInit sysclk => cases setsNone
  | delay call => exact unset

/-- In no run is the factor set before its first use, and the delays of a run
are as long as asked for only when nothing is asked for. -/
theorem startup_delays_iff (tables : RegInit) (dev : LcdDev)
    (replies : List UInt16) (frequency : UInt32) :
    ¬ FactorBeforeUse (startupCalls tables dev replies frequency) ∧
    ∀ board ∈ Run.reached Board.perform Board.reset
        (startupCalls tables dev replies frequency),
      (∀ nus, LongEnoughUs board nus ↔
        nus = 0 ∨ board.systemCoreClock < 8000000) ∧
      (∀ nms, ExactMs board nms ↔
        nms = 0 ∨ board.systemCoreClock < 8000000) := by
  refine ⟨startupCalls_factorUnset tables dev replies frequency, ?_⟩
  intro board member
  have unset := startupCalls_gFacUs tables dev replies frequency board member
  exact ⟨longEnoughUs_iff unset, exactMs_iff unset⟩

/-- The first delay of `lcd_init` at 96 MHz: 50 ms become none. -/
theorem lcdInit_delay_short :
    Board.reset ∈ Run.reached Board.perform Board.reset
        (startupCalls ⟨[], [], [], [], [], [], []⟩ LcdDev.zero [] 96000000) ∧
    delayMsCalls 50 = [50000] ∧
    loaded Board.reset.gFacUs ⟨0, 0, 0, 0⟩ 50000 = 0 ∧
    ¬ LongEnoughUs Board.reset 50000 ∧ ¬ ExactMs Board.reset 50 := by
  refine ⟨List.mem_cons_self, by decide, by decide, ?_, ?_⟩
  · rw [longEnoughUs_iff rfl]
    decide
  · rw [exactMs_iff rfl]
    decide

end Ch32v307.Kernel
