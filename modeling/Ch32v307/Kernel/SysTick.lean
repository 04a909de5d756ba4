import Mathlib.Data.List.Basic

namespace Ch32v307.Kernel

/-! The SysTick block and the two modules that program it: the board start-up,
which sets up the OS tick, and the busy-wait delays. -/

def bit (position : UInt32) : UInt32 := 1 <<< position

structure SysTick where
  ctlr : UInt32
  sr : UInt32
  cnt : UInt64
  cmp : UInt64
  deriving DecidableEq, Repr

namespace SysTick

/-- A store to CTLR. Bit 5 restarts the counter and reads back as zero. -/
def storeCtlr (tick : SysTick) (value : UInt32) : SysTick :=
  { tick with ctlr := value &&& ~~~bit 5 }

/-- A store of a 32-bit value to the 64-bit CMP register. -/
def storeCmp (tick : SysTick) (value : UInt32) : SysTick :=
  { tick with cmp := value.toUInt64 }

@[simp] theorem storeCtlr_ctlr (tick : SysTick) (value : UInt32) :
    (tick.storeCtlr value).ctlr = value &&& ~~~bit 5 := rfl

@[simp] theorem storeCmp_ctlr (tick : SysTick) (value : UInt32) :
    (tick.storeCmp value).ctlr = tick.ctlr := rfl

end SysTick

def rtTickPerSecond : UInt32 := 1000

def sysTickConfig (ticks : UInt32) (tick : SysTick) : SysTick :=
  let tick := tick.storeCtlr 0
  let tick := { tick with sr := 0 }
  let tick := { tick with cnt := 0 }
  let tick := tick.storeCmp (ticks - 1)
  tick.storeCtlr 0xF

/-- The part of `rt_hw_board_init` that touches the SysTick block. -/
def rtHwBoardInit (systemCoreClock : UInt32) (tick : SysTick) : SysTick :=
  sysTickConfig (systemCoreClock / rtTickPerSecond) tick

/-- What one poll of the busy-wait loop finds: the counter and the flags are
the hardware's to change, CTLR and CMP are not. -/
structure Sample where
  sr : UInt32
  cnt : UInt64
  deriving DecidableEq, Repr

/-- The SysTick block together with the samples the hardware has in store for
the polls to come. -/
abbrev Timebase := SysTick × List Sample

/-- `while((SysTick->SR & (1<<0)) != (1<<0));` The loop has not returned when
the samples run out. -/
def waitFlag : SysTick → List Sample → Option Timebase
  | _, [] => none
  | tick, sample :: rest =>
      let polled := { tick with sr := sample.sr, cnt := sample.cnt }
      if polled.sr &&& bit 0 ≠ bit 0 then
        waitFlag polled rest
      else
        some (polled, rest)

def delayInit (sysclk : UInt16) : UInt16 := sysclk / 8

def delayStart (gFacUs : UInt16) (nus : UInt32) (tick : SysTick) : SysTick :=
  let tick := tick.storeCtlr (bit 4)
  let temp := nus * gFacUs.toUInt32
  let tick := tick.storeCmp temp
  tick.storeCtlr (tick.ctlr ||| (bit 5 ||| bit 0))

def delayUs (gFacUs : UInt16) (nus : UInt32) : Timebase → Option Timebase
  | (tick, samples) => do
      let (tick, samples) ← waitFlag (delayStart gFacUs nus tick) samples
      some ({ tick with sr := tick.sr &&& ~~~bit 0 }, samples)

def delaySeconds (gFacUs : UInt16) : Nat → Timebase → Option Timebase
  | 0, base => some base
  | repeats + 1, base => do
      let base ← delayUs gFacUs (1000 * 1000) base
      delaySeconds gFacUs repeats base

def delayMs (gFacUs : UInt16) (nms : UInt16) (base : Timebase) :
    Option Timebase := do
  let repeats := nms.toUInt32 / 1000
  let remain := nms.toUInt32 % 1000
  let base ← delaySeconds gFacUs repeats.toNat base
  if remain ≠ 0 then delayUs gFacUs (remain * 1000) base else some base

inductive DelayCall where
  | us (nus : UInt32)
  | ms (nms : UInt16)
  deriving DecidableEq, Repr

def DelayCall.perform (gFacUs : UInt16) : DelayCall → Timebase → Option Timebase
  | .us nus => delayUs gFacUs nus
  | .ms nms => delayMs gFacUs nms

/-- The SysTick block at the return of each call of a sequence; `none` when a
call does not return. -/
def delayReturns (gFacUs : UInt16) :
    List DelayCall → Timebase → Option (List SysTick)
  | [], _ => some []
  | call :: rest, base => do
      let next ← call.perform gFacUs base
      let later ← delayReturns gFacUs rest next
      some (next.1 :: later)

/-- The block is as `_SysTick_Config` left it for the OS tick. -/
def TickConfigured (systemCoreClock : UInt32) (tick : SysTick) : Prop :=
  tick.ctlr = 0xF ∧
    tick.cmp = (systemCoreClock / rtTickPerSecond - 1).toUInt64

instance (systemCoreClock : UInt32) (tick : SysTick) :
    Decidable (TickConfigured systemCoreClock tick) :=
  inferInstanceAs (Decidable (_ ∧ _))

/-- Whatever the hardware shows the polls, every call that returns leaves the
OS tick configured. -/
def DelaysKeepTick (systemCoreClock : UInt32) (gFacUs : UInt16)
    (reset : SysTick) (calls : List DelayCall) : Prop :=
  ∀ samples states,
    delayReturns gFacUs calls (rtHwBoardInit systemCoreClock reset, samples) =
      some states →
    ∀ tick ∈ states, TickConfigured systemCoreClock tick

theorem rtHwBoardInit_configured (systemCoreClock : UInt32) (tick : SysTick) :
    TickConfigured systemCoreClock (rtHwBoardInit systemCoreClock tick) := by
  constructor
  · change (0xF : UInt32) &&& ~~~bit 5 = 0xF
    decide
  · rfl

/-! What one busy wait does to the block. -/

theorem waitFlag_ctlr {tick : SysTick} {samples : List Sample}
    {base : Timebase} (returned : waitFlag tick samples = some base) :
    base.1.ctlr = tick.ctlr := by
  induction samples generalizing tick with
  | nil => simp [waitFlag] at returned
  | cons sample rest ih =>
      simp only [waitFlag] at returned
      split at returned
      · simpa using ih returned
      · cases returned
        rfl

theorem delayStart_ctlr (gFacUs : UInt16) (nus : UInt32) (tick : SysTick) :
    (delayStart gFacUs nus tick).ctlr = 0x11 := by
  simp only [delayStart, SysTick.storeCtlr_ctlr, SysTick.storeCmp_ctlr]
  decide

theorem delayUs_ctlr {gFacUs : UInt16} {nus : UInt32} {base next : Timebase}
    (returned : delayUs gFacUs nus base = some next) : next.1.ctlr = 0x11 := by
  obtain ⟨tick, samples⟩ := base
  simp only [delayUs, Option.bind_eq_bind, Option.bind_eq_some_iff] at returned
  obtain ⟨polled, waited, same⟩ := returned
  cases same
  exact (waitFlag_ctlr waited).trans (delayStart_ctlr gFacUs nus tick)

theorem delaySeconds_ctlr {gFacUs : UInt16} {repeats : Nat}
    {base next : Timebase}
    (returned : delaySeconds gFacUs (repeats + 1) base = some next) :
    next.1.ctlr = 0x11 := by
  induction repeats generalizing base with
  | zero =>
      simp only [delaySeconds, Option.bind_eq_bind,
        Option.bind_eq_some_iff] at returned
      obtain ⟨middle, waited, same⟩ := returned
      cases same
      exact delayUs_ctlr waited
  | succ repeats ih =>
      rw [delaySeconds] at returned
      obtain ⟨middle, -, later⟩ := Option.bind_eq_some_iff.mp returned
      exact ih later

theorem delayMs_ctlr {gFacUs : UInt16} {nms : UInt16} {base next : Timebase}
    (positive : nms ≠ 0)
    (returned : delayMs gFacUs nms base = some next) :
    next.1.ctlr = 0x11 := by
  obtain ⟨middle, waited, last⟩ := Option.bind_eq_some_iff.mp returned
  by_cases remains : nms.toUInt32 % 1000 ≠ 0
  · rw [if_pos remains] at last
    exact delayUs_ctlr last
  · rw [if_neg remains] at last
    cases last
    -- A whole number of seconds: the loop has run at least once.
    have divides : nms.toNat % 1000 = 0 := by
      have := congrArg UInt32.toNat (not_not.mp remains)
      simpa using this
    have nonzero : nms.toNat ≠ 0 := fun zero =>
      positive (UInt16.toNat_inj.mp zero)
    have quotient : (nms.toUInt32 / 1000).toNat = nms.toNat / 1000 := by
      simp
    obtain ⟨repeats, count⟩ :=
      Nat.exists_eq_succ_of_ne_zero (show nms.toNat / 1000 ≠ 0 by omega)
    rw [quotient, count] at waited
    exact delaySeconds_ctlr waited

theorem perform_keeps_iff {systemCoreClock : UInt32} {gFacUs : UInt16}
    {call : DelayCall} {base next : Timebase}
    (configured : TickConfigured systemCoreClock base.1)
    (returned : call.perform gFacUs base = some next) :
    TickConfigured systemCoreClock next.1 ↔ call = .ms 0 := by
  constructor
  · intro kept
    have stopped : next.1.ctlr ≠ 0x11 := by
      rw [kept.1]
      decide
    cases call with
    | us nus => exact absurd (delayUs_ctlr returned) stopped
    | ms nms =>
        by_cases zero : nms = 0
        · rw [zero]
        · exact absurd (delayMs_ctlr zero returned) stopped
  · rintro rfl
    cases returned
    exact configured

/-! Some hardware behaviour lets every sequence of calls return. -/

theorem delayUs_ready (gFacUs : UInt16) (nus : UInt32) (tick : SysTick) :
    ∃ samples next, ∀ more,
      delayUs gFacUs nus (tick, samples ++ more) = some (next, more) := by
  have ready : ¬ (1 : UInt32) &&& bit 0 ≠ bit 0 := by decide
  refine ⟨[⟨1, 0⟩], { delayStart gFacUs nus tick with sr := 0, cnt := 0 },
    fun more => ?_⟩
  simp only [delayUs, List.cons_append, List.nil_append, waitFlag,
    if_neg ready, Option.bind_eq_bind, Option.bind_some]
  rfl

theorem delaySeconds_ready (gFacUs : UInt16) (repeats : Nat) (tick : SysTick) :
    ∃ samples next, ∀ more,
      delaySeconds gFacUs repeats (tick, samples ++ more) =
        some (next, more) := by
  induction repeats generalizing tick with
  | zero => exact ⟨[], tick, fun _ => rfl⟩
  | succ repeats ih =>
      obtain ⟨first, middle, waited⟩ := delayUs_ready gFacUs (1000 * 1000) tick
      obtain ⟨others, next, later⟩ := ih middle
      refine ⟨first ++ others, next, fun more => ?_⟩
      rw [delaySeconds, List.append_assoc, waited]
      exact later more

theorem perform_ready (gFacUs : UInt16) (call : DelayCall) (tick : SysTick) :
    ∃ samples next, ∀ more,
      call.perform gFacUs (tick, samples ++ more) = some (next, more) := by
  cases call with
  | us nus => exact delayUs_ready gFacUs nus tick
  | ms nms =>
      obtain ⟨first, middle, waited⟩ :=
        delaySeconds_ready gFacUs (nms.toUInt32 / 1000).toNat tick
      by_cases remains : nms.toUInt32 % 1000 ≠ 0
      · obtain ⟨last, next, ended⟩ :=
          delayUs_ready gFacUs (nms.toUInt32 % 1000 * 1000) middle
        refine ⟨first ++ last, next, fun more => ?_⟩
        simp only [DelayCall.perform, delayMs, List.append_assoc, waited,
          Option.bind_eq_bind, Option.bind_some, if_pos remains, ended]
      · refine ⟨first, middle, fun more => ?_⟩
        simp only [DelayCall.perform, delayMs, waited, Option.bind_eq_bind,
          Option.bind_some, if_neg remains]

theorem delayReturns_ready (gFacUs : UInt16) (calls : List DelayCall)
    (tick : SysTick) :
    ∃ samples states,
      delayReturns gFacUs calls (tick, samples) = some states := by
  induction calls generalizing tick with
  | nil => exact ⟨[], [], rfl⟩
  | cons call rest ih =>
      obtain ⟨first, next, waited⟩ := perform_ready gFacUs call tick
      obtain ⟨others, states, later⟩ := ih next
      refine ⟨first ++ others, next :: states, ?_⟩
      simp only [delayReturns, waited, Option.bind_eq_bind, Option.bind_some,
        later]

theorem delayReturns_configured_iff {systemCoreClock : UInt32}
    {gFacUs : UInt16} {calls : List DelayCall} {base : Timebase}
    {states : List SysTick}
    (configured : TickConfigured systemCoreClock base.1)
    (returned : delayReturns gFacUs calls base = some states) :
    (∀ tick ∈ states, TickConfigured systemCoreClock tick) ↔
      ∀ call ∈ calls, call = .ms 0 := by
  induction calls generalizing base states with
  | nil =>
      cases returned
      simp
  | cons call rest ih =>
      simp only [delayReturns, Option.bind_eq_bind,
        Option.bind_eq_some_iff] at returned
      obtain ⟨next, performed, later, others, same⟩ := returned
      cases same
      rw [List.forall_mem_cons, List.forall_mem_cons,
        perform_keeps_iff configured performed]
      refine and_congr_right fun zero => ih ?_ others
      exact (perform_keeps_iff configured performed).mpr zero

/-- The OS tick survives a sequence of delays exactly when no call of it waits
at all. -/
theorem delaysKeepTick_iff (systemCoreClock : UInt32) (gFacUs : UInt16)
    (reset : SysTick) (calls : List DelayCall) :
    DelaysKeepTick systemCoreClock gFacUs reset calls ↔
      ∀ call ∈ calls, call = .ms 0 := by
  have configured := rtHwBoardInit_configured systemCoreClock reset
  constructor
  · intro keeps
    obtain ⟨samples, states, returned⟩ :=
      delayReturns_ready gFacUs calls (rtHwBoardInit systemCoreClock reset)
    exact (delayReturns_configured_iff configured returned).mp
      (keeps samples states returned)
  · intro waitless samples states returned
    exact (delayReturns_configured_iff configured returned).mpr waitless

/-- The first delay of `lcd_init`, at the clock the system file selects: the
tick interrupt is off when it returns. -/
theorem lcdInit_delay_stops_tick :
    ¬ DelaysKeepTick 96000000 0 ⟨0, 0, 0, 0⟩ [.ms 50] := by
  intro keeps
  have kept := keeps [⟨1, 0⟩] _ rfl _ (List.mem_singleton.mpr rfl)
  exact absurd kept (by decide)

end Ch32v307.Kernel
