import Mathlib.Algebra.Group.Nat.Defs
import Mathlib.Logic.Function.Basic

namespace Ch32v307.Kernel

/-! The timers of `timer.c`, which run on the tick of `clock.c`. The skip list
of the timers has one level. -/

def rtTickMax : UInt32 := 0xffffffff

structure Timer where
  activated : Bool
  periodic : Bool
  timeoutTick : UInt32
  initTick : UInt32

structure TimerSystem (Id : Type) where
  rtTick : UInt32
  timers : Id → Timer
  rtTimerList : List Id

inductive TimerCmd
  | getTime
  | setTime
  | setOneshot
  | setPeriodic
  | other

variable {Id : Type} [DecidableEq Id]

namespace TimerSystem

def setTimer (system : TimerSystem Id) (timer : Id) (change : Timer → Timer) :
    TimerSystem Id :=
  { system with
    timers := Function.update system.timers timer
      (change (system.timers timer)) }

def setActivated (system : TimerSystem Id) (timer : Id) (activated : Bool) :
    TimerSystem Id :=
  system.setTimer timer fun entry => { entry with activated := activated }

section SetTimer

variable (system : TimerSystem Id) (timer other : Id) (change : Timer → Timer)

@[simp] theorem setTimer_rtTick :
    (system.setTimer timer change).rtTick = system.rtTick := rfl

@[simp] theorem setTimer_rtTimerList :
    (system.setTimer timer change).rtTimerList = system.rtTimerList := rfl

@[simp] theorem setTimer_self :
    (system.setTimer timer change).timers timer =
      change (system.timers timer) := Function.update_self ..

theorem setTimer_other (apart : other ≠ timer) :
    (system.setTimer timer change).timers other = system.timers other :=
  Function.update_of_ne apart ..

end SetTimer

end TimerSystem

open TimerSystem

def rtTickGet (system : TimerSystem Id) : UInt32 := system.rtTick

def timerRemove (system : TimerSystem Id) (timer : Id) : TimerSystem Id :=
  { system with rtTimerList := system.rtTimerList.erase timer }

/-- The loop of `rt_timer_start`: the timer goes to the end of those that time
out when it does. -/
def rowInsert (timers : Id → Timer) (timer : Id) : List Id → List Id
  | [] => [timer]
  | t :: rest =>
      if (timers t).timeoutTick - (timers timer).timeoutTick = 0 then
        t :: rowInsert timers timer rest
      else if (timers t).timeoutTick - (timers timer).timeoutTick <
          rtTickMax / 2 then
        timer :: t :: rest
      else t :: rowInsert timers timer rest

/-! `rt_timer_start` enables interrupts between its sections. -/

/-- The timer stops first. -/
def startStop (system : TimerSystem Id) (timer : Id) : TimerSystem Id :=
  (timerRemove system timer).setActivated timer false

def startTime (system : TimerSystem Id) (timer : Id) : TimerSystem Id :=
  system.setTimer timer fun entry =>
    { entry with timeoutTick := rtTickGet system + entry.initTick }

def startInsert (system : TimerSystem Id) (timer : Id) : TimerSystem Id :=
  let system := { system with
    rtTimerList := rowInsert system.timers timer system.rtTimerList }
  system.setActivated timer true

def rtTimerStart (system : TimerSystem Id) (timer : Id) : TimerSystem Id :=
  let system := startStop system timer
  let system := startTime system timer
  startInsert system timer

/-- `RT_EOK`, or `-RT_ERROR` when the timer is not activated. The flag changes
with interrupts enabled. -/
def rtTimerStop (system : TimerSystem Id) (timer : Id) : Int × TimerSystem Id :=
  if (system.timers timer).activated then
    (0, (timerRemove system timer).setActivated timer false)
  else (-1, system)

/-- What `arg` points to afterwards, and the timers. -/
def rtTimerControl (system : TimerSystem Id) (timer : Id) (arg : UInt32) :
    TimerCmd → UInt32 × TimerSystem Id
  | .getTime => ((system.timers timer).initTick, system)
  | .setTime =>
      (arg, system.setTimer timer fun entry => { entry with initTick := arg })
  | .setOneshot =>
      (arg, system.setTimer timer fun entry => { entry with periodic := false })
  | .setPeriodic =>
      (arg, system.setTimer timer fun entry => { entry with periodic := true })
  | .other => (arg, system)

def rtTimerDetach (system : TimerSystem Id) (timer : Id) : TimerSystem Id :=
  timerRemove system timer

inductive TimerCall (Id : Type)
  | start (timer : Id)
  | stop (timer : Id)
  | control (timer : Id) (cmd : TimerCmd) (arg : UInt32)
  | detach (timer : Id)

def TimerSystem.call (system : TimerSystem Id) : TimerCall Id → TimerSystem Id
  | .start timer => rtTimerStart system timer
  | .stop timer => (rtTimerStop system timer).2
  | .control timer cmd arg => (rtTimerControl system timer arg cmd).2
  | .detach timer => rtTimerDetach system timer

/-- A timer that has timed out: its function runs, here the calls it makes, and
a periodic timer starts again. -/
def timerExpire (timeoutFunc : Id → List (TimerCall Id))
    (system : TimerSystem Id) (t : Id) : TimerSystem Id :=
  let system := timerRemove system t
  let system := (timeoutFunc t).foldl TimerSystem.call system
  if (system.timers t).periodic ∧ (system.timers t).activated then
    rtTimerStart (system.setActivated t false) t
  else system.setActivated t false

/-- The loop of `rt_timer_check`: the timers whose functions ran, `none` for a
loop that has not ended. -/
def timerCheckLoop (timeoutFunc : Id → List (TimerCall Id)) :
    Nat → TimerSystem Id → Option (List Id × TimerSystem Id)
  | 0, _ => none
  | fuel + 1, system =>
      match system.rtTimerList with
      | [] => some ([], system)
      | t :: _ =>
          if rtTickGet system - (system.timers t).timeoutTick <
              rtTickMax / 2 then
            (timerCheckLoop timeoutFunc fuel
              (timerExpire timeoutFunc system t)).map fun (ran, system) =>
                (t :: ran, system)
          else some ([], system)

def rtTimerCheck (timeoutFunc : Id → List (TimerCall Id))
    (system : TimerSystem Id) : Option (List Id × TimerSystem Id) :=
  timerCheckLoop timeoutFunc (system.rtTimerList.length + 1) system

/-- `rt_tick_increase`, without the time slice of the thread. -/
def rtTickIncrease (timeoutFunc : Id → List (TimerCall Id))
    (system : TimerSystem Id) : Option (List Id × TimerSystem Id) :=
  rtTimerCheck timeoutFunc { system with rtTick := system.rtTick + 1 }

end Ch32v307.Kernel
