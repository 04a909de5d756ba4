import Ch32v307.Data.Rows
import Ch32v307.Kernel.Timer

namespace Ch32v307.Kernel

open Data

/-! The scheduler of `scheduler.c` and the threads of `thread.c`, with the
parts of `ipc.c` that suspend and resume threads. A thread's `tlist` node is in
one list at most: a `Row` of ready threads, of threads that wait for an object,
or of threads to delete. A function that enables interrupts on its way is made
of its sections, each a definition of its own. -/

def rtThreadPriorityMax : Nat := 16

def rtError : Int := 1

def rtETimeout : Int := 2

inductive ThreadStat
  | init
  | ready
  | suspend
  | close
  deriving DecidableEq

structure Thread where
  stat : ThreadStat
  initPriority : UInt8
  currentPriority : UInt8
  numberMask : UInt32
  initTick : UInt32
  remainingTick : UInt32
  error : Int
  eventSet : UInt32
  eventInfo : UInt8
  /-- A system object without a clean-up function. -/
  detached : Bool

inductive Row (Obj : Type)
  | ready (priority : Nat)
  | suspended (object : Obj)
  | defunct
  deriving DecidableEq

structure Scheduler (Id Obj : Type) where
  threads : Id → Thread
  rows : Row Obj → List Id
  timers : TimerSystem Id
  rtThreadReadyPriorityGroup : UInt32
  rtCurrentPriority : UInt8
  rtCurrentThread : Option Id
  rtSchedulerLockNest : Int16

inductive IpcFlag
  | fifo
  | prio

def lowestBitBitmap : List Nat := [
  0, 0, 1, 0, 2, 0, 1, 0, 3, 0, 1, 0, 2, 0, 1, 0,
  4, 0, 1, 0, 2, 0, 1, 0, 3, 0, 1, 0, 2, 0, 1, 0,
  5, 0, 1, 0, 2, 0, 1, 0, 3, 0, 1, 0, 2, 0, 1, 0,
  4, 0, 1, 0, 2, 0, 1, 0, 3, 0, 1, 0, 2, 0, 1, 0,
  6, 0, 1, 0, 2, 0, 1, 0, 3, 0, 1, 0, 2, 0, 1, 0,
  4, 0, 1, 0, 2, 0, 1, 0, 3, 0, 1, 0, 2, 0, 1, 0,
  5, 0, 1, 0, 2, 0, 1, 0, 3, 0, 1, 0, 2, 0, 1, 0,
  4, 0, 1, 0, 2, 0, 1, 0, 3, 0, 1, 0, 2, 0, 1, 0,
  7, 0, 1, 0, 2, 0, 1, 0, 3, 0, 1, 0, 2, 0, 1, 0,
  4, 0, 1, 0, 2, 0, 1, 0, 3, 0, 1, 0, 2, 0, 1, 0,
  5, 0, 1, 0, 2, 0, 1, 0, 3, 0, 1, 0, 2, 0, 1, 0,
  4, 0, 1, 0, 2, 0, 1, 0, 3, 0, 1, 0, 2, 0, 1, 0,
  6, 0, 1, 0, 2, 0, 1, 0, 3, 0, 1, 0, 2, 0, 1, 0,
  4, 0, 1, 0, 2, 0, 1, 0, 3, 0, 1, 0, 2, 0, 1, 0,
  5, 0, 1, 0, 2, 0, 1, 0, 3, 0, 1, 0, 2, 0, 1, 0,
  4, 0, 1, 0, 2, 0, 1, 0, 3, 0, 1, 0, 2, 0, 1, 0]

def rtFfs (value : UInt32) : Nat :=
  if value = 0 then 0
  else if value &&& 0xff ≠ 0 then
    lowestBitBitmap.getD (value &&& 0xff).toNat 0 + 1
  else if value &&& 0xff00 ≠ 0 then
    lowestBitBitmap.getD ((value &&& 0xff00) >>> 8).toNat 0 + 9
  else if value &&& 0xff0000 ≠ 0 then
    lowestBitBitmap.getD ((value &&& 0xff0000) >>> 16).toNat 0 + 17
  else lowestBitBitmap.getD ((value &&& 0xff000000) >>> 24).toNat 0 + 25

namespace Thread

def setStat (stat : ThreadStat) (entry : Thread) : Thread :=
  { entry with stat := stat }

def setError (error : Int) (entry : Thread) : Thread :=
  { entry with error := error }

def setRemainingTick (tick : UInt32) (entry : Thread) : Thread :=
  { entry with remainingTick := tick }

def setPriority (priority : UInt8) (entry : Thread) : Thread :=
  { entry with
    currentPriority := priority
    numberMask := 1 <<< priority.toUInt32 }

end Thread

variable {Id Obj : Type} [DecidableEq Id] [DecidableEq Obj]

namespace Scheduler

def setThread (scheduler : Scheduler Id Obj) (thread : Id)
    (change : Thread → Thread) : Scheduler Id Obj :=
  { scheduler with
    threads := Function.update scheduler.threads thread
      (change (scheduler.threads thread)) }

def rtListRemove (scheduler : Scheduler Id Obj) (thread : Id) :
    Scheduler Id Obj :=
  { scheduler with rows := Rows.without scheduler.rows thread }

def setRow (scheduler : Scheduler Id Obj) (row : Row Obj) (threads : List Id) :
    Scheduler Id Obj :=
  { scheduler with rows := Rows.place scheduler.rows row threads }

end Scheduler

open Scheduler

def rtSystemSchedulerInit (scheduler : Scheduler Id Obj) : Scheduler Id Obj :=
  { scheduler with
    rows := fun _ => []
    rtThreadReadyPriorityGroup := 0
    rtCurrentPriority := (rtThreadPriorityMax - 1).toUInt8
    rtCurrentThread := none
    rtSchedulerLockNest := 0 }

/-- The highest priority that is ready and its first thread, `none` when the
list the bitmap points at is empty. -/
def highestReady (scheduler : Scheduler Id Obj) : Option (Nat × Id) :=
  match rtFfs scheduler.rtThreadReadyPriorityGroup with
  | 0 => none
  | number + 1 =>
      (scheduler.rows (.ready number)).head?.map fun toThread =>
        (number, toThread)

def rtSystemSchedulerStart (scheduler : Scheduler Id Obj) :
    Option (Scheduler Id Obj) :=
  (highestReady scheduler).map fun (_, toThread) =>
    { scheduler with rtCurrentThread := some toThread }

def rtSchedule (scheduler : Scheduler Id Obj) : Option (Scheduler Id Obj) :=
  if scheduler.rtSchedulerLockNest = 0 then
    (highestReady scheduler).map fun (highestReadyPriority, toThread) =>
      if some toThread ≠ scheduler.rtCurrentThread then
        { scheduler with
          rtCurrentPriority := highestReadyPriority.toUInt8
          rtCurrentThread := some toThread }
      else scheduler
  else some scheduler

def rtScheduleInsertThread (scheduler : Scheduler Id Obj) (thread : Id) :
    Scheduler Id Obj :=
  let scheduler := scheduler.setThread thread (Thread.setStat .ready)
  let entry := scheduler.threads thread
  let row := Row.ready entry.currentPriority.toNat
  let scheduler := scheduler.setRow row (scheduler.rows row ++ [thread])
  { scheduler with
    rtThreadReadyPriorityGroup :=
      scheduler.rtThreadReadyPriorityGroup ||| entry.numberMask }

def rtScheduleRemoveThread (scheduler : Scheduler Id Obj) (thread : Id) :
    Scheduler Id Obj :=
  let scheduler := scheduler.rtListRemove thread
  let entry := scheduler.threads thread
  if scheduler.rows (.ready entry.currentPriority.toNat) = [] then
    { scheduler with
      rtThreadReadyPriorityGroup :=
        scheduler.rtThreadReadyPriorityGroup &&& ~~~entry.numberMask }
  else scheduler

def rtEnterCritical (scheduler : Scheduler Id Obj) : Scheduler Id Obj :=
  { scheduler with rtSchedulerLockNest := scheduler.rtSchedulerLockNest + 1 }

/-- `rt_exit_critical` up to its call of `rt_schedule`. -/
def exitNest (scheduler : Scheduler Id Obj) : Scheduler Id Obj :=
  let nest := scheduler.rtSchedulerLockNest - 1
  { scheduler with rtSchedulerLockNest := if nest ≤ 0 then 0 else nest }

def rtExitCritical (scheduler : Scheduler Id Obj) : Option (Scheduler Id Obj) :=
  let scheduler := exitNest scheduler
  if scheduler.rtSchedulerLockNest = 0 ∧ scheduler.rtCurrentThread.isSome then
    rtSchedule scheduler
  else some scheduler

def rtThreadInit (scheduler : Scheduler Id Obj) (thread : Id) (priority : UInt8)
    (tick : UInt32) (detached : Bool) : Scheduler Id Obj :=
  let scheduler := scheduler.setThread thread fun entry =>
    { entry with
      stat := .init
      initPriority := priority
      currentPriority := priority
      numberMask := 0
      initTick := tick
      remainingTick := tick
      error := 0
      detached := detached }
  { scheduler with
    timers := scheduler.timers.setTimer thread fun _ => ⟨false, false, 0, 0⟩ }

def rtThreadSuspend (scheduler : Scheduler Id Obj) (thread : Id) :
    Int × Scheduler Id Obj :=
  if (scheduler.threads thread).stat ≠ .ready then (-rtError, scheduler)
  else
    let scheduler := scheduler.setThread thread (Thread.setStat .suspend)
    let scheduler := rtScheduleRemoveThread scheduler thread
    (0, { scheduler with timers := (rtTimerStop scheduler.timers thread).2 })

/-- The part of `rt_thread_resume` that disables interrupts. -/
def resumeTake (scheduler : Scheduler Id Obj) (thread : Id) :
    Scheduler Id Obj :=
  let scheduler := scheduler.rtListRemove thread
  { scheduler with timers := (rtTimerStop scheduler.timers thread).2 }

def rtThreadResume (scheduler : Scheduler Id Obj) (thread : Id) :
    Int × Scheduler Id Obj :=
  if (scheduler.threads thread).stat ≠ .suspend then (-rtError, scheduler)
  else (0, rtScheduleInsertThread (resumeTake scheduler thread) thread)

/-- `rt_thread_startup` up to its call of `rt_thread_resume`. -/
def startupSet (scheduler : Scheduler Id Obj) (thread : Id) :
    Scheduler Id Obj :=
  let entry := scheduler.threads thread
  let scheduler := scheduler.setThread thread
    (Thread.setPriority entry.initPriority)
  scheduler.setThread thread (Thread.setStat .suspend)

/-- `rt_thread_startup` up to its call of `rt_schedule`. -/
def rtThreadStartup (scheduler : Scheduler Id Obj) (thread : Id) :
    Scheduler Id Obj :=
  (rtThreadResume (startupSet scheduler thread) thread).2

/-- `rt_thread_exit` up to its call of `rt_schedule`. -/
def rtThreadExit (scheduler : Scheduler Id Obj) (thread : Id) :
    Scheduler Id Obj :=
  let scheduler := rtScheduleRemoveThread scheduler thread
  let scheduler := scheduler.setThread thread (Thread.setStat .close)
  let scheduler :=
    { scheduler with timers := rtTimerDetach scheduler.timers thread }
  if (scheduler.threads thread).detached then scheduler
  else scheduler.setRow .defunct (thread :: scheduler.rows .defunct)

/-! The sections of `rt_thread_detach` and `rt_thread_delete`. -/

def closeRemove (scheduler : Scheduler Id Obj) (thread : Id) :
    Scheduler Id Obj :=
  if (scheduler.threads thread).stat ≠ .init then
    rtScheduleRemoveThread scheduler thread
  else scheduler

def closeTimer (scheduler : Scheduler Id Obj) (thread : Id) :
    Scheduler Id Obj :=
  { scheduler with timers := rtTimerDetach scheduler.timers thread }

def closeStat (scheduler : Scheduler Id Obj) (thread : Id) :
    Scheduler Id Obj :=
  scheduler.setThread thread (Thread.setStat .close)

def closeInsert (scheduler : Scheduler Id Obj) (thread : Id) :
    Scheduler Id Obj :=
  scheduler.setRow .defunct (thread :: scheduler.rows .defunct)

def rtThreadDetach (scheduler : Scheduler Id Obj) (thread : Id) :
    Scheduler Id Obj :=
  let scheduler := closeRemove scheduler thread
  let scheduler := closeTimer scheduler thread
  let scheduler := closeStat scheduler thread
  if (scheduler.threads thread).detached then scheduler
  else closeInsert scheduler thread

def rtThreadDelete (scheduler : Scheduler Id Obj) (thread : Id) :
    Scheduler Id Obj :=
  let scheduler := closeRemove scheduler thread
  let scheduler := closeTimer scheduler thread
  let scheduler := closeStat scheduler thread
  closeInsert scheduler thread

/-- One round of `rt_thread_idle_excute`, without the clean-up function. -/
def rtThreadIdleExcute (scheduler : Scheduler Id Obj) :
    Option (Scheduler Id Obj) :=
  match scheduler.rows .defunct with
  | [] => some scheduler
  | thread :: _ =>
      rtExitCritical (rtEnterCritical (scheduler.rtListRemove thread))

/-- The test of `rt_thread_yield`. The neighbours of a node differ when it is
in a list with another; a ready thread is in the list of its priority or in
none. -/
def Scheduler.Crowded (scheduler : Scheduler Id Obj) (thread : Id) : Prop :=
  let entry := scheduler.threads thread
  let row := Row.ready entry.currentPriority.toNat
  entry.stat = .ready ∧ thread ∈ scheduler.rows row ∧
    1 < (scheduler.rows row).length

omit [DecidableEq Obj] in
instance Scheduler.Crowded.decidable (scheduler : Scheduler Id Obj)
    (thread : Id) : Decidable (scheduler.Crowded thread) :=
  inferInstanceAs (Decidable (_ ∧ _ ∧ _))

/-- `rt_thread_yield` up to its call of `rt_schedule`: the thread goes to the
end of its list. -/
def yieldTurn (scheduler : Scheduler Id Obj) (thread : Id) :
    Scheduler Id Obj :=
  let row := Row.ready (scheduler.threads thread).currentPriority.toNat
  let scheduler := scheduler.rtListRemove thread
  scheduler.setRow row (scheduler.rows row ++ [thread])

def rtThreadYield (scheduler : Scheduler Id Obj) (thread : Id) :
    Option (Scheduler Id Obj) :=
  if scheduler.Crowded thread then rtSchedule (yieldTurn scheduler thread)
  else some scheduler

/-- The timer of the thread is set and started. -/
def startThreadTimer (scheduler : Scheduler Id Obj) (thread : Id)
    (tick : UInt32) : Scheduler Id Obj :=
  { scheduler with
    timers := rtTimerStart
      (rtTimerControl scheduler.timers thread tick .setTime).2 thread }

/-- `rt_thread_sleep` up to its call of `rt_schedule`. -/
def rtThreadSleep (scheduler : Scheduler Id Obj) (thread : Id) (tick : UInt32) :
    Scheduler Id Obj :=
  startThreadTimer (rtThreadSuspend scheduler thread).2 thread tick

/-- `rt_thread_control` with `RT_THREAD_CTRL_CHANGE_PRIORITY`. -/
def changePriority (scheduler : Scheduler Id Obj) (thread : Id)
    (priority : UInt8) : Scheduler Id Obj :=
  if (scheduler.threads thread).stat = .ready then
    let scheduler := rtScheduleRemoveThread scheduler thread
    let scheduler := scheduler.setThread thread (Thread.setPriority priority)
    rtScheduleInsertThread scheduler thread
  else scheduler.setThread thread (Thread.setPriority priority)

def rtThreadTimeout (scheduler : Scheduler Id Obj) (thread : Id) :
    Option (Scheduler Id Obj) :=
  let scheduler := scheduler.setThread thread (Thread.setError (-rtETimeout))
  let scheduler := scheduler.rtListRemove thread
  rtSchedule (rtScheduleInsertThread scheduler thread)

/-! The sections of `rt_tick_increase`. -/

def countTick (scheduler : Scheduler Id Obj) : Scheduler Id Obj :=
  { scheduler with
    timers := { scheduler.timers with
      rtTick := scheduler.timers.rtTick + 1 } }

/-- The time slice of the thread, and whether the thread is to yield. -/
def countSlice (scheduler : Scheduler Id Obj) (thread : Id) :
    Bool × Scheduler Id Obj :=
  let entry := scheduler.threads thread
  let scheduler := scheduler.setThread thread
    (Thread.setRemainingTick (entry.remainingTick - 1))
  if (scheduler.threads thread).remainingTick = 0 then
    (true, scheduler.setThread thread (Thread.setRemainingTick entry.initTick))
  else (false, scheduler)

/-- `rt_timer_check`: the threads whose timers ran, and the scheduler. The
function of a thread's timer leaves the timers alone. -/
def Scheduler.rtTimerCheck (scheduler : Scheduler Id Obj) :
    Option (List Id × Scheduler Id Obj) :=
  (Kernel.rtTimerCheck (fun _ => []) scheduler.timers).bind
    fun (ran, timers) =>
      (ran.foldlM rtThreadTimeout { scheduler with timers := timers }).map
        fun scheduler => (ran, scheduler)

/-- The tick interrupt. -/
def Scheduler.rtTickIncrease (scheduler : Scheduler Id Obj) :
    Option (List Id × Scheduler Id Obj) :=
  let scheduler := countTick scheduler
  scheduler.rtCurrentThread.bind fun thread =>
    let (turn, scheduler) := countSlice scheduler thread
    (if turn then rtThreadYield scheduler thread else some scheduler).bind
      Scheduler.rtTimerCheck

/-- `rt_ipc_list_suspend`, with the timer that its callers start when they wait
for a time. -/
def rtIpcListSuspend (scheduler : Scheduler Id Obj) (object : Obj)
    (thread : Id) (flag : IpcFlag) : Scheduler Id Obj :=
  let scheduler := (rtThreadSuspend scheduler thread).2
  let list := scheduler.rows (.suspended object)
  match flag with
  | .fifo => scheduler.setRow (.suspended object) (list ++ [thread])
  | .prio =>
      let priority := (scheduler.threads thread).currentPriority
      scheduler.setRow (.suspended object)
        (Rows.insertBefore (fun sthread =>
          priority < (scheduler.threads sthread).currentPriority) thread list)

/-- The callers see that the list is not empty. -/
def rtIpcListResume (scheduler : Scheduler Id Obj) (object : Obj) :
    Scheduler Id Obj :=
  match scheduler.rows (.suspended object) with
  | [] => scheduler
  | thread :: _ => (rtThreadResume scheduler thread).2

/-- One turn of the loop of `rt_ipc_list_resume_all`, on a list that is not
empty. -/
def resumeAllTurn (scheduler : Scheduler Id Obj) (object : Obj) :
    Scheduler Id Obj :=
  match scheduler.rows (.suspended object) with
  | [] => scheduler
  | thread :: _ =>
      let scheduler := scheduler.setThread thread (Thread.setError (-rtError))
      (rtThreadResume scheduler thread).2

/-- The loop of `rt_ipc_list_resume_all`, `none` for a loop that has not
ended. -/
def resumeAllLoop (object : Obj) :
    Nat → Scheduler Id Obj → Option (Scheduler Id Obj)
  | 0, _ => none
  | fuel + 1, scheduler =>
      match scheduler.rows (.suspended object) with
      | [] => some scheduler
      | _ :: _ => resumeAllLoop object fuel (resumeAllTurn scheduler object)

def rtIpcListResumeAll (scheduler : Scheduler Id Obj) (object : Obj) :
    Option (Scheduler Id Obj) :=
  resumeAllLoop object ((scheduler.rows (.suspended object)).length + 1)
    scheduler

end Ch32v307.Kernel
