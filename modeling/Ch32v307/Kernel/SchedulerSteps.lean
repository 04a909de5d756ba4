import Ch32v307.Data.Run
import Ch32v307.Kernel.SchedulerFrames

namespace Ch32v307.Kernel

open Data Rows Scheduler TimerSystem

/-! The steps of the scheduler. Interrupts, and with them other threads, come
between any two of them: a step is a function that disables interrupts, or that
is called with interrupts disabled, or one section of a function that enables
them on its way. -/

/-- The section that a function has still to run with the thread it has taken
out of its list. -/
inductive Stage
  | insert
  | timer
  | stat
  | defunct
  deriving DecidableEq

/-- The scheduler between two sections, with what is left to do to each thread.
`ticking` between the tick and `rt_timer_check`. -/
structure Instant (Id Obj : Type) where
  scheduler : Scheduler Id Obj
  stage : Id → Option Stage
  ticking : Bool

/-- `rt_thread_resume` and `rt_ipc_list_resume_all` are steps for the callers
that disable interrupts. -/
inductive SchedStep (Id Obj : Type)
  | systemSchedulerStart
  | schedule
  | threadInit (thread : Id) (priority : UInt8) (tick : UInt32) (detached : Bool)
  | startupSet (thread : Id)
  | resumeTake (thread : Id)
  | scheduleInsertThread (thread : Id)
  | threadResume (thread : Id)
  | threadSuspend (thread : Id)
  | threadYield
  | threadSleep (tick : UInt32)
  | changePriority (thread : Id) (priority : UInt8)
  | threadExit
  | closeRemove (thread : Id)
  | closeTimer (thread : Id)
  | closeStat (thread : Id) (defunct : Bool)
  | closeInsert (thread : Id)
  | idleExcute
  | enterCritical
  | exitCritical
  | ipcSuspend (object : Obj) (flag : IpcFlag) (time : Option UInt32)
  | ipcResume (object : Obj)
  | ipcResumeAll (object : Obj)
  | resumeAllTurn (object : Obj)
  | countTick
  | countSlice (thread : Id)
  | timerCheck

variable {Id Obj : Type} [DecidableEq Id] [DecidableEq Obj]

/-- A step of the current thread, or of an interrupt. -/
def Scheduler.step (scheduler : Scheduler Id Obj) :
    SchedStep Id Obj → Option (Scheduler Id Obj)
  | .systemSchedulerStart => rtSystemSchedulerStart scheduler
  | .schedule => rtSchedule scheduler
  | .threadInit thread priority tick detached =>
      some (rtThreadInit scheduler thread priority tick detached)
  | .startupSet thread => some (startupSet scheduler thread)
  | .resumeTake thread => some (resumeTake scheduler thread)
  | .scheduleInsertThread thread =>
      some (rtScheduleInsertThread scheduler thread)
  | .threadResume thread => some (rtThreadResume scheduler thread).2
  | .threadSuspend thread => some (rtThreadSuspend scheduler thread).2
  | .threadYield => scheduler.rtCurrentThread.map fun thread =>
      if scheduler.Crowded thread then yieldTurn scheduler thread
      else scheduler
  | .threadSleep tick => scheduler.rtCurrentThread.map fun thread =>
      rtThreadSleep scheduler thread tick
  | .changePriority thread priority =>
      some (changePriority scheduler thread priority)
  | .threadExit => scheduler.rtCurrentThread.map (rtThreadExit scheduler)
  | .closeRemove thread => some (closeRemove scheduler thread)
  | .closeTimer thread => some (closeTimer scheduler thread)
  | .closeStat thread _ => some (closeStat scheduler thread)
  | .closeInsert thread => some (closeInsert scheduler thread)
  | .idleExcute => rtThreadIdleExcute scheduler
  | .enterCritical => some (rtEnterCritical scheduler)
  | .exitCritical => some (exitNest scheduler)
  | .ipcSuspend object flag time => scheduler.rtCurrentThread.map fun thread =>
      let scheduler := rtIpcListSuspend scheduler object thread flag
      match time with
      | none => scheduler
      | some tick => startThreadTimer scheduler thread tick
  | .ipcResume object => some (rtIpcListResume scheduler object)
  | .ipcResumeAll object => rtIpcListResumeAll scheduler object
  | .resumeAllTurn object => some (resumeAllTurn scheduler object)
  | .countTick => some (countTick scheduler)
  | .countSlice thread => some (countSlice scheduler thread).2
  | .timerCheck => scheduler.rtTimerCheck.map Prod.snd

/-- What is left to do after a step. -/
def SchedStep.stages (stage : Id → Option Stage) :
    SchedStep Id Obj → Id → Option Stage
  | .resumeTake thread => Function.update stage thread (some .insert)
  | .scheduleInsertThread thread => Function.update stage thread none
  | .closeRemove thread => Function.update stage thread (some .timer)
  | .closeTimer thread => Function.update stage thread (some .stat)
  | .closeStat thread defunct =>
      Function.update stage thread (if defunct then some .defunct else none)
  | .closeInsert thread => Function.update stage thread none
  | _ => stage

def SchedStep.ticks {Id Obj : Type} (ticking : Bool) : SchedStep Id Obj → Bool
  | .countTick => true
  | .timerCheck => false
  | _ => ticking

def Instant.step (instant : Instant Id Obj) (step : SchedStep Id Obj) :
    Option (Instant Id Obj) :=
  (instant.scheduler.step step).map fun scheduler =>
    ⟨scheduler, step.stages instant.stage, step.ticks instant.ticking⟩

/-! Each function is a run of its sections. -/

section Sections

variable {scheduler after : Scheduler Id Obj} {thread : Id} {object : Obj}

def Scheduler.run (scheduler : Scheduler Id Obj)
    (steps : List (SchedStep Id Obj)) : Option (Scheduler Id Obj) :=
  steps.foldlM Scheduler.step scheduler

theorem rtThreadResume_sections
    (suspended : (scheduler.threads thread).stat = .suspend) :
    scheduler.run [.resumeTake thread, .scheduleInsertThread thread] =
      some (rtThreadResume scheduler thread).2 := by
  rw [rtThreadResume_eq suspended]
  rfl

theorem rtThreadStartup_sections :
    scheduler.run [.startupSet thread, .resumeTake thread,
        .scheduleInsertThread thread] =
      some (rtThreadStartup scheduler thread) := by
  apply rtThreadResume_sections
  exact congrArg Thread.stat (setThread_self ..)

theorem rtThreadDetach_sections :
    scheduler.run ([.closeRemove thread, .closeTimer thread,
        .closeStat thread (!(scheduler.threads thread).detached)] ++
          if (scheduler.threads thread).detached then []
          else [.closeInsert thread]) =
      some (rtThreadDetach scheduler thread) := by
  have same : ((closeStat (closeTimer (closeRemove scheduler thread) thread)
      thread).threads thread).detached = (scheduler.threads thread).detached := by
    refine (congrArg Thread.detached (setThread_self ..)).trans ?_
    exact congrArg (fun threads => (threads thread).detached) closeRemove_threads
  unfold rtThreadDetach
  dsimp only
  rw [same]
  split
  case isTrue => rfl
  case isFalse => rfl

theorem rtThreadDelete_sections :
    scheduler.run [.closeRemove thread, .closeTimer thread,
        .closeStat thread true, .closeInsert thread] =
      some (rtThreadDelete scheduler thread) := rfl

theorem rtThreadYield_sections (running : scheduler.rtCurrentThread = some thread) :
    scheduler.run (if scheduler.Crowded thread then [.threadYield, .schedule]
        else [.threadYield]) = rtThreadYield scheduler thread := by
  unfold rtThreadYield
  split
  case isTrue crowded =>
    simp [Scheduler.run, Scheduler.step, running, crowded]
  case isFalse alone =>
    simp [Scheduler.run, Scheduler.step, running, alone]

theorem rtExitCritical_sections :
    scheduler.run (if (exitNest scheduler).rtSchedulerLockNest = 0 ∧
        scheduler.rtCurrentThread.isSome then [.exitCritical, .schedule]
        else [.exitCritical]) = rtExitCritical scheduler := by
  unfold rtExitCritical
  dsimp only
  have current : (exitNest scheduler).rtCurrentThread =
    scheduler.rtCurrentThread := rfl
  rw [current]
  split
  case isTrue => simp [Scheduler.run, Scheduler.step]
  case isFalse => simp [Scheduler.run, Scheduler.step]

theorem resumeAllLoop_sections {fuel : Nat}
    (looped : resumeAllLoop object fuel scheduler = some after) :
    ∃ turns, scheduler.run (.replicate turns (.resumeAllTurn object)) =
      some after := by
  induction fuel generalizing scheduler with
  | zero => cases looped
  | succ fuel ih =>
      unfold resumeAllLoop at looped
      split at looped
      case h_1 => exact ⟨0, looped⟩
      case h_2 =>
        obtain ⟨turns, ran⟩ := ih looped
        exact ⟨turns + 1, ran⟩

theorem rtTickIncrease_sections
    (running : scheduler.rtCurrentThread = some thread) :
    scheduler.run ([.countTick, .countSlice thread] ++
        ((if (countSlice (countTick scheduler) thread).1 then
          if (countSlice (countTick scheduler) thread).2.Crowded thread then
            [.threadYield, .schedule]
          else [.threadYield]
        else []) ++ [.timerCheck])) =
      scheduler.rtTickIncrease.map Prod.snd := by
  have counted : scheduler.run [.countTick, .countSlice thread] =
      some (countSlice (countTick scheduler) thread).2 := rfl
  have current : (countSlice (countTick scheduler) thread).2.rtCurrentThread =
      some thread := countSlice_same.2.trans running
  have ticking : (countTick scheduler).rtCurrentThread = some thread := running
  rw [Scheduler.run, Run.foldlM_append_of counted, Scheduler.rtTickIncrease]
  dsimp only
  rw [ticking, Option.bind_some]
  split
  case isTrue =>
    have yields := rtThreadYield_sections current
    rw [Scheduler.run] at yields
    rw [List.foldlM_append, yields, Option.map_bind]
    refine Option.bind_congr fun after _ => ?_
    exact bind_pure _
  case isFalse => exact bind_pure _

end Sections

/-! What the functions' callers see to. -/

/-- The test of `rt_timer_check`. -/
def TimerSystem.TimesOut (system : TimerSystem Id) (timer : Id) : Prop :=
  rtTickGet system - (system.timers timer).timeoutTick < rtTickMax / 2

omit [DecidableEq Id] in
instance TimerSystem.TimesOut.decidable (system : TimerSystem Id) (timer : Id) :
    Decidable (system.TimesOut timer) := inferInstanceAs (Decidable (_ < _))

/-- The current thread is ready, not the idle thread, and no function is midway
with it. -/
def Instant.Running (idle : Id) (instant : Instant Id Obj) : Prop :=
  instant.scheduler.rtCurrentThread.isSome ∧
    ∀ thread ∈ instant.scheduler.rtCurrentThread, thread ≠ idle ∧
      (instant.scheduler.threads thread).stat = .ready ∧
      instant.stage thread = none

/-- Threads run once the scheduler has started, with the idle thread ready,
which is never suspended or closed; a thread is made from one that is not in
use; priorities are in the table. A thread that a function is midway with is
left to that function, which goes on with its next section, and its timer does
not time out meanwhile. A tick's interrupt checks the timers before the next
one. -/
def Instant.Allowed (idle : Id) (instant : Instant Id Obj) :
    SchedStep Id Obj → Prop
  | .systemSchedulerStart =>
      (instant.scheduler.threads idle).stat = .ready ∧
        instant.stage idle = none
  | .schedule => instant.scheduler.rtCurrentThread.isSome
  | .threadInit thread priority _ _ =>
      priority.toNat < rtThreadPriorityMax ∧ instant.stage thread = none ∧
        ((instant.scheduler.threads thread).stat = .init ∨
          ((instant.scheduler.threads thread).stat = .close ∧
            thread ∉ instant.scheduler.rows .defunct))
  | .startupSet thread =>
      (instant.scheduler.threads thread).stat = .init ∧
        instant.stage thread = none
  | .resumeTake thread =>
      (instant.scheduler.threads thread).stat = .suspend ∧
        instant.stage thread = none
  | .scheduleInsertThread thread => instant.stage thread = some .insert
  | .threadResume thread => instant.stage thread = none
  | .threadSuspend thread => thread ≠ idle ∧ instant.stage thread = none
  | .threadYield => instant.scheduler.rtCurrentThread.isSome
  | .threadSleep _ => instant.Running idle
  | .changePriority thread priority =>
      priority.toNat < rtThreadPriorityMax ∧ instant.stage thread = none
  | .threadExit => instant.Running idle
  | .closeRemove thread => thread ≠ idle ∧ instant.stage thread = none
  | .closeTimer thread => instant.stage thread = some .timer
  | .closeStat thread _ => instant.stage thread = some .stat
  | .closeInsert thread => instant.stage thread = some .defunct
  | .ipcSuspend _ _ _ => instant.Running idle
  | .resumeAllTurn object =>
      instant.scheduler.rows (.suspended object) ≠ []
  | .countTick =>
      instant.scheduler.rtCurrentThread.isSome ∧ instant.ticking = false
  | .timerCheck =>
      instant.scheduler.rtCurrentThread.isSome ∧ instant.ticking = true ∧
        ∀ thread ∈ instant.scheduler.timers.rtTimerList,
          instant.stage thread ≠ none →
            ¬instant.scheduler.timers.TimesOut thread
  | _ => True

omit [DecidableEq Obj] in
instance Instant.Running.decidable (idle : Id) (instant : Instant Id Obj) :
    Decidable (instant.Running idle) :=
  inferInstanceAs (Decidable (_ ∧ ∀ thread ∈ instant.scheduler.rtCurrentThread,
    _ ∧ _ ∧ _))

omit [DecidableEq Obj] in
instance Instant.Allowed.decidable (idle : Id) (instant : Instant Id Obj) :
    ∀ step, Decidable (instant.Allowed idle step)
  | .systemSchedulerStart => inferInstanceAs (Decidable (_ ∧ _))
  | .schedule => inferInstanceAs (Decidable (_ = true))
  | .threadInit .. => inferInstanceAs (Decidable (_ ∧ _ ∧ _))
  | .startupSet _ => inferInstanceAs (Decidable (_ ∧ _))
  | .resumeTake _ => inferInstanceAs (Decidable (_ ∧ _))
  | .scheduleInsertThread _ => inferInstanceAs (Decidable (_ = _))
  | .threadResume _ => inferInstanceAs (Decidable (_ = _))
  | .threadSuspend _ => inferInstanceAs (Decidable (_ ∧ _))
  | .threadYield => inferInstanceAs (Decidable (_ = true))
  | .threadSleep _ => Instant.Running.decidable idle instant
  | .changePriority .. => inferInstanceAs (Decidable (_ ∧ _))
  | .threadExit => Instant.Running.decidable idle instant
  | .closeRemove _ => inferInstanceAs (Decidable (_ ∧ _))
  | .closeTimer _ => inferInstanceAs (Decidable (_ = _))
  | .closeStat .. => inferInstanceAs (Decidable (_ = _))
  | .closeInsert _ => inferInstanceAs (Decidable (_ = _))
  | .idleExcute => inferInstanceAs (Decidable True)
  | .enterCritical => inferInstanceAs (Decidable True)
  | .exitCritical => inferInstanceAs (Decidable True)
  | .ipcSuspend .. => Instant.Running.decidable idle instant
  | .ipcResume _ => inferInstanceAs (Decidable True)
  | .ipcResumeAll _ => inferInstanceAs (Decidable True)
  | .resumeAllTurn object =>
      inferInstanceAs (Decidable
        (instant.scheduler.rows (.suspended object) ≠ []))
  | .countTick => inferInstanceAs (Decidable (_ ∧ _))
  | .countSlice _ => inferInstanceAs (Decidable True)
  | .timerCheck => inferInstanceAs (Decidable (_ ∧ _ ∧ _))

end Ch32v307.Kernel
