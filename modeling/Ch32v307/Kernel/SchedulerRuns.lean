import Ch32v307.Kernel.SchedulerSteps

namespace Ch32v307.Kernel

open Data Rows Scheduler TimerSystem

/-! What holds after any run of the scheduler's steps. -/

variable {Id Obj : Type}

/-- The threads that a function is midway with. -/
def midway (stage : Id → Option Stage) : Set Id :=
  {thread | stage thread ≠ none}

section Midway

variable {stage : Id → Option Stage} {thread : Id}

theorem not_midway (free : stage thread = none) : thread ∉ midway stage :=
  fun taken => taken free

variable [DecidableEq Id]

theorem midway_take (next : Stage) :
    midway (Function.update stage thread (some next)) =
      insert thread (midway stage) := by
  ext other
  by_cases same : other = thread
  · subst same
    simp [midway]
  · simp [midway, same]

theorem midway_go {next : Stage} (taken : stage thread = some next)
    (later : Stage) :
    midway (Function.update stage thread (some later)) = midway stage := by
  rw [midway_take]
  apply Set.insert_eq_of_mem
  show stage thread ≠ none
  rw [taken]
  exact Option.some_ne_none next

theorem midway_put {next : Stage} (taken : stage thread = some next) :
    insert thread (midway (Function.update stage thread none)) =
      midway stage := by
  ext other
  by_cases same : other = thread
  · subst same
    simp [midway, taken]
  · simp [midway, same]

theorem midway_back :
    thread ∉ midway (Function.update stage thread none) :=
  not_midway (Function.update_self ..)

end Midway

/-- What the section before has left. -/
def Stage.Left (scheduler : Scheduler Id Obj) (thread : Id) : Stage → Prop
  | .insert => (scheduler.threads thread).stat = .suspend ∧
      thread ∉ scheduler.timers.rtTimerList
  | .timer => True
  | .stat => thread ∉ scheduler.timers.rtTimerList
  | .defunct => (scheduler.threads thread).stat = .close ∧
      thread ∉ scheduler.timers.rtTimerList

/-- The scheduler keeps its lists, has a thread to run, and can go on with what
it is midway with. -/
structure Steady (idle : Id) (stage : Id → Option Stage)
    (scheduler : Scheduler Id Obj) : Prop where
  sound : Sound (midway stage) scheduler
  left : ∀ thread, ∀ next ∈ stage thread, next.Left scheduler thread
  awake : scheduler.rtCurrentThread.isSome →
    (scheduler.threads idle).stat = .ready ∧ stage idle = none

section Keep

variable {idle thread : Id} {stage later : Id → Option Stage}
  {scheduler after : Scheduler Id Obj} {touched : Id → Prop}

theorem Stage.Left.frame {next : Stage} (left : next.Left scheduler thread)
    (frame : Frame touched scheduler after) (apart : ¬touched thread) :
    next.Left after thread := by
  have stat := frame.stat thread apart
  have quiet : thread ∉ scheduler.timers.rtTimerList →
      thread ∉ after.timers.rtTimerList := fun absent member =>
    absent (frame.timers thread member apart)
  cases next with
  | insert => exact ⟨stat.trans left.1, quiet left.2⟩
  | timer => exact left
  | stat => exact quiet left
  | defunct => exact ⟨stat.trans left.1, quiet left.2⟩

/-- A step that touches no thread a function is midway with. -/
theorem Steady.keep (steady : Steady idle stage scheduler)
    (sound : Sound (midway stage) after)
    (frame : Frame touched scheduler after)
    (free : ∀ thread, touched thread → stage thread = none)
    (awake : touched idle → (scheduler.threads idle).stat = .ready →
      (after.threads idle).stat = .ready)
    (running : after.rtCurrentThread.isSome →
      scheduler.rtCurrentThread.isSome) :
    Steady idle stage after := by
  refine ⟨sound, ?_, fun runs => ?_⟩
  · intro thread next taken
    apply (steady.left thread next taken).frame frame
    intro touches
    rw [free thread touches] at taken
    cases taken
  · obtain ⟨ready, own⟩ := steady.awake (running runs)
    refine ⟨?_, own⟩
    by_cases touches : touched idle
    · exact awake touches ready
    · rw [frame.stat idle touches]
      exact ready

variable [DecidableEq Id]

/-- A step that a function takes with the thread it is midway with, or is from
then on. -/
theorem Steady.move {next : Option Stage} (steady : Steady idle stage scheduler)
    (sound : Sound (midway (Function.update stage thread next)) after)
    (frame : Frame (· = thread) scheduler after)
    (left : ∀ stage ∈ next, stage.Left after thread)
    (apart : idle = thread → scheduler.rtCurrentThread.isSome → False)
    (current : after.rtCurrentThread = scheduler.rtCurrentThread) :
    Steady idle (Function.update stage thread next) after := by
  refine ⟨sound, ?_, fun runs => ?_⟩
  · intro other stage taken
    by_cases same : other = thread
    · subst same
      rw [Function.update_self] at taken
      exact left stage taken
    · rw [Function.update_of_ne same] at taken
      exact (steady.left other stage taken).frame frame same
  · rw [current] at runs
    obtain ⟨ready, own⟩ := steady.awake runs
    have differ : idle ≠ thread := fun same => apart same runs
    rw [Function.update_of_ne differ, frame.stat idle differ]
    exact ⟨ready, own⟩

end Keep

variable [DecidableEq Id] [DecidableEq Obj]

section Ticks

variable {away : Set Id} {scheduler after : Scheduler Id Obj} {idle : Id}
  {ran : List Id}

/-- What `rt_timer_check` does: the threads whose timers ran. -/
structure Rang (scheduler after : Scheduler Id Obj) (ran : List Id) : Prop where
  checked : Checked scheduler.timers after.timers ran
  others : ∀ thread ∉ ran, after.threads thread = scheduler.threads thread
  woken : ∀ thread ∈ ran, after.threads thread =
    Thread.setStat .ready (Thread.setError (-rtETimeout)
      (scheduler.threads thread))

/-- The check ends, and keeps the lists and the threads in agreement, when no
thread that is away times out. -/
theorem Sound.timerCheck (sound : Sound away scheduler) (here : idle ∉ away)
    (ready : (scheduler.threads idle).stat = .ready)
    (quiet : ∀ thread ∈ scheduler.timers.rtTimerList, thread ∈ away →
      ¬scheduler.timers.TimesOut thread) :
    ∃ ran after, scheduler.rtTimerCheck = some (ran, after) ∧
      Sound away after ∧ Rang scheduler after ran ∧
      (∀ thread ∈ ran, thread ∉ away) ∧ idle ∉ ran := by
  obtain ⟨ran, rest, check, checked⟩ :=
    timerCheckLoop_once sound.once sound.nodup (Nat.lt_succ_self _)
  have list := checked.list
  have nodup := list ▸ sound.nodup
  obtain ⟨first, second, apart⟩ := List.nodup_append.mp nodup
  have still : ∀ other ∈ rest.rtTimerList, other ∉ ran := fun other member here =>
    apart other here other member rfl
  have inside : ∀ other ∈ ran, other ∈ scheduler.timers.rtTimerList :=
    fun other member => list ▸ List.mem_append_left _ member
  have present : ∀ other ∈ ran, other ∉ away := fun other member gone =>
    quiet other (inside other member) gone (checked.ripe other member)
  have waits : ∀ other ∈ ran, (scheduler.threads other).stat = .suspend :=
    fun other member =>
      sound.waits other (inside other member) (present other member)
  have timed : Sound away { scheduler with timers := rest } := by
    apply sound.setTimers second
    · intro other member
      rw [checked.others other (still other member)]
      exact sound.active other (list ▸ List.mem_append_right _ member)
    · exact fun other member =>
        sound.waits other (list ▸ List.mem_append_right _ member)
    · intro other
      by_cases rang : other ∈ ran
      · rw [checked.stopped other rang]
        exact sound.once other
      · rw [checked.others other rang]
        exact sound.once other
  obtain ⟨after, woken, final, out⟩ := timed.timeouts first present waits
    (fun other member inside => still other inside member) here ready
  refine ⟨ran, after, ?_, final, ?_, present, ?_⟩
  · rw [Scheduler.rtTimerCheck, Kernel.rtTimerCheck, check, Option.bind_some]
    dsimp only
    rw [woken]
    rfl
  · exact ⟨out.timers ▸ checked, out.others, out.woken⟩
  · intro member
    cases ready.symm.trans (waits idle member)

end Ticks

section Steps

variable {scheduler after : Scheduler Id Obj} {idle thread : Id}
  {stage : Id → Option Stage}

omit [DecidableEq Obj] in
theorem Steady.schedule (steady : Steady idle stage scheduler)
    (running : scheduler.rtCurrentThread.isSome) :
    ∃ after, rtSchedule scheduler = some after ∧ Steady idle stage after := by
  obtain ⟨ready, own⟩ := steady.awake running
  obtain ⟨after, scheduled⟩ := steady.sound.schedules (not_midway own) ready
  obtain ⟨threads, -, timers⟩ := rtSchedule_same scheduled
  have frame : Frame (fun _ => False) scheduler after := .of_eq threads timers
  exact ⟨after, scheduled, steady.keep (steady.sound.schedule scheduled) frame
    (fun _ => False.elim) False.elim fun _ => running⟩

omit [DecidableEq Id] [DecidableEq Obj] in
theorem Steady.setNest (steady : Steady idle stage scheduler) (nest : Int16) :
    Steady idle stage { scheduler with rtSchedulerLockNest := nest } :=
  ⟨steady.sound.setCurrent _ _ nest, steady.left, steady.awake⟩

omit [DecidableEq Obj] in
theorem Steady.exitCritical (steady : Steady idle stage scheduler) :
    ∃ after, rtExitCritical scheduler = some after ∧
      Steady idle stage after := by
  have exited : Steady idle stage (exitNest scheduler) := steady.setNest _
  unfold rtExitCritical
  dsimp only
  split
  case isTrue both => exact exited.schedule both.2
  case isFalse => exact ⟨_, rfl, exited⟩

theorem Steady.resume (steady : Steady idle stage scheduler)
    (free : stage thread = none) :
    Steady idle stage (rtThreadResume scheduler thread).2 := by
  apply steady.keep (steady.sound.resume (not_midway free)) .resume
  · exact fun other same => same ▸ free
  · exact fun _ => rtThreadResume_ready
  · rw [rtThreadResume_current]
    exact id

omit [DecidableEq Id] [DecidableEq Obj] in
/-- What is done to a free thread other than the idle thread. -/
theorem Steady.other (steady : Steady idle stage scheduler)
    (sound : Sound (midway stage) after)
    (frame : Frame (· = thread) scheduler after) (free : stage thread = none)
    (apart : thread ≠ idle)
    (current : after.rtCurrentThread = scheduler.rtCurrentThread) :
    Steady idle stage after := by
  apply steady.keep sound frame
  · exact fun other same => same ▸ free
  · exact fun same => absurd same.symm apart
  · rw [current]
    exact id

omit [DecidableEq Obj] in
theorem Steady.sleep (steady : Steady idle stage scheduler)
    (apart : thread ≠ idle) (ready : (scheduler.threads thread).stat = .ready)
    (free : stage thread = none) (tick : UInt32) :
    Steady idle stage (rtThreadSleep scheduler thread tick) := by
  obtain ⟨-, suspended, -⟩ := steady.sound.suspend ready
  exact steady.other
    ((steady.sound.suspend_rest thread).startThreadTimer suspended tick)
    (Frame.suspend.startThreadTimer tick) free apart rtThreadSuspend_current

theorem Steady.ipcSuspend (steady : Steady idle stage scheduler)
    (apart : thread ≠ idle) (ready : (scheduler.threads thread).stat = .ready)
    (free : stage thread = none) (object : Obj) (flag : IpcFlag) :
    Steady idle stage (rtIpcListSuspend scheduler object thread flag) ∧
      ∀ tick, Steady idle stage (startThreadTimer
        (rtIpcListSuspend scheduler object thread flag) thread tick) := by
  have sound :=
    steady.sound.ipcListSuspend (not_midway free) object flag ready
  have frame := @Frame.ipcListSuspend _ _ scheduler thread _ _ object flag
  have current := @rtIpcListSuspend_current _ _ scheduler thread _ _ object flag
  have suspended : ((rtIpcListSuspend scheduler object thread flag).threads
      thread).stat = .suspend := by
    rw [rtIpcListSuspend_threads, rtThreadSuspend_self ready]
    rfl
  exact ⟨steady.other sound frame free apart current, fun tick =>
    steady.other (sound.startThreadTimer suspended tick)
      (frame.startThreadTimer tick) free apart current⟩

theorem Steady.detach (steady : Steady idle stage scheduler)
    (apart : thread ≠ idle) (free : stage thread = none) :
    Steady idle stage (rtThreadDetach scheduler thread) := by
  apply steady.other (steady.sound.detach (not_midway free)) _ free apart
    rtThreadDetach_current
  refine ⟨fun other differ => ?_, fun other member _ => ?_⟩
  · rw [rtThreadDetach_other differ]
  · rw [rtThreadDetach_timers] at member
    exact List.mem_of_mem_erase member

omit [DecidableEq Obj] in
theorem Steady.threadInit (steady : Steady idle stage scheduler)
    {priority : UInt8} (small : priority.toNat < rtThreadPriorityMax)
    (free : stage thread = none)
    (unused : (scheduler.threads thread).stat = .init ∨
      ((scheduler.threads thread).stat = .close ∧
        thread ∉ scheduler.rows .defunct)) (tick : UInt32) (detached : Bool) :
    Steady idle stage (rtThreadInit scheduler thread priority tick detached) := by
  have sound := steady.sound
  have absent : ∀ row, thread ∉ scheduler.rows row := by
    cases unused with
    | inl fresh => exact sound.init_absent fresh
    | inr closed =>
        intro row member
        have fits := sound.fits row thread member
        cases row with
        | ready priority => cases closed.1.symm.trans fits.1
        | suspended object => cases closed.1.symm.trans fits
        | defunct => exact closed.2 member
  have idleness : ∀ stat, (scheduler.threads thread).stat = stat →
      stat = .init ∨ stat = .close := by
    intro stat same
    subst same
    exact unused.imp_right And.left
  have quiet : thread ∉ scheduler.timers.rtTimerList := by
    intro member
    cases idleness _ (sound.waits thread member (not_midway free)) with
    | inl same => cases same
    | inr same => cases same
  have frame : Frame (· = thread) scheduler
      (rtThreadInit scheduler thread priority tick detached) :=
    ⟨fun other apart => congrArg Thread.stat (Function.update_of_ne apart _ _),
      fun _ member _ => member⟩
  apply steady.keep (sound.threadInit absent quiet small tick detached) frame
  · exact fun other same => same ▸ free
  · intro same ready
    cases idleness _ (same ▸ ready) with
    | inl same => cases same
    | inr same => cases same
  · exact id

omit [DecidableEq Obj] in
/-- A thread to delete leaves the list of those. -/
theorem Steady.reap (steady : Steady idle stage scheduler)
    (row : thread ∈ scheduler.rows .defunct) :
    Steady idle stage (scheduler.rtListRemove thread) := by
  have sound := steady.sound
  have closed : (scheduler.threads thread).stat = .close :=
    sound.fits .defunct thread row
  refine ⟨(sound.unhang ?_).rest ?_ ?_, steady.left, steady.awake⟩
  · rw [closed]
    exact ThreadStat.noConfusion
  · rw [rtListRemove_threads, closed]
    exact ThreadStat.noConfusion
  · exact fun member => sound.waits thread member (sound.present row)

omit [DecidableEq Obj] in
theorem Steady.idleExcute (steady : Steady idle stage scheduler) :
    ∃ after, rtThreadIdleExcute scheduler = some after ∧
      Steady idle stage after := by
  unfold rtThreadIdleExcute
  cases row : scheduler.rows .defunct with
  | nil => exact ⟨scheduler, rfl, steady⟩
  | cons thread rest =>
      have entered : Steady idle stage
          (rtEnterCritical (scheduler.rtListRemove thread)) :=
        (steady.reap (row ▸ List.mem_cons_self)).setNest _
      exact entered.exitCritical

theorem Steady.ipcResume (steady : Steady idle stage scheduler) (object : Obj) :
    Steady idle stage (rtIpcListResume scheduler object) := by
  unfold rtIpcListResume
  split
  case h_1 => exact steady
  case h_2 thread rest row =>
    apply steady.resume
    have present := steady.sound.present (row ▸ List.mem_cons_self)
    exact not_not.mp present

omit [DecidableEq Id] [DecidableEq Obj] in
/-- The threads that wait for an object are woken. -/
theorem Steady.wake {woken : Id → Prop} {object : Obj}
    (steady : Steady idle stage scheduler)
    (waiting : ∀ thread, woken thread →
      thread ∈ scheduler.rows (.suspended object))
    (sound : Sound (midway stage) after)
    (others : ∀ thread, ¬woken thread →
      after.threads thread = scheduler.threads thread)
    (timers : Fewer scheduler.timers after.timers woken)
    (current : after.rtCurrentThread = scheduler.rtCurrentThread) :
    Steady idle stage after := by
  apply steady.keep sound (.of_fewer others timers)
  · exact fun thread wakes =>
      not_not.mp (steady.sound.present (waiting thread wakes))
  · intro wakes ready
    have suspended := steady.sound.fits _ _ (waiting idle wakes)
    cases ready.symm.trans suspended
  · rw [current]
    exact id

theorem Steady.ipcResumeAll (steady : Steady idle stage scheduler) (object : Obj) :
    ∃ after, rtIpcListResumeAll scheduler object = some after ∧
      Steady idle stage after := by
  have loop : ∃ after, rtIpcListResumeAll scheduler object = some after ∧
      Sound (midway stage) after ∧ WokenAll scheduler after object :=
    steady.sound.resumeAllLoop (Nat.lt_succ_self _)
  obtain ⟨after, looped, sound, woken⟩ := loop
  exact ⟨after, looped, steady.wake (fun _ => id) sound woken.others woken.timers
    woken.current⟩

theorem Steady.resumeAllTurn (steady : Steady idle stage scheduler)
    {object : Obj} (filled : scheduler.rows (.suspended object) ≠ []) :
    Steady idle stage (resumeAllTurn scheduler object) := by
  obtain ⟨thread, rest, row⟩ := List.exists_cons_of_ne_nil filled
  obtain ⟨sound, turn⟩ := steady.sound.resumeAllTurn row
  have member : ∀ other, other = thread →
      other ∈ scheduler.rows (.suspended object) := by
    intro other same
    rw [same, row]
    exact List.mem_cons_self
  exact steady.wake member sound turn.others turn.timers turn.current

/-- The timer check wakes no thread that a function is midway with. -/
theorem Steady.timerCheck (steady : Steady idle stage scheduler)
    (running : scheduler.rtCurrentThread.isSome)
    (quiet : ∀ thread ∈ scheduler.timers.rtTimerList, stage thread ≠ none →
      ¬scheduler.timers.TimesOut thread) :
    ∃ ran after, scheduler.rtTimerCheck = some (ran, after) ∧
      Steady idle stage after ∧ Rang scheduler after ran := by
  obtain ⟨ready, own⟩ := steady.awake running
  obtain ⟨ran, after, check, sound, rang, present, silent⟩ :=
    steady.sound.timerCheck (not_midway own) ready quiet
  have list := rang.checked.list
  have frame : Frame (· ∈ ran) scheduler after :=
    ⟨fun thread outside => by rw [rang.others thread outside],
      fun thread member _ => list ▸ List.mem_append_right _ member⟩
  refine ⟨ran, after, check, ?_, rang⟩
  apply steady.keep sound frame
  · exact fun thread member => not_not.mp (present thread member)
  · exact fun member => absurd member silent
  · exact fun _ => running

/-! The sections that take a thread, and put it back. -/

omit [DecidableEq Obj] in
theorem Steady.startupSet (steady : Steady idle stage scheduler)
    (fresh : (scheduler.threads thread).stat = .init)
    (free : stage thread = none) :
    Steady idle stage (startupSet scheduler thread) := by
  have frame : Frame (· = thread) scheduler
      (Kernel.startupSet scheduler thread) := by
    refine ⟨fun other apart => ?_, fun _ member _ => member⟩
    unfold Kernel.startupSet
    dsimp only
    rw [setThread_other _ _ _ _ apart, setThread_other _ _ _ _ apart]
  apply steady.keep (steady.sound.startupSet fresh (not_midway free)) frame
  · exact fun other same => same ▸ free
  · intro same ready
    rw [same, fresh] at ready
    cases ready
  · exact id

omit [DecidableEq Obj] in
theorem Steady.resumeTake (steady : Steady idle stage scheduler)
    (suspended : (scheduler.threads thread).stat = .suspend) :
    Steady idle (Function.update stage thread (some .insert))
      (resumeTake scheduler thread) := by
  obtain ⟨sound, stopped⟩ := steady.sound.resumeTake suspended
  have frame : Frame (· = thread) scheduler (Kernel.resumeTake scheduler thread) := by
    refine ⟨fun _ _ => rfl, fun other member _ => ?_⟩
    rw [Kernel.resumeTake] at member
    dsimp only at member
    rw [rtListRemove_timers, steady.sound.stopList] at member
    exact List.mem_of_mem_erase member
  rw [← midway_take .insert] at sound
  apply steady.move sound frame
  · intro next same
    cases same
    exact ⟨suspended, stopped⟩
  · intro same runs
    have ready := (steady.awake runs).1
    rw [same, suspended] at ready
    cases ready
  · rfl

theorem Steady.insertThread (steady : Steady idle stage scheduler)
    (taken : stage thread = some .insert) :
    Steady idle (Function.update stage thread none)
      (rtScheduleInsertThread scheduler thread) := by
  obtain ⟨suspended, stopped⟩ := steady.left thread .insert taken
  have sound : Sound (insert thread (midway (Function.update stage thread none)))
      scheduler := (midway_put taken).symm ▸ steady.sound
  have frame : Frame (· = thread) scheduler
      (rtScheduleInsertThread scheduler thread) := by
    refine ⟨fun other apart => ?_, fun _ member _ => member⟩
    rw [rtScheduleInsertThread_threads, setThread_other _ _ _ _ apart]
  apply steady.move
    (sound.insertReady midway_back (Or.inr suspended) stopped) frame
  · exact fun _ none => absurd none (Option.not_mem_none _)
  · intro same runs
    have ready := (steady.awake runs).1
    rw [same, suspended] at ready
    cases ready
  · rfl

omit [DecidableEq Obj] in
theorem Steady.closeRemove (steady : Steady idle stage scheduler)
    (apart : thread ≠ idle) :
    Steady idle (Function.update stage thread (some .timer))
      (closeRemove scheduler thread) := by
  have sound := steady.sound.closeRemove thread
  rw [← midway_take .timer] at sound
  apply steady.move sound (.of_eq closeRemove_threads closeRemove_timers)
  · intro next same
    cases same
    trivial
  · exact fun same => absurd same.symm apart
  · exact closeRemove_current

omit [DecidableEq Id] [DecidableEq Obj] in
/-- The idle thread is not one that a function is midway with. -/
theorem Steady.not_idle {next : Stage} (steady : Steady idle stage scheduler)
    (taken : stage thread = some next) (same : idle = thread) :
    scheduler.rtCurrentThread.isSome → False := by
  intro runs
  have own := (steady.awake runs).2
  rw [same, taken] at own
  cases own

omit [DecidableEq Obj] in
theorem Steady.closeTimer (steady : Steady idle stage scheduler)
    (taken : stage thread = some .timer) :
    Steady idle (Function.update stage thread (some .stat))
      (closeTimer scheduler thread) := by
  obtain ⟨sound, stopped⟩ := steady.sound.closeTimer thread
  have frame : Frame (· = thread) scheduler (Kernel.closeTimer scheduler thread) :=
    ⟨fun _ _ => rfl, fun _ member _ => List.mem_of_mem_erase member⟩
  rw [← midway_go taken .stat] at sound
  apply steady.move sound frame
  · intro next same
    cases same
    exact stopped
  · exact steady.not_idle taken
  · rfl

omit [DecidableEq Obj] in
theorem Steady.closeStat (steady : Steady idle stage scheduler)
    (taken : stage thread = some .stat) (defunct : Bool) :
    Steady idle
      (Function.update stage thread (if defunct then some .defunct else none))
      (closeStat scheduler thread) := by
  have stopped : thread ∉ scheduler.timers.rtTimerList :=
    steady.left thread .stat taken
  have before : Sound
      (insert thread (midway (Function.update stage thread none)))
      scheduler := (midway_put taken).symm ▸ steady.sound
  have sound := before.closeStat
  have frame : Frame (· = thread) scheduler (Kernel.closeStat scheduler thread) := by
    refine ⟨fun other apart => ?_, fun _ member _ => member⟩
    rw [Kernel.closeStat, setThread_other _ _ _ _ apart]
  cases defunct with
  | true =>
      rw [midway_put taken, ← midway_go taken .defunct] at sound
      apply steady.move sound frame
      · intro next same
        cases same
        exact ⟨closeStat_stat, stopped⟩
      · exact steady.not_idle taken
      · rfl
  | false =>
      apply steady.move (sound.closeEnd closeStat_stat stopped) frame
      · exact fun _ none => absurd none (Option.not_mem_none _)
      · exact steady.not_idle taken
      · rfl

theorem Steady.closeInsert (steady : Steady idle stage scheduler)
    (taken : stage thread = some .defunct) :
    Steady idle (Function.update stage thread none)
      (closeInsert scheduler thread) := by
  obtain ⟨closed, stopped⟩ := steady.left thread .defunct taken
  have sound : Sound (insert thread (midway (Function.update stage thread none)))
      scheduler := (midway_put taken).symm ▸ steady.sound
  apply steady.move (sound.closeInsert midway_back closed stopped)
    (.of_eq rfl rfl)
  · exact fun _ none => absurd none (Option.not_mem_none _)
  · exact steady.not_idle taken
  · rfl

/-- A step does not hang, and keeps the scheduler steady. -/
theorem Steady.takes {instant : Instant Id Obj}
    (steady : Steady idle instant.stage instant.scheduler)
    (step : SchedStep Id Obj) (allowed : instant.Allowed idle step) :
    ∃ after, instant.scheduler.step step = some after ∧
      Steady idle (step.stages instant.stage) after := by
  have sound := steady.sound
  cases step with
  | systemSchedulerStart =>
      obtain ⟨ready, own⟩ := allowed
      obtain ⟨priority, toThread, found⟩ :=
        sound.exists_highest (not_midway own) ready
      exact ⟨_, congrArg (Option.map _) found, sound.setCurrent _ _ _,
        steady.left, fun _ => ⟨ready, own⟩⟩
  | schedule => exact steady.schedule allowed
  | threadInit thread priority tick detached =>
      exact ⟨_, rfl, steady.threadInit allowed.1 allowed.2.1 allowed.2.2 tick
        detached⟩
  | startupSet thread =>
      exact ⟨_, rfl, steady.startupSet allowed.1 allowed.2⟩
  | resumeTake thread => exact ⟨_, rfl, steady.resumeTake allowed.1⟩
  | scheduleInsertThread thread => exact ⟨_, rfl, steady.insertThread allowed⟩
  | threadResume thread => exact ⟨_, rfl, steady.resume allowed⟩
  | threadSuspend thread =>
      exact ⟨_, rfl, steady.other (sound.suspend_rest thread) .suspend allowed.2
        allowed.1 rtThreadSuspend_current⟩
  | threadYield =>
      obtain ⟨thread, running⟩ := Option.isSome_iff_exists.mp allowed
      refine ⟨_, congrArg (Option.map _) running, ?_⟩
      dsimp only
      split
      case isFalse => exact steady
      case isTrue crowded =>
        exact ⟨sound.yieldTurn crowded, steady.left, steady.awake⟩
  | threadSleep tick =>
      obtain ⟨thread, running⟩ := Option.isSome_iff_exists.mp allowed.1
      obtain ⟨apart, ready, free⟩ := allowed.2 thread running
      exact ⟨_, congrArg (Option.map _) running,
        steady.sleep apart ready free tick⟩
  | changePriority thread priority =>
      have frame : Frame (fun _ => False) instant.scheduler
          (changePriority instant.scheduler thread priority) :=
        ⟨fun _ _ => changePriority_stat priority,
          by rw [changePriority_timers]; exact fun _ member _ => member⟩
      refine ⟨_, rfl, steady.keep
        (sound.changePriority (not_midway allowed.2) allowed.1) frame
        (fun _ => False.elim) False.elim ?_⟩
      rw [changePriority_current]
      exact id
  | threadExit =>
      obtain ⟨thread, running⟩ := Option.isSome_iff_exists.mp allowed.1
      obtain ⟨apart, ready, free⟩ := allowed.2 thread running
      refine ⟨_, congrArg (Option.map _) running, ?_⟩
      rw [rtThreadExit_eq ready]
      exact steady.detach apart free
  | closeRemove thread => exact ⟨_, rfl, steady.closeRemove allowed.1⟩
  | closeTimer thread => exact ⟨_, rfl, steady.closeTimer allowed⟩
  | closeStat thread defunct =>
      exact ⟨_, rfl, steady.closeStat allowed defunct⟩
  | closeInsert thread => exact ⟨_, rfl, steady.closeInsert allowed⟩
  | idleExcute => exact steady.idleExcute
  | enterCritical => exact ⟨_, rfl, steady.setNest _⟩
  | exitCritical => exact ⟨_, rfl, steady.setNest _⟩
  | ipcSuspend object flag time =>
      obtain ⟨thread, running⟩ := Option.isSome_iff_exists.mp allowed.1
      obtain ⟨apart, ready, free⟩ := allowed.2 thread running
      obtain ⟨forever, timed⟩ := steady.ipcSuspend apart ready free object flag
      refine ⟨_, congrArg (Option.map _) running, ?_⟩
      cases time with
      | none => exact forever
      | some tick => exact timed tick
  | ipcResume object => exact ⟨_, rfl, steady.ipcResume object⟩
  | ipcResumeAll object => exact steady.ipcResumeAll object
  | resumeAllTurn object => exact ⟨_, rfl, steady.resumeAllTurn allowed⟩
  | countTick =>
      exact ⟨_, rfl, sound.setTimers sound.nodup sound.active sound.waits
        sound.once, steady.left, steady.awake⟩
  | countSlice thread =>
      have frame : Frame (fun _ => False) instant.scheduler
          (countSlice instant.scheduler thread).2 :=
        ⟨fun _ _ => countSlice_stat,
          by rw [countSlice_same.1]; exact fun _ member _ => member⟩
      refine ⟨_, rfl, steady.keep (sound.countSlice thread) frame
        (fun _ => False.elim) False.elim ?_⟩
      rw [countSlice_same.2]
      exact id
  | timerCheck =>
      obtain ⟨running, -, quiet⟩ := allowed
      obtain ⟨ran, after, check, kept, -⟩ := steady.timerCheck running quiet
      exact ⟨after, congrArg (Option.map Prod.snd) check, kept⟩

theorem Steady.step {instant : Instant Id Obj}
    (steady : Steady idle instant.stage instant.scheduler)
    (step : SchedStep Id Obj) (allowed : instant.Allowed idle step) :
    ∃ after, instant.step step = some after ∧
      Steady idle after.stage after.scheduler := by
  obtain ⟨after, taken, kept⟩ := steady.takes step allowed
  exact ⟨_, congrArg (Option.map _) taken, kept⟩

end Steps

/-- No thread has been made and no timer is set. -/
structure Booting (scheduler : Scheduler Id Obj) : Prop where
  fresh : ∀ thread, (scheduler.threads thread).stat = .init
  unmarked : ∀ thread, (scheduler.threads thread).numberMask = 0
  small : ∀ thread, (scheduler.threads thread).Small
  quiet : scheduler.timers.rtTimerList = []
  once : ∀ thread, (scheduler.timers.timers thread).periodic = false
  unset : ∀ thread, (scheduler.timers.timers thread).initTick = 0

/-- After `rt_system_scheduler_init`. -/
def Instant.boot (scheduler : Scheduler Id Obj) : Instant Id Obj :=
  ⟨rtSystemSchedulerInit scheduler, fun _ => none, false⟩

def Instant.run (instant : Instant Id Obj) (steps : List (SchedStep Id Obj)) :
    Option (Instant Id Obj) :=
  steps.foldlM Instant.step instant

def Instant.Allows (idle : Id) (instant : Instant Id Obj)
    (steps : List (SchedStep Id Obj)) : Prop :=
  Run.Admitted Instant.step (Instant.Allowed idle) instant steps

section Runs

variable {initial : Scheduler Id Obj} {last : Instant Id Obj} {idle : Id}
  {steps : List (SchedStep Id Obj)}

omit [DecidableEq Id] [DecidableEq Obj] in
theorem Booting.steady (booting : Booting initial) (idle : Id) :
    Steady idle (Instant.boot initial).stage (Instant.boot initial).scheduler := by
  refine ⟨⟨⟨fun _ => List.nodup_nil, fun here => absurd here List.not_mem_nil⟩,
    fun _ _ _ => List.not_mem_nil, fun _ => List.forall_mem_nil _, ?_, ?_,
    booting.small, ?_, ?_, ?_, ?_, booting.once⟩,
    fun _ _ taken => absurd taken (Option.not_mem_none _),
    fun running => absurd running Bool.false_ne_true⟩
  · intro thread _ ready
    cases (booting.fresh thread).symm.trans ready
  · intro thread
    refine Or.inr ⟨booting.unmarked thread, ?_⟩
    show (initial.threads thread).stat ≠ _ ∧ (initial.threads thread).stat ≠ _
    rw [booting.fresh thread]
    exact ⟨ThreadStat.noConfusion, ThreadStat.noConfusion⟩
  · intro priority
    show (0 : UInt32).toNat.testBit priority = true ↔ ([] : List Id) ≠ []
    simp
  · exact booting.quiet ▸ List.nodup_nil
  · show ∀ thread ∈ initial.timers.rtTimerList, _
    rw [booting.quiet]
    exact List.forall_mem_nil _
  · show ∀ thread ∈ initial.timers.rtTimerList, _
    rw [booting.quiet]
    exact List.forall_mem_nil _

end Runs

end Ch32v307.Kernel
