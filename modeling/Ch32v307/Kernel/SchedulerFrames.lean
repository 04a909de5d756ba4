import Ch32v307.Kernel.SchedulerCalls

namespace Ch32v307.Kernel

open Data Rows Scheduler TimerSystem

/-! What the functions of the scheduler leave alone. -/

variable {Id Obj : Type}

section Fewer

variable {timers middle after : TimerSystem Id} {gone : Id → Prop}

/-- Timers of which some were stopped. -/
structure Fewer (timers after : TimerSystem Id) (gone : Id → Prop) : Prop where
  tick : after.rtTick = timers.rtTick
  fewer : after.rtTimerList.Sublist timers.rtTimerList
  read : ∀ timer ∈ after.rtTimerList,
    (after.timers timer).timeoutTick = (timers.timers timer).timeoutTick
  time : ∀ timer, (after.timers timer).initTick =
    (timers.timers timer).initTick ∨ (after.timers timer).initTick = 0
  kept : ∀ timer ∈ timers.rtTimerList, ¬gone timer → timer ∈ after.rtTimerList

theorem Fewer.refl (timers : TimerSystem Id) (gone : Id → Prop) :
    Fewer timers timers gone :=
  ⟨rfl, .refl _, fun _ _ => rfl, fun _ => Or.inl rfl, fun _ member _ => member⟩

theorem Fewer.mono {more : Id → Prop} (fewer : Fewer timers after gone)
    (implies : ∀ timer, gone timer → more timer) : Fewer timers after more :=
  ⟨fewer.tick, fewer.fewer, fewer.read, fewer.time, fun timer member still =>
    fewer.kept timer member fun leaves => still (implies timer leaves)⟩

theorem Fewer.trans (first : Fewer timers middle gone)
    (second : Fewer middle after gone) : Fewer timers after gone where
  tick := second.tick.trans first.tick
  fewer := second.fewer.trans first.fewer
  read timer member := (second.read timer member).trans
    (first.read timer (second.fewer.subset member))
  time timer := by
    cases second.time timer with
    | inl same => exact same ▸ first.time timer
    | inr none => exact Or.inr none
  kept timer member still :=
    second.kept timer (first.kept timer member still) still

variable [DecidableEq Id]

theorem Fewer.remove (timers : TimerSystem Id) {timer : Id} (leaves : gone timer) :
    Fewer timers (timerRemove timers timer) gone where
  tick := rfl
  fewer := List.erase_sublist
  read _ _ := rfl
  time _ := Or.inl rfl
  kept other member still := by
    have apart : other ≠ timer := fun same => still (same ▸ leaves)
    exact (List.mem_erase_of_ne apart).mpr member

theorem Fewer.stop (timers : TimerSystem Id) {timer : Id} (leaves : gone timer) :
    Fewer timers (rtTimerStop timers timer).2 gone := by
  unfold rtTimerStop
  split
  case isFalse => exact .refl timers gone
  case isTrue =>
    have removed := Fewer.remove timers leaves
    have entry : ∀ other,
        (((timerRemove timers timer).setActivated timer false).timers
          other).timeoutTick = (timers.timers other).timeoutTick ∧
        (((timerRemove timers timer).setActivated timer false).timers
          other).initTick = (timers.timers other).initTick := by
      intro other
      by_cases same : other = timer
      · subst same
        rw [setActivated, setTimer_self]
        exact ⟨rfl, rfl⟩
      · rw [setActivated, setTimer_other _ _ _ _ same]
        exact ⟨rfl, rfl⟩
    exact ⟨removed.tick, removed.fewer, fun other _ => (entry other).1,
      fun other => Or.inl (entry other).2, removed.kept⟩

/-- The timer of a thread that is made is in no list. -/
theorem Fewer.init (timers : TimerSystem Id) {timer : Id}
    (quiet : timer ∉ timers.rtTimerList) :
    Fewer timers (timers.setTimer timer fun _ => ⟨false, false, 0, 0⟩) gone where
  tick := rfl
  fewer := .refl _
  read other member := by
    have apart : other ≠ timer := fun same => quiet (same ▸ member)
    rw [setTimer_other _ _ _ _ apart]
  time other := by
    by_cases same : other = timer
    · subst same
      rw [setTimer_self]
      exact Or.inr rfl
    · rw [setTimer_other _ _ _ _ same]
      exact Or.inl rfl
  kept _ member _ := member

end Fewer

/-- The threads that are not touched keep their status, and no timer of theirs
starts. -/
structure Frame (touched : Id → Prop) (scheduler after : Scheduler Id Obj) :
    Prop where
  stat : ∀ thread, ¬touched thread →
    (after.threads thread).stat = (scheduler.threads thread).stat
  timers : ∀ thread ∈ after.timers.rtTimerList, ¬touched thread →
    thread ∈ scheduler.timers.rtTimerList

section Frame

variable {touched gone : Id → Prop} {scheduler middle after : Scheduler Id Obj}

theorem Frame.of_eq (threads : after.threads = scheduler.threads)
    (timers : after.timers = scheduler.timers) :
    Frame touched scheduler after :=
  ⟨fun _ _ => threads ▸ rfl, fun _ member _ => timers ▸ member⟩

theorem Frame.of_fewer
    (others : ∀ thread, ¬touched thread →
      after.threads thread = scheduler.threads thread)
    (fewer : Fewer scheduler.timers after.timers gone) :
    Frame touched scheduler after :=
  ⟨fun thread apart => congrArg Thread.stat (others thread apart),
    fun _ member _ => fewer.fewer.subset member⟩

end Frame

variable {away : Set Id} {scheduler after : Scheduler Id Obj}
  {thread other : Id} {gone : Id → Prop} [DecidableEq Id]

/-! Threads that are suspended. -/

theorem rtThreadSuspend_other (apart : other ≠ thread) :
    (rtThreadSuspend scheduler thread).2.threads other =
      scheduler.threads other := by
  by_cases ready : (scheduler.threads thread).stat = .ready
  · rw [rtThreadSuspend_eq ready]
    dsimp only
    rw [setThread_other _ _ _ _ apart, rtScheduleRemoveThread_threads]
  · rw [rtThreadSuspend, if_pos ready]

theorem rtThreadSuspend_self (ready : (scheduler.threads thread).stat = .ready) :
    (rtThreadSuspend scheduler thread).2.threads thread =
      Thread.setStat .suspend (scheduler.threads thread) := by
  rw [rtThreadSuspend_eq ready]
  dsimp only
  rw [setThread_self, rtScheduleRemoveThread_threads]

theorem rtScheduleRemoveThread_current :
    (rtScheduleRemoveThread scheduler thread).rtCurrentThread =
      scheduler.rtCurrentThread := by
  unfold rtScheduleRemoveThread
  dsimp only
  split
  case isTrue => rfl
  case isFalse => rfl

theorem rtThreadSuspend_current :
    (rtThreadSuspend scheduler thread).2.rtCurrentThread =
      scheduler.rtCurrentThread := by
  by_cases ready : (scheduler.threads thread).stat = .ready
  · rw [rtThreadSuspend_eq ready]
    exact rtScheduleRemoveThread_current
  · rw [rtThreadSuspend, if_pos ready]

/-- The timers after a thread is suspended. -/
theorem Fewer.suspend
    (leaves : (scheduler.threads thread).stat = .ready → gone thread) :
    Fewer scheduler.timers (rtThreadSuspend scheduler thread).2.timers gone := by
  by_cases ready : (scheduler.threads thread).stat = .ready
  · rw [rtThreadSuspend_eq ready]
    exact .stop _ (leaves ready)
  · rw [rtThreadSuspend, if_pos ready]
    exact .refl _ _

theorem Frame.suspend :
    Frame (· = thread) scheduler (rtThreadSuspend scheduler thread).2 :=
  .of_fewer (fun _ => rtThreadSuspend_other)
    (.suspend fun _ => (rfl : thread = thread))

/-- A suspended thread's timer starts, and no other. -/
theorem Frame.startThreadTimer
    (frame : Frame (· = thread) scheduler after) (tick : UInt32) :
    Frame (· = thread) scheduler (startThreadTimer after thread tick) := by
  refine ⟨frame.stat, fun other member apart => frame.timers other ?_ apart⟩
  have inside := (@setAndStart_perm _ after.timers thread _ tick).mem_iff.mp member
  exact List.mem_of_mem_erase ((List.mem_cons.mp inside).resolve_left apart)

theorem changePriority_stat (priority : UInt8) [DecidableEq Obj] :
    ((changePriority scheduler thread priority).threads other).stat =
      (scheduler.threads other).stat := by
  unfold changePriority
  split
  case isTrue ready =>
    show ((((rtScheduleRemoveThread scheduler thread).setThread thread
      (Thread.setPriority priority)).setThread thread
        (Thread.setStat .ready)).threads other).stat = _
    by_cases same : other = thread
    · subst same
      rw [setThread_self]
      exact ready.symm
    · rw [setThread_other _ _ _ _ same, setThread_other _ _ _ _ same,
        rtScheduleRemoveThread_threads]
  case isFalse =>
    by_cases same : other = thread
    · subst same
      rw [setThread_self]
      rfl
    · rw [setThread_other _ _ _ _ same]

variable [DecidableEq Obj]

theorem changePriority_timers (priority : UInt8) :
    (changePriority scheduler thread priority).timers = scheduler.timers := by
  unfold changePriority
  split
  case isTrue => exact rtScheduleRemoveThread_timers scheduler thread
  case isFalse => rfl

theorem changePriority_current (priority : UInt8) :
    (changePriority scheduler thread priority).rtCurrentThread =
      scheduler.rtCurrentThread := by
  unfold changePriority
  split
  case isTrue => exact rtScheduleRemoveThread_current
  case isFalse => rfl

theorem rtIpcListSuspend_threads (object : Obj) (flag : IpcFlag) :
    (rtIpcListSuspend scheduler object thread flag).threads =
      (rtThreadSuspend scheduler thread).2.threads := by
  cases flag with
  | fifo => rfl
  | prio => rfl

theorem rtIpcListSuspend_timers (object : Obj) (flag : IpcFlag) :
    (rtIpcListSuspend scheduler object thread flag).timers =
      (rtThreadSuspend scheduler thread).2.timers := by
  cases flag with
  | fifo => rfl
  | prio => rfl

theorem rtIpcListSuspend_current (object : Obj) (flag : IpcFlag) :
    (rtIpcListSuspend scheduler object thread flag).rtCurrentThread =
      scheduler.rtCurrentThread := by
  cases flag with
  | fifo => exact rtThreadSuspend_current
  | prio => exact rtThreadSuspend_current

theorem Frame.ipcListSuspend (object : Obj) (flag : IpcFlag) :
    Frame (· = thread) scheduler
      (rtIpcListSuspend scheduler object thread flag) := by
  have frame := @Frame.suspend _ _ scheduler thread _
  constructor
  · rw [rtIpcListSuspend_threads]
    exact frame.stat
  · rw [rtIpcListSuspend_timers]
    exact frame.timers

/-! Threads that are resumed. -/

theorem rtScheduleInsertThread_threads :
    (rtScheduleInsertThread scheduler thread).threads =
      (scheduler.setThread thread (Thread.setStat .ready)).threads := rfl

theorem rtScheduleInsertThread_suspended (scheduler : Scheduler Id Obj)
    (thread : Id) (object : Obj) :
    (rtScheduleInsertThread scheduler thread).rows (.suspended object) =
      scheduler.rows (.suspended object) := by
  simp [rtScheduleInsertThread, setRow, place_other]

theorem rtThreadResume_eq (suspended : (scheduler.threads thread).stat = .suspend) :
    (rtThreadResume scheduler thread).2 =
      rtScheduleInsertThread (resumeTake scheduler thread) thread := by
  rw [rtThreadResume, if_neg (not_not.mpr suspended)]

theorem rtThreadResume_awake (awake : (scheduler.threads thread).stat ≠ .suspend) :
    (rtThreadResume scheduler thread).2 = scheduler := by
  rw [rtThreadResume, if_pos awake]

theorem rtThreadResume_other (apart : other ≠ thread) :
    (rtThreadResume scheduler thread).2.threads other =
      scheduler.threads other := by
  by_cases suspended : (scheduler.threads thread).stat = .suspend
  · rw [rtThreadResume_eq suspended]
    exact Function.update_of_ne apart _ _
  · rw [rtThreadResume_awake suspended]

theorem rtThreadResume_self (suspended : (scheduler.threads thread).stat = .suspend) :
    (rtThreadResume scheduler thread).2.threads thread =
      Thread.setStat .ready (scheduler.threads thread) := by
  rw [rtThreadResume_eq suspended]
  exact Function.update_self ..

theorem rtThreadResume_current :
    (rtThreadResume scheduler thread).2.rtCurrentThread =
      scheduler.rtCurrentThread := by
  unfold rtThreadResume
  split
  case isTrue => rfl
  case isFalse => rfl

/-- A ready thread stays ready when another is resumed, or itself. -/
theorem rtThreadResume_ready (ready : (scheduler.threads other).stat = .ready) :
    ((rtThreadResume scheduler thread).2.threads other).stat = .ready := by
  by_cases same : other = thread
  · subst same
    rw [rtThreadResume_awake
      (by rw [ready]; exact fun same => ThreadStat.noConfusion same)]
    exact ready
  · rw [rtThreadResume_other same]
    exact ready

theorem rtThreadResume_suspended (sound : Sound away scheduler) (thread : Id)
    (object : Obj) :
    (rtThreadResume scheduler thread).2.rows (.suspended object) =
      (scheduler.rows (.suspended object)).erase thread := by
  by_cases suspended : (scheduler.threads thread).stat = .suspend
  · rw [rtThreadResume_eq suspended]
    exact rtScheduleInsertThread_suspended _ _ object
  · rw [rtThreadResume_awake suspended, List.erase_of_not_mem]
    exact fun member => suspended (sound.fits _ _ member)

theorem Fewer.resume
    (leaves : (scheduler.threads thread).stat = .suspend → gone thread) :
    Fewer scheduler.timers (rtThreadResume scheduler thread).2.timers gone := by
  by_cases suspended : (scheduler.threads thread).stat = .suspend
  · rw [rtThreadResume_eq suspended]
    exact .stop _ (leaves suspended)
  · rw [rtThreadResume_awake suspended]
    exact .refl _ _

theorem Frame.resume :
    Frame (· = thread) scheduler (rtThreadResume scheduler thread).2 :=
  .of_fewer (fun _ => rtThreadResume_other)
    (.resume fun _ => (rfl : thread = thread))

/-! All the threads that wait for an object. -/

section ResumeAll

variable {object : Obj} {rest : List Id}

theorem resumeAllTurn_eq
    (row : scheduler.rows (.suspended object) = thread :: rest) :
    resumeAllTurn scheduler object =
      (rtThreadResume (scheduler.setThread thread
        (Thread.setError (-rtError))) thread).2 := by
  unfold resumeAllTurn
  rw [row]

/-- A turn takes the first thread of the list, with an error. -/
structure TurnedOut (scheduler after : Scheduler Id Obj) (object : Obj)
    (thread : Id) (rest : List Id) : Prop where
  row : after.rows (.suspended object) = rest
  elsewhere : ∀ other, other ≠ object → after.rows (.suspended other) =
    scheduler.rows (.suspended other)
  woken : after.threads thread =
    Thread.setStat .ready (Thread.setError (-rtError) (scheduler.threads thread))
  others : ∀ other, other ≠ thread →
    after.threads other = scheduler.threads other
  current : after.rtCurrentThread = scheduler.rtCurrentThread
  timers : Fewer scheduler.timers after.timers (· = thread)

theorem Sound.resumeAllTurn (sound : Sound away scheduler)
    (row : scheduler.rows (.suspended object) = thread :: rest) :
    Sound away (resumeAllTurn scheduler object) ∧
      TurnedOut scheduler (resumeAllTurn scheduler object) object thread rest := by
  have member : thread ∈ scheduler.rows (.suspended object) :=
    row ▸ List.mem_cons_self
  have suspended := sound.fits _ _ member
  have noted := sound.setField thread (Thread.setError (-rtError)) rfl
    (fun _ => rfl) (sound.marked thread) (sound.small thread)
  have stat : ((scheduler.setThread thread
      (Thread.setError (-rtError))).threads thread).stat = .suspend := by
    rw [setThread_self]
    exact suspended
  have waiting := rtThreadResume_suspended noted thread
  rw [resumeAllTurn_eq row]
  refine ⟨noted.resume (sound.present member), ?_, ?_, ?_, ?_, ?_, ?_⟩
  · rw [waiting, setThread_rows, row, List.erase_cons_head]
  · intro other apart
    rw [waiting, setThread_rows]
    apply List.erase_of_not_mem
    intro inside
    cases sound.apart.unique member inside
    exact apart rfl
  · rw [rtThreadResume_self stat, setThread_self]
  · intro other apart
    rw [rtThreadResume_other apart, setThread_other _ _ _ _ apart]
  · rw [rtThreadResume_current]
    rfl
  · rw [← setThread_timers scheduler thread (Thread.setError (-rtError))]
    exact .resume fun _ => rfl

/-- Every thread that waits for the object is woken with an error. -/
structure WokenAll (scheduler after : Scheduler Id Obj) (object : Obj) : Prop where
  emptied : after.rows (.suspended object) = []
  elsewhere : ∀ other, other ≠ object → after.rows (.suspended other) =
    scheduler.rows (.suspended other)
  woken : ∀ thread ∈ scheduler.rows (.suspended object), after.threads thread =
    Thread.setStat .ready (Thread.setError (-rtError) (scheduler.threads thread))
  others : ∀ thread ∉ scheduler.rows (.suspended object),
    after.threads thread = scheduler.threads thread
  current : after.rtCurrentThread = scheduler.rtCurrentThread
  timers : Fewer scheduler.timers after.timers
    (· ∈ scheduler.rows (.suspended object))

theorem Sound.resumeAllLoop {fuel : Nat} (sound : Sound away scheduler)
    (enough : (scheduler.rows (.suspended object)).length < fuel) :
    ∃ after, Kernel.resumeAllLoop object fuel scheduler = some after ∧
      Sound away after ∧ WokenAll scheduler after object := by
  induction fuel generalizing scheduler with
  | zero => exact absurd enough (Nat.not_lt_zero _)
  | succ fuel ih =>
      unfold Kernel.resumeAllLoop
      cases row : scheduler.rows (.suspended object) with
      | nil =>
          refine ⟨scheduler, rfl, sound, row, fun _ _ => rfl, ?_, fun _ _ => rfl,
            rfl, .refl _ _⟩
          rw [row]
          exact List.forall_mem_nil _
      | cons thread rest =>
          obtain ⟨kept, turn⟩ := sound.resumeAllTurn row
          dsimp only
          generalize Kernel.resumeAllTurn scheduler object = middle at *
          have absent : thread ∉ rest :=
            (List.nodup_cons.mp (row ▸ sound.apart.nodup _)).1
          obtain ⟨after, looped, final, woken⟩ := ih kept
            (by rw [turn.row]; rw [row] at enough; exact Nat.lt_of_succ_lt_succ enough)
          refine ⟨after, looped, final, woken.emptied, ?_, ?_, ?_,
            woken.current.trans turn.current, ?_⟩
          · intro other apart
            rw [woken.elsewhere other apart, turn.elsewhere other apart]
          · intro other inside
            by_cases equal : other = thread
            · subst equal
              rw [woken.others other (turn.row ▸ absent), turn.woken]
            · have later := (List.mem_cons.mp (row ▸ inside)).resolve_left equal
              rw [woken.woken other (turn.row ▸ later), turn.others other equal]
          · intro other outside
            rw [row, List.mem_cons, not_or] at outside
            rw [woken.others other (turn.row ▸ outside.2),
              turn.others other outside.1]
          · rw [row]
            apply Fewer.trans
            · exact turn.timers.mono fun other same => same ▸ List.mem_cons_self
            · apply woken.timers.mono
              intro other member
              exact List.mem_cons_of_mem thread (turn.row ▸ member)

end ResumeAll

/-! Threads that are closed. -/

omit [DecidableEq Obj] in
theorem closeRemove_threads :
    (closeRemove scheduler thread).threads = scheduler.threads := by
  unfold closeRemove
  split
  case isTrue => exact rtScheduleRemoveThread_threads scheduler thread
  case isFalse => rfl

omit [DecidableEq Obj] in
theorem closeRemove_timers :
    (closeRemove scheduler thread).timers = scheduler.timers := by
  unfold closeRemove
  split
  case isTrue => exact rtScheduleRemoveThread_timers scheduler thread
  case isFalse => rfl

omit [DecidableEq Obj] in
theorem closeRemove_current :
    (closeRemove scheduler thread).rtCurrentThread =
      scheduler.rtCurrentThread := by
  unfold closeRemove
  split
  case isTrue => exact rtScheduleRemoveThread_current
  case isFalse => rfl

theorem rtThreadDetach_other (apart : other ≠ thread) :
    (rtThreadDetach scheduler thread).threads other =
      scheduler.threads other := by
  have same : (closeStat (closeTimer (closeRemove scheduler thread) thread)
      thread).threads other = scheduler.threads other := by
    rw [closeStat, setThread_other _ _ _ _ apart]
    exact congrFun closeRemove_threads other
  unfold rtThreadDetach
  dsimp only
  split
  case isTrue => exact same
  case isFalse => exact same

theorem rtThreadDetach_timers :
    (rtThreadDetach scheduler thread).timers =
      rtTimerDetach scheduler.timers thread := by
  have same : (closeStat (closeTimer (closeRemove scheduler thread) thread)
      thread).timers = rtTimerDetach scheduler.timers thread := by
    show rtTimerDetach (closeRemove scheduler thread).timers thread = _
    rw [closeRemove_timers]
  unfold rtThreadDetach
  dsimp only
  split
  case isTrue => exact same
  case isFalse => exact same

theorem rtThreadDetach_current :
    (rtThreadDetach scheduler thread).rtCurrentThread =
      scheduler.rtCurrentThread := by
  unfold rtThreadDetach
  dsimp only
  split
  case isTrue => exact closeRemove_current
  case isFalse => exact closeRemove_current

/-! The scheduler's own functions. -/

section Schedule

omit [DecidableEq Obj]

/-- `rt_schedule` changes the current thread and its priority only. -/
theorem rtSchedule_same (scheduled : rtSchedule scheduler = some after) :
    after.threads = scheduler.threads ∧ after.rows = scheduler.rows ∧
      after.timers = scheduler.timers := by
  unfold rtSchedule at scheduled
  split at scheduled
  case isTrue =>
    obtain ⟨toThread, -, rfl⟩ := Option.map_eq_some_iff.mp scheduled
    dsimp only
    split
    case isTrue => exact ⟨rfl, rfl, rfl⟩
    case isFalse => exact ⟨rfl, rfl, rfl⟩
  case isFalse =>
    cases scheduled
    exact ⟨rfl, rfl, rfl⟩

theorem Sound.schedules (sound : Sound away scheduler) (present : thread ∉ away)
    (ready : (scheduler.threads thread).stat = .ready) :
    ∃ after, rtSchedule scheduler = some after := by
  obtain ⟨priority, toThread, found⟩ := sound.exists_highest present ready
  unfold rtSchedule
  rw [found]
  split
  case isTrue => exact ⟨_, rfl⟩
  case isFalse => exact ⟨_, rfl⟩

theorem countSlice_stat :
    ((countSlice scheduler thread).2.threads other).stat =
      (scheduler.threads other).stat := by
  have same : ∀ (scheduler : Scheduler Id Obj) tick,
      ((scheduler.setThread thread
        (Thread.setRemainingTick tick)).threads other).stat =
        (scheduler.threads other).stat := by
    intro scheduler tick
    by_cases here : other = thread
    · subst here
      rw [setThread_self]
      rfl
    · rw [setThread_other _ _ _ _ here]
  unfold countSlice
  dsimp only
  split
  case isTrue => exact (same _ _).trans (same _ _)
  case isFalse => exact same _ _

theorem countSlice_same :
    (countSlice scheduler thread).2.timers = scheduler.timers ∧
      (countSlice scheduler thread).2.rtCurrentThread =
        scheduler.rtCurrentThread := by
  unfold countSlice
  dsimp only
  split
  case isTrue => exact ⟨rfl, rfl⟩
  case isFalse => exact ⟨rfl, rfl⟩

end Schedule

/-! A thread whose time is over, and all of those at one tick. -/

section Timeouts

/-- What time-outs do to the threads. -/
structure TimedOut (scheduler after : Scheduler Id Obj) (ran : List Id) : Prop where
  timers : after.timers = scheduler.timers
  others : ∀ thread ∉ ran, after.threads thread = scheduler.threads thread
  woken : ∀ thread ∈ ran, after.threads thread =
    Thread.setStat .ready (Thread.setError (-rtETimeout)
      (scheduler.threads thread))

theorem Sound.timeout (sound : Sound away scheduler) (present : thread ∉ away)
    (suspended : (scheduler.threads thread).stat = .suspend)
    (stopped : thread ∉ scheduler.timers.rtTimerList) {idle : Id}
    (here : idle ∉ away) (ready : (scheduler.threads idle).stat = .ready) :
    ∃ after, rtThreadTimeout scheduler thread = some after ∧ Sound away after ∧
      TimedOut scheduler after [thread] := by
  have noted := sound.setField thread (Thread.setError (-rtETimeout)) rfl
    (fun _ => rfl) (sound.marked thread) (sound.small thread)
  have stat : ((scheduler.setThread thread
      (Thread.setError (-rtETimeout))).threads thread).stat = .suspend := by
    rw [setThread_self]
    exact suspended
  have unhung := noted.unhang
    (by rw [stat]; exact fun same => ThreadStat.noConfusion same)
  have inserted := unhung.insertReady present (Or.inr stat) stopped
  have apart : idle ≠ thread := by
    intro same
    rw [same, suspended] at ready
    cases ready
  have awake : ((rtScheduleInsertThread ((scheduler.setThread thread
      (Thread.setError (-rtETimeout))).rtListRemove thread) thread).threads
      idle).stat = .ready := by
    rw [rtScheduleInsertThread_threads, setThread_other _ _ _ _ apart,
      rtListRemove_threads, setThread_other _ _ _ _ apart]
    exact ready
  obtain ⟨after, scheduled⟩ := inserted.schedules here awake
  obtain ⟨threads, rows, timers⟩ := rtSchedule_same scheduled
  refine ⟨after, scheduled, inserted.schedule scheduled, timers, ?_, ?_⟩
  · intro other differ
    have apart : other ≠ thread := fun same => differ (same ▸ List.mem_cons_self)
    rw [threads, rtScheduleInsertThread_threads, setThread_other _ _ _ _ apart,
      rtListRemove_threads, setThread_other _ _ _ _ apart]
  · intro other member
    rw [List.mem_singleton.mp member, threads, rtScheduleInsertThread_threads,
      setThread_self, rtListRemove_threads, setThread_self]

omit [DecidableEq Obj] in
theorem TimedOut.append {middle : Scheduler Id Obj} {first second : List Id}
    (before : TimedOut scheduler middle first) (later : TimedOut middle after second)
    (apart : ∀ thread ∈ second, thread ∉ first) :
    TimedOut scheduler after (first ++ second) where
  timers := later.timers.trans before.timers
  others thread absent := by
    rw [List.mem_append, not_or] at absent
    rw [later.others thread absent.2, before.others thread absent.1]
  woken thread member := by
    by_cases again : thread ∈ second
    · rw [later.woken thread again, before.others thread (apart thread again)]
    · have here := (List.mem_append.mp member).resolve_right again
      rw [later.others thread again, before.woken thread here]

/-- The timers that ran at one tick. -/
theorem Sound.timeouts {ran : List Id} (sound : Sound away scheduler)
    (nodup : ran.Nodup) (present : ∀ thread ∈ ran, thread ∉ away)
    (suspended : ∀ thread ∈ ran, (scheduler.threads thread).stat = .suspend)
    (stopped : ∀ thread ∈ ran, thread ∉ scheduler.timers.rtTimerList) {idle : Id}
    (here : idle ∉ away) (ready : (scheduler.threads idle).stat = .ready) :
    ∃ after, ran.foldlM rtThreadTimeout scheduler = some after ∧
      Sound away after ∧ TimedOut scheduler after ran := by
  induction ran generalizing scheduler with
  | nil => exact ⟨scheduler, rfl, sound, rfl, fun _ _ => rfl,
      List.forall_mem_nil _⟩
  | cons thread rest ih =>
      obtain ⟨absent, nodup⟩ := List.nodup_cons.mp nodup
      obtain ⟨own, presents⟩ := List.forall_mem_cons.mp present
      obtain ⟨first, others⟩ := List.forall_mem_cons.mp suspended
      obtain ⟨quiet, quiets⟩ := List.forall_mem_cons.mp stopped
      obtain ⟨middle, went, kept, out⟩ := sound.timeout own first quiet here ready
      have same : ∀ other, other ≠ thread →
          middle.threads other = scheduler.threads other := fun other apart =>
        out.others other (by simpa using apart)
      have apart : ∀ other ∈ rest, other ≠ thread := fun other member equal =>
        absent (equal ▸ member)
      have awake : idle ≠ thread := by
        intro equal
        rw [equal, first] at ready
        cases ready
      have waiting : ∀ other ∈ rest, (middle.threads other).stat = .suspend := by
        intro other member
        rw [same other (apart other member)]
        exact others other member
      have quiet : ∀ other ∈ rest, other ∉ middle.timers.rtTimerList := by
        rw [out.timers]
        exact quiets
      have running : (middle.threads idle).stat = .ready := by
        rw [same idle awake]
        exact ready
      obtain ⟨after, second, final, outs⟩ :=
        ih kept nodup presents waiting quiet running
      refine ⟨after, ?_, final, out.append outs ?_⟩
      · rw [List.foldlM_cons, went]
        exact second
      · intro other member
        simpa using apart other member

end Timeouts

end Ch32v307.Kernel
