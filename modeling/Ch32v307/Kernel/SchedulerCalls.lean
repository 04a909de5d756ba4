import Ch32v307.Kernel.SchedulerSound

namespace Ch32v307.Kernel

open Data Rows Scheduler TimerSystem

/-! Each function of the scheduler and of the threads, and each section of one,
keeps them in agreement. -/

variable {Id Obj : Type}

section Timers

variable {timers : TimerSystem Id} {timer other : Id} [DecidableEq Id]

theorem rtTimerStop_list (active : timer ∈ timers.rtTimerList →
    (timers.timers timer).activated = true) :
    (rtTimerStop timers timer).2.rtTimerList = timers.rtTimerList.erase timer := by
  unfold rtTimerStop
  split
  case isTrue => rfl
  case isFalse quiet =>
    exact (List.erase_of_not_mem fun member => quiet (active member)).symm

theorem rtTimerStop_other (apart : other ≠ timer) :
    (rtTimerStop timers timer).2.timers other = timers.timers other := by
  unfold rtTimerStop
  split
  case isTrue => exact Function.update_of_ne apart _ _
  case isFalse => rfl

theorem rtTimerStop_periodic :
    ((rtTimerStop timers timer).2.timers other).periodic =
      (timers.timers other).periodic := by
  by_cases same : other = timer
  · subst same
    unfold rtTimerStop
    split
    case isTrue => rw [setActivated, setTimer_self]; rfl
    case isFalse => rfl
  · rw [rtTimerStop_other same]

omit [DecidableEq Id] in
theorem rowInsert_perm (entries : Id → Timer) (row : List Id) :
    (rowInsert entries timer row).Perm (timer :: row) := by
  induction row with
  | nil => exact .refl _
  | cons t rest ih =>
      unfold rowInsert
      split
      case isTrue => exact (ih.cons t).trans (.swap timer t rest)
      case isFalse =>
        split
        case isTrue => exact .refl _
        case isFalse => exact (ih.cons t).trans (.swap timer t rest)

/-- The timer of a thread is set and started. -/
def setAndStart (timers : TimerSystem Id) (timer : Id) (tick : UInt32) :
    TimerSystem Id :=
  rtTimerStart (rtTimerControl timers timer tick .setTime).2 timer

theorem setAndStart_perm (tick : UInt32) :
    (setAndStart timers timer tick).rtTimerList.Perm
      (timer :: timers.rtTimerList.erase timer) := rowInsert_perm _ _

theorem setAndStart_other (apart : other ≠ timer) (tick : UInt32) :
    (setAndStart timers timer tick).timers other = timers.timers other := by
  rw [setAndStart, rtTimerStart_other apart]
  exact Function.update_of_ne apart _ _

theorem setAndStart_self (tick : UInt32) :
    (setAndStart timers timer tick).timers timer =
      { timers.timers timer with
        activated := true
        timeoutTick := timers.rtTick + tick
        initTick := tick } := by
  rw [setAndStart, rtTimerStart_self]
  simp [rtTimerControl]

/-- What `rt_timer_check` does to timers that run once. -/
structure Checked (timers after : TimerSystem Id) (ran : List Id) : Prop where
  list : timers.rtTimerList = ran ++ after.rtTimerList
  tick : after.rtTick = timers.rtTick
  others : ∀ timer ∉ ran, after.timers timer = timers.timers timer
  stopped : ∀ timer ∈ ran, after.timers timer =
    { timers.timers timer with activated := false }
  ripe : ∀ timer ∈ ran,
    timers.rtTick - (timers.timers timer).timeoutTick < rtTickMax / 2
  unripe : ∀ timer ∈ after.rtTimerList.head?,
    ¬timers.rtTick - (timers.timers timer).timeoutTick < rtTickMax / 2

theorem timerExpire_once (once : (timers.timers timer).periodic = false) :
    timerExpire (fun _ => []) timers timer =
      (timerRemove timers timer).setActivated timer false := by
  unfold timerExpire
  dsimp only [List.foldl_nil]
  rw [if_neg fun both => absurd both.1 (ne_true_of_eq_false once)]

theorem timerCheckLoop_once {fuel : Nat}
    (once : ∀ timer, (timers.timers timer).periodic = false)
    (nodup : timers.rtTimerList.Nodup)
    (enough : timers.rtTimerList.length < fuel) :
    ∃ ran after, timerCheckLoop (fun _ => []) fuel timers = some (ran, after) ∧
      Checked timers after ran := by
  induction fuel generalizing timers with
  | zero => exact absurd enough (Nat.not_lt_zero _)
  | succ fuel ih =>
      unfold timerCheckLoop
      cases row : timers.rtTimerList with
      | nil =>
          refine ⟨[], timers, rfl, rfl, rfl, fun _ _ => rfl,
            List.forall_mem_nil _, List.forall_mem_nil _, ?_⟩
          rw [row]
          exact fun timer first => absurd first (Option.not_mem_none timer)
      | cons t rest =>
          dsimp only
          split
          case isFalse unripe =>
            refine ⟨[], timers, rfl, rfl, rfl, fun _ _ => rfl,
              List.forall_mem_nil _, List.forall_mem_nil _, ?_⟩
            rw [row]
            intro timer first
            cases first
            exact unripe
          case isTrue ripe =>
            rw [row] at nodup enough
            obtain ⟨absent, nodup⟩ := List.nodup_cons.mp nodup
            rw [timerExpire_once (once t)]
            have list : ((timerRemove timers t).setActivated t false).rtTimerList =
                rest := by
              show timers.rtTimerList.erase t = rest
              rw [row, List.erase_cons_head]
            have entry : ∀ timer, timer ≠ t →
                ((timerRemove timers t).setActivated t false).timers timer =
                  timers.timers timer := fun timer apart =>
              setTimer_other _ _ _ _ apart
            have self : ((timerRemove timers t).setActivated t false).timers t =
                { timers.timers t with activated := false } := setTimer_self _ _ _
            have onces : ∀ timer, (((timerRemove timers t).setActivated t
                false).timers timer).periodic = false := by
              intro timer
              by_cases same : timer = t
              · rw [same, self]
                exact once t
              · rw [entry timer same]
                exact once timer
            obtain ⟨ran, after, checked, result⟩ := ih onces (list ▸ nodup)
              (list ▸ Nat.lt_of_succ_lt_succ enough)
            have kept : rest = ran ++ after.rtTimerList := list ▸ result.list
            have apart : ∀ timer ∈ ran, timer ≠ t := fun timer member same =>
              absent (kept ▸ same ▸ List.mem_append_left _ member)
            refine ⟨t :: ran, after, by rw [checked]; rfl, ?_⟩
            constructor
            · rw [row, kept]
              rfl
            · exact result.tick
            · intro timer outside
              rw [List.mem_cons, not_or] at outside
              rw [result.others timer outside.2, entry timer outside.1]
            · intro timer member
              by_cases same : timer = t
              · subst same
                rw [result.others timer fun again => apart timer again rfl, self]
              · have later := (List.mem_cons.mp member).resolve_left same
                rw [result.stopped timer later, entry timer same]
            · refine List.forall_mem_cons.mpr ⟨ripe, fun timer member => ?_⟩
              have later := result.ripe timer member
              rw [entry timer (apart timer member)] at later
              exact later
            · intro timer first
              have later := result.unripe timer first
              have member : timer ∈ rest := kept ▸ List.mem_append_right _
                (List.mem_of_head? first)
              have differ : timer ≠ t := fun same => absent (same ▸ member)
              rw [entry timer differ] at later
              exact later

end Timers

variable {away : Set Id} {scheduler after : Scheduler Id Obj}
  {thread other : Id}

/-- Another set of running timers. -/
theorem Sound.setTimers (sound : Sound away scheduler) {timers : TimerSystem Id}
    (nodup : timers.rtTimerList.Nodup)
    (active : ∀ thread ∈ timers.rtTimerList,
      (timers.timers thread).activated = true)
    (waits : ∀ thread ∈ timers.rtTimerList, thread ∉ away →
      (scheduler.threads thread).stat = .suspend)
    (once : ∀ thread, (timers.timers thread).periodic = false) :
    Sound away { scheduler with timers := timers } :=
  ⟨sound.apart, sound.absent, sound.fits, sound.queued, sound.marked,
    sound.small, sound.group, nodup, active, waits, once⟩

variable [DecidableEq Id]

theorem Sound.stopList (sound : Sound away scheduler) (thread : Id) :
    (rtTimerStop scheduler.timers thread).2.rtTimerList =
      scheduler.timers.rtTimerList.erase thread :=
  rtTimerStop_list (sound.active thread)

theorem Sound.stop (sound : Sound away scheduler) (thread : Id) :
    Sound away { scheduler with
      timers := (rtTimerStop scheduler.timers thread).2 } := by
  have list := sound.stopList thread
  apply sound.setTimers
  · rw [list]
    exact sound.nodup.erase thread
  · intro other member
    rw [list, sound.nodup.mem_erase_iff] at member
    rw [rtTimerStop_other member.1]
    exact sound.active other member.2
  · intro other member
    rw [list] at member
    exact sound.waits other (List.mem_of_mem_erase member)
  · intro other
    rw [rtTimerStop_periodic]
    exact sound.once other

theorem Sound.stopped (sound : Sound away scheduler) :
    thread ∉ (rtTimerStop scheduler.timers thread).2.rtTimerList := by
  rw [sound.stopList]
  exact sound.nodup.not_mem_erase

/-- A suspended thread's timer starts. -/
theorem Sound.startThreadTimer (sound : Sound away scheduler)
    (suspended : (scheduler.threads thread).stat = .suspend) (tick : UInt32) :
    Sound away (startThreadTimer scheduler thread tick) := by
  have perm := @setAndStart_perm _ scheduler.timers thread _ tick
  apply sound.setTimers
  · exact perm.nodup_iff.mpr (List.nodup_cons.mpr
      ⟨sound.nodup.not_mem_erase, sound.nodup.erase thread⟩)
  · intro other member
    by_cases same : other = thread
    · subst same
      exact congrArg Timer.activated (setAndStart_self tick)
    · refine (congrArg Timer.activated (setAndStart_other same tick)).trans ?_
      exact sound.active other (List.mem_of_mem_erase
        ((List.mem_cons.mp (perm.mem_iff.mp member)).resolve_left same))
  · intro other member present
    cases List.mem_cons.mp (perm.mem_iff.mp member) with
    | inl same => exact same ▸ suspended
    | inr inside =>
        exact sound.waits other (List.mem_of_mem_erase inside) present
  · intro other
    by_cases same : other = thread
    · subst same
      exact (congrArg Timer.periodic (setAndStart_self tick)).trans
        (sound.once other)
    · exact (congrArg Timer.periodic (setAndStart_other same tick)).trans
        (sound.once other)

variable [DecidableEq Obj]

section Threads

omit [DecidableEq Obj] in
theorem rtThreadSuspend_eq (ready : (scheduler.threads thread).stat = .ready) :
    (rtThreadSuspend scheduler thread).2 =
      { (rtScheduleRemoveThread scheduler thread).setThread thread
          (Thread.setStat .suspend) with
        timers := (rtTimerStop scheduler.timers thread).2 } := by
  unfold rtThreadSuspend
  rw [if_neg (not_not.mpr ready)]
  dsimp only
  rw [rtScheduleRemoveThread_setThread _ rfl rfl, setThread_timers,
    rtScheduleRemoveThread_timers]

omit [DecidableEq Obj] in
/-- A ready thread is suspended, and in no list. -/
theorem Sound.suspend (sound : Sound away scheduler)
    (ready : (scheduler.threads thread).stat = .ready) :
    Sound (insert thread away) (rtThreadSuspend scheduler thread).2 ∧
      ((rtThreadSuspend scheduler thread).2.threads thread).stat = .suspend ∧
      thread ∉ (rtThreadSuspend scheduler thread).2.timers.rtTimerList := by
  have marked : (Thread.setStat .suspend (scheduler.threads thread)).Marked := by
    cases sound.marked thread with
    | inl mask => exact Or.inl mask
    | inr never => exact absurd ready never.2.1
  have removed := (sound.remove thread).change (Set.mem_insert thread away)
    (Thread.setStat .suspend)
  rw [rtScheduleRemoveThread_threads] at removed
  have stopped := (removed marked (sound.small thread)).stop thread
  rw [setThread_timers, rtScheduleRemoveThread_timers] at stopped
  rw [rtThreadSuspend_eq ready]
  refine ⟨stopped, ?_, sound.stopped⟩
  dsimp only
  rw [setThread_self]
  rfl

omit [DecidableEq Obj] in
theorem Sound.suspend_rest (sound : Sound away scheduler) (thread : Id) :
    Sound away (rtThreadSuspend scheduler thread).2 := by
  by_cases ready : (scheduler.threads thread).stat = .ready
  · obtain ⟨kept, suspended, stopped⟩ := sound.suspend ready
    apply kept.rest
    · rw [suspended]
      exact fun same => ThreadStat.noConfusion same
    · exact fun member => absurd member stopped
  · unfold rtThreadSuspend
    rw [if_pos ready]
    exact sound

omit [DecidableEq Obj] in
/-- The node of a thread that is not ready leaves its list. -/
theorem Sound.unhang (sound : Sound away scheduler)
    (idle : (scheduler.threads thread).stat ≠ .ready) :
    Sound (insert thread away) (scheduler.rtListRemove thread) := by
  refine sound.leave ?_ ?_ ?_ ?_
  · rfl
  · rfl
  · rfl
  intro priority
  have absent : thread ∉ scheduler.rows (.ready priority) := fun member =>
    idle (sound.fits _ _ member).1
  show _ ↔ without scheduler.rows thread (.ready priority) ≠ []
  rw [without_absent absent]
  exact sound.group priority

omit [DecidableEq Obj] in
/-- A suspended thread that is to be resumed is in no list, and its timer does
not run. -/
theorem Sound.resumeTake (sound : Sound away scheduler)
    (suspended : (scheduler.threads thread).stat = .suspend) :
    Sound (insert thread away) (resumeTake scheduler thread) ∧
      thread ∉ (resumeTake scheduler thread).timers.rtTimerList := by
  have idle : (scheduler.threads thread).stat ≠ .ready := by
    rw [suspended]
    exact fun same => ThreadStat.noConfusion same
  exact ⟨(sound.unhang idle).stop thread, sound.stopped⟩

theorem Sound.resume (sound : Sound away scheduler) (present : thread ∉ away) :
    Sound away (rtThreadResume scheduler thread).2 := by
  unfold rtThreadResume
  split
  case isTrue => exact sound
  case isFalse suspended =>
    have suspended := not_not.mp suspended
    obtain ⟨taken, stopped⟩ := sound.resumeTake suspended
    exact taken.insertReady present (Or.inr suspended) stopped

omit [DecidableEq Id] [DecidableEq Obj] in
theorem Sound.init_absent (sound : Sound away scheduler)
    (fresh : (scheduler.threads thread).stat = .init) :
    ∀ row, thread ∉ scheduler.rows row := by
  intro row member
  have fits := sound.fits row thread member
  cases row with
  | ready priority => cases fresh.symm.trans fits.1
  | suspended object => cases fresh.symm.trans fits
  | defunct => cases fresh.symm.trans fits

omit [DecidableEq Obj] in
theorem Sound.startupSet (sound : Sound away scheduler)
    (fresh : (scheduler.threads thread).stat = .init) (present : thread ∉ away) :
    Sound away (startupSet scheduler thread) := by
  have small := sound.small thread
  have stopped : thread ∉ scheduler.timers.rtTimerList := fun member =>
    ThreadStat.noConfusion
      (fresh.symm.trans (sound.waits thread member present))
  have gone := Set.mem_insert thread away
  have started := (sound.aside (sound.init_absent fresh)).change gone
    (Thread.setPriority (scheduler.threads thread).initPriority) (Or.inl rfl)
    ⟨small.1, small.1⟩
  have changed := started.change gone (Thread.setStat .suspend)
    (by rw [setThread_self]; exact Or.inl rfl) (started.small thread)
  apply changed.rest
  · rw [setThread_self]
    exact fun same => ThreadStat.noConfusion same
  · exact fun member => absurd member stopped

/-! The sections that close a thread. -/

omit [DecidableEq Obj] in
theorem Sound.closeRemove (sound : Sound away scheduler) (thread : Id) :
    Sound (insert thread away) (closeRemove scheduler thread) := by
  unfold Kernel.closeRemove
  split
  case isTrue => exact sound.remove thread
  case isFalse fresh => exact sound.aside (sound.init_absent (not_not.mp fresh))

omit [DecidableEq Obj] in
theorem Sound.closeTimer (sound : Sound away scheduler) (thread : Id) :
    Sound away (closeTimer scheduler thread) ∧
      thread ∉ (closeTimer scheduler thread).timers.rtTimerList := by
  refine ⟨sound.setTimers ?_ ?_ ?_ ?_, sound.nodup.not_mem_erase⟩
  · exact sound.nodup.erase thread
  · exact fun other member => sound.active other (List.mem_of_mem_erase member)
  · exact fun other member => sound.waits other (List.mem_of_mem_erase member)
  · exact sound.once

omit [DecidableEq Obj] in
theorem closeStat_stat :
    ((closeStat scheduler thread).threads thread).stat = .close :=
  congrArg Thread.stat (setThread_self ..)

omit [DecidableEq Obj] in
theorem Sound.closeStat (sound : Sound (insert thread away) scheduler) :
    Sound (insert thread away) (closeStat scheduler thread) := by
  apply sound.change (Set.mem_insert thread away) (Thread.setStat .close) ?_
    (sound.small thread)
  cases sound.marked thread with
  | inl mask => exact Or.inl mask
  | inr never =>
      exact Or.inr ⟨never.1, ThreadStat.noConfusion, ThreadStat.noConfusion⟩

omit [DecidableEq Id] [DecidableEq Obj] in
/-- A closed thread that nobody is to free stays in no list. -/
theorem Sound.closeEnd (sound : Sound (insert thread away) scheduler)
    (closed : (scheduler.threads thread).stat = .close)
    (stopped : thread ∉ scheduler.timers.rtTimerList) :
    Sound away scheduler := by
  apply sound.rest
  · rw [closed]
    exact fun same => ThreadStat.noConfusion same
  · exact fun member => absurd member stopped

omit [DecidableEq Id] in
theorem Sound.closeInsert (sound : Sound (insert thread away) scheduler)
    (present : thread ∉ away)
    (closed : (scheduler.threads thread).stat = .close)
    (stopped : thread ∉ scheduler.timers.rtTimerList) :
    Sound away (closeInsert scheduler thread) :=
  sound.hang present (fun _ => ready_ne_defunct) (List.Perm.refl _) closed
    fun member => absurd member stopped

theorem rtThreadExit_eq (ready : (scheduler.threads thread).stat = .ready) :
    rtThreadExit scheduler thread = rtThreadDetach scheduler thread := by
  have removed : closeRemove scheduler thread =
      rtScheduleRemoveThread scheduler thread := by
    apply if_pos
    rw [ready]
    exact fun same => ThreadStat.noConfusion same
  unfold rtThreadDetach
  rw [removed]
  rfl

theorem Sound.detach (sound : Sound away scheduler) (present : thread ∉ away) :
    Sound away (rtThreadDetach scheduler thread) := by
  obtain ⟨timed, stopped⟩ := (sound.closeRemove thread).closeTimer thread
  have closed := timed.closeStat
  unfold rtThreadDetach
  dsimp only
  split
  case isTrue => exact closed.closeEnd closeStat_stat stopped
  case isFalse => exact closed.closeInsert present closeStat_stat stopped

omit [DecidableEq Obj] in
theorem Sound.schedule (sound : Sound away scheduler)
    (scheduled : rtSchedule scheduler = some after) : Sound away after := by
  unfold rtSchedule at scheduled
  split at scheduled
  case isTrue =>
    obtain ⟨toThread, -, rfl⟩ := Option.map_eq_some_iff.mp scheduled
    dsimp only
    split
    case isTrue => exact sound.setCurrent _ _ _
    case isFalse => exact sound
  case isFalse => exact Option.some.inj scheduled ▸ sound

/-- The thread goes to the end of its list. -/
theorem Sound.yieldTurn (sound : Sound away scheduler)
    (crowded : scheduler.Crowded thread) :
    Sound away (yieldTurn scheduler thread) := by
  obtain ⟨ready, member, more⟩ := crowded
  have group : ∀ priority,
      scheduler.rtThreadReadyPriorityGroup.toNat.testBit priority = true ↔
        without scheduler.rows thread (.ready priority) ≠ [] := by
    intro priority
    rw [sound.group]
    by_cases same : (scheduler.threads thread).currentPriority.toNat = priority
    · subst same
      have length := List.length_erase_of_mem member
      refine iff_of_true (List.ne_nil_of_mem member) (List.ne_nil_of_length_pos ?_)
      rw [without, length]
      omega
    · rw [sound.without_ready same]
  have left : Sound (insert thread away) (scheduler.rtListRemove thread) := by
    refine sound.leave ?_ ?_ ?_ group
    · rfl
    · rfl
    · rfl
  have present := sound.present member
  unfold Kernel.yieldTurn
  dsimp only
  generalize found : (Row.ready (scheduler.threads thread).currentPriority.toNat :
    Row Obj) = row at *
  have placed : ((scheduler.rtListRemove thread).setRow row
      ((scheduler.rtListRemove thread).rows row ++ [thread])).rows =
    place (scheduler.rtListRemove thread).rows row
      ((scheduler.rtListRemove thread).rows row ++ [thread]) := rfl
  refine left.enter present ?_ ?_ placed (List.perm_append_singleton ..) ?_ ?_ ?_
  · rfl
  · rfl
  · exact found ▸ ⟨ready, rfl⟩
  · intro timing
    exact sound.waits thread timing present
  · intro priority
    show _ ↔ place _ _ _ _ ≠ []
    by_cases same : Row.ready priority = row
    · rw [← same] at member ⊢
      rw [place_self]
      refine iff_of_true ((sound.group _).mpr (List.ne_nil_of_mem member)) ?_
      simp
    · rw [place_other same]
      exact group priority

omit [DecidableEq Obj] in
/-- What the lists and the bitmap do not depend on. -/
theorem Sound.setField (sound : Sound away scheduler) (thread : Id)
    (change : Thread → Thread)
    (stat : (change (scheduler.threads thread)).stat =
      (scheduler.threads thread).stat)
    (current : (scheduler.threads thread).stat = .ready →
      (change (scheduler.threads thread)).currentPriority =
        (scheduler.threads thread).currentPriority)
    (marked : (change (scheduler.threads thread)).Marked)
    (small : (change (scheduler.threads thread)).Small) :
    Sound away (scheduler.setThread thread change) := by
  have each : ∀ other,
      ((scheduler.setThread thread change).threads other).stat =
        (scheduler.threads other).stat ∧
      ((scheduler.threads other).stat = .ready →
        ((scheduler.setThread thread change).threads other).currentPriority =
          (scheduler.threads other).currentPriority) ∧
      ((scheduler.setThread thread change).threads other).Marked ∧
      ((scheduler.setThread thread change).threads other).Small := by
    intro other
    by_cases same : other = thread
    · subst same
      rw [setThread_self]
      exact ⟨stat, current, marked, small⟩
    · rw [setThread_other _ _ _ _ same]
      exact ⟨rfl, fun _ => rfl, sound.marked other, sound.small other⟩
  refine ⟨sound.apart, sound.absent, ?_, ?_, fun other => (each other).2.2.1,
    fun other => (each other).2.2.2, sound.group, sound.nodup, sound.active, ?_,
    sound.once⟩
  · intro row other member
    have fits := sound.fits row other member
    cases row with
    | ready priority =>
        exact ⟨(each other).1.trans fits.1,
          (congrArg UInt8.toNat ((each other).2.1 fits.1)).trans fits.2⟩
    | suspended object => exact (each other).1.trans fits
    | defunct => exact (each other).1.trans fits
  · intro other present ready
    rw [(each other).1] at ready
    rw [(each other).2.1 ready]
    exact sound.queued other present ready
  · intro other member present
    rw [(each other).1]
    exact sound.waits other member present

theorem Sound.changePriority (sound : Sound away scheduler)
    (present : thread ∉ away) {priority : UInt8}
    (small : priority.toNat < rtThreadPriorityMax) :
    Sound away (changePriority scheduler thread priority) := by
  have range := sound.small thread
  unfold Kernel.changePriority
  split
  case isTrue ready =>
    have removed := sound.remove thread
    have set := removed.change (Set.mem_insert thread away)
      (Thread.setPriority priority) (Or.inl rfl)
      ⟨by rw [rtScheduleRemoveThread_threads]; exact range.1, small⟩
    apply set.insertReady present
    · rw [setThread_self, rtScheduleRemoveThread_threads]
      exact Or.inl ready
    · rw [setThread_timers, rtScheduleRemoveThread_timers]
      intro member
      cases ready.symm.trans (sound.waits thread member present)
  case isFalse idle =>
    exact sound.setField thread (Thread.setPriority priority) rfl
      (fun ready => absurd ready idle) (Or.inl rfl) ⟨range.1, small⟩

omit [DecidableEq Obj] in
theorem Sound.countSlice (sound : Sound away scheduler) (thread : Id) :
    Sound away (countSlice scheduler thread).2 := by
  have counted := sound.setField thread
    (Thread.setRemainingTick ((scheduler.threads thread).remainingTick - 1)) rfl
    (fun _ => rfl) (sound.marked thread) (sound.small thread)
  unfold Kernel.countSlice
  dsimp only
  split
  case isTrue =>
    exact counted.setField thread
      (Thread.setRemainingTick (scheduler.threads thread).initTick) rfl
      (fun _ => rfl) (counted.marked thread) (counted.small thread)
  case isFalse => exact counted

/-- `rt_ipc_list_suspend`, before the timer starts. -/
theorem Sound.ipcListSuspend (sound : Sound away scheduler)
    (present : thread ∉ away) (object : Obj) (flag : IpcFlag)
    (ready : (scheduler.threads thread).stat = .ready) :
    Sound away (rtIpcListSuspend scheduler object thread flag) := by
  obtain ⟨gone, suspended, stopped⟩ := sound.suspend ready
  cases flag with
  | fifo =>
      exact gone.hang present (fun _ => ready_ne_suspended)
        (List.perm_append_singleton ..) suspended
        fun member => absurd member stopped
  | prio =>
      exact gone.hang present (fun _ => ready_ne_suspended)
        (insertBefore_perm ..) suspended fun member => absurd member stopped

omit [DecidableEq Obj] in
/-- A thread that is made, or made again after it was closed. -/
theorem Sound.threadInit (sound : Sound away scheduler) {priority : UInt8}
    (absent : ∀ row, thread ∉ scheduler.rows row)
    (quiet : thread ∉ scheduler.timers.rtTimerList)
    (small : priority.toNat < rtThreadPriorityMax) (tick : UInt32)
    (detached : Bool) :
    Sound away (rtThreadInit scheduler thread priority tick detached) := by
  have set := (sound.aside absent).change (Set.mem_insert thread away)
    (fun entry =>
      { entry with
        stat := .init
        initPriority := priority
        currentPriority := priority
        numberMask := 0
        initTick := tick
        remainingTick := tick
        error := 0
        detached := detached })
    (Or.inr ⟨rfl, ThreadStat.noConfusion, ThreadStat.noConfusion⟩) ⟨small, small⟩
  have idle := set.rest
    (by rw [setThread_self]; exact fun same => ThreadStat.noConfusion same)
    fun member => absurd member quiet
  refine idle.setTimers sound.nodup ?_ idle.waits ?_
  · intro other member
    have apart : other ≠ thread := fun same => quiet (same ▸ member)
    rw [setThread_timers, setTimer_other _ _ _ _ apart]
    exact sound.active other member
  · intro other
    rw [setThread_timers]
    by_cases same : other = thread
    · subst same
      rw [setTimer_self]
    · rw [setTimer_other _ _ _ _ same]
      exact sound.once other

end Threads

end Ch32v307.Kernel
