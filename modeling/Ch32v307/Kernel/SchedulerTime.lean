import Ch32v307.Kernel.SchedulerRuns

namespace Ch32v307.Kernel

open Data Deadline Rows Scheduler TimerSystem

/-! When a thread that sleeps, or waits for a time, is woken. -/

variable {Id Obj : Type}

section Clocked

variable {ticking : Bool} {now : Nat} {due : Id → Nat}
  {timers after : TimerSystem Id} {gone : Id → Prop}

theorem Clocked.fewer (clocked : Clocked 0 ticking now due timers)
    (fewer : Fewer timers after gone) : Clocked 0 ticking now due after where
  toTimed := by
    apply clocked.shrink after fewer.tick fewer.fewer fewer.read
    intro timer
    cases fewer.time timer with
    | inl same => exact same ▸ clocked.range timer
    | inr none =>
        rw [none]
        exact ⟨Nat.zero_le _, by decide⟩
  ahead quiet timer member :=
    clocked.ahead quiet timer (fewer.fewer.subset member)

variable [DecidableEq Id] {timer : Id}

theorem Clocked.start (clocked : Clocked 0 ticking now due timers) {tick : UInt32}
    (positive : 0 < tick.toNat) (small : tick.toNat < halfTurn) :
    Clocked 0 ticking now (Function.update due timer (now + tick.toNat))
        (setAndStart timers timer tick) ∧
      ∀ other ∈ timers.rtTimerList, other ≠ timer →
        other ∈ (setAndStart timers timer tick).rtTimerList := by
  have set := clocked.setTimer_moved timer
    (fun entry => { entry with initTick := tick }) rfl ⟨Nat.zero_le _, small⟩
  have time : ((timers.setTimer timer
      fun entry => { entry with initTick := tick }).timers timer).initTick =
      tick := congrArg Timer.initTick (setTimer_self ..)
  have started := set.trans (set.timed.start_moved (time.symm ▸ positive))
  rw [startDue, time] at started
  refine ⟨clocked.moved started, fun other member apart => ?_⟩
  exact (started.others other apart).listed.mpr member

omit [DecidableEq Id] in
/-- The timers that run at a check are those due then. -/
theorem Clocked.check {ran : List Id} (clocked : Clocked 0 ticking now due timers)
    (checked : Checked timers after ran) :
    Clocked 0 false now due after ∧
      ∀ timer ∈ timers.rtTimerList, timer ∈ ran ↔ due timer = now := by
  have list := checked.list
  have early : ∀ timer ∈ ran, due timer = now := by
    intro timer member
    have inside : timer ∈ timers.rtTimerList :=
      list ▸ List.mem_append_left _ member
    apply Nat.le_antisymm
    · exact (clocked.timesOut_iff inside).mp (checked.ripe timer member)
    · exact clocked.pending timer inside
  have apart := (List.nodup_append.mp (list ▸ clocked.nodup)).2.2
  have timed : Timed 0 now due after := by
    apply clocked.shrink after checked.tick
    · rw [list]
      exact List.sublist_append_right ran _
    · intro timer member
      rw [checked.others timer fun here => apart timer here timer member rfl]
    · intro timer
      by_cases here : timer ∈ ran
      · rw [checked.stopped timer here]
        exact clocked.range timer
      · rw [checked.others timer here]
        exact clocked.range timer
  have late : ∀ timer ∈ after.rtTimerList, now < due timer := by
    cases row : after.rtTimerList with
    | nil => exact List.forall_mem_nil _
    | cons head others =>
        have member : head ∈ after.rtTimerList := row ▸ List.mem_cons_self
        have inside : head ∈ timers.rtTimerList :=
          list ▸ List.mem_append_right ran member
        have unripe := checked.unripe head (row ▸ rfl)
        have ahead := Nat.lt_of_not_le (mt (clocked.timesOut_iff inside).mpr unripe)
        exact row ▸ timed.quiet row ahead
  refine ⟨⟨timed, fun _ => late⟩, ?_⟩
  · intro timer member
    constructor
    · exact early timer
    · intro same
      apply (List.mem_append.mp (list ▸ member)).resolve_right
      intro behind
      exact absurd same (Nat.ne_of_gt (late timer behind))

end Clocked

/-! The steps of the scheduler and its timers. -/

variable [DecidableEq Id] [DecidableEq Obj]

section Frames

variable {scheduler after : Scheduler Id Obj}

omit [DecidableEq Obj] in
theorem rtExitCritical_timers (exited : rtExitCritical scheduler = some after) :
    after.timers = scheduler.timers := by
  unfold rtExitCritical at exited
  dsimp only at exited
  split at exited
  case isTrue => exact (rtSchedule_same exited).2.2
  case isFalse =>
    cases exited
    rfl

omit [DecidableEq Obj] in
theorem rtThreadIdleExcute_timers (done : rtThreadIdleExcute scheduler = some after) :
    after.timers = scheduler.timers := by
  unfold rtThreadIdleExcute at done
  split at done
  case h_1 =>
    cases done
    rfl
  case h_2 => exact (rtExitCritical_timers done :)

end Frames

/-- How long a step waits. -/
def SchedStep.time : SchedStep Id Obj → Option UInt32
  | .threadSleep ticks => some ticks
  | .ipcSuspend _ _ ticks => ticks
  | _ => none

/-- A step does not wait for 0 ticks, or for half a turn of the tick. -/
def SchedStep.Timely (step : SchedStep Id Obj) : Prop :=
  ∀ tick ∈ step.time, 0 < tick.toNat ∧ tick.toNat < halfTurn

/-- The step does not wake the thread, or close it. -/
def Instant.Leaves (thread : Id) (instant : Instant Id Obj) :
    SchedStep Id Obj → Prop
  | .resumeTake other => other ≠ thread
  | .threadResume other => other ≠ thread
  | .closeRemove other => other ≠ thread
  | .ipcResume object =>
      (instant.scheduler.rows (.suspended object)).head? ≠ some thread
  | .ipcResumeAll object => thread ∉ instant.scheduler.rows (.suspended object)
  | .resumeAllTurn object =>
      (instant.scheduler.rows (.suspended object)).head? ≠ some thread
  | _ => True

omit [DecidableEq Obj] in
instance Instant.Leaves.decidable (thread : Id) (instant : Instant Id Obj) :
    ∀ step, Decidable (instant.Leaves thread step)
  | .resumeTake _ => inferInstanceAs (Decidable (_ ≠ _))
  | .threadResume _ => inferInstanceAs (Decidable (_ ≠ _))
  | .closeRemove _ => inferInstanceAs (Decidable (_ ≠ _))
  | .ipcResume _ => inferInstanceAs (Decidable (_ ≠ _))
  | .ipcResumeAll _ => inferInstanceAs (Decidable (_ ∉ _))
  | .resumeAllTurn _ => inferInstanceAs (Decidable (_ ≠ _))
  | .systemSchedulerStart => inferInstanceAs (Decidable True)
  | .schedule => inferInstanceAs (Decidable True)
  | .threadInit .. => inferInstanceAs (Decidable True)
  | .startupSet _ => inferInstanceAs (Decidable True)
  | .scheduleInsertThread _ => inferInstanceAs (Decidable True)
  | .threadSuspend _ => inferInstanceAs (Decidable True)
  | .threadYield => inferInstanceAs (Decidable True)
  | .threadSleep _ => inferInstanceAs (Decidable True)
  | .changePriority .. => inferInstanceAs (Decidable True)
  | .threadExit => inferInstanceAs (Decidable True)
  | .closeTimer _ => inferInstanceAs (Decidable True)
  | .closeStat .. => inferInstanceAs (Decidable True)
  | .closeInsert _ => inferInstanceAs (Decidable True)
  | .idleExcute => inferInstanceAs (Decidable True)
  | .enterCritical => inferInstanceAs (Decidable True)
  | .exitCritical => inferInstanceAs (Decidable True)
  | .ipcSuspend .. => inferInstanceAs (Decidable True)
  | .countTick => inferInstanceAs (Decidable True)
  | .countSlice _ => inferInstanceAs (Decidable True)
  | .timerCheck => inferInstanceAs (Decidable True)

/-- A thread whose timer the step may stop. -/
def Instant.Stops (instant : Instant Id Obj) (step : SchedStep Id Obj)
    (thread : Id) : Prop :=
  (instant.scheduler.threads thread).stat ≠ .suspend ∨
    instant.stage thread ≠ none ∨ ¬instant.Leaves thread step

section Steps

variable {instant : Instant Id Obj} {after : Scheduler Id Obj} {idle : Id}
  {step : SchedStep Id Obj}

/-- A step that waits for no time stops some timers only, the tick apart. -/
theorem Steady.fewer (steady : Steady idle instant.stage instant.scheduler)
    (allowed : instant.Allowed idle step) (untimed : step.time = none)
    (count : step ≠ .countTick) (check : step ≠ .timerCheck)
    (taken : instant.scheduler.step step = some after) :
    Fewer instant.scheduler.timers after.timers (instant.Stops step) := by
  have sound := steady.sound
  have awake : ∀ {thread : Id},
      (instant.scheduler.threads thread).stat = .ready →
      instant.Stops step thread := fun ready =>
    Or.inl (by rw [ready]; exact ThreadStat.noConfusion)
  have same : after.timers = instant.scheduler.timers →
      Fewer instant.scheduler.timers after.timers (instant.Stops step) :=
    fun equal => equal ▸ .refl _ _
  cases step with
  | systemSchedulerStart =>
      obtain ⟨toThread, -, rfl⟩ := Option.map_eq_some_iff.mp taken
      exact .refl _ _
  | schedule => exact same (rtSchedule_same taken).2.2
  | threadInit thread priority tick detached =>
      cases taken
      apply Fewer.init
      intro member
      have waits := sound.waits thread member (not_midway allowed.2.1)
      cases allowed.2.2 with
      | inl fresh => cases fresh.symm.trans waits
      | inr closed => cases closed.1.symm.trans waits
  | startupSet thread =>
      cases taken
      exact .refl _ _
  | resumeTake thread =>
      cases taken
      exact .stop _ (Or.inr (Or.inr fun leaves => leaves rfl))
  | scheduleInsertThread thread =>
      cases taken
      exact .refl _ _
  | threadResume thread =>
      cases taken
      exact .resume fun _ => Or.inr (Or.inr fun leaves => leaves rfl)
  | threadSuspend thread =>
      cases taken
      exact .suspend awake
  | threadYield =>
      obtain ⟨thread, -, rfl⟩ := Option.map_eq_some_iff.mp taken
      split
      case isTrue => exact .refl _ _
      case isFalse => exact .refl _ _
  | threadSleep tick => cases untimed
  | changePriority thread priority =>
      cases taken
      exact same (changePriority_timers priority)
  | threadExit =>
      obtain ⟨thread, running, rfl⟩ := Option.map_eq_some_iff.mp taken
      have ready := (allowed.2 thread running).2.1
      rw [rtThreadExit_eq ready, rtThreadDetach_timers]
      exact .remove _ (awake ready)
  | closeRemove thread =>
      cases taken
      exact same closeRemove_timers
  | closeTimer thread =>
      cases taken
      refine .remove _ (Or.inr (Or.inl ?_))
      have midway : instant.stage thread = some .timer := allowed
      rw [midway]
      exact Option.some_ne_none _
  | closeStat thread defunct =>
      cases taken
      exact .refl _ _
  | closeInsert thread =>
      cases taken
      exact .refl _ _
  | idleExcute => exact same (rtThreadIdleExcute_timers taken)
  | enterCritical =>
      cases taken
      exact .refl _ _
  | exitCritical =>
      cases taken
      exact .refl _ _
  | ipcSuspend object flag time =>
      have forever : time = none := untimed
      subst forever
      obtain ⟨thread, running, rfl⟩ := Option.map_eq_some_iff.mp taken
      rw [rtIpcListSuspend_timers]
      exact .suspend awake
  | ipcResume object =>
      cases taken
      unfold rtIpcListResume
      split
      case h_1 => exact .refl _ _
      case h_2 thread rest row =>
        refine .resume fun _ => Or.inr (Or.inr fun leaves => leaves ?_)
        rw [row]
        rfl
  | ipcResumeAll object =>
      have loop : ∃ after,
          rtIpcListResumeAll instant.scheduler object = some after ∧
          Sound (midway instant.stage) after ∧
          WokenAll instant.scheduler after object :=
        sound.resumeAllLoop (Nat.lt_succ_self _)
      obtain ⟨last, looped, -, woken⟩ := loop
      obtain rfl := Option.some.inj (looped.symm.trans taken)
      apply woken.timers.mono
      exact fun thread member => Or.inr (Or.inr fun leaves => leaves member)
  | resumeAllTurn object =>
      cases taken
      obtain ⟨thread, rest, row⟩ := List.exists_cons_of_ne_nil allowed
      apply (sound.resumeAllTurn row).2.timers.mono
      intro other same
      refine Or.inr (Or.inr fun leaves => leaves ?_)
      rw [row, same]
      rfl
  | countTick => exact absurd rfl count
  | countSlice thread =>
      cases taken
      exact same countSlice_same.1
  | timerCheck => exact absurd rfl check

/-- A step that waits for a time starts the timer of the current thread. -/
theorem Instant.starts {tick : UInt32} (allowed : instant.Allowed idle step)
    (time : step.time = some tick)
    (taken : instant.scheduler.step step = some after) :
    ∃ thread ∈ instant.scheduler.rtCurrentThread,
      (instant.scheduler.threads thread).stat = .ready ∧
      instant.stage thread = none ∧ after.timers =
        setAndStart (rtThreadSuspend instant.scheduler thread).2.timers thread
          tick ∧
      step.stages instant.stage = instant.stage := by
  cases step with
  | threadSleep ticks =>
      cases time
      obtain ⟨thread, running, rfl⟩ := Option.map_eq_some_iff.mp taken
      obtain ⟨-, ready, free⟩ := allowed.2 thread running
      exact ⟨thread, running, ready, free, rfl, rfl⟩
  | ipcSuspend object flag ticks =>
      have timed : ticks = some tick := time
      subst timed
      obtain ⟨thread, running, rfl⟩ := Option.map_eq_some_iff.mp taken
      obtain ⟨-, ready, free⟩ := allowed.2 thread running
      refine ⟨thread, running, ready, free, ?_, rfl⟩
      cases flag with
      | fifo => rfl
      | prio => rfl
  | _ => cases time

/-- What a step other than a tick does to the timers: those of suspended threads
that it leaves alone stay due when they were. -/
theorem Steady.clocked {ticking : Bool} {now : Nat} {due : Id → Nat}
    (steady : Steady idle instant.stage instant.scheduler)
    (clocked : Clocked 0 ticking now due instant.scheduler.timers)
    (allowed : instant.Allowed idle step) (timely : step.Timely)
    (count : step ≠ .countTick) (check : step ≠ .timerCheck)
    (taken : instant.scheduler.step step = some after) :
    ∃ later, Clocked 0 ticking now later after.timers ∧
      (∀ thread ∈ instant.scheduler.timers.rtTimerList,
        instant.stage thread = none → instant.Leaves thread step →
        thread ∈ after.timers.rtTimerList ∧ later thread = due thread) ∧
      ∀ tick ∈ step.time, ∀ thread ∈ instant.scheduler.rtCurrentThread,
        thread ∈ after.timers.rtTimerList ∧
          later thread = now + tick.toNat := by
  have waits : ∀ thread ∈ instant.scheduler.timers.rtTimerList,
      instant.stage thread = none →
      (instant.scheduler.threads thread).stat = .suspend :=
    fun thread member free =>
      steady.sound.waits thread member (not_midway free)
  cases time : step.time with
  | none =>
      have fewer := steady.fewer allowed time count check taken
      refine ⟨due, clocked.fewer fewer, ?_,
        fun tick same => absurd same (Option.not_mem_none tick)⟩
      intro thread member free leaves
      refine ⟨fewer.kept thread member ?_, rfl⟩
      rintro (awake | taken | touched)
      · exact awake (waits thread member free)
      · exact taken free
      · exact touched leaves
  | some tick =>
      obtain ⟨positive, small⟩ := timely tick time
      obtain ⟨thread, running, ready, -, set, -⟩ :=
        Instant.starts allowed time taken
      have fewer : Fewer instant.scheduler.timers
          (rtThreadSuspend instant.scheduler thread).2.timers (· = thread) :=
        .suspend fun _ => rfl
      obtain ⟨started, kept⟩ := @Clocked.start _ _ _ _ _ _ thread
        (clocked.fewer fewer) _ positive small
      rw [set]
      refine ⟨_, started, ?_, ?_⟩
      · intro other member free _
        have apart : other ≠ thread := by
          intro same
          subst same
          cases ready.symm.trans (waits other member free)
        exact ⟨kept other (fewer.kept other member apart) apart,
          Function.update_of_ne apart _ _⟩
      · intro ticks same other current
        cases same
        cases running.symm.trans current
        exact ⟨(setAndStart_perm tick).mem_iff.mpr List.mem_cons_self,
          Function.update_self ..⟩

omit [DecidableEq Obj] in
/-- A thread that no function is midway with, and that the step leaves alone,
is not taken. -/
theorem Instant.stays_free {thread : Id} (allowed : instant.Allowed idle step)
    (free : instant.stage thread = none) (leaves : instant.Leaves thread step) :
    step.stages instant.stage thread = none := by
  have go : ∀ {other : Id} {next : Stage} (later : Option Stage),
      instant.stage other = some next →
      Function.update instant.stage other later thread = none := by
    intro other next later taken
    have apart : thread ≠ other := by
      intro same
      rw [same, taken] at free
      cases free
    rw [Function.update_of_ne apart]
    exact free
  have take : ∀ {other : Id} (next : Stage), other ≠ thread →
      Function.update instant.stage other (some next) thread = none := by
    intro other next apart
    rw [Function.update_of_ne (Ne.symm apart)]
    exact free
  cases step with
  | resumeTake other => exact take .insert leaves
  | closeRemove other => exact take .timer leaves
  | scheduleInsertThread other => exact go none allowed
  | closeTimer other => exact go (some .stat) allowed
  | closeStat other defunct => exact go _ allowed
  | closeInsert other => exact go none allowed
  | _ => exact free

end Steps

section Runs

variable {idle thread : Id} {instant : Instant Id Obj}
  {steps : List (SchedStep Id Obj)}

def SchedStep.isTick {Id Obj : Type} : SchedStep Id Obj → Bool
  | .countTick => true
  | _ => false

theorem SchedStep.isTick_iff {Id Obj : Type} {step : SchedStep Id Obj} :
    step.isTick = true ↔ step = .countTick := by
  cases step with
  | countTick => exact iff_of_true rfl rfl
  | _ => exact iff_of_false Bool.false_ne_true fun same => nomatch same

theorem SchedStep.keeps_ticking {Id Obj : Type} (step : SchedStep Id Obj)
    (count : step ≠ .countTick) (check : step ≠ .timerCheck) (ticking : Bool) :
    step.ticks ticking = ticking := by
  cases step with
  | countTick => exact absurd rfl count
  | timerCheck => exact absurd rfl check
  | _ => rfl

/-- How many ticks are counted in a run. -/
def ticksOf {Id Obj : Type} (steps : List (SchedStep Id Obj)) : Nat :=
  steps.countP SchedStep.isTick

/-- The scheduler at a moment, while a thread waits for another. -/
structure Dozing (idle thread : Id) (now moment : Nat)
    (instant : Instant Id Obj) : Prop where
  steady : Steady idle instant.stage instant.scheduler
  clocked : ∃ due, Clocked 0 instant.ticking now due instant.scheduler.timers ∧
    due thread = moment
  listed : thread ∈ instant.scheduler.timers.rtTimerList
  free : instant.stage thread = none

section Dozing

variable {now moment : Nat}

omit [DecidableEq Id] [DecidableEq Obj] in
theorem Dozing.suspended (dozing : Dozing idle thread now moment instant) :
    (instant.scheduler.threads thread).stat = .suspend :=
  dozing.steady.sound.waits thread dozing.listed (not_midway dozing.free)

theorem Dozing.count (dozing : Dozing idle thread now moment instant)
    (allowed : instant.Allowed idle .countTick) :
    ∃ after, instant.step .countTick = some after ∧
      after.ticking = true ∧ Dozing idle thread (now + 1) moment after := by
  obtain ⟨steady, ⟨due, clocked, same⟩, listed, free⟩ := dozing
  obtain ⟨after, taken, kept⟩ := steady.step .countTick allowed
  cases taken
  rw [allowed.2] at clocked
  exact ⟨_, rfl, rfl, kept, ⟨due, clocked.count, same⟩, listed, free⟩

/-- A check wakes the thread at its moment, and not before. -/
theorem Dozing.check (dozing : Dozing idle thread now moment instant)
    (allowed : instant.Allowed idle .timerCheck) :
    ∃ ran after, instant.scheduler.rtTimerCheck = some (ran, after) ∧
      (thread ∈ ran ↔ moment = now) ∧
      (thread ∈ ran → (after.threads thread).stat = .ready ∧
        (after.threads thread).error = -rtETimeout) ∧
      (thread ∉ ran → Dozing idle thread now moment
        ⟨after, instant.stage, false⟩) := by
  obtain ⟨steady, ⟨due, clocked, same⟩, listed, free⟩ := dozing
  obtain ⟨running, -, quiet⟩ := allowed
  obtain ⟨ran, after, check, kept, rang⟩ := steady.timerCheck running quiet
  obtain ⟨next, each⟩ := clocked.check rang.checked
  refine ⟨ran, after, check, same ▸ each thread listed, ?_, ?_⟩
  · intro rings
    rw [rang.woken thread rings]
    exact ⟨rfl, rfl⟩
  · intro silent
    have list := rang.checked.list
    refine ⟨kept, ⟨due, next, same⟩, ?_, free⟩
    exact (List.mem_append.mp (list ▸ listed)).resolve_left silent

theorem Dozing.step {step : SchedStep Id Obj}
    (dozing : Dozing idle thread now moment instant)
    (allowed : instant.Allowed idle step) (timely : step.Timely)
    (leaves : instant.Leaves thread step) (count : step ≠ .countTick)
    (check : step ≠ .timerCheck) :
    ∃ after, instant.step step = some after ∧
      after.ticking = instant.ticking ∧ Dozing idle thread now moment after := by
  obtain ⟨steady, ⟨due, clocked, same⟩, listed, free⟩ := dozing
  obtain ⟨after, taken, kept⟩ := steady.takes step allowed
  obtain ⟨later, final, still, -⟩ :=
    steady.clocked clocked allowed timely count check taken
  obtain ⟨inside, equal⟩ := still thread listed free leaves
  have ticking := step.keeps_ticking count check instant.ticking
  refine ⟨_, congrArg (Option.map _) taken, ticking, kept,
    ⟨later, ?_, equal.trans same⟩, inside, Instant.stays_free allowed free leaves⟩
  exact ticking.symm ▸ final

/-- A thread that nobody wakes sleeps until its moment. -/
theorem Dozing.run (dozing : Dozing idle thread now moment instant)
    (allows : instant.Allows idle steps)
    (timely : ∀ step ∈ steps, step.Timely)
    (leaves : Run.Admitted Instant.step (Instant.Leaves thread) instant steps)
    (early : now + ticksOf steps < moment) :
    ∃ last, instant.run steps = some last ∧
      Dozing idle thread (now + ticksOf steps) moment last := by
  induction steps generalizing now instant with
  | nil => exact ⟨instant, rfl, dozing⟩
  | cons step rest ih =>
      obtain ⟨allowed, allows⟩ := allows
      obtain ⟨leave, leaves⟩ := leaves
      obtain ⟨first, others⟩ := List.forall_mem_cons.mp timely
      have next : ∃ after, instant.step step = some after ∧
          Dozing idle thread (now + ticksOf [step]) moment after := by
        by_cases count : step = .countTick
        · subst count
          obtain ⟨after, counted, -, still⟩ := dozing.count allowed
          exact ⟨after, counted, still⟩
        · have none : ticksOf [step] = 0 :=
            List.countP_cons_of_neg (mt SchedStep.isTick_iff.mp count)
          rw [none]
          by_cases check : step = .timerCheck
          · subst check
            obtain ⟨ran, after, checked, rings, -, silent⟩ := dozing.check allowed
            have quiet : thread ∉ ran := mt rings.mp (by omega)
            refine ⟨_, congrArg (Option.map _)
              (congrArg (Option.map Prod.snd) checked), ?_⟩
            exact silent quiet
          · obtain ⟨after, taken, -, still⟩ :=
              dozing.step allowed first leave count check
            exact ⟨after, taken, still⟩
      obtain ⟨after, taken, still⟩ := next
      have sum : ticksOf ([step] ++ rest) = ticksOf [step] + ticksOf rest :=
        List.countP_append
      rw [List.singleton_append] at sum
      rw [sum, ← Nat.add_assoc] at early ⊢
      obtain ⟨last, run, final⟩ := ih still (allows after taken) others
        (leaves after taken) early
      refine ⟨last, ?_, final⟩
      rw [Instant.run, List.foldlM_cons, taken]
      exact run

/-- Nothing happens to a thread that nobody wakes between a tick and its check. -/
theorem Dozing.between (dozing : Dozing idle thread now moment instant)
    (allows : instant.Allows idle steps)
    (timely : ∀ step ∈ steps, step.Timely)
    (leaves : Run.Admitted Instant.step (Instant.Leaves thread) instant steps)
    (quiet : ∀ step ∈ steps, step ≠ .countTick ∧ step ≠ .timerCheck) :
    ∃ last, instant.run steps = some last ∧
      Dozing idle thread now moment last := by
  induction steps generalizing instant with
  | nil => exact ⟨instant, rfl, dozing⟩
  | cons step rest ih =>
      obtain ⟨allowed, allows⟩ := allows
      obtain ⟨leave, leaves⟩ := leaves
      obtain ⟨first, others⟩ := List.forall_mem_cons.mp timely
      obtain ⟨⟨count, check⟩, quiets⟩ := List.forall_mem_cons.mp quiet
      obtain ⟨after, taken, -, still⟩ :=
        dozing.step allowed first leave count check
      obtain ⟨last, run, final⟩ := ih still (allows after taken) others
        (leaves after taken) quiets
      refine ⟨last, ?_, final⟩
      rw [Instant.run, List.foldlM_cons, taken]
      exact run

end Dozing

omit [DecidableEq Id] [DecidableEq Obj] in
theorem Booting.clocked {scheduler : Scheduler Id Obj}
    (booting : Booting scheduler) :
    ∃ now due, Clocked 0 (Instant.boot scheduler).ticking now due
      (Instant.boot scheduler).scheduler.timers := by
  have quiet : (Instant.boot scheduler).scheduler.timers.rtTimerList = [] :=
    booting.quiet
  have range : ∀ timer, 0 ≤ (scheduler.timers.timers timer).initTick.toNat ∧
      (scheduler.timers.timers timer).initTick.toNat < halfTurn := by
    intro timer
    rw [booting.unset timer]
    exact ⟨Nat.le_refl 0, Nat.zero_lt_succ _⟩
  refine ⟨scheduler.timers.rtTick.toNat, fun _ => 0,
    ⟨UInt32.ofNat_toNat.symm, ?_, ?_, ?_, ?_, ?_, range⟩, ?_⟩ <;>
    simp [quiet, InOrder]

/-- The scheduler keeps its lists, and the timers the order of their deadlines. -/
def Instant.KeepsTime (idle : Id) (instant : Instant Id Obj) : Prop :=
  Steady idle instant.stage instant.scheduler ∧
    ∃ now due, Clocked 0 instant.ticking now due instant.scheduler.timers

theorem Instant.KeepsTime.step {step : SchedStep Id Obj}
    (keeps : instant.KeepsTime idle)
    (guard : instant.Allowed idle step ∧ step.Timely) :
    ∃ after, instant.step step = some after ∧ after.KeepsTime idle := by
  obtain ⟨steady, now, due, clocked⟩ := keeps
  obtain ⟨allowed, timely⟩ := guard
  by_cases count : step = .countTick
  · subst count
    obtain ⟨after, taken, kept⟩ := steady.step .countTick allowed
    cases taken
    rw [allowed.2] at clocked
    exact ⟨_, rfl, kept, now + 1, due, clocked.count⟩
  · by_cases check : step = .timerCheck
    · subst check
      obtain ⟨running, -, quiet⟩ := allowed
      obtain ⟨ran, after, checked, kept, rang⟩ := steady.timerCheck running quiet
      exact ⟨_, congrArg (Option.map _) (congrArg (Option.map Prod.snd) checked),
        kept, now, due, (clocked.check rang.checked).1⟩
    · obtain ⟨after, taken, kept⟩ := steady.takes step allowed
      obtain ⟨later, final, -⟩ :=
        steady.clocked clocked allowed timely count check taken
      have ticking := step.keeps_ticking count check instant.ticking
      refine ⟨_, congrArg (Option.map _) taken, kept, now, later, ?_⟩
      exact ticking.symm ▸ final

variable {initial : Scheduler Id Obj} {middle waiting : Instant Id Obj}
  {start : SchedStep Id Obj} {before later between : List (SchedStep Id Obj)}
  {ticks : UInt32}

/-- The current thread waits for a number of ticks. -/
theorem Instant.KeepsTime.waits (keeps : middle.KeepsTime idle)
    (allowed : middle.Allowed idle start) (timely : start.Timely)
    (running : middle.scheduler.rtCurrentThread = some thread)
    (time : start.time = some ticks) (taken : middle.step start = some waiting) :
    ∃ now, Dozing idle thread now (now + ticks.toNat) waiting := by
  obtain ⟨steady, now, due, clocked⟩ := keeps
  have count : start ≠ .countTick := fun same => by
    rw [same] at time
    cases time
  have check : start ≠ .timerCheck := fun same => by
    rw [same] at time
    cases time
  obtain ⟨after, went, kept⟩ := steady.takes start allowed
  obtain ⟨final, clock, -, sets⟩ :=
    steady.clocked clocked allowed timely count check went
  obtain ⟨listed, moment⟩ := sets ticks time thread running
  obtain ⟨own, current, -, free, -, stages⟩ := Instant.starts allowed time went
  cases running.symm.trans current
  rw [Instant.step, went] at taken
  cases taken
  refine ⟨now, kept, ⟨final, ?_, moment⟩, listed, ?_⟩
  · rw [start.keeps_ticking count check]
    exact clock
  · rw [stages]
    exact free

end Runs

end Ch32v307.Kernel
