import Ch32v307.Kernel.TimerOrder

namespace Ch32v307.Kernel

open Data Deadline TimerSystem

/-! Timers on a tick that wraps are alarms on a time that does not: what the
calls and `rt_timer_check` do to them. -/

variable {Id : Type}

/-- What happens to the timers: the sections of a function, between which others
may come. A function that is called with interrupts disabled is all its sections
at once. `remove` is `rt_timer_detach`, or a section of `rt_timer_stop`. -/
inductive TimerAction (Id : Type)
  | startStop (timer : Id)
  | startTime (timer : Id)
  | startInsert (timer : Id)
  | remove (timer : Id)
  | stopFlag (timer : Id)
  | control (timer : Id) (cmd : TimerCmd) (arg : UInt32)
  | count
  | check (timeoutFunc : Id → List (TimerCall Id))

namespace TimerAction

def timer : TimerAction Id → Option Id
  | .startStop timer => some timer
  | .startTime timer => some timer
  | .startInsert timer => some timer
  | .remove timer => some timer
  | .stopFlag timer => some timer
  | .control timer _ _ => some timer
  | .count => none
  | .check _ => none

def now (now : Nat) : TimerAction Id → Nat
  | .count => now + 1
  | _ => now

def ticking (ticking : Bool) : TimerAction Id → Bool
  | .count => true
  | .check _ => false
  | _ => ticking

end TimerAction

def TimerCall.timer : TimerCall Id → Id
  | .start timer => timer
  | .stop timer => timer
  | .control timer _ _ => timer
  | .detach timer => timer

/-! What one timer does. -/

/-- A timer on a time that does not wrap. -/
structure Alarm where
  now : Nat
  due : Nat
  armed : Bool
  activated : Bool
  periodic : Bool
  time : Nat

namespace Alarm

def stop (alarm : Alarm) : Alarm :=
  { alarm with armed := false, activated := false }

def set (alarm : Alarm) : Alarm := { alarm with due := alarm.now + alarm.time }

def arm (alarm : Alarm) : Alarm :=
  { alarm with armed := true, activated := true }

def control (alarm : Alarm) (arg : UInt32) : TimerCmd → Alarm
  | .getTime => alarm
  | .setTime => { alarm with time := arg.toNat }
  | .setOneshot => { alarm with periodic := false }
  | .setPeriodic => { alarm with periodic := true }
  | .other => alarm

/-- A timer that runs starts again when it is periodic. -/
def expire (alarm : Alarm) : Alarm :=
  if alarm.periodic ∧ alarm.activated then alarm.stop.set.arm else alarm.stop

def rings (alarm : Alarm) : Bool := alarm.armed && alarm.due ≤ alarm.now

def check (alarm : Alarm) : Alarm := if alarm.rings then alarm.expire else alarm

def act (alarm : Alarm) : TimerAction Id → Alarm
  | .startStop _ => alarm.stop
  | .startTime _ => alarm.set
  | .startInsert _ => alarm.arm
  | .remove _ => { alarm with armed := false }
  | .stopFlag _ => { alarm with activated := false }
  | .control _ cmd arg => alarm.control arg cmd
  | .count => { alarm with now := alarm.now + 1 }
  | .check _ => alarm.check

end Alarm

/-- The system as one timer sees it. -/
def TimerSystem.view [DecidableEq Id] (system : TimerSystem Id) (now : Nat)
    (due : Id → Nat) (timer : Id) : Alarm :=
  ⟨now, due timer, timer ∈ system.rtTimerList, (system.timers timer).activated,
    (system.timers timer).periodic, (system.timers timer).initTick.toNat⟩

variable [DecidableEq Id]

def Alarm.step (timer : Id) (alarm : Alarm) (action : TimerAction Id) : Alarm :=
  if ∀ other ∈ action.timer, other = timer then alarm.act action else alarm

/-- The alarm of a timer over a run. -/
def Alarm.run (timer : Id) (alarm : Alarm) (actions : List (TimerAction Id)) :
    Alarm := actions.foldl (Alarm.step timer) alarm

/-- A timer's time is below half a turn of the tick, as `rt_timer_start`
asserts, and not 0. -/
def TimerCmd.Allowed (arg : UInt32) : TimerCmd → Prop
  | .setTime => 0 < arg.toNat ∧ arg.toNat < halfTurn
  | _ => True

def TimerCall.Allowed : TimerCall Id → Prop
  | .control _ cmd arg => cmd.Allowed arg
  | _ => True

instance TimerCmd.Allowed.decidable (arg : UInt32) :
    ∀ cmd : TimerCmd, Decidable (cmd.Allowed arg)
  | .setTime => inferInstanceAs (Decidable (_ ∧ _))
  | .getTime => inferInstanceAs (Decidable True)
  | .setOneshot => inferInstanceAs (Decidable True)
  | .setPeriodic => inferInstanceAs (Decidable True)
  | .other => inferInstanceAs (Decidable True)

instance TimerCall.Allowed.decidable :
    ∀ call : TimerCall Id, Decidable call.Allowed
  | .control _ cmd arg => inferInstanceAs (Decidable (cmd.Allowed arg))
  | .start _ => inferInstanceAs (Decidable True)
  | .stop _ => inferInstanceAs (Decidable True)
  | .detach _ => inferInstanceAs (Decidable True)

section View

variable {now : Nat} {due later : Id → Nat} {system after : TimerSystem Id}
  {timer other t : Id} {timeoutFunc : Id → List (TimerCall Id)}

theorem Untouched.view (untouched : Untouched due later system after timer) :
    after.view now later timer = system.view now due timer := by
  rw [TimerSystem.view, TimerSystem.view, untouched.entry, untouched.moment,
    decide_eq_decide.mpr untouched.listed]

theorem rings_view : (system.view now due timer).rings = true ↔
    timer ∈ system.rtTimerList ∧ due timer ≤ now := by
  rw [Alarm.rings, Bool.and_eq_true, decide_eq_true_iff]
  exact and_congr_left' decide_eq_true_iff

theorem view_setTimer {change : Timer → Timer} :
    (system.setTimer timer change).view now due timer =
      ⟨now, due timer, timer ∈ system.rtTimerList,
        (change (system.timers timer)).activated,
        (change (system.timers timer)).periodic,
        (change (system.timers timer)).initTick.toNat⟩ := by
  rw [TimerSystem.view, setTimer_self, setTimer_rtTimerList]

theorem Timed.view_remove {least : Nat} (timed : Timed least now due system)
    (timer : Id) :
    (timerRemove system timer).view now due timer =
      { system.view now due timer with armed := false } := by
  have gone : timer ∉ (timerRemove system timer).rtTimerList :=
    timed.nodup.not_mem_erase
  rw [TimerSystem.view, decide_eq_false gone]
  rfl

theorem Timed.view_startStop {least : Nat} (timed : Timed least now due system)
    (timer : Id) :
    (startStop system timer).view now due timer =
      (system.view now due timer).stop := by
  have gone : timer ∉ (timerRemove system timer).rtTimerList :=
    timed.nodup.not_mem_erase
  rw [startStop, setActivated, view_setTimer, decide_eq_false gone]
  rfl

theorem view_startTime :
    (startTime system timer).view now (startDue now system timer due) timer =
      (system.view now due timer).set := by
  rw [startTime, view_setTimer, startDue_self]
  rfl

theorem view_startInsert :
    (startInsert system timer).view now due timer =
      (system.view now due timer).arm := by
  rw [TimerSystem.view, startInsert_self,
    decide_eq_true (mem_startInsert.mpr (Or.inl rfl))]
  rfl

theorem view_start :
    (rtTimerStart system timer).view now (startDue now system timer due) timer =
      (system.view now due timer).stop.set.arm := by
  have listed : timer ∈ (rtTimerStart system timer).rtTimerList :=
    mem_startInsert.mpr (Or.inl rfl)
  rw [TimerSystem.view, rtTimerStart_self, startDue_self, decide_eq_true listed]
  rfl

theorem view_control (cmd : TimerCmd) (arg : UInt32) :
    (rtTimerControl system timer arg cmd).2.view now due timer =
      (system.view now due timer).control arg cmd := by
  cases cmd with
  | getTime => rfl
  | setTime => exact view_setTimer
  | setOneshot => exact view_setTimer
  | setPeriodic => exact view_setTimer
  | other => rfl

end View

section Check

variable {now : Nat} {due later between : Id → Nat}
  {system middle after : TimerSystem Id} {timer t : Id} {ran : List Id}
  {timeoutFunc : Id → List (TimerCall Id)}

theorem Timed.control_moved (timed : Timed 1 now due system) (timer : Id)
    {cmd : TimerCmd} {arg : UInt32} (allowed : cmd.Allowed arg) :
    Moved 1 now due due system (rtTimerControl system timer arg cmd).2 timer := by
  cases cmd with
  | getTime => exact .refl timed timer
  | setTime =>
      exact timed.setTimer_moved timer (fun entry => { entry with initTick := arg })
        rfl allowed
  | setOneshot =>
      exact timed.setTimer_moved timer
        (fun entry => { entry with periodic := false }) rfl (timed.range timer)
  | setPeriodic =>
      exact timed.setTimer_moved timer
        (fun entry => { entry with periodic := true }) rfl (timed.range timer)
  | other => exact .refl timed timer

theorem Timed.call (timed : Timed 1 now due system) (call : TimerCall Id)
    (allowed : call.Allowed) :
    ∃ later, Moved 1 now due later system (system.call call) call.timer := by
  cases call with
  | start timer => exact ⟨_, timed.start_moved (timed.range timer).1⟩
  | stop timer => exact ⟨due, timed.stop_moved timer⟩
  | control timer cmd arg => exact ⟨due, timed.control_moved timer allowed⟩
  | detach timer => exact ⟨due, timed.remove_moved timer⟩

/-- The calls of a timeout function. -/
theorem Timed.calls (timed : Timed 1 now due system) (calls : List (TimerCall Id))
    (allowed : ∀ call ∈ calls, call.Allowed) :
    ∃ later, Timed 1 now later (calls.foldl TimerSystem.call system) ∧
      ripe now later (calls.foldl TimerSystem.call system) ≤
        ripe now due system ∧
      ∀ other, (∀ call ∈ calls, call.timer ≠ other) →
        Untouched due later system (calls.foldl TimerSystem.call system)
          other := by
  induction calls generalizing due system with
  | nil => exact ⟨due, timed, Nat.le_refl _, fun _ _ => .refl ..⟩
  | cons call rest ih =>
      obtain ⟨first, others⟩ := List.forall_mem_cons.mp allowed
      obtain ⟨between, moved⟩ := timed.call call first
      obtain ⟨later, kept, fewer, alone⟩ := ih moved.timed others
      refine ⟨later, kept, fewer.trans moved.fewer, fun other untouched => ?_⟩
      obtain ⟨here, after⟩ := List.forall_mem_cons.mp untouched
      exact (moved.others other here.symm).trans (alone other after)

theorem ripe_remove_lt (member : t ∈ system.rtTimerList) (time : due t ≤ now) :
    ripe now due (timerRemove system t) < ripe now due system := by
  have counted : ripe now due system = ripe now due (timerRemove system t) + 1 := by
    unfold ripe timerRemove
    rw [(List.perm_cons_erase member).countP_eq,
      List.countP_cons_of_pos (by simpa using time)]
  omega

/-- A timer that has timed out is done with, or due later. -/
theorem Timed.expire (timed : Timed 1 now due system)
    (member : t ∈ system.rtTimerList) (time : due t ≤ now)
    (allowed : ∀ call ∈ timeoutFunc t, call.Allowed) :
    ∃ later, Timed 1 now later (timerExpire timeoutFunc system t) ∧
      ripe now later (timerExpire timeoutFunc system t) <
        ripe now due system ∧
      (∀ other, other ≠ t → (∀ call ∈ timeoutFunc t, call.timer ≠ other) →
        Untouched due later system (timerExpire timeoutFunc system t) other) ∧
      ((∀ call ∈ timeoutFunc t, call.timer ≠ t) →
        (timerExpire timeoutFunc system t).view now later t =
          (system.view now due t).expire) := by
  have removed := timed.remove_moved t
  obtain ⟨after, called, rest, alone⟩ :=
    removed.timed.calls (timeoutFunc t) allowed
  have fewer := Nat.lt_of_le_of_lt rest (ripe_remove_lt member time)
  have others : ∀ other, other ≠ t →
      (∀ call ∈ timeoutFunc t, call.timer ≠ other) →
      Untouched due after system
        ((timeoutFunc t).foldl TimerSystem.call (timerRemove system t)) other :=
    fun other apart untouched =>
      (removed.others other apart).trans (alone other untouched)
  dsimp only [timerExpire]
  generalize (timeoutFunc t).foldl TimerSystem.call (timerRemove system t) =
    mid at *
  have idle := called.setActivated_moved t false
  have own : (∀ call ∈ timeoutFunc t, call.timer ≠ t) →
      (mid.setActivated t false).view now after t =
          (system.view now due t).stop ∧
        (mid.timers t).periodic = (system.timers t).periodic ∧
        (mid.timers t).activated = (system.timers t).activated := by
    intro untouched
    have seen := alone t untouched
    have gone : t ∉ mid.rtTimerList :=
      mt seen.listed.mp timed.nodup.not_mem_erase
    rw [setActivated, view_setTimer, seen.entry, seen.moment, decide_eq_false gone]
    exact ⟨rfl, rfl, rfl⟩
  split
  case isTrue again =>
    have positive : 0 < ((mid.setActivated t false).timers t).initTick.toNat :=
      (idle.timed.range t).1
    have both := idle.trans (idle.timed.start_moved positive)
    refine ⟨_, both.timed, Nat.lt_of_le_of_lt both.fewer fewer, ?_, ?_⟩
    · exact fun other apart untouched =>
        (others other apart untouched).trans (both.others other apart)
    · intro untouched
      obtain ⟨stopped, periodic, activated⟩ := own untouched
      rw [periodic, activated] at again
      rw [view_start, stopped, Alarm.expire]
      exact (if_pos again).symm
  case isFalse once =>
    refine ⟨_, idle.timed, Nat.lt_of_le_of_lt idle.fewer fewer, ?_, ?_⟩
    · exact fun other apart untouched =>
        (others other apart untouched).trans (idle.others other apart)
    · intro untouched
      obtain ⟨stopped, periodic, activated⟩ := own untouched
      rw [periodic, activated] at once
      rw [stopped, Alarm.expire]
      exact (if_neg once).symm

theorem expire_not_rings {alarm : Alarm} (positive : 0 < alarm.time) :
    alarm.expire.rings = false := by
  unfold Alarm.expire
  split
  case isTrue =>
    refine (Bool.true_and _).trans (decide_eq_false (Nat.not_le_of_lt ?_))
    exact Nat.lt_add_of_pos_right positive
  case isFalse => rfl

theorem quiet_rings (quiet : ∀ t ∈ system.rtTimerList, now < due t)
    (timer : Id) : (system.view now due timer).rings = false := by
  apply Bool.eq_false_iff.mpr
  intro rings
  obtain ⟨member, time⟩ := rings_view.mp rings
  exact Nat.not_lt_of_le time (quiet timer member)

/-- What `rt_timer_check` has done to a timer that the timeout functions leave
alone: it has run if it was due, once. -/
structure Rung (now : Nat) (due later : Id → Nat) (system after : TimerSystem Id)
    (ran : List Id) (timer : Id) : Prop where
  view : after.view now later timer = (system.view now due timer).check
  count : ran.count timer = (system.view now due timer).rings.toNat
  idle : timer ∉ system.rtTimerList → Untouched due later system after timer

theorem Rung.quiet (quiet : ∀ t ∈ system.rtTimerList, now < due t) (timer : Id) :
    Rung now due due system system [] timer := by
  have silent := quiet_rings quiet timer
  refine ⟨?_, ?_, fun _ => .refl due system timer⟩
  · rw [Alarm.check, silent]
    rfl
  · rw [silent]
    rfl

/-- The timer that ran first is not due again. -/
theorem Rung.first (rung : Rung now between later middle after ran timer)
    (own : middle.view now between timer = (system.view now due timer).expire)
    (positive : 0 < (system.timers timer).initTick.toNat)
    (member : timer ∈ system.rtTimerList) (time : due timer ≤ now) :
    Rung now due later system after (timer :: ran) timer := by
  obtain ⟨view, count, -⟩ := rung
  have rings := rings_view.mpr ⟨member, time⟩
  have rungOut : (system.view now due timer).expire.rings = false :=
    expire_not_rings positive
  rw [own] at view count
  rw [Alarm.check, rungOut] at view
  rw [rungOut] at count
  refine ⟨?_, ?_, fun absent => absurd member absent⟩
  · rw [Alarm.check, rings]
    exact view
  · rw [rings, List.count_cons_self, count]
    rfl

theorem Rung.behind (rung : Rung now between later middle after ran timer)
    (before : Untouched due between system middle timer) (apart : timer ≠ t) :
    Rung now due later system after (t :: ran) timer := by
  obtain ⟨view, count, idle⟩ := rung
  rw [before.view] at view count
  refine ⟨view, ?_, fun absent => ?_⟩
  · rw [List.count_cons_of_ne (Ne.symm apart), count]
  · exact before.trans (idle (mt before.listed.mp absent))

/-- The loop of `rt_timer_check` ends, with nothing due any more. -/
theorem Timed.loop {fuel : Nat} (timed : Timed 1 now due system)
    (enough : ripe now due system < fuel)
    (allowed : ∀ t, ∀ call ∈ timeoutFunc t, call.Allowed) :
    ∃ ran after later,
      timerCheckLoop timeoutFunc fuel system = some (ran, after) ∧
      Timed 1 now later after ∧ (∀ t ∈ after.rtTimerList, now < later t) ∧
      ∀ timer, (∀ t, ∀ call ∈ timeoutFunc t, call.timer ≠ timer) →
        Rung now due later system after ran timer := by
  induction fuel generalizing due system with
  | zero => omega
  | succ fuel ih =>
      cases row : system.rtTimerList with
      | nil =>
          have quiet : ∀ t ∈ system.rtTimerList, now < due t := by
            rw [row]
            exact List.forall_mem_nil _
          refine ⟨[], system, due, ?_, timed, quiet,
            fun timer _ => .quiet quiet timer⟩
          simp only [timerCheckLoop, row]
      | cons t rest =>
          have member : t ∈ system.rtTimerList := row ▸ List.mem_cons_self
          by_cases time : due t ≤ now
          · obtain ⟨between, kept, fewer, others, own⟩ :=
              timed.expire member time (allowed t)
            obtain ⟨ran, after, later, looped, final, quiet, each⟩ :=
              ih kept (by omega)
            refine ⟨t :: ran, after, later, ?_, final, quiet,
              fun timer untouched => ?_⟩
            · simp only [timerCheckLoop, row]
              rw [if_pos ((timed.timesOut_iff member).mpr time), looped,
                Option.map_some]
            by_cases same : timer = t
            · subst same
              exact (each timer untouched).first (own (untouched timer))
                (timed.range timer).1 member time
            · exact (each timer untouched).behind
                (others timer same (untouched t)) same
          · have quiet := timed.quiet row (Nat.lt_of_not_le time)
            refine ⟨[], system, due, ?_, timed, quiet,
            fun timer _ => .quiet quiet timer⟩
            simp only [timerCheckLoop, row]
            rw [if_neg (mt (timed.timesOut_iff member).mp time)]

end Check

end Ch32v307.Kernel
