import Ch32v307.Data.Run
import Ch32v307.Kernel.TimerAlarms
import Mathlib.Data.Fintype.Basic

namespace Ch32v307.Kernel

open Data Deadline TimerSystem

/-! Runs of the timers, section by section. -/

variable {Id : Type} [DecidableEq Id]

/-- How far an `rt_timer_start` has come. -/
inductive StartStage
  | time
  | insert (due : Nat)
  deriving DecidableEq

/-- The timers between two sections, at a time that does not wrap, with the
timers that are being started. `ticking` between the tick and its check. -/
structure TimerMoment (Id : Type) where
  system : TimerSystem Id
  now : Nat
  starts : Id → Option StartStage
  ticking : Bool

def TimerSystem.step (system : TimerSystem Id) :
    TimerAction Id → Option (TimerSystem Id)
  | .startStop timer => some (startStop system timer)
  | .startTime timer => some (startTime system timer)
  | .startInsert timer => some (startInsert system timer)
  | .remove timer => some (timerRemove system timer)
  | .stopFlag timer => some (system.setActivated timer false)
  | .control timer cmd arg => some (rtTimerControl system timer arg cmd).2
  | .count => some { system with rtTick := system.rtTick + 1 }
  | .check timeoutFunc => (rtTimerCheck timeoutFunc system).map Prod.snd

namespace TimerMoment

def startsAfter (moment : TimerMoment Id) :
    TimerAction Id → Id → Option StartStage
  | .startStop timer => Function.update moment.starts timer (some .time)
  | .startTime timer => Function.update moment.starts timer
      (some (.insert (moment.now + (moment.system.timers timer).initTick.toNat)))
  | .startInsert timer => Function.update moment.starts timer none
  | _ => moment.starts

def step (moment : TimerMoment Id) (action : TimerAction Id) :
    Option (TimerMoment Id) :=
  (moment.system.step action).map fun system =>
    ⟨system, action.now moment.now, moment.startsAfter action,
      action.ticking moment.ticking⟩

def run (moment : TimerMoment Id) (actions : List (TimerAction Id)) :
    Option (TimerMoment Id) := actions.foldlM step moment

end TimerMoment

def TimerCall.sections (system : TimerSystem Id) :
    TimerCall Id → List (TimerAction Id)
  | .start timer => [.startStop timer, .startTime timer, .startInsert timer]
  | .stop timer =>
      if (system.timers timer).activated then [.remove timer, .stopFlag timer]
      else []
  | .control timer cmd arg => [.control timer cmd arg]
  | .detach timer => [.remove timer]

/-- A call is the run of its sections. -/
theorem TimerSystem.call_sections (system : TimerSystem Id)
    (call : TimerCall Id) :
    (call.sections system).foldlM TimerSystem.step system =
      some (system.call call) := by
  cases call with
  | start timer => rfl
  | stop timer =>
      rw [TimerCall.sections, TimerSystem.call, rtTimerStop]
      split
      case isTrue => rfl
      case isFalse => rfl
  | control timer cmd arg => rfl
  | detach timer => rfl

theorem TimerSystem.tick_sections (timeoutFunc : Id → List (TimerCall Id))
    (system : TimerSystem Id) :
    [.count, .check timeoutFunc].foldlM TimerSystem.step system =
      (rtTickIncrease timeoutFunc system).map Prod.snd := by
  show ((rtTickIncrease timeoutFunc system).map Prod.snd).bind some = _
  exact Option.bind_fun_some _

def StartStage.ahead (now : Nat) : StartStage → Bool
  | .time => false
  | .insert due => now < due

namespace TimerMoment

/-- An `rt_timer_start` inserts its timer before the timer is due, and no other
call names the timer until then. The timers are checked after each tick. -/
def Allowed (moment : TimerMoment Id) : TimerAction Id → Prop
  | .startStop timer => moment.starts timer = none
  | .startTime timer => moment.starts timer = some .time
  | .startInsert timer =>
      (moment.starts timer).any (StartStage.ahead moment.now)
  | .remove timer => moment.starts timer = none
  | .stopFlag timer => moment.starts timer = none
  | .control timer cmd arg => moment.starts timer = none ∧ cmd.Allowed arg
  | .count => moment.ticking = false
  | .check timeoutFunc => moment.ticking = true ∧
      ∀ t, ∀ call ∈ timeoutFunc t, moment.starts call.timer = none ∧ call.Allowed

instance Allowed.decidable [Fintype Id] (moment : TimerMoment Id) :
    ∀ action, Decidable (moment.Allowed action)
  | .startStop _ => inferInstanceAs (Decidable (_ = _))
  | .startTime _ => inferInstanceAs (Decidable (_ = _))
  | .startInsert _ => inferInstanceAs (Decidable (_ = true))
  | .remove _ => inferInstanceAs (Decidable (_ = _))
  | .stopFlag _ => inferInstanceAs (Decidable (_ = _))
  | .control .. => inferInstanceAs (Decidable (_ ∧ _))
  | .count => inferInstanceAs (Decidable (_ = _))
  | .check _ => inferInstanceAs (Decidable (_ ∧ _))

def Allows (moment : TimerMoment Id) (actions : List (TimerAction Id)) : Prop :=
  Run.Admitted step Allowed moment actions

def view (moment : TimerMoment Id) (due : Id → Nat) (timer : Id) : Alarm :=
  moment.system.view moment.now due timer

end TimerMoment

/-- The timeout functions leave the timer alone. -/
def TimerAction.Leaves (timer : Id) : TimerAction Id → Prop
  | .check timeoutFunc => ∀ t, ∀ call ∈ timeoutFunc t, call.timer ≠ timer
  | _ => True

/-- A timer that is being started is not in the list; from the second section on
its deadline is set. -/
structure Midway (now : Nat) (due : Id → Nat) (system : TimerSystem Id)
    (timer : Id) (stage : StartStage) : Prop where
  absent : timer ∉ system.rtTimerList
  set : ∀ moment, stage = .insert moment → due timer = moment ∧
    (system.timers timer).timeoutTick = UInt32.ofNat moment ∧
    moment < now + halfTurn

structure TimerMoment.Keeps (due : Id → Nat) (moment : TimerMoment Id) : Prop
    extends Clocked 1 moment.ticking moment.now due moment.system where
  midway : ∀ timer, ∀ stage ∈ moment.starts timer,
    Midway moment.now due moment.system timer stage

section Moments

variable {now : Nat} {due later : Id → Nat} {system after : TimerSystem Id}
  {moment : TimerMoment Id} {timer : Id} {stage : StartStage}
  {action : TimerAction Id} {actions : List (TimerAction Id)}

omit [DecidableEq Id] in
theorem Midway.untouched (midway : Midway now due system timer stage)
    (untouched : Untouched due later system after timer) :
    Midway now later after timer stage where
  absent := mt untouched.listed.mp midway.absent
  set := by
    rw [untouched.moment, untouched.entry]
    exact midway.set

omit [DecidableEq Id] in
theorem Midway.count (midway : Midway now due system timer stage) :
    Midway (now + 1) due { system with rtTick := system.rtTick + 1 } timer stage where
  absent := midway.absent
  set due same := by
    obtain ⟨own, read, near⟩ := midway.set due same
    exact ⟨own, read, near.trans (by omega)⟩

/-- An action on one timer. -/
theorem TimerMoment.Keeps.moved (keeps : moment.Keeps due)
    (moved : Moved 1 moment.now due later moment.system after timer)
    {starts : Option StartStage}
    (own : ∀ stage ∈ starts, Midway moment.now later after timer stage) :
    TimerMoment.Keeps later ⟨after, moment.now,
      Function.update moment.starts timer starts, moment.ticking⟩ := by
  refine ⟨keeps.toClocked.moved moved, fun other stage reached => ?_⟩
  change stage ∈ Function.update moment.starts timer starts other at reached
  by_cases same : other = timer
  · subst same
    rw [Function.update_self] at reached
    exact own stage reached
  · rw [Function.update_of_ne same] at reached
    exact (keeps.midway other stage reached).untouched (moved.others other same)

/-- A timer that is not being started. -/
theorem TimerMoment.Keeps.moved_free (keeps : moment.Keeps due)
    (moved : Moved 1 moment.now due later moment.system after timer)
    (free : moment.starts timer = none) :
    TimerMoment.Keeps later ⟨after, moment.now, moment.starts, moment.ticking⟩ := by
  have kept : TimerMoment.Keeps later ⟨after, moment.now,
      Function.update moment.starts timer none, moment.ticking⟩ :=
    keeps.moved moved (by simp)
  rw [← free, Function.update_eq_self] at kept
  exact kept

/-- An action on one timer does to it what it does to its alarm, and leaves the
others alone. -/
theorem TimerMoment.Keeps.act (keeps : moment.Keeps due)
    (allowed : moment.Allowed action) (here : action.timer = some timer) :
    ∃ later after, moment.step action = some after ∧ after.Keeps later ∧
      after.now = moment.now ∧
      after.view later timer = (moment.view due timer).act action ∧
      ∀ other, other ≠ timer →
        Untouched due later moment.system after.system other := by
  have timed := keeps.toTimed
  cases action with
  | startStop _ =>
      cases here
      have moved := timed.startStop_moved timer
      have midway : Midway moment.now due (startStop moment.system timer) timer
          .time := ⟨timed.not_mem_startStop timer, fun _ => StartStage.noConfusion⟩
      exact ⟨due, _, rfl, keeps.moved moved (by simpa using midway), rfl,
        timed.view_startStop timer, moved.others⟩
  | startTime _ =>
      cases here
      have absent := (keeps.midway timer .time allowed).absent
      have moved := timed.startTime_moved absent
      have near := (timed.range timer).2
      have midway : Midway moment.now
          (startDue moment.now moment.system timer due)
          (startTime moment.system timer) timer
          (.insert (moment.now +
            (moment.system.timers timer).initTick.toNat)) := by
        refine ⟨absent, fun set same => ?_⟩
        obtain rfl := StartStage.insert.inj same
        exact ⟨startDue_self, startTime_read timed.tick, by omega⟩
      exact ⟨_, _, rfl, keeps.moved moved (by simpa using midway), rfl,
        view_startTime, moved.others⟩
  | startInsert _ =>
      cases here
      obtain ⟨stage, reached, ahead⟩ := (Option.any_eq_true _ _).mp allowed
      obtain ⟨absent, set⟩ := keeps.midway timer stage reached
      cases stage with
      | time => exact Bool.noConfusion ahead
      | insert moment =>
          obtain ⟨rfl, read, near⟩ := set moment rfl
          have moved := timed.startInsert_moved absent read
            (of_decide_eq_true ahead) near
          exact ⟨due, _, rfl, keeps.moved moved (by simp), rfl, view_startInsert,
            moved.others⟩
  | remove _ =>
      cases here
      have moved := timed.remove_moved timer
      exact ⟨due, _, rfl, keeps.moved_free moved allowed, rfl,
        timed.view_remove timer, moved.others⟩
  | stopFlag _ =>
      cases here
      have moved := timed.setActivated_moved timer false
      exact ⟨due, _, rfl, keeps.moved_free moved allowed, rfl, view_setTimer,
        moved.others⟩
  | control _ cmd arg =>
      cases here
      have moved := timed.control_moved timer allowed.2
      exact ⟨due, _, rfl, keeps.moved_free moved allowed.1, rfl,
        view_control cmd arg, moved.others⟩
  | count => cases here
  | check timeoutFunc => cases here

theorem TimerMoment.Keeps.count (keeps : moment.Keeps due)
    (allowed : moment.Allowed .count) :
    ∃ after, moment.step .count = some after ∧ after.Keeps due ∧
      ∀ timer, after.view due timer =
        { moment.view due timer with now := moment.now + 1 } := by
  have clocked := keeps.toClocked
  have quiet : moment.ticking = false := allowed
  rw [quiet] at clocked
  exact ⟨_, rfl, ⟨clocked.count, fun timer stage reached =>
    (keeps.midway timer stage reached).count⟩, fun timer => rfl⟩

theorem TimerMoment.Keeps.check {timeoutFunc : Id → List (TimerCall Id)}
    (keeps : moment.Keeps due) (allowed : moment.Allowed (.check timeoutFunc)) :
    ∃ ran after later,
      rtTimerCheck timeoutFunc moment.system = some (ran, after) ∧
      TimerMoment.Keeps later ⟨after, moment.now, moment.starts, false⟩ ∧
      ∀ timer, (∀ t, ∀ call ∈ timeoutFunc t, call.timer ≠ timer) →
        Rung moment.now due later moment.system after ran timer := by
  obtain ⟨-, calls⟩ := allowed
  obtain ⟨ran, after, later, looped, timed, quiet, each⟩ := keeps.toTimed.loop
    (Nat.lt_succ_of_le List.countP_le_length)
    fun t call member => (calls t call member).2
  refine ⟨ran, after, later, looped, ⟨⟨timed, fun _ => quiet⟩, ?_⟩, each⟩
  intro timer stage reached
  have midway := keeps.midway timer stage reached
  refine midway.untouched ((each timer fun t call member same => ?_).idle
    midway.absent)
  cases reached.symm.trans (same ▸ (calls t call member).1)

/-- Every timer that the timeout functions leave alone is as its alarm. -/
theorem TimerMoment.Keeps.step (keeps : moment.Keeps due)
    (allowed : moment.Allowed action) :
    ∃ later after, moment.step action = some after ∧ after.Keeps later ∧
      ∀ timer, action.Leaves timer →
        after.view later timer = (moment.view due timer).step timer action := by
  cases here : action.timer with
  | some timer =>
      obtain ⟨later, after, taken, kept, now, own, others⟩ := keeps.act allowed here
      refine ⟨later, after, taken, kept, fun other _ => ?_⟩
      rw [Alarm.step, here]
      by_cases same : timer = other
      · subst same
        rw [if_pos (by simp), own]
      · rw [if_neg (by simpa using same), TimerMoment.view, now]
        exact (others other (Ne.symm same)).view
  | none =>
      cases action with
      | count =>
          obtain ⟨after, taken, kept, views⟩ := keeps.count allowed
          refine ⟨due, after, taken, kept, fun timer _ => (views timer).trans ?_⟩
          exact (if_pos (by simp [TimerAction.timer])).symm
      | check timeoutFunc =>
          obtain ⟨ran, after, later, checked, kept, each⟩ := keeps.check allowed
          refine ⟨later, _, congrArg (Option.map _)
            (congrArg (Option.map Prod.snd) checked), kept, fun timer leaves => ?_⟩
          refine (each timer leaves).view.trans ?_
          exact (if_pos (by simp [TimerAction.timer])).symm
      | _ => cases here

theorem TimerMoment.Keeps.run (keeps : moment.Keeps due)
    (allows : moment.Allows actions) :
    ∃ later last, moment.run actions = some last ∧ last.Keeps later ∧
      ∀ timer, (∀ action ∈ actions, action.Leaves timer) →
        last.view later timer = (moment.view due timer).run timer actions := by
  induction actions generalizing moment due with
  | nil => exact ⟨due, moment, rfl, keeps, fun _ _ => rfl⟩
  | cons action rest ih =>
      obtain ⟨allowed, allows⟩ := allows
      obtain ⟨between, after, taken, kept, here⟩ := keeps.step allowed
      obtain ⟨later, last, went, final, each⟩ := ih kept (allows after taken)
      refine ⟨later, last, ?_, final, fun timer leaves => ?_⟩
      · rw [TimerMoment.run, List.foldlM_cons, taken]
        exact went
      · obtain ⟨first, others⟩ := List.forall_mem_cons.mp leaves
        rw [each timer others, here timer first]
        rfl

end Moments

/-- No timer has started. -/
structure TimerSystem.Fresh (system : TimerSystem Id) : Prop where
  empty : system.rtTimerList = []
  range : ∀ timer, 0 < (system.timers timer).initTick.toNat ∧
    (system.timers timer).initTick.toNat < halfTurn

namespace TimerSystem

def moment (system : TimerSystem Id) : TimerMoment Id :=
  ⟨system, system.rtTick.toNat, fun _ => none, false⟩

/-- A timer before it is started. -/
def alarm (system : TimerSystem Id) (timer : Id) : Alarm :=
  ⟨system.rtTick.toNat, (system.timers timer).timeoutTick.toNat, false,
    (system.timers timer).activated, (system.timers timer).periodic,
    (system.timers timer).initTick.toNat⟩

/-- What the timers are due at before they are started. -/
def idleDue (system : TimerSystem Id) (timer : Id) : Nat :=
  (system.timers timer).timeoutTick.toNat

end TimerSystem

section Runs

variable {system : TimerSystem Id} {timer : Id} {moment : TimerMoment Id}
  {actions before during after : List (TimerAction Id)}
  {timeoutFunc : Id → List (TimerCall Id)}

omit [DecidableEq Id] in
theorem TimerSystem.Fresh.keeps (fresh : system.Fresh) :
    system.moment.Keeps system.idleDue := by
  obtain ⟨empty, range⟩ := fresh
  refine ⟨⟨⟨UInt32.ofNat_toNat.symm, ?_, ?_, ?_, ?_, ?_, range⟩, ?_⟩, ?_⟩ <;>
    simp [TimerSystem.moment, empty, InOrder]

theorem TimerSystem.Fresh.view (fresh : system.Fresh) (timer : Id) :
    system.moment.view system.idleDue timer = system.alarm timer := by
  rw [TimerMoment.view, TimerSystem.view, TimerSystem.moment, fresh.empty,
    decide_eq_false List.not_mem_nil]
  rfl

end Runs

/-! A timer that is left alone. -/

def TimerAction.Alone (timer : Id) (action : TimerAction Id) : Prop :=
  action.timer ≠ some timer ∧ action.Leaves timer

/-- An alarm that was set at `base`, in a round of its time since: the first one
until it rings, then the last one that it has rung at the start of. -/
structure Alarm.OnCourse (base time : Nat) (periodic ticking : Bool)
    (alarm : Alarm) (round : Nat) : Prop where
  span : alarm.time = time
  kind : alarm.periodic = periodic
  since : base + time * round ≤ alarm.now
  passed : ticking = true → round = 0 ∨ base + time * round < alarm.now
  armed : alarm.armed = true ↔ periodic = true ∨ round = 0
  moment : alarm.armed = true → alarm.due = base + time * (round + 1)
  active : periodic = true → alarm.activated = true

section Alone

variable {timer : Id} {base time round : Nat} {periodic ticking : Bool}
  {alarm : Alarm} {action : TimerAction Id} {actions : List (TimerAction Id)}

/-- What an action on other timers does to an alarm. -/
theorem Alarm.step_alone (alarm : Alarm) (alone : action.Alone timer) :
    alarm.step timer action = alarm ∧
        (∀ ticking, action.ticking ticking = ticking) ∨
      action = .count ∧ alarm.step timer action =
        { alarm with now := alarm.now + 1 } ∨
      (∃ timeoutFunc, action = .check timeoutFunc) ∧
        alarm.step timer action = alarm.check := by
  cases here : action.timer with
  | some other =>
      refine Or.inl ⟨if_neg fun all => alone.1 ?_, fun ticking => ?_⟩
      · rw [here, all other here]
      · cases action with
        | count => cases here
        | check timeoutFunc => cases here
        | _ => rfl
  | none =>
      cases action with
      | count => exact Or.inr (Or.inl ⟨rfl, if_pos (by simp [TimerAction.timer])⟩)
      | check timeoutFunc => exact Or.inr (Or.inr ⟨⟨timeoutFunc, rfl⟩,
          if_pos (by simp [TimerAction.timer])⟩)
      | _ => cases here

/-- Only the time passes for an alarm that is not armed. -/
theorem Alarm.run_unarmed (unarmed : alarm.armed = false)
    (alone : ∀ action ∈ actions, action.Alone timer) :
    ∃ now, alarm.now ≤ now ∧
      alarm.run timer actions = { alarm with now := now } := by
  induction actions generalizing alarm with
  | nil => exact ⟨alarm.now, Nat.le_refl _, rfl⟩
  | cons action rest ih =>
      obtain ⟨first, others⟩ := List.forall_mem_cons.mp alone
      rw [Alarm.run, List.foldl_cons]
      rcases alarm.step_alone first with
        ⟨same, -⟩ | ⟨-, counted⟩ | ⟨-, checked⟩
      · rw [same]
        exact ih unarmed others
      · rw [counted]
        have still : { alarm with now := alarm.now + 1 }.armed = false := unarmed
        obtain ⟨now, later, went⟩ := ih still others
        exact ⟨now, Nat.le_of_succ_le later, went⟩
      · have silent : alarm.rings = false := by
          rw [Alarm.rings, unarmed]
          rfl
        rw [checked, Alarm.check, silent]
        exact ih unarmed others

/-- An alarm starts its first round. -/
theorem Alarm.OnCourse.first (alarm : Alarm) (unarmed : alarm.due = base + alarm.time)
    (since : base ≤ alarm.now) :
    OnCourse base alarm.time alarm.periodic ticking alarm.arm 0 where
  span := rfl
  kind := rfl
  since := since
  passed _ := Or.inl rfl
  armed := iff_of_true rfl (Or.inr rfl)
  moment _ := by
    rw [Nat.zero_add, Nat.mul_one]
    exact unarmed
  active _ := rfl

theorem Alarm.OnCourse.count
    (course : OnCourse base time periodic false alarm round) :
    OnCourse base time periodic true { alarm with now := alarm.now + 1 } round where
  span := course.span
  kind := course.kind
  since := Nat.le_succ_of_le course.since
  passed _ := Or.inr (Nat.lt_succ_of_le course.since)
  armed := course.armed
  moment := course.moment
  active := course.active

theorem Alarm.OnCourse.now_of_rings
    (course : OnCourse base time periodic ticking alarm round)
    (pending : alarm.armed = true → alarm.now ≤ alarm.due)
    (rings : alarm.rings = true) :
    alarm.armed = true ∧ alarm.now = base + time * (round + 1) := by
  obtain ⟨armed, due⟩ := Bool.and_eq_true_iff.mp rings
  refine ⟨armed, ?_⟩
  rw [← course.moment armed]
  exact Nat.le_antisymm (pending armed) (of_decide_eq_true due)

theorem Alarm.OnCourse.check
    (course : OnCourse base time periodic true alarm round)
    (pending : alarm.armed = true → alarm.now ≤ alarm.due) :
    ∃ next, OnCourse base time periodic false alarm.check next := by
  by_cases rings : alarm.rings = true
  · obtain ⟨armed, now⟩ := course.now_of_rings pending rings
    refine ⟨round + 1, ?_⟩
    rw [Alarm.check, if_pos rings, Alarm.expire]
    cases kind : periodic with
    | true =>
        subst kind
        rw [if_pos ⟨course.kind, course.active rfl⟩]
        refine ⟨course.span, course.kind, Nat.le_of_eq now.symm,
          fun never => Bool.noConfusion never, iff_of_true rfl (Or.inl rfl),
          fun _ => ?_, fun _ => rfl⟩
        show alarm.now + alarm.time = _
        rw [now, course.span, Nat.mul_add_one time (round + 1), Nat.add_assoc]
    | false =>
        subst kind
        rw [if_neg fun both => Bool.false_ne_true (course.kind.symm.trans both.1)]
        refine ⟨course.span, course.kind, Nat.le_of_eq now.symm,
          fun never => Bool.noConfusion never, ?_,
          fun never => Bool.noConfusion never, fun never => Bool.noConfusion never⟩
        exact iff_of_false Bool.false_ne_true (by simp)
  · rw [Alarm.check, if_neg rings]
    exact ⟨round, course.span, course.kind, course.since,
      fun never => Bool.noConfusion never, course.armed, course.moment,
      course.active⟩

variable {due : Id → Nat} {moment : TimerMoment Id}

theorem Alarm.run_starts (unarmed : alarm.armed = false)
    (alone : ∀ action ∈ actions, action.Alone timer) :
    ∃ now, alarm.now ≤ now ∧
      alarm.run timer (.startTime timer :: actions ++ [.startInsert timer]) =
        { alarm.set with now := now }.arm := by
  have still : alarm.set.armed = false := unarmed
  obtain ⟨now, later, went⟩ := Alarm.run_unarmed still alone
  refine ⟨now, later, ?_⟩
  have set : alarm.step timer (.startTime timer) = alarm.set :=
    if_pos (by simp [TimerAction.timer])
  rw [Alarm.run, List.foldl_append]
  change ((alarm.step timer (.startTime timer)).run timer actions).step timer
    (.startInsert timer) = _
  rw [set, went]
  exact if_pos (by simp [TimerAction.timer])

/-- A timer that is left alone between the sections of its start is on its course
when they are done. -/
theorem TimerMoment.Keeps.starts (keeps : moment.Keeps due)
    (allows : moment.Allows
      (.startTime timer :: actions ++ [.startInsert timer]))
    (alone : ∀ action ∈ actions, action.Alone timer) :
    ∃ later started,
      moment.run (.startTime timer :: actions ++ [.startInsert timer]) =
        some started ∧ started.Keeps later ∧
      (started.view later timer).OnCourse moment.now
        (moment.system.timers timer).initTick.toNat
        (moment.system.timers timer).periodic started.ticking 0 := by
  have begun : moment.starts timer = some .time := allows.1
  have unarmed : (moment.view due timer).armed = false :=
    decide_eq_false (keeps.midway timer .time begun).absent
  have leaves : ∀ action ∈ .startTime timer :: actions ++ [.startInsert timer],
      action.Leaves timer := by
    simp only [List.cons_append, List.forall_mem_cons, List.forall_mem_append]
    exact ⟨trivial, fun action member => (alone action member).2, trivial,
      List.forall_mem_nil _⟩
  obtain ⟨later, started, went, kept, views⟩ := keeps.run allows
  obtain ⟨now, since, same⟩ := Alarm.run_starts unarmed alone
  refine ⟨later, started, went, kept, ?_⟩
  rw [views timer leaves, same]
  exact .first { (moment.view due timer).set with now := now } rfl since

end Alone

end Ch32v307.Kernel
