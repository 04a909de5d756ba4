import Ch32v307.Data.Deadline
import Ch32v307.Kernel.Timer

namespace Ch32v307.Kernel

open Data Deadline TimerSystem

/-! The order of the timers' deadlines, on a time that does not wrap, and what
each section of `timer.c` does to it. -/

variable {Id : Type}

/-- `RT_TICK_MAX / 2`. -/
def halfTurn : Nat := 0x7fffffff

/-- The timers at a moment: what each one is due at, of which `timeout_tick` is
the low 32 bits, with the least time that any of them is set to. -/
structure Timed (least now : Nat) (due : Id → Nat) (system : TimerSystem Id) :
    Prop where
  tick : system.rtTick = UInt32.ofNat now
  read : ∀ timer ∈ system.rtTimerList,
    (system.timers timer).timeoutTick = UInt32.ofNat (due timer)
  order : InOrder due system.rtTimerList
  nodup : system.rtTimerList.Nodup
  pending : ∀ timer ∈ system.rtTimerList, now ≤ due timer
  near : ∀ timer ∈ system.rtTimerList, due timer < now + halfTurn
  range : ∀ timer, least ≤ (system.timers timer).initTick.toNat ∧
    (system.timers timer).initTick.toNat < halfTurn

section Ticks

variable {later earlier : Nat}

theorem toNat_sub_ticks :
    (UInt32.ofNat later - UInt32.ofNat earlier).toNat =
      lapse (2 ^ 32) later earlier := by
  rw [UInt32.toNat_sub, UInt32.toNat_ofNat', UInt32.toNat_ofNat', lapse]

/-- The comparison of `timer.c`, `RT_TICK_MAX / 2` from the wrap. -/
theorem ticks_lt_iff (before : later < earlier + halfTurn)
    (after : earlier < later + halfTurn) :
    UInt32.ofNat later - UInt32.ofNat earlier < rtTickMax / 2 ↔
      earlier ≤ later := by
  rw [UInt32.lt_iff_toNat_lt, toNat_sub_ticks]
  exact lapse_lt_iff (by decide) before after

theorem ticks_eq_iff (before : later < earlier + halfTurn)
    (after : earlier < later + halfTurn) :
    UInt32.ofNat later - UInt32.ofNat earlier = 0 ↔ later = earlier := by
  rw [← UInt32.toNat_inj, toNat_sub_ticks]
  unfold halfTurn at before after
  constructor
  · intro none
    cases Nat.lt_or_ge later earlier with
    | inl lt =>
        rw [lapse_of_lt lt (by omega)] at none
        change 2 ^ 32 - _ = 0 at none
        omega
    | inr le =>
        rw [lapse_of_le le (by omega)] at none
        change later - earlier = 0 at none
        omega
  · intro same
    rw [lapse_of_le (Nat.le_of_eq same.symm) (by omega), same, Nat.sub_self]
    rfl

end Ticks

section Row

variable {timers : Id → Timer} {due : Id → Nat} {timer other : Id}
  {row : List Id}

theorem mem_rowInsert :
    other ∈ rowInsert timers timer row ↔ other = timer ∨ other ∈ row := by
  induction row with
  | nil => simp [rowInsert]
  | cons t rest ih =>
      unfold rowInsert
      split
      case isTrue => rw [List.mem_cons, ih, List.mem_cons, or_left_comm]
      case isFalse =>
        split
        case isTrue => rw [List.mem_cons]
        case isFalse => rw [List.mem_cons, ih, List.mem_cons, or_left_comm]

/-- The loop of `rt_timer_start` finds the place of the deadline. -/
theorem rowInsert_eq
    (here : (timers timer).timeoutTick = UInt32.ofNat (due timer))
    (read : ∀ t ∈ row, (timers t).timeoutTick = UInt32.ofNat (due t))
    (near : ∀ t ∈ row, due t < due timer + halfTurn ∧
      due timer < due t + halfTurn) :
    rowInsert timers timer row = insertDue due timer row := by
  induction row with
  | nil => rfl
  | cons t rest ih =>
      obtain ⟨first, others⟩ := List.forall_mem_cons.mp read
      obtain ⟨⟨before, after⟩, nears⟩ := List.forall_mem_cons.mp near
      have tail := ih others nears
      rw [insertDue] at tail ⊢
      rw [rowInsert, List.orderedInsert, first, here, tail]
      by_cases same : due t = due timer
      · rw [if_pos ((ticks_eq_iff before after).mpr same),
          if_neg (Nat.not_lt_of_le (Nat.le_of_eq same))]
      · rw [if_neg fun none => same ((ticks_eq_iff before after).mp none)]
        refine ite_congr (propext ?_) (fun _ => rfl) fun _ => rfl
        rw [ticks_lt_iff before after]
        omega

end Row

section Shrink

variable {least now : Nat} {due : Id → Nat} {system : TimerSystem Id}

/-- Fewer timers, with what was due unchanged. -/
theorem Timed.shrink (timed : Timed least now due system) (other : TimerSystem Id)
    (tick : other.rtTick = system.rtTick)
    (fewer : other.rtTimerList.Sublist system.rtTimerList)
    (read : ∀ timer ∈ other.rtTimerList,
      (other.timers timer).timeoutTick = (system.timers timer).timeoutTick)
    (range : ∀ timer, least ≤ (other.timers timer).initTick.toNat ∧
      (other.timers timer).initTick.toNat < halfTurn) :
    Timed least now due other where
  tick := tick.trans timed.tick
  read timer member :=
    (read timer member).trans (timed.read timer (fewer.subset member))
  order := List.Pairwise.sublist fewer timed.order
  nodup := timed.nodup.sublist fewer
  pending timer member := timed.pending timer (fewer.subset member)
  near timer member := timed.near timer (fewer.subset member)
  range := range

end Shrink
section Ahead

variable {least now : Nat} {due : Id → Nat} {system : TimerSystem Id}
  {timer : Id} {rest : List Id}

/-- The test of `rt_timer_check`. -/
theorem Timed.timesOut_iff (timed : Timed least now due system)
    (member : timer ∈ system.rtTimerList) :
    rtTickGet system - (system.timers timer).timeoutTick < rtTickMax / 2 ↔
      due timer ≤ now := by
  have pending := timed.pending timer member
  rw [rtTickGet, timed.tick, timed.read timer member]
  exact ticks_lt_iff (by unfold halfTurn; omega) (timed.near timer member)

/-- Nothing is due when the first timer is not. -/
theorem Timed.quiet (timed : Timed least now due system)
    (row : system.rtTimerList = timer :: rest) (ahead : now < due timer) :
    ∀ t ∈ system.rtTimerList, now < due t := by
  have order := timed.order
  rw [row] at order ⊢
  refine List.forall_mem_cons.mpr ⟨ahead, fun other behind => ?_⟩
  exact Nat.lt_of_lt_of_le ahead ((List.pairwise_cons.mp order).1 other behind)

end Ahead

variable [DecidableEq Id]

/-- How many timers are due. -/
def ripe (now : Nat) (due : Id → Nat) (system : TimerSystem Id) : Nat :=
  system.rtTimerList.countP fun timer => due timer ≤ now

/-- Nothing was done to the timer. -/
structure Untouched (due later : Id → Nat) (system after : TimerSystem Id)
    (timer : Id) : Prop where
  entry : after.timers timer = system.timers timer
  listed : timer ∈ after.rtTimerList ↔ timer ∈ system.rtTimerList
  moment : later timer = due timer

/-- What is done to a timer keeps the order of the deadlines, makes no timer due
and leaves the others alone. -/
structure Moved (least now : Nat) (due later : Id → Nat)
    (system after : TimerSystem Id) (timer : Id) : Prop where
  timed : Timed least now later after
  fewer : ripe now later after ≤ ripe now due system
  others : ∀ other, other ≠ timer → Untouched due later system after other

section Moved

variable {least now : Nat} {due later last : Id → Nat}
  {system after final : TimerSystem Id} {timer other : Id}

omit [DecidableEq Id] in
theorem Untouched.refl (due : Id → Nat) (system : TimerSystem Id) (timer : Id) :
    Untouched due due system system timer := ⟨rfl, Iff.rfl, rfl⟩

omit [DecidableEq Id] in
theorem Untouched.trans (first : Untouched due later system after timer)
    (second : Untouched later last after final timer) :
    Untouched due last system final timer :=
  ⟨second.entry.trans first.entry, second.listed.trans first.listed,
    second.moment.trans first.moment⟩

omit [DecidableEq Id] in
theorem Moved.refl (timed : Timed least now due system) (timer : Id) :
    Moved least now due due system system timer :=
  ⟨timed, Nat.le_refl _, fun other _ => .refl due system other⟩

omit [DecidableEq Id] in
theorem Moved.trans (first : Moved least now due later system after timer)
    (second : Moved least now later last after final timer) :
    Moved least now due last system final timer :=
  ⟨second.timed, second.fewer.trans first.fewer, fun other apart =>
    (first.others other apart).trans (second.others other apart)⟩

omit [DecidableEq Id] in
theorem ripe_eq_zero :
    ripe now due system = 0 ↔ ∀ t ∈ system.rtTimerList, now < due t := by
  rw [ripe, List.countP_eq_zero]
  simp only [decide_eq_true_eq, Nat.not_le]

omit [DecidableEq Id] in
theorem Moved.quiet (moved : Moved least now due later system after timer)
    (quiet : ∀ t ∈ system.rtTimerList, now < due t) :
    ∀ t ∈ after.rtTimerList, now < later t := by
  rw [← ripe_eq_zero] at quiet ⊢
  exact Nat.le_zero.mp (quiet ▸ moved.fewer)

end Moved

/-- When a timer that starts is due. -/
def startDue (now : Nat) (system : TimerSystem Id) (timer : Id)
    (due : Id → Nat) : Id → Nat :=
  Function.update due timer (now + (system.timers timer).initTick.toNat)

section Sections

variable {least now : Nat} {due : Id → Nat} {system : TimerSystem Id}
  {timer other : Id}

@[simp] theorem startDue_self :
    startDue now system timer due timer =
      now + (system.timers timer).initTick.toNat := Function.update_self ..

theorem startDue_other (apart : other ≠ timer) :
    startDue now system timer due other = due other :=
  Function.update_of_ne apart ..

theorem startInsert_other (apart : other ≠ timer) :
    (startInsert system timer).timers other = system.timers other := by
  rw [startInsert, setActivated, setTimer_other _ _ _ _ apart]

@[simp] theorem startInsert_self :
    (startInsert system timer).timers timer =
      { system.timers timer with activated := true } := by
  rw [startInsert, setActivated, setTimer_self]

theorem mem_startInsert :
    other ∈ (startInsert system timer).rtTimerList ↔
      other = timer ∨ other ∈ system.rtTimerList := mem_rowInsert

theorem rtTimerStart_other (apart : other ≠ timer) :
    (rtTimerStart system timer).timers other = system.timers other := by
  rw [rtTimerStart, startInsert_other apart, startTime, setTimer_other _ _ _ _ apart,
    startStop, setActivated, setTimer_other _ _ _ _ apart, timerRemove]

theorem rtTimerStart_self :
    (rtTimerStart system timer).timers timer =
      { system.timers timer with
        activated := true
        timeoutTick := system.rtTick + (system.timers timer).initTick } := by
  simp [rtTimerStart, startTime, startStop, setActivated, timerRemove, rtTickGet]

theorem Timed.remove_moved (timed : Timed least now due system) (timer : Id) :
    Moved least now due due system (timerRemove system timer) timer where
  timed := timed.shrink _ rfl List.erase_sublist (fun _ _ => rfl) timed.range
  fewer := List.erase_sublist.countP_le
  others _ apart := ⟨rfl, List.mem_erase_of_ne apart, rfl⟩

/-- A field of one timer that its deadline does not depend on. -/
theorem Timed.setTimer_moved (timed : Timed least now due system) (timer : Id)
    (change : Timer → Timer)
    (read : (change (system.timers timer)).timeoutTick =
      (system.timers timer).timeoutTick)
    (range : least ≤ (change (system.timers timer)).initTick.toNat ∧
      (change (system.timers timer)).initTick.toNat < halfTurn) :
    Moved least now due due system (system.setTimer timer change) timer := by
  refine ⟨timed.shrink _ rfl (List.Sublist.refl _) ?_ ?_, Nat.le_refl _,
    fun other apart => ⟨setTimer_other _ _ _ _ apart, Iff.rfl, rfl⟩⟩
  · intro t _
    by_cases same : t = timer
    · subst same
      rw [setTimer_self]
      exact read
    · rw [setTimer_other _ _ _ _ same]
  · intro t
    by_cases same : t = timer
    · subst same
      rw [setTimer_self]
      exact range
    · rw [setTimer_other _ _ _ _ same]
      exact timed.range t

theorem Timed.setActivated_moved (timed : Timed least now due system)
    (timer : Id) (activated : Bool) :
    Moved least now due due system (system.setActivated timer activated) timer :=
  timed.setTimer_moved timer (fun entry => { entry with activated := activated })
    rfl (timed.range timer)

theorem Timed.startStop_moved (timed : Timed least now due system) (timer : Id) :
    Moved least now due due system (startStop system timer) timer :=
  have removed := timed.remove_moved timer
  removed.trans (removed.timed.setActivated_moved timer false)

theorem Timed.not_mem_startStop (timed : Timed least now due system) (timer : Id) :
    timer ∉ (startStop system timer).rtTimerList := timed.nodup.not_mem_erase

/-- The deadline of a timer that is not in the list. -/
theorem Timed.startTime_moved (timed : Timed least now due system)
    (absent : timer ∉ system.rtTimerList) :
    Moved least now due (startDue now system timer due) system
      (startTime system timer) timer := by
  have apart : ∀ t ∈ system.rtTimerList, t ≠ timer := fun t member same =>
    absent (same ▸ member)
  have same : ∀ t ∈ system.rtTimerList,
      startDue now system timer due t = due t := fun t member =>
    startDue_other (apart t member)
  refine ⟨⟨timed.tick, ?_, ?_, timed.nodup, ?_, ?_, ?_⟩, ?_, ?_⟩
  · intro t member
    rw [startTime, setTimer_other _ _ _ _ (apart t member), same t member]
    exact timed.read t member
  · exact timed.order.congr same
  · exact fun t member => (same t member).symm ▸ timed.pending t member
  · exact fun t member => (same t member).symm ▸ timed.near t member
  · intro t
    by_cases own : t = timer
    · subst own
      rw [startTime, setTimer_self]
      exact timed.range t
    · rw [startTime, setTimer_other _ _ _ _ own]
      exact timed.range t
  · apply Nat.le_of_eq
    apply List.countP_congr
    intro t member
    rw [same t member]
  · exact fun t own => ⟨setTimer_other _ _ _ _ own, Iff.rfl, startDue_other own⟩

theorem startTime_read (tick : system.rtTick = UInt32.ofNat now) :
    ((startTime system timer).timers timer).timeoutTick =
      UInt32.ofNat (now + (system.timers timer).initTick.toNat) := by
  rw [startTime, setTimer_self, UInt32.ofNat_add, UInt32.ofNat_toNat]
  exact congrArg (· + _) tick

/-- A timer goes to the place of its deadline, which has not passed. -/
theorem Timed.startInsert_moved (timed : Timed least now due system)
    (absent : timer ∉ system.rtTimerList)
    (read : (system.timers timer).timeoutTick = UInt32.ofNat (due timer))
    (ahead : now < due timer) (near : due timer < now + halfTurn) :
    Moved least now due due system (startInsert system timer) timer := by
  have list : (startInsert system timer).rtTimerList =
      insertDue due timer system.rtTimerList := by
    apply rowInsert_eq read timed.read
    intro t member
    have pending := timed.pending t member
    have nears := timed.near t member
    omega
  have all : ∀ {P : Id → Prop}, P timer → (∀ t ∈ system.rtTimerList, P t) →
      ∀ t ∈ (startInsert system timer).rtTimerList, P t := by
    intro P own others t member
    cases mem_startInsert.mp member with
    | inl same => exact same ▸ own
    | inr inside => exact others t inside
  have entry : ∀ t, ((startInsert system timer).timers t).timeoutTick =
      (system.timers t).timeoutTick ∧
      ((startInsert system timer).timers t).initTick =
        (system.timers t).initTick := by
    intro t
    by_cases own : t = timer
    · subst own
      rw [startInsert_self]
      exact ⟨rfl, rfl⟩
    · rw [startInsert_other own]
      exact ⟨rfl, rfl⟩
  refine ⟨⟨timed.tick, ?_, ?_, ?_, ?_, ?_, ?_⟩, ?_, ?_⟩
  · intro t member
    rw [(entry t).1]
    exact all read timed.read t member
  · rw [list]
    exact timed.order.insertDue
  · rw [list, insertDue_perm.nodup_iff, List.nodup_cons]
    exact ⟨absent, timed.nodup⟩
  · exact all (Nat.le_of_lt ahead) timed.pending
  · exact all near timed.near
  · intro t
    rw [(entry t).2]
    exact timed.range t
  · apply Nat.le_of_eq
    unfold ripe
    rw [list, insertDue_perm.countP_eq, List.countP_cons_of_neg]
    rw [decide_eq_true_eq]
    exact Nat.not_le_of_lt ahead
  · exact fun t own => ⟨startInsert_other own, mem_startInsert.trans
      (or_iff_right own), rfl⟩

/-- A timer that starts is due its time from now. -/
theorem Timed.start_moved (timed : Timed least now due system)
    (positive : 0 < (system.timers timer).initTick.toNat) :
    Moved least now due (startDue now system timer due) system
      (rtTimerStart system timer) timer := by
  have stopped := timed.startStop_moved timer
  have absent := timed.not_mem_startStop timer
  have time : ((startStop system timer).timers timer).initTick =
      (system.timers timer).initTick := by
    rw [startStop, setActivated, setTimer_self]
    rfl
  have same : startDue now (startStop system timer) timer due =
      startDue now system timer due := by
    rw [startDue, time, startDue]
  have timed := stopped.timed.startTime_moved absent
  rw [same] at timed
  have small := (stopped.timed.range timer).2
  rw [time] at small
  refine (stopped.trans timed).trans (timed.timed.startInsert_moved absent ?_ ?_ ?_)
  · rw [startTime_read stopped.timed.tick, time, startDue_self]
  · rw [startDue_self]
    omega
  · rw [startDue_self]
    omega

theorem Timed.stop_moved (timed : Timed least now due system) (timer : Id) :
    Moved least now due due system (rtTimerStop system timer).2 timer := by
  unfold rtTimerStop
  split
  case isTrue => exact timed.startStop_moved timer
  case isFalse => exact .refl timed timer

end Sections

/-- The timers with what each one is due at: later than now, or now between the
tick and its check. -/
structure Clocked (least : Nat) (ticking : Bool) (now : Nat) (due : Id → Nat)
    (system : TimerSystem Id) : Prop extends Timed least now due system where
  ahead : ticking = false → ∀ timer ∈ system.rtTimerList, now < due timer

section Clocked

variable {least now : Nat} {ticking : Bool} {due later : Id → Nat}
  {system after : TimerSystem Id} {timer : Id}

omit [DecidableEq Id] in
theorem Clocked.moved (clocked : Clocked least ticking now due system)
    (moved : Moved least now due later system after timer) :
    Clocked least ticking now later after :=
  ⟨moved.timed, fun quiet => moved.quiet (clocked.ahead quiet)⟩

omit [DecidableEq Id] in
theorem Clocked.count (clocked : Clocked least false now due system) :
    Clocked least true (now + 1) due { system with rtTick := system.rtTick + 1 } := by
  refine ⟨⟨?_, clocked.read, clocked.order, clocked.nodup, clocked.ahead rfl, ?_,
    clocked.range⟩, fun never => Bool.noConfusion never⟩
  · show system.rtTick + 1 = _
    rw [clocked.tick, UInt32.ofNat_add]
    rfl
  · exact fun t member => (clocked.near t member).trans (by omega)

end Clocked

end Ch32v307.Kernel
