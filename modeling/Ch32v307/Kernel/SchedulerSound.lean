import Ch32v307.Kernel.Scheduler
import Ch32v307.Kernel.TimerOrder
import Mathlib.Algebra.Group.Nat.Defs
import Mathlib.Data.Set.Insert

namespace Ch32v307.Kernel

open Data Rows Scheduler

/-! The lists, the bitmap and the threads agree. -/

section Ffs

/-- The table of `__rt_ffs` holds the lowest bit of each byte. -/
theorem lowestBitBitmap_spec : ∀ byte < 256, byte ≠ 0 →
    lowestBitBitmap.getD byte 0 < 8 ∧
      byte.testBit (lowestBitBitmap.getD byte 0) = true ∧
      ∀ lower < lowestBitBitmap.getD byte 0, byte.testBit lower = false := by
  decide +kernel

/-- The lowest bit that is set. -/
def IsLowest (value number : Nat) : Prop :=
  value.testBit number = true ∧ ∀ lower < number, value.testBit lower = false

variable {value shift byte : Nat}

/-- The lowest bit of a number whose lower bytes are 0 is that of the byte. -/
theorem isLowest_byte (read : value >>> shift % 2 ^ 8 = byte) (some : byte ≠ 0)
    (none : ∀ lower < shift, value.testBit lower = false) :
    IsLowest value (lowestBitBitmap.getD byte 0 + shift) := by
  have small : byte < 2 ^ 8 := read ▸ Nat.mod_lt _ (by decide)
  obtain ⟨inside, set, clear⟩ := lowestBitBitmap_spec byte small some
  have bit : ∀ index < 8, value.testBit (index + shift) = byte.testBit index := by
    intro index bound
    rw [← read, Nat.testBit_mod_two_pow, Nat.testBit_shiftRight,
      decide_eq_true bound, Bool.true_and, Nat.add_comm]
  constructor
  · rw [bit _ inside, set]
  · intro lower below
    cases Nat.lt_or_ge lower shift with
    | inl under => exact none lower under
    | inr above =>
        have place : lower = lower - shift + shift := by omega
        rw [place, bit _ (by omega)]
        exact clear _ (by omega)

/-- The lowest byte that is not 0, and what is below. -/
theorem testBit_below (zero : value % 2 ^ shift = 0) :
    ∀ lower < shift, value.testBit lower = false := by
  intro lower below
  have bit := Nat.testBit_mod_two_pow value shift lower
  rw [zero, Nat.zero_testBit, decide_eq_true below, Bool.true_and] at bit
  exact bit.symm

/-- What a byte's mask leaves. -/
theorem and_mask (value shift : Nat) :
    value &&& 255 <<< shift = (value >>> shift % 2 ^ 8) <<< shift := by
  rw [← Nat.and_two_pow_sub_one_eq_mod, Nat.shiftLeft_and_distrib]
  apply Nat.eq_of_testBit_eq
  intro index
  simp only [Nat.testBit_and, Nat.testBit_shiftLeft, Nat.testBit_shiftRight]
  cases Nat.lt_or_ge index shift with
  | inl below => simp [Nat.not_le_of_lt below]
  | inr above => simp [above, Nat.add_sub_cancel' above]

/-- A byte of 0 over bytes of 0. -/
theorem mod_next (zero : value % 2 ^ shift = 0) (next : value >>> shift % 2 ^ 8 = 0) :
    value % 2 ^ (shift + 8) = 0 := by
  rw [Nat.pow_add, Nat.mod_mul, zero, ← Nat.shiftRight_eq_div_pow, next, Nat.mul_zero]

theorem shiftLeft_eq_zero : byte <<< shift = 0 ↔ byte = 0 := by
  rw [Nat.shiftLeft_eq, Nat.mul_eq_zero]
  simp

theorem rtFfs_spec {group : UInt32} (some : group ≠ 0) :
    ∃ number, rtFfs group = number + 1 ∧ IsLowest group.toNat number := by
  have bound := group.toNat_lt
  have masked : ∀ mask : UInt32, ∀ shift, mask.toNat = 255 <<< shift →
      (group &&& mask = 0 ↔ group.toNat >>> shift % 2 ^ 8 = 0) := by
    intro mask shift same
    rw [← UInt32.toNat_inj, UInt32.toNat_and, same, and_mask]
    exact shiftLeft_eq_zero
  have read : ∀ mask shift : UInt32, mask.toNat = 255 <<< (shift.toNat % 32) →
      ((group &&& mask) >>> shift).toNat =
        group.toNat >>> (shift.toNat % 32) % 2 ^ 8 := by
    intro mask shift same
    rw [UInt32.toNat_shiftRight, UInt32.toNat_and, same, and_mask,
      Nat.shiftLeft_shiftRight]
  have lowest : (group &&& 0xff).toNat = group.toNat >>> 0 % 2 ^ 8 := by
    rw [UInt32.toNat_and]
    exact and_mask _ 0
  unfold rtFfs
  rw [if_neg some]
  split
  case isTrue set =>
    refine ⟨_, rfl, ?_⟩
    rw [lowest]
    exact isLowest_byte rfl (mt (masked 0xff 0 rfl).mpr set)
      (fun _ below => absurd below (Nat.not_lt_zero _))
  case isFalse zero =>
    have low := mod_next (Nat.mod_one _)
      ((masked 0xff 0 rfl).mp (not_not.mp zero))
    split
    case isTrue set =>
      refine ⟨_, rfl, ?_⟩
      rw [read 0xff00 8 rfl]
      exact isLowest_byte rfl (mt (masked 0xff00 8 rfl).mpr set)
        (testBit_below low)
    case isFalse zero =>
      have low := mod_next low ((masked 0xff00 8 rfl).mp (not_not.mp zero))
      split
      case isTrue set =>
        refine ⟨_, rfl, ?_⟩
        rw [read 0xff0000 16 rfl]
        exact isLowest_byte rfl (mt (masked 0xff0000 16 rfl).mpr set)
          (testBit_below low)
      case isFalse zero =>
        have low := mod_next low
          ((masked 0xff0000 16 rfl).mp (not_not.mp zero))
        refine ⟨_, rfl, ?_⟩
        rw [read 0xff000000 24 rfl]
        refine isLowest_byte rfl (fun none => some ?_) (testBit_below low)
        have nothing := mod_next low none
        apply UInt32.toNat_inj.mp
        rw [← Nat.mod_eq_of_lt bound]
        exact nothing

end Ffs

section Bits

theorem testBit_or (group mask : UInt32) (priority : Nat) :
    (group ||| mask).toNat.testBit priority =
      (group.toNat.testBit priority || mask.toNat.testBit priority) := by
  rw [UInt32.toNat_or, Nat.testBit_or]

theorem testBit_clear (group mask : UInt32) (priority : Nat) :
    (group &&& ~~~mask).toNat.testBit priority =
      (group.toNat.testBit priority && !mask.toNat.testBit priority) := by
  change (group.toBitVec &&& ~~~mask.toBitVec).getLsbD priority = _
  rw [BitVec.getLsbD_and, BitVec.getLsbD_not]
  cases Nat.lt_or_ge priority 32 with
  | inl inside => rw [decide_eq_true inside]; rfl
  | inr outside =>
      have none : group.toNat.testBit priority = false :=
        BitVec.getLsbD_of_ge group.toBitVec priority outside
      rw [BitVec.getLsbD_of_ge group.toBitVec priority outside, none]
      rfl

theorem testBit_mask {current : UInt8} (small : current.toNat < 32)
    (priority : Nat) :
    (1 <<< current.toUInt32 : UInt32).toNat.testBit priority =
      decide (current.toNat = priority) := by
  have power : (1 <<< current.toUInt32 : UInt32).toNat = 2 ^ current.toNat := by
    rw [UInt32.toNat_shiftLeft, UInt8.toNat_toUInt32, Nat.mod_eq_of_lt small,
      UInt32.toNat_one, Nat.one_shiftLeft]
    exact Nat.mod_eq_of_lt (Nat.pow_lt_pow_right (by decide) small)
  rw [power, Nat.testBit_two_pow]

end Bits

/-- What a thread is when its node stands in the row. -/
def Row.Fits {Obj : Type} (entry : Thread) : Row Obj → Prop
  | .ready priority =>
      entry.stat = .ready ∧ entry.currentPriority.toNat = priority
  | .suspended _ => entry.stat = .suspend
  | .defunct => entry.stat = .close

/-- `number_mask` is the bit of the priority, or 0 for a thread that was never
started. -/
def Thread.Marked (entry : Thread) : Prop :=
  entry.numberMask = 1 <<< entry.currentPriority.toUInt32 ∨
    (entry.numberMask = 0 ∧ entry.stat ≠ .ready ∧ entry.stat ≠ .suspend)

def Thread.Small (entry : Thread) : Prop :=
  entry.initPriority.toNat < rtThreadPriorityMax ∧
    entry.currentPriority.toNat < rtThreadPriorityMax

variable {Id Obj : Type}

theorem ready_ne_suspended {Obj : Type} {priority : Nat} {object : Obj} :
    Row.ready priority ≠ Row.suspended object := nofun

theorem ready_ne_defunct {Obj : Type} {priority : Nat} :
    Row.ready priority ≠ (Row.defunct : Row Obj) := nofun

/-- Every ready thread is in the list of its priority, a thread in a list of
those that wait is suspended, the bitmap shows the lists that are not empty, and
only the timers of suspended threads run. The nodes of the threads that are
`away` are in no list. -/
structure Sound (away : Set Id) (scheduler : Scheduler Id Obj) : Prop where
  apart : Apart scheduler.rows
  absent : ∀ thread ∈ away, ∀ row, thread ∉ scheduler.rows row
  fits : ∀ row, ∀ thread ∈ scheduler.rows row,
    row.Fits (scheduler.threads thread)
  queued : ∀ thread ∉ away,
    (scheduler.threads thread).stat = .ready → thread ∈ scheduler.rows
      (.ready (scheduler.threads thread).currentPriority.toNat)
  marked : ∀ thread, (scheduler.threads thread).Marked
  small : ∀ thread, (scheduler.threads thread).Small
  group : ∀ priority,
    scheduler.rtThreadReadyPriorityGroup.toNat.testBit priority = true ↔
      scheduler.rows (.ready priority) ≠ []
  nodup : scheduler.timers.rtTimerList.Nodup
  active : ∀ thread ∈ scheduler.timers.rtTimerList,
    (scheduler.timers.timers thread).activated = true
  waits : ∀ thread ∈ scheduler.timers.rtTimerList, thread ∉ away →
    (scheduler.threads thread).stat = .suspend
  once : ∀ thread, (scheduler.timers.timers thread).periodic = false

section Highest

variable {away : Set Id} {scheduler : Scheduler Id Obj} {thread : Id}
  {priority : Nat}

theorem Sound.present (sound : Sound away scheduler) {row : Row Obj}
    (member : thread ∈ scheduler.rows row) : thread ∉ away :=
  fun absent => sound.absent thread absent row member

/-- There is a thread to take when one is ready. -/
theorem Sound.exists_highest (sound : Sound away scheduler)
    (present : thread ∉ away)
    (ready : (scheduler.threads thread).stat = .ready) :
    ∃ priority toThread, highestReady scheduler = some (priority, toThread) := by
  have inside := List.ne_nil_of_mem (sound.queued thread present ready)
  rw [← sound.group] at inside
  have some : scheduler.rtThreadReadyPriorityGroup ≠ 0 := by
    intro none
    rw [none] at inside
    simp at inside
  obtain ⟨number, first, set, -⟩ := rtFfs_spec some
  obtain ⟨toThread, head⟩ := Option.isSome_iff_exists.mp
    (List.isSome_head?.mpr ((sound.group number).mp set))
  refine ⟨number, toThread, ?_⟩
  unfold highestReady
  rw [first]
  exact congrArg (Option.map _) head

end Highest

variable [DecidableEq Id] [DecidableEq Obj]

section Fields

variable (scheduler : Scheduler Id Obj) (thread other : Id)
  (change : Thread → Thread) (row : Row Obj) (items : List Id)

omit [DecidableEq Obj] in
@[simp] theorem setThread_self :
    (scheduler.setThread thread change).threads thread =
      change (scheduler.threads thread) := Function.update_self ..

omit [DecidableEq Obj] in
theorem setThread_other (apart : other ≠ thread) :
    (scheduler.setThread thread change).threads other =
      scheduler.threads other := Function.update_of_ne apart ..

omit [DecidableEq Obj] in
@[simp] theorem setThread_rows :
    (scheduler.setThread thread change).rows = scheduler.rows := rfl

omit [DecidableEq Obj] in
@[simp] theorem setThread_timers :
    (scheduler.setThread thread change).timers = scheduler.timers := rfl

omit [DecidableEq Obj] in
@[simp] theorem rtListRemove_threads :
    (scheduler.rtListRemove thread).threads = scheduler.threads := rfl

omit [DecidableEq Obj] in
@[simp] theorem rtListRemove_timers :
    (scheduler.rtListRemove thread).timers = scheduler.timers := rfl

omit [DecidableEq Obj] in
@[simp] theorem rtScheduleRemoveThread_threads :
    (rtScheduleRemoveThread scheduler thread).threads = scheduler.threads := by
  unfold rtScheduleRemoveThread
  dsimp only
  split <;> rfl

omit [DecidableEq Obj] in
@[simp] theorem rtScheduleRemoveThread_timers :
    (rtScheduleRemoveThread scheduler thread).timers = scheduler.timers := by
  unfold rtScheduleRemoveThread
  dsimp only
  split <;> rfl

omit [DecidableEq Obj] in
@[simp] theorem rtScheduleRemoveThread_rows :
    (rtScheduleRemoveThread scheduler thread).rows =
      without scheduler.rows thread := by
  unfold rtScheduleRemoveThread
  dsimp only
  split <;> rfl

end Fields

section Moves

variable {away : Set Id} {scheduler after : Scheduler Id Obj} {thread : Id}
  {row : Row Obj} {items : List Id}

omit [DecidableEq Id] [DecidableEq Obj] in
theorem Sound.setCurrent (sound : Sound away scheduler) (priority : UInt8)
    (current : Option Id) (nest : Int16) :
    Sound away { scheduler with
      rtCurrentPriority := priority
      rtCurrentThread := current
      rtSchedulerLockNest := nest } :=
  ⟨sound.apart, sound.absent, sound.fits, sound.queued, sound.marked,
    sound.small, sound.group, sound.nodup, sound.active, sound.waits, sound.once⟩

omit [DecidableEq Id] [DecidableEq Obj] in
/-- A thread whose node is in no list may count as away. -/
theorem Sound.aside (sound : Sound away scheduler)
    (absent : ∀ row, thread ∉ scheduler.rows row) :
    Sound (insert thread away) scheduler where
  apart := sound.apart
  absent other member := by
    cases Set.mem_insert_iff.mp member with
    | inl same => exact same ▸ absent
    | inr before => exact sound.absent other before
  fits := sound.fits
  queued other present :=
    sound.queued other (mt (Set.mem_insert_of_mem thread) present)
  marked := sound.marked
  small := sound.small
  group := sound.group
  nodup := sound.nodup
  active := sound.active
  waits other member present :=
    sound.waits other member (mt (Set.mem_insert_of_mem thread) present)
  once := sound.once

omit [DecidableEq Obj] in
/-- A thread's node leaves the list it is in. -/
theorem Sound.leave (sound : Sound away scheduler)
    (threads : after.threads = scheduler.threads)
    (timers : after.timers = scheduler.timers)
    (rows : after.rows = without scheduler.rows thread)
    (group : ∀ priority,
      after.rtThreadReadyPriorityGroup.toNat.testBit priority = true ↔
        after.rows (.ready priority) ≠ []) :
    Sound (insert thread away) after := by
  have apart := sound.apart
  constructor
  · rw [rows]
    exact apart.without thread
  · intro other member row inside
    rw [rows] at inside
    obtain ⟨differ, before⟩ := apart.mem_without.mp inside
    cases Set.mem_insert_iff.mp member with
    | inl same => exact differ same
    | inr gone => exact sound.absent other gone row before
  · intro row other member
    rw [rows] at member
    rw [threads]
    exact sound.fits row other (apart.mem_without.mp member).2
  · intro other present ready
    rw [Set.mem_insert_iff, not_or] at present
    rw [threads] at ready
    rw [rows, threads, apart.mem_without]
    exact ⟨present.1, sound.queued other present.2 ready⟩
  · rw [threads]
    exact sound.marked
  · rw [threads]
    exact sound.small
  · exact group
  · rw [timers]
    exact sound.nodup
  · rw [timers]
    exact sound.active
  · intro other member present
    rw [Set.mem_insert_iff, not_or] at present
    rw [timers] at member
    rw [threads]
    exact sound.waits other member present.2
  · rw [timers]
    exact sound.once

omit [DecidableEq Id] in
/-- A thread's node comes into a list. -/
theorem Sound.enter (sound : Sound (insert thread away) scheduler)
    (here : thread ∉ away)
    (threads : after.threads = scheduler.threads)
    (timers : after.timers = scheduler.timers)
    (rows : after.rows = place scheduler.rows row items)
    (perm : items.Perm (thread :: scheduler.rows row))
    (fits : row.Fits (scheduler.threads thread))
    (waits : thread ∈ scheduler.timers.rtTimerList →
      (scheduler.threads thread).stat = .suspend)
    (group : ∀ priority,
      after.rtThreadReadyPriorityGroup.toNat.testBit priority = true ↔
        after.rows (.ready priority) ≠ []) :
    Sound away after := by
  have absent := sound.absent thread (Set.mem_insert thread away)
  have differ : ∀ other, other ≠ thread → other ∉ away →
      other ∉ insert thread away := fun other apart present member =>
    (Set.mem_insert_iff.mp member).elim apart present
  constructor
  · rw [rows]
    exact sound.apart.place absent perm
  · intro other gone label member
    rw [rows, mem_place perm] at member
    cases member with
    | inl inside =>
        exact sound.absent other (Set.mem_insert_of_mem thread gone) label inside
    | inr same => exact here (same.2 ▸ gone)
  · intro label other member
    rw [rows, mem_place perm] at member
    rw [threads]
    cases member with
    | inl inside => exact sound.fits label other inside
    | inr here => exact here.1.symm ▸ here.2.symm ▸ fits
  · intro other present ready
    rw [threads] at ready
    rw [rows, threads, mem_place perm]
    by_cases same : other = thread
    · subst same
      refine Or.inr ⟨?_, rfl⟩
      cases row with
      | ready priority => rw [fits.2]
      | suspended object => cases ready.symm.trans fits
      | defunct => cases ready.symm.trans fits
    · exact Or.inl (sound.queued other (differ other same present) ready)
  · rw [threads]
    exact sound.marked
  · rw [threads]
    exact sound.small
  · exact group
  · rw [timers]
    exact sound.nodup
  · rw [timers]
    exact sound.active
  · intro other member present
    rw [timers] at member
    rw [threads]
    by_cases same : other = thread
    · subst same
      exact waits member
    · exact sound.waits other member (differ other same present)
  · rw [timers]
    exact sound.once

omit [DecidableEq Id] in
/-- A thread's node comes into a list of threads that are not ready. -/
theorem Sound.hang (sound : Sound (insert thread away) scheduler)
    (here : thread ∉ away)
    (other : ∀ priority, Row.ready priority ≠ row)
    (perm : items.Perm (thread :: scheduler.rows row))
    (fits : row.Fits (scheduler.threads thread))
    (waits : thread ∈ scheduler.timers.rtTimerList →
      (scheduler.threads thread).stat = .suspend) :
    Sound away (scheduler.setRow row items) := by
  refine sound.enter here ?_ ?_ ?_ perm fits waits ?_
  · rfl
  · rfl
  · rfl
  · intro priority
    show _ ↔ place scheduler.rows row items (.ready priority) ≠ []
    rw [place_other (other priority)]
    exact sound.group priority

omit [DecidableEq Id] [DecidableEq Obj] in
/-- A thread that is not ready may be in no list. -/
theorem Sound.rest (sound : Sound (insert thread away) scheduler)
    (idle : (scheduler.threads thread).stat ≠ .ready)
    (waits : thread ∈ scheduler.timers.rtTimerList →
      (scheduler.threads thread).stat = .suspend) : Sound away scheduler := by
  have differ : ∀ other, other ≠ thread → other ∉ away →
      other ∉ insert thread away := fun other apart present member =>
    (Set.mem_insert_iff.mp member).elim apart present
  refine ⟨sound.apart, ?_, sound.fits, ?_, sound.marked, sound.small, sound.group,
    sound.nodup, sound.active, ?_, sound.once⟩
  · exact fun other gone => sound.absent other (Set.mem_insert_of_mem thread gone)
  · intro other present ready
    exact sound.queued other
      (differ other (fun same => idle (same ▸ ready)) present) ready
  · intro other member present
    by_cases same : other = thread
    · subst same
      exact waits member
    · exact sound.waits other member (differ other same present)

omit [DecidableEq Obj] in
/-- What a thread is may change while its node is in no list. -/
theorem Sound.change (sound : Sound away scheduler) (gone : thread ∈ away)
    (change : Thread → Thread)
    (marked : (change (scheduler.threads thread)).Marked)
    (small : (change (scheduler.threads thread)).Small) :
    Sound away (scheduler.setThread thread change) := by
  have other : ∀ other ∉ away, (scheduler.setThread thread change).threads other =
      scheduler.threads other := fun other present =>
    setThread_other _ _ _ _ fun same => present (same ▸ gone)
  refine ⟨sound.apart, sound.absent, ?_, ?_, ?_, ?_, sound.group, sound.nodup,
    sound.active, ?_, sound.once⟩
  · intro row item member
    rw [other item (sound.present member)]
    exact sound.fits row item member
  · intro item present
    rw [other item present]
    exact sound.queued item present
  · intro item
    by_cases same : item = thread
    · subst same
      rw [setThread_self]
      exact marked
    · rw [setThread_other _ _ _ _ same]
      exact sound.marked item
  · intro item
    by_cases same : item = thread
    · subst same
      rw [setThread_self]
      exact small
    · rw [setThread_other _ _ _ _ same]
      exact sound.small item
  · intro item member present
    rw [other item present]
    exact sound.waits item member present

theorem Thread.Marked.bit {entry : Thread} (marked : entry.Marked)
    (small : entry.Small) (started : entry.stat = .ready ∨ entry.stat = .suspend)
    (priority : Nat) :
    entry.numberMask.toNat.testBit priority =
      decide (entry.currentPriority.toNat = priority) := by
  cases marked with
  | inl mask =>
      rw [mask]
      exact testBit_mask (Nat.lt_trans small.2 (by decide)) priority
  | inr never =>
      cases started with
      | inl ready => exact absurd ready never.2.1
      | inr suspended => exact absurd suspended never.2.2

theorem Thread.Marked.bit_other {entry : Thread} (marked : entry.Marked)
    (small : entry.Small) {priority : Nat}
    (apart : entry.currentPriority.toNat ≠ priority) :
    entry.numberMask.toNat.testBit priority = false := by
  cases marked with
  | inl mask =>
      rw [mask, testBit_mask (Nat.lt_trans small.2 (by decide))]
      exact decide_eq_false apart
  | inr never =>
      rw [never.1]
      exact Nat.zero_testBit priority

omit [DecidableEq Obj] in
/-- Only the list of a ready thread's priority loses it. -/
theorem Sound.without_ready (sound : Sound away scheduler) {priority : Nat}
    (apart : (scheduler.threads thread).currentPriority.toNat ≠ priority) :
    without scheduler.rows thread (.ready priority) =
      scheduler.rows (.ready priority) :=
  without_absent fun member => apart (sound.fits _ _ member).2

omit [DecidableEq Obj] in
theorem Sound.remove (sound : Sound away scheduler) (thread : Id) :
    Sound (insert thread away) (rtScheduleRemoveThread scheduler thread) := by
  have marked := sound.marked thread
  have small := sound.small thread
  apply sound.leave <;> try simp only
    [rtScheduleRemoveThread_threads, rtScheduleRemoveThread_timers,
      rtScheduleRemoveThread_rows]
  intro priority
  have group := sound.group priority
  unfold rtScheduleRemoveThread
  dsimp only [rtListRemove]
  by_cases same : (scheduler.threads thread).currentPriority.toNat = priority
  · subst same
    split
    case isTrue empty =>
      rw [testBit_clear, empty]
      cases Classical.em ((scheduler.threads thread).stat = .ready) with
      | inl ready =>
          rw [marked.bit small (Or.inl ready), decide_eq_true rfl]
          simp
      | inr idle =>
          -- the list was empty before, and its bit clear
          have absent : thread ∉ scheduler.rows (.ready
              (scheduler.threads thread).currentPriority.toNat) :=
            fun member => idle (sound.fits _ _ member).1
          rw [without_absent absent] at empty
          have clear := mt group.mp (not_not.mpr empty)
          simp [clear]
    case isFalse filled =>
      have found : scheduler.rows
          (.ready (scheduler.threads thread).currentPriority.toNat) ≠ [] := by
        intro none
        rw [without, none] at filled
        exact filled rfl
      exact ⟨fun _ => filled, fun _ => group.mpr found⟩
  · rw [sound.without_ready same, ← group]
    split
    case isTrue => rw [testBit_clear, marked.bit_other small same]; simp
    case isFalse => exact Iff.rfl

omit [DecidableEq Obj] in
theorem rtScheduleRemoveThread_last (empty : without scheduler.rows thread
    (.ready (scheduler.threads thread).currentPriority.toNat) = []) :
    rtScheduleRemoveThread scheduler thread =
      { scheduler.rtListRemove thread with
        rtThreadReadyPriorityGroup := scheduler.rtThreadReadyPriorityGroup &&&
          ~~~(scheduler.threads thread).numberMask } := if_pos empty

omit [DecidableEq Obj] in
theorem rtScheduleRemoveThread_more (filled : without scheduler.rows thread
    (.ready (scheduler.threads thread).currentPriority.toNat) ≠ []) :
    rtScheduleRemoveThread scheduler thread = scheduler.rtListRemove thread :=
  if_neg filled

omit [DecidableEq Obj] in
/-- The order in which the status changes and the node leaves is the same. -/
theorem rtScheduleRemoveThread_setThread (change : Thread → Thread)
    (priority : (change (scheduler.threads thread)).currentPriority =
      (scheduler.threads thread).currentPriority)
    (mask : (change (scheduler.threads thread)).numberMask =
      (scheduler.threads thread).numberMask) :
    rtScheduleRemoveThread (scheduler.setThread thread change) thread =
      (rtScheduleRemoveThread scheduler thread).setThread thread change := by
  have threads := setThread_self scheduler thread change
  cases Classical.em (without scheduler.rows thread
    (.ready (scheduler.threads thread).currentPriority.toNat) = []) with
  | inl empty =>
      rw [rtScheduleRemoveThread_last empty, rtScheduleRemoveThread_last]
      · rw [threads, mask]
        rfl
      · rw [threads, priority]
        exact empty
  | inr filled =>
      rw [rtScheduleRemoveThread_more filled, rtScheduleRemoveThread_more]
      · rfl
      · rw [threads, priority]
        exact filled

theorem Sound.insertReady (sound : Sound (insert thread away) scheduler)
    (here : thread ∉ away)
    (started : (scheduler.threads thread).stat = .ready ∨
      (scheduler.threads thread).stat = .suspend)
    (stopped : thread ∉ scheduler.timers.rtTimerList) :
    Sound away (rtScheduleInsertThread scheduler thread) := by
  have small := sound.small thread
  have mask := (sound.marked thread).bit small started
  have marked : (Thread.setStat .ready (scheduler.threads thread)).Marked := by
    cases sound.marked thread with
    | inl mask => exact Or.inl mask
    | inr never =>
        cases started with
        | inl ready => exact absurd ready never.2.1
        | inr suspended => exact absurd suspended never.2.2
  have readied := sound.change (Set.mem_insert thread away)
    (Thread.setStat .ready) marked small
  refine readied.enter here rfl rfl rfl (List.perm_append_singleton ..) ?_
    (fun member => absurd member stopped) ?_
  · rw [setThread_self]
    exact ⟨rfl, rfl⟩
  · intro priority
    unfold rtScheduleInsertThread
    dsimp only [setRow]
    rw [testBit_or, setThread_self]
    dsimp only [Thread.setStat]
    rw [mask, Bool.or_eq_true, decide_eq_true_eq]
    by_cases same : (scheduler.threads thread).currentPriority.toNat = priority
    · subst same
      rw [place_self]
      simp
    · rw [place_other fun equal => same (Row.ready.inj equal).symm]
      exact ⟨fun either => (readied.group priority).mp
        (either.resolve_right same), fun some => Or.inl
          ((readied.group priority).mpr some)⟩

end Moves

end Ch32v307.Kernel
