import Ch32v307.Gpio.Interrupts

namespace Ch32v307.Gpio

open Data

/-! The interrupt handlers step by step, with edges landing between any two of
their steps. A step is one status check, one callback or the final clear. -/

/-- Where a handler stands, with the lines it has still to check or to call
back; it clears when no callback is left. -/
inductive HandlerPc where
  | idle
  | checks (lines : List (Fin 16))
  | callbacks (lines : List (Fin 16))
  deriving DecidableEq

structure Vectors where
  driver : Driver
  pc : IRQn → HandlerPc
  /-- The function of a line has been called since the last edge that set the
  line's bit. -/
  seen : Fin 16 → Bool

inductive VectorAction where
  | edge (port : Port) (line : Fin 16) (polarity : Polarity)
  | handler (irqn : IRQn)
  deriving DecidableEq

namespace Vectors

/-- No handler runs. A bit that is pending stands for an edge not seen. -/
def start (driver : Driver) : Vectors where
  driver := driver
  pc := fun _ => .idle
  seen := fun line => ! pending line driver

def edge (port : Port) (line : Fin 16) (polarity : Polarity)
    (vectors : Vectors) : Vectors :=
  if Latches port line polarity vectors.driver.regs then
    { vectors with
      driver := latchEdge port line polarity vectors.driver
      seen := Function.update vectors.seen line false }
  else vectors

def goto (irqn : IRQn) (pc : HandlerPc) (vectors : Vectors) : Vectors :=
  { vectors with pc := Function.update vectors.pc irqn pc }

/-- A handler is entered when a line of its vector asks for it. -/
def Requested (irqn : IRQn) (driver : Driver) : Prop :=
  driver.regs.irqEnabled irqn = true ∧
    ∃ line ∈ irqLines irqn,
      extiGetITStatus (Bits.bit line) driver.regs.exti

instance (irqn : IRQn) (driver : Driver) : Decidable (Requested irqn driver) :=
  inferInstanceAs (Decidable (_ ∧ _))

def callback (line : Fin 16) (vectors : Vectors) : Vectors :=
  let invocations := halGpioExtiCallback (Bits.bit line) vectors.driver
  { vectors with
    seen := fun other =>
      invocations.any (fun invocation => invocation.line = other) ||
        vectors.seen other }

def clear (irqn : IRQn) (vectors : Vectors) : Vectors :=
  let exti := extiClearITPendingBit
    (Bits.mask ((irqLines irqn).map Fin.val)) vectors.driver.regs.exti
  { vectors with
    driver :=
      { vectors.driver with regs := { vectors.driver.regs with exti := exti } } }

def handler (irqn : IRQn) (vectors : Vectors) : Vectors :=
  match vectors.pc irqn with
  | .idle =>
      if Requested irqn vectors.driver then
        vectors.goto irqn (.checks (irqLines irqn))
      else vectors
  | .checks [] => vectors.goto irqn .idle
  | .checks (line :: rest) =>
      if extiGetITStatus (Bits.bit line) vectors.driver.regs.exti then
        vectors.goto irqn (.callbacks (irqLines irqn))
      else vectors.goto irqn (.checks rest)
  | .callbacks (line :: rest) =>
      (vectors.callback line).goto irqn (.callbacks rest)
  | .callbacks [] => (vectors.clear irqn).goto irqn .idle

def step (vectors : Vectors) : VectorAction → Vectors
  | .edge port line polarity => vectors.edge port line polarity
  | .handler irqn => vectors.handler irqn

def Attached (line : Fin 16) (driver : Driver) : Prop :=
  (driver.pinIrqHdrTab line).hdr ≠ 0

instance (line : Fin 16) (driver : Driver) : Decidable (Attached line driver) :=
  inferInstanceAs (Decidable (_ ≠ _))

/-- A clear takes a pending bit from an attached line only if the function of
the line has been called since the edge. -/
def ClearsSeen (vectors : Vectors) (action : VectorAction) : Prop :=
  ∀ irqn, action = .handler irqn → vectors.pc irqn = .callbacks [] →
    ∀ line ∈ irqLines irqn, Attached line vectors.driver →
      pending line vectors.driver = true → vectors.seen line = true

/-- The handler has called a line back and not cleared it yet. -/
def Past (line : Fin 16) (pc : HandlerPc) : Prop :=
  ∃ rest, pc = .callbacks rest ∧ line ∉ rest

/-- No edge comes between the callback of its line and the clear. -/
def EdgeInTime (vectors : Vectors) (action : VectorAction) : Prop :=
  ∀ port line polarity, action = .edge port line polarity →
    Latches port line polarity vectors.driver.regs →
    Attached line vectors.driver →
    ∀ irqn, line ∈ irqLines irqn → ¬ Past line (vectors.pc irqn)

/-! What the operations do to one line. -/

theorem irqLines_disjoint {irqn other : IRQn} {line : Fin 16}
    (member : line ∈ irqLines irqn) (memberOther : line ∈ irqLines other) :
    irqn = other := by
  revert line
  cases irqn <;> cases other <;> decide

theorem pending_clear (irqn : IRQn) (line : Fin 16) (vectors : Vectors) :
    pending line (vectors.clear irqn).driver = true ↔
      pending line vectors.driver = true ∧ line ∉ irqLines irqn :=
  clearITPendingBit_intfr irqn line vectors.driver.regs.exti

theorem edge_pc (port : Port) (line : Fin 16) (polarity : Polarity)
    (vectors : Vectors) :
    (vectors.edge port line polarity).pc = vectors.pc := by
  unfold edge
  split_ifs <;> rfl

theorem edge_attached_iff (port : Port) (line other : Fin 16)
    (polarity : Polarity) (vectors : Vectors) :
    Attached other (vectors.edge port line polarity).driver ↔
      Attached other vectors.driver := by
  unfold edge latchEdge
  split_ifs <;> rfl

theorem edge_pending_iff (port : Port) (line other : Fin 16)
    (polarity : Polarity) (vectors : Vectors) :
    pending other (vectors.edge port line polarity).driver = true ↔
      pending other vectors.driver = true ∨
        other = line ∧ Latches port line polarity vectors.driver.regs := by
  unfold edge
  split_ifs with latches
  · dsimp only
    rw [latchEdge_pending, Bool.or_eq_true, decide_eq_true_eq]
  · exact (or_iff_left fun both => latches both.2).symm

theorem edge_seen_self {port : Port} {line : Fin 16} {polarity : Polarity}
    {vectors : Vectors}
    (latches : Latches port line polarity vectors.driver.regs) :
    (vectors.edge port line polarity).seen line = false := by
  rw [edge, if_pos latches]
  exact Function.update_self ..

theorem edge_seen_other {line other : Fin 16} (different : other ≠ line)
    (port : Port) (polarity : Polarity) (vectors : Vectors) :
    (vectors.edge port line polarity).seen other = vectors.seen other := by
  unfold edge
  split_ifs
  · exact Function.update_of_ne different ..
  · rfl

theorem callback_seen {line : Fin 16} {vectors : Vectors}
    (attached : Attached line vectors.driver) (other : Fin 16) :
    (vectors.callback line).seen other = true ↔
      other = line ∨ vectors.seen other = true := by
  have invoked : halGpioExtiCallback (Bits.bit line) vectors.driver =
      [⟨line, (vectors.driver.pinIrqHdrTab line).hdr,
        (vectors.driver.pinIrqHdrTab line).args⟩] := by
    rw [halGpioExtiCallback_bit]
    exact if_pos attached
  unfold callback
  rw [invoked]
  simp only [List.any_cons, List.any_nil, Bool.or_false, Bool.or_eq_true,
    decide_eq_true_eq]
  exact or_congr_left eq_comm

theorem callback_seen_other {line other : Fin 16} (vectors : Vectors)
    (different : other ≠ line) :
    (vectors.callback line).seen other = vectors.seen other := by
  by_cases attached : Attached line vectors.driver
  · rw [Bool.eq_iff_iff, callback_seen attached, or_iff_right different]
  · have none : halGpioExtiCallback (Bits.bit line) vectors.driver = [] := by
      rw [halGpioExtiCallback_bit]
      exact if_neg attached
    unfold callback
    rw [none]
    simp

@[simp] theorem goto_pc (irqn : IRQn) (pc : HandlerPc) (vectors : Vectors) :
    (vectors.goto irqn pc).pc irqn = pc := Function.update_self ..

theorem goto_pc_other {irqn other : IRQn} (different : other ≠ irqn)
    (pc : HandlerPc) (vectors : Vectors) :
    (vectors.goto irqn pc).pc other = vectors.pc other :=
  Function.update_of_ne different ..

theorem goto_self (irqn : IRQn) (vectors : Vectors) :
    vectors.goto irqn (vectors.pc irqn) = vectors := by
  rw [goto, Function.update_eq_self]

/-! A handler stays before its callbacks, makes one, or clears. -/

theorem handler_cases (irqn : IRQn) (vectors : Vectors) :
    (∃ pc, vectors.handler irqn = vectors.goto irqn pc ∧
      (∀ rest, vectors.pc irqn ≠ .callbacks rest) ∧
      ∀ rest, pc = .callbacks rest → rest = irqLines irqn) ∨
    (∃ line rest, vectors.pc irqn = .callbacks (line :: rest) ∧
      vectors.handler irqn =
        (vectors.callback line).goto irqn (.callbacks rest)) ∨
    (vectors.pc irqn = .callbacks [] ∧
      vectors.handler irqn = (vectors.clear irqn).goto irqn .idle) := by
  unfold handler
  cases here : vectors.pc irqn with
  | idle =>
      refine Or.inl ⟨if Requested irqn vectors.driver
        then .checks (irqLines irqn) else .idle, ?_, nofun, ?_⟩
      · dsimp only
        split_ifs
        · rfl
        · rw [← here, goto_self]
      · split_ifs <;> exact nofun
  | checks lines =>
      cases lines with
      | nil => exact Or.inl ⟨.idle, rfl, nofun, nofun⟩
      | cons line rest =>
          refine Or.inl ⟨if extiGetITStatus (Bits.bit line)
            vectors.driver.regs.exti then .callbacks (irqLines irqn)
            else .checks rest, ?_, nofun, ?_⟩
          · dsimp only
            split_ifs <;> rfl
          · split_ifs
            · intro rest same
              exact (HandlerPc.callbacks.inj same).symm
            · exact nofun
  | callbacks lines =>
      cases lines with
      | nil => exact Or.inr (Or.inr ⟨rfl, rfl⟩)
      | cons line rest => exact Or.inr (Or.inl ⟨line, rest, rfl, rfl⟩)

/-- A handler has only lines of its own vector left to call back. -/
def Wf (vectors : Vectors) : Prop :=
  ∀ irqn rest, vectors.pc irqn = .callbacks rest → rest ⊆ irqLines irqn

theorem goto_wf {irqn : IRQn} {pc : HandlerPc} {vectors : Vectors}
    (wf : vectors.Wf)
    (own : ∀ rest, pc = .callbacks rest → rest ⊆ irqLines irqn) :
    (vectors.goto irqn pc).Wf := by
  intro other rest there
  by_cases same : other = irqn
  · subst same
    apply own
    rw [← there, goto_pc]
  · rw [goto_pc_other same] at there
    exact wf other rest there

theorem edge_wf {vectors : Vectors} (wf : vectors.Wf) (port : Port)
    (line : Fin 16) (polarity : Polarity) :
    (vectors.edge port line polarity).Wf := by
  intro irqn rest there
  rw [edge_pc] at there
  exact wf irqn rest there

theorem handler_wf {vectors : Vectors} (wf : vectors.Wf) (irqn : IRQn) :
    (vectors.handler irqn).Wf := by
  obtain ⟨pc, moved, -, all⟩ | ⟨line, rest, here, moved⟩ | ⟨-, moved⟩ :=
    handler_cases irqn vectors
  all_goals rw [moved]
  · apply goto_wf wf
    intro rest same
    rw [all rest same]
    exact List.Subset.refl _
  · have called : (vectors.callback line).Wf := wf
    apply goto_wf called
    intro others same
    cases same
    exact List.Subset.trans (List.subset_cons_self line rest)
      (wf irqn _ here)
  · have cleared : (vectors.clear irqn).Wf := wf
    exact goto_wf cleared nofun

theorem step_wf {vectors : Vectors} (wf : vectors.Wf) (action : VectorAction) :
    (vectors.step action).Wf := by
  cases action with
  | edge port line polarity => exact edge_wf wf port line polarity
  | handler irqn => exact handler_wf wf irqn

/-! Edges in time are all seen. -/

/-- What a handler has called back and what is pending again has been seen. -/
def AllSeen (vectors : Vectors) : Prop :=
  ∀ irqn line, line ∈ irqLines irqn → Attached line vectors.driver →
    Past line (vectors.pc irqn) → pending line vectors.driver = true →
    vectors.seen line = true

theorem not_past_of_before {line : Fin 16} {pc : HandlerPc} {irqn : IRQn}
    (member : line ∈ irqLines irqn)
    (all : ∀ rest, pc = .callbacks rest → rest = irqLines irqn) :
    ¬ Past line pc := by
  rintro ⟨rest, here, left⟩
  rw [all rest here] at left
  exact left member

theorem edge_allSeen {vectors : Vectors} (allSeen : vectors.AllSeen)
    {port : Port} {line : Fin 16} {polarity : Polarity}
    (inTime : EdgeInTime vectors (.edge port line polarity)) :
    (vectors.edge port line polarity).AllSeen := by
  intro irqn other member attached past isPending
  rw [edge_attached_iff] at attached
  rw [edge_pc] at past
  have latchedNone :
      ¬ (other = line ∧ Latches port line polarity vectors.driver.regs) := by
    rintro ⟨rfl, latches⟩
    exact inTime port other polarity rfl latches attached irqn member past
  have before := ((edge_pending_iff ..).mp isPending).resolve_right latchedNone
  have seen := allSeen irqn other member attached past before
  by_cases same : other = line
  · have ignored : ¬ Latches port line polarity vectors.driver.regs :=
      fun latches => latchedNone ⟨same, latches⟩
    rw [edge, if_neg ignored]
    exact seen
  · rw [edge_seen_other same]
    exact seen

theorem goto_allSeen {irqn : IRQn} {pc : HandlerPc} {vectors : Vectors}
    (allSeen : vectors.AllSeen)
    (own : ∀ line ∈ irqLines irqn, Attached line vectors.driver →
      Past line pc → pending line vectors.driver = true →
      vectors.seen line = true) :
    (vectors.goto irqn pc).AllSeen := by
  intro other line member attached past isPending
  by_cases same : other = irqn
  · subst same
    rw [goto_pc] at past
    exact own line member attached past isPending
  · rw [goto_pc_other same] at past
    exact allSeen other line member attached past isPending

theorem callback_allSeen {vectors : Vectors} (allSeen : vectors.AllSeen)
    (line : Fin 16) : (vectors.callback line).AllSeen := by
  intro irqn other member attached past isPending
  have seen := allSeen irqn other member attached past isPending
  unfold callback
  dsimp only
  rw [seen, Bool.or_true]

theorem clear_allSeen {vectors : Vectors} (allSeen : vectors.AllSeen)
    (irqn : IRQn) : (vectors.clear irqn).AllSeen := by
  intro other line member attached past isPending
  have before := ((pending_clear irqn line vectors).mp isPending).1
  exact allSeen other line member attached past before

theorem handler_allSeen {vectors : Vectors} (allSeen : vectors.AllSeen)
    (irqn : IRQn) : (vectors.handler irqn).AllSeen := by
  obtain ⟨pc, moved, -, all⟩ | ⟨line, rest, here, moved⟩ | ⟨-, moved⟩ :=
    handler_cases irqn vectors
  all_goals rw [moved]
  · apply goto_allSeen allSeen
    intro line member _ past
    exact (not_past_of_before member all past).elim
  · apply goto_allSeen (callback_allSeen allSeen line)
    intro other member attached past isPending
    have attachedBefore : Attached other vectors.driver := attached
    by_cases called : other = line
    · subst called
      exact (callback_seen attachedBefore other).mpr (Or.inl rfl)
    · obtain ⟨remaining, same, left⟩ := past
      cases same
      have pastBefore : Past other (vectors.pc irqn) :=
        ⟨_, here, fun inside => (List.mem_cons.mp inside).elim called left⟩
      rw [callback_seen_other vectors called]
      exact allSeen irqn other member attachedBefore pastBefore isPending
  · apply goto_allSeen (clear_allSeen allSeen irqn)
    rintro line - - ⟨rest, idle, -⟩
    cases idle

theorem step_allSeen {vectors : Vectors} {action : VectorAction}
    (allSeen : vectors.AllSeen) (inTime : EdgeInTime vectors action) :
    (vectors.step action).AllSeen := by
  cases action with
  | edge port line polarity => exact edge_allSeen allSeen inTime
  | handler irqn => exact handler_allSeen allSeen irqn

theorem AllSeen.clearsSeen {vectors : Vectors} (allSeen : vectors.AllSeen)
    (action : VectorAction) : ClearsSeen vectors action := by
  intro irqn _ here line member attached isPending
  exact allSeen irqn line member attached ⟨[], here, List.not_mem_nil⟩
    isPending

theorem start_allSeen (driver : Driver) : (start driver).AllSeen := by
  rintro irqn line - - ⟨rest, idle, -⟩
  cases idle

/-! An edge that comes too late is missed. -/

structure Missed (irqn : IRQn) (line : Fin 16) (vectors : Vectors) : Prop where
  wf : vectors.Wf
  member : line ∈ irqLines irqn
  attached : Attached line vectors.driver
  past : Past line (vectors.pc irqn)
  isPending : pending line vectors.driver = true
  unseen : vectors.seen line = false

theorem edge_missed {irqn : IRQn} {line : Fin 16} {vectors : Vectors}
    (missed : Missed irqn line vectors) (port : Port) (other : Fin 16)
    (polarity : Polarity) :
    Missed irqn line (vectors.edge port other polarity) := by
  refine ⟨edge_wf missed.wf port other polarity, missed.member, ?_, ?_, ?_,
    ?_⟩
  · exact (edge_attached_iff ..).mpr missed.attached
  · rw [edge_pc]
    exact missed.past
  · exact (edge_pending_iff ..).mpr (Or.inl missed.isPending)
  · unfold edge
    split_ifs
    · by_cases same : line = other
      · rw [same]
        exact Function.update_self ..
      · exact (Function.update_of_ne same ..).trans missed.unseen
    · exact missed.unseen

/-- Until its handler clears, nothing calls a missed line back. -/
theorem handler_missed {irqn : IRQn} {line : Fin 16} {vectors : Vectors}
    (missed : Missed irqn line vectors) (other : IRQn)
    (clearsSeen : ClearsSeen vectors (.handler other)) :
    Missed irqn line (vectors.handler other) := by
  have wf := handler_wf missed.wf other
  obtain ⟨left, here, passed⟩ := missed.past
  obtain ⟨pc, moved, before, -⟩ | ⟨called, rest, calling, moved⟩ |
      ⟨clearing, moved⟩ := handler_cases other vectors
  all_goals rw [moved] at wf ⊢
  · have different : irqn ≠ other := by
      rintro rfl
      exact before left here
    refine ⟨wf, missed.member, missed.attached, ?_, missed.isPending,
      missed.unseen⟩
    rw [goto_pc_other different]
    exact missed.past
  · have different : line ≠ called := by
      rintro rfl
      have own : line ∈ irqLines other :=
        missed.wf other _ calling List.mem_cons_self
      obtain rfl := irqLines_disjoint missed.member own
      cases here.symm.trans calling
      exact passed List.mem_cons_self
    refine ⟨wf, missed.member, missed.attached, ?_, missed.isPending, ?_⟩
    · by_cases same : irqn = other
      · subst same
        cases here.symm.trans calling
        rw [goto_pc]
        exact ⟨rest, rfl, fun inside =>
          passed (List.mem_cons_of_mem called inside)⟩
      · rw [goto_pc_other same]
        exact missed.past
    · exact (callback_seen_other vectors different).trans missed.unseen
  · have different : irqn ≠ other := by
      rintro rfl
      have seen := clearsSeen irqn rfl clearing line missed.member
        missed.attached missed.isPending
      rw [missed.unseen] at seen
      cases seen
    have elsewhere : line ∉ irqLines other :=
      fun own => different (irqLines_disjoint missed.member own)
    refine ⟨wf, missed.member, missed.attached, ?_, ?_, missed.unseen⟩
    · rw [goto_pc_other different]
      exact missed.past
    · exact (pending_clear other line vectors).mpr
        ⟨missed.isPending, elsewhere⟩

theorem step_missed {irqn : IRQn} {line : Fin 16} {vectors : Vectors}
    (missed : Missed irqn line vectors) {action : VectorAction}
    (clearsSeen : ClearsSeen vectors action) :
    Missed irqn line (vectors.step action) := by
  cases action with
  | edge port other polarity => exact edge_missed missed port other polarity
  | handler other => exact handler_missed missed other clearsSeen

theorem late_edge_missed {vectors : Vectors} {port : Port} {line : Fin 16}
    {polarity : Polarity} {irqn : IRQn} (wf : vectors.Wf)
    (latches : Latches port line polarity vectors.driver.regs)
    (attached : Attached line vectors.driver) (member : line ∈ irqLines irqn)
    (past : Past line (vectors.pc irqn)) :
    Missed irqn line (vectors.edge port line polarity) := by
  refine ⟨edge_wf wf port line polarity, member, ?_, ?_, ?_,
    edge_seen_self latches⟩
  · exact (edge_attached_iff ..).mpr attached
  · rw [edge_pc]
    exact past
  · exact (edge_pending_iff ..).mpr (Or.inr ⟨rfl, latches⟩)

theorem clearsSeen_inTime {vectors : Vectors} (wf : vectors.Wf)
    {actions : List VectorAction}
    (finished : ∀ irqn, (actions.foldl step vectors).pc irqn = .idle)
    (clearsSeen : Run.Guarded step ClearsSeen vectors actions) :
    Run.Guarded step EdgeInTime vectors actions := by
  induction actions generalizing vectors with
  | nil => trivial
  | cons action rest ih =>
      obtain ⟨first, others⟩ := clearsSeen
      refine ⟨?_, ih (step_wf wf action) finished others⟩
      rintro port line polarity rfl latches attached irqn member past
      have ended : Missed irqn line
          (rest.foldl step (vectors.step (.edge port line polarity))) := by
        refine Run.foldl_invariant_of_guarded ?_ ?_ others
        · intro _ _ missed clearsSeen
          exact step_missed missed clearsSeen
        · exact late_edge_missed wf latches attached member past
      obtain ⟨left, here, -⟩ := ended.past
      cases here.symm.trans (finished irqn)

/-- In every run whose edges come in time a clear takes only what has been
seen, and once the handlers are done no other run achieves it. -/
theorem clears_seen_iff_in_time (driver : Driver)
    (actions : List VectorAction) :
    (Run.Guarded step EdgeInTime (start driver) actions →
      Run.Guarded step ClearsSeen (start driver) actions) ∧
    ((∀ irqn, (actions.foldl step (start driver)).pc irqn = .idle) →
      Run.Guarded step ClearsSeen (start driver) actions →
      Run.Guarded step EdgeInTime (start driver) actions) := by
  constructor
  · intro inTime
    exact Run.guarded_mono
      (fun _ _ allSeen inTime => step_allSeen allSeen inTime)
      (fun _ action allSeen _ => allSeen.clearsSeen action)
      (start_allSeen driver) inTime
  · intro finished clearsSeen
    have wf : (start driver).Wf := nofun
    exact clearsSeen_inTime wf finished clearsSeen

/-- A second edge on the line while the other lines of the vector are called
back. -/
def lateEdge (line : Fin 16) : List VectorAction :=
  [.edge .e line .rising] ++ List.replicate 3 (.handler .exti9To5) ++
    [.edge .e line .rising] ++ List.replicate 5 (.handler .exti9To5)

theorem late_edge_lost :
    ¬ Run.Guarded step ClearsSeen (start pin4Enabled) (lateEdge 5) := by
  intro clearsSeen
  have seen := clearsSeen.2.2.2.2.2.2.2.2.2.1 .exti9To5 rfl
    (by decide +kernel) 5 (by decide) (by decide +kernel) (by decide +kernel)
  exact absurd seen (by decide +kernel)

end Vectors

end Ch32v307.Gpio
