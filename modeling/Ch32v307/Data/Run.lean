import Mathlib.Data.List.Basic

namespace Ch32v307.Data.Run

/-! Runs of a deterministic machine under a list of actions. A guard is a
condition on the state before a step and on the action that takes it. -/

variable {State Action Output : Type}

def reached (step : State → Action → State) : State → List Action → List State
  | _, [] => []
  | state, action :: rest =>
      step state action :: reached step (step state action) rest

def trace (step : State → Action → State)
    (emit : State → Action → List Output) : State → List Action → List Output
  | _, [] => []
  | state, action :: rest =>
      emit state action ++ trace step emit (step state action) rest

/-- Every step of a run meets the guard in the state before it. -/
def Guarded (step : State → Action → State)
    (guard : State → Action → Prop) : State → List Action → Prop
  | _, [] => True
  | state, action :: rest =>
      guard state action ∧ Guarded step guard (step state action) rest

def outputs (step : State → Action → State) (emit : State → Action → Output) :
    State → List Action → List Output
  | _, [] => []
  | state, action :: rest =>
      emit state action :: outputs step emit (step state action) rest

variable {step : State → Action → State} {guard : State → Action → Prop}

instance Guarded.decidable [∀ state action, Decidable (guard state action)] :
    ∀ state actions, Decidable (Guarded step guard state actions)
  | _, [] => inferInstanceAs (Decidable True)
  | state, action :: rest =>
      have := Guarded.decidable (step state action) rest
      inferInstanceAs (Decidable (_ ∧ _))

@[simp] theorem reached_nil (state : State) : reached step state [] = [] := rfl

@[simp] theorem reached_cons (state : State) (action : Action)
    (rest : List Action) :
    reached step state (action :: rest) =
      step state action :: reached step (step state action) rest := rfl

@[simp] theorem guarded_nil (state : State) : Guarded step guard state [] :=
  trivial

@[simp] theorem guarded_cons (state : State) (action : Action)
    (rest : List Action) :
    Guarded step guard state (action :: rest) ↔
      guard state action ∧ Guarded step guard (step state action) rest :=
  Iff.rfl

theorem guarded_of_forall {actions : List Action}
    (allowed : ∀ action ∈ actions, ∀ state, guard state action)
    (state : State) : Guarded step guard state actions := by
  induction actions generalizing state with
  | nil => trivial
  | cons action rest ih =>
      obtain ⟨first, others⟩ := List.forall_mem_cons.mp allowed
      exact ⟨first state, ih others _⟩

theorem guarded_true (state : State) (actions : List Action) :
    Guarded step (fun _ _ => True) state actions :=
  guarded_of_forall (fun _ _ _ => trivial) state

theorem guarded_congr {other : State → Action → Prop}
    (same : ∀ state action, guard state action ↔ other state action)
    (state : State) (actions : List Action) :
    Guarded step guard state actions ↔ Guarded step other state actions := by
  induction actions generalizing state with
  | nil => exact Iff.rfl
  | cons action rest ih => exact and_congr (same state action) (ih _)

theorem reached_invariant_of_guarded {Inv : State → Prop}
    (keeps : ∀ state action, Inv state → guard state action →
      Inv (step state action))
    {state : State} {actions : List Action}
    (initial : Inv state) (guarded : Guarded step guard state actions) :
    ∀ later ∈ reached step state actions, Inv later := by
  induction actions generalizing state with
  | nil => simp
  | cons action rest ih =>
      obtain ⟨first, others⟩ := guarded
      have next := keeps state action initial first
      intro later member
      rcases List.mem_cons.mp member with rfl | member
      · exact next
      · exact ih next others later member

theorem reached_invariant {Inv : State → Prop}
    (keeps : ∀ state action, Inv state → Inv (step state action))
    {state : State} (initial : Inv state) (actions : List Action) :
    ∀ later ∈ reached step state actions, Inv later :=
  reached_invariant_of_guarded (fun state action inv _ => keeps state action inv)
    initial (guarded_true state actions)

theorem foldl_invariant_of_guarded {Inv : State → Prop}
    (keeps : ∀ state action, Inv state → guard state action →
      Inv (step state action))
    {state : State} {actions : List Action}
    (initial : Inv state) (guarded : Guarded step guard state actions) :
    Inv (actions.foldl step state) := by
  induction actions generalizing state with
  | nil => exact initial
  | cons action rest ih =>
      obtain ⟨first, others⟩ := guarded
      exact ih (keeps state action initial first) others

/-- A guard that an invariant turns into another one. -/
theorem guarded_mono {Inv : State → Prop} {stronger : State → Action → Prop}
    (keeps : ∀ state action, Inv state → stronger state action →
      Inv (step state action))
    (implies : ∀ state action, Inv state → stronger state action →
      guard state action)
    {state : State} {actions : List Action} (initial : Inv state)
    (guarded : Guarded step stronger state actions) :
    Guarded step guard state actions := by
  induction actions generalizing state with
  | nil => trivial
  | cons action rest ih =>
      obtain ⟨first, others⟩ := guarded
      exact ⟨implies state action initial first,
        ih (keeps state action initial first) others⟩

theorem trace_forall {emit : State → Action → List Output}
    {Inv : State → Prop} {Good : Output → Prop}
    (keeps : ∀ state action, Inv state → guard state action →
      Inv (step state action))
    (good : ∀ state action, Inv state → guard state action →
      ∀ output ∈ emit state action, Good output)
    {state : State} {actions : List Action}
    (initial : Inv state) (guarded : Guarded step guard state actions) :
    ∀ output ∈ trace step emit state actions, Good output := by
  induction actions generalizing state with
  | nil => simp [trace]
  | cons action rest ih =>
      obtain ⟨first, others⟩ := guarded
      intro output member
      rcases List.mem_append.mp member with here | later
      · exact good state action initial first output here
      · exact ih (keeps state action initial first) others output later

/-- A guard is exact when, from a state where the property holds, a step keeps
it precisely if the guard is met. Then the property holds in all of a run's
states precisely if the whole run is guarded. -/
theorem reached_forall_iff_guarded_of {Holds : State → Prop}
    {provided : State → Action → Prop}
    (exact_guard : ∀ state action, Holds state → provided state action →
      (Holds (step state action) ↔ guard state action))
    {state : State} {actions : List Action} (initial : Holds state)
    (given : Guarded step provided state actions) :
    (∀ later ∈ reached step state actions, Holds later) ↔
      Guarded step guard state actions := by
  induction actions generalizing state with
  | nil => simp
  | cons action rest ih =>
      obtain ⟨here, others⟩ := given
      simp only [reached_cons, List.forall_mem_cons, guarded_cons]
      rw [exact_guard state action initial here]
      refine and_congr_right fun first => ih ?_ others
      exact (exact_guard state action initial here).mpr first

theorem reached_forall_iff_guarded {Holds : State → Prop}
    (exact_guard : ∀ state action, Holds state →
      (Holds (step state action) ↔ guard state action))
    {state : State} (initial : Holds state) (actions : List Action) :
    (∀ later ∈ reached step state actions, Holds later) ↔
      Guarded step guard state actions :=
  reached_forall_iff_guarded_of
    (fun state action holds _ => exact_guard state action holds) initial
    (guarded_true state actions)

section Outputs

variable {emit : State → Action → Output}

theorem outputs_split {state : State} {actions : List Action}
    {first second : List Output}
    (split : outputs step emit state actions = first ++ second) :
    ∃ early late, actions = early ++ late ∧
      outputs step emit state early = first ∧
      outputs step emit (early.foldl step state) late = second := by
  induction first generalizing state actions with
  | nil => exact ⟨[], actions, rfl, rfl, split⟩
  | cons output first ih =>
      cases actions with
      | nil => cases split
      | cons action rest =>
          obtain ⟨here, others⟩ := List.cons.inj split
          obtain ⟨early, late, rfl, emitted, later⟩ := ih others
          refine ⟨action :: early, late, rfl, ?_, later⟩
          rw [outputs, here, emitted]

theorem outputs_cons {state : State} {actions : List Action}
    {output : Output} {later : List Output}
    (emitted : outputs step emit state actions = output :: later) :
    ∃ action rest, emit state action = output ∧
      outputs step emit (step state action) rest = later := by
  cases actions with
  | nil => cases emitted
  | cons action rest =>
      obtain ⟨here, others⟩ := List.cons.inj emitted
      exact ⟨action, rest, here, others⟩

theorem outputs_invariant_from {Inv : State → List Output → Prop}
    {Allowed : Output → Prop}
    (keeps : ∀ state done action, Inv state done →
      Allowed (emit state action) →
      Inv (step state action) (done ++ [emit state action]))
    {state : State} {done : List Output} (initial : Inv state done)
    {actions : List Action}
    (allowed : ∀ output ∈ outputs step emit state actions, Allowed output) :
    Inv (actions.foldl step state)
      (done ++ outputs step emit state actions) := by
  induction actions generalizing state done with
  | nil => simpa [outputs] using initial
  | cons action rest ih =>
      obtain ⟨here, others⟩ := List.forall_mem_cons.mp allowed
      have next := ih (keeps state done action initial here) others
      simpa [outputs, List.append_assoc] using next

/-- An invariant of a state and the outputs so far, kept by every step that
emits an allowed output, holds after a run of such steps. -/
theorem outputs_invariant (Inv : State → List Output → Prop)
    (Allowed : Output → Prop)
    (keeps : ∀ state done action, Inv state done →
      Allowed (emit state action) →
      Inv (step state action) (done ++ [emit state action]))
    {state : State} (initial : Inv state [])
    {actions : List Action}
    (allowed : ∀ output ∈ outputs step emit state actions, Allowed output) :
    Inv (actions.foldl step state) (outputs step emit state actions) :=
  outputs_invariant_from keeps initial allowed

end Outputs

/-! Runs of a machine that may get stuck. -/

section Stuck

variable {step : State → Action → Option State} {guard : State → Action → Prop}

/-- Every step of a run meets the guard in the states it may be taken in. -/
def Admitted (step : State → Action → Option State)
    (guard : State → Action → Prop) : State → List Action → Prop
  | _, [] => True
  | state, action :: rest =>
      guard state action ∧
        ∀ next, step state action = some next → Admitted step guard next rest

instance Admitted.decidable [∀ state action, Decidable (guard state action)] :
    ∀ state actions, Decidable (Admitted step guard state actions)
  | _, [] => inferInstanceAs (Decidable True)
  | state, action :: rest =>
      have : Decidable (∀ next, step state action = some next →
          Admitted step guard next rest) :=
        match step state action with
        | none => isTrue fun _ taken => nomatch taken
        | some next =>
            have := Admitted.decidable next rest
            decidable_of_iff (Admitted step guard next rest)
              ⟨fun admitted _ same => Option.some.inj same ▸ admitted,
                fun all => all next rfl⟩
      inferInstanceAs (Decidable (_ ∧ _))

/-- A run does not get stuck when no admitted step does. -/
theorem foldlM_invariant {Inv : State → Prop}
    (keeps : ∀ state action, Inv state → guard state action →
      ∃ next, step state action = some next ∧ Inv next)
    {state : State} {actions : List Action} (initial : Inv state)
    (admitted : Admitted step guard state actions) :
    ∃ last, actions.foldlM step state = some last ∧ Inv last := by
  induction actions generalizing state with
  | nil => exact ⟨state, rfl, initial⟩
  | cons action rest ih =>
      obtain ⟨here, others⟩ := admitted
      obtain ⟨next, taken, invariant⟩ := keeps state action initial here
      obtain ⟨last, reached, final⟩ := ih invariant (others next taken)
      exact ⟨last, by rw [List.foldlM_cons, taken]; exact reached, final⟩

theorem foldlM_append_of {state middle : State} {first second : List Action}
    (went : first.foldlM step state = some middle) :
    (first ++ second).foldlM step state = second.foldlM step middle := by
  rw [List.foldlM_append, went]
  rfl

theorem Admitted.and_forall {Kind : Action → Prop} {state : State}
    {actions : List Action} (admitted : Admitted step guard state actions)
    (kind : ∀ action ∈ actions, Kind action) :
    Admitted step (fun state action => guard state action ∧ Kind action) state
      actions := by
  induction actions generalizing state with
  | nil => trivial
  | cons action rest ih =>
      obtain ⟨here, others⟩ := admitted
      obtain ⟨first, later⟩ := List.forall_mem_cons.mp kind
      exact ⟨⟨here, first⟩, fun next taken => ih (others next taken) later⟩

end Stuck

end Ch32v307.Data.Run
