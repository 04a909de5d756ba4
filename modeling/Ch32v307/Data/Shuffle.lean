import Mathlib.Data.List.Basic

namespace Ch32v307.Data

/-! Two lists merged in any way that keeps the order of each. -/

inductive Shuffle {Action : Type} :
    List Action → List Action → List Action → Prop where
  | nil : Shuffle [] [] []
  | first {action : Action} {left right merged : List Action}
      (rest : Shuffle left right merged) :
      Shuffle (action :: left) right (action :: merged)
  | second {action : Action} {left right merged : List Action}
      (rest : Shuffle left right merged) :
      Shuffle left (action :: right) (action :: merged)

namespace Shuffle

variable {Action Message State : Type}

theorem swap {left right merged : List Action}
    (shuffle : Shuffle left right merged) : Shuffle right left merged := by
  induction shuffle with
  | nil => exact nil
  | first _ ih => exact ih.second
  | second _ ih => exact ih.first

theorem mem {left right merged : List Action}
    (shuffle : Shuffle left right merged) {action : Action}
    (member : action ∈ merged) : action ∈ left ∨ action ∈ right := by
  induction shuffle with
  | nil => cases member
  | first _ ih =>
      rcases List.mem_cons.mp member with rfl | later
      · exact Or.inl List.mem_cons_self
      · exact (ih later).imp (List.mem_cons_of_mem _) id
  | second _ ih =>
      rcases List.mem_cons.mp member with rfl | later
      · exact Or.inr List.mem_cons_self
      · exact (ih later).imp id (List.mem_cons_of_mem _)

theorem prepend_first (actions : List Action) {left right merged : List Action}
    (shuffle : Shuffle left right merged) :
    Shuffle (actions ++ left) right (actions ++ merged) := by
  induction actions with
  | nil => exact shuffle
  | cons action rest ih => exact ih.first

theorem append (left right : List Action) :
    Shuffle left right (left ++ right) := by
  have alone : Shuffle [] right right := by
    induction right with
    | nil => exact nil
    | cons action rest ih => exact ih.second
  have whole := prepend_first left alone
  rwa [List.append_nil] at whole

/-- Actions that are lists of messages: their messages are shuffled too. -/
theorem flatMap (f : Action → List Message) {left right merged : List Action}
    (shuffle : Shuffle left right merged) :
    Shuffle (left.flatMap f) (right.flatMap f) (merged.flatMap f) := by
  induction shuffle with
  | nil => exact nil
  | first _ ih => exact prepend_first _ ih
  | second _ ih => exact (prepend_first _ ih.swap).swap

section Commute

variable {step : State → Action → State}

theorem foldl_step_comm {actions : List Action} {action : Action}
    (commutes : ∀ other ∈ actions, ∀ state,
      step (step state action) other = step (step state other) action)
    (state : State) :
    actions.foldl step (step state action) =
      step (actions.foldl step state) action := by
  induction actions generalizing state with
  | nil => rfl
  | cons other rest ih =>
      obtain ⟨here, others⟩ := List.forall_mem_cons.mp commutes
      rw [List.foldl_cons, here, ih others, List.foldl_cons]

/-- When every action of one list commutes with every action of the other, a
shuffle is the one list after the other. -/
theorem foldl_eq {left right merged : List Action}
    (shuffle : Shuffle left right merged)
    (commutes : ∀ a ∈ left, ∀ b ∈ right, ∀ state,
      step (step state b) a = step (step state a) b)
    (state : State) :
    merged.foldl step state = (left ++ right).foldl step state := by
  induction shuffle generalizing state with
  | nil => rfl
  | first _ ih =>
      exact ih (fun a inLeft => commutes a (List.mem_cons_of_mem _ inLeft)) _
  | @second action left right merged _ ih =>
      have here : ∀ a ∈ left, ∀ state,
          step (step state action) a = step (step state a) action :=
        fun a inLeft => commutes a inLeft action List.mem_cons_self
      have later := ih (fun a inLeft b inRight =>
        commutes a inLeft b (List.mem_cons_of_mem _ inRight))
      calc
        (action :: merged).foldl step state =
            merged.foldl step (step state action) := rfl
        _ = right.foldl step (left.foldl step (step state action)) := by
            rw [later, List.foldl_append]
        _ = right.foldl step (step (left.foldl step state) action) := by
            rw [foldl_step_comm here]
        _ = (left ++ action :: right).foldl step state := by
            rw [List.foldl_append, List.foldl_cons]

end Commute

end Shuffle

end Ch32v307.Data
