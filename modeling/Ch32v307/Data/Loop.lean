import Mathlib.Logic.Function.Iterate

namespace Ch32v307.Data.Loop

/-! Loops that test before each round, with what the rounds put out. A round is
a relation, so a round that never ends has no result, and neither has the loop.
There is no budget: a loop ends when it has a result. -/

variable {State Output : Type}

inductive While (test : State → Prop)
    (round : State → List Output → State → Prop) :
    State → List Output → State → Prop where
  | done {state : State} (ended : ¬ test state) :
      While test round state [] state
  | more {state next last : State} {out later : List Output}
      (goes : test state) (here : round state out next)
      (rest : While test round next later last) :
      While test round state (out ++ later) last

def Ends (test : State → Prop) (round : State → List Output → State → Prop)
    (state : State) : Prop :=
  ∃ out last, While test round state out last

/-- A round that always ends, with what it computes. -/
def computed (emit : State → List Output) (next : State → State)
    (state : State) (out : List Output) (after : State) : Prop :=
  out = emit state ∧ after = next state

def Functional (round : State → List Output → State → Prop) : Prop :=
  ∀ state out next other otherNext, round state out next →
    round state other otherNext → out = other ∧ next = otherNext

theorem computed_functional (emit : State → List Output)
    (next : State → State) : Functional (computed emit next) := by
  rintro state _ _ _ _ ⟨rfl, rfl⟩ ⟨rfl, rfl⟩
  exact ⟨rfl, rfl⟩

variable {test : State → Prop} {round : State → List Output → State → Prop}

theorem While.unique (functional : Functional round) {state last other : State}
    {out others : List Output} (ran : While test round state out last)
    (again : While test round state others other) :
    out = others ∧ last = other := by
  induction ran generalizing others other with
  | done ended =>
      cases again with
      | done => exact ⟨rfl, rfl⟩
      | more goes => exact absurd goes ended
  | more goes here rest ih =>
      cases again with
      | done ended => exact absurd goes ended
      | more _ there others =>
          obtain ⟨rfl, rfl⟩ := functional _ _ _ _ _ here there
          obtain ⟨rfl, rfl⟩ := ih others
          exact ⟨rfl, rfl⟩

/-- A loop whose test is always true has no result. -/
theorem not_ends (goes : ∀ state, test state) (state : State) :
    ¬ Ends test round state := by
  rintro ⟨out, last, ran⟩
  induction ran with
  | @done state ended => exact ended (goes state)
  | more _ _ _ ih => exact ih

/-- A loop of computed rounds ends after as many as its test allows. -/
theorem while_count {emit : State → List Output} {next : State → State}
    (count : Nat) {state : State}
    (goes : ∀ k < count, test (next^[k] state))
    (ended : ¬ test (next^[count] state)) :
    While test (computed emit next) state
      ((List.range count).flatMap fun k => emit (next^[k] state))
      (next^[count] state) := by
  induction count generalizing state with
  | zero => exact .done ended
  | succ count ih =>
      rw [List.range_succ_eq_map, List.flatMap_cons, List.flatMap_map]
      refine .more (goes 0 (Nat.succ_pos count)) ⟨rfl, rfl⟩ ?_
      exact ih (fun k below => goes (k + 1) (Nat.succ_lt_succ below)) ended

/-- A partial function computes a relation with one result at most when its
results are results, and when there are none where it has none. -/
theorem result_iff {Result : Type} {Runs : Result → Prop}
    {computes : Option Result}
    (unique : ∀ result other, Runs result → Runs other → result = other)
    (sound : ∀ result, computes = some result → Runs result)
    (endless : computes = none → ∀ result, ¬ Runs result) (result : Result) :
    Runs result ↔ computes = some result := by
  constructor
  · intro ran
    cases found : computes with
    | none => exact absurd ran (endless found result)
    | some other => rw [unique result other ran (sound other found)]
  · exact sound result

end Ch32v307.Data.Loop
