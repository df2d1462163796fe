import Mathlib.Algebra.Group.Int.Defs
import Mathlib.Algebra.GroupWithZero.Nat
import Mathlib.Data.List.Basic

/-!
# Finite runs of a deterministic system

A system is a step function on states and operations.  A run feeds it a list of
operations, oldest first.  A condition on the single steps is kept apart from
the run itself: `Guarded` says that each operation meets the condition in the
state it is applied to, and the invariant rule needs the step lemma only for
operations that do.
-/

namespace Run

universe u v

variable {State : Type u} {Operation : Type v}

/-- The state after a list of operations. -/
def execute (step : State -> Operation -> State) (start : State) (operations : List Operation) : State :=
  operations.foldl step start

@[simp] theorem execute_nil (step : State -> Operation -> State) (start : State) :
    execute step start [] = start := rfl

@[simp] theorem execute_cons (step : State -> Operation -> State) (start : State)
    (operation : Operation) (rest : List Operation) :
    execute step start (operation :: rest) = execute step (step start operation) rest := rfl

theorem execute_append (step : State -> Operation -> State) (start : State) (first second : List Operation) :
    execute step start (first ++ second) = execute step (execute step start first) second :=
  List.foldl_append

/-- Every operation of the list meets `guard` in the state it is applied to. -/
def Guarded (step : State -> Operation -> State) (guard : State -> Operation -> Prop) :
    State -> List Operation -> Prop
  | _, [] => True
  | state, operation :: rest =>
      guard state operation ∧ Guarded step guard (step state operation) rest

/-- A run can be checked against a condition that can be decided. -/
instance decidableGuarded (step : State -> Operation -> State) (guard : State -> Operation -> Prop)
    [decide : ∀ state operation, Decidable (guard state operation)] :
    ∀ (start : State) (operations : List Operation),
      Decidable (Guarded step guard start operations)
  | _, [] => isTrue trivial
  | start, operation :: rest =>
      haveI := decidableGuarded step guard (step start operation) rest
      inferInstanceAs (Decidable (guard start operation ∧ Guarded step guard _ rest))

/-- A condition that does not look at the state is met all along the run. -/
theorem guarded_of_forall (step : State -> Operation -> State) (good : Operation -> Prop)
    (start : State) (operations : List Operation) (all : ∀ operation ∈ operations, good operation) :
    Guarded step (fun _ operation => good operation) start operations := by
  induction operations generalizing start with
  | nil => trivial
  | cons operation rest ih =>
      exact ⟨all operation List.mem_cons_self, ih _ (fun later member => all later (List.mem_cons_of_mem _ member))⟩

/-- Guards that agree on the operations agree on the runs. -/
theorem guarded_congr {step : State -> Operation -> State} {first second : State -> Operation -> Prop}
    (agree : ∀ state operation, first state operation <-> second state operation)
    (start : State) (operations : List Operation) :
    Guarded step first start operations <-> Guarded step second start operations := by
  induction operations generalizing start with
  | nil => exact Iff.rfl
  | cons operation rest ih =>
      exact and_congr (agree start operation) (ih _)

/-- Two conditions on the same run. -/
theorem Guarded.and {step : State -> Operation -> State} {first second : State -> Operation -> Prop}
    {start : State} {operations : List Operation} (one : Guarded step first start operations)
    (two : Guarded step second start operations) :
    Guarded step (fun state operation => first state operation ∧ second state operation) start
      operations := by
  induction operations generalizing start with
  | nil => trivial
  | cons operation rest ih =>
      exact ⟨⟨one.1, two.1⟩, ih one.2 two.2⟩

/-- The invariant rule.  Every prefix of a guarded run is guarded, so the
conclusion holds in each state the run reaches. -/
theorem Guarded.invariant {step : State -> Operation -> State}
    {guard : State -> Operation -> Prop} {Invariant : State -> Prop} (preserved : ∀ state operation,
      guard state operation -> Invariant state -> Invariant (step state operation))
    {start : State} {operations : List Operation}
    (guarded : Guarded step guard start operations) (initial : Invariant start) :
    Invariant (execute step start operations) := by
  induction operations generalizing start with
  | nil => exact initial
  | cons operation rest ih =>
      exact ih guarded.2 (preserved start operation guarded.1 initial)

/-- Along a guarded run each operation meets whatever the guard and an invariant
imply at the state it is applied to. -/
theorem Guarded.of_invariant {step : State -> Operation -> State}
    {guard promise : State -> Operation -> Prop} {Invariant : State -> Prop} (preserved : ∀ state operation,
      guard state operation -> Invariant state -> Invariant (step state operation))
    (promised : ∀ state operation,
      guard state operation -> Invariant state -> promise state operation)
    {start : State} {operations : List Operation}
    (guarded : Guarded step guard start operations) (initial : Invariant start) :
    Guarded step promise start operations := by
  induction operations generalizing start with
  | nil => trivial
  | cons operation rest ih =>
      exact ⟨promised start operation guarded.1 initial, ih guarded.2 (preserved start operation guarded.1 initial)⟩

/-- When a step keeps the invariant exactly under the guard, the states of a run
all have the invariant exactly when the run is guarded. -/
theorem guarded_iff_invariant {step : State -> Operation -> State}
    {guard : State -> Operation -> Prop} {Invariant : State -> Prop} (exact : ∀ state operation, Invariant state ->
      (Invariant (step state operation) <-> guard state operation))
    {start : State} (initial : Invariant start) (operations : List Operation) :
    (∀ done, done <+: operations -> Invariant (execute step start done)) <->
      Guarded step guard start operations := by
  induction operations generalizing start with
  | nil =>
      refine iff_of_true (fun done before => ?_) trivial
      rw [List.prefix_nil.mp before]
      exact initial
  | cons operation rest ih =>
      constructor
      · intro all
        have next : Invariant (step start operation) := all [operation] ⟨rest, rfl⟩
        refine ⟨(exact start operation initial).mp next, (ih next).mp ?_⟩
        intro done before
        exact all (operation :: done) (List.cons_prefix_cons.mpr ⟨rfl, before⟩)
      · intro guarded done before
        have next := (exact start operation initial).mpr guarded.1
        cases done with
        | nil => exact initial
        | cons first later =>
            rcases List.cons_prefix_cons.mp before with ⟨same, behind⟩
            rw [same]
            exact (ih next).mpr guarded.2 later behind

/-- The invariant may say more than what is promised of the states.  When the guard keeps the
invariant, and the promise of the next state needs the guard, the states of a run all have what
is promised exactly when the run is guarded. -/
theorem guarded_iff_promised {step : State -> Operation -> State}
    {guard : State -> Operation -> Prop} {Invariant Promised : State -> Prop}
    (implies : ∀ state, Invariant state -> Promised state) (preserved : ∀ state operation,
      guard state operation -> Invariant state -> Invariant (step state operation))
    (needed : ∀ state operation, Invariant state -> Promised (step state operation) ->
      guard state operation)
    {start : State} (initial : Invariant start) (operations : List Operation) :
    (∀ done, done <+: operations -> Promised (execute step start done)) <->
      Guarded step guard start operations := by
  constructor
  · induction operations generalizing start with
    | nil => exact fun _ => trivial
    | cons operation rest ih =>
        intro all
        have meets : guard start operation := needed start operation initial (all [operation] ⟨rest, rfl⟩)
        refine ⟨meets, ih (preserved start operation meets initial) ?_⟩
        intro done before
        exact all (operation :: done) (List.cons_prefix_cons.mpr ⟨rfl, before⟩)
  · induction operations generalizing start with
    | nil =>
        intro _ done before
        rw [List.prefix_nil.mp before]
        exact implies start initial
    | cons operation rest ih =>
        intro guarded done before
        cases done with
        | nil => exact implies start initial
        | cons first later =>
            rcases List.cons_prefix_cons.mp before with ⟨same, behind⟩
            rw [same]
            exact ih (preserved start operation guarded.1 initial) guarded.2 later behind

end Run
