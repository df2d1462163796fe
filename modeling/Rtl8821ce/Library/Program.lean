import Mathlib.Algebra.Group.Int.Defs
import Mathlib.Algebra.GroupWithZero.Nat
import Mathlib.Tactic.Common

/-!
# Programs with a state and early returns

A program changes a state and returns a value, or stops early with an error and
keeps the state it had reached.  Besides the equations of the monad there are
two kinds of rules: how a successful run of a sequence comes apart, and how a
part of the state is seen to be left alone whatever the outcome.
-/

universe u v

/-- A computation on states of type `σ` that may stop with an error of type `ε`. -/
def Program (σ ε α : Type u) : Type u := σ -> Except ε α × σ

namespace Program

variable {σ ε α β γ : Type u}

protected def pure (value : α) : Program σ ε α := fun state => (.ok value, state)

protected def bind (first : Program σ ε α) (rest : α -> Program σ ε β) : Program σ ε β :=
  fun state =>
    match first state with
    | (.ok value, next) => rest value next
    | (.error code, next) => (.error code, next)

instance : Monad (Program σ ε) where
  pure := Program.pure
  bind := Program.bind

/-- Stop with an error. -/
def stop (code : ε) : Program σ ε α := fun state => (.error code, state)

/-- Read the state. -/
def get : Program σ ε σ := fun state => (.ok state, state)

/-- Change the state. -/
def update (change : σ -> σ) : Program σ ε PUnit := fun state => (.ok ⟨⟩, change state)

/-- Stop with an error unless the condition holds. -/
def require (condition : Bool) (code : ε) : Program σ ε PUnit :=
  if condition then pure ⟨⟩ else stop code

@[simp] theorem pure_apply (value : α) (state : σ) :
    (pure value : Program σ ε α) state = (.ok value, state) := rfl

@[simp] theorem stop_apply (code : ε) (state : σ) :
    (stop code : Program σ ε α) state = (.error code, state) := rfl

@[simp] theorem get_apply (state : σ) : (get : Program σ ε σ) state = (.ok state, state) := rfl

@[simp] theorem update_apply (change : σ -> σ) (state : σ) :
    (update change : Program σ ε PUnit) state = (.ok ⟨⟩, change state) := rfl

@[simp] theorem require_true (code : ε) : (require true code : Program σ ε PUnit) = pure ⟨⟩ := rfl

@[simp] theorem require_false (code : ε) : (require false code : Program σ ε PUnit) = stop code := rfl

theorem bind_apply (first : Program σ ε α) (rest : α -> Program σ ε β) (state : σ) :
    (first >>= rest) state =
      match first state with
      | (.ok value, next) => rest value next
      | (.error code, next) => (.error code, next) := rfl

theorem require_bind_apply (condition : Bool) (code : ε) (rest : PUnit -> Program σ ε α) (state : σ) :
    ((require condition code : Program σ ε PUnit) >>= rest) state =
      if condition then rest ⟨⟩ state else (.error code, state) := by
  cases condition <;> rfl

theorem bind_of_ok {first : Program σ ε α} {rest : α -> Program σ ε β} {state next : σ} {value : α}
    (success : first state = (.ok value, next)) : (first >>= rest) state = rest value next := by
  rw [bind_apply, success]

theorem bind_of_error {first : Program σ ε α} {rest : α -> Program σ ε β} {state next : σ} {code : ε}
    (failure : first state = (.error code, next)) : (first >>= rest) state = (.error code, next) := by
  rw [bind_apply, failure]

theorem bind_assoc (first : Program σ ε α) (second : α -> Program σ ε β) (third : β -> Program σ ε γ) :
    (first >>= second) >>= third = first >>= fun value => second value >>= third := by
  funext state
  rw [bind_apply, bind_apply, bind_apply]
  cases first state with
  | mk answer next => cases answer <;> rfl

/-- A sequence succeeds when its parts do, one after the other. -/
theorem bind_eq_ok {first : Program σ ε α} {rest : α -> Program σ ε β} {state final : σ} {result : β} :
    (first >>= rest) state = (.ok result, final) <->
      ∃ value, ∃ next,
        first state = (.ok value, next) ∧ rest value next = (.ok result, final) := by
  rw [bind_apply]
  constructor
  · intro success
    cases outcome : first state with
    | mk answer next =>
        rw [outcome] at success
        cases answer with
        | ok value => exact ⟨value, next, rfl, success⟩
        | error code => cases success
  · intro ⟨value, next, head, tail⟩
    rw [head]
    exact tail

/-- Whether a run succeeds. -/
def Succeeds (program : Program σ ε α) (state : σ) : Prop :=
  ∃ value, (program state).1 = .ok value

theorem succeeds_iff {program : Program σ ε α} {state : σ} :
    program.Succeeds state <->
      ∃ value final, program state = (.ok value, final) :=
  ⟨fun ⟨value, success⟩ => ⟨value, (program state).2, Prod.ext success rfl⟩,
    fun ⟨value, _, success⟩ => ⟨value, congrArg Prod.fst success⟩⟩

theorem require_eq_ok {condition : Bool} {code : ε} {state final : σ} {value : PUnit} :
    (require condition code : Program σ ε PUnit) state = (.ok value, final) <->
      condition = true ∧ final = state := by
  cases condition with
  | true =>
      rw [require_true, pure_apply]
      exact ⟨fun same => ⟨rfl, (congrArg Prod.snd same).symm⟩, fun same => by rw [same.2]⟩
  | false =>
      rw [require_false, stop_apply]
      exact ⟨fun same => (nomatch congrArg Prod.fst same), fun same => (nomatch same.1)⟩

theorem get_bind_eq_ok {rest : σ -> Program σ ε α} {state final : σ} {result : α} :
    (get >>= rest) state = (.ok result, final) <-> rest state state = (.ok result, final) := Iff.rfl

theorem require_bind_eq_ok {condition : Bool} {code : ε} {rest : PUnit -> Program σ ε α}
    {state final : σ} {result : α} :
    ((require condition code : Program σ ε PUnit) >>= rest) state = (.ok result, final) <->
      condition = true ∧ rest ⟨⟩ state = (.ok result, final) := by
  cases condition with
  | true => exact ⟨fun success => ⟨rfl, success⟩, fun success => success.2⟩
  | false => exact ⟨fun success => (nomatch congrArg Prod.fst success), fun success => (nomatch success.1)⟩

/-- A run that does not succeed has an error. -/
theorem error_of_not_succeeds {program : Program σ ε α} {state : σ} (failure : ¬ program.Succeeds state) :
    ∃ code final, program state = (.error code, final) := by
  cases outcome : program state with
  | mk answer final =>
      cases answer with
      | ok value => exact absurd (succeeds_iff.mpr ⟨value, final, outcome⟩) failure
      | error code => exact ⟨code, final, rfl⟩

/-! ## Which runs succeed -/

@[simp] theorem succeeds_pure (value : α) (state : σ) : (pure value : Program σ ε α).Succeeds state :=
  ⟨value, rfl⟩

@[simp] theorem succeeds_stop (code : ε) (state : σ) : (stop code : Program σ ε α).Succeeds state <-> False :=
  ⟨fun ⟨_, success⟩ => (nomatch success), False.elim⟩

@[simp] theorem succeeds_pure_bind {value : α} {rest : α -> Program σ ε β} {state : σ} :
    ((pure value : Program σ ε α) >>= rest).Succeeds state <-> (rest value).Succeeds state := Iff.rfl

theorem succeeds_bind_of_ok {first : Program σ ε α} {rest : α -> Program σ ε β} {state next : σ} {value : α}
    (success : first state = (.ok value, next)) : (first >>= rest).Succeeds state <-> (rest value).Succeeds next := by
  unfold Succeeds
  rw [bind_of_ok success]

@[simp] theorem succeeds_get_bind {rest : σ -> Program σ ε α} {state : σ} :
    (get >>= rest).Succeeds state <-> (rest state).Succeeds state := Iff.rfl

@[simp] theorem succeeds_update_bind {change : σ -> σ} {rest : PUnit -> Program σ ε α} {state : σ} :
    (update change >>= rest).Succeeds state <-> (rest ⟨⟩).Succeeds (change state) := Iff.rfl

@[simp] theorem succeeds_require_bind {condition : Bool} {code : ε} {rest : PUnit -> Program σ ε α} {state : σ} :
    ((require condition code : Program σ ε PUnit) >>= rest).Succeeds state <->
      condition = true ∧ (rest ⟨⟩).Succeeds state := by
  cases condition with
  | true => exact ⟨fun success => ⟨rfl, success⟩, fun success => success.2⟩
  | false => exact ⟨fun ⟨_, success⟩ => (nomatch success), fun success => (nomatch success.1)⟩

/-- A part that does not succeed stops the sequence. -/
theorem succeeds_head {first : Program σ ε α} {rest : α -> Program σ ε β} {state : σ}
    (success : (first >>= rest).Succeeds state) : first.Succeeds state := by
  rcases succeeds_iff.mp success with ⟨_, _, ran⟩
  rcases bind_eq_ok.mp ran with ⟨value, next, head, _⟩
  exact succeeds_iff.mpr ⟨value, next, head⟩

/-! ## Conditions for success

A program with a bound on its loops may stop for want of it only.  A condition decides
it when each run that succeeds shows the condition, and the condition and enough of a
bound make it succeed. -/

structure Decides (enough : Prop) (program : Program σ ε α) (state : σ) (condition : Prop) : Prop where
  shows : program.Succeeds state -> condition
  achieves : enough -> condition -> program.Succeeds state

theorem Decides.of_iff {enough : Prop} {program : Program σ ε α} {state : σ} {condition : Prop}
    (same : program.Succeeds state <-> condition) : Decides enough program state condition :=
  ⟨same.mp, fun _ => same.mpr⟩

theorem Decides.congr {enough : Prop} {program : Program σ ε α} {state : σ} {condition other : Prop}
    (decides : Decides enough program state condition) (same : condition <-> other) :
    Decides enough program state other :=
  ⟨fun success => same.mp (decides.shows success), fun more holds => decides.achieves more (same.mpr holds)⟩

/-- The second part matters after the first has succeeded. -/
theorem Decides.bind {enough : Prop} {first : Program σ ε α} {rest : α -> Program σ ε β} {state : σ}
    {here later : Prop} (head : Decides enough first state here)
    (tail : ∀ value next, first state = (.ok value, next) -> Decides enough (rest value) next later) :
    Decides enough (first >>= rest) state (here ∧ later) := by
  constructor
  · intro success
    rcases succeeds_iff.mp success with ⟨_, _, ran⟩
    rcases bind_eq_ok.mp ran with ⟨value, next, ended, onward⟩
    exact ⟨head.shows (succeeds_iff.mpr ⟨value, next, ended⟩),
      (tail value next ended).shows (succeeds_iff.mpr ⟨_, _, onward⟩)⟩
  · intro more both
    rcases succeeds_iff.mp (head.achieves more both.1) with ⟨value, next, ended⟩
    exact (succeeds_bind_of_ok ended).mpr ((tail value next ended).achieves more both.2)

/-- What decides the first part lets the second succeed as well. -/
theorem Decides.bind_ends {enough : Prop} {first : Program σ ε α} {rest : α -> Program σ ε β} {state : σ}
    {condition : Prop} (head : Decides enough first state condition)
    (tail : ∀ value next, first state = (.ok value, next) -> enough -> condition -> (rest value).Succeeds next) :
    Decides enough (first >>= rest) state condition := by
  refine ⟨fun success => head.shows (succeeds_head success), fun more holds => ?_⟩
  rcases succeeds_iff.mp (head.achieves more holds) with ⟨value, next, ended⟩
  exact (succeeds_bind_of_ok ended).mpr (tail value next ended more holds)

theorem Decides.update_bind {enough : Prop} {change : σ -> σ} {rest : PUnit -> Program σ ε α} {state : σ}
    {condition : Prop} (tail : Decides enough (rest ⟨⟩) (change state) condition) :
    Decides enough (update change >>= rest) state condition :=
  ⟨fun success => tail.shows success, fun more holds => tail.achieves more holds⟩

/-- Some bound is enough exactly when the condition holds. -/
theorem exists_succeeds_iff {enough : Nat -> Prop} {program : Nat -> Program σ ε α} {state : σ} {condition : Prop}
    {bound : Nat} (reached : enough bound) (decides : ∀ fuel, Decides (enough fuel) (program fuel) state condition) :
    (∃ fuel, (program fuel).Succeeds state) <-> condition :=
  ⟨fun ⟨fuel, success⟩ => (decides fuel).shows success, fun holds => ⟨bound, (decides bound).achieves reached holds⟩⟩

/-- The part of the state seen through `view` is the same after every run,
successful or not. -/
def Keeps (view : σ -> γ) (program : Program σ ε α) : Prop :=
  ∀ state, view (program state).2 = view state

theorem keeps_pure (view : σ -> γ) (value : α) : Keeps view (pure value : Program σ ε α) :=
  fun _ => rfl

theorem keeps_stop (view : σ -> γ) (code : ε) : Keeps view (stop code : Program σ ε α) :=
  fun _ => rfl

theorem keeps_get (view : σ -> γ) : Keeps view (get : Program σ ε σ) := fun _ => rfl

theorem keeps_update {view : σ -> γ} {change : σ -> σ} (same : ∀ state, view (change state) = view state) :
    Keeps view (update change : Program σ ε PUnit) := same

theorem keeps_require (view : σ -> γ) (condition : Bool) (code : ε) :
    Keeps view (require condition code : Program σ ε PUnit) := by
  cases condition with
  | true => exact keeps_pure view _
  | false => exact keeps_stop view code

theorem Keeps.bind {view : σ -> γ} {first : Program σ ε α} {rest : α -> Program σ ε β}
    (head : Keeps view first) (tail : ∀ value, Keeps view (rest value)) : Keeps view (first >>= rest) := by
  intro state
  have kept := head state
  rw [bind_apply]
  cases outcome : first state with
  | mk answer next =>
      rw [outcome] at kept
      cases answer with
      | ok value => exact (tail value next).trans kept
      | error code => exact kept

theorem keeps_ite {view : σ -> γ} {condition : Prop} [Decidable condition]
    {first second : Program σ ε α} (yes : Keeps view first) (no : Keeps view second) :
    Keeps view (if condition then first else second) := by
  by_cases holds : condition
  · rw [if_pos holds]
    exact yes
  · rw [if_neg holds]
    exact no

/-! ## Invariants -/

/-- The invariant survives every run, successful or not. -/
def Maintains (invariant : σ -> Prop) (program : Program σ ε α) : Prop :=
  ∀ state, invariant state -> invariant (program state).2

theorem maintains_pure (invariant : σ -> Prop) (value : α) :
    Maintains invariant (pure value : Program σ ε α) := fun _ holds => holds

theorem maintains_stop (invariant : σ -> Prop) (code : ε) :
    Maintains invariant (stop code : Program σ ε α) := fun _ holds => holds

theorem maintains_get (invariant : σ -> Prop) : Maintains invariant (get : Program σ ε σ) :=
  fun _ holds => holds

theorem maintains_update {invariant : σ -> Prop} {change : σ -> σ}
    (maintains : ∀ state, invariant state -> invariant (change state)) :
    Maintains invariant (update change : Program σ ε PUnit) := maintains

theorem maintains_require (invariant : σ -> Prop) (condition : Bool) (code : ε) :
    Maintains invariant (require condition code : Program σ ε PUnit) := by
  cases condition with
  | true => exact maintains_pure invariant _
  | false => exact maintains_stop invariant code

/-- The rest of a sequence may use what the first part has found. -/
theorem Maintains.bind_of {invariant : σ -> Prop} {first : Program σ ε α} {rest : α -> Program σ ε β}
    (head : Maintains invariant first)
    (tail : ∀ state value next, invariant state -> first state = (.ok value, next) ->
      invariant next -> invariant (rest value next).2) :
    Maintains invariant (first >>= rest) := by
  intro state holds
  have still := head state holds
  rw [bind_apply]
  cases outcome : first state with
  | mk answer next =>
      rw [outcome] at still
      cases answer with
      | ok value => exact tail state value next holds outcome still
      | error code => exact still

theorem Maintains.bind {invariant : σ -> Prop} {first : Program σ ε α} {rest : α -> Program σ ε β}
    (head : Maintains invariant first) (tail : ∀ value, Maintains invariant (rest value)) :
    Maintains invariant (first >>= rest) :=
  head.bind_of (fun _ value next _ _ still => tail value next still)

/-- From one state: what holds after the first part survives the rest. -/
theorem holds_bind {invariant : σ -> Prop} {first : Program σ ε α} {rest : α -> Program σ ε β} {state : σ}
    (head : invariant (first state).2) (tail : ∀ value, Maintains invariant (rest value)) :
    invariant ((first >>= rest) state).2 := by
  rw [bind_apply]
  cases outcome : first state with
  | mk answer next =>
      rw [outcome] at head
      cases answer with
      | ok value => exact tail value next head
      | error code => exact head

theorem maintains_ite {invariant : σ -> Prop} {condition : Prop} [Decidable condition]
    {first second : Program σ ε α} (yes : Maintains invariant first) (no : Maintains invariant second) :
    Maintains invariant (if condition then first else second) := by
  by_cases holds : condition
  · rw [if_pos holds]
    exact yes
  · rw [if_neg holds]
    exact no

/-- From a good state the program succeeds, in a good state. -/
def RunsThrough (good : σ -> Prop) (program : Program σ ε α) : Prop :=
  ∀ state, good state ->
    ∃ value next, program state = (.ok value, next) ∧ good next

theorem runsThrough_pure (good : σ -> Prop) (value : α) : RunsThrough good (pure value : Program σ ε α) :=
  fun state holds => ⟨value, state, rfl, holds⟩

theorem runsThrough_update {good : σ -> Prop} {change : σ -> σ}
    (keeps : ∀ state, good state -> good (change state)) : RunsThrough good (update change : Program σ ε PUnit) :=
  fun state holds => ⟨⟨⟩, change state, rfl, keeps state holds⟩

theorem runsThrough_get (good : σ -> Prop) : RunsThrough good (get : Program σ ε σ) :=
  fun state holds => ⟨state, state, rfl, holds⟩

theorem RunsThrough.bind {good : σ -> Prop} {first : Program σ ε α} {rest : α -> Program σ ε β}
    (head : RunsThrough good first) (tail : ∀ value, RunsThrough good (rest value)) :
    RunsThrough good (first >>= rest) := by
  intro state holds
  rcases head state holds with ⟨value, next, ran, still⟩
  rw [bind_of_ok ran]
  exact tail value next still

theorem runsThrough_ite {good : σ -> Prop} {condition : Prop} [Decidable condition]
    {first second : Program σ ε α} (yes : RunsThrough good first) (no : RunsThrough good second) :
    RunsThrough good (if condition then first else second) := by
  by_cases holds : condition
  · rw [if_pos holds]
    exact yes
  · rw [if_neg holds]
    exact no

/-- A run that stops early stops with one of these errors. -/
def ErrorsIn (codes : ε -> Prop) (program : Program σ ε α) : Prop :=
  ∀ state code next, program state = (.error code, next) -> codes code

theorem errorsIn_pure (codes : ε -> Prop) (value : α) : ErrorsIn codes (pure value : Program σ ε α) :=
  fun _ _ _ failure => nomatch congrArg Prod.fst failure

theorem errorsIn_get (codes : ε -> Prop) : ErrorsIn codes (get : Program σ ε σ) :=
  fun _ _ _ failure => nomatch congrArg Prod.fst failure

theorem errorsIn_update (codes : ε -> Prop) (change : σ -> σ) : ErrorsIn codes (update change : Program σ ε PUnit) :=
  fun _ _ _ failure => nomatch congrArg Prod.fst failure

theorem errorsIn_require {codes : ε -> Prop} (condition : Bool) {code : ε} (known : codes code) :
    ErrorsIn codes (require condition code : Program σ ε PUnit) := by
  intro state other next failure
  cases condition with
  | true => exact nomatch congrArg Prod.fst failure
  | false =>
      rw [require_false, stop_apply, Prod.mk.injEq, Except.error.injEq] at failure
      exact failure.1 ▸ known

theorem ErrorsIn.bind {codes : ε -> Prop} {first : Program σ ε α} {rest : α -> Program σ ε β}
    (head : ErrorsIn codes first) (tail : ∀ value, ErrorsIn codes (rest value)) :
    ErrorsIn codes (first >>= rest) := by
  intro state code next failure
  rw [bind_apply] at failure
  cases outcome : first state with
  | mk answer middle =>
      rw [outcome] at failure
      cases answer with
      | ok value => exact tail value middle code next failure
      | error early =>
          rw [Prod.mk.injEq, Except.error.injEq] at failure
          exact failure.1 ▸ head state early middle outcome

theorem errorsIn_ite {codes : ε -> Prop} {condition : Prop} [Decidable condition]
    {first second : Program σ ε α} (yes : ErrorsIn codes first) (no : ErrorsIn codes second) :
    ErrorsIn codes (if condition then first else second) := by
  by_cases holds : condition
  · rw [if_pos holds]
    exact yes
  · rw [if_neg holds]
    exact no

section

variable {τ : Type u} {part : τ -> σ} {replace : σ -> τ -> τ}

/-- The program on a part of the state. -/
def onPart (part : τ -> σ) (replace : σ -> τ -> τ) (program : Program σ ε α) : Program τ ε α :=
  fun whole => ((program (part whole)).1, replace (program (part whole)).2 whole)

theorem onPart_of {program : Program σ ε α} {whole : τ} {answer : Except ε α} {next : σ}
    (ran : program (part whole) = (answer, next)) : onPart part replace program whole = (answer, replace next whole) := by
  rw [onPart, ran]

end

end Program
