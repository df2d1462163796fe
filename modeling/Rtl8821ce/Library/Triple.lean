import Rtl8821ce.Library.Program

/-!
# Pre- and postconditions of programs

A triple says what holds after a run that succeeds, for its value, and what holds after one
that stops early.  There is one rule for each way to build a program.
-/

universe u

namespace Program

variable {σ ε α β : Type u}

/-- From a state with the precondition, a run ends as the other two conditions say. -/
def Triple (pre : σ -> Prop) (program : Program σ ε α) (post : α -> σ -> Prop) (failed : σ -> Prop) : Prop :=
  ∀ state, pre state ->
    (∀ value next, program state = (.ok value, next) -> post value next) ∧
      ∀ code next, program state = (.error code, next) -> failed next

variable {pre : σ -> Prop} {post : α -> σ -> Prop} {failed : σ -> Prop}

theorem triple_pure {value : α} (holds : ∀ state, pre state -> post value state) :
    Triple pre (pure value : Program σ ε α) post failed := by
  intro state before
  refine ⟨fun result next success => ?_, fun _ _ failure => nomatch congrArg Prod.fst failure⟩
  cases success
  exact holds state before

theorem triple_stop (code : ε) (holds : ∀ state, pre state -> failed state) :
    Triple pre (stop code : Program σ ε α) post failed := by
  intro state before
  refine ⟨fun _ _ success => (nomatch congrArg Prod.fst success), fun other next failure => ?_⟩
  cases failure
  exact holds state before

theorem triple_get {post : σ -> σ -> Prop} (holds : ∀ state, pre state -> post state state) :
    Triple pre (get : Program σ ε σ) post failed := by
  intro state before
  refine ⟨fun result next success => ?_, fun _ _ failure => nomatch congrArg Prod.fst failure⟩
  cases success
  exact holds state before

theorem triple_update {change : σ -> σ} {post : PUnit -> σ -> Prop}
    (holds : ∀ state, pre state -> post ⟨⟩ (change state)) :
    Triple pre (update change : Program σ ε PUnit) post failed := by
  intro state before
  refine ⟨fun result next success => ?_, fun _ _ failure => nomatch congrArg Prod.fst failure⟩
  cases success
  exact holds state before

theorem triple_require {condition : Bool} {code : ε} {post : PUnit -> σ -> Prop}
    (yes : condition = true -> ∀ state, pre state -> post ⟨⟩ state)
    (no : condition = false -> ∀ state, pre state -> failed state) :
    Triple pre (require condition code : Program σ ε PUnit) post failed := by
  cases condition with
  | true => exact triple_pure (yes rfl)
  | false => exact triple_stop code (no rfl)

/-- The first part hands its postcondition to the rest. -/
theorem Triple.bind {first : Program σ ε α} {rest : α -> Program σ ε β} {final : β -> σ -> Prop}
    (head : Triple pre first post failed) (tail : ∀ value, Triple (post value) (rest value) final failed) :
    Triple pre (first >>= rest) final failed := by
  intro state before
  obtain ⟨succeeds, stops⟩ := head state before
  rw [bind_apply]
  cases outcome : first state with
  | mk answer middle =>
      cases answer with
      | ok value => exact tail value middle (succeeds value middle outcome)
      | error early =>
          refine ⟨fun _ _ success => (nomatch congrArg Prod.fst success), fun code next failure => ?_⟩
          cases failure
          exact stops early middle outcome

/-- Behind a check its condition is known. -/
theorem triple_require_bind {condition : Bool} {code : ε} {rest : PUnit -> Program σ ε α}
    (yes : condition = true -> Triple pre (rest ⟨⟩) post failed) (no : ∀ state, pre state -> failed state) :
    Triple pre (require condition code >>= rest) post failed := by
  cases condition with
  | true => exact yes rfl
  | false =>
      intro state before
      refine ⟨fun _ _ success => (nomatch congrArg Prod.fst success), fun other next failure => ?_⟩
      cases failure
      exact no state before

theorem Triple.weaken {stronger : σ -> Prop} {weaker : α -> σ -> Prop} {program : Program σ ε α}
    (triple : Triple pre program post failed) (before : ∀ state, stronger state -> pre state)
    (after : ∀ value state, post value state -> weaker value state) : Triple stronger program weaker failed :=
  fun state holds => ⟨fun value next success => after value next ((triple state (before state holds)).1 value next success),
    (triple state (before state holds)).2⟩

/-- Of the values of a precondition each may be treated by itself. -/
theorem triple_exists {ι : Sort*} {cases : ι -> σ -> Prop} {program : Program σ ε α}
    (each : ∀ i, Triple (cases i) program post failed) :
    Triple (fun state => ∃ i, cases i state) program post failed :=
  fun state ⟨i, holds⟩ => each i state holds

/-- A precondition may hold a fact that is not about the state. -/
theorem triple_of_fact {fact : Prop} {program : Program σ ε α} (known : fact -> Triple pre program post failed) :
    Triple (fun state => fact ∧ pre state) program post failed :=
  fun state ⟨holds, before⟩ => known holds state before

/-- An invariant is its own postcondition, whatever the outcome. -/
theorem triple_iff_maintains {invariant : σ -> Prop} {program : Program σ ε α} :
    Triple invariant program (fun _ => invariant) invariant <-> Maintains invariant program := by
  constructor
  · intro triple state holds
    have ⟨succeeds, fails⟩ := triple state holds
    cases outcome : program state with
    | mk answer next =>
        cases answer with
        | ok value => exact succeeds value next outcome
        | error code => exact fails code next outcome
  · intro maintains state holds
    have after := maintains state holds
    exact ⟨fun _ _ success => by rwa [success] at after, fun _ _ failure => by rwa [failure] at after⟩

theorem triple_ite {condition : Prop} [Decidable condition] {first second : Program σ ε α}
    (yes : condition -> Triple pre first post failed) (no : ¬condition -> Triple pre second post failed) :
    Triple pre (if condition then first else second) post failed := by
  by_cases holds : condition
  · rw [if_pos holds]
    exact yes holds
  · rw [if_neg holds]
    exact no holds

end Program
