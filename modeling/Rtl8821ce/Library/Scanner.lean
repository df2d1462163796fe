import Mathlib.Algebra.Group.Int.Defs
import Mathlib.Algebra.GroupWithZero.Nat
import Mathlib.Logic.Relation
import Mathlib.Tactic.Common

/-!
# Loops that scan a memory

A loop body either goes on with another state or ends with a result.  The loop
runs the body with a bound on the iterations; a measure that each iteration
decreases makes the bound immaterial.  What a scan has passed is a chain of
iterations, and the rest of the scan depends on the state it has reached only.
-/

namespace Scanner

universe u v

variable {State : Type u} {Result : Type v}

/-- What one iteration of a loop leaves. -/
inductive Iteration (State : Type u) (Result : Type v)
  | more (state : State)
  | done (result : Result)

/-- Run the loop for at most the given number of iterations. -/
def scan (body : State -> Iteration State Result) : Nat -> State -> Option Result
  | 0, _ => none
  | fuel + 1, state =>
      match body state with
      | .done result => some result
      | .more next => scan body fuel next

/-- The states in which the iterations start, for at most the given number of them. -/
def visited (body : State -> Iteration State Result) : Nat -> State -> List State
  | 0, _ => []
  | fuel + 1, state =>
      state ::
        match body state with
        | .done _ => []
        | .more next => visited body fuel next

/-- The loop goes from one state to another. -/
def Passes (body : State -> Iteration State Result) : State -> State -> Prop :=
  Relation.ReflTransGen (fun state next => body state = .more next)

theorem scan_done {body : State -> Iteration State Result} {state : State} {result : Result}
    (done : body state = .done result) (fuel : Nat) : scan body (fuel + 1) state = some result := by
  rw [scan, done]

theorem scan_more {body : State -> Iteration State Result} {state next : State}
    (more : body state = .more next) (fuel : Nat) : scan body (fuel + 1) state = scan body fuel next := by
  rw [scan, more]

/-- A loop that decreases a measure ends within that many iterations, and more
of them change nothing. -/
theorem scan_enough {body : State -> Iteration State Result} (measure : State -> Nat)
    (decreases : ∀ state next, body state = .more next -> measure next < measure state)
    {state : State} {first second : Nat} (enough : measure state < first)
    (alsoEnough : measure state < second) : scan body first state = scan body second state := by
  induction first generalizing state second with
  | zero => exact absurd enough (Nat.not_lt_zero _)
  | succ fuel ih =>
      cases second with
      | zero => exact absurd alsoEnough (Nat.not_lt_zero _)
      | succ other =>
          cases iteration : body state with
          | done result => rw [scan_done iteration, scan_done iteration]
          | more next =>
              have smaller := decreases state next iteration
              rw [scan_more iteration, scan_more iteration]
              exact ih (by omega) (by omega)

/-- With enough fuel a scan that has passed some states goes on from the last. -/
theorem scan_passes {body : State -> Iteration State Result} (measure : State -> Nat)
    (decreases : ∀ state next, body state = .more next -> measure next < measure state)
    {state later : State} (passes : Passes body state later) {fuel : Nat}
    (enough : measure state < fuel) : scan body fuel state = scan body fuel later := by
  induction passes using Relation.ReflTransGen.head_induction_on with
  | refl => rfl
  | head iteration _ ih =>
      have smaller := decreases _ _ iteration
      cases fuel with
      | zero => exact absurd enough (Nat.not_lt_zero _)
      | succ rest =>
          rw [scan_more iteration, ← ih (by omega)]
          exact scan_enough measure decreases (by omega) (by omega)

/-- A scan with a result has passed to a state where the loop ends with it. -/
theorem passes_of_scan {body : State -> Iteration State Result} {fuel : Nat} {state : State}
    {result : Result} (success : scan body fuel state = some result) :
    ∃ later, Passes body state later ∧ body later = .done result := by
  induction fuel generalizing state with
  | zero => cases success
  | succ fuel ih =>
      cases iteration : body state with
      | done found =>
          rw [scan_done iteration, Option.some.injEq] at success
          exact ⟨state, Relation.ReflTransGen.refl, success ▸ iteration⟩
      | more next =>
          rw [scan_more iteration] at success
          rcases ih success with ⟨later, passes, done⟩
          exact ⟨later, passes.head iteration, done⟩

/-- A scan that decreases a measure has a result. -/
theorem exists_scan {body : State -> Iteration State Result} (measure : State -> Nat)
    (decreases : ∀ state next, body state = .more next -> measure next < measure state)
    {state : State} {fuel : Nat} (enough : measure state < fuel) : ∃ result, scan body fuel state = some result := by
  induction fuel generalizing state with
  | zero => exact absurd enough (Nat.not_lt_zero _)
  | succ fuel ih =>
      cases iteration : body state with
      | done result => exact ⟨result, scan_done iteration fuel⟩
      | more next =>
          have smaller := decreases state next iteration
          rw [scan_more iteration]
          exact ih (by omega)

theorem visited_more {body : State -> Iteration State Result} {state next : State}
    (more : body state = .more next) (fuel : Nat) :
    visited body (fuel + 1) state = state :: visited body fuel next := by
  rw [visited, more]

theorem visited_done {body : State -> Iteration State Result} {state : State} {result : Result}
    (done : body state = .done result) (fuel : Nat) : visited body (fuel + 1) state = [state] := by
  rw [visited, done]

/-- With enough fuel the states visited are those that the loop goes to. -/
theorem mem_visited {body : State -> Iteration State Result} (measure : State -> Nat)
    (decreases : ∀ state next, body state = .more next -> measure next < measure state)
    {fuel : Nat} {state later : State} (enough : measure state < fuel) :
    later ∈ visited body fuel state <-> Passes body state later := by
  induction fuel generalizing state with
  | zero => exact absurd enough (Nat.not_lt_zero _)
  | succ fuel ih =>
      cases iteration : body state with
      | done result =>
          rw [visited_done iteration, List.mem_singleton]
          constructor
          · intro same
            exact same ▸ Relation.ReflTransGen.refl
          · intro passes
            rcases Relation.ReflTransGen.cases_head passes with same | ⟨next, goes, _⟩
            · exact same.symm
            · rw [iteration] at goes
              cases goes
      | more next =>
          have smaller := decreases state next iteration
          rw [visited_more iteration, List.mem_cons, ih (by omega)]
          constructor
          · intro found
            rcases found with same | passes
            · exact same ▸ Relation.ReflTransGen.refl
            · exact passes.head iteration
          · intro passes
            rcases Relation.ReflTransGen.cases_head passes with same | ⟨other, goes, rest⟩
            · exact Or.inl same.symm
            · rw [iteration, Iteration.more.injEq] at goes
              exact Or.inr (goes ▸ rest)

/-- Something holds in every state the loop goes to. -/
def Throughout (body : State -> Iteration State Result) (good : State -> Prop) (state : State) : Prop :=
  ∀ later, Passes body state later -> good later

/-- One iteration and the rest of the loop. -/
theorem throughout_iff {body : State -> Iteration State Result} {good : State -> Prop} {state : State} :
    Throughout body good state <->
      good state ∧ ∀ next, body state = .more next -> Throughout body good next := by
  constructor
  · intro all
    exact ⟨all state Relation.ReflTransGen.refl, fun next goes later passes =>
      all later (passes.head goes)⟩
  · intro ⟨here, rest⟩ later passes
    rcases Relation.ReflTransGen.cases_head passes with same | ⟨next, goes, onward⟩
    · exact same ▸ here
    · exact rest next goes later onward

/-- What holds of the results of a loop and of all states visited holds throughout it. -/
theorem throughout_iff_scan {body : State -> Iteration State Result} {measure : State -> Nat}
    (decreases : ∀ state next, body state = .more next -> measure next < measure state)
    {promise : Result -> Prop} {kept : State -> Prop} {fuel : Nat} {state : State} (enough : measure state < fuel) :
    ((∃ result, scan body fuel state = some result ∧ promise result) ∧
        ∀ later ∈ visited body fuel state, kept later) <->
      Throughout body
        (fun later => kept later ∧ ∀ result, body later = .done result -> promise result)
        state := by
  constructor
  · intro ⟨⟨result, success, promised⟩, all⟩ later passes
    refine ⟨all later ((mem_visited measure decreases enough).mpr passes), ?_⟩
    intro other done
    obtain ⟨rest, fuelled⟩ : ∃ rest, fuel = rest + 1 := ⟨fuel - 1, by omega⟩
    rw [scan_passes measure decreases passes enough, fuelled, scan_done done] at success
    exact Option.some.inj success ▸ promised
  · intro throughout
    rcases exists_scan measure decreases enough with ⟨result, success⟩
    rcases passes_of_scan success with ⟨last, passes, done⟩
    refine ⟨⟨result, success, (throughout last passes).2 result done⟩, ?_⟩
    intro later member
    exact (throughout later ((mem_visited measure decreases enough).mp member)).1

/-- A loop that comes back to the state it is in has no result for any fuel. -/
theorem scan_stuck {body : State -> Iteration State Result} {state : State}
    (stuck : body state = .more state) (fuel : Nat) : scan body fuel state = none := by
  induction fuel with
  | zero => rfl
  | succ fuel ih => rw [scan_more stuck, ih]

/-- Two loops that do the same in every state that one of them goes to. -/
theorem scan_congr {body other : State -> Iteration State Result} {state : State}
    (same : Throughout body (fun later => other later = body later) state) (fuel : Nat) :
    scan other fuel state = scan body fuel state := by
  induction fuel generalizing state with
  | zero => rfl
  | succ fuel ih =>
      rcases throughout_iff.mp same with ⟨here, rest⟩
      cases iteration : body state with
      | done result => rw [scan_done iteration, scan_done (here.trans iteration)]
      | more next => rw [scan_more iteration, scan_more (here.trans iteration), ih (rest next iteration)]

/-- From wherever the loop has gone, it ends with the same result. -/
theorem scan_from_passed {body : State -> Iteration State Result} {state later : State}
    (passes : Passes body state later) {fuel : Nat} {result : Result}
    (success : scan body fuel state = some result) : ∃ rest, scan body rest later = some result := by
  induction passes with
  | refl => exact ⟨fuel, success⟩
  | tail _ goes ih =>
      rcases ih with ⟨rest, reached⟩
      cases rest with
      | zero => cases reached
      | succ rest =>
          rw [scan_more goes] at reached
          exact ⟨rest, reached⟩

/-- A loop has a result if a measure decreases along the states it goes to. -/
theorem exists_scan_throughout {body : State -> Iteration State Result} (measure : State -> Nat)
    {state : State} (decreases : Throughout body (fun later => ∀ next,
      body later = .more next -> measure next < measure later) state) :
    ∃ result, scan body (measure state + 1) state = some result := by
  obtain ⟨fuel, enough⟩ : ∃ fuel, measure state + 1 = fuel := ⟨_, rfl⟩
  rw [enough]
  have below : measure state < fuel := by omega
  clear enough
  induction fuel generalizing state with
  | zero => omega
  | succ fuel ih =>
      rcases throughout_iff.mp decreases with ⟨here, rest⟩
      cases iteration : body state with
      | done result => exact ⟨result, scan_done iteration fuel⟩
      | more next =>
          have smaller := here next iteration
          rw [scan_more iteration]
          exact ih (rest next iteration) (by omega)

end Scanner
