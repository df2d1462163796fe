import Rtl8821ce.Library.Program
import Rtl8821ce.Library.Scanner

/-!
# Scans that check each step

A loop that may not look at some states stops with a fault when it comes to one.
It succeeds exactly when the plain loop ends and only ever comes to safe states.
A loop whose iterations make progress or stay where they are ends exactly when it
never stays.
-/

namespace CheckedScan

open Scanner (Iteration scan Passes Throughout)

universe u v

variable {State : Type v} {Result σ ε : Type u}

/-- Run the loop; each iteration needs a safe state. -/
def checked (body : State -> Iteration State Result) (safe : State -> Bool) (unsafely endless : ε) :
    Nat -> State -> Program σ ε Result
  | 0, _ => Program.stop endless
  | fuel + 1, state =>
      if safe state then
        match body state with
        | .done result => pure result
        | .more next => checked body safe unsafely endless fuel next
      else Program.stop unsafely

variable {body : State -> Iteration State Result} {safe : State -> Bool} {unsafely endless : ε}

theorem checked_eq_ok {fuel : Nat} {state : State} {s t : σ} {result : Result} :
    checked body safe unsafely endless fuel state s = (.ok result, t) <->
      t = s ∧ Throughout body (fun state => safe state = true) state ∧ scan body fuel state = some result := by
  induction fuel generalizing state with
  | zero => exact ⟨fun impossible => (nomatch congrArg Prod.fst impossible), fun impossible => (nomatch impossible.2.2)⟩
  | succ fuel ih =>
      rw [Scanner.throughout_iff]
      unfold checked
      cases good : safe state with
      | false =>
          rw [if_neg Bool.false_ne_true]
          refine ⟨fun impossible => (nomatch congrArg Prod.fst impossible), ?_⟩
          rintro ⟨_, ⟨impossible, _⟩, _⟩
          exact absurd impossible Bool.false_ne_true
      | true =>
          rw [if_pos rfl]
          cases iteration : body state with
          | done found =>
              dsimp only
              rw [Scanner.scan_done iteration, Program.pure_apply, Prod.mk.injEq, Except.ok.injEq, Option.some.injEq]
              constructor
              · rintro ⟨same, rfl⟩
                exact ⟨rfl, ⟨rfl, fun next goes => (nomatch goes)⟩, same⟩
              · rintro ⟨rfl, _, same⟩
                exact ⟨same, rfl⟩
          | more next =>
              dsimp only
              rw [Scanner.scan_more iteration, ih]
              constructor
              · rintro ⟨same, rest, ended⟩
                refine ⟨same, ⟨rfl, fun other goes => ?_⟩, ended⟩
                rw [Iteration.more.injEq] at goes
                exact goes ▸ rest
              · rintro ⟨same, ⟨_, rest⟩, ended⟩
                exact ⟨same, rest next rfl, ended⟩

/-- A loop that ends does not come to a state that it cannot leave. -/
theorem not_stuck_of_scan {fuel : Nat} {state : State} {result : Result}
    (ended : scan body fuel state = some result) : Throughout body (fun state => body state ≠ .more state) state := by
  induction fuel generalizing state with
  | zero => cases ended
  | succ fuel ih =>
      rw [Scanner.throughout_iff]
      refine ⟨fun stuck => ?_, fun next goes => ?_⟩
      · rw [Scanner.scan_stuck stuck] at ended
        cases ended
      · rw [Scanner.scan_more goes] at ended
        exact ih ended

theorem exists_scan_of_progress (measure : State -> Nat)
    (progress : ∀ state next, body state = .more next -> next = state ∨ measure next < measure state)
    {fuel : Nat} {state : State} (enough : measure state < fuel)
    (leaves : Throughout body (fun state => body state ≠ .more state) state) :
    ∃ result, scan body fuel state = some result := by
  induction fuel generalizing state with
  | zero => exact absurd enough (Nat.not_lt_zero _)
  | succ fuel ih =>
      rw [Scanner.throughout_iff] at leaves
      cases iteration : body state with
      | done result => exact ⟨result, Scanner.scan_done iteration fuel⟩
      | more next =>
          rw [Scanner.scan_more iteration]
          rcases progress state next iteration with stays | smaller
          · rw [stays] at iteration
            exact absurd iteration leaves.1
          · exact ih (by omega) (leaves.2 next iteration)

/-- More fuel changes nothing for a loop that has ended. -/
theorem scan_mono {first second : Nat} {state : State} {result : Result} (more : first ≤ second)
    (ended : scan body first state = some result) : scan body second state = some result := by
  induction first generalizing state second with
  | zero => cases ended
  | succ fuel ih =>
      cases second with
      | zero => exact absurd more (Nat.not_succ_le_zero _)
      | succ second =>
          cases iteration : body state with
          | done found =>
              rw [Scanner.scan_done iteration] at ended ⊢
              exact ended
          | more next =>
              rw [Scanner.scan_more iteration] at ended ⊢
              exact ih (Nat.le_of_succ_le_succ more) ended

end CheckedScan
