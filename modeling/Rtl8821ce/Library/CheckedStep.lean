import Rtl8821ce.Library.Program

/-!
# Steps under a condition

A step that stops when its condition does not hold, and changes the state otherwise.
A sequence of such steps is one, and so is a counted loop.
-/

namespace Program

universe u

variable {σ ε α : Type u} {condition later : Prop} {change next : σ -> σ}

/-- The program succeeds exactly under the condition, and changes the state then. -/
def Checked (program : Program σ ε PUnit) (condition : Prop) (change : σ -> σ) : Prop :=
  ∀ state final, program state = (.ok ⟨⟩, final) <-> condition ∧ final = change state

/-- Do the steps from `0` on. -/
def counted (step : Nat -> Program σ ε PUnit) : Nat -> Program σ ε PUnit
  | 0 => pure ⟨⟩
  | count + 1 => counted step count >>= fun _ => step count

theorem Checked.bind_eq_ok {program : Program σ ε PUnit} {rest : PUnit -> Program σ ε α}
    {state final : σ} {result : α} (checked : Checked program condition change) :
    (program >>= rest) state = (.ok result, final) <->
      condition ∧ rest ⟨⟩ (change state) = (.ok result, final) := by
  rw [Program.bind_eq_ok]
  constructor
  · rintro ⟨⟨⟩, middle, ran, onward⟩
    rcases (checked state middle).mp ran with ⟨holds, rfl⟩
    exact ⟨holds, onward⟩
  · rintro ⟨holds, onward⟩
    exact ⟨⟨⟩, change state, (checked state _).mpr ⟨holds, rfl⟩, onward⟩

theorem Checked.congr {program : Program σ ε PUnit} (checked : Checked program condition change)
    (same : condition <-> later) : Checked program later change :=
  fun state final => (checked state final).trans (and_congr_left' same)

theorem Checked.change_congr {program : Program σ ε PUnit} (checked : Checked program condition change)
    (same : ∀ state, change state = next state) : Checked program condition next := by
  intro state final
  rw [checked state final, same]

theorem checked_pure : Checked (pure ⟨⟩ : Program σ ε PUnit) True id := by
  intro state final
  rw [pure_apply, Prod.mk.injEq]
  exact ⟨fun both => ⟨trivial, both.2.symm⟩, fun both => ⟨rfl, both.2.symm⟩⟩

theorem checked_require (holds : Bool) (code : ε) :
    Checked (require holds code : Program σ ε PUnit) (holds = true) id :=
  fun _ _ => require_eq_ok

theorem checked_update (change : σ -> σ) : Checked (update change : Program σ ε PUnit) True change := by
  intro state final
  rw [update_apply, Prod.mk.injEq]
  exact ⟨fun both => ⟨trivial, both.2.symm⟩, fun both => ⟨rfl, both.2.symm⟩⟩

theorem Checked.seq {first second : Program σ ε PUnit} (head : Checked first condition change)
    (tail : Checked second later next) :
    Checked (first >>= fun _ => second) (condition ∧ later) (fun state => next (change state)) := by
  intro state final
  rw [head.bind_eq_ok, tail, and_assoc]

theorem checked_ite {cases : Prop} [Decidable cases] {first second : Program σ ε PUnit}
    (yes : Checked first condition change) (no : Checked second later next) :
    Checked (if cases then first else second) (if cases then condition else later)
      (if cases then change else next) := by
  by_cases holds : cases
  · rw [if_pos holds, if_pos holds, if_pos holds]
    exact yes
  · rw [if_neg holds, if_neg holds, if_neg holds]
    exact no

/-- A loop succeeds when each of its steps does. -/
theorem checked_counted {step : Nat -> Program σ ε PUnit} {inside : Nat -> Prop}
    {changes : Nat -> σ -> σ} (checked : ∀ i, Checked (step i) (inside i) (changes i)) (count : Nat) :
    Checked (counted step count) (∀ i, i < count -> inside i)
      (fun state => (List.range count).foldl (fun state i => changes i state) state) := by
  induction count with
  | zero => exact checked_pure.congr ⟨fun _ i inside => absurd inside (Nat.not_lt_zero i), fun _ => trivial⟩
  | succ count ih =>
    intro state final
    rw [counted, ih.seq (checked count) state final, List.range_succ, Nat.forall_lt_succ_right]
    dsimp only
    rw [List.foldl_append]
    rfl

end Program
