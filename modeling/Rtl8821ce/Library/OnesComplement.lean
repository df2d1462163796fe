import Mathlib.Algebra.BigOperators.Group.Finset.Basic
import Mathlib.Algebra.BigOperators.Intervals
import Mathlib.Tactic.Common

/-!
# Sums with end-around carry

A sum is brought below a base by adding what is above it back in.  The result is the
sum modulo the predecessor of the base, where zero stands for an empty sum only.  A code
for a sequence of cells is the weighted sum of the cells.
-/

namespace OnesComplement

/-- Add what is above the base back in, until nothing is. -/
def fold (base sum : Nat) : Nat :=
  if sum < base ∨ base < 2 then sum else fold base (sum % base + sum / base)
termination_by sum
decreasing_by
  have above : base ≤ sum := by omega
  have large : 2 ≤ base := by omega
  have split := Nat.mod_add_div sum base
  have positive : 0 < sum / base := Nat.div_pos above (by omega)
  have more := Nat.mul_le_mul_right (sum / base) large
  omega

variable {base : Nat}

theorem fold_of_lt {sum : Nat} (small : sum < base) : fold base sum = sum := by
  rw [fold, if_pos (Or.inl small)]

theorem fold_of_le {sum : Nat} (large : 2 ≤ base) (above : base ≤ sum) :
    fold base sum = fold base (sum % base + sum / base) := by
  rw [fold, if_neg (by omega)]

/-- One pass makes the sum smaller, keeps it modulo the predecessor of the base, and does
not make it zero. -/
theorem pass {sum : Nat} (large : 2 ≤ base) (above : base ≤ sum) :
    sum % base + sum / base < sum ∧ (sum % base + sum / base) % (base - 1) = sum % (base - 1) ∧
      0 < sum % base + sum / base := by
  have split := Nat.mod_add_div sum base
  have positive : 0 < sum / base := Nat.div_pos above (by omega)
  have more := Nat.mul_le_mul_right (sum / base) large
  have expand : base * (sum / base) = (base - 1) * (sum / base) + sum / base := by
    rw [← Nat.succ_mul, Nat.succ_eq_add_one, Nat.sub_add_cancel (by omega)]
  refine ⟨by omega, ?_, by omega⟩
  conv_rhs => rw [← split, expand, Nat.add_comm ((base - 1) * _), ← Nat.add_assoc, Nat.add_mul_mod_self_left]

theorem fold_lt {sum : Nat} (large : 2 ≤ base) : fold base sum < base := by
  induction sum using Nat.strongRecOn with
  | ind sum ih =>
      rcases Nat.lt_or_ge sum base with small | above
      · rw [fold_of_lt small]
        exact small
      · rw [fold_of_le large above]
        exact ih _ (pass large above).1

theorem fold_mod {sum : Nat} (large : 2 ≤ base) : fold base sum % (base - 1) = sum % (base - 1) := by
  induction sum using Nat.strongRecOn with
  | ind sum ih =>
      rcases Nat.lt_or_ge sum base with small | above
      · rw [fold_of_lt small]
      · rw [fold_of_le large above, ih _ (pass large above).1]
        exact (pass large above).2.1

theorem fold_pos {sum : Nat} (large : 2 ≤ base) (positive : 0 < sum) : 0 < fold base sum := by
  induction sum using Nat.strongRecOn with
  | ind sum ih =>
      rcases Nat.lt_or_ge sum base with small | above
      · rw [fold_of_lt small]
        exact positive
      · rw [fold_of_le large above]
        exact ih _ (pass large above).1 (pass large above).2.2

/-- A positive number below the base that is a multiple of its predecessor is the predecessor. -/
theorem eq_pred_iff {value : Nat} (large : 2 ≤ base) (below : value < base) (positive : 0 < value) :
    value = base - 1 <-> value % (base - 1) = 0 := by
  constructor
  · intro same
    rw [same, Nat.mod_self]
  · intro multiple
    rcases Nat.lt_or_ge value (base - 1) with smaller | _
    · rw [Nat.mod_eq_of_lt smaller] at multiple
      omega
    · omega

section total

universe u

variable {Cell : Type u} {weight : Nat -> Nat} {value : Cell -> Nat} {cells : Nat -> Cell} {start length : Nat}

/-- The sum of the cells of a range, each with the weight of its place. -/
def total (weight : Nat -> Nat) (value : Cell -> Nat) (cells : Nat -> Cell) (start length : Nat) : Nat :=
  (Finset.range length).sum (fun i => weight i * value (cells (start + i)))

theorem total_congr {other : Nat -> Cell} (same : ∀ i, i < length -> other (start + i) = cells (start + i)) :
    total weight value other start length = total weight value cells start length :=
  Finset.sum_congr rfl (fun i member => by rw [same i (Finset.mem_range.mp member)])

/-- The sum changes with one of its cells. -/
theorem total_update {i : Nat} (inside : i < length) (cell : Cell) :
    total weight value (Function.update cells (start + i) cell) start length + weight i * value (cells (start + i)) =
      total weight value cells start length + weight i * value cell := by
  have member : i ∈ Finset.range length := Finset.mem_range.mpr inside
  have after := Finset.add_sum_erase _
    (fun j => weight j * value (Function.update cells (start + i) cell (start + j))) member
  have before := Finset.add_sum_erase _ (fun j => weight j * value (cells (start + j))) member
  have others : ((Finset.range length).erase i).sum
        (fun j => weight j * value (Function.update cells (start + i) cell (start + j))) =
      ((Finset.range length).erase i).sum (fun j => weight j * value (cells (start + j))) := by
    refine Finset.sum_congr rfl (fun j other => ?_)
    have different : start + j ≠ start + i := fun same => Finset.ne_of_mem_erase other (Nat.add_left_cancel same)
    rw [Function.update_of_ne different]
  simp only [Function.update_self] at after
  unfold total
  omega

end total

end OnesComplement
