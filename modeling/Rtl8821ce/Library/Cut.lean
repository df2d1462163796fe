import Mathlib.Data.List.Basic

/-!
# Cutting a list into pieces

All pieces but the last have the same size, and the last one is what is left.
An empty list is one empty piece.
-/

namespace Cut

universe u

variable {α : Type u}

/-- The pieces of a list, with `fuel` cuts at most. -/
def piecesFrom (size : Nat) : Nat -> List α -> List (List α)
  | 0, whole => [whole]
  | fuel + 1, whole =>
      if whole.length ≤ size then [whole]
      else whole.take size :: piecesFrom size fuel (whole.drop size)

/-- The pieces of a list. -/
def pieces (size : Nat) (whole : List α) : List (List α) := piecesFrom size whole.length whole

theorem flatten_piecesFrom (size fuel : Nat) (whole : List α) : (piecesFrom size fuel whole).flatten = whole := by
  induction fuel generalizing whole with
  | zero => exact List.append_nil whole
  | succ fuel ih =>
      unfold piecesFrom
      split
      case isTrue fits => exact List.append_nil whole
      case isFalse long =>
        rw [List.flatten_cons, ih, List.take_append_drop]

/-- Nothing is lost and nothing is added. -/
theorem flatten_pieces (size : Nat) (whole : List α) : (pieces size whole).flatten = whole :=
  flatten_piecesFrom size whole.length whole

/-- More fuel than needed makes no difference. -/
theorem piecesFrom_of_le {size : Nat} (positive : 0 < size) {fuel : Nat} {whole : List α}
    (enough : whole.length ≤ fuel) : piecesFrom size fuel whole = pieces size whole := by
  unfold pieces
  induction fuel using Nat.strongRecOn generalizing whole with
  | ind fuel ih =>
      cases fuel with
      | zero => rw [Nat.le_zero.mp enough]
      | succ fuel =>
          cases whole with
          | nil => rfl
          | cons first rest =>
              rw [List.length_cons]
              unfold piecesFrom
              split
              case isTrue fits => rfl
              case isFalse long =>
                have shorter : ((first :: rest).drop size).length ≤ rest.length := by
                  rw [List.length_drop, List.length_cons]
                  omega
                rw [List.length_cons] at enough
                rw [ih fuel (Nat.lt_succ_self fuel)
                    (Nat.le_trans shorter (Nat.le_of_succ_le_succ enough))]
                congr 1
                rcases Nat.lt_or_ge rest.length (fuel + 1) with below | above
                · exact (ih rest.length below shorter).symm
                · omega

theorem pieces_of_le {size : Nat} {whole : List α} (fits : whole.length ≤ size) : pieces size whole = [whole] := by
  unfold pieces
  cases whole.length with
  | zero => rfl
  | succ fuel => exact if_pos fits

theorem pieces_of_gt {size : Nat} (positive : 0 < size) {whole : List α} (long : size < whole.length) :
    pieces size whole = whole.take size :: pieces size (whole.drop size) := by
  rw [← @piecesFrom_of_le α size positive (whole.length + 1) whole (Nat.le_succ _)]
  unfold piecesFrom
  rw [if_neg (Nat.not_le.mpr long), piecesFrom_of_le positive]
  rw [List.length_drop]
  exact Nat.sub_le _ _

theorem pieces_ne_nil (size : Nat) (whole : List α) : pieces size whole ≠ [] := by
  unfold pieces
  cases whole.length with
  | zero => exact List.cons_ne_nil _ _
  | succ fuel =>
      unfold piecesFrom
      split
      · exact List.cons_ne_nil _ _
      · exact List.cons_ne_nil _ _

/-- No piece is larger than the size. -/
theorem length_le_of_mem_pieces {size : Nat} (positive : 0 < size) {whole piece : List α}
    (member : piece ∈ pieces size whole) : piece.length ≤ size := by
  induction hlength : whole.length using Nat.strongRecOn generalizing whole with
  | ind length ih =>
      rcases Nat.lt_or_ge size whole.length with long | fits
      · rw [pieces_of_gt positive long] at member
        rcases List.mem_cons.mp member with first | later
        · rw [first]
          exact List.length_take_le _ _
        · refine ih (whole.drop size).length ?_ later rfl
          rw [List.length_drop]
          omega
      · rw [pieces_of_le fits] at member
        rw [List.mem_singleton.mp member]
        exact fits

/-- All pieces but one are full. -/
theorem length_pieces_mul_le {size : Nat} (positive : 0 < size) (whole : List α) :
    ((pieces size whole).length - 1) * size ≤ whole.length := by
  induction hlength : whole.length using Nat.strongRecOn generalizing whole with
  | ind length ih =>
      rcases Nat.lt_or_ge size whole.length with long | fits
      · have rest := ih (whole.drop size).length
          (by rw [List.length_drop]; omega) (whole.drop size) rfl
        have more := List.length_pos_of_ne_nil (pieces_ne_nil size (whole.drop size))
        rw [List.length_drop] at rest
        rw [pieces_of_gt positive long, List.length_cons, Nat.add_sub_cancel]
        have count : (pieces size (whole.drop size)).length =
            (pieces size (whole.drop size)).length - 1 + 1 := by omega
        rw [count, Nat.succ_mul]
        omega
      · rw [pieces_of_le fits, List.length_singleton, Nat.sub_self, Nat.zero_mul]
        exact Nat.zero_le _

end Cut
