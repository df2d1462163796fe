import Mathlib.Algebra.Group.Int.Defs
import Mathlib.Algebra.GroupWithZero.Nat
import Mathlib.Data.List.Basic

/-!
# Memory as a function of positions

`read` takes the cells of a range, `write` overwrites a range.  A range that was
written reads as what was written, and a range beside it is unchanged.
-/

namespace Memory

universe u

variable {Cell : Type u}

/-- The cells of a range. -/
def read (memory : Nat -> Cell) (start length : Nat) : List Cell :=
  (List.range length).map (fun i => memory (start + i))

/-- Overwrite a range. -/
def write (memory : Nat -> Cell) (start : Nat) (cells : List Cell) : Nat -> Cell :=
  fun position =>
    if position < start then memory position
    else (cells[position - start]?).getD (memory position)

@[simp] theorem length_read (memory : Nat -> Cell) (start length : Nat) :
    (read memory start length).length = length := by
  rw [read, List.length_map, List.length_range]

@[simp] theorem read_zero (memory : Nat -> Cell) (start : Nat) : read memory start 0 = [] := rfl

theorem getElem_read (memory : Nat -> Cell) {start length i : Nat} (bound : i < (read memory start length).length) :
    (read memory start length)[i] = memory (start + i) := by
  simp only [read, List.getElem_map, List.getElem_range]

theorem getElem?_read (memory : Nat -> Cell) {start length i : Nat} (inside : i < length) :
    (read memory start length)[i]? = some (memory (start + i)) := by
  rw [List.getElem?_eq_getElem (by rw [length_read]; exact inside), getElem_read memory]

/-- Reads depend on the cells of the range only. -/
theorem read_congr {first second : Nat -> Cell} {start length : Nat}
    (same : ∀ i, i < length -> first (start + i) = second (start + i)) :
    read first start length = read second start length :=
  List.map_congr_left (fun i member => same i (List.mem_range.mp member))

theorem read_add (memory : Nat -> Cell) (start first second : Nat) :
    read memory start (first + second) =
      read memory start first ++ read memory (start + first) second := by
  simp only [read, List.range_add, List.map_append, List.map_map, Function.comp_def, Nat.add_assoc]

theorem read_take (memory : Nat -> Cell) (start : Nat) {first whole : Nat} (within : first ≤ whole) :
    (read memory start whole).take first = read memory start first := by
  have split := read_add memory start first (whole - first)
  rw [Nat.add_sub_cancel' within] at split
  rw [split, List.take_left' (length_read memory start first)]

theorem read_drop (memory : Nat -> Cell) (start : Nat) {first whole : Nat} (within : first ≤ whole) :
    (read memory start whole).drop first = read memory (start + first) (whole - first) := by
  have split := read_add memory start first (whole - first)
  rw [Nat.add_sub_cancel' within] at split
  rw [split, List.drop_left' (length_read memory start first)]

theorem write_of_outside (memory : Nat -> Cell) {start position : Nat} {cells : List Cell}
    (outside : position < start ∨ start + cells.length ≤ position) :
    write memory start cells position = memory position := by
  unfold write
  split
  case isTrue before => rfl
  case isFalse notBefore =>
    have behind : cells.length ≤ position - start := by omega
    rw [List.getElem?_eq_none behind, Option.getD_none]

theorem write_of_inside (memory : Nat -> Cell) {start i : Nat} {cells : List Cell}
    (inside : i < cells.length) : write memory start cells (start + i) = cells[i] := by
  unfold write
  rw [if_neg (Nat.not_lt.mpr (Nat.le_add_right start i)), Nat.add_sub_cancel_left,
    List.getElem?_eq_getElem inside, Option.getD_some]

/-- A range that was written reads as what was written. -/
theorem read_write (memory : Nat -> Cell) (start : Nat) (cells : List Cell) :
    read (write memory start cells) start cells.length = cells := by
  apply List.ext_getElem
  · exact length_read _ _ _
  · intro i readable inside
    rw [getElem_read _, write_of_inside memory inside]

/-- A write beside a range leaves it as it is. -/
theorem read_write_of_disjoint (memory : Nat -> Cell) {start length position : Nat}
    {cells : List Cell} (beside : start + length ≤ position ∨ position + cells.length ≤ start) :
    read (write memory position cells) start length = read memory start length := by
  apply read_congr
  intro i inside
  apply write_of_outside
  omega

@[simp] theorem write_nil (memory : Nat -> Cell) (start : Nat) : write memory start [] = memory := by
  funext position
  exact ite_self _

/-- Two writes in a row are one. -/
theorem write_append (memory : Nat -> Cell) (start : Nat) (first second : List Cell) :
    write (write memory start first) (start + first.length) second =
      write memory start (first ++ second) := by
  funext position
  unfold write
  rcases Nat.lt_or_ge position start with before | notBefore
  · rw [if_pos (by omega), if_pos before, if_pos before]
  · rw [if_neg (Nat.not_lt.mpr notBefore), if_neg (Nat.not_lt.mpr notBefore)]
    rcases Nat.lt_or_ge position (start + first.length) with inFirst | behind
    · rw [if_pos inFirst, List.getElem?_append_left (by omega)]
    · have shift : position - start - first.length = position - (start + first.length) := by omega
      rw [if_neg (Nat.not_lt.mpr behind), List.getElem?_append_right (by omega), shift,
        @List.getElem?_eq_none _ first _ (by omega), Option.getD_none]

/-- A write over a range of the same length replaces it. -/
theorem write_write (memory : Nat -> Cell) (start : Nat) {first second : List Cell}
    (sameLength : first.length = second.length) :
    write (write memory start first) start second = write memory start second := by
  funext position
  by_cases inside : start ≤ position ∧ position < start + second.length
  · rcases Nat.exists_eq_add_of_le inside.1 with ⟨i, rfl⟩
    rw [write_of_inside _ (by omega), write_of_inside _ (by omega)]
  · rw [write_of_outside _ (by omega), write_of_outside _ (by omega), write_of_outside _ (by omega)]

/-- One cell of a range is changed. -/
theorem read_write_single (memory : Nat -> Cell) (start : Nat) {length i : Nat} (cell : Cell) :
    read (write memory (start + i) [cell]) start length = (read memory start length).set i cell := by
  apply List.ext_getElem
  · rw [List.length_set, length_read, length_read]
  · intro k readable settable
    rw [getElem_read, List.getElem_set, getElem_read]
    split
    case isTrue same =>
      rw [← same]
      exact @write_of_inside _ memory (start + i) 0 [cell] Nat.zero_lt_one
    case isFalse other =>
      apply write_of_outside
      rw [List.length_singleton]
      omega

/-- A memory that differs in one range only is the result of a write. -/
theorem eq_write_of_outside {memory changed : Nat -> Cell} {start length : Nat}
    (same : ∀ position, position < start ∨ start + length ≤ position ->
      changed position = memory position) :
    changed = write memory start (read changed start length) := by
  funext position
  by_cases inside : start ≤ position ∧ position < start + length
  · rcases Nat.exists_eq_add_of_le inside.1 with ⟨i, rfl⟩
    have within : i < (read changed start length).length := by
      rw [length_read]
      omega
    rw [write_of_inside memory within, getElem_read]
  · rw [write_of_outside memory (by rw [length_read]; omega), same position (by omega)]

def tail (memory : Nat -> Cell) (start : Nat) : Nat -> Cell := fun i => memory (start + i)

/-- Put another memory in the place of the one from `start` on. -/
def withTail (memory : Nat -> Cell) (start : Nat) (changed : Nat -> Cell) : Nat -> Cell :=
  fun position => if position < start then memory position else changed (position - start)

theorem read_tail (memory : Nat -> Cell) (start i length : Nat) :
    read (tail memory start) i length = read memory (start + i) length := by
  simp only [read, tail, Nat.add_assoc]

/-- A write into the tail is a write into the memory. -/
theorem withTail_write (memory : Nat -> Cell) (start i : Nat) (cells : List Cell) :
    withTail memory start (write (tail memory start) i cells) =
      write memory (start + i) cells := by
  funext position
  unfold withTail
  split
  case isTrue before => exact (write_of_outside memory (by omega)).symm
  case isFalse behind =>
    rcases Nat.exists_eq_add_of_le (Nat.not_lt.mp behind) with ⟨k, rfl⟩
    have same : start + k < start + i <-> k < i := by omega
    have shift : start + k - (start + i) = k - i := by omega
    rw [Nat.add_sub_cancel_left]
    unfold write
    simp only [same, shift]
    rfl

end Memory
