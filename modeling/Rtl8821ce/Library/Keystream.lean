import Rtl8821ce.Library.Memory

/-!
# Masking a range of memory with a key stream

A stream cipher combines each cell of a range with one cell of a key stream.
Masking twice with one stream restores the range, and a range can be masked
block by block.
-/

namespace Keystream

universe u

variable {Cell : Type u} (combine : Cell -> Cell -> Cell)

/-- Combine the cells of a range with the cells of a key stream. -/
def mask (stream memory : Nat -> Cell) (start length : Nat) : Nat -> Cell :=
  fun position =>
    if start ≤ position ∧ position < start + length then
      combine (stream (position - start)) (memory position)
    else memory position

variable {combine}

theorem mask_of_inside (stream memory : Nat -> Cell) {start length i : Nat} (inside : i < length) :
    mask combine stream memory start length (start + i) =
      combine (stream i) (memory (start + i)) := by
  unfold mask
  rw [if_pos ⟨Nat.le_add_right start i, by omega⟩, Nat.add_sub_cancel_left]

theorem mask_of_outside (stream memory : Nat -> Cell) {start length position : Nat}
    (outside : position < start ∨ start + length ≤ position) :
    mask combine stream memory start length position = memory position :=
  if_neg (by omega)

@[simp] theorem mask_zero (stream memory : Nat -> Cell) (start : Nat) :
    mask combine stream memory start 0 = memory := by
  funext position
  exact mask_of_outside stream memory (by omega)

/-- Only the cells of the stream that the range needs matter. -/
theorem mask_congr {first second : Nat -> Cell} (memory : Nat -> Cell) {start length : Nat}
    (same : ∀ i, i < length -> first i = second i) :
    mask combine first memory start length = mask combine second memory start length := by
  funext position
  unfold mask
  split
  case isTrue inside => rw [same (position - start) (by omega)]
  case isFalse outside => rfl

/-- Two ranges in a row are masked by the two parts of the stream. -/
theorem mask_add (stream memory : Nat -> Cell) (start first second : Nat) :
    mask combine (fun i => stream (first + i)) (mask combine stream memory start first)
        (start + first) second =
      mask combine stream memory start (first + second) := by
  funext position
  unfold mask
  by_cases inFirst : start ≤ position ∧ position < start + first
  · rw [if_neg (by omega), if_pos inFirst, if_pos (by omega)]
  · by_cases inSecond : start + first ≤ position ∧ position < start + first + second
    · have shift : first + (position - (start + first)) = position - start := by omega
      rw [if_pos inSecond, if_neg inFirst, if_pos (by omega)]
      dsimp only
      rw [shift]
    · rw [if_neg inSecond, if_neg inFirst, if_neg (by omega)]

/-- Overwriting a range with its combined cells masks it. -/
theorem write_eq_mask (stream memory : Nat -> Cell) (start : Nat) {cells : List Cell} {length : Nat}
    (lengthEq : cells.length = length) (masked : ∀ i (inside : i < cells.length),
      cells[i] = combine (stream i) (memory (start + i))) :
    Memory.write memory start cells = mask combine stream memory start length := by
  subst lengthEq
  funext position
  by_cases inside : start ≤ position ∧ position < start + cells.length
  · rcases Nat.exists_eq_add_of_le inside.1 with ⟨i, rfl⟩
    have within : i < cells.length := by omega
    rw [Memory.write_of_inside memory within, mask_of_inside stream memory within, masked i within]
  · rw [Memory.write_of_outside memory (by omega), mask_of_outside stream memory (by omega)]

/-- Masking a range beside a read range does not change what is read. -/
theorem read_mask_of_disjoint (stream memory : Nat -> Cell) {start length position count : Nat}
    (beside : position + count ≤ start ∨ start + length ≤ position) :
    Memory.read (mask combine stream memory start length) position count =
      Memory.read memory position count := by
  apply Memory.read_congr
  intro i inside
  exact mask_of_outside stream memory (by omega)

/-- Masking a range and writing beside it commute. -/
theorem mask_write_of_disjoint (stream memory : Nat -> Cell) {start length position : Nat} {cells : List Cell}
    (beside : position + cells.length ≤ start ∨ start + length ≤ position) :
    mask combine stream (Memory.write memory position cells) start length =
      Memory.write (mask combine stream memory start length) position cells := by
  funext place
  by_cases inside : start ≤ place ∧ place < start + length
  · rcases Nat.exists_eq_add_of_le inside.1 with ⟨i, rfl⟩
    rw [mask_of_inside _ _ (by omega), Memory.write_of_outside _ (by omega),
      Memory.write_of_outside _ (by omega), mask_of_inside _ _ (by omega)]
  · rw [mask_of_outside _ _ (by omega)]
    by_cases written : position ≤ place ∧ place < position + cells.length
    · rcases Nat.exists_eq_add_of_le written.1 with ⟨i, rfl⟩
      rw [Memory.write_of_inside _ (by omega), Memory.write_of_inside _ (by omega)]
    · rw [Memory.write_of_outside _ (by omega), Memory.write_of_outside _ (by omega),
        mask_of_outside _ _ (by omega)]

/-- A loop that masks one block in each pass masks the whole range.  A pass may
look at the cells before the range, which no pass changes. -/
theorem foldl_blocks {size start : Nat} {stream memory : Nat -> Cell} {pass : (Nat -> Cell) -> Nat -> Nat -> Cell}
    (passMasks : ∀ (current : Nat -> Cell) (block : Nat),
      (∀ position, position < start -> current position = memory position) ->
      pass current block =
        mask combine (fun i => stream (size * block + i)) current (start + size * block) size)
    (count : Nat) : (List.range count).foldl pass memory = mask combine stream memory start (size * count) := by
  induction count with
  | zero => exact (mask_zero stream memory start).symm
  | succ count ih =>
    rw [List.range_succ, List.foldl_append, List.foldl_cons, List.foldl_nil, ih,
      passMasks _ count (fun position before => mask_of_outside stream memory (Or.inl before)),
      mask_add, Nat.mul_succ]

end Keystream
