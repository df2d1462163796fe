import Rtl8821ce.Library.Memory
import Mathlib.Tactic.Common
import Mathlib.Tactic.Ring

/-!
# Bit fields of little-endian words

Four bytes of a memory are a word, and a field is a range of its bits.  A field that was set
reads as what was set, cut to its width; every other field reads as before.
-/

namespace BitField

/-- The word at a place. -/
def word (memory : Nat -> UInt8) (place : Nat) : Nat :=
  (memory place).toNat + 0x100 * (memory (place + 1)).toNat + 0x10000 * (memory (place + 2)).toNat +
    0x1000000 * (memory (place + 3)).toNat

def wordBytes (value : Nat) : List UInt8 :=
  [UInt8.ofNat value, UInt8.ofNat (value / 0x100), UInt8.ofNat (value / 0x10000), UInt8.ofNat (value / 0x1000000)]

/-- The field of a word with so many bits from a bit on. -/
def field (value shift bits : Nat) : Nat := value / 2 ^ shift % 2 ^ bits

/-- The word with a field replaced. -/
def put (value shift bits new : Nat) : Nat :=
  value / 2 ^ (shift + bits) * 2 ^ (shift + bits) + new % 2 ^ bits * 2 ^ shift + value % 2 ^ shift

def get (memory : Nat -> UInt8) (place shift bits : Nat) : Nat := field (word memory place) shift bits

def set (memory : Nat -> UInt8) (place shift bits new : Nat) : Nat -> UInt8 :=
  Memory.write memory place (wordBytes (put (word memory place) shift bits new))

section

variable (value new : Nat) {shift bits other others : Nat}

theorem low_lt : new % 2 ^ bits * 2 ^ shift + value % 2 ^ shift < 2 ^ (shift + bits) := by
  have high : new % 2 ^ bits + 1 ≤ 2 ^ bits := Nat.mod_lt _ (Nat.two_pow_pos bits)
  have low : value % 2 ^ shift < 2 ^ shift := Nat.mod_lt _ (Nat.two_pow_pos shift)
  calc new % 2 ^ bits * 2 ^ shift + value % 2 ^ shift
      < (new % 2 ^ bits + 1) * 2 ^ shift := by
        rw [Nat.add_mul, Nat.one_mul]
        exact Nat.add_lt_add_left low _
    _ ≤ 2 ^ bits * 2 ^ shift := Nat.mul_le_mul_right _ high
    _ = 2 ^ (shift + bits) := by rw [Nat.pow_add, Nat.mul_comm]

theorem put_div : put value shift bits new / 2 ^ (shift + bits) = value / 2 ^ (shift + bits) := by
  rw [put, Nat.add_assoc, Nat.mul_comm, Nat.mul_add_div (Nat.two_pow_pos _), Nat.div_eq_of_lt (low_lt value new),
    Nat.add_zero]

theorem put_eq : put value shift bits new =
    2 ^ shift * (value / 2 ^ (shift + bits) * 2 ^ bits + new % 2 ^ bits) + value % 2 ^ shift := by
  rw [put]
  refine congrArg (· + value % 2 ^ shift) ?_
  rw [Nat.pow_add]
  ring

theorem put_mod : put value shift bits new % 2 ^ shift = value % 2 ^ shift := by
  rw [put_eq, Nat.mul_add_mod, Nat.mod_mod]

theorem field_put : field (put value shift bits new) shift bits = new % 2 ^ bits := by
  have low : value % 2 ^ shift < 2 ^ shift := Nat.mod_lt _ (Nat.two_pow_pos shift)
  rw [field, put_eq, Nat.mul_add_div (Nat.two_pow_pos _), Nat.div_eq_of_lt low, Nat.add_zero, Nat.mul_comm,
    Nat.mul_add_mod, Nat.mod_mod]

/-- The fields above. -/
theorem field_put_above (above : shift + bits ≤ other) :
    field (put value shift bits new) other others = field value other others := by
  rcases Nat.exists_eq_add_of_le above with ⟨rest, rfl⟩
  rw [field, field, Nat.pow_add _ (shift + bits), ← Nat.div_div_eq_div_mul, ← Nat.div_div_eq_div_mul, put_div]

/-- The fields below. -/
theorem field_put_below (below : other + others ≤ shift) :
    field (put value shift bits new) other others = field value other others := by
  have divides : 2 ^ (other + others) ∣ 2 ^ shift := Nat.pow_dvd_pow 2 below
  rw [field, field, ← Nat.mod_mul_right_div_self, ← Nat.mod_mul_right_div_self, ← Nat.pow_add,
    ← Nat.mod_mod_of_dvd _ divides, put_mod, Nat.mod_mod_of_dvd _ divides]

theorem put_lt {width : Nat} (small : value < 2 ^ width) (fits : shift + bits ≤ width) :
    put value shift bits new < 2 ^ width := by
  rcases Nat.exists_eq_add_of_le fits with ⟨rest, rfl⟩
  have high : value / 2 ^ (shift + bits) < 2 ^ rest := by
    rw [Nat.div_lt_iff_lt_mul (Nat.two_pow_pos _), ← Nat.pow_add, Nat.add_comm rest]
    exact small
  have low := @low_lt value new shift bits
  calc put value shift bits new
      < (value / 2 ^ (shift + bits) + 1) * 2 ^ (shift + bits) := by
        rw [put, Nat.add_assoc, Nat.add_mul, Nat.one_mul]
        exact Nat.add_lt_add_left low _
    _ ≤ 2 ^ rest * 2 ^ (shift + bits) := Nat.mul_le_mul_right _ high
    _ = 2 ^ (shift + bits + rest) := by rw [Nat.pow_add _ (shift + bits), Nat.mul_comm]

end

section

variable (memory : Nat -> UInt8) {place elsewhere shift bits other others new : Nat}

theorem word_lt (place : Nat) : word memory place < 2 ^ 32 := by
  have b0 := (memory place).toNat_lt
  have b1 := (memory (place + 1)).toNat_lt
  have b2 := (memory (place + 2)).toNat_lt
  have b3 := (memory (place + 3)).toNat_lt
  unfold word
  omega

theorem word_write {value : Nat} (small : value < 2 ^ 32) :
    word (Memory.write memory place (wordBytes value)) place = value := by
  have byte : ∀ i, i < 4 -> Memory.write memory place (wordBytes value) (place + i) =
      (wordBytes value).getD i 0 := by
    intro i inside
    have within : i < (wordBytes value).length := inside
    rw [Memory.write_of_inside memory within, List.getD_eq_getElem?_getD, List.getElem?_eq_getElem within, Option.getD_some]
  have first := byte 0 (by decide)
  rw [Nat.add_zero] at first
  rw [word, first, byte 1 (by decide), byte 2 (by decide), byte 3 (by decide)]
  change (UInt8.ofNat value).toNat + 0x100 * (UInt8.ofNat (value / 0x100)).toNat +
    0x10000 * (UInt8.ofNat (value / 0x10000)).toNat + 0x1000000 * (UInt8.ofNat (value / 0x1000000)).toNat = value
  simp only [UInt8.toNat_ofNat']
  omega

theorem word_write_of_disjoint {cells : List UInt8} (beside : elsewhere + 4 ≤ place ∨ place + cells.length ≤ elsewhere) :
    word (Memory.write memory place cells) elsewhere = word memory elsewhere := by
  rw [word, word, Memory.write_of_outside memory (by omega), Memory.write_of_outside memory (by omega),
    Memory.write_of_outside memory (by omega), Memory.write_of_outside memory (by omega)]

theorem get_set (fits : shift + bits ≤ 32) :
    get (set memory place shift bits new) place shift bits = new % 2 ^ bits := by
  rw [get, set, word_write memory (put_lt _ _ (word_lt memory place) fits), field_put]

/-- Another field of the same word. -/
theorem get_set_apart (fits : shift + bits ≤ 32) (apart : shift + bits ≤ other ∨ other + others ≤ shift) :
    get (set memory place shift bits new) place other others = get memory place other others := by
  rw [get, set, word_write memory (put_lt _ _ (word_lt memory place) fits)]
  rcases apart with above | below
  · exact field_put_above _ _ above
  · exact field_put_below _ _ below

/-- A field of another word. -/
theorem get_set_elsewhere (beside : elsewhere + 4 ≤ place ∨ place + 4 ≤ elsewhere) :
    get (set memory place shift bits new) elsewhere other others = get memory elsewhere other others := by
  rw [get, set, word_write_of_disjoint memory beside, get]

/-- The fields of the lower half depend on two cells only. -/
theorem get_congr_low {first second : Nat -> UInt8} {here there : Nat} (low : shift + bits ≤ 16)
    (same0 : first here = second there) (same1 : first (here + 1) = second (there + 1)) :
    get first here shift bits = get second there shift bits := by
  have divides : 2 ^ (shift + bits) ∣ 2 ^ 16 := Nat.pow_dvd_pow 2 low
  have halves : word first here % 2 ^ 16 = word second there % 2 ^ 16 := by
    unfold word
    rw [same0, same1]
    omega
  rw [get, get, field, field, ← Nat.mod_mul_right_div_self, ← Nat.mod_mul_right_div_self, ← Nat.pow_add,
    ← Nat.mod_mod_of_dvd _ divides, halves, Nat.mod_mod_of_dvd _ divides]

theorem get_congr {first second : Nat -> UInt8} {here there : Nat}
    (same : ∀ i, i < 4 -> first (here + i) = second (there + i)) :
    get first here shift bits = get second there shift bits := by
  have first_cell := same 0 (by decide)
  rw [Nat.add_zero, Nat.add_zero] at first_cell
  rw [get, get, word, word, first_cell, same 1 (by decide), same 2 (by decide), same 3 (by decide)]

/-- The cells that are not of the word. -/
theorem set_of_outside {position : Nat} (outside : position < place ∨ place + 4 ≤ position) :
    set memory place shift bits new position = memory position :=
  Memory.write_of_outside memory outside

end

end BitField
