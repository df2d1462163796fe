import Mathlib.Data.BitVec
import Mathlib.Data.Int.ModEq
import Mathlib.Tactic.Ring

/-!
# Serial-number arithmetic

Counters of a fixed width are compared by one bit of their wrapped difference.
The comparison says which of two numbers is the later one only while the two
are less than half a circle apart.  The facts below are about unwrapped natural
numbers of which only the residues are seen, for any modulus and any bit.
-/

namespace SerialNumber

/-- How far `value` lies ahead of `base` on a circle of `modulus` numbers. -/
def distance (modulus base value : Nat) : Nat :=
  (value + (modulus - base % modulus)) % modulus

/-- On residues the distance is the plain difference, or what is left of the
circle when the value has wrapped around. -/
theorem distance_eq {modulus base value : Nat} (baseLt : base < modulus) (valueLt : value < modulus) :
    distance modulus base value =
      if base ≤ value then value - base else modulus - (base - value) := by
  unfold distance
  rw [Nat.mod_eq_of_lt baseLt]
  by_cases ordered : base ≤ value
  · rw [if_pos ordered]
    have split : value + (modulus - base) = (value - base) + modulus := by omega
    rw [split, Nat.add_mod_right, Nat.mod_eq_of_lt (by omega)]
  · rw [if_neg ordered, Nat.mod_eq_of_lt (by omega)]
    omega

theorem cast_distance {modulus : Nat} (positive : 0 < modulus) (base value : Nat) :
    (distance modulus base value : Int) = ((value : Int) - base) % modulus := by
  have below : base % modulus < modulus := Nat.mod_lt _ positive
  unfold distance
  push_cast [Nat.le_of_lt below]
  have same : (value : Int) + (modulus - base % modulus) =
      (value - base % modulus) + modulus * 1 := by ring
  rw [same, Int.add_mul_emod_self_left, Int.sub_emod, Int.emod_emod, ← Int.sub_emod]

/-- Moving `base` forward by the distance arrives at `value`. -/
theorem add_distance_mod {modulus : Nat} (positive : 0 < modulus) (base value : Nat) :
    (base + distance modulus base value) % modulus = value % modulus := by
  have cast : ((base + distance modulus base value : Nat) : Int) % modulus =
      (value : Int) % modulus := by
    push_cast
    rw [cast_distance positive, Int.add_emod_emod]
    congr 1
    ring
  exact_mod_cast cast

/-- Only the residue of the base counts. -/
@[simp] theorem distance_mod_base (modulus base value : Nat) :
    distance modulus (base % modulus) value = distance modulus base value := by
  unfold distance
  rw [Nat.mod_mod]

@[simp] theorem distance_self {modulus : Nat} (positive : 0 < modulus) (value : Nat) :
    distance modulus value value = 0 := by
  have cast : (distance modulus value value : Int) = 0 := by
    rw [cast_distance positive, Int.sub_self, Int.zero_emod]
  exact_mod_cast cast

/-- The distance between residues of two numbers less than a circle apart. -/
theorem distance_mod {modulus low high : Nat} (ordered : low ≤ high) (near : high - low < modulus) :
    distance modulus (low % modulus) (high % modulus) = high - low := by
  have positive : 0 < modulus := Nat.lt_of_le_of_lt (Nat.zero_le _) near
  have cast : (distance modulus (low % modulus) (high % modulus) : Int) = (high - low : Nat) := by
    rw [cast_distance positive]
    push_cast [ordered]
    rw [← Int.sub_emod]
    exact Int.emod_eq_of_lt (by omega) (by omega)
  exact_mod_cast cast

/-- Seen from the later number, the earlier one lies the rest of the circle ahead. -/
theorem distance_mod_back {modulus low high : Nat} (ordered : low < high) (near : high - low < modulus) :
    distance modulus (high % modulus) (low % modulus) = modulus - (high - low) := by
  have wrapped : (low + modulus) % modulus = low % modulus := Nat.add_mod_right low modulus
  rw [← wrapped, distance_mod (by omega) (by omega)]
  omega

/-- Compare two counters by bit `bit` of their difference in `width`-bit arithmetic. -/
def bitLess (width bit left right : Nat) : Bool :=
  ((BitVec.ofNat width left - BitVec.ofNat width right) &&& BitVec.twoPow width bit) != 0

/-- A bit is set exactly when the number lies in the upper half of the residues
that the bit closes. -/
theorem testBit_iff_le_mod (number bit : Nat) : number.testBit bit = true <-> 2 ^ bit ≤ number % 2 ^ (bit + 1) := by
  rw [Nat.testBit_eq_decide_div_mod_eq, decide_eq_true_eq]
  have split : number % 2 ^ (bit + 1) = number % 2 ^ bit + 2 ^ bit * (number / 2 ^ bit % 2) := by
    rw [pow_succ, Nat.mod_mul]
  have low : number % 2 ^ bit < 2 ^ bit := Nat.mod_lt _ (Nat.two_pow_pos bit)
  rcases Nat.mod_two_eq_zero_or_one (number / 2 ^ bit) with even | odd
  · rw [split, even]
    omega
  · rw [split, odd]
    omega

/-- The tested bit is the upper half of the circle of `2 ^ (bit + 1)` numbers,
however wide the arithmetic is. -/
theorem bitLess_iff {width bit : Nat} (inside : bit < width) (left right : Nat) :
    bitLess width bit left right = true <-> 2 ^ bit ≤ distance (2 ^ (bit + 1)) right left := by
  have residue : (BitVec.ofNat width left - BitVec.ofNat width right).toNat % 2 ^ (bit + 1) =
      distance (2 ^ (bit + 1)) right left := by
    have divides : 2 ^ (bit + 1) ∣ 2 ^ width := Nat.pow_dvd_pow 2 inside
    have cast : (((BitVec.ofNat width left - BitVec.ofNat width right).toNat % 2 ^ (bit + 1) : Nat) : Int) =
        (distance (2 ^ (bit + 1)) right left : Int) := by
      have below : right % 2 ^ width ≤ 2 ^ width := Nat.le_of_lt (Nat.mod_lt _ (Nat.two_pow_pos width))
      rw [cast_distance (Nat.two_pow_pos _), BitVec.toNat_sub, BitVec.toNat_ofNat, BitVec.toNat_ofNat,
        Nat.mod_mod_of_dvd _ divides]
      rcases divides with ⟨factor, split⟩
      push_cast [below]
      have wide : ((2 : Int) ^ width) = 2 ^ (bit + 1) * factor := by exact_mod_cast split
      have leftResidue : ((left : Int) % 2 ^ width) % 2 ^ (bit + 1) = (left : Int) % 2 ^ (bit + 1) :=
        Int.emod_emod_of_dvd _ ⟨factor, wide⟩
      have rightResidue : ((right : Int) % 2 ^ width) % 2 ^ (bit + 1) = (right : Int) % 2 ^ (bit + 1) :=
        Int.emod_emod_of_dvd _ ⟨factor, wide⟩
      have arrange : (2 : Int) ^ width - right % 2 ^ width + left % 2 ^ width =
          (left % 2 ^ width - right % 2 ^ width) + 2 ^ (bit + 1) * factor := by
        rw [← wide]; ring
      rw [arrange, Int.add_mul_emod_self_left, Int.sub_emod, leftResidue, rightResidue, ← Int.sub_emod]
    exact_mod_cast cast
  unfold bitLess
  rw [bne_iff_ne, BitVec.and_twoPow, ← residue, ← testBit_iff_le_mod, BitVec.testBit_toNat]
  by_cases set : (BitVec.ofNat width left - BitVec.ofNat width right).getLsbD bit = true
  · rw [if_pos set]
    have nonzero : BitVec.twoPow width bit ≠ BitVec.ofNat width 0 := by
      intro zero
      have value := congrArg BitVec.toNat zero
      rw [BitVec.toNat_twoPow, BitVec.toNat_ofNat, Nat.zero_mod,
        Nat.mod_eq_of_lt (Nat.pow_lt_pow_right (by omega) inside)] at value
      exact absurd value (Nat.ne_of_gt (Nat.two_pow_pos bit))
    exact ⟨fun _ => set, fun _ => nonzero⟩
  · rw [if_neg set]
    exact ⟨fun different => absurd rfl different, fun high => absurd high set⟩

/-- On residues of numbers less than half a circle apart, the test is the order
of the numbers themselves. -/
theorem bitLess_mod_iff {width bit left right : Nat} (inside : bit < width)
    (ahead : right - left ≤ 2 ^ bit) (behind : left - right < 2 ^ bit) :
    bitLess width bit (left % 2 ^ (bit + 1)) (right % 2 ^ (bit + 1)) = true <-> left < right := by
  have double : 2 ^ (bit + 1) = 2 ^ bit + 2 ^ bit := by ring
  rw [bitLess_iff inside]
  by_cases ordered : left < right
  · rw [distance_mod_back ordered (by omega)]
    constructor
    · intro _
      exact ordered
    · intro _
      omega
  · rw [distance_mod (by omega) (by omega)]
    constructor
    · intro high
      omega
    · intro earlier
      exact absurd earlier ordered

/-- Comparing by the sign of the difference is comparing the distances from any
point that both numbers follow by less than half a circle. -/
theorem slt_sub_iff {width : Nat} {base left right : BitVec (width + 1)}
    (leftNear : (left - base).toNat < 2 ^ width) (rightNear : (right - base).toNat < 2 ^ width) :
    (left - right).slt 0 = true <-> (left - base).toNat < (right - base).toNat := by
  have same : left - right = (left - base) - (right - base) := by ring
  have double : 2 ^ (width + 1) = 2 ^ width + 2 ^ width := by ring
  rw [same]
  generalize left - base = a at *
  generalize right - base = b at *
  change (a - b).slt (0#(width + 1)) = true <-> _
  rw [BitVec.slt_zero_iff_msb_cond, BitVec.msb_eq_decide, decide_eq_true_eq, BitVec.toNat_sub, Nat.add_sub_cancel]
  by_cases ordered : a.toNat < b.toNat
  · rw [Nat.mod_eq_of_lt (by omega)]
    omega
  · have wrapped : 2 ^ (width + 1) - b.toNat + a.toNat =
        (a.toNat - b.toNat) + 2 ^ (width + 1) := by omega
    rw [wrapped, Nat.add_mod_right, Nat.mod_eq_of_lt (by omega)]
    omega

end SerialNumber
