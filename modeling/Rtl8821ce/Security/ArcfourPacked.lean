import Mathlib.Data.Nat.Bitwise
import Rtl8821ce.Security.Arcfour

/-!
# RC4 on a number

The state of RC4 as one number with a digit for each byte.  A round changes two digits, so a run
over a known key is arithmetic on numbers.
-/

namespace Rtl8821ce
namespace ArcfourPacked

def byte (n i : Nat) : Nat := n >>> (8 * i) % 2 ^ 8

def put (n i value : Nat) : Nat := n ^^^ ((byte n i ^^^ value) <<< (8 * i))

theorem byte_lt (n i : Nat) : byte n i < 2 ^ 8 := Nat.mod_lt _ (by decide)

theorem byte_put {n i value : Nat} (small : value < 2 ^ 8) (j : Nat) :
    byte (put n i value) j = if j = i then value else byte n j := by
  have digit : byte n i ^^^ value < 2 ^ 8 := Nat.xor_lt_two_pow (byte_lt n i) small
  refine Nat.eq_of_testBit_eq (fun k => ?_)
  by_cases same : j = i
  · rw [if_pos same, same]
    by_cases inside : k < 8
    · have place : 8 * i ≤ 8 * i + k := Nat.le_add_right _ _
      rw [byte, put, Nat.testBit_mod_two_pow, Nat.testBit_shiftRight, Nat.testBit_xor, Nat.testBit_shiftLeft,
        decide_eq_true place, Nat.add_sub_cancel_left, Nat.testBit_xor, byte, Nat.testBit_mod_two_pow,
        Nat.testBit_shiftRight, decide_eq_true inside, Bool.true_and, Bool.true_and, Bool.true_and,
        ← Bool.xor_assoc, Bool.xor_self, Bool.false_xor]
    · have large : 2 ^ 8 ≤ 2 ^ k := Nat.pow_le_pow_right (by decide) (Nat.le_of_not_lt inside)
      rw [byte, Nat.testBit_mod_two_pow, decide_eq_false inside, Bool.false_and,
        Nat.testBit_lt_two_pow (Nat.lt_of_lt_of_le small large)]
  · rw [if_neg same]
    have outside : k < 8 -> ((byte n i ^^^ value) <<< (8 * i)).testBit (8 * j + k) = false := by
      intro inside
      rw [Nat.testBit_shiftLeft]
      by_cases place : 8 * i ≤ 8 * j + k
      · have large : 2 ^ 8 ≤ 2 ^ (8 * j + k - 8 * i) := Nat.pow_le_pow_right (by decide) (by omega)
        rw [Nat.testBit_lt_two_pow (Nat.lt_of_lt_of_le digit large), Bool.and_false]
      · rw [decide_eq_false place, Bool.false_and]
    by_cases inside : k < 8
    · rw [byte, byte, put, Nat.testBit_mod_two_pow, Nat.testBit_mod_two_pow, Nat.testBit_shiftRight,
        Nat.testBit_shiftRight, Nat.testBit_xor, outside inside, Bool.xor_false]
    · rw [byte, byte, Nat.testBit_mod_two_pow, Nat.testBit_mod_two_pow, decide_eq_false inside, Bool.false_and,
        Bool.false_and]

def Packs (n : Nat) (state : Vector UInt8 256) : Prop := ∀ i : Fin 256, byte n i.val = (state.get i).toNat

theorem Packs.get {n : Nat} {state : Vector UInt8 256} (packs : Packs n state) (index : UInt8) :
    byte n index.toNat = (state.get index.toFin).toNat := packs index.toFin

theorem Packs.set {n : Nat} {state : Vector UInt8 256} (packs : Packs n state) (i : Nat) (inside : i < 256)
    (value : UInt8) : Packs (put n i value.toNat) (state.set i value inside) := by
  intro j
  rw [byte_put (value.toNat_lt)]
  have bound : j.val < 256 := j.isLt
  change _ = ((state.set i value inside)[j.val]).toNat
  rw [Vector.getElem_set]
  by_cases same : j.val = i
  · rw [if_pos same, if_pos same.symm]
  · rw [if_neg same, if_neg (fun equal => same equal.symm)]
    exact packs j

def pack : List Nat -> Nat
  | [] => 0
  | first :: rest => first + 2 ^ 8 * pack rest

def init_round (key : List Nat) (round : Nat × Nat × Nat) (counter : Nat) : Nat × Nat × Nat :=
  let t := byte round.1 counter
  let stateindex := (round.2.2 + key.getD round.2.1 0 + t) % 2 ^ 8
  let u := byte round.1 stateindex
  (put (put round.1 stateindex t) counter u, if round.2.1 + 1 ≥ key.length then 0 else round.2.1 + 1, stateindex)

def init (key : List Nat) : Nat :=
  ((List.finRange 256).foldl (fun round counter => init_round key round counter.val) (pack (List.range 256), 0, 0)).1

/-- `x`, `y` and the state. -/
def next (context : Nat × Nat × Nat) : Nat × Nat × Nat × Nat :=
  let x := (context.1 + 1) % 2 ^ 8
  let sx := byte context.2.2 x
  let y := (sx + context.2.1) % 2 ^ 8
  let sy := byte context.2.2 y
  let state := put (put context.2.2 y sx) x sy
  (byte state ((sx + sy) % 2 ^ 8), x, y, state)

def encrypt (context : Nat × Nat × Nat) : List Nat -> List Nat
  | [] => []
  | src :: rest => (src ^^^ (next context).1) :: encrypt (next context).2 rest

theorem byte_pack (bytes : List Nat) (small : ∀ value ∈ bytes, value < 2 ^ 8) (i : Nat) :
    byte (pack bytes) i = bytes.getD i 0 := by
  induction bytes generalizing i with
  | nil => rw [pack, byte, Nat.zero_shiftRight, Nat.zero_mod, List.getD_nil]
  | cons first rest ih =>
      have first_small := small first List.mem_cons_self
      cases i with
      | zero =>
          rw [byte, pack, Nat.mul_zero, Nat.shiftRight_zero, Nat.add_mul_mod_self_left, Nat.mod_eq_of_lt first_small]
          rfl
      | succ i =>
          have tail : (first + 2 ^ 8 * pack rest) / 2 ^ 8 = pack rest := by
            rw [Nat.add_mul_div_left _ _ (by decide), Nat.div_eq_of_lt first_small, Nat.zero_add]
          have later := ih (fun value member => small value (List.mem_cons_of_mem _ member)) i
          rw [List.getD_cons_succ, ← later, byte, byte, pack, Nat.mul_succ, Nat.add_comm (8 * i), Nat.shiftRight_add,
            Nat.shiftRight_eq_div_pow _ 8, tail]

theorem packs_start : Packs (pack (List.range 256)) (Vector.ofFn (fun counter : Fin 256 => UInt8.ofNat counter.val)) := by
  intro i
  have small : ∀ value ∈ List.range 256, value < 2 ^ 8 := fun value member => List.mem_range.mp member
  rw [byte_pack _ small]
  have known : (List.range 256)[i.val]? = some i.val := List.getElem?_range i.isLt
  have entry : (Vector.ofFn (fun counter : Fin 256 => UInt8.ofNat counter.val)).get i = UInt8.ofNat i.val :=
    Vector.getElem_ofFn i.isLt
  rw [List.getD_eq_getElem?_getD, known, entry, Option.getD_some, UInt8.toNat_ofNat']
  exact (Nat.mod_eq_of_lt i.isLt).symm

theorem getD_map_toNat (key : List UInt8) (i : Nat) : (key.map UInt8.toNat).getD i 0 = (key.getD i 0).toNat := by
  rw [List.getD_eq_getElem?_getD, List.getElem?_map, List.getD_eq_getElem?_getD]
  cases key[i]? <;> rfl

/-- The state of the schedule, and what stands for it. -/
def Follows (packed : Nat × Nat × Nat) (round : Vector UInt8 256 × Nat × UInt8) : Prop :=
  Packs packed.1 round.1 ∧ packed.2.1 = round.2.1 ∧ packed.2.2 = round.2.2.toNat

theorem init_round_follows {key : List UInt8} {packed : Nat × Nat × Nat} {round : Vector UInt8 256 × Nat × UInt8}
    (follows : Follows packed round) (counter : Fin 256) :
    Follows (init_round (key.map UInt8.toNat) packed counter.val)
      (arcfour_init_round key round.1 round.2.1 round.2.2 counter) := by
  have ⟨packs, keyindex, stateindex⟩ := follows
  have t : byte packed.1 counter.val = (round.1.get counter).toNat := packs counter
  have index : (packed.2.2 + (key.map UInt8.toNat).getD packed.2.1 0 + byte packed.1 counter.val) % 2 ^ 8 =
      (round.2.2 + key.getD round.2.1 0 + round.1.get counter).toNat := by
    rw [stateindex, keyindex, getD_map_toNat, t, UInt8.toNat_add, UInt8.toNat_add, Nat.mod_add_mod]
  unfold init_round arcfour_init_round
  dsimp only
  rw [index, t, packs.get, keyindex, List.length_map]
  exact ⟨(packs.set _ (UInt8.toNat_lt _) _).set _ counter.isLt _, rfl, rfl⟩

theorem packs_init (key : List UInt8) : Packs (init (key.map UInt8.toNat)) (arcfour_init key).state := by
  have follows := @List.foldl_rel _ _ _ (List.finRange 256)
    (fun round (counter : Fin 256) => init_round (key.map UInt8.toNat) round counter.val)
    (fun (round : Vector UInt8 256 × Nat × UInt8) counter =>
      arcfour_init_round key round.1 round.2.1 round.2.2 counter)
    (pack (List.range 256), 0, 0) (Vector.ofFn (fun counter : Fin 256 => UInt8.ofNat counter.val), 0, 0)
    Follows ⟨packs_start, rfl, rfl⟩ (fun counter _ packed round follows => init_round_follows follows counter)
  exact follows.1

theorem next_eq {context : Arc4Context} {n : Nat} (packs : Packs n context.state) :
    ∃ state, Packs state (arcfour_byte context).2.state ∧
      next (context.x.toNat, context.y.toNat, n) = ((arcfour_byte context).1.toNat,
        (arcfour_byte context).2.x.toNat, (arcfour_byte context).2.y.toNat, state) := by
  let x := context.x + 1
  let sx := context.state.get x.toFin
  let y := sx + context.y
  let sy := context.state.get y.toFin
  have state_packs : Packs (put (put n y.toNat sx.toNat) x.toNat sy.toNat) (arcfour_byte context).2.state :=
    (packs.set _ y.toNat_lt _).set _ x.toNat_lt _
  have x_eq : (context.x.toNat + 1) % 2 ^ 8 = x.toNat := (UInt8.toNat_add context.x 1).symm
  have sx_eq : byte n x.toNat = sx.toNat := packs.get x
  have y_eq : (sx.toNat + context.y.toNat) % 2 ^ 8 = y.toNat := (UInt8.toNat_add sx context.y).symm
  have sy_eq : byte n y.toNat = sy.toNat := packs.get y
  have index : (sx.toNat + sy.toNat) % 2 ^ 8 = (sx + sy).toNat := (UInt8.toNat_add sx sy).symm
  refine ⟨_, state_packs, ?_⟩
  unfold next
  dsimp only
  rw [x_eq, sx_eq, y_eq, sy_eq, index, state_packs.get]
  rfl

theorem encrypt_eq {context : Arc4Context} {n : Nat} (packs : Packs n context.state) (src : List UInt8) :
    encrypt (context.x.toNat, context.y.toNat, n) (src.map UInt8.toNat) =
      (arcfour_encrypt context src).1.map UInt8.toNat := by
  induction src generalizing context n with
  | nil => rfl
  | cons first rest ih =>
      have ⟨state, state_packs, nexts⟩ := next_eq packs
      rw [List.map_cons, encrypt, nexts, ih state_packs, ← UInt8.toNat_xor]
      rfl

/-- A text that is encrypted by arithmetic on numbers. -/
theorem arcfour_encrypt_eq {key src result : List UInt8}
    (packed : encrypt (0, 0, init (key.map UInt8.toNat)) (src.map UInt8.toNat) = result.map UInt8.toNat) :
    (arcfour_encrypt (arcfour_init key) src).1 = result := by
  have same := (encrypt_eq (packs_init key) src).symm.trans packed
  exact List.map_injective_iff.mpr (fun first second => UInt8.toNat_inj.mp) same

end ArcfourPacked
end Rtl8821ce
