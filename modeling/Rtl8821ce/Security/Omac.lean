import Rtl8821ce.Security.Ccmp
import Rtl8821ce.Library.Cmac

/-!
# OMAC1

`omac1_aes_128` authenticates the bytes of one buffer.  It is the block cipher code with the
doubling `gf_mulx`.  The block cipher is an arbitrary function.
-/

namespace Rtl8821ce

def AES_BLOCK_SIZE : Nat := 16

def zero_block : Block := Vector.replicate 16 0

/-- Shift the block one bit up, and reduce the bit that leaves it. -/
def gf_mulx (pad : Block) : Block :=
  let carry := pad[0] &&& 0x80
  Vector.ofFn (fun i =>
    if inside : i.val < 15 then (pad[i.val] <<< 1) ||| (pad[i.val + 1] >>> 7)
    else if carry ≠ 0 then (pad[15] <<< 1) ^^^ 0x87
    else pad[15] <<< 1)

/-- Combine the first bytes of `cbc` with the bytes at `pos`. -/
def cbc_xor (cbc : Block) (pos : List UInt8) : Block :=
  Vector.ofFn (fun i => if inside : i.val < pos.length then cbc[i] ^^^ pos[i.val] else cbc[i])

/-- The loop over the whole blocks: `cbc`, and the bytes that are left.  Behind the last byte
the source looks for a next buffer, of which no byte is read. -/
def omac1_whole_blocks (aes_128_encrypt : Block -> Block) : Nat -> Block -> List UInt8 -> Block × List UInt8
  | 0, cbc, left => (cbc, left)
  | fuel + 1, cbc, left =>
      if AES_BLOCK_SIZE ≤ left.length then
        let cbc := cbc_xor cbc (left.take AES_BLOCK_SIZE)
        omac1_whole_blocks aes_128_encrypt fuel
          (if AES_BLOCK_SIZE < left.length then aes_128_encrypt cbc else cbc)
          (left.drop AES_BLOCK_SIZE)
      else (cbc, left)

/-- The end of the function, when `left` are the bytes behind the whole blocks. -/
def omac1_end (aes_128_encrypt : Block -> Block) (partly : Bool) (cbc : Block) (left : List UInt8) : Block :=
  let pad := gf_mulx (aes_128_encrypt zero_block)
  if partly then
    let cbc := cbc_xor cbc left
    let cbc := cbc.setIfInBounds left.length (cbc.toArray.getD left.length 0 ^^^ 0x80)
    aes_128_encrypt (Vector.zipWith (fun a b => a ^^^ b) (gf_mulx pad) cbc)
  else aes_128_encrypt (Vector.zipWith (fun a b => a ^^^ b) pad cbc)

/-- `omac1_aes_128` with memory for its context. -/
def omac1_aes_128 (aes_128_encrypt : Block -> Block) (data : List UInt8) : Block :=
  let done := omac1_whole_blocks aes_128_encrypt data.length zero_block data
  omac1_end aes_128_encrypt (!done.2.isEmpty || data.isEmpty) done.1 done.2

/-- The code of the standard, over a block cipher under one key. -/
def aes_cmac (aes_128_encrypt : Block -> Block) : Cmac.Mode UInt8 16 where
  zero := 0
  mark := 0x80
  combine := fun a b => a ^^^ b
  double := gf_mulx
  encrypt := aes_128_encrypt

section code

variable {aes_128_encrypt : Block -> Block}

theorem getElem_block (piece : List UInt8) {i : Nat} (inside : i < 16) :
    ((aes_cmac aes_128_encrypt).block piece)[i] = piece.getD i 0 := Vector.getElem_ofFn inside

theorem getElem_add (first second : Block) {i : Nat} (inside : i < 16) :
    ((aes_cmac aes_128_encrypt).add first second)[i] = first[i] ^^^ second[i] := Vector.getElem_zipWith inside

theorem getElem_cbc_xor_of_lt (cbc : Block) {pos : List UInt8} {i : Nat} (inside : i < 16) (within : i < pos.length) :
    (cbc_xor cbc pos)[i] = cbc[i] ^^^ pos[i] := by
  simp only [cbc_xor, Vector.getElem_ofFn, dif_pos within]
  rfl

theorem getElem_cbc_xor_of_ge (cbc : Block) {pos : List UInt8} {i : Nat} (inside : i < 16) (behind : pos.length ≤ i) :
    (cbc_xor cbc pos)[i] = cbc[i] := by
  simp only [cbc_xor, Vector.getElem_ofFn, dif_neg (Nat.not_lt.mpr behind)]
  rfl

theorem cbc_xor_full (cbc : Block) {piece : List UInt8} (full : piece.length = 16) :
    cbc_xor cbc piece = (aes_cmac aes_128_encrypt).add cbc ((aes_cmac aes_128_encrypt).block piece) := by
  apply Vector.ext
  intro i inside
  have within : i < piece.length := by omega
  rw [getElem_cbc_xor_of_lt cbc inside within, getElem_add, getElem_block, List.getD_eq_getElem?_getD,
    List.getElem?_eq_getElem within, Option.getD_some]

theorem cbc_xor_marked (cbc : Block) {left : List UInt8} (short : left.length < 16) :
    (cbc_xor cbc left).setIfInBounds left.length ((cbc_xor cbc left).toArray.getD left.length 0 ^^^ 0x80) =
      (aes_cmac aes_128_encrypt).add cbc ((aes_cmac aes_128_encrypt).block (left ++ [0x80])) := by
  have behind : (cbc_xor cbc left).toArray.getD left.length 0 = cbc[left.length] := by
    rw [← getElem_cbc_xor_of_ge cbc short (Nat.le_refl _), Array.getD_eq_getD_getElem?,
      Vector.getElem?_toArray, Vector.getElem?_eq_getElem short, Option.getD_some]
  apply Vector.ext
  intro i inside
  rw [behind, Vector.getElem_setIfInBounds, getElem_add, getElem_block, List.getD_eq_getElem?_getD]
  rcases Nat.lt_trichotomy i left.length with before | rfl | after
  · rw [if_neg (Nat.ne_of_gt before), getElem_cbc_xor_of_lt cbc inside before, List.getElem?_append_left before,
      List.getElem?_eq_getElem before, Option.getD_some]
  · rw [if_pos rfl, List.getElem?_concat_length, Option.getD_some]
  · rw [if_neg (Nat.ne_of_lt after), getElem_cbc_xor_of_ge cbc inside (Nat.le_of_lt after),
      List.getElem?_eq_none (by rw [List.length_append, List.length_singleton]; omega), Option.getD_none,
      UInt8.xor_zero]

theorem zipWith_add (pad cbc piece : Block) :
    Vector.zipWith (fun a b => a ^^^ b) pad ((aes_cmac aes_128_encrypt).add cbc piece) =
      (aes_cmac aes_128_encrypt).add cbc ((aes_cmac aes_128_encrypt).add piece pad) := by
  apply Vector.ext
  intro i inside
  simp only [Cmac.Mode.add, aes_cmac, Vector.getElem_zipWith]
  rw [UInt8.xor_comm pad[i], UInt8.xor_assoc]

theorem block_nil : (aes_cmac aes_128_encrypt).block [] = zero_block := by
  apply Vector.ext
  intro i inside
  rw [getElem_block _ inside, zero_block, Vector.getElem_replicate]
  rfl

theorem subkey_eq : (aes_cmac aes_128_encrypt).subkey = gf_mulx (aes_128_encrypt zero_block) := by
  rw [Cmac.Mode.subkey, block_nil]
  rfl

theorem omac1_end_whole (cbc : Block) {piece : List UInt8} (full : piece.length = 16) :
    omac1_end aes_128_encrypt false (cbc_xor cbc piece) [] =
      aes_128_encrypt ((aes_cmac aes_128_encrypt).add cbc ((aes_cmac aes_128_encrypt).last piece)) := by
  rw [Cmac.Mode.last, if_pos full, ← zipWith_add, ← cbc_xor_full cbc full, subkey_eq]
  rfl

theorem omac1_end_partly (cbc : Block) {left : List UInt8} (short : left.length < 16) :
    omac1_end aes_128_encrypt true cbc left =
      aes_128_encrypt ((aes_cmac aes_128_encrypt).add cbc ((aes_cmac aes_128_encrypt).last left)) := by
  rw [Cmac.Mode.last, if_neg (Nat.ne_of_lt short), ← zipWith_add, subkey_eq]
  unfold omac1_end
  dsimp only
  rw [if_pos rfl, @cbc_xor_marked aes_128_encrypt cbc left short]
  rfl

theorem omac1_whole_blocks_of_short (fuel : Nat) (cbc : Block) {left : List UInt8} (short : left.length < 16) :
    omac1_whole_blocks aes_128_encrypt fuel cbc left = (cbc, left) := by
  cases fuel with
  | zero => rfl
  | succ fuel => exact if_neg (Nat.not_le.mpr short)

theorem omac1_chain {fuel : Nat} {data : List UInt8} (enough : data.length ≤ fuel) (some_byte : data ≠ [])
    (cbc : Block) :
    let done := omac1_whole_blocks aes_128_encrypt fuel cbc data
    omac1_end aes_128_encrypt (!done.2.isEmpty) done.1 done.2 =
      (aes_cmac aes_128_encrypt).chain cbc (Cut.pieces 16 data) := by
  induction fuel generalizing cbc data with
  | zero => exact absurd (List.eq_nil_of_length_eq_zero (Nat.le_zero.mp enough)) some_byte
  | succ fuel ih =>
      intro done
      have turn (full : 16 ≤ data.length) : done = omac1_whole_blocks aes_128_encrypt fuel
          (if 16 < data.length then aes_128_encrypt (cbc_xor cbc (data.take 16)) else cbc_xor cbc (data.take 16))
          (data.drop 16) := if_pos full
      rcases Nat.lt_trichotomy data.length 16 with short | full | long
      · have ends : done = (cbc, data) := omac1_whole_blocks_of_short _ cbc short
        rw [ends, List.isEmpty_eq_false_iff.mpr some_byte, Cmac.Mode.chain_pieces_of_le (Nat.le_of_lt short)]
        exact omac1_end_partly cbc short
      · rw [turn (Nat.le_of_eq full.symm), if_neg (Nat.not_lt.mpr (Nat.le_of_eq full)),
          List.drop_eq_nil_of_le (Nat.le_of_eq full), List.take_of_length_le (Nat.le_of_eq full),
          omac1_whole_blocks_of_short _ _ (by decide), Cmac.Mode.chain_pieces_of_le (Nat.le_of_eq full)]
        exact omac1_end_whole cbc full
      · have piece : (data.take 16).length = 16 := List.length_take_of_le (Nat.le_of_lt long)
        have shorter : (data.drop 16).length ≤ fuel := by
          rw [List.length_drop]
          omega
        have rest : data.drop 16 ≠ [] := fun none_left => Nat.not_le.mpr long (List.drop_eq_nil_iff.mp none_left)
        rw [turn (Nat.le_of_lt long), if_pos long, Cmac.Mode.chain_pieces_of_gt (by decide) long,
          @cbc_xor_full aes_128_encrypt cbc _ piece]
        exact ih shorter rest _

end code

/-- The function computes the code of the standard. -/
theorem omac1_aes_128_eq (aes_128_encrypt : Block -> Block) (data : List UInt8) :
    omac1_aes_128 aes_128_encrypt data = (aes_cmac aes_128_encrypt).mac data := by
  unfold Cmac.Mode.mac
  rw [block_nil]
  cases data with
  | nil =>
      rw [Cmac.Mode.chain_pieces_of_le (Nat.zero_le 16)]
      exact @omac1_end_partly aes_128_encrypt zero_block [] (by decide)
  | cons first rest =>
      have ends := @omac1_chain aes_128_encrypt _ (first :: rest) (Nat.le_refl _) (List.cons_ne_nil _ _) zero_block
      unfold omac1_aes_128
      dsimp only at ends ⊢
      rw [List.isEmpty_cons, Bool.or_false, ends]

end Rtl8821ce
