import Rtl8821ce.Security.Omac

/-!
# AES-SIV

`aes_siv_encrypt` puts the code of the plaintext and of the other elements before the
ciphertext, and counts from that code.  `aes_siv_decrypt` writes the plaintext also where it
refuses the code.  The block cipher is an arbitrary function, and there is memory.
-/

namespace Rtl8821ce

namespace Siv

/-- The text of `gf_mulx`. -/
def dbl (pad : Block) : Block := gf_mulx pad

def xor (a b : Block) : Block := Vector.zipWith (fun a b => a ^^^ b) a b

def xorend (a b : List UInt8) : List UInt8 :=
  if a.length < b.length then a
  else a.take (a.length - b.length) ++ List.zipWith (fun a b => a ^^^ b) (a.drop (a.length - b.length)) b

/-- For an element of at most one block. -/
def pad_block (addr : List UInt8) : Block := Vector.ofFn (fun i => (addr ++ [0x80]).getD i 0)

/-- The loop over the bytes of the counter, from its last one. -/
def counter_up : Nat -> Block -> Block
  | 0, counter => counter
  | i + 1, counter =>
      let counter := counter.setIfInBounds i (counter.toArray.getD i 0 + 1)
      if counter.toArray.getD i 0 ≠ 0 then counter else counter_up i counter

/-- The loop over the blocks of the data. -/
def ctr_blocks (encrypt : Block -> Block) : Nat -> Block -> List UInt8 -> List UInt8
  | 0, _, left => left
  | fuel + 1, counter, left =>
      if left = [] then left
      else
        List.zipWith (fun a b => a ^^^ b) (encrypt counter).toList (left.take AES_BLOCK_SIZE) ++
          ctr_blocks encrypt fuel (counter_up AES_BLOCK_SIZE counter) (left.drop AES_BLOCK_SIZE)

/-- Zero out the 63rd and the 31st bit, from the right. -/
def siv_counter (v : Block) : Block := v.mapIdx (fun i byte => if i = 8 ∨ i = 12 then byte &&& 0x7f else byte)

section siv

variable (aes_128_encrypt : List UInt8 -> Block -> Block) (key : List UInt8)

def aes_s2v (addr : List (List UInt8)) : Block :=
  let omac1 := omac1_aes_128 (aes_128_encrypt key)
  match addr.getLast? with
  | none => omac1 (zero_block.setIfInBounds 15 1).toList
  | some last =>
      let tmp := addr.dropLast.foldl (fun tmp element => xor (dbl tmp) (omac1 element)) (omac1 zero_block.toList)
      if AES_BLOCK_SIZE ≤ last.length then omac1 (xorend last tmp.toList)
      else omac1 (xor (dbl tmp) (pad_block last)).toList

def aes_128_ctr_encrypt (nonce : Block) (data : List UInt8) : List UInt8 :=
  ctr_blocks (aes_128_encrypt key) data.length nonce data

/-- The bytes at `out`, or the answer -1. -/
def aes_siv_encrypt (pw : List UInt8) (addr : List (List UInt8)) : Option (List UInt8) :=
  if 5 < addr.length then none
  else
    let v := aes_s2v aes_128_encrypt (key.take 16) (addr ++ [pw])
    some (v.toList ++ aes_128_ctr_encrypt aes_128_encrypt (key.drop 16) (siv_counter v) pw)

/-- The answer, and the bytes at `out` when it was written. -/
def aes_siv_decrypt (iv_crypt : List UInt8) (addr : List (List UInt8)) : Int × Option (List UInt8) :=
  if iv_crypt.length < AES_BLOCK_SIZE ∨ 5 < addr.length then (-1, none)
  else
    let iv : Block := Vector.ofFn (fun i => iv_crypt.getD i 0)
    let out := aes_128_ctr_encrypt aes_128_encrypt (key.drop 16) (siv_counter iv) (iv_crypt.drop AES_BLOCK_SIZE)
    let check := aes_s2v aes_128_encrypt (key.take 16) (addr ++ [out])
    (if check.toList = iv_crypt.take AES_BLOCK_SIZE then 0 else -1, some out)

end siv

/-- What the counters are encrypted to. -/
def ctr_stream (encrypt : Block -> Block) : Nat -> Block -> List UInt8
  | 0, _ => []
  | fuel + 1, counter => (encrypt counter).toList ++ ctr_stream encrypt fuel (counter_up AES_BLOCK_SIZE counter)

theorem ctr_blocks_eq {encrypt : Block -> Block} {fuel : Nat} :
    ∀ {counter : Block} {data : List UInt8}, data.length ≤ fuel ->
      ctr_blocks encrypt fuel counter data =
        List.zipWith (fun a b => a ^^^ b) (ctr_stream encrypt fuel counter) data := by
  induction fuel with
  | zero =>
      intro counter data enough
      exact List.eq_nil_of_length_eq_zero (Nat.le_zero.mp enough)
  | succ fuel ih =>
      intro counter data enough
      unfold ctr_blocks ctr_stream
      by_cases none_left : data = []
      · rw [if_pos none_left, none_left, List.zipWith_nil_right]
      · have first : (encrypt counter).toList.length = AES_BLOCK_SIZE := Vector.length_toList
        have fewer : (data.drop AES_BLOCK_SIZE).length ≤ fuel := by
          have some_byte := List.length_pos_iff.mpr none_left
          rw [List.length_drop, AES_BLOCK_SIZE]
          omega
        rw [if_neg none_left, ih fewer, ← List.take_append_drop AES_BLOCK_SIZE (List.zipWith _ (_ ++ _) data),
          List.take_zipWith, List.drop_zipWith, List.take_left' first, List.drop_left' first]

theorem length_ctr_stream (encrypt : Block -> Block) (fuel : Nat) :
    ∀ counter : Block, fuel ≤ (ctr_stream encrypt fuel counter).length := by
  induction fuel with
  | zero => exact fun counter => Nat.zero_le _
  | succ fuel ih =>
      intro counter
      rw [ctr_stream, List.length_append, Vector.length_toList]
      have rest := ih (counter_up AES_BLOCK_SIZE counter)
      omega

theorem length_ctr_blocks (encrypt : Block -> Block) (counter : Block) (data : List UInt8) :
    (ctr_blocks encrypt data.length counter data).length = data.length := by
  rw [ctr_blocks_eq (Nat.le_refl _), List.length_zipWith]
  exact Nat.min_eq_right (length_ctr_stream encrypt data.length counter)

/-- Counting again from the same number takes the stream away. -/
theorem ctr_blocks_ctr_blocks (encrypt : Block -> Block) (counter : Block) {data crypt : List UInt8}
    (encrypted : ctr_blocks encrypt data.length counter data = crypt) :
    ctr_blocks encrypt crypt.length counter crypt = data := by
  have length : crypt.length = data.length := encrypted ▸ length_ctr_blocks encrypt counter data
  rw [ctr_blocks_eq (Nat.le_refl _), length, ← encrypted, ctr_blocks_eq (Nat.le_refl _)]
  apply List.ext_getElem
  · have longer := length_ctr_stream encrypt data.length counter
    rw [List.length_zipWith, List.length_zipWith]
    omega
  · intro i masked plain
    rw [List.getElem_zipWith, List.getElem_zipWith, xor_involutive]

section

variable {cipher : List UInt8 -> Block -> Block} {key rest pw : List UInt8} {addr : List (List UInt8)}
  {v : Block}

theorem aes_siv_encrypt_iff (few : ¬ 5 < addr.length) :
    aes_siv_encrypt cipher key pw addr = some (v.toList ++ rest) <->
      aes_s2v cipher (key.take 16) (addr ++ [pw]) = v ∧
      aes_128_ctr_encrypt cipher (key.drop 16) (siv_counter v) pw = rest := by
  unfold aes_siv_encrypt
  rw [if_neg few, Option.some.injEq]
  constructor
  · intro same
    rcases List.append_inj same (by rw [Vector.length_toList, Vector.length_toList]) with ⟨code, crypt⟩
    rw [Vector.toList_inj] at code
    exact ⟨code, code ▸ crypt⟩
  · rintro ⟨rfl, rfl⟩
    rfl

theorem aes_siv_decrypt_iff (few : ¬ 5 < addr.length) :
    aes_siv_decrypt cipher key (v.toList ++ rest) addr = (0, some pw) <->
      aes_s2v cipher (key.take 16) (addr ++ [pw]) = v ∧
      aes_128_ctr_encrypt cipher (key.drop 16) (siv_counter v) rest = pw := by
  have length : v.toList.length = AES_BLOCK_SIZE := Vector.length_toList
  have long : ¬ (v.toList ++ rest).length < AES_BLOCK_SIZE := by
    rw [List.length_append, length]
    omega
  have front : (Vector.ofFn (fun i => (v.toList ++ rest).getD i 0) : Block) = v := by
    apply Vector.ext
    intro i inside
    rw [Vector.getElem_ofFn, List.getD_eq_getElem?_getD, List.getElem?_append_left (length.symm ▸ inside),
      List.getElem?_eq_getElem (length.symm ▸ inside), Option.getD_some, Vector.getElem_toList]
  unfold aes_siv_decrypt
  rw [if_neg (not_or.mpr ⟨long, few⟩), front, List.take_left' length, List.drop_left' length, Prod.mk.injEq,
    Option.some.injEq, ite_eq_left_iff, Vector.toList_inj]
  constructor
  · rintro ⟨checked, rfl⟩
    exact ⟨not_not.mp fun differs => absurd (checked differs) (by decide), rfl⟩
  · rintro ⟨checked, rfl⟩
    exact ⟨fun differs => absurd checked differs, rfl⟩

theorem length_aes_siv_encrypt {out : List UInt8} (made : aes_siv_encrypt cipher key pw addr = some out) :
    out.length = AES_BLOCK_SIZE + pw.length := by
  unfold aes_siv_encrypt at made
  split at made
  · cases made
  · rw [← Option.some.inj made, List.length_append, Vector.length_toList]
    exact congrArg (AES_BLOCK_SIZE + ·) (length_ctr_blocks _ _ pw)

theorem aes_siv_decrypt_iff_encrypt {iv_crypt : List UInt8} :
    aes_siv_decrypt cipher key iv_crypt addr = (0, some pw) <->
      aes_siv_encrypt cipher key pw addr = some iv_crypt := by
  by_cases many : 5 < addr.length
  · unfold aes_siv_decrypt aes_siv_encrypt
    rw [if_pos (Or.inr many), if_pos many]
    exact iff_of_false (by rintro ⟨⟩) (by rintro ⟨⟩)
  by_cases short : iv_crypt.length < AES_BLOCK_SIZE
  · unfold aes_siv_decrypt aes_siv_encrypt
    rw [if_pos (Or.inl short), if_neg many, Option.some.injEq]
    refine iff_of_false (by rintro ⟨⟩) ?_
    rintro rfl
    rw [List.length_append, Vector.length_toList, AES_BLOCK_SIZE] at short
    omega
  have front : (iv_crypt.take AES_BLOCK_SIZE).length = 16 := by
    rw [List.length_take]
    exact Nat.min_eq_left (Nat.not_lt.mp short)
  rcases (⟨⟨(iv_crypt.take AES_BLOCK_SIZE).toArray, front⟩, rfl⟩ :
    ∃ v : Block, v.toList = iv_crypt.take AES_BLOCK_SIZE) with ⟨v, is_front⟩
  rw [← List.take_append_drop AES_BLOCK_SIZE iv_crypt, ← is_front, aes_siv_decrypt_iff many, aes_siv_encrypt_iff many]
  exact and_congr_right fun _ => ⟨ctr_blocks_ctr_blocks _ _, ctr_blocks_ctr_blocks _ _⟩

end

end Siv

end Rtl8821ce
