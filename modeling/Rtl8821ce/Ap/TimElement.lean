import Mathlib.Data.List.GetD
import Rtl8821ce.Ap.BeaconArea

/-!
# The element of the traffic indication map

`rtw_set_tim_ie` writes the octets of the bitmap from an even one up to the last that is not zero.
A station reads the bit of its AID with the offset in the bitmap control.
-/

namespace Rtl8821ce
namespace Beacon

/-! ## The source -/

def _SSID_IE_ : UInt8 := 0

def _SUPPORTEDRATES_IE_ : UInt8 := 1

def _TIM_IE_ : UInt8 := 5

/-- The octets that a bitmap has for the AIDs up to `max_aid`. -/
def AID_BMP_LEN (max_aid : UInt8) : Nat :=
  (max_aid.toNat + 1) / 8 + if (max_aid.toNat + 1) % 8 ≠ 0 then 1 else 0

def rtw_bmp_is_set (bmp : List UInt8) (id : UInt8) : Bool :=
  if bmp.length ≤ id.toNat / 8 then false
  else (bmp.getD (id.toNat / 8) 0).toNat.testBit (id.toNat % 8)

def rtw_bmp_not_empty (bmp : List UInt8) : Bool := bmp.any (fun octet => octet ≠ 0)

/-- The loop that goes down to octet 0, which it does not look at. -/
def last_nonzero (tim_bmp : List UInt8) : Nat -> Nat
  | 0 => 0
  | i + 1 => if tim_bmp.getD (i + 1) 0 ≠ 0 then i + 1 else last_nonzero tim_bmp i

def tim_n1 (tim_bmp : List UInt8) : Nat :=
  if rtw_bmp_not_empty tim_bmp then tim_bmp.findIdx (fun octet => octet ≠ 0) &&& 0xFE else 0

def tim_n2 (tim_bmp : List UInt8) : Nat :=
  if rtw_bmp_not_empty tim_bmp then last_nonzero tim_bmp (tim_bmp.length - 1) else 0

def tim_bmp_len (tim_bmp : List UInt8) : Nat := tim_n2 tim_bmp - tim_n1 tim_bmp + 1

/-- The bytes that `rtw_set_tim_ie` writes; it returns how many they are. -/
def rtw_set_tim_ie (dtim_cnt dtim_period : UInt8) (tim_bmp : List UInt8) : List UInt8 :=
  [_TIM_IE_, UInt8.ofNat (2 + 1 + tim_bmp_len tim_bmp), dtim_cnt, dtim_period,
    UInt8.ofNat ((if rtw_bmp_is_set tim_bmp 0 then 1 else 0) ||| tim_n1 tim_bmp)] ++
      (tim_bmp.drop (tim_n1 tim_bmp)).take (tim_bmp_len tim_bmp)

def bitmap_bit (bmp : List UInt8) (aid : Nat) : Bool :=
  (bmp.getD (aid / 8) 0).toNat.testBit (aid % 8)

/-- An octet of the map that an element describes: the partial bitmap begins at the offset. -/
def tim_octet (body : List UInt8) (octet : Nat) : UInt8 :=
  let offset := (body.getD 2 0).toNat / 2
  if 2 * offset ≤ octet then body.getD (3 + (octet - 2 * offset)) 0 else 0

def tim_bit (body : List UInt8) (aid : Nat) : Bool :=
  (tim_octet body (aid / 8)).toNat.testBit (aid % 8)

def tim_group_bit (body : List UInt8) : Bool := (body.getD 2 0).toNat.testBit 0

/-- An element tells the bits of a bitmap. -/
structure Tells (body bmp : List UInt8) : Prop where
  aids : ∀ aid, 1 ≤ aid -> tim_bit body aid = bitmap_bit bmp aid
  group : tim_group_bit body = bitmap_bit bmp 0

/-! ## What the element holds -/

variable {tim_bmp : List UInt8}

theorem aid_bmp_len_bounds (max_aid : UInt8) : 0 < AID_BMP_LEN max_aid ∧ AID_BMP_LEN max_aid ≤ 32 := by
  have bound := max_aid.toNat_lt
  unfold AID_BMP_LEN
  split
  · omega
  · omega

theorem last_nonzero_le (start : Nat) : last_nonzero tim_bmp start ≤ start := by
  induction start with
  | zero => exact Nat.le_refl 0
  | succ i ih =>
      unfold last_nonzero
      split
      · exact Nat.le_refl _
      · exact Nat.le_succ_of_le ih

theorem zero_behind_last {start octet : Nat} (behind : last_nonzero tim_bmp start < octet)
    (within : octet ≤ start) : tim_bmp.getD octet 0 = 0 := by
  induction start with
  | zero => exact absurd (Nat.lt_of_lt_of_le behind within) (Nat.lt_irrefl 0)
  | succ i ih =>
      unfold last_nonzero at behind
      split at behind
      case isTrue => exact absurd (Nat.lt_of_lt_of_le behind within) (Nat.lt_irrefl _)
      case isFalse zero =>
          by_cases here : octet = i + 1
          · exact here ▸ Decidable.not_not.mp zero
          · exact ih behind (by omega)

theorem zero_of_empty (empty : rtw_bmp_not_empty tim_bmp = false) (octet : Nat) : tim_bmp.getD octet 0 = 0 := by
  by_cases inside : octet < tim_bmp.length
  · have all := List.any_eq_false.mp empty _ (List.getElem_mem inside)
    rw [List.getD_eq_getElem _ _ inside]
    simpa using all
  · exact List.getD_eq_default _ _ (Nat.not_lt.mp inside)

theorem zero_before_first {octet : Nat}
    (before : octet < tim_bmp.findIdx (fun octet => octet ≠ 0)) : tim_bmp.getD octet 0 = 0 := by
  have inside := Nat.lt_of_lt_of_le before List.findIdx_le_length
  rw [List.getD_eq_getElem _ _ inside]
  simpa using List.not_of_lt_findIdx before

theorem tim_n1_le : tim_n1 tim_bmp ≤ tim_bmp.findIdx (fun octet => octet ≠ 0) := by
  unfold tim_n1
  split
  · exact Nat.and_le_left
  · exact Nat.zero_le _

theorem zero_before_n1 {octet : Nat} (before : octet < tim_n1 tim_bmp) : tim_bmp.getD octet 0 = 0 :=
  zero_before_first (Nat.lt_of_lt_of_le before tim_n1_le)

theorem zero_behind_n2 {octet : Nat} (behind : tim_n2 tim_bmp < octet) : tim_bmp.getD octet 0 = 0 := by
  cases some_ : rtw_bmp_not_empty tim_bmp with
  | false => exact zero_of_empty some_ octet
  | true =>
      rw [tim_n2, if_pos some_] at behind
      by_cases inside : octet ≤ tim_bmp.length - 1
      · exact zero_behind_last behind inside
      · exact List.getD_eq_default _ _ (by omega)

theorem tim_n1_lt (nonempty : 0 < tim_bmp.length) : tim_n1 tim_bmp < tim_bmp.length := by
  cases some_ : rtw_bmp_not_empty tim_bmp with
  | false =>
      rw [tim_n1, some_, if_neg Bool.false_ne_true]
      exact nonempty
  | true =>
      refine Nat.lt_of_le_of_lt tim_n1_le (List.findIdx_lt_length_of_exists ?_)
      exact List.any_eq_true.mp some_

theorem tim_n2_lt (nonempty : 0 < tim_bmp.length) : tim_n2 tim_bmp < tim_bmp.length := by
  have last := @last_nonzero_le tim_bmp (tim_bmp.length - 1)
  unfold tim_n2
  split
  · omega
  · exact nonempty

theorem partial_octet (octet : Nat) :
    (if tim_n1 tim_bmp ≤ octet then
      ((tim_bmp.drop (tim_n1 tim_bmp)).take (tim_bmp_len tim_bmp)).getD (octet - tim_n1 tim_bmp) 0
    else 0) = tim_bmp.getD octet 0 := by
  split
  case isTrue from_ =>
      rw [List.getD_eq_getElem?_getD, List.getElem?_take, List.getElem?_drop, Nat.add_sub_cancel' from_]
      split
      case isTrue => exact (List.getD_eq_getElem?_getD).symm
      case isFalse beyond =>
          unfold tim_bmp_len at beyond
          exact (zero_behind_n2 (by omega)).symm
  case isFalse before => exact (zero_before_n1 (Nat.not_le.mp before)).symm

theorem and_even (i : Nat) (small : i < 256) : i &&& 0xFE = 2 * (i / 2) := by
  have all : ∀ i : Fin 256, i.val &&& 0xFE = 2 * (i.val / 2) := by decide +kernel
  exact all ⟨i, small⟩

theorem tim_n1_even (short : tim_bmp.length ≤ 256) : tim_n1 tim_bmp = 2 * (tim_n1 tim_bmp / 2) := by
  unfold tim_n1
  split
  case isTrue some_ =>
      have inside := List.findIdx_lt_length_of_exists (List.any_eq_true.mp some_)
      rw [and_even _ (Nat.lt_of_lt_of_le inside short)]
      omega
  case isFalse => rfl

theorem set_even (half : Nat) (small : half < 128) (set : Bool) :
    (UInt8.ofNat ((if set then 1 else 0) ||| 2 * half)).toNat = 2 * half + set.toNat := by
  have all : ∀ (half : Fin 128) (set : Bool),
      (UInt8.ofNat ((if set then 1 else 0) ||| 2 * half.val)).toNat = 2 * half.val + set.toNat := by
    decide +kernel
  exact all ⟨half, small⟩ set

theorem tim_control (short : tim_bmp.length ≤ 256) (nonempty : 0 < tim_bmp.length) :
    (UInt8.ofNat ((if rtw_bmp_is_set tim_bmp 0 then 1 else 0) ||| tim_n1 tim_bmp)).toNat =
      tim_n1 tim_bmp + (rtw_bmp_is_set tim_bmp 0).toNat := by
  have even := tim_n1_even short
  have inside := tim_n1_lt nonempty
  rw [even]
  exact set_even _ (by omega) _

theorem bmp_is_set_zero (nonempty : 0 < tim_bmp.length) : rtw_bmp_is_set tim_bmp 0 = bitmap_bit tim_bmp 0 :=
  if_neg (Nat.not_le.mpr nonempty)

theorem tim_control_byte (dtim_cnt dtim_period : UInt8) :
    ((rtw_set_tim_ie dtim_cnt dtim_period tim_bmp).drop 2).getD 2 0 =
      UInt8.ofNat ((if rtw_bmp_is_set tim_bmp 0 then 1 else 0) ||| tim_n1 tim_bmp) := rfl

theorem tim_partial_byte (dtim_cnt dtim_period : UInt8) (i : Nat) :
    ((rtw_set_tim_ie dtim_cnt dtim_period tim_bmp).drop 2).getD (3 + i) 0 =
      ((tim_bmp.drop (tim_n1 tim_bmp)).take (tim_bmp_len tim_bmp)).getD i 0 := by
  rw [Nat.add_comm]
  rfl

theorem rtw_set_tim_ie_tells (short : tim_bmp.length ≤ 256) (nonempty : 0 < tim_bmp.length)
    (dtim_cnt dtim_period : UInt8) : Tells ((rtw_set_tim_ie dtim_cnt dtim_period tim_bmp).drop 2) tim_bmp := by
  have control := tim_control short nonempty
  have even := tim_n1_even short
  have bit := Bool.toNat_le (rtw_bmp_is_set tim_bmp 0)
  constructor
  case aids =>
      intro aid _
      have half : 2 * ((tim_n1 tim_bmp + (rtw_bmp_is_set tim_bmp 0).toNat) / 2) = tim_n1 tim_bmp := by
        omega
      simp only [tim_bit, tim_octet, bitmap_bit, tim_control_byte, control, half, tim_partial_byte, partial_octet]
  case group =>
      rw [<- bmp_is_set_zero nonempty, tim_group_bit, tim_control_byte, control, even,
        Nat.testBit_zero, Nat.mul_add_mod]
      cases rtw_bmp_is_set tim_bmp 0 with
      | true => rfl
      | false => rfl

theorem tim_bmp_len_le (nonempty : 0 < tim_bmp.length) : tim_bmp_len tim_bmp ≤ tim_bmp.length := by
  have last := tim_n2_lt nonempty
  unfold tim_bmp_len
  omega

theorem length_rtw_set_tim_ie (nonempty : 0 < tim_bmp.length) (dtim_cnt dtim_period : UInt8) :
    (rtw_set_tim_ie dtim_cnt dtim_period tim_bmp).length = 5 + tim_bmp_len tim_bmp := by
  have first := tim_n1_lt nonempty
  have last := tim_n2_lt nonempty
  have whole : tim_bmp_len tim_bmp ≤ tim_bmp.length - tim_n1 tim_bmp := by
    unfold tim_bmp_len
    omega
  rw [rtw_set_tim_ie, List.length_append, List.length_take, List.length_drop, Nat.min_eq_left whole]
  rfl

end Beacon
end Rtl8821ce
