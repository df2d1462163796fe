import Rtl8821ce.Security.Omac

/-!
# Protection of group addressed management frames

`rtw_BIP_verify` takes the last bytes of a frame as a management MIC element.  The code in it
is compared with the one of the header, without the bits that change on the way, and of what
is behind the header, without the code itself.  A frame has at least its header.
-/

namespace Rtl8821ce

def _MME_IE_ : UInt8 := 76
def BIP_AAD_SIZE : Nat := 20
def AES_PRIV_SIZE : Nat := 4 * 44

/-- The bits of the frame control that are in its second byte. -/
def ClearRetry (pbuf : List UInt8) : List UInt8 := pbuf.modify 1 (fun byte => byte &&& ~~~ 0x08)
def ClearPwrMgt (pbuf : List UInt8) : List UInt8 := pbuf.modify 1 (fun byte => byte &&& ~~~ 0x10)
def ClearMData (pbuf : List UInt8) : List UInt8 := pbuf.modify 1 (fun byte => byte &&& ~~~ 0x20)

/-- `le64_to_cpu` of a number of which six bytes were copied. -/
def le48_to_cpu (pbuf : List UInt8) : Nat :=
  (pbuf.take 6).foldr (fun byte higher => byte.toNat + 256 * higher) 0

/-- The buffer `BIP_AAD`. -/
def bip_aad (whdr_pos : List UInt8) : List UInt8 :=
  let ori_len := whdr_pos.length - WLAN_HDR_A3_LEN + BIP_AAD_SIZE
  let BIP_AAD := Memory.write (fun _ => 0) BIP_AAD_SIZE (whdr_pos.drop WLAN_HDR_A3_LEN)
  let mme := ori_len - 18
  let BIP_AAD := Memory.write BIP_AAD (mme + 10) (List.replicate 8 0)
  let frame_ctl := ClearMData (ClearPwrMgt (ClearRetry (whdr_pos.take 2)))
  let BIP_AAD := Memory.write BIP_AAD 0 frame_ctl
  let BIP_AAD := Memory.write BIP_AAD 2 ((whdr_pos.drop 4).take 18)
  Memory.read BIP_AAD 0 ori_len

/-- The answer, and the packet number that is stored then.  `rtw_malloc` says whether there is
memory of a size, and `ipn` is the stored number. -/
def rtw_BIP_verify (rtw_malloc : Nat -> Bool) (aes_128_encrypt : List UInt8 -> Block -> Block)
    (whdr_pos key : List UInt8) (keyid ipn : Nat) : RecvStatus × Nat :=
  let flen := whdr_pos.length
  let mme := whdr_pos.drop (flen - 18)
  if mme.getD 0 0 ≠ _MME_IE_ then (.RTW_RX_HANDLED, ipn)
  else
    let pkt_keyid := le16_to_cpu (mme.drop 2)
    if pkt_keyid ≠ keyid then (._FAIL, ipn)
    else
      let pkt_ipn := le48_to_cpu (mme.drop 4)
      if pkt_ipn ≤ ipn then (._FAIL, ipn)
      else if !rtw_malloc (flen - WLAN_HDR_A3_LEN + BIP_AAD_SIZE) then (._FAIL, ipn)
      else if !rtw_malloc AES_PRIV_SIZE then (._FAIL, ipn)
      else
        let mic := omac1_aes_128 (aes_128_encrypt key) (bip_aad whdr_pos)
        if mic.toList.take 8 = whdr_pos.drop (flen - 8) then (._SUCCESS, pkt_ipn)
        else (._FAIL, ipn)

/-! ## What is authenticated -/

/-- The frame control without the bits that change, and the three addresses. -/
def masked_header (frame : List UInt8) : List UInt8 :=
  (frame.take 2).modify 1 (fun byte => byte &&& 0xc7) ++ (frame.drop 4).take 18

def zero_mic (body : List UInt8) : List UInt8 :=
  body.take (body.length - 8) ++ List.replicate (min 8 body.length) 0

def bip_message (frame : List UInt8) : List UInt8 :=
  masked_header frame ++ zero_mic (frame.drop WLAN_HDR_A3_LEN)

def mme (frame : List UInt8) : List UInt8 := frame.drop (frame.length - 18)

def mme_keyid (frame : List UInt8) : Nat := le16_to_cpu ((mme frame).drop 2)
def mme_ipn (frame : List UInt8) : Nat := le48_to_cpu ((mme frame).drop 4)
def mme_mic (frame : List UInt8) : List UInt8 := (mme frame).drop 10

/-- The frame ends with an element under the key, whose code is the one of the frame and whose
number is larger than `ipn`.  The length of the element is only one of the bytes under the
code. -/
structure BipVerified (aes_128_encrypt : List UInt8 -> Block -> Block) (frame key : List UInt8)
    (keyid ipn : Nat) : Prop where
  element : (mme frame).head? = some _MME_IE_
  keyid : mme_keyid frame = keyid
  fresh : ipn < mme_ipn frame
  mic : mme_mic frame = ((aes_cmac (aes_128_encrypt key)).mac (bip_message frame)).toList.take 8

theorem length_masked_header {frame : List UInt8} (whole : WLAN_HDR_A3_LEN ≤ frame.length) :
    (masked_header frame).length = BIP_AAD_SIZE := by
  unfold WLAN_HDR_A3_LEN at whole
  simp only [masked_header, BIP_AAD_SIZE, List.length_append, List.length_modify, List.length_take, List.length_drop]
  omega

theorem masked_frame_ctl (pbuf : List UInt8) :
    ClearMData (ClearPwrMgt (ClearRetry pbuf)) = pbuf.modify 1 (fun byte => byte &&& 0xc7) := by
  have masks : (~~~ 0x08 &&& (~~~ 0x10 &&& ~~~ 0x20) : UInt8) = 0xc7 := by decide
  simp only [ClearMData, ClearPwrMgt, ClearRetry, List.modify_modify_eq, Function.comp_def, UInt8.and_assoc, masks]

theorem length_zero_mic (body : List UInt8) : (zero_mic body).length = body.length := by
  rw [zero_mic, List.length_append, List.length_take, List.length_replicate]
  omega

theorem getElem?_zero_mic (body : List UInt8) {i : Nat} (inside : i < body.length) :
    (zero_mic body)[i]? = if i < body.length - 8 then body[i]? else some 0 := by
  unfold zero_mic
  split
  case isTrue before =>
    rw [List.getElem?_append_left (by rw [List.length_take]; omega), List.getElem?_take_of_lt before]
  case isFalse code =>
    have taken : (body.take (body.length - 8)).length = body.length - 8 := by
      rw [List.length_take]
      omega
    rw [List.getElem?_append_right (by omega), taken, List.getElem?_replicate, if_pos (by omega)]

theorem read_zero_mic (memory : Nat -> UInt8) (start : Nat) (body : List UInt8) (eight : 8 ≤ start + body.length) :
    Memory.read (Memory.write (Memory.write memory start body) (start + body.length - 8) (List.replicate 8 0)) start
      body.length = zero_mic body := by
  apply List.ext_getElem?
  intro i
  rcases Nat.lt_or_ge i body.length with inside | behind
  · rw [Memory.getElem?_read _ inside, getElem?_zero_mic body inside]
    split
    case isTrue before =>
      rw [Memory.write_of_outside _ (by omega), Memory.write_of_inside _ inside, List.getElem?_eq_getElem inside]
    case isFalse code =>
      rcases Nat.exists_eq_add_of_le (by omega : start + body.length - 8 ≤ start + i) with ⟨k, place⟩
      rw [place, Memory.write_of_inside _ (by rw [List.length_replicate]; omega), List.getElem_replicate]
  · rw [List.getElem?_eq_none (by rw [Memory.length_read]; exact behind),
      List.getElem?_eq_none (by rw [length_zero_mic]; exact behind)]

theorem bip_aad_eq {frame : List UInt8} (whole : WLAN_HDR_A3_LEN ≤ frame.length) :
    bip_aad frame = bip_message frame := by
  have header := length_masked_header whole
  unfold WLAN_HDR_A3_LEN at whole
  have control : ((frame.take 2).modify 1 (fun byte => byte &&& 0xc7)).length = 2 := by
    rw [List.length_modify, List.length_take]
    omega
  have length : (frame.drop WLAN_HDR_A3_LEN).length = frame.length - WLAN_HDR_A3_LEN := List.length_drop
  have code : frame.length - WLAN_HDR_A3_LEN + BIP_AAD_SIZE - 18 + 10 =
      BIP_AAD_SIZE + (frame.drop WLAN_HDR_A3_LEN).length - 8 := by
    rw [length]
    unfold BIP_AAD_SIZE WLAN_HDR_A3_LEN
    omega
  have headers (memory : Nat -> UInt8) :
      Memory.write (Memory.write memory 0 ((frame.take 2).modify 1 (fun byte => byte &&& 0xc7))) 2
        ((frame.drop 4).take 18) = Memory.write memory 0 (masked_header frame) := by
    have both := Memory.write_append memory 0 ((frame.take 2).modify 1 (fun byte => byte &&& 0xc7))
      ((frame.drop 4).take 18)
    rw [control] at both
    exact both
  unfold bip_aad bip_message
  dsimp only
  rw [masked_frame_ctl, headers, code, ← length, Nat.add_comm _ BIP_AAD_SIZE, Memory.read_add, ← header,
    Memory.read_write, Nat.zero_add, Memory.read_write_of_disjoint _ (Or.inr (by omega)), read_zero_mic _ _ _ (by omega)]

section verify

variable {rtw_malloc : Nat -> Bool} {aes_128_encrypt : List UInt8 -> Block -> Block} {frame key : List UInt8}
  {keyid ipn : Nat}

theorem mme_mic_eq (whole : WLAN_HDR_A3_LEN ≤ frame.length) : mme_mic frame = frame.drop (frame.length - 8) := by
  unfold WLAN_HDR_A3_LEN at whole
  have place : frame.length - 18 + 10 = frame.length - 8 := by omega
  rw [mme_mic, mme, List.drop_drop, place]

theorem element_iff (bytes : List UInt8) : bytes.getD 0 0 = _MME_IE_ <-> bytes.head? = some _MME_IE_ := by
  cases bytes with
  | nil => exact iff_of_false (by decide) nofun
  | cons first rest => exact Option.some_inj.symm

theorem rtw_BIP_verify_eq (whole : WLAN_HDR_A3_LEN ≤ frame.length) :
    rtw_BIP_verify rtw_malloc aes_128_encrypt frame key keyid ipn =
      if (mme frame).getD 0 0 ≠ _MME_IE_ then (.RTW_RX_HANDLED, ipn)
      else if mme_keyid frame ≠ keyid then (._FAIL, ipn)
      else if mme_ipn frame ≤ ipn then (._FAIL, ipn)
      else if !rtw_malloc (frame.length - WLAN_HDR_A3_LEN + BIP_AAD_SIZE) then (._FAIL, ipn)
      else if !rtw_malloc AES_PRIV_SIZE then (._FAIL, ipn)
      else if ((aes_cmac (aes_128_encrypt key)).mac (bip_message frame)).toList.take 8 = mme_mic frame then
        (._SUCCESS, mme_ipn frame)
      else (._FAIL, ipn) := by
  unfold rtw_BIP_verify
  rw [bip_aad_eq whole, omac1_aes_128_eq, mme_mic_eq whole]
  rfl

theorem rtw_BIP_verify_success_iff (whole : WLAN_HDR_A3_LEN ≤ frame.length) :
    (rtw_BIP_verify rtw_malloc aes_128_encrypt frame key keyid ipn).1 = ._SUCCESS <->
      (rtw_malloc (frame.length - WLAN_HDR_A3_LEN + BIP_AAD_SIZE) = true ∧ rtw_malloc AES_PRIV_SIZE = true) ∧
        BipVerified aes_128_encrypt frame key keyid ipn := by
  rw [rtw_BIP_verify_eq whole]
  constructor
  · intro success
    split_ifs at success with element keyid fresh buffer context mic
    refine ⟨⟨by simpa using buffer, by simpa using context⟩, ?_⟩
    exact
      { element := (element_iff _).mp (not_not.mp element)
        keyid := not_not.mp keyid
        fresh := Nat.not_le.mp fresh
        mic := mic.symm }
  · rintro ⟨⟨buffer, context⟩, verified⟩
    rw [if_neg (not_not.mpr ((element_iff _).mpr verified.element)), if_neg (not_not.mpr verified.keyid),
      if_neg (Nat.not_le.mpr verified.fresh), buffer, context]
    exact congrArg Prod.fst (if_pos verified.mic.symm)

/-- The number of an accepted frame is stored, and no other one. -/
theorem rtw_BIP_verify_ipn :
    (rtw_BIP_verify rtw_malloc aes_128_encrypt frame key keyid ipn).2 =
      if (rtw_BIP_verify rtw_malloc aes_128_encrypt frame key keyid ipn).1 = ._SUCCESS then mme_ipn frame
      else ipn := by
  unfold rtw_BIP_verify
  dsimp only
  split_ifs <;> first | rfl | contradiction

end verify

end Rtl8821ce
