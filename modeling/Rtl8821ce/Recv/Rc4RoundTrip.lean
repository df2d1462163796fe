import Rtl8821ce.Recv.Decryptor
import Rtl8821ce.Xmit.SwEncrypt

/-!
# WEP and TKIP frames come back

The sender seals the payload of a frame of one fragment in place; the receiver
takes the bytes of the frame, finds the index of the key in the IV, and makes
the same RC4 key from the IV and its own tables.  What is behind the frame in
the memory of the receiver does not matter.
-/

namespace Rtl8821ce

namespace Decrypt

variable {padapter : XmitAdapter} {psecuritypriv : RxSecurity} {keyidx : Nat}

/-- Header and IV of a frame of one fragment, in front of its payload. -/
def mpdu_front (pattrib : PktAttrib) : Nat := pattrib.hdrlen + pattrib.iv_len

def mpdu_payload_len (pattrib : PktAttrib) (laid : Laid) : Nat :=
  laid.last_txcmdsz - pattrib.hdrlen - pattrib.iv_len - pattrib.icv_len

def mpdu_payload (pattrib : PktAttrib) (laid : Laid) : List UInt8 :=
  Memory.read laid.buf (TXDESC_OFFSET + mpdu_front pattrib) (mpdu_payload_len pattrib laid)

/-- The frame in the clear: header and IV, the payload, and the ICV of the payload. -/
def clear_mpdu (pattrib : PktAttrib) (laid : Laid) : List UInt8 :=
  Memory.read laid.buf TXDESC_OFFSET (mpdu_front pattrib) ++ mpdu_payload pattrib laid ++
    icv_bytes (mpdu_payload pattrib laid)

/-- The frame has one fragment, with room for the check value. -/
structure SingleMpdu (pattrib : PktAttrib) (laid : Laid) : Prop where
  one : laid.nr_frags = 1
  room : pattrib.hdrlen + pattrib.iv_len + pattrib.icv_len ≤ laid.last_txcmdsz

/-- The frame as the receiver has it, from the buffer of the sender. -/
structure Receives (pattrib : PktAttrib) (laid : Laid) (encrypted : Nat -> UInt8)
    (precv_frame : RecvFrame) : Prop where
  rx_data : precv_frame.rx_data = Memory.read encrypted TXDESC_OFFSET laid.last_txcmdsz
  hdrlen : precv_frame.attrib.hdrlen = pattrib.hdrlen
  iv_len : precv_frame.attrib.iv_len = pattrib.iv_len
  encrypt : precv_frame.attrib.encrypt = pattrib.encrypt
  ra : precv_frame.attrib.ra = pattrib.ra
  ta : precv_frame.attrib.ta = pattrib.ta

/-! ## Both ends of an RC4 stream -/

theorem encrypt_frame_single {pattrib : PktAttrib} {laid : Laid}
    (single : SingleMpdu pattrib laid) (pass : (Nat -> UInt8) -> Nat -> Nat -> Nat -> UInt8) :
    (encrypt_frame padapter pattrib laid pass).1 =
      pass laid.buf TXDESC_OFFSET (mpdu_payload_len pattrib laid) := by
  unfold encrypt_frame
  rw [single.one]
  rfl

section

variable {pattrib : PktAttrib} {laid : Laid} {precv_frame : RecvFrame} {key : List UInt8}
  (single : SingleMpdu pattrib laid) (short : pattrib.icv_len = 4)
  (received : Receives pattrib laid
    (arcfour_fragment key laid.buf (TXDESC_OFFSET + pattrib.hdrlen + pattrib.iv_len)
      (mpdu_payload_len pattrib laid)) precv_frame)
  (behind : Nat -> UInt8)

include received in
theorem received_len : precv_frame.len = laid.last_txcmdsz := by
  unfold RecvFrame.len
  rw [received.rx_data, Memory.length_read]

include received in
theorem payload_index_received (env : DecryptEnv) :
    payload_index (set_key_index env precv_frame).attrib = mpdu_front pattrib := by
  show precv_frame.attrib.hdrlen + precv_frame.attrib.iv_len = _
  rw [received.hdrlen, received.iv_len]
  rfl

include single short

theorem last_txcmdsz_eq : laid.last_txcmdsz = mpdu_front pattrib + (mpdu_payload_len pattrib laid + 4) := by
  have room := single.room
  unfold mpdu_front mpdu_payload_len
  omega

theorem length_clear_mpdu : (clear_mpdu pattrib laid).length = laid.last_txcmdsz := by
  rw [clear_mpdu, List.length_append, List.length_append, Memory.length_read, mpdu_payload,
    Memory.length_read, length_icv_bytes, last_txcmdsz_eq single short, Nat.add_assoc]

theorem read_clear_mpdu (behind : Nat -> UInt8) :
    Memory.read (Memory.write behind 0 (clear_mpdu pattrib laid)) 0 laid.last_txcmdsz =
      clear_mpdu pattrib laid := by
  have read := Memory.read_write behind 0 (clear_mpdu pattrib laid)
  rw [length_clear_mpdu single short] at read
  exact read

theorem read_clear_body (behind : Nat -> UInt8) :
    Memory.read (Memory.write behind 0 (clear_mpdu pattrib laid)) (mpdu_front pattrib)
        (mpdu_payload_len pattrib laid) = mpdu_payload pattrib laid ∧
      Memory.read (Memory.write behind 0 (clear_mpdu pattrib laid))
        (mpdu_front pattrib + mpdu_payload_len pattrib laid) 4 =
          icv_bytes (mpdu_payload pattrib laid) := by
  have whole := read_clear_mpdu single short behind
  rw [last_txcmdsz_eq single short, ← Nat.add_assoc, Memory.read_add, Memory.read_add, Nat.zero_add,
    Nat.zero_add] at whole
  have parts := List.append_inj' whole (by rw [Memory.length_read, length_icv_bytes])
  have front := List.append_inj' parts.1 (by
    rw [Memory.length_read, mpdu_payload, Memory.length_read])
  exact ⟨front.2, parts.2⟩

include received

theorem received_bytes :
    precv_frame.rx_data = Memory.read laid.buf TXDESC_OFFSET (mpdu_front pattrib) ++
      arcfour_sealed key (mpdu_payload pattrib laid) := by
  have place : TXDESC_OFFSET + pattrib.hdrlen + pattrib.iv_len = TXDESC_OFFSET + mpdu_front pattrib :=
    Nat.add_assoc _ _ _
  have sealedLength : (arcfour_sealed key (mpdu_payload pattrib laid)).length =
      mpdu_payload_len pattrib laid + 4 := by
    rw [length_arcfour_sealed, mpdu_payload, Memory.length_read]
  rw [received.rx_data, arcfour_fragment_eq, place, last_txcmdsz_eq single short, Memory.read_add,
    Memory.read_write_of_disjoint laid.buf (Or.inl (Nat.le_refl _)), ← sealedLength]
  exact congrArg _ (Memory.read_write _ _ _)

theorem received_memory :
    frame_memory precv_frame behind = Memory.write
      (Memory.write behind 0 (Memory.read laid.buf TXDESC_OFFSET (mpdu_front pattrib)))
      (mpdu_front pattrib) (arcfour_sealed key (mpdu_payload pattrib laid)) := by
  have joined := Memory.write_append behind 0
    (Memory.read laid.buf TXDESC_OFFSET (mpdu_front pattrib))
    (arcfour_sealed key (mpdu_payload pattrib laid))
  rw [Memory.length_read, Nat.zero_add] at joined
  rw [joined, ← received_bytes single short received]
  rfl

theorem received_front {start length : Nat} (within : start + length ≤ mpdu_front pattrib) :
    Memory.read (frame_memory precv_frame behind) start length =
      Memory.read laid.buf (TXDESC_OFFSET + start) length := by
  rw [received_memory single short received behind, Memory.read_write_of_disjoint _ (Or.inl within)]
  apply List.ext_getElem
  · rw [Memory.length_read, Memory.length_read]
  · intro i inside _
    rw [Memory.length_read] at inside
    have position : start + i <
        (Memory.read laid.buf TXDESC_OFFSET (mpdu_front pattrib)).length := by
      rw [Memory.length_read]
      omega
    have cell := @Memory.write_of_inside _ behind 0 _ _ position
    rw [Nat.zero_add] at cell
    rw [Memory.getElem_read, cell, Memory.getElem_read, Memory.getElem_read, Nat.add_assoc]

theorem arcfour_body_received {prxattrib : RxPktAttrib} (front : payload_index prxattrib = mpdu_front pattrib) :
    arcfour_body key prxattrib precv_frame.len (frame_memory precv_frame behind) =
      Memory.write behind 0 (clear_mpdu pattrib laid) := by
  have sealedLength : (arcfour_sealed key (mpdu_payload pattrib laid)).length =
      mpdu_payload_len pattrib laid + 4 := by
    rw [length_arcfour_sealed, mpdu_payload, Memory.length_read]
  have body : precv_frame.len - mpdu_front pattrib =
      (arcfour_sealed key (mpdu_payload pattrib laid)).length := by
    rw [received_len received, last_txcmdsz_eq single short, sealedLength]
    exact Nat.add_sub_cancel_left _ _
  have opened : (arcfour_encrypt (arcfour_init key)
      (arcfour_sealed key (mpdu_payload pattrib laid))).1 =
        mpdu_payload pattrib laid ++ icv_bytes (mpdu_payload pattrib laid) :=
    arcfour_encrypt_twice _ _
  have sameLength : (arcfour_sealed key (mpdu_payload pattrib laid)).length =
      (mpdu_payload pattrib laid ++ icv_bytes (mpdu_payload pattrib laid)).length := by
    rw [length_arcfour_sealed, List.length_append, length_icv_bytes]
  have joined := Memory.write_append behind 0
    (Memory.read laid.buf TXDESC_OFFSET (mpdu_front pattrib))
    (mpdu_payload pattrib laid ++ icv_bytes (mpdu_payload pattrib laid))
  rw [Memory.length_read, Nat.zero_add] at joined
  unfold arcfour_body
  rw [front, body, received_memory single short received behind]
  dsimp only
  rw [Memory.read_write, opened, Memory.write_write _ _ sameLength, joined, clear_mpdu, List.append_assoc]

theorem front_within (env : DecryptEnv) :
    ¬ precv_frame.len < payload_index (set_key_index env precv_frame).attrib := by
  rw [payload_index_received received env, received_len received, last_txcmdsz_eq single short]
  exact Nat.not_lt.mpr (Nat.le_add_right _ _)

theorem key_index_received (env : DecryptEnv) (long : 4 ≤ pattrib.iv_len) :
    (set_key_index env precv_frame).attrib.key_index =
      (laid.buf (TXDESC_OFFSET + pattrib.hdrlen + 3)).toNat / 64 := by
  have inFront : pattrib.hdrlen + 3 + 1 ≤ mpdu_front pattrib := Nat.add_le_add_left long _
  have cell := received_front single short received env.behind inFront
  show (frame_memory precv_frame env.behind (precv_frame.attrib.hdrlen + 3)).toNat / 64 = _
  rw [received.hdrlen]
  exact congrArg (fun iv3 : UInt8 => iv3.toNat / 64) (List.head_eq_of_cons_eq cell)

end

theorem iv_key_index (keyidx : Nat) :
    (UInt8.ofNat (keyidx % 4 * 64)).toNat / 64 = keyidx % 4 ∧
      (0x20 ||| UInt8.ofNat (keyidx % 4 * 64)).toNat / 64 = keyidx % 4 := by
  have small : keyidx % 4 < 4 := Nat.mod_lt _ (by decide)
  generalize keyidx % 4 = index at small
  interval_cases index
  · exact ⟨rfl, rfl⟩
  · exact ⟨rfl, rfl⟩
  · exact ⟨rfl, rfl⟩
  · exact ⟨rfl, rfl⟩

theorem iv_byte {laid : Laid} {start length i : Nat} {iv : List UInt8}
    (filled : Memory.read laid.buf start length = iv) (inside : i < length) : laid.buf (start + i) = iv.getD i 0 := by
  rw [← filled, List.getD_eq_getElem?_getD, Memory.getElem?_read _ inside]
  rfl

/-! ## The two ciphers -/

/-- Both ends have the same temporal key for a frame. -/
structure SharesTkipKey (env : DecryptEnv) (psecuritypriv : RxSecurity) (padapter : XmitAdapter)
    (pattrib : PktAttrib) (keyidx : Nat) : Prop where
  pairwise : ∃ dot118021x_UncstKey,
    env.dot118021x_UncstKey pattrib.ta = some dot118021x_UncstKey ∧
      (IS_MCAST pattrib.ra = false -> dot118021x_UncstKey = pattrib.dot118021x_UncstKey)
  group : IS_MCAST pattrib.ra = true -> psecuritypriv.binstallGrpkey = true ∧
    psecuritypriv.dot118021XGrpKey (keyidx % 4) =
      padapter.securitypriv.dot118021XGrpKey padapter.securitypriv.dot118021XGrpKeyid

theorem tkip_prwskey_shared {env : DecryptEnv} {pattrib : PktAttrib} {prxattrib : RxPktAttrib}
    (shared : SharesTkipKey env psecuritypriv padapter pattrib keyidx)
    (ra : prxattrib.ra = pattrib.ra) (ta : prxattrib.ta = pattrib.ta) (index : prxattrib.key_index = keyidx % 4) :
    tkip_prwskey env psecuritypriv prxattrib = some (xmit_prwskey padapter pattrib) := by
  rcases shared.pairwise with ⟨key, known, same⟩
  unfold tkip_prwskey xmit_prwskey
  rw [ra, ta, index, known, Option.bind_some]
  cases multicast : IS_MCAST pattrib.ra with
  | false => exact congrArg some (same multicast)
  | true =>
    rcases shared.group multicast with ⟨installed, sameGroup⟩
    rw [installed, sameGroup]
    rfl

theorem wep_mpdu_restored {env : DecryptEnv}
    {pattrib : PktAttrib} {laid : Laid} {precv_frame : RecvFrame} {dot11txpn : Nat}
    (message : Nat -> UInt8) (single : SingleMpdu pattrib laid)
    (cipher : pattrib.encrypt = ._WEP40_ ∨ pattrib.encrypt = ._WEP104_)
    (received : Receives pattrib laid (rtw_wep_encrypt padapter pattrib laid).1 precv_frame)
    (drawn : Memory.read laid.buf (TXDESC_OFFSET + pattrib.hdrlen) pattrib.iv_len =
      (WEP_IV dot11txpn keyidx).1)
    (shared : psecuritypriv.dot11DefKey (keyidx % 4) =
      padapter.securitypriv.dot11DefKey padapter.securitypriv.dot11PrivacyKeyIndex) :
    ∃ deciphered,
      rtw_wep_decrypt psecuritypriv (set_key_index env precv_frame).attrib precv_frame.len message
          (frame_memory precv_frame env.behind) = some deciphered ∧
        Memory.read deciphered.pframe 0 laid.last_txcmdsz = clear_mpdu pattrib laid := by
  have short : pattrib.icv_len = 4 := by
    unfold PktAttrib.icv_len
    rcases cipher with wep | wep <;> rw [wep] <;> rfl
  have ivLength : pattrib.iv_len = 4 := by
    unfold PktAttrib.iv_len
    rcases cipher with wep | wep <;> rw [wep] <;> rfl
  have produced : (rtw_wep_encrypt padapter pattrib laid).1 =
      arcfour_fragment (wepkey padapter pattrib laid.buf TXDESC_OFFSET) laid.buf
        (TXDESC_OFFSET + pattrib.hdrlen + pattrib.iv_len) (mpdu_payload_len pattrib laid) := by
    unfold rtw_wep_encrypt
    rw [if_pos cipher, encrypt_frame_single single]
    rfl
  rw [produced] at received
  have index : (set_key_index env precv_frame).attrib.key_index = keyidx % 4 := by
    rw [key_index_received single short received env (Nat.le_of_eq ivLength.symm),
      iv_byte drawn (by rw [ivLength]; decide)]
    exact (iv_key_index keyidx).1
  have key : Memory.read (frame_memory precv_frame env.behind)
        (set_key_index env precv_frame).attrib.hdrlen 3 ++
          psecuritypriv.dot11DefKey (set_key_index env precv_frame).attrib.key_index =
      wepkey padapter pattrib laid.buf TXDESC_OFFSET := by
    have inFront : pattrib.hdrlen + 3 ≤ mpdu_front pattrib := by
      unfold mpdu_front
      omega
    have iv := received_front single short received env.behind inFront
    show Memory.read _ precv_frame.attrib.hdrlen 3 ++ _ = _
    rw [received.hdrlen, iv, index, shared]
    rfl
  unfold rtw_wep_decrypt
  rw [if_neg (front_within single short received env)]
  dsimp only
  rw [key, arcfour_body_received single short received env.behind
    (payload_index_received received env)]
  exact ⟨_, rfl, read_clear_mpdu single short env.behind⟩

theorem tkip_mpdu_restored {env : DecryptEnv}
    {pattrib : PktAttrib} {laid : Laid} {precv_frame : RecvFrame} {dot11txpn : Nat}
    (message : Nat -> UInt8) (single : SingleMpdu pattrib laid) (cipher : pattrib.encrypt = ._TKIP_)
    (received : Receives pattrib laid (rtw_tkip_encrypt padapter pattrib laid).1 precv_frame)
    (drawn : Memory.read laid.buf (TXDESC_OFFSET + pattrib.hdrlen) pattrib.iv_len =
      (TKIP_IV dot11txpn keyidx).1)
    (shared : SharesTkipKey env psecuritypriv padapter pattrib keyidx) :
    ∃ deciphered,
      rtw_tkip_decrypt env psecuritypriv (set_key_index env precv_frame).attrib precv_frame.len
          message (frame_memory precv_frame env.behind) = some deciphered ∧
        Memory.read deciphered.pframe 0 laid.last_txcmdsz = clear_mpdu pattrib laid ∧
        deciphered.res = ._SUCCESS := by
  have short : pattrib.icv_len = 4 := by
    unfold PktAttrib.icv_len
    rw [cipher]
    rfl
  have ivLength : pattrib.iv_len = 8 := by
    unfold PktAttrib.iv_len
    rw [cipher]
    rfl
  have produced : (rtw_tkip_encrypt padapter pattrib laid).1 =
      arcfour_fragment (rc4key padapter pattrib laid.buf TXDESC_OFFSET) laid.buf
        (TXDESC_OFFSET + pattrib.hdrlen + pattrib.iv_len) (mpdu_payload_len pattrib laid) := by
    unfold rtw_tkip_encrypt
    rw [if_pos cipher, encrypt_frame_single single]
    rfl
  rw [produced] at received
  have index : (set_key_index env precv_frame).attrib.key_index = keyidx % 4 := by
    rw [key_index_received single short received env (by rw [ivLength]; decide),
      iv_byte drawn (by rw [ivLength]; decide)]
    exact (iv_key_index keyidx).2
  have key : tkip_rc4key (xmit_prwskey padapter pattrib)
        (set_key_index env precv_frame).attrib.ta.bytes
        (Memory.read (frame_memory precv_frame env.behind)
          (set_key_index env precv_frame).attrib.hdrlen 8) =
      rc4key padapter pattrib laid.buf TXDESC_OFFSET := by
    have inFront : pattrib.hdrlen + 8 ≤ mpdu_front pattrib := by
      unfold mpdu_front
      omega
    have iv := received_front single short received env.behind inFront
    show tkip_rc4key _ precv_frame.attrib.ta.bytes
      (Memory.read _ precv_frame.attrib.hdrlen 8) = _
    rw [received.hdrlen, received.ta, iv]
    rfl
  have length : precv_frame.len - mpdu_front pattrib = mpdu_payload_len pattrib laid + 4 := by
    rw [received_len received, last_txcmdsz_eq single short]
    exact Nat.add_sub_cancel_left _ _
  have body := read_clear_body single short env.behind
  have prwskey : tkip_prwskey env psecuritypriv (set_key_index env precv_frame).attrib =
      some (xmit_prwskey padapter pattrib) :=
    tkip_prwskey_shared shared received.ra received.ta index
  unfold rtw_tkip_decrypt
  rw [prwskey]
  dsimp only
  rw [if_neg (front_within single short received env), key, arcfour_body_received single short received env.behind
      (payload_index_received received env),
    payload_index_received received env, length]
  refine ⟨_, rfl, read_clear_mpdu single short env.behind, ?_⟩
  rw [Nat.add_sub_cancel, ← Nat.add_assoc, Nat.add_sub_cancel, body.1, body.2]
  exact if_neg (fun differs => differs rfl)

/-- For every key, IV, header and payload, the receiver has the frame in the clear with the ICV of
its payload, and accepts it under TKIP. -/
theorem rc4_mpdus_restored (env : DecryptEnv) (psecuritypriv : RxSecurity) (padapter : XmitAdapter)
    (message : Nat -> UInt8) {pattrib : PktAttrib} {laid : Laid} (precv_frame : RecvFrame)
    (dot11txpn keyidx : Nat) (single : SingleMpdu pattrib laid) :
    (pattrib.encrypt = ._WEP40_ ∨ pattrib.encrypt = ._WEP104_ ->
      Receives pattrib laid (rtw_wep_encrypt padapter pattrib laid).1 precv_frame ->
      Memory.read laid.buf (TXDESC_OFFSET + pattrib.hdrlen) pattrib.iv_len =
        (WEP_IV dot11txpn keyidx).1 ->
      psecuritypriv.dot11DefKey (keyidx % 4) =
        padapter.securitypriv.dot11DefKey padapter.securitypriv.dot11PrivacyKeyIndex ->
      ∃ deciphered,
        rtw_wep_decrypt psecuritypriv (set_key_index env precv_frame).attrib precv_frame.len
            message (frame_memory precv_frame env.behind) = some deciphered ∧
          Memory.read deciphered.pframe 0 laid.last_txcmdsz = clear_mpdu pattrib laid) ∧
    (pattrib.encrypt = ._TKIP_ ->
      Receives pattrib laid (rtw_tkip_encrypt padapter pattrib laid).1 precv_frame ->
      Memory.read laid.buf (TXDESC_OFFSET + pattrib.hdrlen) pattrib.iv_len =
        (TKIP_IV dot11txpn keyidx).1 ->
      SharesTkipKey env psecuritypriv padapter pattrib keyidx ->
      ∃ deciphered,
        rtw_tkip_decrypt env psecuritypriv (set_key_index env precv_frame).attrib precv_frame.len
            message (frame_memory precv_frame env.behind) = some deciphered ∧
          Memory.read deciphered.pframe 0 laid.last_txcmdsz = clear_mpdu pattrib laid ∧
          deciphered.res = ._SUCCESS) :=
  ⟨wep_mpdu_restored message single, tkip_mpdu_restored message single⟩

/-- A frame of one fragment with an IV, and nothing but zeros else. -/
def zero_laid (pattrib : PktAttrib) : Laid where
  buf := Memory.write (fun _ => 0) (TXDESC_OFFSET + pattrib.hdrlen) pattrib.iv
  fragments := [⟨TXDESC_OFFSET, 28⟩]
  last_txcmdsz := pattrib.hdrlen + pattrib.iv_len + 28 + pattrib.icv_len

def arrived_mpdu (pattrib : PktAttrib) (laid : Laid) (encrypted : Nat -> UInt8) : RecvFrame where
  index := 0
  attrib := { RxPktAttrib.zero with
    hdrlen := pattrib.hdrlen
    iv_len := pattrib.iv_len
    encrypt := pattrib.encrypt
    ra := pattrib.ra
    ta := pattrib.ta }
  rx_data := Memory.read encrypted TXDESC_OFFSET laid.last_txcmdsz
  tailroom := 0

theorem arrived_mpdu_receives (pattrib : PktAttrib) (laid : Laid) (encrypted : Nat -> UInt8) :
    Receives pattrib laid encrypted (arrived_mpdu pattrib laid encrypted) :=
  ⟨rfl, rfl, rfl, rfl, rfl, rfl⟩

theorem zero_laid_single (pattrib : PktAttrib) : SingleMpdu pattrib (zero_laid pattrib) where
  one := rfl
  room := by
    show _ ≤ pattrib.hdrlen + pattrib.iv_len + 28 + pattrib.icv_len
    omega

theorem zero_laid_iv (pattrib : PktAttrib) :
    Memory.read (zero_laid pattrib).buf (TXDESC_OFFSET + pattrib.hdrlen) pattrib.iv_len =
      pattrib.iv := by
  have written := Memory.read_write (fun _ => 0) (TXDESC_OFFSET + pattrib.hdrlen) pattrib.iv
  rw [pattrib.iv_length] at written
  exact written

def wep_zeros : PktAttrib := test_attrib ._WEP104_ true 20

def wep_arrived : RecvFrame :=
  arrived_mpdu wep_zeros (zero_laid wep_zeros)
    (rtw_wep_encrypt (test_adapter ._WEP104_ true) wep_zeros (zero_laid wep_zeros)).1

def tkip_zeros : PktAttrib := test_attrib ._TKIP_ true 20

def tkip_arrived : RecvFrame :=
  arrived_mpdu tkip_zeros (zero_laid tkip_zeros)
    (rtw_tkip_encrypt (test_adapter ._TKIP_ true) tkip_zeros (zero_laid tkip_zeros)).1

theorem rc4_mpdus_restored_zeros :
    (∃ deciphered,
      rtw_wep_decrypt test_rx_security (set_key_index test_rx_env wep_arrived).attrib
          wep_arrived.len (fun _ => 0) (frame_memory wep_arrived test_rx_env.behind) =
        some deciphered ∧
      Memory.read deciphered.pframe 0 (zero_laid wep_zeros).last_txcmdsz =
        clear_mpdu wep_zeros (zero_laid wep_zeros)) ∧
    (∃ deciphered,
      rtw_tkip_decrypt test_rx_env test_rx_security (set_key_index test_rx_env tkip_arrived).attrib
          tkip_arrived.len (fun _ => 0) (frame_memory tkip_arrived test_rx_env.behind) =
        some deciphered ∧
      Memory.read deciphered.pframe 0 (zero_laid tkip_zeros).last_txcmdsz =
        clear_mpdu tkip_zeros (zero_laid tkip_zeros) ∧
      deciphered.res = ._SUCCESS) := by
  have shared : SharesTkipKey test_rx_env test_rx_security (test_adapter ._TKIP_ true)
      tkip_zeros 0 :=
    { pairwise := ⟨_, rfl, fun _ => rfl⟩
      group := fun _ => ⟨rfl, rfl⟩ }
  constructor
  · exact (rc4_mpdus_restored test_rx_env test_rx_security (test_adapter ._WEP104_ true)
      (fun _ => 0) wep_arrived 0 0 (zero_laid_single wep_zeros)).1 (Or.inr rfl)
      (arrived_mpdu_receives _ _ _) (zero_laid_iv _) rfl
  · exact (rc4_mpdus_restored test_rx_env test_rx_security (test_adapter ._TKIP_ true)
      (fun _ => 0) tkip_arrived 0 0 (zero_laid_single tkip_zeros)).2 rfl
      (arrived_mpdu_receives _ _ _) (zero_laid_iv _) shared

end Decrypt

end Rtl8821ce
