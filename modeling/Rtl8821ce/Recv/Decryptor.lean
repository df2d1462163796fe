import Rtl8821ce.Recv.Pool
import Rtl8821ce.Security.Arcfour
import Rtl8821ce.Security.TkipMixing
import Rtl8821ce.Security.CcmpRoundTrip

/-!
# Software decryption of received frames

`decryptor` hands a protected frame that the hardware left alone to the function of
its cipher, and frees it when that function fails.  The three functions differ in
what they answer: `rtw_wep_decrypt` computes the ICV and answers nothing,
`rtw_tkip_decrypt` compares the ICV, and `rtw_aes_decrypt` compares the MIC.

A frame is memory from `rx_data` on, with unknown bytes behind its end.
-/

namespace Rtl8821ce

namespace Decrypt

/-- The fields of `struct security_priv` that decryption uses. -/
structure RxSecurity where
  dot11DefKey : Nat -> List UInt8
  binstallGrpkey : Bool
  dot118021XGrpKeyid : Nat
  dot118021XGrpKey : Nat -> List UInt8
  busetkipkey : Bool
  hw_decrypted : Bool

/-- What the functions use besides: the block cipher, the pairwise key of each known
station, and the memory behind the frame. -/
structure DecryptEnv where
  CONFIG_IEEE80211W : Bool
  aes128k128d : List UInt8 -> Block -> Block
  dot118021x_UncstKey : MacAddr -> Option (List UInt8)
  behind : Nat -> UInt8

/-- The memory from `rx_data` on. -/
def frame_memory (precv_frame : RecvFrame) (behind : Nat -> UInt8) : Nat -> UInt8 :=
  Memory.write behind 0 precv_frame.rx_data

def payload_index (prxattrib : RxPktAttrib) : Nat := prxattrib.hdrlen + prxattrib.iv_len

/-- Decrypt the body of a frame of `len` bytes with an RC4 key. -/
def arcfour_body (key : List UInt8) (prxattrib : RxPktAttrib) (len : Nat) (pframe : Nat -> UInt8) : Nat -> UInt8 :=
  let length := len - payload_index prxattrib
  let payload := Memory.read pframe (payload_index prxattrib) length
  Memory.write pframe (payload_index prxattrib) (arcfour_encrypt (arcfour_init key) payload).1

/-- Decrypt a WEP frame of `len` bytes.  The ICV that it computes is not used.  A frame that
ends before its payload starts has a negative length, and the loop does not end then. -/
def rtw_wep_decrypt (psecuritypriv : RxSecurity) (prxattrib : RxPktAttrib) (len : Nat)
    (message pframe : Nat -> UInt8) : Option Deciphered :=
  if len < payload_index prxattrib then none
  else
    let iv := Memory.read pframe prxattrib.hdrlen 3
    let wepkey := iv ++ psecuritypriv.dot11DefKey prxattrib.key_index
    some
      { res := ._SUCCESS
        pframe := arcfour_body wepkey prxattrib len pframe
        message := message }

/-- The temporal key of a frame; `none` when the station is not known or a group key
is missing. -/
def tkip_prwskey (env : DecryptEnv) (psecuritypriv : RxSecurity) (prxattrib : RxPktAttrib) : Option (List UInt8) :=
  (env.dot118021x_UncstKey prxattrib.ta).bind (fun dot118021x_UncstKey =>
    if IS_MCAST prxattrib.ra then
      if !psecuritypriv.binstallGrpkey then none
      else some (psecuritypriv.dot118021XGrpKey prxattrib.key_index)
    else some dot118021x_UncstKey)

def rtw_tkip_decrypt (env : DecryptEnv) (psecuritypriv : RxSecurity) (prxattrib : RxPktAttrib)
    (len : Nat) (message pframe : Nat -> UInt8) : Option Deciphered :=
  match tkip_prwskey env psecuritypriv prxattrib with
  | none => some { res := ._FAIL, pframe := pframe, message := message }
  | some prwskey =>
      if len < payload_index prxattrib then none
      else
        let iv := Memory.read pframe prxattrib.hdrlen 8
        let rc4key := tkip_rc4key prwskey prxattrib.ta.bytes iv
        let length := len - payload_index prxattrib
        let pframe := arcfour_body rc4key prxattrib len pframe
        let crc := icv_bytes (Memory.read pframe (payload_index prxattrib) (length - 4))
        some
          { res := if Memory.read pframe (payload_index prxattrib + length - 4) 4 ≠ crc then ._FAIL
              else ._SUCCESS
            pframe := pframe
            message := message }

/-- The temporal key of a frame; the group key has to be the one that was installed last. -/
def aes_prwskey (env : DecryptEnv) (psecuritypriv : RxSecurity) (prxattrib : RxPktAttrib) : Option (List UInt8) :=
  (env.dot118021x_UncstKey prxattrib.ta).bind (fun dot118021x_UncstKey =>
    if IS_MCAST prxattrib.ra then
      if !psecuritypriv.binstallGrpkey then none
      else if psecuritypriv.dot118021XGrpKeyid ≠ prxattrib.key_index then none
      else some (psecuritypriv.dot118021XGrpKey prxattrib.key_index)
    else some dot118021x_UncstKey)

def rtw_aes_decrypt (env : DecryptEnv) (psecuritypriv : RxSecurity) (prxattrib : RxPktAttrib)
    (len : Nat) (message pframe : Nat -> UInt8) : Option Deciphered :=
  match aes_prwskey env psecuritypriv prxattrib with
  | none => some { res := ._FAIL, pframe := pframe, message := message }
  | some prwskey =>
      if len < payload_index prxattrib then none
      else
        aes_decipher env.CONFIG_IEEE80211W env.aes128k128d prwskey prxattrib.hdrlen message pframe
          (len - payload_index prxattrib)

/-- What `decryptor` leaves behind; a frame that is not returned was freed. -/
structure DecryptorOutcome where
  return_packet : Option RecvFrame
  psecuritypriv : RxSecurity
  message : Nat -> UInt8

/-- The frame with the key index of its IV.  The index has two bits, so the check
against `WEP_KEYS` never holds. -/
def set_key_index (env : DecryptEnv) (precv_frame : RecvFrame) : RecvFrame :=
  let iv3 := frame_memory precv_frame env.behind (precv_frame.attrib.hdrlen + 3)
  { precv_frame with attrib := { precv_frame.attrib with key_index := iv3.toNat / 64 } }

def sw_decrypt (env : DecryptEnv) (psecuritypriv : RxSecurity) (message : Nat -> UInt8)
    (precv_frame : RecvFrame) : Option Deciphered :=
  let prxattrib := precv_frame.attrib
  let pframe := frame_memory precv_frame env.behind
  match prxattrib.encrypt with
  | ._WEP40_ => rtw_wep_decrypt psecuritypriv prxattrib precv_frame.len message pframe
  | ._WEP104_ => rtw_wep_decrypt psecuritypriv prxattrib precv_frame.len message pframe
  | ._TKIP_ => rtw_tkip_decrypt env psecuritypriv prxattrib precv_frame.len message pframe
  | ._AES_ => rtw_aes_decrypt env psecuritypriv prxattrib precv_frame.len message pframe
  | ._NO_PRIVACY_ => some { res := ._SUCCESS, pframe := pframe, message := message }

def decrypted_frame (precv_frame : RecvFrame) (pframe : Nat -> UInt8) : RecvFrame :=
  { precv_frame with
    attrib := { precv_frame.attrib with bdecrypted := true }
    rx_data := Memory.read pframe 0 precv_frame.len }

/-- `none` stands for a function that ran out of the frame. -/
def decryptor (env : DecryptEnv) (psecuritypriv : RxSecurity) (message : Nat -> UInt8)
    (precv_frame : RecvFrame) : Option DecryptorOutcome :=
  if precv_frame.attrib.encrypt = ._NO_PRIVACY_ then
    some
      { return_packet :=
          some { precv_frame with attrib := { precv_frame.attrib with bdecrypted := true } }
        psecuritypriv := psecuritypriv
        message := message }
  else
    let precv_frame := set_key_index env precv_frame
    if precv_frame.attrib.bdecrypted then
      let by_hardware := psecuritypriv.busetkipkey || precv_frame.attrib.encrypt != ._TKIP_
      some
        { return_packet := some precv_frame
          psecuritypriv :=
            if by_hardware then { psecuritypriv with hw_decrypted := true } else psecuritypriv
          message := message }
    else
      let psecuritypriv :=
        if GetFrameType precv_frame.rx_data = WIFI_DATA_TYPE then
          { psecuritypriv with hw_decrypted := false }
        else psecuritypriv
      (sw_decrypt env psecuritypriv message precv_frame).map (fun deciphered =>
        { return_packet :=
            if deciphered.res = ._FAIL then none
            else some (decrypted_frame precv_frame deciphered.pframe)
          psecuritypriv := psecuritypriv
          message := deciphered.message })

/-- A receiver that knows every station, with one key for each purpose. -/
def test_rx_env : DecryptEnv where
  CONFIG_IEEE80211W := false
  aes128k128d := fun _ block => block
  dot118021x_UncstKey := fun _ => some (List.replicate 16 4)
  behind := fun _ => 0

def test_rx_security : RxSecurity where
  dot11DefKey := fun _ => List.replicate 16 1
  binstallGrpkey := true
  dot118021XGrpKeyid := 1
  dot118021XGrpKey := fun _ => List.replicate 16 2
  busetkipkey := true
  hw_decrypted := false

end Decrypt

end Rtl8821ce
