import Rtl8821ce.Security.Arcfour
import Rtl8821ce.Security.CcmpRoundTrip
import Rtl8821ce.Security.TkipMixing
import Rtl8821ce.Xmit.Addmic

/-!
# Software encryption of a transmitted frame

`xmitframe_swencrypt` hands a frame to the encryptor of its cipher.  The three
encryptors walk over the fragments with one loop, and each pass encrypts the
payload in place and puts the check value behind it.  The loop looks for the next
fragment `frag_len` bytes behind the one before, without the descriptor room, and
takes the payload of a fragment in front of the last one to be four bytes longer
than it was laid out.
-/

namespace Rtl8821ce

section SwEncrypt

variable (CONFIG_IEEE80211W : Bool) (aes128k128d : List UInt8 -> Block -> Block)

/-- Encrypt a payload, and write the ICV behind it with the rest of the RC4 stream. -/
def arcfour_fragment (key : List UInt8) (buf : Nat -> UInt8) (payload length : Nat) : Nat -> UInt8 :=
  let crc := icv_bytes (Memory.read buf payload length)
  let encrypted := arcfour_encrypt (arcfour_init key) (Memory.read buf payload length)
  let buf := Memory.write buf payload encrypted.1
  Memory.write buf (payload + length) (arcfour_encrypt encrypted.2 crc).1

/-- `wepkey` of the fragment at `pframe`. -/
def wepkey (padapter : XmitAdapter) (pattrib : PktAttrib) (buf : Nat -> UInt8) (pframe : Nat) : List UInt8 :=
  Memory.read buf (pframe + pattrib.hdrlen) 3 ++
    padapter.securitypriv.dot11DefKey padapter.securitypriv.dot11PrivacyKeyIndex

def wep_fragment (padapter : XmitAdapter) (pattrib : PktAttrib) (buf : Nat -> UInt8)
    (pframe length : Nat) : Nat -> UInt8 :=
  arcfour_fragment (wepkey padapter pattrib buf pframe) buf
    (pframe + pattrib.hdrlen + pattrib.iv_len) length

def xmit_prwskey (padapter : XmitAdapter) (pattrib : PktAttrib) : List UInt8 :=
  if IS_MCAST pattrib.ra then
    padapter.securitypriv.dot118021XGrpKey padapter.securitypriv.dot118021XGrpKeyid
  else pattrib.dot118021x_UncstKey

/-- `rc4key` of the fragment at `pframe`. -/
def rc4key (padapter : XmitAdapter) (pattrib : PktAttrib) (buf : Nat -> UInt8) (pframe : Nat) : List UInt8 :=
  tkip_rc4key (xmit_prwskey padapter pattrib) pattrib.ta.bytes
    (Memory.read buf (pframe + pattrib.hdrlen) 8)

def tkip_fragment (padapter : XmitAdapter) (pattrib : PktAttrib) (buf : Nat -> UInt8)
    (pframe length : Nat) : Nat -> UInt8 :=
  arcfour_fragment (rc4key padapter pattrib buf pframe) buf
    (pframe + pattrib.hdrlen + pattrib.iv_len) length

def aes_fragment (padapter : XmitAdapter) (pattrib : PktAttrib) (buf : Nat -> UInt8)
    (pframe length : Nat) : Nat -> UInt8 :=
  Memory.withTail buf pframe
    (aes_cipher CONFIG_IEEE80211W aes128k128d (xmit_prwskey padapter pattrib) pattrib.hdrlen
      (Memory.tail buf pframe) length)

/-- The loop of the encryptors: the buffer behind it, and the ranges that were taken
for payloads.  A check value stands behind its range. -/
def encrypt_loop (padapter : XmitAdapter) (pattrib : PktAttrib) (last_txcmdsz : Nat)
    (pass : (Nat -> UInt8) -> Nat -> Nat -> Nat -> UInt8) :
    (left pframe : Nat) -> (buf : Nat -> UInt8) -> (Nat -> UInt8) × List (Nat × Nat)
  | 0, _, buf => (buf, [])
  | left + 1, pframe, buf =>
      let payload := pframe + pattrib.hdrlen + pattrib.iv_len
      let whole := if left = 0 then last_txcmdsz else padapter.frag_len.val
      let length := whole - pattrib.hdrlen - pattrib.iv_len - pattrib.icv_len
      let buf := pass buf pframe length
      let later := encrypt_loop padapter pattrib last_txcmdsz pass left
        (RND4 (pframe + padapter.frag_len.val)) buf
      (later.1, (payload, length) :: later.2)

def encrypt_frame (padapter : XmitAdapter) (pattrib : PktAttrib) (laid : Laid)
    (pass : (Nat -> UInt8) -> Nat -> Nat -> Nat -> UInt8) : (Nat -> UInt8) × List (Nat × Nat) :=
  encrypt_loop padapter pattrib laid.last_txcmdsz pass laid.nr_frags TXDESC_OFFSET laid.buf

def rtw_wep_encrypt (padapter : XmitAdapter) (pattrib : PktAttrib) (laid : Laid) :
    (Nat -> UInt8) × List (Nat × Nat) :=
  if pattrib.encrypt = ._WEP40_ ∨ pattrib.encrypt = ._WEP104_ then
    encrypt_frame padapter pattrib laid (wep_fragment padapter pattrib)
  else (laid.buf, [])

def rtw_tkip_encrypt (padapter : XmitAdapter) (pattrib : PktAttrib) (laid : Laid) :
    (Nat -> UInt8) × List (Nat × Nat) :=
  if pattrib.encrypt = ._TKIP_ then
    encrypt_frame padapter pattrib laid (tkip_fragment padapter pattrib)
  else (laid.buf, [])

def rtw_aes_encrypt (padapter : XmitAdapter) (pattrib : PktAttrib) (laid : Laid) :
    (Nat -> UInt8) × List (Nat × Nat) :=
  if pattrib.encrypt = ._AES_ then
    encrypt_frame padapter pattrib laid
      (aes_fragment CONFIG_IEEE80211W aes128k128d padapter pattrib)
  else (laid.buf, [])

/-- Encrypt a frame that the driver itself has to encrypt. -/
def xmitframe_swencrypt (padapter : XmitAdapter) (pattrib : PktAttrib) (laid : Laid) :
    (Nat -> UInt8) × List (Nat × Nat) :=
  if pattrib.bswenc then
    match pattrib.encrypt with
    | ._WEP40_ => rtw_wep_encrypt padapter pattrib laid
    | ._WEP104_ => rtw_wep_encrypt padapter pattrib laid
    | ._TKIP_ => rtw_tkip_encrypt padapter pattrib laid
    | ._AES_ => rtw_aes_encrypt CONFIG_IEEE80211W aes128k128d padapter pattrib laid
    | ._NO_PRIVACY_ => (laid.buf, [])
  else (laid.buf, [])

/-- The bytes of the Michael code, which count as payload of the last fragment. -/
def PktAttrib.mic_len (pattrib : PktAttrib) : Nat := if pattrib.encrypt = ._TKIP_ then 8 else 0

def grow_last (count : Nat) : List Fragment -> List Fragment
  | [] => []
  | [last] => [{ last with body_sz := last.body_sz + count }]
  | fragment :: next :: rest => fragment :: grow_last count (next :: rest)

/-- The fragments of a frame that is ready to be encrypted. -/
def Laid.complete (laid : Laid) (pattrib : PktAttrib) : List Fragment :=
  grow_last pattrib.mic_len laid.fragments

def arcfour_sealed (key payload : List UInt8) : List UInt8 :=
  (arcfour_encrypt (arcfour_init key) (payload ++ icv_bytes payload)).1

/-- What an encryptor makes of the payload of the fragment at `pframe`, with the
check value. -/
def sealed_payload (padapter : XmitAdapter) (pattrib : PktAttrib) (buf : Nat -> UInt8)
    (pframe length : Nat) : List UInt8 :=
  let payload := Memory.read buf (pframe + pattrib.hdrlen + pattrib.iv_len) length
  match pattrib.encrypt with
  | ._WEP40_ => arcfour_sealed (wepkey padapter pattrib buf pframe) payload
  | ._WEP104_ => arcfour_sealed (wepkey padapter pattrib buf pframe) payload
  | ._TKIP_ => arcfour_sealed (rc4key padapter pattrib buf pframe) payload
  | ._AES_ =>
      Memory.read
        (aes_cipher CONFIG_IEEE80211W aes128k128d (xmit_prwskey padapter pattrib) pattrib.hdrlen
          (Memory.tail buf pframe) length) (pattrib.hdrlen + 8) (length + 8)
  | ._NO_PRIVACY_ => payload

/-- The walk visits exactly the payloads of the fragments, each payload and the check
value right behind it are encrypted, and no other byte changes. -/
structure EncryptsPayloads (padapter : XmitAdapter) (pattrib : PktAttrib) (laid : Laid)
    (fragments : List Fragment) (outcome : (Nat -> UInt8) × List (Nat × Nat)) : Prop where
  walked : outcome.2 = fragments.map (fun fragment => fragment.payload pattrib)
  encrypted : ∀ fragment ∈ fragments,
    Memory.read outcome.1 (fragment.payload pattrib).1 (fragment.body_sz + pattrib.icv_len) =
      sealed_payload CONFIG_IEEE80211W aes128k128d padapter pattrib laid.buf fragment.mem_start
        fragment.body_sz
  kept : ∀ position,
    (∀ fragment ∈ fragments, position < (fragment.payload pattrib).1 ∨
      (fragment.payload pattrib).1 + fragment.body_sz + pattrib.icv_len ≤ position) ->
    outcome.1 position = laid.buf position

theorem length_arcfour_sealed (key payload : List UInt8) :
    (arcfour_sealed key payload).length = payload.length + 4 := by
  rw [arcfour_sealed, length_arcfour_encrypt, List.length_append, length_icv_bytes]

theorem arcfour_fragment_eq (key : List UInt8) (buf : Nat -> UInt8) (payload length : Nat) :
    arcfour_fragment key buf payload length =
      Memory.write buf payload (arcfour_sealed key (Memory.read buf payload length)) := by
  have taken : (arcfour_encrypt (arcfour_init key) (Memory.read buf payload length)).1.length =
      length := by
    rw [length_arcfour_encrypt, Memory.length_read]
  have both := Memory.write_append buf payload
    (arcfour_encrypt (arcfour_init key) (Memory.read buf payload length)).1
    (arcfour_encrypt (arcfour_encrypt (arcfour_init key) (Memory.read buf payload length)).2
      (icv_bytes (Memory.read buf payload length))).1
  rw [taken, ← arcfour_encrypt_append] at both
  exact both

theorem ccmp_header_of_wlanhdr {padapter : XmitAdapter} {pattrib : PktAttrib} {seqnum : Nat}
    {mfrag : Bool} {pframe : Nat -> UInt8}
    (headed : Memory.read pframe 0 pattrib.hdrlen = wlanhdr padapter pattrib seqnum mfrag) :
    (ccmp_header pframe pattrib.hdrlen).hdrlen = pattrib.hdrlen := by
  rcases wlanhdr_eq_cons padapter pattrib seqnum mfrag with ⟨rest, cells⟩
  have firstByte : (Memory.read pframe 0 2).getD 0 0 = if pattrib.qos then 0x88 else 0x08 := by
    have long : 2 ≤ pattrib.hdrlen := Nat.le_trans (by decide) pattrib.hdrlen_bounds.1
    have front := Memory.read_take pframe 0 long
    rw [headed, cells] at front
    rw [← front]
    rfl
  have frtype : GetFrameType (Memory.read pframe 0 2) =
      ((Memory.read pframe 0 2).getD 0 0).toNat &&& 0x0c :=
    le16_to_cpu_and _ (by decide)
  have frsubtype : get_frame_sub_type (Memory.read pframe 0 2) =
      ((Memory.read pframe 0 2).getD 0 0).toNat &&& 0xfc :=
    le16_to_cpu_and _ (by decide)
  rw [firstByte] at frtype frsubtype
  unfold ccmp_header PktAttrib.hdrlen
  dsimp only
  rw [frtype, frsubtype]
  cases pattrib.qos <;> rfl

theorem aes_fragment_eq {padapter : XmitAdapter} {pattrib : PktAttrib} {buf : Nat -> UInt8} {pframe length : Nat}
    (header : (ccmp_header (Memory.tail buf pframe) pattrib.hdrlen).hdrlen = pattrib.hdrlen) :
    aes_fragment CONFIG_IEEE80211W aes128k128d padapter pattrib buf pframe length =
      Memory.write buf (pframe + (pattrib.hdrlen + 8))
        (Memory.read
          (aes_cipher CONFIG_IEEE80211W aes128k128d (xmit_prwskey padapter pattrib) pattrib.hdrlen
            (Memory.tail buf pframe) length) (pattrib.hdrlen + 8) (length + 8)) := by
  have long : 24 ≤ (ccmp_header (Memory.tail buf pframe) pattrib.hdrlen).hdrlen := by
    rw [header]
    exact pattrib.hdrlen_bounds.1
  have range := @Memory.eq_write_of_outside _ (Memory.tail buf pframe)
    (aes_cipher CONFIG_IEEE80211W aes128k128d (xmit_prwskey padapter pattrib) pattrib.hdrlen
      (Memory.tail buf pframe) length) (pattrib.hdrlen + 8) (length + 8) (by
    intro position outside
    unfold aes_cipher
    rw [ccm_seal_eq long, header]
    rw [Memory.write_of_outside _ (by rw [length_mic_field]; omega)]
    exact Keystream.mask_of_outside _ _ (by omega))
  unfold aes_fragment
  rw [range, Memory.withTail_write]
  rw [← range]

def encrypt_fragment (padapter : XmitAdapter) (pattrib : PktAttrib) : (Nat -> UInt8) -> Nat -> Nat -> Nat -> UInt8 :=
  match pattrib.encrypt with
  | ._WEP40_ => wep_fragment padapter pattrib
  | ._WEP104_ => wep_fragment padapter pattrib
  | ._TKIP_ => tkip_fragment padapter pattrib
  | ._AES_ => aes_fragment CONFIG_IEEE80211W aes128k128d padapter pattrib
  | ._NO_PRIVACY_ => fun buf _ _ => buf

variable {CONFIG_IEEE80211W aes128k128d}

theorem xmitframe_swencrypt_eq {padapter : XmitAdapter} {pattrib : PktAttrib} {laid : Laid}
    (software : pattrib.bswenc = true) (secured : pattrib.encrypt ≠ ._NO_PRIVACY_) :
    xmitframe_swencrypt CONFIG_IEEE80211W aes128k128d padapter pattrib laid =
      encrypt_frame padapter pattrib laid
        (encrypt_fragment CONFIG_IEEE80211W aes128k128d padapter pattrib) := by
  unfold xmitframe_swencrypt rtw_wep_encrypt rtw_tkip_encrypt rtw_aes_encrypt encrypt_fragment
  rw [if_pos software]
  cases cipher : pattrib.encrypt with
  | _NO_PRIVACY_ => exact absurd cipher secured
  | _WEP40_ => rfl
  | _TKIP_ => rfl
  | _AES_ => rfl
  | _WEP104_ => rfl

/-- A pass seals its payload, and nothing else changes.  CCMP needs the header for that. -/
theorem encrypt_fragment_eq {padapter : XmitAdapter} {pattrib : PktAttrib} {buf : Nat -> UInt8}
    {pframe length : Nat} (secured : pattrib.encrypt ≠ ._NO_PRIVACY_) (header : pattrib.encrypt = ._AES_ ->
      (ccmp_header (Memory.tail buf pframe) pattrib.hdrlen).hdrlen = pattrib.hdrlen) :
    encrypt_fragment CONFIG_IEEE80211W aes128k128d padapter pattrib buf pframe length =
        Memory.write buf (pframe + pattrib.hdrlen + pattrib.iv_len)
          (sealed_payload CONFIG_IEEE80211W aes128k128d padapter pattrib buf pframe length) ∧
      (sealed_payload CONFIG_IEEE80211W aes128k128d padapter pattrib buf pframe length).length =
        length + pattrib.icv_len := by
  unfold encrypt_fragment sealed_payload PktAttrib.icv_len
  cases cipher : pattrib.encrypt with
  | _NO_PRIVACY_ => exact absurd cipher secured
  | _WEP40_ =>
    dsimp only
    rw [length_arcfour_sealed, Memory.length_read]
    exact ⟨arcfour_fragment_eq _ _ _ _, rfl⟩
  | _TKIP_ =>
    dsimp only
    rw [length_arcfour_sealed, Memory.length_read]
    exact ⟨arcfour_fragment_eq _ _ _ _, rfl⟩
  | _AES_ =>
    dsimp only
    rw [Memory.length_read, aes_fragment_eq _ _ (header cipher), PktAttrib.iv_len, cipher, Nat.add_assoc pframe]
    exact ⟨rfl, rfl⟩
  | _WEP104_ =>
    dsimp only
    rw [length_arcfour_sealed, Memory.length_read]
    exact ⟨arcfour_fragment_eq _ _ _ _, rfl⟩

end SwEncrypt

end Rtl8821ce
