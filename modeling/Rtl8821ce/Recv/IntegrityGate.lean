import Rtl8821ce.Recv.Decryptor
import Rtl8821ce.Xmit.Attrib

/-!
# Which frames the decryption functions accept

A frame that `decryptor` returns after software decryption should carry the check
value of what was decrypted.  The TKIP and CCMP functions compare it, except for
frames that are too short or too long; the WEP function does not.
-/

namespace Rtl8821ce

namespace Decrypt

variable {i : Nat} {psecuritypriv : RxSecurity} {message pframe : Nat -> UInt8} {returned : RecvFrame}
  {outcome : DecryptorOutcome}

def body_len (precv_frame : RecvFrame) : Nat := precv_frame.len - payload_index precv_frame.attrib

/-- The frame has an ICV behind its payload, and it is the one of the payload. -/
def IcvMatches (precv_frame : RecvFrame) : Prop :=
  4 ≤ body_len precv_frame ∧
    precv_frame.rx_data.drop (precv_frame.len - 4) =
      icv_bytes ((precv_frame.rx_data.drop (payload_index precv_frame.attrib)).take
        (body_len precv_frame - 4))

/-- The MIC that the frame carries is the CBC-MAC of header and payload. -/
def MicMatches (env : DecryptEnv) (prwskey : List UInt8) (precv_frame : RecvFrame) : Prop :=
  let pframe := frame_memory precv_frame env.behind
  let hdrlen := precv_frame.attrib.hdrlen
  let plen := body_len precv_frame - 8
  carried_mic env.CONFIG_IEEE80211W env.aes128k128d prwskey hdrlen pframe plen =
    computed_mic env.CONFIG_IEEE80211W env.aes128k128d prwskey hdrlen pframe plen

/-- A decrypted frame carries the check value of its bytes. -/
def CheckValueMatches (env : DecryptEnv) (psecuritypriv : RxSecurity) (precv_frame : RecvFrame) : Prop :=
  match precv_frame.attrib.encrypt with
  | ._NO_PRIVACY_ => True
  | ._WEP40_ => IcvMatches precv_frame
  | ._WEP104_ => IcvMatches precv_frame
  | ._TKIP_ => IcvMatches precv_frame
  | ._AES_ => ∃ prwskey : List UInt8,
      aes_prwskey env psecuritypriv precv_frame.attrib = some prwskey ∧
        MicMatches env prwskey precv_frame

/-- The frame with the same header and IV, and another body. -/
def with_body (precv_frame : RecvFrame) (body : List UInt8) : RecvFrame :=
  { precv_frame with
    rx_data := precv_frame.rx_data.take (payload_index precv_frame.attrib) ++ body }

/-- Whatever the keys, the block cipher and the ciphertext are: a frame with this header
and length is returned only when its check value matches. -/
def IntegrityGate (precv_frame : RecvFrame) : Prop :=
  ∀ (env : DecryptEnv) (psecuritypriv : RxSecurity) (message : Nat -> UInt8)
    (body : List UInt8) (outcome : DecryptorOutcome) (returned : RecvFrame),
    body.length = body_len precv_frame ->
    decryptor env psecuritypriv message (with_body precv_frame body) = some outcome ->
    outcome.return_packet = some returned ->
    CheckValueMatches env psecuritypriv returned

/-- The frames whose check value is compared: no WEP frame, the TKIP frames with an ICV or
with an IV whose end cannot pass for one, and the CCMP frames that fit into `message`.  A
frame without a whole IV, or a CCMP frame without a whole MIC, is never returned. -/
def Verified (precv_frame : RecvFrame) : Prop :=
  precv_frame.len < payload_index precv_frame.attrib ∨
    match precv_frame.attrib.encrypt with
    | ._NO_PRIVACY_ => True
    | ._WEP40_ => False
    | ._WEP104_ => False
    | ._TKIP_ =>
        4 ≤ body_len precv_frame ∨
          ∃ i : Nat,
            precv_frame.len - 4 ≤ i ∧ i < payload_index precv_frame.attrib ∧
              precv_frame.rx_data.getD i 0 ≠ 0
    | ._AES_ =>
        body_len precv_frame < 8 ∨
          (ccmp_header (frame_memory precv_frame (fun _ => 0)) precv_frame.attrib.hdrlen).hdrlen +
            body_len precv_frame + 8 ≤ MAX_MSG_SIZE

/-- What the checks before `decryptor` have set. -/
structure Protected (prxattrib : RxPktAttrib) : Prop where
  encrypted : prxattrib.encrypt ≠ ._NO_PRIVACY_
  software : prxattrib.bdecrypted = false
  hdrlen_ge : 24 ≤ prxattrib.hdrlen
  iv_len_eq : prxattrib.iv_len = prxattrib.encrypt.iv_len

theorem Protected.payload_index_ge {prxattrib : RxPktAttrib} (isProtected : Protected prxattrib) :
    28 ≤ payload_index prxattrib := by
  have long := isProtected.hdrlen_ge
  have iv := isProtected.iv_len_eq
  have encrypted := isProtected.encrypted
  unfold payload_index
  cases cipher : prxattrib.encrypt with
  | _NO_PRIVACY_ => exact absurd cipher encrypted
  | _WEP40_ => rw [cipher] at iv; rw [iv]; exact Nat.add_le_add_right long 4
  | _WEP104_ => rw [cipher] at iv; rw [iv]; exact Nat.add_le_add_right long 4
  | _TKIP_ => rw [cipher] at iv; rw [iv]; exact Nat.le_trans (by decide) (Nat.add_le_add_right long 8)
  | _AES_ => rw [cipher] at iv; rw [iv]; exact Nat.le_trans (by decide) (Nat.add_le_add_right long 8)

theorem frame_memory_inside (precv_frame : RecvFrame) (behind : Nat -> UInt8) (inside : i < precv_frame.len) :
    frame_memory precv_frame behind i = precv_frame.rx_data.getD i 0 := by
  have cell := @Memory.write_of_inside _ behind 0 i precv_frame.rx_data inside
  rw [Nat.zero_add] at cell
  rw [frame_memory, cell, List.getD_eq_getElem?_getD, List.getElem?_eq_getElem inside, Option.getD_some]

theorem frame_memory_outside (precv_frame : RecvFrame) (behind : Nat -> UInt8)
    (outside : precv_frame.len ≤ i) : frame_memory precv_frame behind i = behind i :=
  Memory.write_of_outside behind (Or.inr (by rw [Nat.zero_add]; exact outside))

theorem read_drop_take (pframe : Nat -> UInt8) {len start count : Nat} (within : start + count ≤ len) :
    ((Memory.read pframe 0 len).drop start).take count = Memory.read pframe start count := by
  rw [Memory.read_drop pframe 0 (by omega), Memory.read_take pframe _ (by omega), Nat.zero_add]

theorem len_decrypted_frame (precv_frame : RecvFrame) (pframe : Nat -> UInt8) :
    (decrypted_frame precv_frame pframe).len = precv_frame.len :=
  Memory.length_read pframe 0 precv_frame.len

theorem body_len_decrypted_frame (precv_frame : RecvFrame) (pframe : Nat -> UInt8) :
    body_len (decrypted_frame precv_frame pframe) = body_len precv_frame := by
  unfold body_len
  rw [len_decrypted_frame]
  rfl

/-- A frame that was returned after software decryption holds what the function of its
cipher left, and that function did not fail. -/
theorem decryptor_returned {env : DecryptEnv} {precv_frame : RecvFrame} (isProtected : Protected precv_frame.attrib)
    (run : decryptor env psecuritypriv message precv_frame = some outcome)
    (isReturned : outcome.return_packet = some returned) :
    ∃ deciphered : Deciphered,
      sw_decrypt env outcome.psecuritypriv message (set_key_index env precv_frame) =
        some deciphered ∧
      deciphered.res ≠ ._FAIL ∧
      returned = decrypted_frame (set_key_index env precv_frame) deciphered.pframe := by
  unfold decryptor at run
  rw [if_neg isProtected.encrypted] at run
  dsimp only at run
  have software : (set_key_index env precv_frame).attrib.bdecrypted = false := isProtected.software
  rw [software, if_neg Bool.false_ne_true] at run
  rcases Option.map_eq_some_iff.mp run with ⟨deciphered, decrypted, rfl⟩
  dsimp only at isReturned
  split at isReturned
  case isTrue failed => exact nomatch isReturned
  case isFalse passed => exact ⟨deciphered, decrypted, passed, (Option.some.inj isReturned).symm⟩

theorem decryptor_passes {env : DecryptEnv} {precv_frame : RecvFrame} {deciphered : Deciphered}
    (isProtected : Protected precv_frame.attrib)
    (decrypted : ∀ flag : Bool, sw_decrypt env { psecuritypriv with hw_decrypted := flag } message
      (set_key_index env precv_frame) = some deciphered)
    (passed : deciphered.res ≠ ._FAIL) :
    ∃ outcome : DecryptorOutcome,
      decryptor env psecuritypriv message precv_frame = some outcome ∧
      outcome.return_packet =
        some (decrypted_frame (set_key_index env precv_frame) deciphered.pframe) := by
  have software : (set_key_index env precv_frame).attrib.bdecrypted = false := isProtected.software
  unfold decryptor
  rw [if_neg isProtected.encrypted]
  dsimp only
  rw [software, if_neg Bool.false_ne_true]
  split
  case isTrue data =>
    rw [decrypted false]
    exact ⟨_, rfl, if_neg passed⟩
  case isFalse other =>
    rw [decrypted psecuritypriv.hw_decrypted]
    exact ⟨_, rfl, if_neg passed⟩

theorem decryptor_keys {env : DecryptEnv} {precv_frame : RecvFrame}
    (run : decryptor env psecuritypriv message precv_frame = some outcome) (prxattrib : RxPktAttrib) :
    aes_prwskey env outcome.psecuritypriv prxattrib = aes_prwskey env psecuritypriv prxattrib := by
  unfold decryptor at run
  split at run
  case isTrue unencrypted =>
    cases run
    rfl
  case isFalse encrypted =>
    dsimp only at run
    split at run
    case isTrue hardware =>
      cases run
      dsimp only
      split <;> rfl
    case isFalse software =>
      rcases Option.map_eq_some_iff.mp run with ⟨deciphered, decrypted, rfl⟩
      dsimp only
      split <;> rfl

theorem rtw_tkip_decrypt_success {env : DecryptEnv} {prxattrib : RxPktAttrib} {len : Nat} {deciphered : Deciphered}
    (run : rtw_tkip_decrypt env psecuritypriv prxattrib len message pframe = some deciphered)
    (passed : deciphered.res ≠ ._FAIL) :
    payload_index prxattrib ≤ len ∧
      (∀ i, i < payload_index prxattrib -> deciphered.pframe i = pframe i) ∧
      Memory.read deciphered.pframe (len - 4) 4 =
        icv_bytes (Memory.read deciphered.pframe (payload_index prxattrib)
          (len - payload_index prxattrib - 4)) := by
  unfold rtw_tkip_decrypt at run
  cases key : tkip_prwskey env psecuritypriv prxattrib with
  | none =>
    rw [key] at run
    cases run
    exact absurd rfl passed
  | some prwskey =>
    rw [key] at run
    dsimp only at run
    split at run
    case isTrue short => exact nomatch run
    case isFalse whole =>
      have fits : payload_index prxattrib ≤ len := Nat.le_of_not_lt whole
      cases run
      dsimp only at passed ⊢
      rw [Nat.add_sub_cancel' fits] at passed
      refine ⟨fits, ?_, ?_⟩
      · intro i before
        exact Memory.write_of_outside pframe (Or.inl before)
      · by_contra different
        exact passed (if_pos different)

theorem tkip_short_iv_end {payload : Nat -> UInt8} {len start : Nat}
    (kept : ∀ i, i < start -> payload i = pframe i) (whole : start ≤ len) (long : 4 ≤ start)
    (short : len - start < 4) (compared : Memory.read payload (len - 4) 4 =
      icv_bytes (Memory.read payload start (len - start - 4))) (fromEnd : len - 4 ≤ i)
    (inIv : i < start) : pframe i = 0 := by
  have empty : len - start - 4 = 0 := Nat.sub_eq_zero_of_le (Nat.le_of_lt short)
  have zeros : icv_bytes (Memory.read payload start (len - start - 4)) = List.replicate 4 0 := by
    rw [empty, Memory.read_zero]
    decide +kernel
  have cell := @Memory.getElem?_read _ payload (len - 4) 4 (i - (len - 4)) (by omega)
  rw [compared, zeros, List.getElem?_replicate, if_pos (by omega), Nat.add_sub_cancel' fromEnd, kept i inIv] at cell
  exact (Option.some.inj cell).symm

theorem tkip_gate {env : DecryptEnv} {precv_frame : RecvFrame}
    (isProtected : Protected precv_frame.attrib) (tkip : precv_frame.attrib.encrypt = ._TKIP_)
    (verified : Verified precv_frame) (run : decryptor env psecuritypriv message precv_frame = some outcome)
    (isReturned : outcome.return_packet = some returned) : IcvMatches returned := by
  rcases decryptor_returned isProtected run isReturned with ⟨deciphered, decrypted, passed, rfl⟩
  have isTkip : (set_key_index env precv_frame).attrib.encrypt = ._TKIP_ := tkip
  unfold sw_decrypt at decrypted
  dsimp only at decrypted
  rw [isTkip] at decrypted
  rcases rtw_tkip_decrypt_success decrypted passed with ⟨whole, kept, compared⟩
  replace whole : payload_index precv_frame.attrib ≤ precv_frame.len := whole
  replace compared : Memory.read deciphered.pframe (precv_frame.len - 4) 4 =
    icv_bytes (Memory.read deciphered.pframe (payload_index precv_frame.attrib)
      (precv_frame.len - payload_index precv_frame.attrib - 4)) := compared
  replace kept : ∀ i, i < payload_index precv_frame.attrib ->
    deciphered.pframe i = frame_memory precv_frame env.behind i := kept
  have long := isProtected.payload_index_ge
  have hasIcv : 4 ≤ precv_frame.len - payload_index precv_frame.attrib := by
    rcases verified with short | byCipher
    · exact absurd whole (Nat.not_le.mpr short)
    · rw [tkip] at byCipher
      rcases byCipher with enough | ⟨i, fromEnd, inIv, nonzero⟩
      · exact enough
      · by_contra notEnough
        apply nonzero
        have isZero := tkip_short_iv_end kept whole (by omega) (by omega) compared fromEnd inIv
        have byte := frame_memory_inside precv_frame env.behind (Nat.lt_of_lt_of_le inIv whole)
        exact byte.symm.trans isZero
  have within : payload_index precv_frame.attrib + (body_len precv_frame - 4) ≤ precv_frame.len := by
    unfold body_len
    omega
  unfold IcvMatches
  rw [body_len_decrypted_frame, len_decrypted_frame]
  refine ⟨hasIcv, ?_⟩
  have icv : (Memory.read deciphered.pframe 0 precv_frame.len).drop (precv_frame.len - 4) =
      Memory.read deciphered.pframe (precv_frame.len - 4) 4 := by
    rw [Memory.read_drop _ _ (by omega), Nat.zero_add, Nat.sub_sub_self (by omega)]
  exact icv.trans (compared.trans (congrArg icv_bytes (read_drop_take _ within).symm))

theorem ccmp_header_hdrlen_le (pframe : Nat -> UInt8) (hdrlen : Nat) :
    (ccmp_header pframe hdrlen).hdrlen ≤ hdrlen + 2 := by
  have qosHdrlen : (if hdrlen ≠ 26 ∧ hdrlen ≠ 32 then hdrlen + 2 else hdrlen) ≤ hdrlen + 2 := by
    split <;> omega
  unfold ccmp_header
  dsimp only
  split
  · exact qosHdrlen
  · split
    · exact qosHdrlen
    · exact Nat.le_add_right hdrlen 2

theorem ccmp_header_frame (precv_frame : RecvFrame) (first second : Nat -> UInt8)
    (long : 2 ≤ precv_frame.len) (hdrlen : Nat) :
    ccmp_header (frame_memory precv_frame first) hdrlen =
      ccmp_header (frame_memory precv_frame second) hdrlen := by
  apply ccmp_header_congr
  intro i inside
  rw [frame_memory_inside _ _ (Nat.lt_of_lt_of_le inside long),
    frame_memory_inside _ _ (Nat.lt_of_lt_of_le inside long)]

theorem memory_decrypted_frame {precv_frame : RecvFrame} {behind : Nat -> UInt8}
    (kept : ∀ i, precv_frame.len ≤ i -> pframe i = frame_memory precv_frame behind i) :
    frame_memory (decrypted_frame precv_frame pframe) behind = pframe := by
  funext i
  have length := len_decrypted_frame precv_frame pframe
  rcases Nat.lt_or_ge i precv_frame.len with inside | outside
  · have cell := @Memory.getElem?_read _ pframe 0 precv_frame.len i inside
    rw [frame_memory_inside _ _ (by rw [length]; exact inside), List.getD_eq_getElem?_getD]
    show ((Memory.read pframe 0 precv_frame.len)[i]?).getD 0 = pframe i
    rw [cell, Option.getD_some, Nat.zero_add]
  · rw [frame_memory_outside _ _ (by rw [length]; exact outside), kept i outside, frame_memory_outside _ _ outside]

theorem aes_gate {env : DecryptEnv} {precv_frame : RecvFrame}
    (isProtected : Protected precv_frame.attrib) (aes : precv_frame.attrib.encrypt = ._AES_)
    (verified : Verified precv_frame) (run : decryptor env psecuritypriv message precv_frame = some outcome)
    (isReturned : outcome.return_packet = some returned) :
    ∃ prwskey : List UInt8,
      aes_prwskey env psecuritypriv returned.attrib = some prwskey ∧
        MicMatches env prwskey returned := by
  rcases decryptor_returned isProtected run isReturned with ⟨deciphered, decrypted, passed, rfl⟩
  have isAes : (set_key_index env precv_frame).attrib.encrypt = ._AES_ := aes
  have iv_len : precv_frame.attrib.iv_len = 8 := by
    rw [isProtected.iv_len_eq, aes]
    rfl
  have hdrlenGe := isProtected.hdrlen_ge
  unfold sw_decrypt at decrypted
  dsimp only at decrypted
  rw [isAes] at decrypted
  unfold rtw_aes_decrypt at decrypted
  dsimp only at decrypted
  cases key : aes_prwskey env outcome.psecuritypriv (set_key_index env precv_frame).attrib with
  | none =>
    rw [key] at decrypted
    cases decrypted
    exact absurd rfl passed
  | some prwskey =>
    rw [key] at decrypted
    rw [decryptor_keys run] at key
    refine ⟨prwskey, key, ?_⟩
    dsimp only at decrypted
    split at decrypted
    case isTrue short => exact nomatch decrypted
    case isFalse notShort =>
      replace notShort : ¬ precv_frame.len < payload_index precv_frame.attrib := notShort
      replace decrypted : aes_decipher env.CONFIG_IEEE80211W env.aes128k128d prwskey
        precv_frame.attrib.hdrlen message (frame_memory precv_frame env.behind)
        (body_len precv_frame) = some deciphered := decrypted
      have start : payload_index precv_frame.attrib = precv_frame.attrib.hdrlen + 8 := by
        unfold payload_index
        rw [iv_len]
      have bodyLen : body_len precv_frame = precv_frame.len - (precv_frame.attrib.hdrlen + 8) := by
        unfold body_len
        rw [start]
      have enough : 8 ≤ body_len precv_frame := aes_decipher_has_mic decrypted
      have fits : (ccmp_header (frame_memory precv_frame env.behind)
          precv_frame.attrib.hdrlen).hdrlen + body_len precv_frame + 8 ≤ MAX_MSG_SIZE := by
        rcases verified with short | byCipher
        · exact absurd short notShort
        · rw [aes] at byCipher
          rcases byCipher with less | within
          · exact absurd enough (Nat.not_le.mpr less)
          · rw [ccmp_header_frame precv_frame env.behind (fun _ => 0) (by omega)]
            exact within
      rcases aes_decipher_accepted hdrlenGe fits decrypted passed with ⟨hasMic, plain, matching⟩
      have headerLe := ccmp_header_hdrlen_le (frame_memory precv_frame env.behind)
        precv_frame.attrib.hdrlen
      have memory : frame_memory
          (decrypted_frame (set_key_index env precv_frame) deciphered.pframe) env.behind =
          deciphered.pframe := by
        apply memory_decrypted_frame
        intro i outside
        replace outside : precv_frame.len ≤ i := outside
        rw [plain]
        exact Keystream.mask_of_outside _ _ (Or.inr (by omega))
      unfold MicMatches
      rw [body_len_decrypted_frame, memory]
      exact matching

section WithBody

variable {precv_frame : RecvFrame} {body : List UInt8}
  (whole : payload_index precv_frame.attrib ≤ precv_frame.len)

include whole

theorem length_header :
    (precv_frame.rx_data.take (payload_index precv_frame.attrib)).length =
      payload_index precv_frame.attrib := by
  rw [List.length_take]
  exact Nat.min_eq_left whole

theorem len_with_body (bodyLength : body.length = body_len precv_frame) :
    (with_body precv_frame body).len = precv_frame.len := by
  show (precv_frame.rx_data.take (payload_index precv_frame.attrib) ++ body).length = _
  rw [List.length_append, length_header whole, bodyLength, body_len]
  omega

theorem body_len_with_body (bodyLength : body.length = body_len precv_frame) :
    body_len (with_body precv_frame body) = body_len precv_frame := by
  unfold body_len
  rw [len_with_body whole bodyLength]
  rfl

theorem with_body_header (inHeader : i < payload_index precv_frame.attrib) :
    (with_body precv_frame body).rx_data.getD i 0 = precv_frame.rx_data.getD i 0 := by
  show (precv_frame.rx_data.take (payload_index precv_frame.attrib) ++ body).getD i 0 = _
  rw [List.getD_eq_getElem?_getD, List.getElem?_append_left (by rw [length_header whole]; exact inHeader),
    List.getElem?_take_of_lt inHeader, List.getD_eq_getElem?_getD]

theorem memory_with_body (bodyLength : body.length = body_len precv_frame)
    (behind : Nat -> UInt8) (inHeader : i < payload_index precv_frame.attrib) :
    frame_memory (with_body precv_frame body) behind i = precv_frame.rx_data.getD i 0 := by
  rw [frame_memory_inside _ _ (by rw [len_with_body whole bodyLength]; omega), with_body_header whole inHeader]

theorem read_with_body (bodyLength : body.length = body_len precv_frame) (behind : Nat -> UInt8) :
    Memory.read (frame_memory (with_body precv_frame body) behind)
      (payload_index precv_frame.attrib) (body_len precv_frame) = body := by
  have twoWrites := Memory.write_append behind 0
    (precv_frame.rx_data.take (payload_index precv_frame.attrib)) body
  rw [length_header whole, Nat.zero_add] at twoWrites
  show Memory.read (Memory.write behind 0
    (precv_frame.rx_data.take (payload_index precv_frame.attrib) ++ body)) _ _ = body
  rw [← twoWrites, ← bodyLength]
  exact Memory.read_write _ _ _

theorem read_iv_with_body (bodyLength : body.length = body_len precv_frame)
    (behind : Nat -> UInt8) {count : Nat} (inIv : count ≤ precv_frame.attrib.iv_len) :
    Memory.read (frame_memory (with_body precv_frame body) behind) precv_frame.attrib.hdrlen count =
      Memory.read (fun i => precv_frame.rx_data.getD i 0) precv_frame.attrib.hdrlen count := by
  apply Memory.read_congr
  intro i inside
  apply memory_with_body whole bodyLength
  unfold payload_index
  omega

theorem arcfour_body_with_body (bodyLength : body.length = body_len precv_frame)
    (behind : Nat -> UInt8) (key : List UInt8) :
    arcfour_body key precv_frame.attrib precv_frame.len
        (frame_memory (with_body precv_frame body) behind) =
      Memory.write (frame_memory (with_body precv_frame body) behind)
        (payload_index precv_frame.attrib) (arcfour_encrypt (arcfour_init key) body).1 := by
  show Memory.write _ _ (arcfour_encrypt _ (Memory.read _ _ (body_len precv_frame))).1 = _
  rw [read_with_body whole bodyLength behind]

end WithBody

theorem verified_with_body {precv_frame : RecvFrame} {body : List UInt8}
    (long : 2 ≤ payload_index precv_frame.attrib) (bodyLength : body.length = body_len precv_frame)
    (verified : Verified precv_frame) : Verified (with_body precv_frame body) := by
  rcases Nat.lt_or_ge precv_frame.len (payload_index precv_frame.attrib) with short | whole
  · left
    show (precv_frame.rx_data.take (payload_index precv_frame.attrib) ++ body).length < _
    have noBody : body.length = 0 := by
      rw [bodyLength]
      exact Nat.sub_eq_zero_of_le (Nat.le_of_lt short)
    rw [List.length_append, noBody, List.length_take, Nat.add_zero]
    exact Nat.lt_of_le_of_lt (Nat.min_le_right _ _) short
  · rcases verified with short | byCipher
    · exact absurd whole (Nat.not_le.mpr short)
    · right
      show match precv_frame.attrib.encrypt with
        | ._NO_PRIVACY_ => _
        | ._WEP40_ => _
        | ._WEP104_ => _
        | ._TKIP_ => _
        | ._AES_ => _
      rw [len_with_body whole bodyLength, body_len_with_body whole bodyLength]
      cases cipher : precv_frame.attrib.encrypt with
      | _NO_PRIVACY_ => trivial
      | _WEP40_ => rw [cipher] at byCipher; exact byCipher
      | _WEP104_ => rw [cipher] at byCipher; exact byCipher
      | _TKIP_ =>
        rw [cipher] at byCipher
        rcases byCipher with enough | ⟨i, fromEnd, inIv, nonzero⟩
        · exact Or.inl enough
        · refine Or.inr ⟨i, fromEnd, inIv, ?_⟩
          rw [with_body_header whole inIv]
          exact nonzero
      | _AES_ =>
        rw [cipher] at byCipher
        rcases byCipher with less | within
        · exact Or.inl less
        · right
          have sameHeader : ccmp_header (frame_memory (with_body precv_frame body) (fun _ => 0))
              precv_frame.attrib.hdrlen =
              ccmp_header (frame_memory precv_frame (fun _ => 0)) precv_frame.attrib.hdrlen := by
            apply ccmp_header_congr
            intro i inside
            rw [memory_with_body whole bodyLength _ (by omega), frame_memory_inside _ _ (by omega)]
          show (ccmp_header (frame_memory (with_body precv_frame body) (fun _ => 0))
            precv_frame.attrib.hdrlen).hdrlen + _ + 8 ≤ _
          rw [sameHeader]
          exact within

theorem wep_gate {env : DecryptEnv} {precv_frame : RecvFrame} (isProtected : Protected precv_frame.attrib)
    (wep : precv_frame.attrib.encrypt = ._WEP40_ ∨ precv_frame.attrib.encrypt = ._WEP104_)
    (verified : Verified precv_frame) (run : decryptor env psecuritypriv message precv_frame = some outcome)
    (isReturned : outcome.return_packet = some returned) : False := by
  rcases decryptor_returned isProtected run isReturned with ⟨deciphered, decrypted, passed, isFrame⟩
  have short : precv_frame.len < payload_index precv_frame.attrib := by
    rcases verified with short | byCipher
    · exact short
    · rcases wep with cipher | cipher
      · rw [cipher] at byCipher
        exact byCipher.elim
      · rw [cipher] at byCipher
        exact byCipher.elim
  have isWep : (set_key_index env precv_frame).attrib.encrypt = ._WEP40_ ∨
      (set_key_index env precv_frame).attrib.encrypt = ._WEP104_ := wep
  have refused : rtw_wep_decrypt outcome.psecuritypriv (set_key_index env precv_frame).attrib
      (set_key_index env precv_frame).len message
      (frame_memory (set_key_index env precv_frame) env.behind) = none := if_pos short
  unfold sw_decrypt at decrypted
  dsimp only at decrypted
  rcases isWep with cipher | cipher
  · rw [cipher] at decrypted
    exact nomatch refused.symm.trans decrypted
  · rw [cipher] at decrypted
    exact nomatch refused.symm.trans decrypted

/-- The frames whose check value is compared pass the gate. -/
theorem gate_of_verified {precv_frame : RecvFrame} (isProtected : Protected precv_frame.attrib)
    (verified : Verified precv_frame) : IntegrityGate precv_frame := by
  intro env psecuritypriv message body outcome returned bodyLength run isReturned
  have long := isProtected.payload_index_ge
  have verifiedBody := verified_with_body (Nat.le_trans (by decide) long) bodyLength verified
  have protectedBody : Protected (with_body precv_frame body).attrib := isProtected
  rcases decryptor_returned protectedBody run isReturned with ⟨deciphered, decrypted, passed, isFrame⟩
  have sameCipher : returned.attrib.encrypt = precv_frame.attrib.encrypt := by
    rw [isFrame]
    rfl
  unfold CheckValueMatches
  rw [sameCipher]
  cases cipher : precv_frame.attrib.encrypt with
  | _NO_PRIVACY_ => trivial
  | _TKIP_ => exact tkip_gate protectedBody cipher verifiedBody run isReturned
  | _AES_ => exact aes_gate protectedBody cipher verifiedBody run isReturned
  | _WEP40_ => exact (wep_gate protectedBody (Or.inl cipher) verifiedBody run isReturned).elim
  | _WEP104_ => exact (wep_gate protectedBody (Or.inr cipher) verifiedBody run isReturned).elim

end Decrypt

end Rtl8821ce
