import Rtl8821ce.Recv.IntegrityGate
import Rtl8821ce.Security.ArcfourPacked

/-!
# Frames that pass unchecked

For each kind of frame whose check value is not compared, the keys and the ciphertext
of a frame that is returned with a wrong one.
-/

namespace Rtl8821ce

namespace Decrypt

variable {precv_frame : RecvFrame}

/-- The settings of a driver that knows every station and has every key. -/
def open_env (aes128k128d : List UInt8 -> Block -> Block) (behind : Nat -> UInt8) : DecryptEnv where
  CONFIG_IEEE80211W := false
  aes128k128d := aes128k128d
  dot118021x_UncstKey := fun _ => some []
  behind := behind

def open_security (key_index : Nat) : RxSecurity where
  dot11DefKey := fun _ => []
  binstallGrpkey := true
  dot118021XGrpKeyid := key_index
  dot118021XGrpKey := fun _ => []
  busetkipkey := true
  hw_decrypted := false

theorem open_aes_prwskey (aes128k128d : List UInt8 -> Block -> Block) (behind : Nat -> UInt8)
    (prxattrib : RxPktAttrib) (flag : Bool) :
    aes_prwskey (open_env aes128k128d behind)
      { open_security prxattrib.key_index with hw_decrypted := flag } prxattrib = some [] := by
  unfold aes_prwskey open_env open_security
  dsimp only [Option.bind_some]
  split
  case isTrue group =>
    rw [if_neg (by decide), if_neg (fun different => different rfl)]
  case isFalse pairwise => rfl

theorem IntegrityGate.checked (gate : IntegrityGate precv_frame)
    (isProtected : Protected precv_frame.attrib) {env : DecryptEnv} {psecuritypriv : RxSecurity}
    {message left plain : Nat -> UInt8} {body : List UInt8} (bodyLength : body.length = body_len precv_frame)
    (decrypted : ∀ flag : Bool, sw_decrypt env { psecuritypriv with hw_decrypted := flag } message
      (set_key_index env (with_body precv_frame body)) =
        some { res := ._SUCCESS, pframe := plain, message := left }) :
    CheckValueMatches env psecuritypriv
      (decrypted_frame (set_key_index env (with_body precv_frame body)) plain) := by
  have protectedBody : Protected (with_body precv_frame body).attrib := isProtected
  rcases decryptor_passes protectedBody decrypted nofun with ⟨outcome, run, returned⟩
  exact gate env psecuritypriv message body outcome _ bodyLength run returned

/-- The stream that a WEP frame with this header is decrypted with, without a key. -/
def wep_stream (precv_frame : RecvFrame) : Arc4Context :=
  arcfour_init (Memory.read (fun i => precv_frame.rx_data.getD i 0) precv_frame.attrib.hdrlen 3 ++ [])

def wep_plain (precv_frame : RecvFrame) (body : List UInt8) : Nat -> UInt8 :=
  Memory.write (frame_memory (with_body precv_frame body) (fun _ => 0))
    (payload_index precv_frame.attrib) (arcfour_encrypt (wep_stream precv_frame) body).1

theorem wep_decrypted {body : List UInt8} (isProtected : Protected precv_frame.attrib)
    (wep : precv_frame.attrib.encrypt = ._WEP40_ ∨ precv_frame.attrib.encrypt = ._WEP104_)
    (whole : payload_index precv_frame.attrib ≤ precv_frame.len)
    (bodyLength : body.length = body_len precv_frame) (message : Nat -> UInt8) (flag : Bool) :
    sw_decrypt (open_env (fun _ block => block) (fun _ => 0))
        { open_security 0 with hw_decrypted := flag } message
        (set_key_index (open_env (fun _ block => block) (fun _ => 0))
          (with_body precv_frame body)) =
      some { res := ._SUCCESS, pframe := wep_plain precv_frame body, message := message } := by
  let env := open_env (fun _ block => block) (fun _ => 0)
  let frame := set_key_index env (with_body precv_frame body)
  let pframe := frame_memory (with_body precv_frame body) env.behind
  have length : (with_body precv_frame body).len = precv_frame.len := len_with_body whole bodyLength
  have ivLen : 3 ≤ precv_frame.attrib.iv_len := by
    rw [isProtected.iv_len_eq]
    rcases wep with cipher | cipher
    · rw [cipher]; decide
    · rw [cipher]; decide
  have isPlain : arcfour_body (Memory.read pframe precv_frame.attrib.hdrlen 3 ++ [])
      precv_frame.attrib precv_frame.len pframe = wep_plain precv_frame body := by
    rw [arcfour_body_with_body whole bodyLength, read_iv_with_body whole bodyLength _ ivLen]
    rfl
  have byWep : rtw_wep_decrypt { open_security 0 with hw_decrypted := flag } frame.attrib
      (with_body precv_frame body).len message pframe =
      some { res := ._SUCCESS, pframe := wep_plain precv_frame body, message := message } := by
    unfold rtw_wep_decrypt
    rw [if_neg (by rw [length]; exact Nat.not_lt.mpr whole), length]
    dsimp only
    rw [← isPlain]
    rfl
  have cipher : frame.attrib.encrypt = precv_frame.attrib.encrypt := rfl
  rw [← byWep]
  unfold sw_decrypt
  dsimp only
  rcases wep with isWep | isWep
  · rw [cipher, isWep]
    rfl
  · rw [cipher, isWep]
    rfl

theorem IntegrityGate.wep_icv (gate : IntegrityGate precv_frame) (isProtected : Protected precv_frame.attrib)
    (wep : precv_frame.attrib.encrypt = ._WEP40_ ∨ precv_frame.attrib.encrypt = ._WEP104_)
    (whole : payload_index precv_frame.attrib ≤ precv_frame.len) {body : List UInt8}
    (bodyLength : body.length = body_len precv_frame) :
    4 ≤ body_len precv_frame ∧
      (arcfour_encrypt (wep_stream precv_frame) body).1.drop (body_len precv_frame - 4) =
        icv_bytes ((arcfour_encrypt (wep_stream precv_frame) body).1.take
          (body_len precv_frame - 4)) := by
  let frame := set_key_index (open_env (fun _ block => block) (fun _ => 0))
    (with_body precv_frame body)
  have checked := gate.checked isProtected bodyLength
    (wep_decrypted isProtected wep whole bodyLength (fun _ => 0))
  have icv : IcvMatches (decrypted_frame frame (wep_plain precv_frame body)) := by
    have cipher : (decrypted_frame frame (wep_plain precv_frame body)).attrib.encrypt =
        precv_frame.attrib.encrypt := rfl
    unfold CheckValueMatches at checked
    rw [cipher] at checked
    rcases wep with isWep | isWep
    · rw [isWep] at checked
      exact checked
    · rw [isWep] at checked
      exact checked
  have length : frame.len = precv_frame.len := len_with_body whole bodyLength
  have sameBodyLen : body_len frame = body_len precv_frame := body_len_with_body whole bodyLength
  have plain : (decrypted_frame frame (wep_plain precv_frame body)).rx_data.drop
      (payload_index precv_frame.attrib) = (arcfour_encrypt (wep_stream precv_frame) body).1 := by
    show (Memory.read (wep_plain precv_frame body) 0 frame.len).drop _ = _
    rw [length, Memory.read_drop _ _ whole, Nat.zero_add]
    have written := Memory.read_write (frame_memory (with_body precv_frame body) (fun _ => 0))
      (payload_index precv_frame.attrib) (arcfour_encrypt (wep_stream precv_frame) body).1
    rw [length_arcfour_encrypt, bodyLength] at written
    exact written
  unfold IcvMatches at icv
  rw [body_len_decrypted_frame, len_decrypted_frame, length, sameBodyLen] at icv
  rcases icv with ⟨enough, same⟩
  refine ⟨enough, ?_⟩
  have position : payload_index precv_frame.attrib + (body_len precv_frame - 4) =
      precv_frame.len - 4 := by
    unfold body_len at enough ⊢
    omega
  rw [← plain, List.drop_drop, position]
  exact same

theorem wrong_icv (stream : Arc4Context) {length : Nat} (enough : 4 ≤ length) :
    ∃ body : List UInt8, body.length = length ∧
      (arcfour_encrypt stream body).1.drop (length - 4) ≠
        icv_bytes ((arcfour_encrypt stream body).1.take (length - 4)) := by
  by_contra none
  let first := List.replicate (length - 1) (0 : UInt8)
  let plain := arcfour_encrypt stream first
  have firstLength : first.length = length - 1 := List.length_replicate
  have plainLength : plain.1.length = length - 1 := (length_arcfour_encrypt stream first).trans firstLength
  -- the ICV does not depend on the last byte, although it is in the ICV
  have lastByte : ∀ last : UInt8,
      last ^^^ (arcfour_byte plain.2).1 = (icv_bytes (plain.1.take (length - 4))).getD 3 0 := by
    intro last
    have wholeLength : (first ++ [last]).length = length := by
      rw [List.length_append, firstLength, List.length_singleton]
      omega
    have checked : (arcfour_encrypt stream (first ++ [last])).1.drop (length - 4) =
        icv_bytes ((arcfour_encrypt stream (first ++ [last])).1.take (length - 4)) := by
      by_contra different
      exact none ⟨first ++ [last], wholeLength, different⟩
    rw [arcfour_encrypt_append] at checked
    have taken : (plain.1 ++ (arcfour_encrypt plain.2 [last]).1).take (length - 4) =
        plain.1.take (length - 4) := List.take_append_of_le_length (by omega)
    have byte : ((plain.1 ++ (arcfour_encrypt plain.2 [last]).1).drop (length - 4)).getD 3 0 =
        last ^^^ (arcfour_byte plain.2).1 := by
      have position : length - 4 + 3 - plain.1.length = 0 := by omega
      rw [List.getD_eq_getElem?_getD, List.getElem?_drop, List.getElem?_append_right (by omega), position]
      rfl
    rw [← byte, ← taken, ← checked]
  have same : (1 : UInt8) ^^^ (arcfour_byte plain.2).1 = 0 ^^^ (arcfour_byte plain.2).1 :=
    (lastByte 1).trans (lastByte 0).symm
  exact absurd ((UInt8.xor_left_inj _).mp same) (by decide)

theorem not_gate_wep (isProtected : Protected precv_frame.attrib)
    (wep : precv_frame.attrib.encrypt = ._WEP40_ ∨ precv_frame.attrib.encrypt = ._WEP104_)
    (whole : payload_index precv_frame.attrib ≤ precv_frame.len) : ¬ IntegrityGate precv_frame := by
  intro gate
  have enough := (gate.wep_icv isProtected wep whole
    (@List.length_replicate _ (body_len precv_frame) (0 : UInt8))).1
  rcases wrong_icv (wep_stream precv_frame) enough with ⟨body, bodyLength, different⟩
  exact different (gate.wep_icv isProtected wep whole bodyLength).2

/-- The stream that a TKIP frame with this header is decrypted with, under the empty key. -/
def tkip_stream (precv_frame : RecvFrame) : Arc4Context :=
  arcfour_init (tkip_rc4key [] precv_frame.attrib.ta.bytes
    (Memory.read (fun i => precv_frame.rx_data.getD i 0) precv_frame.attrib.hdrlen 8))

def tkip_plain (precv_frame : RecvFrame) (body : List UInt8) : Nat -> UInt8 :=
  Memory.write (frame_memory (with_body precv_frame body) (fun _ => 0))
    (payload_index precv_frame.attrib) (arcfour_encrypt (tkip_stream precv_frame) body).1

theorem tkip_decrypted {body : List UInt8}
    (isProtected : Protected precv_frame.attrib) (tkip : precv_frame.attrib.encrypt = ._TKIP_)
    (whole : payload_index precv_frame.attrib ≤ precv_frame.len)
    (bodyLength : body.length = body_len precv_frame) (message : Nat -> UInt8)
    (same : Memory.read (tkip_plain precv_frame body)
        (payload_index precv_frame.attrib + body_len precv_frame - 4) 4 =
      icv_bytes (Memory.read (tkip_plain precv_frame body) (payload_index precv_frame.attrib)
        (body_len precv_frame - 4))) (flag : Bool) :
    sw_decrypt (open_env (fun _ block => block) (fun _ => 0))
        { open_security 0 with hw_decrypted := flag } message
        (set_key_index (open_env (fun _ block => block) (fun _ => 0))
          (with_body precv_frame body)) =
      some { res := ._SUCCESS, pframe := tkip_plain precv_frame body, message := message } := by
  let env := open_env (fun _ block => block) (fun _ => 0)
  let frame := set_key_index env (with_body precv_frame body)
  let pframe := frame_memory (with_body precv_frame body) env.behind
  have length : (with_body precv_frame body).len = precv_frame.len := len_with_body whole bodyLength
  have ivLen : 8 ≤ precv_frame.attrib.iv_len := by
    rw [isProtected.iv_len_eq, tkip]
    decide
  have isPlain : arcfour_body (tkip_rc4key [] precv_frame.attrib.ta.bytes
      (Memory.read pframe precv_frame.attrib.hdrlen 8)) precv_frame.attrib precv_frame.len pframe =
      tkip_plain precv_frame body := by
    rw [arcfour_body_with_body whole bodyLength, read_iv_with_body whole bodyLength _ ivLen]
    rfl
  have key : tkip_prwskey env { open_security 0 with hw_decrypted := flag } frame.attrib =
      some [] := ite_self _
  have byTkip : rtw_tkip_decrypt env { open_security 0 with hw_decrypted := flag } frame.attrib
      (with_body precv_frame body).len message pframe =
      some { res := ._SUCCESS, pframe := tkip_plain precv_frame body, message := message } := by
    unfold rtw_tkip_decrypt
    rw [key]
    dsimp only
    rw [if_neg (by rw [length]; exact Nat.not_lt.mpr whole), length]
    have result : (if Memory.read (tkip_plain precv_frame body)
          (payload_index precv_frame.attrib + body_len precv_frame - 4) 4 ≠
          icv_bytes (Memory.read (tkip_plain precv_frame body) (payload_index precv_frame.attrib)
            (body_len precv_frame - 4)) then RecvStatus._FAIL else ._SUCCESS) = ._SUCCESS :=
      if_neg (fun different => different same)
    rw [← isPlain] at result ⊢
    exact congrArg (fun res => some (Deciphered.mk res _ _)) result
  have cipher : frame.attrib.encrypt = ._TKIP_ := tkip
  unfold sw_decrypt
  dsimp only
  rw [cipher]
  exact byTkip

/-- A TKIP frame that is shorter than an ICV behind its IV, and whose IV ends with zeros,
is returned for some body. -/
theorem not_gate_tkip (isProtected : Protected precv_frame.attrib) (tkip : precv_frame.attrib.encrypt = ._TKIP_)
    (whole : payload_index precv_frame.attrib ≤ precv_frame.len) (short : body_len precv_frame < 4)
    (zeros : ∀ i, precv_frame.len - 4 ≤ i -> i < payload_index precv_frame.attrib ->
      precv_frame.rx_data.getD i 0 = 0) : ¬ IntegrityGate precv_frame := by
  intro gate
  -- the body that is decrypted to zeros
  let body := (arcfour_encrypt (tkip_stream precv_frame)
    (List.replicate (body_len precv_frame) 0)).1
  have bodyLength : body.length = body_len precv_frame :=
    (length_arcfour_encrypt _ _).trans List.length_replicate
  have plain : (arcfour_encrypt (tkip_stream precv_frame) body).1 =
      List.replicate (body_len precv_frame) 0 := arcfour_encrypt_twice _ _
  have plainZero : ∀ i, precv_frame.len - 4 ≤ i -> i < precv_frame.len ->
      tkip_plain precv_frame body i = 0 := by
    intro i fromEnd inside
    unfold tkip_plain
    rw [plain]
    rcases Nat.lt_or_ge i (payload_index precv_frame.attrib) with inIv | inBody
    · rw [Memory.write_of_outside _ (Or.inl inIv)]
      exact (memory_with_body whole bodyLength _ inIv).trans (zeros i fromEnd inIv)
    · rcases Nat.exists_eq_add_of_le inBody with ⟨k, rfl⟩
      have within : k < (List.replicate (body_len precv_frame) (0 : UInt8)).length := by
        rw [List.length_replicate, body_len]
        omega
      exact (Memory.write_of_inside _ within).trans (List.getElem_replicate _)
  -- four zeros are the ICV of no bytes
  have compared : Memory.read (tkip_plain precv_frame body)
      (payload_index precv_frame.attrib + body_len precv_frame - 4) 4 =
      icv_bytes (Memory.read (tkip_plain precv_frame body) (payload_index precv_frame.attrib)
        (body_len precv_frame - 4)) := by
    have noPayload : body_len precv_frame - 4 = 0 := Nat.sub_eq_zero_of_le (Nat.le_of_lt short)
    have noBytes : icv_bytes [] = [0, 0, 0, 0] := by decide +kernel
    have position : payload_index precv_frame.attrib + body_len precv_frame - 4 =
        precv_frame.len - 4 := by
      unfold body_len
      omega
    have long := isProtected.payload_index_ge
    rw [noPayload, Memory.read_zero, noBytes, position]
    exact @Memory.read_congr _ (tkip_plain precv_frame body) (fun _ => 0) (precv_frame.len - 4) 4
      (fun i inside => plainZero _ (Nat.le_add_right _ i) (by omega))
  have checked := gate.checked isProtected bodyLength
    (tkip_decrypted isProtected tkip whole bodyLength (fun _ => 0) compared)
  let frame := set_key_index (open_env (fun _ block => block) (fun _ => 0))
    (with_body precv_frame body)
  have isTkip : (decrypted_frame frame (tkip_plain precv_frame body)).attrib.encrypt = ._TKIP_ := tkip
  unfold CheckValueMatches at checked
  rw [isTkip] at checked
  have enough : 4 ≤ body_len (decrypted_frame frame (tkip_plain precv_frame body)) := checked.1
  rw [body_len_decrypted_frame] at enough
  have sameBody : body_len frame = body_len precv_frame := body_len_with_body whole bodyLength
  omega

/-! ## CCMP frames that do not fit into the static buffer -/

theorem chain_byte_ne (blocks : List Block) {first second : Block} (different : first[4] ≠ second[4]) :
    (blocks.foldl bitwise_xor first)[4] ≠ (blocks.foldl bitwise_xor second)[4] := by
  induction blocks generalizing first second with
  | nil => exact different
  | cons block rest ih =>
    apply ih
    rw [getElem_bitwise_xor _ _ (by decide), getElem_bitwise_xor _ _ (by decide)]
    exact fun same => different ((UInt8.xor_left_inj _).mp same)

/-- The blocks of the CBC-MAC behind the first header block. -/
def mic_blocks (header : CcmpHeader) (pframe : Nat -> UInt8) (plen : Nat) : List Block :=
  construct_mic_header2 pframe header.a4_exists header.qc_exists ::
    ((List.range (plen / 16)).map (fun i =>
        padded_buffer pframe (header.hdrlen + 8 + 16 * i) 16) ++
      if 0 < plen % 16 then
        [padded_buffer pframe (header.hdrlen + 8 + 16 * (plen / 16)) (plen % 16)]
      else [])

theorem calculate_mic_sum (key : List UInt8) (header : CcmpHeader) (pn_vector : Vector UInt8 6)
    (pframe : Nat -> UInt8) (plen : Nat) :
    calculate_mic false (fun _ block => block) key header pn_vector pframe plen =
      (mic_blocks header pframe plen).foldl bitwise_xor
        (bitwise_xor
          (construct_mic_iv false header.qc_exists header.a4_exists pframe plen pn_vector
            header.frtype)
          (construct_mic_header1 false header.hdrlen pframe header.frtype)) := by
  unfold calculate_mic mic_blocks
  dsimp only
  rw [List.foldl_cons, List.foldl_append, List.foldl_map]
  split
  case isTrue rest => rfl
  case isFalse even => rfl

theorem getElem?_mic_field (key : List UInt8) (header : CcmpHeader) (pn_vector : Vector UInt8 6)
    (pframe : Nat -> UInt8) (plen : Nat) :
    (mic_field false (fun _ block => block) key header pn_vector pframe plen)[4]? =
      some ((key_block false (fun _ block => block) key header pn_vector pframe 0)[4] ^^^
        (calculate_mic false (fun _ block => block) key header pn_vector pframe plen)[4]) := by
  rw [List.getElem?_eq_getElem (by rw [length_mic_field]; decide)]
  simp only [mic_field, List.getElem_zipWith, List.getElem_take, Vector.getElem_toList]

def alter_receiver (pframe : Nat -> UInt8) : Nat -> UInt8 :=
  fun i => if i = 4 then pframe 4 ^^^ 1 else pframe i

theorem mic_field_alter_receiver_ne (key : List UInt8) {header : CcmpHeader}
    (pn_vector : Vector UInt8 6) (long : 24 ≤ header.hdrlen) (pframe : Nat -> UInt8) (plen : Nat) :
    mic_field false (fun _ block => block) key header pn_vector (alter_receiver pframe) plen ≠
      mic_field false (fun _ block => block) key header pn_vector pframe plen := by
  intro same
  have payload : ∀ index count : Nat, 32 ≤ index ->
      padded_buffer (alter_receiver pframe) index count = padded_buffer pframe index count := by
    intro index count behind
    exact padded_buffer_congr (fun j inside => if_neg (by omega))
  have sameBlocks : mic_blocks header (alter_receiver pframe) plen =
      mic_blocks header pframe plen := by
    have header2 : construct_mic_header2 (alter_receiver pframe) header.a4_exists header.qc_exists =
        construct_mic_header2 pframe header.a4_exists header.qc_exists := rfl
    have blocks : (List.range (plen / 16)).map (fun i =>
          padded_buffer (alter_receiver pframe) (header.hdrlen + 8 + 16 * i) 16) =
        (List.range (plen / 16)).map (fun i =>
          padded_buffer pframe (header.hdrlen + 8 + 16 * i) 16) :=
      List.map_congr_left (fun i _ => payload _ _ (by omega))
    unfold mic_blocks
    rw [header2, blocks, payload _ _ (by omega)]
  have sameByte : some ((key_block false (fun _ block => block) key header pn_vector
        (alter_receiver pframe) 0)[4] ^^^ (calculate_mic false (fun _ block => block) key header
        pn_vector (alter_receiver pframe) plen)[4]) =
      some ((key_block false (fun _ block => block) key header pn_vector pframe 0)[4] ^^^
        (calculate_mic false (fun _ block => block) key header pn_vector pframe plen)[4]) := by
    rw [← getElem?_mic_field, ← getElem?_mic_field, same]
  have sameKeyBlock : key_block false (fun _ block => block) key header pn_vector
      (alter_receiver pframe) 0 =
    key_block false (fun _ block => block) key header pn_vector pframe 0 := rfl
  rw [sameKeyBlock] at sameByte
  have sameMic := (UInt8.xor_right_inj _).mp (Option.some.inj sameByte)
  rw [calculate_mic_sum, calculate_mic_sum, sameBlocks] at sameMic
  refine chain_byte_ne _ ?_ sameMic
  rw [getElem_bitwise_xor _ _ (by decide), getElem_bitwise_xor _ _ (by decide)]
  intro sameStart
  have flipped : pframe 4 ^^^ 1 = pframe 4 := (UInt8.xor_right_inj _).mp sameStart
  have one := (UInt8.xor_right_inj (pframe 4)).mp (flipped.trans UInt8.xor_zero.symm)
  exact absurd one (by decide)

theorem memory_of_read {memory : Nat -> UInt8} (whole : payload_index precv_frame.attrib ≤ precv_frame.len)
    (sameHeader : ∀ i, i < payload_index precv_frame.attrib ->
      memory i = precv_frame.rx_data.getD i 0) :
    frame_memory (with_body precv_frame (Memory.read memory (payload_index precv_frame.attrib)
      (body_len precv_frame))) memory = memory := by
  have bodyLength := Memory.length_read memory (payload_index precv_frame.attrib)
    (body_len precv_frame)
  have length := len_with_body whole bodyLength
  funext i
  rcases Nat.lt_or_ge i (payload_index precv_frame.attrib) with inHeader | behindHeader
  · rw [memory_with_body whole bodyLength memory inHeader, sameHeader i inHeader]
  · rcases Nat.lt_or_ge i precv_frame.len with inBody | behind
    · rcases Nat.exists_eq_add_of_le behindHeader with ⟨k, rfl⟩
      have within : k < body_len precv_frame := by
        unfold body_len
        omega
      have ofBody := @Memory.getElem?_read _ (frame_memory (with_body precv_frame (Memory.read memory
        (payload_index precv_frame.attrib) (body_len precv_frame))) memory)
        (payload_index precv_frame.attrib) (body_len precv_frame) k within
      rw [read_with_body whole bodyLength memory, Memory.getElem?_read memory within] at ofBody
      exact (Option.some.inj ofBody).symm
    · exact frame_memory_outside _ _ (by rw [length]; exact behind)

section Forged

variable {hdrlen plen : Nat} {base : Nat -> UInt8}

/-- The buffer that an earlier frame left: this frame unmasked, with another receiver. -/
def left_message (hdrlen plen : Nat) (base : Nat -> UInt8) : Nat -> UInt8 :=
  alter_receiver (decrypted false (fun _ block => block) [] hdrlen base plen)

def left_mic (hdrlen plen : Nat) (base : Nat -> UInt8) : List UInt8 :=
  mic_field false (fun _ block => block) [] (ccmp_header base hdrlen)
    (pn_vector_at base (ccmp_header base hdrlen).hdrlen) (left_message hdrlen plen base) plen

/-- The frame with the MIC of the buffer instead of its own. -/
def forged (hdrlen plen : Nat) (base : Nat -> UInt8) : Nat -> UInt8 :=
  Memory.write base ((ccmp_header base hdrlen).hdrlen + 8 + plen) (left_mic hdrlen plen base)

theorem length_left_mic : (left_mic hdrlen plen base).length = 8 :=
  length_mic_field _ plen

theorem forged_before {i : Nat} (before : i < (ccmp_header base hdrlen).hdrlen + 8) :
    forged hdrlen plen base i = base i :=
  Memory.write_of_outside base (Or.inl (by omega))

theorem ccmp_header_forged : ccmp_header (forged hdrlen plen base) hdrlen = ccmp_header base hdrlen :=
  ccmp_header_congr (fun _ inside => forged_before (by omega)) hdrlen

theorem pn_vector_at_forged {position : Nat} (within : position ≤ (ccmp_header base hdrlen).hdrlen) :
    pn_vector_at (forged hdrlen plen base) position = pn_vector_at base position :=
  pn_vector_at_congr (fun _ before => forged_before (by omega))

theorem read_mic_forged :
    Memory.read (forged hdrlen plen base) ((ccmp_header base hdrlen).hdrlen + 8 + plen) 8 =
      left_mic hdrlen plen base := by
  have written := Memory.read_write base ((ccmp_header base hdrlen).hdrlen + 8 + plen)
    (left_mic hdrlen plen base)
  rw [length_left_mic] at written
  exact written

theorem decrypted_forged (long : 24 ≤ hdrlen) :
    decrypted false (fun _ block => block) [] hdrlen (forged hdrlen plen base) plen =
      Memory.write (decrypted false (fun _ block => block) [] hdrlen base plen)
        ((ccmp_header base hdrlen).hdrlen + 8 + plen) (left_mic hdrlen plen base) := by
  have headerGe := ccmp_header_hdrlen_ge base hdrlen
  unfold decrypted
  dsimp only
  rw [ccmp_header_forged, pn_vector_at_forged headerGe, key_stream_congr (fun i inside => forged_before (by omega))]
  exact Keystream.mask_write_of_disjoint _ _ (Or.inr (Nat.le_refl _))

/-- The forged frame is accepted when it does not fit: nothing is copied, and its MIC is the
one of the buffer. -/
theorem forged_accepted (long : 24 ≤ hdrlen) (tooLong : MAX_MSG_SIZE < (ccmp_header base hdrlen).hdrlen + plen + 16) :
    ∃ left : Nat -> UInt8,
      aes_decipher false (fun _ block => block) [] hdrlen (left_message hdrlen plen base)
          (forged hdrlen plen base) (plen + 8) = some
        { res := ._SUCCESS
          pframe := decrypted false (fun _ block => block) [] hdrlen (forged hdrlen plen base) plen
          message := left } := by
  rcases @aes_decipher_run false (fun _ block => block) [] hdrlen plen long
    (left_message hdrlen plen base) (forged hdrlen plen base) with ⟨left, run⟩
  have notCopied : message_copy false (fun _ block => block) [] hdrlen (left_message hdrlen plen base)
      (forged hdrlen plen base) plen = left_message hdrlen plen base := by
    unfold message_copy
    rw [ccmp_header_forged]
    exact if_neg (Nat.not_le.mpr tooLong)
  rw [ccmp_header_forged, pn_vector_at_forged (Nat.le_refl _), notCopied] at run
  have accepted : Memory.read (forged hdrlen plen base) ((ccmp_header base hdrlen).hdrlen + 8 + plen)
      8 = mic_field false (fun _ block => block) [] (ccmp_header base hdrlen)
        (pn_vector_at base (ccmp_header base hdrlen).hdrlen) (left_message hdrlen plen base) plen :=
    read_mic_forged
  rw [if_pos accepted] at run
  exact ⟨left, run⟩

theorem forged_mic_ne (long : 24 ≤ hdrlen) :
    carried_mic false (fun _ block => block) [] hdrlen
        (decrypted false (fun _ block => block) [] hdrlen (forged hdrlen plen base) plen) plen ≠
      computed_mic false (fun _ block => block) [] hdrlen
        (decrypted false (fun _ block => block) [] hdrlen (forged hdrlen plen base) plen) plen := by
  intro same
  have headerGe := ccmp_header_hdrlen_ge base hdrlen
  have longHeader := Nat.le_trans long headerGe
  have header := @ccmp_header_decrypted false (fun _ block => block) [] hdrlen plen
    (forged hdrlen plen base)
  have pn := @pn_vector_at_decrypted false (fun _ block => block) [] hdrlen plen
    (forged hdrlen plen base)
  have mic := @read_mic_decrypted false (fun _ block => block) [] hdrlen plen (forged hdrlen plen base)
  rw [ccmp_header_forged] at header pn mic
  rw [carried_mic_eq_iff, header, pn, mic, pn_vector_at_forged (Nat.le_refl _), read_mic_forged,
    decrypted_forged long, mic_field_congr longHeader
      (fun i inside => Memory.write_of_outside _ (Or.inl inside))] at same
  exact mic_field_alter_receiver_ne [] _ longHeader _ plen same

end Forged

theorem not_gate_aes (isProtected : Protected precv_frame.attrib) (aes : precv_frame.attrib.encrypt = ._AES_)
    (whole : payload_index precv_frame.attrib ≤ precv_frame.len) (hasMic : 8 ≤ body_len precv_frame)
    (tooLong : MAX_MSG_SIZE < (ccmp_header (frame_memory precv_frame (fun _ => 0))
      precv_frame.attrib.hdrlen).hdrlen + body_len precv_frame + 8) :
    ¬ IntegrityGate precv_frame := by
  intro gate
  let hdrlen := precv_frame.attrib.hdrlen
  let plen := body_len precv_frame - 8
  have long : 24 ≤ hdrlen := isProtected.hdrlen_ge
  have start : payload_index precv_frame.attrib = hdrlen + 8 := by
    show precv_frame.attrib.hdrlen + precv_frame.attrib.iv_len = _
    rw [isProtected.iv_len_eq, aes]
    rfl
  have bodyLen : body_len precv_frame = plen + 8 := (Nat.sub_add_cancel hasMic).symm
  -- the forged frame that has this header
  let base : Nat -> UInt8 := fun i =>
    if i < payload_index precv_frame.attrib then precv_frame.rx_data.getD i 0 else 0
  let pframe := forged hdrlen plen base
  let plain := decrypted false (fun _ block => block) [] hdrlen pframe plen
  let body := Memory.read pframe (payload_index precv_frame.attrib) (body_len precv_frame)
  let env := open_env (fun _ block => block) pframe
  let frame := set_key_index env (with_body precv_frame body)
  have headerGe := ccmp_header_hdrlen_ge base hdrlen
  have headerLe := ccmp_header_hdrlen_le base hdrlen
  have bodyLength : body.length = body_len precv_frame := Memory.length_read _ _ _
  have length : frame.len = precv_frame.len := len_with_body whole bodyLength
  have sameBodyLen : body_len frame = plen + 8 := (body_len_with_body whole bodyLength).trans bodyLen
  have memory : frame_memory frame pframe = pframe := by
    apply memory_of_read whole
    intro i inHeader
    exact (forged_before (by omega)).trans (if_pos inHeader)
  have sameHeader : ccmp_header (frame_memory precv_frame (fun _ => 0)) hdrlen =
      ccmp_header base hdrlen := by
    apply ccmp_header_congr
    intro i inside
    rw [frame_memory_inside _ _ (by omega)]
    exact (if_pos (by omega)).symm
  -- it is accepted
  rw [sameHeader, bodyLen] at tooLong
  rcases @forged_accepted hdrlen plen base long (by omega) with ⟨left, accepted⟩
  have key : ∀ flag : Bool,
      aes_prwskey env { open_security frame.attrib.key_index with hw_decrypted := flag }
        frame.attrib = some [] :=
    open_aes_prwskey (fun _ block => block) pframe frame.attrib
  have decrypted : ∀ flag : Bool,
      sw_decrypt env { open_security frame.attrib.key_index with hw_decrypted := flag }
        (left_message hdrlen plen base) frame =
      some { res := ._SUCCESS, pframe := plain, message := left } := by
    intro flag
    have cipher : frame.attrib.encrypt = ._AES_ := aes
    have notShort : ¬ frame.len < payload_index frame.attrib := by
      rw [length]
      exact Nat.not_lt.mpr whole
    have frameMemory : frame_memory frame env.behind = pframe := memory
    have frameBody : frame.len - payload_index frame.attrib = plen + 8 := sameBodyLen
    unfold sw_decrypt
    dsimp only
    rw [cipher]
    unfold rtw_aes_decrypt
    dsimp only
    rw [key flag]
    dsimp only
    rw [if_neg notShort, frameMemory, frameBody]
    exact accepted
  -- but it does not carry its MIC
  have checked := gate.checked isProtected bodyLength decrypted
  have isAes : (decrypted_frame frame plain).attrib.encrypt = ._AES_ := aes
  unfold CheckValueMatches at checked
  rw [isAes] at checked
  rcases checked with ⟨prwskey, isKey, matching⟩
  have noKey : prwskey = [] := Option.some.inj (isKey.symm.trans (key false))
  subst noKey
  have leftMemory : frame_memory (decrypted_frame frame plain) pframe = plain := by
    apply memory_decrypted_frame
    intro i behind
    have frameEnd : frame.len = hdrlen + 8 + plen + 8 := by
      rw [length, ← Nat.sub_add_cancel whole]
      show body_len precv_frame + _ = _
      omega
    have header : ccmp_header pframe hdrlen = ccmp_header base hdrlen := ccmp_header_forged
    rw [memory]
    exact Keystream.mask_of_outside _ _ (Or.inr (by rw [header]; omega))
  have leftBody : body_len (decrypted_frame frame plain) - 8 = plen := by
    rw [body_len_decrypted_frame, sameBodyLen, Nat.add_sub_cancel]
  unfold MicMatches at matching
  rw [leftBody] at matching
  replace matching : carried_mic false (fun _ block => block) [] hdrlen
      (frame_memory (decrypted_frame frame plain) pframe) plen =
    computed_mic false (fun _ block => block) [] hdrlen
      (frame_memory (decrypted_frame frame plain) pframe) plen := matching
  rw [leftMemory] at matching
  exact forged_mic_ne long matching

/-- The gate holds for exactly the frames whose check value is compared. -/
theorem decryptor_gate_iff (precv_frame : RecvFrame) (isProtected : Protected precv_frame.attrib) :
    IntegrityGate precv_frame ↔ Verified precv_frame := by
  refine ⟨?_, gate_of_verified isProtected⟩
  intro gate
  rcases Nat.lt_or_ge precv_frame.len (payload_index precv_frame.attrib) with short | whole
  · exact Or.inl short
  · right
    cases cipher : precv_frame.attrib.encrypt with
    | _NO_PRIVACY_ => trivial
    | _WEP40_ => exact not_gate_wep isProtected (Or.inl cipher) whole gate
    | _WEP104_ => exact not_gate_wep isProtected (Or.inr cipher) whole gate
    | _TKIP_ =>
      by_contra unverified
      rcases not_or.mp unverified with ⟨notEnough, noByte⟩
      refine not_gate_tkip isProtected cipher whole (Nat.lt_of_not_le notEnough) ?_ gate
      intro i fromEnd inIv
      by_contra nonzero
      exact noByte ⟨i, fromEnd, inIv, nonzero⟩
    | _AES_ =>
      by_contra unverified
      rcases not_or.mp unverified with ⟨notLess, notFits⟩
      exact not_gate_aes isProtected cipher whole (Nat.le_of_not_lt notLess)
        (Nat.lt_of_not_le notFits) gate

/-- A WEP data frame to a station, with eight zero bytes behind its IV. -/
def wep_frame : RecvFrame where
  index := 0
  attrib :=
    { RxPktAttrib.zero with
      hdrlen := 24
      iv_len := 4
      icv_len := 4
      privacy := true
      encrypt := ._WEP40_ }
  rx_data := ([0x08, 0x42] : List UInt8) ++ List.replicate 22 0 ++ [1, 2, 3, 0] ++ List.replicate 8 0
  tailroom := 0

/-- The settings of a network with a WEP key of 40 bits. -/
def wep_security : RxSecurity :=
  { open_security 0 with dot11DefKey := fun _ => [0x61, 0x62, 0x63, 0x64, 0x65] }

theorem wep_frame_protected : Protected wep_frame.attrib where
  encrypted := nofun
  software := rfl
  hdrlen_ge := Nat.le_refl 24
  iv_len_eq := rfl

theorem decryptor_gate_iff_wep : ¬ IntegrityGate wep_frame ∧ ¬ Verified wep_frame := by
  have unverified : ¬ Verified wep_frame := by
    rintro (short | byCipher)
    · exact absurd short (by decide)
    · exact byCipher
  exact ⟨fun gate => unverified ((decryptor_gate_iff wep_frame wep_frame_protected).mp gate),
    unverified⟩

/-- The frame is returned, although its ICV is not the one of its payload. -/
theorem wep_wrong_icv_returned :
    ∃ outcome : DecryptorOutcome, ∃ returned : RecvFrame,
      decryptor (open_env (fun _ block => block) (fun _ => 0)) wep_security (fun _ => 0)
        wep_frame = some outcome ∧
      outcome.return_packet = some returned ∧
      ¬ CheckValueMatches (open_env (fun _ block => block) (fun _ => 0)) wep_security
        returned := by
  refine ⟨_, _, rfl, rfl, ?_⟩
  rintro ⟨enough, same⟩
  let wepkey : List UInt8 := [1, 2, 3, 0x61, 0x62, 0x63, 0x64, 0x65]
  let frame (body : List UInt8) : List UInt8 :=
    Memory.read (Memory.write (frame_memory wep_frame (fun _ => 0)) 28 body) 0 36
  have plain : (arcfour_encrypt (arcfour_init wepkey) (List.replicate 8 0)).1 =
      [157, 133, 60, 171, 190, 29, 70, 208] := ArcfourPacked.arcfour_encrypt_eq (by decide +kernel)
  have returned : (frame (arcfour_encrypt (arcfour_init wepkey) (List.replicate 8 0)).1).drop 32 =
      icv_bytes (((frame (arcfour_encrypt (arcfour_init wepkey) (List.replicate 8 0)).1).drop 28).take 4) := same
  rw [plain] at returned
  exact absurd returned (by decide +kernel)

end Decrypt

end Rtl8821ce
