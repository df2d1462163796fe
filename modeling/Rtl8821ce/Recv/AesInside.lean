import Rtl8821ce.Recv.AesAccess

/-!
# Where software CCMP stays inside its buffers

Each step of the checked functions succeeds under a bound.  Together the bounds say that
the frame has a whole IV and a whole MIC, is not longer than the static buffer, and has
the header that `aes_decipher` takes it to have.
-/

namespace Rtl8821ce
namespace Decrypt
namespace Access

section

variable {CONFIG_IEEE80211W : Bool} {aes128k128d : List UInt8 -> Block -> Block} {len : Nat}
  {key : List UInt8} {header : CcmpHeader} {pn_vector : Vector UInt8 6}

/-! ## Steps -/

theorem checked_frame_bytes (start count : Nat) :
    Program.Checked (frame_bytes len start count) (start + count ≤ len) id :=
  (Program.checked_require _ _).congr decide_eq_true_iff

theorem checked_message_bytes (start count : Nat) :
    Program.Checked (message_bytes start count) (start + count ≤ MAX_MSG_SIZE) id :=
  (Program.checked_require _ _).congr decide_eq_true_iff

theorem checked_pn_vector_bytes (hdrlen : Nat) : Program.Checked (pn_vector_bytes len hdrlen) (hdrlen + 8 ≤ len) id :=
  ((checked_frame_bytes hdrlen 2).seq (checked_frame_bytes (hdrlen + 4) 4)).congr (by omega)

/-- The bytes of the header that the counter block takes. -/
def CtrInside (len : Nat) (header : CcmpHeader) : Prop :=
  10 + 6 ≤ len ∧
    if header.qc_exists then (if header.a4_exists then 30 else 24) + 1 ≤ len else True

theorem checked_ctr_preload_bytes : Program.Checked (ctr_preload_bytes len header) (CtrInside len header) id := by
  have qos : Program.Checked
      (if header.qc_exists then frame_bytes len (if header.a4_exists then 30 else 24) 1 else pure ⟨⟩)
      (if header.qc_exists then (if header.a4_exists then 30 else 24) + 1 ≤ len else True)
      (if header.qc_exists then id else id) :=
    Program.checked_ite (checked_frame_bytes _ 1) Program.checked_pure
  rw [ite_self] at qos
  exact (checked_frame_bytes 10 6).seq qos

theorem checked_mask_frame (index count c : Nat) :
    Program.Checked (mask_frame CONFIG_IEEE80211W aes128k128d len key header pn_vector index count c)
      (CtrInside len header ∧ index + count ≤ len)
      (fun s => { s with
        pframe := mask_block CONFIG_IEEE80211W aes128k128d key header pn_vector s.pframe index count
          c }) := by
  refine (checked_ctr_preload_bytes.seq ((checked_frame_bytes index count).seq
    (Program.checked_update _))).congr ?_
  rw [and_true]

theorem checked_mask_message (index count c : Nat) :
    Program.Checked (mask_message CONFIG_IEEE80211W aes128k128d key header pn_vector index count c)
      (index + count ≤ MAX_MSG_SIZE)
      (fun s => { s with
        message := mask_block CONFIG_IEEE80211W aes128k128d key header pn_vector s.message index
          count c }) := by
  refine ((checked_message_bytes index count).seq (Program.checked_update _)).congr ?_
  rw [and_true]

theorem checked_copy_message (size : Nat) :
    Program.Checked (copy_message len size) (size ≤ MAX_MSG_SIZE -> size ≤ len)
      (fun s => { s with
        message := if size ≤ MAX_MSG_SIZE then Memory.write s.message 0 (Memory.read s.pframe 0 size)
          else s.message }) := by
  unfold copy_message
  by_cases fits : size ≤ MAX_MSG_SIZE
  · simp only [if_pos fits]
    refine ((checked_frame_bytes 0 size).seq ((checked_message_bytes 0 size).seq
      (Program.checked_update _))).congr ?_
    rw [Nat.zero_add, and_true, imp_iff_right fits]
    exact and_iff_left fits
  · simp only [if_neg fits]
    exact Program.checked_pure.congr (iff_of_true trivial (fun small => absurd small fits))

theorem checked_insert_mic (length : Nat) :
    Program.Checked (insert_mic CONFIG_IEEE80211W aes128k128d key header pn_vector length)
      (header.hdrlen + 8 + length + 8 ≤ MAX_MSG_SIZE)
      (fun s => { s with
        message := Memory.write s.message (header.hdrlen + 8 + length)
          ((calculate_mic CONFIG_IEEE80211W aes128k128d key header pn_vector s.message
            length).toList.take 8) }) := by
  refine ((checked_message_bytes _ _).seq (Program.checked_update _)).congr ?_
  rw [and_true]

theorem blocks_inside_iff (start length room : Nat) (also : Prop) :
    ((∀ i, i < length / 16 -> also ∧ start + 16 * i + 16 ≤ room) ∧
        (if 0 < length % 16 then also ∧ start + 16 * (length / 16) + length % 16 ≤ room else True)) <->
      (0 < length -> also ∧ start + length ≤ room) := by
  have parts : length = 16 * (length / 16) + length % 16 := (Nat.div_add_mod length 16).symm
  generalize length / 16 = blocks at parts
  generalize length % 16 = rest at parts
  constructor
  · rintro ⟨whole, short⟩ positive
    rcases Nat.eq_zero_or_pos rest with none | some
    · have last := whole (blocks - 1) (by omega)
      exact ⟨last.1, by omega⟩
    · rw [if_pos some] at short
      exact ⟨short.1, by omega⟩
  · intro inside
    refine ⟨fun i within => ⟨(inside (by omega)).1, ?_⟩, ?_⟩
    · have bound := (inside (by omega)).2
      omega
    · split
      case isTrue some =>
        have bound := inside (by omega)
        exact ⟨bound.1, by omega⟩
      case isFalse none => trivial

theorem checked_mask_blocks {mask : (index count c : Nat) -> AesM PUnit} {also : Prop} {room : Nat}
    {changes : (index count c : Nat) -> Buffers -> Buffers} (checked : ∀ index count c,
      Program.Checked (mask index count c) (also ∧ index + count ≤ room) (changes index count c))
    (payload_index length : Nat) :
    Program.Checked (mask_blocks mask payload_index length)
      (0 < length -> also ∧ payload_index + length ≤ room)
      (fun s => (if 0 < length % 16 then
          changes (payload_index + 16 * (length / 16)) (length % 16) (length / 16 + 1) else id)
        ((List.range (length / 16)).foldl
          (fun s i => changes (payload_index + 16 * i) 16 (i + 1) s) s)) :=
  ((Program.checked_counted (fun i => checked (payload_index + 16 * i) 16 (i + 1)) _).seq
    (Program.checked_ite (checked _ _ _) Program.checked_pure)).congr (blocks_inside_iff _ _ _ _)

theorem foldl_pframe (pass : (Nat -> UInt8) -> Nat -> Nat -> UInt8) (passes : List Nat) (s : Buffers) :
    passes.foldl (fun s i => { s with pframe := pass s.pframe i }) s =
      { s with pframe := passes.foldl pass s.pframe } := by
  induction passes generalizing s with
  | nil => rfl
  | cons i rest ih => exact ih _

theorem foldl_message (pass : (Nat -> UInt8) -> Nat -> Nat -> UInt8) (passes : List Nat) (s : Buffers) :
    passes.foldl (fun s i => { s with message := pass s.message i }) s =
      { s with message := passes.foldl pass s.message } := by
  induction passes generalizing s with
  | nil => rfl
  | cons i rest ih => exact ih _

theorem checked_mask_frame_blocks (length : Nat) :
    Program.Checked
      (mask_blocks (mask_frame CONFIG_IEEE80211W aes128k128d len key header pn_vector)
        (header.hdrlen + 8) length)
      (0 < length -> CtrInside len header ∧ header.hdrlen + 8 + length ≤ len)
      (fun s => { s with
        pframe := mask_payload CONFIG_IEEE80211W aes128k128d key header pn_vector s.pframe length }) := by
  refine (checked_mask_blocks checked_mask_frame _ _).change_congr (fun s => ?_)
  unfold mask_payload
  dsimp only
  rw [foldl_pframe (fun pframe i => mask_block CONFIG_IEEE80211W aes128k128d key header pn_vector
    pframe (header.hdrlen + 8 + 16 * i) 16 (i + 1))]
  split
  · rfl
  · rfl

theorem checked_mask_message_blocks (length : Nat) :
    Program.Checked
      (mask_blocks (mask_message CONFIG_IEEE80211W aes128k128d key header pn_vector)
        (header.hdrlen + 8) length)
      (0 < length -> header.hdrlen + 8 + length ≤ MAX_MSG_SIZE)
      (fun s => { s with
        message := mask_payload CONFIG_IEEE80211W aes128k128d key header pn_vector s.message
          length }) := by
  have checked := fun index count c => (@checked_mask_message CONFIG_IEEE80211W aes128k128d key
    header pn_vector index count c).congr (Iff.of_eq (true_and _)).symm
  refine ((checked_mask_blocks checked _ _).change_congr (fun s => ?_)).congr (by rw [true_and])
  unfold mask_payload
  dsimp only
  rw [foldl_message (fun message i => mask_block CONFIG_IEEE80211W aes128k128d key header pn_vector
    message (header.hdrlen + 8 + 16 * i) 16 (i + 1))]
  split
  · rfl
  · rfl

/-- The bounds of `aes_decipher`, in the order of its steps. -/
structure Inside (len hdrlen : Nat) (header : CcmpHeader) (plen : UInt32) : Prop where
  frame_control : 2 ≤ len
  pn_vector : hdrlen + 8 ≤ len
  payload : 0 < (plen - 8).toNat ->
    CtrInside len header ∧ header.hdrlen + 8 + (plen - 8).toNat ≤ len
  copied : header.hdrlen + plen.toNat + 8 ≤ MAX_MSG_SIZE -> header.hdrlen + plen.toNat + 8 ≤ len
  mic_pn_vector : header.hdrlen + 8 ≤ len
  mic_inserted : header.hdrlen + 8 + (plen - 8).toNat + 8 ≤ MAX_MSG_SIZE
  mic_compared : header.hdrlen + plen.toNat + 8 ≤ len

theorem Inside.enough {hdrlen : Nat} {plen : UInt32} (inside : Inside len hdrlen header plen)
    (bounded : len < 2 ^ 32) : 8 ≤ plen.toNat := by
  by_contra short
  have wrapped : (plen - 8).toNat = 2 ^ 32 - 8 + plen.toNat := by
    rw [UInt32.toNat_sub]
    have eight : (8 : UInt32).toNat = 8 := rfl
    omega
  have payload := (inside.payload (by omega)).2
  omega

theorem toNat_sub_eight {plen : UInt32} (enough : 8 ≤ plen.toNat) : (plen - 8).toNat = plen.toNat - 8 :=
  UInt32.toNat_sub_of_le _ _ enough

theorem aes_decipher_eq_ok {hdrlen : Nat} {plen : UInt32} {s final : Buffers} {res : RecvStatus}
    (bounded : len < 2 ^ 32) :
    aes_decipher CONFIG_IEEE80211W aes128k128d len key hdrlen plen s = (.ok res, final) <->
      Inside len hdrlen (ccmp_header s.pframe hdrlen) plen ∧
        Rtl8821ce.aes_decipher CONFIG_IEEE80211W aes128k128d key hdrlen s.message s.pframe
          plen.toNat = some { res := res, pframe := final.pframe, message := final.message } := by
  unfold aes_decipher
  rw [(checked_frame_bytes 0 2).bind_eq_ok, Program.get_bind_eq_ok]
  dsimp only [id]
  rw [(checked_pn_vector_bytes hdrlen).bind_eq_ok, (checked_mask_frame_blocks _).bind_eq_ok,
    (checked_copy_message _).bind_eq_ok, (checked_pn_vector_bytes _).bind_eq_ok,
    Program.get_bind_eq_ok, (checked_insert_mic _).bind_eq_ok,
    (checked_mask_message_blocks _).bind_eq_ok, (checked_mask_message _ _ _).bind_eq_ok,
    (checked_frame_bytes _ _).bind_eq_ok, Program.get_bind_eq_ok, Program.pure_apply]
  dsimp only [id]
  rw [Prod.mk.injEq, Except.ok.injEq]
  constructor
  · rintro ⟨control, iv, payload, copied, micIv, inserted, _, _, compared, answer, left⟩
    have inside : Inside len hdrlen (ccmp_header s.pframe hdrlen) plen :=
      ⟨control, iv, payload, copied, micIv, inserted, compared⟩
    have enough := inside.enough bounded
    refine ⟨inside, ?_⟩
    rw [← answer, ← left, toNat_sub_eight enough]
    unfold Rtl8821ce.aes_decipher
    rw [if_neg (Nat.not_lt.mpr enough)]
    rfl
  · rintro ⟨inside, ran⟩
    have enough := inside.enough bounded
    unfold Rtl8821ce.aes_decipher at ran
    rw [if_neg (Nat.not_lt.mpr enough), Option.some.injEq, Deciphered.mk.injEq, ← toNat_sub_eight enough] at ran
    refine ⟨inside.frame_control, inside.pn_vector, inside.payload, inside.copied,
      inside.mic_pn_vector, inside.mic_inserted, fun _ => ?_, inside.mic_inserted,
      inside.mic_compared, ran.1, ?_⟩
    · have inserted := inside.mic_inserted
      omega
    · exact congrArg₂ Buffers.mk ran.2.1 ran.2.2

theorem aes_decipher_succeeds_iff {hdrlen : Nat} {plen : UInt32} {s : Buffers} (bounded : len < 2 ^ 32) :
    (aes_decipher CONFIG_IEEE80211W aes128k128d len key hdrlen plen).Succeeds s <->
      Inside len hdrlen (ccmp_header s.pframe hdrlen) plen := by
  rw [Program.succeeds_iff]
  constructor
  · rintro ⟨res, final, ran⟩
    exact ((aes_decipher_eq_ok bounded).mp ran).1
  · intro inside
    have ends : ∃ deciphered : Deciphered,
        Rtl8821ce.aes_decipher CONFIG_IEEE80211W aes128k128d key hdrlen s.message s.pframe
          plen.toNat = some deciphered := by
      unfold Rtl8821ce.aes_decipher
      rw [if_neg (Nat.not_lt.mpr (inside.enough bounded))]
      exact ⟨_, rfl⟩
    rcases ends with ⟨⟨res, pframe, message⟩, ran⟩
    exact ⟨res, ⟨pframe, message⟩, (aes_decipher_eq_ok bounded).mpr ⟨inside, ran⟩⟩

end

/-- `aes_decipher` takes the header of a QoS data frame for two bytes longer than it is, unless
it has 26 or 32 bytes. -/
def QosExtended (precv_frame : RecvFrame) : Prop :=
  (precv_frame.rx_data.getD 0 0).toNat &&& 0xcc = 0x88 ∧
    precv_frame.attrib.hdrlen ≠ 26 ∧ precv_frame.attrib.hdrlen ≠ 32

instance (precv_frame : RecvFrame) : Decidable (QosExtended precv_frame) :=
  inferInstanceAs (Decidable (_ ∧ _))

theorem qos_type_iff : ∀ octet, octet < 256 ->
    (((octet &&& 0x0c) ||| (octet &&& 0xfc) / 16 = 0x18 ∨
        (octet &&& 0x0c) ||| (octet &&& 0xfc) / 16 = 0x28 ∨
        (octet &&& 0x0c) ||| (octet &&& 0xfc) / 16 = 0x38) ∨
      (octet &&& 0x0c = WIFI_DATA_TYPE ∧
        ((octet &&& 0xfc) / 16 = 0x08 ∨ (octet &&& 0xfc) / 16 = 0x09 ∨ (octet &&& 0xfc) / 16 = 0x0a ∨
          (octet &&& 0xfc) / 16 = 0x0b)) <-> octet &&& 0xcc = 0x88) := by
  decide +kernel

theorem ccmp_header_hdrlen_eq_iff (pframe : Nat -> UInt8) (hdrlen : Nat) :
    (ccmp_header pframe hdrlen).hdrlen = hdrlen <->
      ¬ ((pframe 0).toNat &&& 0xcc = 0x88 ∧ hdrlen ≠ 26 ∧ hdrlen ≠ 32) := by
  have frtype : GetFrameType (Memory.read pframe 0 2) = (pframe 0).toNat &&& 0x0c :=
    le16_to_cpu_and _ (by decide)
  have frsubtype : get_frame_sub_type (Memory.read pframe 0 2) = (pframe 0).toNat &&& 0xfc :=
    le16_to_cpu_and _ (by decide)
  have grown : (if hdrlen ≠ 26 ∧ hdrlen ≠ 32 then hdrlen + 2 else hdrlen) = hdrlen <->
      ¬ (hdrlen ≠ 26 ∧ hdrlen ≠ 32) := by
    split
    case isTrue grows => exact iff_of_false (by omega) (fun kept => kept grows)
    case isFalse kept => exact iff_of_true rfl kept
  rw [← qos_type_iff (pframe 0).toNat (pframe 0).toNat_lt]
  unfold ccmp_header
  dsimp only
  rw [frtype, frsubtype]
  split
  case isTrue isQos => rw [and_iff_right (Or.inl isQos), grown]
  case isFalse notFirst =>
    split
    case isTrue isQos => rw [and_iff_right (Or.inr isQos), grown]
    case isFalse notSecond =>
      exact iff_of_true rfl (fun qos => qos.1.elim notFirst notSecond)

theorem inside_iff {len hdrlen : Nat} {header : CcmpHeader} (long : 24 ≤ hdrlen)
    (grown : hdrlen ≤ header.hdrlen) (starts : hdrlen + 8 ≤ len) (bounded : len < 2 ^ 32) :
    Inside len hdrlen header (UInt32.ofNat (len - (hdrlen + 8))) <->
      hdrlen + 16 ≤ len ∧ len ≤ MAX_MSG_SIZE ∧ header.hdrlen = hdrlen := by
  have plen : (UInt32.ofNat (len - (hdrlen + 8))).toNat = len - (hdrlen + 8) := by
    rw [UInt32.toNat_ofNat', Nat.mod_eq_of_lt (by omega)]
  constructor
  · intro inside
    have enough := inside.enough bounded
    have inserted := inside.mic_inserted
    have compared := inside.mic_compared
    rw [toNat_sub_eight enough] at inserted
    omega
  · rintro ⟨whole, fits, same⟩
    have enough : 8 ≤ (UInt32.ofNat (len - (hdrlen + 8))).toNat := by omega
    have length := toNat_sub_eight enough
    have ctr : CtrInside len header := by
      unfold CtrInside
      refine ⟨by omega, ?_⟩
      split
      · split <;> omega
      · trivial
    exact
      { frame_control := by omega
        pn_vector := by omega
        payload := fun _ => ⟨ctr, by omega⟩
        copied := by omega
        mic_pn_vector := by omega
        mic_inserted := by omega
        mic_compared := by omega }

theorem rtw_aes_decrypt_succeeds_iff {env : DecryptEnv} {psecuritypriv : RxSecurity}
    {precv_frame : RecvFrame} {prwskey : List UInt8} (message : Nat -> UInt8)
    (isProtected : Protected precv_frame.attrib) (cipher : precv_frame.attrib.encrypt = ._AES_)
    (bounded : precv_frame.len < 2 ^ 32) (found : aes_prwskey env psecuritypriv precv_frame.attrib = some prwskey) :
    (rtw_aes_decrypt env psecuritypriv precv_frame.attrib precv_frame.len).Succeeds
        ⟨frame_memory precv_frame env.behind, message⟩ <->
      precv_frame.attrib.hdrlen + 16 ≤ precv_frame.len ∧ precv_frame.len ≤ MAX_MSG_SIZE ∧
        ¬ QosExtended precv_frame := by
  have starts : payload_index precv_frame.attrib = precv_frame.attrib.hdrlen + 8 := by
    unfold payload_index
    rw [isProtected.iv_len_eq, cipher]
    rfl
  have long := isProtected.hdrlen_ge
  unfold rtw_aes_decrypt
  rw [found]
  dsimp only
  rw [Program.succeeds_require_bind, decide_eq_true_iff, aes_decipher_succeeds_iff bounded, starts]
  dsimp only
  by_cases whole : precv_frame.attrib.hdrlen + 8 ≤ precv_frame.len
  · have octet : frame_memory precv_frame env.behind 0 = precv_frame.rx_data.getD 0 0 :=
      frame_memory_inside precv_frame env.behind (by omega)
    rw [inside_iff long (ccmp_header_hdrlen_ge _ _) whole bounded, ccmp_header_hdrlen_eq_iff, octet,
      and_iff_right whole]
    rfl
  · exact iff_of_false (fun both => whole both.1) (by omega)

/-- The length of the payload does not wrap, the frame is used only inside its bytes, and the
static buffer is written only inside its own. -/
theorem aes_decrypt_inside_iff {env : DecryptEnv} {psecuritypriv : RxSecurity}
    {precv_frame : RecvFrame} (message : Nat -> UInt8) (isProtected : Protected precv_frame.attrib)
    (cipher : precv_frame.attrib.encrypt = ._AES_) (bounded : precv_frame.len < 2 ^ 32) :
    (rtw_aes_decrypt env psecuritypriv precv_frame.attrib precv_frame.len).Succeeds
        ⟨frame_memory precv_frame env.behind, message⟩ <->
      aes_prwskey env psecuritypriv precv_frame.attrib = none ∨
        (precv_frame.attrib.hdrlen + 16 ≤ precv_frame.len ∧ precv_frame.len ≤ MAX_MSG_SIZE ∧
          ¬ QosExtended precv_frame) := by
  cases found : aes_prwskey env psecuritypriv precv_frame.attrib with
  | none =>
    refine iff_of_true ?_ (Or.inl rfl)
    unfold rtw_aes_decrypt
    rw [found]
    exact Program.succeeds_pure _ _
  | some prwskey =>
    rw [rtw_aes_decrypt_succeeds_iff message isProtected cipher bounded found]
    exact ⟨Or.inr, fun either => either.resolve_left (fun impossible => nomatch impossible)⟩

/-- A QoS data frame of `len` bytes under CCMP. -/
def ccmp_frame_of_len (len : Nat) : RecvFrame where
  index := 0
  attrib :=
    { RxPktAttrib.zero with
      hdrlen := 26
      iv_len := 8
      icv_len := 8
      qos := true
      privacy := true
      encrypt := ._AES_ }
  rx_data := (0x88 : UInt8) :: List.replicate (len - 1) 0
  tailroom := 0

theorem ccmp_frame_of_len_protected (len : Nat) : Protected (ccmp_frame_of_len len).attrib where
  encrypted := nofun
  software := rfl
  hdrlen_ge := Nat.le_add_right 24 2
  iv_len_eq := rfl

theorem len_ccmp_frame_of_len {len : Nat} (positive : 0 < len) : (ccmp_frame_of_len len).len = len := by
  show (List.replicate (len - 1) (0 : UInt8)).length + 1 = len
  rw [List.length_replicate]
  omega

/-- The longest frame that stays inside. -/
theorem aes_decrypt_inside_longest :
    (rtw_aes_decrypt test_rx_env test_rx_security (ccmp_frame_of_len 2048).attrib
      (ccmp_frame_of_len 2048).len).Succeeds
        ⟨frame_memory (ccmp_frame_of_len 2048) test_rx_env.behind, fun _ => 0⟩ := by
  have len : (ccmp_frame_of_len 2048).len = 2048 := len_ccmp_frame_of_len (by decide)
  refine (aes_decrypt_inside_iff (fun _ => 0) (ccmp_frame_of_len_protected 2048) rfl
    (by rw [len]; decide)).mpr (Or.inr ⟨by rw [len]; decide, by rw [len]; decide, ?_⟩)
  rintro ⟨_, other, _⟩
  exact other rfl

/-- One byte more, and the MIC is written behind the end of `message`. -/
theorem aes_decrypt_outside_longer :
    Protected (ccmp_frame_of_len 2049).attrib ∧ (ccmp_frame_of_len 2049).len = 2049 ∧
      ¬ (rtw_aes_decrypt test_rx_env test_rx_security (ccmp_frame_of_len 2049).attrib
        (ccmp_frame_of_len 2049).len).Succeeds
          ⟨frame_memory (ccmp_frame_of_len 2049) test_rx_env.behind, fun _ => 0⟩ := by
  have len : (ccmp_frame_of_len 2049).len = 2049 := len_ccmp_frame_of_len (by decide)
  refine ⟨ccmp_frame_of_len_protected 2049, len, fun success => ?_⟩
  have condition := (rtw_aes_decrypt_succeeds_iff (fun _ => 0) (ccmp_frame_of_len_protected 2049) rfl
    (by rw [len]; decide) rfl).mp success
  rw [len] at condition
  exact absurd condition.2.1 (by decide)

end Access
end Decrypt
end Rtl8821ce
