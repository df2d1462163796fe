import Rtl8821ce.Recv.Header
import Rtl8821ce.Library.Keystream
import Mathlib.Tactic.IntervalCases

/-!
# Software CCMP

`aes_cipher` puts the CBC-MAC of header and payload behind the payload and masks
both in counter mode.  `aes_decipher` removes the mask from the payload, seals a
copy of the frame again, and compares the eight MIC bytes.

A frame is memory that starts at its header.  The block cipher is an arbitrary
function, and the driver can be built with or without `CONFIG_IEEE80211W`.
-/

namespace Rtl8821ce

variable {first second : Nat -> UInt8}

abbrev Block := Vector UInt8 16

def MAX_MSG_SIZE : Nat := 2048

section Ccmp

variable (CONFIG_IEEE80211W : Bool) (aes128k128d : List UInt8 -> Block -> Block)

/-- The low nibble of the QoS control, with the management bit. -/
def qos_octet (qc_exists a4_exists : Bool) (mpdu : Nat -> UInt8) (frtype : Nat) : UInt8 :=
  let qos_tc := if qc_exists then (if a4_exists then mpdu 30 else mpdu 24) &&& 0x0f else 0x00
  if CONFIG_IEEE80211W && frtype == WIFI_MGT_TYPE then qos_tc ||| 0x10 else qos_tc

def construct_mic_iv (qc_exists a4_exists : Bool) (mpdu : Nat -> UInt8) (payload_length : Nat)
    (pn_vector : Vector UInt8 6) (frtype : Nat) : Block :=
  #v[0x59, qos_octet CONFIG_IEEE80211W qc_exists a4_exists mpdu frtype,
    mpdu 10, mpdu 11, mpdu 12, mpdu 13, mpdu 14, mpdu 15,
    pn_vector[5], pn_vector[4], pn_vector[3], pn_vector[2], pn_vector[1], pn_vector[0],
    UInt8.ofNat (payload_length / 256), UInt8.ofNat (payload_length % 256)]

def construct_mic_header1 (header_length : Nat) (mpdu : Nat -> UInt8) (frtype : Nat) : Block :=
  #v[UInt8.ofNat ((header_length - 2) / 256), UInt8.ofNat ((header_length - 2) % 256),
    if CONFIG_IEEE80211W && frtype == WIFI_MGT_TYPE then mpdu 0 else mpdu 0 &&& 0xcf,
    mpdu 1 &&& 0xc7,
    mpdu 4, mpdu 5, mpdu 6, mpdu 7, mpdu 8, mpdu 9,
    mpdu 10, mpdu 11, mpdu 12, mpdu 13, mpdu 14, mpdu 15]

def construct_mic_header2 (mpdu : Nat -> UInt8) (a4_exists qc_exists : Bool) : Block :=
  if a4_exists then
    #v[mpdu 16, mpdu 17, mpdu 18, mpdu 19, mpdu 20, mpdu 21, 0x00, 0x00,
      mpdu 24, mpdu 25, mpdu 26, mpdu 27, mpdu 28, mpdu 29,
      if qc_exists then mpdu 30 &&& 0x0f else 0x00, if qc_exists then mpdu 31 &&& 0x00 else 0x00]
  else
    #v[mpdu 16, mpdu 17, mpdu 18, mpdu 19, mpdu 20, mpdu 21, 0x00, 0x00,
      if qc_exists then mpdu 24 &&& 0x0f else 0x00, if qc_exists then mpdu 25 &&& 0x00 else 0x00,
      0x00, 0x00, 0x00, 0x00, 0x00, 0x00]

def construct_ctr_preload (a4_exists qc_exists : Bool) (mpdu : Nat -> UInt8)
    (pn_vector : Vector UInt8 6) (c frtype : Nat) : Block :=
  #v[0x01, qos_octet CONFIG_IEEE80211W qc_exists a4_exists mpdu frtype,
    mpdu 10, mpdu 11, mpdu 12, mpdu 13, mpdu 14, mpdu 15,
    pn_vector[5], pn_vector[4], pn_vector[3], pn_vector[2], pn_vector[1], pn_vector[0],
    UInt8.ofNat (c / 256), UInt8.ofNat (c % 256)]

def bitwise_xor (ina inb : Block) : Block := Vector.zipWith (fun a b => a ^^^ b) ina inb

/-- `count` bytes of a frame, padded with zeros. -/
def padded_buffer (pframe : Nat -> UInt8) (index count : Nat) : Block :=
  Vector.ofFn (fun j => if j.val < count then pframe (index + j) else 0x00)

/-- What both functions take from the header before they start. -/
structure CcmpHeader where
  frtype : Nat
  qc_exists : Bool
  a4_exists : Bool
  hdrlen : Nat

/-- The header of a frame: whether it has a QoS control and a fourth address.  The
first comparison never holds, since the subtype has been shifted down. -/
def ccmp_header (pframe : Nat -> UInt8) (hdrlen : Nat) : CcmpHeader :=
  let pbuf := Memory.read pframe 0 2
  let frtype := GetFrameType pbuf
  let frsubtype := get_frame_sub_type pbuf / 16
  let a4_exists := !(hdrlen == 24 || hdrlen == 26)
  let qos_hdrlen := if hdrlen ≠ 26 ∧ hdrlen ≠ 32 then hdrlen + 2 else hdrlen
  if frtype ||| frsubtype = 0x18 ∨ frtype ||| frsubtype = 0x28 ∨ frtype ||| frsubtype = 0x38 then
    ⟨frtype, true, a4_exists, qos_hdrlen⟩
  else if frtype = WIFI_DATA_TYPE ∧ (frsubtype = 0x08 ∨ frsubtype = 0x09 ∨ frsubtype = 0x0a ∨
      frsubtype = 0x0b) then
    ⟨frtype, true, a4_exists, qos_hdrlen⟩
  else ⟨frtype, false, a4_exists, hdrlen⟩

def pn_vector_at (pframe : Nat -> UInt8) (hdrlen : Nat) : Vector UInt8 6 :=
  #v[pframe hdrlen, pframe (hdrlen + 1), pframe (hdrlen + 4), pframe (hdrlen + 5),
    pframe (hdrlen + 6), pframe (hdrlen + 7)]

/-- The CBC-MAC over the IV, the two header blocks and the payload. -/
def calculate_mic (key : List UInt8) (header : CcmpHeader) (pn_vector : Vector UInt8 6)
    (pframe : Nat -> UInt8) (plen : Nat) : Block :=
  let mic_iv := construct_mic_iv CONFIG_IEEE80211W header.qc_exists header.a4_exists pframe plen
    pn_vector header.frtype
  let mic_header1 := construct_mic_header1 CONFIG_IEEE80211W header.hdrlen pframe header.frtype
  let mic_header2 := construct_mic_header2 pframe header.a4_exists header.qc_exists
  let payload_index := header.hdrlen + 8
  let aes_out := aes128k128d key mic_iv
  let aes_out := aes128k128d key (bitwise_xor aes_out mic_header1)
  let aes_out := aes128k128d key (bitwise_xor aes_out mic_header2)
  let aes_out := (List.range (plen / 16)).foldl (fun aes_out i =>
    aes128k128d key (bitwise_xor aes_out (padded_buffer pframe (payload_index + 16 * i) 16))) aes_out
  if 0 < plen % 16 then
    aes128k128d key (bitwise_xor aes_out
      (padded_buffer pframe (payload_index + 16 * (plen / 16)) (plen % 16)))
  else aes_out

/-- Mask `count` bytes at `index` with the key stream block of counter `c`. -/
def mask_block (key : List UInt8) (header : CcmpHeader) (pn_vector : Vector UInt8 6)
    (pframe : Nat -> UInt8) (index count c : Nat) : Nat -> UInt8 :=
  let ctr_preload := construct_ctr_preload CONFIG_IEEE80211W header.a4_exists header.qc_exists
    pframe pn_vector c header.frtype
  let chain_buffer := bitwise_xor (aes128k128d key ctr_preload) (padded_buffer pframe index count)
  Memory.write pframe index (chain_buffer.toList.take count)

def mask_payload (key : List UInt8) (header : CcmpHeader) (pn_vector : Vector UInt8 6)
    (pframe : Nat -> UInt8) (plen : Nat) : Nat -> UInt8 :=
  let payload_index := header.hdrlen + 8
  let pframe := (List.range (plen / 16)).foldl (fun pframe i =>
    mask_block CONFIG_IEEE80211W aes128k128d key header pn_vector pframe (payload_index + 16 * i) 16
      (i + 1)) pframe
  if 0 < plen % 16 then
    mask_block CONFIG_IEEE80211W aes128k128d key header pn_vector pframe
      (payload_index + 16 * (plen / 16)) (plen % 16) (plen / 16 + 1)
  else pframe

/-- Insert the MIC behind the payload, mask the payload, and mask the MIC. -/
def ccm_seal (key : List UInt8) (header : CcmpHeader) (pn_vector : Vector UInt8 6)
    (pframe : Nat -> UInt8) (plen : Nat) : Nat -> UInt8 :=
  let mic := calculate_mic CONFIG_IEEE80211W aes128k128d key header pn_vector pframe plen
  let pframe := Memory.write pframe (header.hdrlen + 8 + plen) (mic.toList.take 8)
  let pframe := mask_payload CONFIG_IEEE80211W aes128k128d key header pn_vector pframe plen
  mask_block CONFIG_IEEE80211W aes128k128d key header pn_vector pframe (header.hdrlen + 8 + plen) 8 0

def aes_cipher (key : List UInt8) (hdrlen : Nat) (pframe : Nat -> UInt8) (plen : Nat) : Nat -> UInt8 :=
  let header := ccmp_header pframe hdrlen
  ccm_seal CONFIG_IEEE80211W aes128k128d key header (pn_vector_at pframe header.hdrlen) pframe plen

/-- What `aes_decipher` leaves behind: its answer, the frame, and the static buffer. -/
structure Deciphered where
  res : RecvStatus
  pframe : Nat -> UInt8
  message : Nat -> UInt8

/-- `plen` counts the MIC.  With less than a MIC, `plen - 8` wraps, and the loop
runs far behind the frame: there is no result then.  A frame that is too long for
`message` leaves the old bytes there. -/
def aes_decipher (key : List UInt8) (hdrlen : Nat) (message pframe : Nat -> UInt8) (plen : Nat) : Option Deciphered :=
  if plen < 8 then none
  else
    let header := ccmp_header pframe hdrlen
    let pframe := mask_payload CONFIG_IEEE80211W aes128k128d key header (pn_vector_at pframe hdrlen)
      pframe (plen - 8)
    let message :=
      if header.hdrlen + plen + 8 ≤ MAX_MSG_SIZE then
        Memory.write message 0 (Memory.read pframe 0 (header.hdrlen + plen + 8))
      else message
    let message := ccm_seal CONFIG_IEEE80211W aes128k128d key header
      (pn_vector_at pframe header.hdrlen) message (plen - 8)
    let mic_index := header.hdrlen + 8 + plen - 8
    some
      { res := if Memory.read pframe mic_index 8 = Memory.read message mic_index 8 then ._SUCCESS
          else ._FAIL
        pframe := pframe
        message := message }

/-! ## Masking with the key stream -/

def key_block (key : List UInt8) (header : CcmpHeader) (pn_vector : Vector UInt8 6)
    (pframe : Nat -> UInt8) (c : Nat) : Block :=
  aes128k128d key (construct_ctr_preload CONFIG_IEEE80211W header.a4_exists header.qc_exists
    pframe pn_vector c header.frtype)

/-- The key stream of the payload, whose blocks are counted from one. -/
def key_stream (key : List UInt8) (header : CcmpHeader) (pn_vector : Vector UInt8 6)
    (pframe : Nat -> UInt8) (i : Nat) : UInt8 :=
  (key_block CONFIG_IEEE80211W aes128k128d key header pn_vector pframe (i / 16 + 1)).toList.getD
    (i % 16) 0

def mic_field (key : List UInt8) (header : CcmpHeader) (pn_vector : Vector UInt8 6)
    (pframe : Nat -> UInt8) (plen : Nat) : List UInt8 :=
  List.zipWith (fun a b => a ^^^ b)
    ((key_block CONFIG_IEEE80211W aes128k128d key header pn_vector pframe 0).toList.take 8)
    ((calculate_mic CONFIG_IEEE80211W aes128k128d key header pn_vector pframe plen).toList.take 8)

theorem xor_involutive (key cell : UInt8) : key ^^^ (key ^^^ cell) = cell := by
  rw [← UInt8.xor_assoc, UInt8.xor_self, UInt8.zero_xor]

theorem length_toList_take (block : Block) {count : Nat} (within : count ≤ 16) :
    (block.toList.take count).length = count := by
  rw [List.length_take, Vector.length_toList, Nat.min_eq_left within]

theorem getD_toList (block : Block) {i : Nat} (bound : i < 16) : block.toList.getD i 0 = block[i] := by
  rw [List.getD_eq_getElem?_getD, List.getElem?_eq_getElem (by rw [Vector.length_toList]; exact bound),
    Option.getD_some, Vector.getElem_toList]

theorem getElem_bitwise_xor (ina inb : Block) {i : Nat} (bound : i < 16) :
    (bitwise_xor ina inb)[i] = ina[i] ^^^ inb[i] :=
  Vector.getElem_zipWith bound

theorem getElem_padded_buffer (pframe : Nat -> UInt8) (index count : Nat) {j : Nat} (bound : j < 16) :
    (padded_buffer pframe index count)[j] = if j < count then pframe (index + j) else 0x00 :=
  Vector.getElem_ofFn bound

variable {CONFIG_IEEE80211W aes128k128d} {key : List UInt8} {header : CcmpHeader}
  {pn_vector : Vector UInt8 6}

theorem key_block_congr (sameHeader : ∀ i, i < 32 -> first i = second i) (c : Nat) :
    key_block CONFIG_IEEE80211W aes128k128d key header pn_vector first c =
      key_block CONFIG_IEEE80211W aes128k128d key header pn_vector second c := by
  unfold key_block construct_ctr_preload qos_octet
  simp (disch := decide) only [sameHeader]

theorem key_stream_congr (sameHeader : ∀ i, i < 32 -> first i = second i) :
    key_stream CONFIG_IEEE80211W aes128k128d key header pn_vector first =
      key_stream CONFIG_IEEE80211W aes128k128d key header pn_vector second := by
  funext i
  unfold key_stream
  rw [key_block_congr sameHeader]

theorem mask_block_eq (pframe : Nat -> UInt8) (index c : Nat) {count : Nat} (within : count ≤ 16) :
    mask_block CONFIG_IEEE80211W aes128k128d key header pn_vector pframe index count c =
      Keystream.mask (fun a b => a ^^^ b)
        (fun j => (key_block CONFIG_IEEE80211W aes128k128d key header pn_vector pframe c).toList.getD
          j 0) pframe index count := by
  unfold mask_block
  dsimp only
  have length := length_toList_take (bitwise_xor
    (key_block CONFIG_IEEE80211W aes128k128d key header pn_vector pframe c)
    (padded_buffer pframe index count)) within
  apply Keystream.write_eq_mask _ pframe index length
  intro i inside
  have ofBlock : i < count := by
    rw [← length]
    exact inside
  rw [List.getElem_take, Vector.getElem_toList, getElem_bitwise_xor, getElem_padded_buffer,
    if_pos ofBlock, getD_toList _ (Nat.lt_of_lt_of_le ofBlock within)]

/-- A pass over block `block` masks it with its part of the key stream, as long as
the header is the one of the frame. -/
theorem mask_block_key_stream {pframe current : Nat -> UInt8}
    (sameHeader : ∀ i, i < 32 -> current i = pframe i) (index block : Nat) {count : Nat} (within : count ≤ 16) :
    mask_block CONFIG_IEEE80211W aes128k128d key header pn_vector current index count (block + 1) =
      Keystream.mask (fun a b => a ^^^ b)
        (fun j => key_stream CONFIG_IEEE80211W aes128k128d key header pn_vector pframe
          (16 * block + j)) current index count := by
  rw [mask_block_eq current index (block + 1) within]
  apply Keystream.mask_congr
  intro j inside
  have quotient : (16 * block + j) / 16 = block := by omega
  have remainder : (16 * block + j) % 16 = j := by omega
  rw [key_stream, quotient, remainder, key_block_congr sameHeader]

theorem mask_payload_eq (long : 24 ≤ header.hdrlen) (pframe : Nat -> UInt8) (plen : Nat) :
    mask_payload CONFIG_IEEE80211W aes128k128d key header pn_vector pframe plen =
      Keystream.mask (fun a b => a ^^^ b)
        (key_stream CONFIG_IEEE80211W aes128k128d key header pn_vector pframe) pframe
        (header.hdrlen + 8) plen := by
  have blocks := @Keystream.foldl_blocks _ (fun a b => a ^^^ b) 16 (header.hdrlen + 8)
    (key_stream CONFIG_IEEE80211W aes128k128d key header pn_vector pframe) pframe
    (fun pframe i => mask_block CONFIG_IEEE80211W aes128k128d key header pn_vector pframe
      (header.hdrlen + 8 + 16 * i) 16 (i + 1))
    (fun current block same =>
      mask_block_key_stream (fun i inside => same i (by omega)) _ block (Nat.le_refl 16))
    (plen / 16)
  unfold mask_payload
  dsimp only
  rw [blocks]
  split
  case isTrue short =>
    rw [mask_block_key_stream
      (fun i inside => Keystream.mask_of_outside _ pframe (Or.inl (by omega))) _ _ (by omega),
      Keystream.mask_add, Nat.div_add_mod]
  case isFalse even =>
    have whole : 16 * (plen / 16) = plen := by omega
    rw [whole]

theorem padded_buffer_congr {index count : Nat} (same : ∀ j, j < count -> first (index + j) = second (index + j)) :
    padded_buffer first index count = padded_buffer second index count := by
  unfold padded_buffer
  congr 1
  funext j
  split
  case isTrue inside => exact same j.val inside
  case isFalse outside => rfl

theorem calculate_mic_congr {plen : Nat} (long : 24 ≤ header.hdrlen)
    (same : ∀ i, i < header.hdrlen + 8 + plen -> first i = second i) :
    calculate_mic CONFIG_IEEE80211W aes128k128d key header pn_vector first plen =
      calculate_mic CONFIG_IEEE80211W aes128k128d key header pn_vector second plen := by
  have sameHeader : ∀ i, i < 32 -> first i = second i := fun i inside => same i (by omega)
  have mic_iv : construct_mic_iv CONFIG_IEEE80211W header.qc_exists header.a4_exists first plen
      pn_vector header.frtype =
    construct_mic_iv CONFIG_IEEE80211W header.qc_exists header.a4_exists second plen
      pn_vector header.frtype := by
    unfold construct_mic_iv qos_octet
    simp (disch := decide) only [sameHeader]
  have mic_header1 : construct_mic_header1 CONFIG_IEEE80211W header.hdrlen first header.frtype =
      construct_mic_header1 CONFIG_IEEE80211W header.hdrlen second header.frtype := by
    unfold construct_mic_header1
    simp (disch := decide) only [sameHeader]
  have mic_header2 : construct_mic_header2 first header.a4_exists header.qc_exists =
      construct_mic_header2 second header.a4_exists header.qc_exists := by
    unfold construct_mic_header2
    simp (disch := decide) only [sameHeader]
  have blocks : ∀ i ∈ List.range (plen / 16),
      padded_buffer first (header.hdrlen + 8 + 16 * i) 16 =
        padded_buffer second (header.hdrlen + 8 + 16 * i) 16 := by
    intro i member
    have inside : i < plen / 16 := List.mem_range.mp member
    exact padded_buffer_congr (fun j bound => same _ (by omega))
  have rest : padded_buffer first (header.hdrlen + 8 + 16 * (plen / 16)) (plen % 16) =
      padded_buffer second (header.hdrlen + 8 + 16 * (plen / 16)) (plen % 16) :=
    padded_buffer_congr (fun j bound => same _ (by omega))
  unfold calculate_mic
  dsimp only
  rw [mic_iv, mic_header1, mic_header2, rest]
  have chained := List.foldl_ext
    (fun aes_out i => aes128k128d key
      (bitwise_xor aes_out (padded_buffer first (header.hdrlen + 8 + 16 * i) 16)))
    (fun aes_out i => aes128k128d key
      (bitwise_xor aes_out (padded_buffer second (header.hdrlen + 8 + 16 * i) 16)))
  rw [chained _ (fun aes_out i member => by rw [blocks i member])]

theorem mic_field_congr {plen : Nat} (long : 24 ≤ header.hdrlen)
    (same : ∀ i, i < header.hdrlen + 8 + plen -> first i = second i) :
    mic_field CONFIG_IEEE80211W aes128k128d key header pn_vector first plen =
      mic_field CONFIG_IEEE80211W aes128k128d key header pn_vector second plen := by
  unfold mic_field
  rw [key_block_congr (fun i inside => same i (by omega)), calculate_mic_congr long same]

theorem length_mic_field (pframe : Nat -> UInt8) (plen : Nat) :
    (mic_field CONFIG_IEEE80211W aes128k128d key header pn_vector pframe plen).length = 8 := by
  rw [mic_field, List.length_zipWith, length_toList_take _ (by decide),
    length_toList_take _ (by decide), Nat.min_self]

theorem ccm_seal_eq (long : 24 ≤ header.hdrlen) (pframe : Nat -> UInt8) (plen : Nat) :
    ccm_seal CONFIG_IEEE80211W aes128k128d key header pn_vector pframe plen =
      Memory.write
        (Keystream.mask (fun a b => a ^^^ b)
          (key_stream CONFIG_IEEE80211W aes128k128d key header pn_vector pframe) pframe
          (header.hdrlen + 8) plen)
        (header.hdrlen + 8 + plen)
        (mic_field CONFIG_IEEE80211W aes128k128d key header pn_vector pframe plen) := by
  let mic := calculate_mic CONFIG_IEEE80211W aes128k128d key header pn_vector pframe plen
  have micLength : (mic.toList.take 8).length = 8 := length_toList_take mic (by decide)
  have inserted : ∀ i, i < 32 ->
      Memory.write pframe (header.hdrlen + 8 + plen) (mic.toList.take 8) i = pframe i :=
    fun i inside => Memory.write_of_outside pframe (Or.inl (by omega))
  have masked : mask_payload CONFIG_IEEE80211W aes128k128d key header pn_vector
      (Memory.write pframe (header.hdrlen + 8 + plen) (mic.toList.take 8)) plen =
      Memory.write
        (Keystream.mask (fun a b => a ^^^ b)
          (key_stream CONFIG_IEEE80211W aes128k128d key header pn_vector pframe) pframe
          (header.hdrlen + 8) plen)
        (header.hdrlen + 8 + plen) (mic.toList.take 8) := by
    rw [mask_payload_eq long, key_stream_congr inserted,
      Keystream.mask_write_of_disjoint _ _ (Or.inr (Nat.le_refl _))]
  have sameHeader : ∀ i, i < 32 ->
      Memory.write
        (Keystream.mask (fun a b => a ^^^ b)
          (key_stream CONFIG_IEEE80211W aes128k128d key header pn_vector pframe) pframe
          (header.hdrlen + 8) plen)
        (header.hdrlen + 8 + plen) (mic.toList.take 8) i = pframe i := by
    intro i inside
    rw [Memory.write_of_outside _ (Or.inl (by omega)), Keystream.mask_of_outside _ _ (Or.inl (by omega))]
  unfold ccm_seal
  dsimp only
  rw [masked, mask_block_eq _ _ _ (by decide)]
  have tag : (mic_field CONFIG_IEEE80211W aes128k128d key header pn_vector pframe plen).length = 8 :=
    length_mic_field pframe plen
  rw [← Keystream.write_eq_mask _ _ _ tag]
  · rw [Memory.write_write _ _ (by rw [micLength, length_mic_field])]
  · intro i inside
    have ofMic : i < 8 := by
      rw [← tag]
      exact inside
    rw [key_block_congr sameHeader, Memory.write_of_inside _ (by omega)]
    simp only [mic_field, List.getElem_zipWith, List.getElem_take, Vector.getElem_toList]
    rw [getD_toList _ (Nat.lt_of_lt_of_le ofMic (by decide))]

theorem ccmp_header_congr (same : ∀ i, i < 2 -> first i = second i)
    (hdrlen : Nat) : ccmp_header first hdrlen = ccmp_header second hdrlen := by
  unfold ccmp_header
  rw [@Memory.read_congr _ first second 0 2 (fun i inside => by
    rw [Nat.zero_add]
    exact same i inside)]

theorem pn_vector_at_congr {hdrlen : Nat} (same : ∀ i, i < hdrlen + 8 -> first i = second i) :
    pn_vector_at first hdrlen = pn_vector_at second hdrlen := by
  unfold pn_vector_at
  rw [same hdrlen (by omega), same (hdrlen + 1) (by omega), same (hdrlen + 4) (by omega),
    same (hdrlen + 5) (by omega), same (hdrlen + 6) (by omega), same (hdrlen + 7) (by omega)]

theorem ccmp_header_hdrlen_ge (pframe : Nat -> UInt8) (hdrlen : Nat) :
    hdrlen ≤ (ccmp_header pframe hdrlen).hdrlen := by
  have qosHdrlen : hdrlen ≤ if hdrlen ≠ 26 ∧ hdrlen ≠ 32 then hdrlen + 2 else hdrlen := by
    split <;> omega
  unfold ccmp_header
  dsimp only
  split
  · exact qosHdrlen
  · split
    · exact qosHdrlen
    · exact Nat.le_refl hdrlen

/-- The range that `aes_decipher` unmasks. -/
def decrypted (CONFIG_IEEE80211W : Bool) (aes128k128d : List UInt8 -> Block -> Block)
    (key : List UInt8) (hdrlen : Nat) (pframe : Nat -> UInt8) (plen : Nat) : Nat -> UInt8 :=
  let header := ccmp_header pframe hdrlen
  Keystream.mask (fun a b => a ^^^ b)
    (key_stream CONFIG_IEEE80211W aes128k128d key header (pn_vector_at pframe hdrlen) pframe) pframe
    (header.hdrlen + 8) plen

/-- The static buffer when the MIC is computed: a copy of the unmasked frame, if it fits. -/
def message_copy (CONFIG_IEEE80211W : Bool) (aes128k128d : List UInt8 -> Block -> Block)
    (key : List UInt8) (hdrlen : Nat) (message pframe : Nat -> UInt8) (plen : Nat) : Nat -> UInt8 :=
  let header := ccmp_header pframe hdrlen
  if header.hdrlen + plen + 16 ≤ MAX_MSG_SIZE then
    Memory.write message 0
      (Memory.read (decrypted CONFIG_IEEE80211W aes128k128d key hdrlen pframe plen) 0
        (header.hdrlen + plen + 16))
  else message

theorem aes_decipher_run {hdrlen plen : Nat} (long : 24 ≤ hdrlen) (message pframe : Nat -> UInt8) :
    ∃ left : Nat -> UInt8,
      aes_decipher CONFIG_IEEE80211W aes128k128d key hdrlen message pframe (plen + 8) = some
        { res :=
            if Memory.read pframe ((ccmp_header pframe hdrlen).hdrlen + 8 + plen) 8 =
              mic_field CONFIG_IEEE80211W aes128k128d key (ccmp_header pframe hdrlen)
                (pn_vector_at pframe (ccmp_header pframe hdrlen).hdrlen)
                (message_copy CONFIG_IEEE80211W aes128k128d key hdrlen message pframe plen) plen
            then ._SUCCESS else ._FAIL
          pframe := decrypted CONFIG_IEEE80211W aes128k128d key hdrlen pframe plen
          message := left } := by
  let plain := decrypted CONFIG_IEEE80211W aes128k128d key hdrlen pframe plen
  let copied := message_copy CONFIG_IEEE80211W aes128k128d key hdrlen message pframe plen
  generalize isHeader : ccmp_header pframe hdrlen = header
  have longHeader : 24 ≤ header.hdrlen := by
    rw [← isHeader]
    exact Nat.le_trans long (ccmp_header_hdrlen_ge pframe hdrlen)
  have isPlain : mask_payload CONFIG_IEEE80211W aes128k128d key header (pn_vector_at pframe hdrlen)
      pframe plen = plain := by
    rw [mask_payload_eq longHeader]
    show _ = decrypted CONFIG_IEEE80211W aes128k128d key hdrlen pframe plen
    unfold decrypted
    rw [isHeader]
  have plainOutside : ∀ i, i < header.hdrlen + 8 ∨ header.hdrlen + 8 + plen ≤ i ->
      plain i = pframe i := by
    intro i outside
    show decrypted CONFIG_IEEE80211W aes128k128d key hdrlen pframe plen i = pframe i
    unfold decrypted
    rw [isHeader]
    exact Keystream.mask_of_outside _ _ outside
  have isCopied : (if header.hdrlen + (plen + 8) + 8 ≤ MAX_MSG_SIZE then
      Memory.write message 0 (Memory.read plain 0 (header.hdrlen + (plen + 8) + 8))
      else message) = copied := by
    show _ = message_copy CONFIG_IEEE80211W aes128k128d key hdrlen message pframe plen
    unfold message_copy
    rw [isHeader]
    rfl
  have samePn : pn_vector_at plain header.hdrlen = pn_vector_at pframe header.hdrlen :=
    pn_vector_at_congr (fun i inside => plainOutside i (Or.inl inside))
  have carried : Memory.read plain (header.hdrlen + 8 + plen) 8 =
      Memory.read pframe (header.hdrlen + 8 + plen) 8 :=
    Memory.read_congr (fun i inside => plainOutside _ (Or.inr (by omega)))
  have written := Memory.read_write
    (Keystream.mask (fun a b => a ^^^ b)
      (key_stream CONFIG_IEEE80211W aes128k128d key header (pn_vector_at pframe header.hdrlen)
        copied) copied (header.hdrlen + 8) plen)
    (header.hdrlen + 8 + plen)
    (mic_field CONFIG_IEEE80211W aes128k128d key header (pn_vector_at pframe header.hdrlen) copied
      plen)
  rw [length_mic_field, ← ccm_seal_eq longHeader] at written
  have micIndex : header.hdrlen + 8 + (plen + 8) - 8 = header.hdrlen + 8 + plen := by omega
  refine ⟨ccm_seal CONFIG_IEEE80211W aes128k128d key header (pn_vector_at pframe header.hdrlen)
    copied plen, ?_⟩
  unfold aes_decipher
  dsimp only
  rw [if_neg (by omega), isHeader, Nat.add_sub_cancel, isPlain, isCopied, samePn, micIndex, carried, written]

/-- A frame that fits into the static buffer is accepted when its MIC bytes are the
masked MIC of the unmasked frame. -/
theorem aes_decipher_eq {hdrlen plen : Nat} (long : 24 ≤ hdrlen) (message pframe : Nat -> UInt8)
    (fits : (ccmp_header pframe hdrlen).hdrlen + plen + 16 ≤ MAX_MSG_SIZE) :
    ∃ left : Nat -> UInt8,
      aes_decipher CONFIG_IEEE80211W aes128k128d key hdrlen message pframe (plen + 8) = some
        { res :=
            if Memory.read pframe ((ccmp_header pframe hdrlen).hdrlen + 8 + plen) 8 =
              mic_field CONFIG_IEEE80211W aes128k128d key (ccmp_header pframe hdrlen)
                (pn_vector_at pframe (ccmp_header pframe hdrlen).hdrlen)
                (decrypted CONFIG_IEEE80211W aes128k128d key hdrlen pframe plen) plen
            then ._SUCCESS else ._FAIL
          pframe := decrypted CONFIG_IEEE80211W aes128k128d key hdrlen pframe plen
          message := left } := by
  have longHeader : 24 ≤ (ccmp_header pframe hdrlen).hdrlen :=
    Nat.le_trans long (ccmp_header_hdrlen_ge pframe hdrlen)
  rcases @aes_decipher_run CONFIG_IEEE80211W aes128k128d key hdrlen plen long message
    pframe with ⟨left, run⟩
  refine ⟨left, ?_⟩
  rw [run]
  have isCopied : ∀ i, i < (ccmp_header pframe hdrlen).hdrlen + 8 + plen ->
      message_copy CONFIG_IEEE80211W aes128k128d key hdrlen message pframe plen i =
        decrypted CONFIG_IEEE80211W aes128k128d key hdrlen pframe plen i := by
    intro i inside
    unfold message_copy
    rw [if_pos fits]
    have cell := @Memory.write_of_inside _ message 0 i
      (Memory.read (decrypted CONFIG_IEEE80211W aes128k128d key hdrlen pframe plen) 0
        ((ccmp_header pframe hdrlen).hdrlen + plen + 16)) (by rw [Memory.length_read]; omega)
    rw [Memory.getElem_read, Nat.zero_add] at cell
    exact cell
  rw [mic_field_congr longHeader isCopied]

end Ccmp

end Rtl8821ce
