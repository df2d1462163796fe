import Rtl8821ce.Mesh.AddressFields

/-!
# The receiver reads the addresses that were sent

`AirHeader` lists what a header on the air can hold; the sender builds one of
these, and the receiver's fields are read off it.  What the mesh control adds
depends on the mode alone.  A frame for one station is accepted exactly when
the address of this station is no group address.
-/

namespace Rtl8821ce

theorem addr_at_append {front rest pbuf : List UInt8} {addr : MacAddr} {offset : Nat}
    (split : pbuf = front ++ (addr.bytes ++ rest)) (length : front.length = offset) : addr_at pbuf offset = addr := by
  apply addr_at_of_take
  rw [split, ← length, List.drop_left, ← addr.length_eq, List.take_left]

@[simp] theorem length_le16_bytes (value : Nat) : (le16_bytes value).length = 2 := rfl

theorem le16_to_cpu_le16_bytes {value : Nat} (small : value < 65536) (rest : List UInt8) :
    le16_to_cpu (le16_bytes value ++ rest) = value := by
  have low : (UInt8.ofNat value).toNat = value % 256 := UInt8.toNat_ofNat'
  have high : (UInt8.ofNat (value / 256)).toNat = value / 256 % 256 := UInt8.toNat_ofNat'
  show (UInt8.ofNat value).toNat + 256 * (UInt8.ofNat (value / 256)).toNat = value
  rw [low, high]
  omega

/-! ## Headers on the air -/

/-- What the header of a mesh frame holds. -/
structure AirHeader where
  unicast : Bool
  mdata : Bool
  privacy : Bool
  addr1 : MacAddr
  addr2 : MacAddr
  addr3 : MacAddr
  addr4 : MacAddr
  seq_ctl : BitVec 16
  qc : Nat
  qc_lt : qc < 65536

namespace AirHeader

def frame_ctl (unicast mdata privacy : Bool) : BitVec 16 :=
  WIFI_QOS_DATA_TYPE ||| (if unicast then _TO_DS_ ||| _FROM_DS_ else _FROM_DS_) |||
    (if mdata then _MORE_DATA_ else 0) ||| (if privacy then _PRIVACY_ else 0)

def bytes (h : AirHeader) : List UInt8 :=
  le16_bytes (frame_ctl h.unicast h.mdata h.privacy).toNat ++ [0, 0] ++ h.addr1.bytes ++
    h.addr2.bytes ++ h.addr3.bytes ++ le16_bytes h.seq_ctl.toNat ++
    (if h.unicast then h.addr4.bytes else []) ++ le16_bytes h.qc

/-- `a4_shift`. -/
def shift (h : AirHeader) : Nat := if h.unicast then 6 else 0

variable (h : AirHeader) (rest : List UInt8)

theorem length_addr4 : (if h.unicast then h.addr4.bytes else []).length = h.shift := by
  unfold shift
  split
  · exact h.addr4.length_eq
  · rfl

theorem length_bytes : h.bytes.length = 26 + h.shift := by
  unfold bytes
  simp only [List.length_append, length_le16_bytes, h.addr1.length_eq, h.addr2.length_eq,
    h.addr3.length_eq, h.length_addr4, List.length_cons, List.length_nil]
  omega

theorem frame_control_flags (unicast mdata privacy : Bool) :
    let value := (frame_ctl unicast mdata privacy).toNat
    (2 * (value &&& 0x0100 != 0).toNat + (value &&& 0x0200 != 0).toNat = if unicast then 3 else 1) ∧
      (value &&& 0xfc &&& 0x80 != 0) = true ∧ (value &&& 0xfc &&& 0x40 != 0) = false ∧
      (value &&& 0x8000 != 0) = false := by
  cases unicast <;> cases mdata <;> cases privacy <;> decide

theorem frame_control : le16_to_cpu (h.bytes ++ rest) =
    (frame_ctl h.unicast h.mdata h.privacy).toNat := by
  unfold bytes
  simp only [List.append_assoc]
  exact le16_to_cpu_le16_bytes (BitVec.isLt _) _

theorem tofr_ds : get_tofr_ds (h.bytes ++ rest) = if h.unicast then 3 else 1 := by
  unfold get_tofr_ds GetToDs GetFrDs
  rw [h.frame_control]
  exact (frame_control_flags h.unicast h.mdata h.privacy).1

theorem qos : (get_frame_sub_type (h.bytes ++ rest) &&& 0x80 != 0) = true := by
  unfold get_frame_sub_type
  rw [h.frame_control]
  exact (frame_control_flags h.unicast h.mdata h.privacy).2.1

theorem data : (get_frame_sub_type (h.bytes ++ rest) &&& 0x40 != 0) = false := by
  unfold get_frame_sub_type
  rw [h.frame_control]
  exact (frame_control_flags h.unicast h.mdata h.privacy).2.2.1

theorem order : GetOrder (h.bytes ++ rest) = false := by
  unfold GetOrder
  rw [h.frame_control]
  exact (frame_control_flags h.unicast h.mdata h.privacy).2.2.2

theorem read_addr1 : GetAddr1Ptr (h.bytes ++ rest) = h.addr1 := by
  unfold GetAddr1Ptr bytes
  simp only [List.append_assoc]
  rw [← List.append_assoc]
  exact addr_at_append rfl rfl

theorem read_addr2 : get_addr2_ptr (h.bytes ++ rest) = h.addr2 := by
  unfold get_addr2_ptr bytes
  simp only [List.append_assoc]
  rw [← List.append_assoc, ← List.append_assoc]
  refine addr_at_append rfl ?_
  rw [List.length_append, h.addr1.length_eq]
  rfl

theorem read_addr3 : GetAddr3Ptr (h.bytes ++ rest) = h.addr3 := by
  unfold GetAddr3Ptr bytes
  simp only [List.append_assoc]
  rw [← List.append_assoc, ← List.append_assoc, ← List.append_assoc]
  refine addr_at_append rfl ?_
  rw [List.length_append, List.length_append, h.addr1.length_eq, h.addr2.length_eq]
  rfl

theorem read_addr4 (unicast : h.unicast = true) : GetAddr4Ptr (h.bytes ++ rest) = h.addr4 := by
  unfold GetAddr4Ptr bytes
  rw [if_pos unicast]
  simp only [List.append_assoc]
  rw [← List.append_assoc, ← List.append_assoc, ← List.append_assoc, ← List.append_assoc, ← List.append_assoc]
  refine addr_at_append rfl ?_
  rw [List.length_append, List.length_append, List.length_append, List.length_append,
    h.addr1.length_eq, h.addr2.length_eq, h.addr3.length_eq]
  rfl

theorem read_qc : le16_to_cpu ((h.bytes ++ rest).drop (WLAN_HDR_A3_LEN + h.shift)) = h.qc := by
  have place : (h.bytes ++ rest).drop (WLAN_HDR_A3_LEN + h.shift) = le16_bytes h.qc ++ rest := by
    unfold bytes
    rw [List.append_assoc _ (le16_bytes h.qc)]
    apply List.drop_left'
    simp only [List.length_append, length_le16_bytes, h.addr1.length_eq, h.addr2.length_eq,
      h.addr3.length_eq, h.length_addr4, List.length_cons, List.length_nil]
    rfl
  rw [place, le16_to_cpu_le16_bytes h.qc_lt]

end AirHeader

def MeshFrameType.unicast : MeshFrameType -> Bool
  | .MESH_UCAST_DATA => true
  | .MESH_UCAST_PX_DATA => true
  | _ => false

def MeshFrameType.data : MeshFrameType -> Bool
  | .MESH_MHOP_UCAST_ACT => false
  | .MESH_MHOP_BMCAST_ACT => false
  | _ => true

theorem mesh_qos_control_lt (attrib : MeshXmitAttrib) : mesh_qos_control attrib 0 < 2 ^ 16 := by
  have put_lt : ∀ {value shift bits new : Nat}, shift + bits ≤ 16 -> value < 2 ^ 16 ->
      BitField.put value shift bits new < 2 ^ 16 :=
    fun fits small => BitField.put_lt _ _ small fits
  have prioritised : (if attrib.priority = 0 then 0 else BitField.put 0 0 4 attrib.priority.val) < 2 ^ 16 := by
    split
    · decide
    · exact put_lt (by decide) (by decide)
  have acknowledged := @put_lt _ 5 2 attrib.ack_policy (by decide)
    (@put_lt _ 4 1 attrib.eosp (by decide) prioritised)
  unfold mesh_qos_control
  dsimp only
  apply put_lt (by decide)
  apply put_lt (by decide)
  apply put_lt (by decide)
  apply put_lt (by decide)
  split
  · exact put_lt (by decide) acknowledged
  · exact acknowledged

theorem mesh_qos_control_present (attrib : MeshXmitAttrib) (qc : Nat) :
    (BitField.field (mesh_qos_control attrib qc) 8 1 != 0) = true := by
  unfold mesh_qos_control
  dsimp only
  rw [BitField.field_put]
  rfl

def air_header (attrib : MeshXmitAttrib) (seqnum : Nat) : AirHeader where
  unicast := attrib.mesh_frame_mode.unicast
  mdata := attrib.mdata
  privacy := decide (attrib.encrypt ≠ Algorithm._NO_PRIVACY_)
  addr1 := attrib.ra
  addr2 := attrib.ta
  addr3 := if attrib.mesh_frame_mode.unicast then attrib.mda else attrib.msa
  addr4 := attrib.msa
  seq_ctl := BitVec.ofNat 16 (seqnum * 16)
  qc := mesh_qos_control attrib 0
  qc_lt := mesh_qos_control_lt attrib

namespace RtwIeee80211Hdr

/-- The bytes before `addr4`. -/
def front (whdr : RtwIeee80211Hdr) : List UInt8 :=
  le16_bytes whdr.frame_ctl.toNat ++ [0, 0] ++ whdr.addr1.bytes ++ whdr.addr2.bytes ++
    whdr.addr3.bytes ++ le16_bytes whdr.seq_ctl.toNat

theorem length_front (whdr : RtwIeee80211Hdr) : whdr.front.length = 24 := by
  unfold front
  simp only [List.length_append, length_le16_bytes, whdr.addr1.length_eq, whdr.addr2.length_eq,
    whdr.addr3.length_eq, List.length_cons, List.length_nil]

theorem length_bytes (whdr : RtwIeee80211Hdr) : whdr.bytes.length = 30 := by
  show (whdr.front ++ whdr.addr4.bytes).length = 30
  rw [List.length_append, whdr.length_front, whdr.addr4.length_eq]

theorem cut_four (whdr : RtwIeee80211Hdr) (rest : List UInt8) :
    (whdr.bytes ++ rest).take (32 - 2) = whdr.bytes ∧ (whdr.bytes ++ rest).drop (32 - 2) = rest :=
  ⟨List.take_left' whdr.length_bytes, List.drop_left' whdr.length_bytes⟩

theorem cut_three (whdr : RtwIeee80211Hdr) (rest : List UInt8) :
    (whdr.bytes ++ rest).take (26 - 2) = whdr.front ∧
      (whdr.bytes ++ rest).drop (26 - 2) = whdr.addr4.bytes ++ rest := by
  have split : whdr.bytes ++ rest = whdr.front ++ (whdr.addr4.bytes ++ rest) := List.append_assoc whdr.front _ _
  rw [split]
  exact ⟨List.take_left' whdr.length_front, List.drop_left' whdr.length_front⟩

end RtwIeee80211Hdr

theorem build_whdr_four {attrib : MeshXmitAttrib} (unicast : attrib.mesh_frame_mode.unicast = true)
    (whdr : RtwIeee80211Hdr) :
    rtw_mesh_tx_build_whdr attrib whdr =
      { whdr with
        frame_ctl := whdr.frame_ctl ||| _TO_DS_ ||| _FROM_DS_
        addr1 := attrib.ra
        addr2 := attrib.ta
        addr3 := attrib.mda
        addr4 := attrib.msa } := by
  unfold rtw_mesh_tx_build_whdr
  cases mode : attrib.mesh_frame_mode <;> rw [mode] at unicast <;> first | rfl | exact nomatch unicast

theorem build_whdr_three {attrib : MeshXmitAttrib} (data : attrib.mesh_frame_mode.data = true)
    (group : attrib.mesh_frame_mode.unicast = false) (whdr : RtwIeee80211Hdr) :
    rtw_mesh_tx_build_whdr attrib whdr =
      { whdr with
        frame_ctl := whdr.frame_ctl ||| _FROM_DS_
        addr1 := attrib.ra
        addr2 := attrib.ta
        addr3 := attrib.msa } := by
  unfold rtw_mesh_tx_build_whdr
  cases mode : attrib.mesh_frame_mode with
  | MESH_BMCAST_DATA => rfl
  | MESH_BMCAST_PX_DATA => rfl
  | MESH_UCAST_DATA => exact absurd group (by rw [mode]; decide)
  | MESH_UCAST_PX_DATA => exact absurd group (by rw [mode]; decide)
  | MESH_MHOP_UCAST_ACT => exact absurd data (by rw [mode]; decide)
  | MESH_MHOP_BMCAST_ACT => exact absurd data (by rw [mode]; decide)

theorem privacy_bits (encrypt : Algorithm) :
    (if decide (encrypt ≠ Algorithm._NO_PRIVACY_) = true then _PRIVACY_ else 0) =
      if encrypt = Algorithm._NO_PRIVACY_ then 0 else _PRIVACY_ := by
  cases encrypt <;> rfl

theorem mesh_make_wlanhdr_eq {psta : Option MeshPsta} {attrib : MeshXmitAttrib} {made : List UInt8 × Nat}
    (data : attrib.mesh_frame_mode.data = true) (subtype : attrib.subtype = WIFI_QOS_DATA_TYPE)
    (length : attrib.hdrlen = if attrib.mesh_frame_mode.unicast then 32 else 26)
    (sent : mesh_make_wlanhdr psta attrib = some made) : made.1 = (air_header attrib made.2).bytes := by
  unfold mesh_make_wlanhdr at sent
  dsimp only at sent
  split at sent
  case isTrue => exact nomatch sent
  case isFalse enabled =>
    split at sent
    case h_1 => exact nomatch sent
    case h_2 found =>
      split at sent
      case isTrue => exact nomatch sent
      case isFalse linked =>
        generalize (found.txseq_tid attrib.priority + 1) % 4096 = seqnum at sent
        rw [← Option.some.inj sent]
        dsimp only
        unfold AirHeader.bytes AirHeader.frame_ctl air_header
        dsimp only
        rw [privacy_bits, length, subtype]
        cases unicast : attrib.mesh_frame_mode.unicast with
        | true =>
            rw [build_whdr_four unicast]
            simp only [if_true, (RtwIeee80211Hdr.cut_four _ _).1, (RtwIeee80211Hdr.cut_four _ _).2]
            unfold RtwIeee80211Hdr.bytes
            rw [BitVec.or_assoc WIFI_QOS_DATA_TYPE]
            rfl
        | false =>
            rw [build_whdr_three data unicast]
            simp only [Bool.false_eq_true, if_false, (RtwIeee80211Hdr.cut_three _ _).1,
              (RtwIeee80211Hdr.cut_three _ _).2]
            unfold RtwIeee80211Hdr.front
            rw [List.append_nil]
            rfl

/-! ## The mesh control -/

def MeshFrameType.mctrl_len : MeshFrameType -> Nat
  | .MESH_UCAST_PX_DATA => 18
  | .MESH_BMCAST_PX_DATA => 12
  | _ => 6

/-- What the receiver takes from the mesh control of a frame, with the addresses of the header. -/
def MeshXmitAttrib.read_mctrl (attrib : MeshXmitAttrib) (mda msa : MacAddr) : Nat × MacAddr × MacAddr :=
  match attrib.mesh_frame_mode with
  | .MESH_UCAST_PX_DATA => (18, attrib.dst, attrib.src)
  | .MESH_BMCAST_PX_DATA => (12, mda, attrib.src)
  | _ => (6, mda, msa)

namespace RtwIeee80211sHdr

def front (mctrl : RtwIeee80211sHdr) : List UInt8 :=
  [mctrl.flags, mctrl.ttl] ++ BitField.wordBytes mctrl.seqnum.toNat

variable (mctrl : RtwIeee80211sHdr)

theorem take_twelve : mctrl.bytes.take 12 = mctrl.front ++ mctrl.eaddr1.bytes := by
  apply List.take_left'
  rw [List.length_append, mctrl.eaddr1.length_eq]
  rfl

theorem take_eighteen : mctrl.bytes.take 18 = mctrl.front ++ mctrl.eaddr1.bytes ++ mctrl.eaddr2.bytes := by
  apply List.take_of_length_le
  show (mctrl.front ++ mctrl.eaddr1.bytes ++ mctrl.eaddr2.bytes).length ≤ 18
  rw [List.length_append, List.length_append, mctrl.eaddr1.length_eq, mctrl.eaddr2.length_eq]
  rfl

end RtwIeee80211sHdr

section

variable {attrib : MeshXmitAttrib} (length : attrib.meshctrl_len = attrib.mesh_frame_mode.mctrl_len)
  (dot11MeshTTL : UInt8) (mesh_seqnum : BitVec 32) (rest : List UInt8)

include length

theorem mctrl_flags :
    ((rtw_mesh_tx_build_mctrl dot11MeshTTL mesh_seqnum attrib).1 ++ rest).headD 0 &&& MESH_FLAGS_AE =
      match attrib.mesh_frame_mode with
      | .MESH_UCAST_PX_DATA => MESH_FLAGS_AE_A5_A6
      | .MESH_BMCAST_PX_DATA => MESH_FLAGS_AE_A4
      | _ => 0 := by
  have first : ∀ (mctrl : RtwIeee80211sHdr) (len : Nat),
      (mctrl.bytes.take (len + 1) ++ rest).headD 0 = mctrl.flags := fun _ _ => rfl
  unfold rtw_mesh_tx_build_mctrl
  rw [length]
  cases attrib.mesh_frame_mode <;> dsimp only [MeshFrameType.mctrl_len] <;> rw [first] <;>
    dsimp only <;> decide

theorem mctrl_eaddr_ucast (mode : attrib.mesh_frame_mode = .MESH_UCAST_PX_DATA) :
    addr_at ((rtw_mesh_tx_build_mctrl dot11MeshTTL mesh_seqnum attrib).1 ++ rest) 6 = attrib.dst ∧
      addr_at ((rtw_mesh_tx_build_mctrl dot11MeshTTL mesh_seqnum attrib).1 ++ rest) 12 = attrib.src := by
  unfold rtw_mesh_tx_build_mctrl
  rw [length, mode]
  dsimp only [MeshFrameType.mctrl_len]
  rw [RtwIeee80211sHdr.take_eighteen]
  constructor
  · rw [List.append_assoc, List.append_assoc]
    exact addr_at_append rfl rfl
  · rw [List.append_assoc]
    refine addr_at_append rfl ?_
    rw [List.length_append, attrib.dst.length_eq]
    rfl

theorem mctrl_eaddr_bmcast (mode : attrib.mesh_frame_mode = .MESH_BMCAST_PX_DATA) :
    addr_at ((rtw_mesh_tx_build_mctrl dot11MeshTTL mesh_seqnum attrib).1 ++ rest) 6 = attrib.src := by
  unfold rtw_mesh_tx_build_mctrl
  rw [length, mode]
  dsimp only [MeshFrameType.mctrl_len]
  rw [RtwIeee80211sHdr.take_twelve, List.append_assoc]
  exact addr_at_append rfl rfl

theorem read_mctrl_eq {rattrib : MeshRxPktAttrib} (data : attrib.mesh_frame_mode.data = true)
    (ds : rattrib.to_fr_ds = if attrib.mesh_frame_mode.unicast then 3 else 1) (mda msa : MacAddr) :
    rtw_mesh_rx_data_validate_mctrl rattrib
        ((rtw_mesh_tx_build_mctrl dot11MeshTTL mesh_seqnum attrib).1 ++ rest) mda msa =
      some (attrib.read_mctrl mda msa) := by
  have flags := mctrl_flags length dot11MeshTTL mesh_seqnum rest
  have ucast := mctrl_eaddr_ucast length dot11MeshTTL mesh_seqnum rest
  have bmcast := mctrl_eaddr_bmcast length dot11MeshTTL mesh_seqnum rest
  unfold rtw_mesh_rx_data_validate_mctrl MeshXmitAttrib.read_mctrl
  simp only [flags, ds]
  cases mode : attrib.mesh_frame_mode with
  | MESH_UCAST_DATA => rfl
  | MESH_BMCAST_DATA => rfl
  | MESH_UCAST_PX_DATA =>
      rw [(ucast mode).1, (ucast mode).2]
      rfl
  | MESH_BMCAST_PX_DATA =>
      rw [bmcast mode]
      rfl
  | MESH_MHOP_UCAST_ACT => exact absurd data (by rw [mode]; decide)
  | MESH_MHOP_BMCAST_ACT => exact absurd data (by rw [mode]; decide)

end

section

variable {rx : MeshRx} {ptr : List UInt8} {rattrib : MeshRxPktAttrib} {sta : MeshSta}

theorem mesh_validate_qos_success {is_ra_bmc : Bool} {a4_shift : Nat}
    (data : (get_frame_sub_type ptr &&& 0x40 != 0) = false)
    (present : get_mctrl_present (ptr.drop (WLAN_HDR_A3_LEN + a4_shift)) = true) :
    ∃ told, mesh_validate_qos ptr rattrib sta is_ra_bmc a4_shift =
      ⟨._SUCCESS, { rattrib with mesh_ctrl_present := true }, some told⟩ := by
  unfold mesh_validate_qos
  simp only [data, present, Bool.false_eq_true, if_false, Bool.not_true]
  exact ⟨_, rfl⟩

section

variable (asoc : rx.asoc_state = true) (qos : rattrib.qos = true)

include asoc qos

theorem validate_hdr_refused (ds : rattrib.to_fr_ds = 3) (group : IS_MCAST (GetAddr1Ptr ptr) = true) :
    rtw_mesh_rx_data_validate_hdr rx ptr rattrib = ⟨._FAIL, rattrib, none⟩ := by
  unfold rtw_mesh_rx_data_validate_hdr
  simp only [asoc, qos, ds, group, Bool.not_true, Bool.false_eq_true, if_false, if_true]

variable (known : rx.rtw_get_stainfo (get_addr2_ptr ptr) = some sta)
  (data : (get_frame_sub_type ptr &&& 0x40 != 0) = false)

include known data

theorem validate_hdr_four (ds : rattrib.to_fr_ds = 3) (single : IS_MCAST (GetAddr1Ptr ptr) = false)
    (present : get_mctrl_present (ptr.drop (WLAN_HDR_A3_LEN + 6)) = true) :
    ∃ told, rtw_mesh_rx_data_validate_hdr rx ptr rattrib =
      ⟨._SUCCESS,
        { rattrib with
          ra := GetAddr1Ptr ptr
          ta := get_addr2_ptr ptr
          mda := GetAddr3Ptr ptr
          msa := GetAddr4Ptr ptr
          dst := GetAddr3Ptr ptr
          src := GetAddr4Ptr ptr
          bssid := get_addr2_ptr ptr
          mesh_ctrl_present := true },
        some told⟩ := by
  unfold rtw_mesh_rx_data_validate_hdr
  simp only [asoc, qos, ds, single, known, Bool.not_true, Bool.false_eq_true, if_false]
  exact mesh_validate_qos_success data present

theorem validate_hdr_three (ds : rattrib.to_fr_ds = 1) (group : IS_MCAST (GetAddr1Ptr ptr) = true)
    (present : get_mctrl_present (ptr.drop (WLAN_HDR_A3_LEN + 0)) = true) :
    ∃ told, rtw_mesh_rx_data_validate_hdr rx ptr rattrib =
      ⟨._SUCCESS,
        { rattrib with
          ra := GetAddr1Ptr ptr
          ta := get_addr2_ptr ptr
          mda := GetAddr1Ptr ptr
          msa := GetAddr3Ptr ptr
          dst := GetAddr1Ptr ptr
          src := GetAddr3Ptr ptr
          bssid := get_addr2_ptr ptr
          mesh_ctrl_present := true },
        some told⟩ := by
  unfold rtw_mesh_rx_data_validate_hdr
  simp only [asoc, qos, ds, group, known, Bool.not_true, Bool.false_eq_true, if_false]
  exact mesh_validate_qos_success data present

end

end

section

variable {rx : MeshRx} {attrib : MeshXmitAttrib} (asoc : rx.asoc_state = true)
  (stale : MeshRxPktAttrib) (seqnum : Nat) (iv behind : List UInt8)

include asoc

theorem mesh_read_refused (unicast : attrib.mesh_frame_mode.unicast = true) (group : IS_MCAST attrib.ra = true) :
    mesh_read_addresses rx stale iv.length ((air_header attrib seqnum).bytes ++ behind) = none := by
  generalize heq : air_header attrib seqnum = h
  have ds : get_tofr_ds (h.bytes ++ behind) = 3 := by
    rw [h.tofr_ds, ← heq]
    exact if_pos unicast
  have addr1 : IS_MCAST (GetAddr1Ptr (h.bytes ++ behind)) = true := by
    rw [h.read_addr1, ← heq]
    exact group
  unfold mesh_read_addresses
  rw [validate_hdr_refused asoc (h.qos behind) ds addr1]

theorem mesh_read_hdr {sta : MeshSta} (known : rx.rtw_get_stainfo attrib.ta = some sta)
    (kind : IS_MCAST attrib.ra = !attrib.mesh_frame_mode.unicast) :
    ∃ rattrib, ∃ told,
      rtw_mesh_rx_data_validate_hdr rx ((air_header attrib seqnum).bytes ++ behind)
          (mesh_frame_control ((air_header attrib seqnum).bytes ++ behind) stale) =
        ⟨._SUCCESS, rattrib, some told⟩ ∧
      rattrib.to_fr_ds = (if attrib.mesh_frame_mode.unicast then 3 else 1) ∧ rattrib.qos = true ∧
      rattrib.mda = (if attrib.mesh_frame_mode.unicast then attrib.mda else attrib.ra) ∧
      rattrib.msa = attrib.msa := by
  generalize heq : air_header attrib seqnum = h
  have ds := h.tofr_ds behind
  have sender : rx.rtw_get_stainfo (get_addr2_ptr (h.bytes ++ behind)) = some sta := by
    rw [h.read_addr2, ← heq]
    exact known
  have present : get_mctrl_present ((h.bytes ++ behind).drop (WLAN_HDR_A3_LEN + h.shift)) = true := by
    unfold get_mctrl_present
    rw [h.read_qc, ← heq]
    exact mesh_qos_control_present attrib 0
  have addr1 : IS_MCAST (GetAddr1Ptr (h.bytes ++ behind)) = !attrib.mesh_frame_mode.unicast := by
    rw [h.read_addr1, ← heq]
    exact kind
  have same : h.unicast = attrib.mesh_frame_mode.unicast := by rw [← heq]; rfl
  rw [AirHeader.shift, same] at present
  rw [same] at ds
  cases unicast : attrib.mesh_frame_mode.unicast with
  | true =>
      rw [unicast] at addr1 present
      rw [unicast, if_pos rfl] at ds
      rcases @validate_hdr_four _ _ (mesh_frame_control (h.bytes ++ behind) stale) _ asoc (h.qos behind)
        sender (h.data behind) ds addr1 present with ⟨told, accepted⟩
      refine ⟨_, told, accepted, ds, h.qos behind, ?_, ?_⟩
      · show GetAddr3Ptr (h.bytes ++ behind) = attrib.mda
        rw [h.read_addr3, ← heq]
        exact if_pos unicast
      · show GetAddr4Ptr (h.bytes ++ behind) = attrib.msa
        rw [h.read_addr4 behind (same.trans unicast), ← heq]
        rfl
  | false =>
      rw [unicast] at addr1 present
      rw [unicast, if_neg Bool.false_ne_true] at ds
      rcases @validate_hdr_three _ _ (mesh_frame_control (h.bytes ++ behind) stale) _ asoc (h.qos behind)
        sender (h.data behind) ds addr1 present with ⟨told, accepted⟩
      refine ⟨_, told, accepted, ds, h.qos behind, ?_, ?_⟩
      · show GetAddr1Ptr (h.bytes ++ behind) = attrib.ra
        rw [h.read_addr1, ← heq]
        rfl
      · show GetAddr3Ptr (h.bytes ++ behind) = attrib.msa
        rw [h.read_addr3, ← heq]
        exact if_neg (by rw [unicast]; decide)

/-- A frame whose address is of the kind of its mode is read as it was addressed. -/
theorem mesh_read_accepted {sta : MeshSta} (known : rx.rtw_get_stainfo attrib.ta = some sta)
    (kind : IS_MCAST attrib.ra = !attrib.mesh_frame_mode.unicast) (data : attrib.mesh_frame_mode.data = true)
    (length : attrib.meshctrl_len = attrib.mesh_frame_mode.mctrl_len)
    (dot11MeshTTL : UInt8) (mesh_seqnum : BitVec 32) :
    ∃ read,
      mesh_read_addresses rx stale iv.length ((air_header attrib seqnum).bytes ++ (iv ++
        ((rtw_mesh_tx_build_mctrl dot11MeshTTL mesh_seqnum attrib).1 ++ behind))) = some read ∧
      (read.mesh_ctrl_len, read.dst, read.src) =
        attrib.read_mctrl (if attrib.mesh_frame_mode.unicast then attrib.mda else attrib.ra) attrib.msa := by
  generalize tail : iv ++ ((rtw_mesh_tx_build_mctrl dot11MeshTTL mesh_seqnum attrib).1 ++ behind) = rest
  rcases mesh_read_hdr asoc stale seqnum rest known kind with ⟨rattrib, told, accepted, ds, qos, mda, msa⟩
  have hdrlen : mesh_hdrlen ((air_header attrib seqnum).bytes ++ rest) rattrib =
      (air_header attrib seqnum).bytes.length := by
    unfold mesh_hdrlen
    rw [(air_header attrib seqnum).order, (air_header attrib seqnum).length_bytes, qos, ds]
    show WLAN_HDR_A3_QOS_LEN + _ + 0 = 26 + if attrib.mesh_frame_mode.unicast then 6 else 0
    cases attrib.mesh_frame_mode.unicast <;> rfl
  have place : ((air_header attrib seqnum).bytes ++ rest).drop
      ((air_header attrib seqnum).bytes.length + iv.length) =
        (rtw_mesh_tx_build_mctrl dot11MeshTTL mesh_seqnum attrib).1 ++ behind := by
    rw [← tail, ← List.append_assoc]
    exact List.drop_left' List.length_append
  have mctrl := @read_mctrl_eq attrib length dot11MeshTTL mesh_seqnum behind
    { rattrib with hdrlen := (air_header attrib seqnum).bytes.length, iv_len := iv.length } data ds
  unfold mesh_read_addresses
  rw [accepted]
  dsimp only
  unfold rtw_mesh_rx_validate_mctrl_non_amsdu
  dsimp only
  rw [hdrlen, place, mctrl, mda, msa]
  exact ⟨_, rfl, rfl⟩

end

end Rtl8821ce
