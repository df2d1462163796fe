import Rtl8821ce.Library.BitField
import Rtl8821ce.Mesh.Addressing

/-!
# The header and the mesh control of a mesh frame

A frame for one station has four addresses and both DS bits; a frame for a
group has three addresses and `FrDs`.  The mesh control may carry one or two
more addresses, and its flags say how many.  The receiver reads the addresses
by the DS bits and by these flags.
-/

namespace Rtl8821ce

def WIFI_QOS_DATA_TYPE : BitVec 16 := 0x88

/-! ## The sender -/

/-- Set `hdrlen` and `meshctrl_len`; `false` for an invalid mode. -/
def rtw_mesh_tx_set_whdr_mctrl_len (mesh_frame_mode : MeshFrameType) (attrib : MeshXmitAttrib) :
    Bool × MeshXmitAttrib :=
  match mesh_frame_mode with
  | .MESH_UCAST_DATA => (true, { attrib with hdrlen := WLAN_HDR_A4_QOS_LEN, meshctrl_len := 6 })
  | .MESH_BMCAST_DATA => (true, { attrib with hdrlen := WLAN_HDR_A3_QOS_LEN, meshctrl_len := 6 })
  | .MESH_UCAST_PX_DATA => (true, { attrib with hdrlen := WLAN_HDR_A4_QOS_LEN, meshctrl_len := 18 })
  | .MESH_BMCAST_PX_DATA => (true, { attrib with hdrlen := WLAN_HDR_A3_QOS_LEN, meshctrl_len := 12 })
  | .MESH_MHOP_UCAST_ACT => (false, attrib)
  | .MESH_MHOP_BMCAST_ACT => (false, attrib)

/-- What `update_attrib` takes from the station and from the packet. -/
structure MeshQos where
  qos_option : Bool
  priority : Fin 8
  encrypt : Algorithm

/-- The part of `update_attrib` that sets the lengths, for an interface of a mesh. -/
def mesh_update_attrib (qos : MeshQos) (attrib : MeshXmitAttrib) : MeshXmitAttrib :=
  let plain :=
    { attrib with
      encrypt := qos.encrypt
      hdrlen := WLAN_HDR_A3_LEN
      subtype := 0x08
      qos_en := qos.qos_option
      priority := 0 }
  if qos.qos_option then
    (rtw_mesh_tx_set_whdr_mctrl_len attrib.mesh_frame_mode
      { plain with
        priority := qos.priority
        hdrlen := WLAN_HDR_A3_QOS_LEN
        subtype := WIFI_QOS_DATA_TYPE }).2
  else plain

def le16_bytes (value : Nat) : List UInt8 := [UInt8.ofNat value, UInt8.ofNat (value / 256)]

/-- `struct rtw_ieee80211_hdr`. -/
structure RtwIeee80211Hdr where
  frame_ctl : BitVec 16
  addr1 : MacAddr
  addr2 : MacAddr
  addr3 : MacAddr
  seq_ctl : BitVec 16
  addr4 : MacAddr

namespace RtwIeee80211Hdr

def zero : RtwIeee80211Hdr := ⟨0, .zero, .zero, .zero, 0, .zero⟩

def bytes (whdr : RtwIeee80211Hdr) : List UInt8 :=
  le16_bytes whdr.frame_ctl.toNat ++ [0, 0] ++ whdr.addr1.bytes ++ whdr.addr2.bytes ++
    whdr.addr3.bytes ++ le16_bytes whdr.seq_ctl.toNat ++ whdr.addr4.bytes

end RtwIeee80211Hdr

def _TO_DS_ : BitVec 16 := 0x0100
def _FROM_DS_ : BitVec 16 := 0x0200
def _MORE_DATA_ : BitVec 16 := 0x2000
def _PRIVACY_ : BitVec 16 := 0x4000

def rtw_mesh_tx_build_whdr (attrib : MeshXmitAttrib) (whdr : RtwIeee80211Hdr) : RtwIeee80211Hdr :=
  let unicast :=
    { whdr with
      frame_ctl := whdr.frame_ctl ||| _TO_DS_ ||| _FROM_DS_
      addr1 := attrib.ra
      addr2 := attrib.ta
      addr3 := attrib.mda
      addr4 := attrib.msa }
  let group :=
    { whdr with
      frame_ctl := whdr.frame_ctl ||| _FROM_DS_
      addr1 := attrib.ra
      addr2 := attrib.ta
      addr3 := attrib.msa }
  match attrib.mesh_frame_mode with
  | .MESH_UCAST_DATA => unicast
  | .MESH_UCAST_PX_DATA => unicast
  | .MESH_BMCAST_DATA => group
  | .MESH_BMCAST_PX_DATA => group
  | .MESH_MHOP_UCAST_ACT => whdr
  | .MESH_MHOP_BMCAST_ACT => whdr

/-- The QoS control that `rtw_make_wlanhdr` makes of the bytes that are there. -/
def mesh_qos_control (attrib : MeshXmitAttrib) (qc : Nat) : Nat :=
  let prioritised := if attrib.priority = 0 then qc else BitField.put qc 0 4 attrib.priority.val
  let acknowledged := BitField.put (BitField.put prioritised 4 1 attrib.eosp) 5 2 attrib.ack_policy
  let aggregated := if attrib.amsdu then BitField.put acknowledged 7 1 1 else acknowledged
  let mps_lv := BitField.put aggregated 9 1 0
  let rspi := BitField.put mps_lv 10 1 0
  let eosp := BitField.put rspi 4 1 1
  BitField.put eosp 8 1 1

/-- The station that a frame is for, when it is the one of the attributes. -/
structure MeshPsta where
  fw_linked : Bool
  txseq_tid : Fin 8 -> Nat

/-- The header of a frame of a mesh, and its sequence number; `none` when the
frame cannot be sent. -/
def mesh_make_wlanhdr (psta : Option MeshPsta) (attrib : MeshXmitAttrib) : Option (List UInt8 × Nat) :=
  let typed := { RtwIeee80211Hdr.zero with frame_ctl := attrib.subtype }
  let addressed := rtw_mesh_tx_build_whdr attrib typed
  if !attrib.qos_en then none
  else
    match psta with
    | none => none
    | some psta =>
        if !psta.fw_linked then none
        else
          let seqnum := (psta.txseq_tid attrib.priority + 1) % 4096
          let whdr :=
            { addressed with
              frame_ctl := addressed.frame_ctl ||| (if attrib.mdata then _MORE_DATA_ else 0) |||
                (if attrib.encrypt = Algorithm._NO_PRIVACY_ then 0 else _PRIVACY_)
              seq_ctl := BitVec.ofNat 16 (seqnum * 16) }
          let hdr := whdr.bytes ++ List.replicate 34 0
          let qc := mesh_qos_control attrib (le16_to_cpu (hdr.drop (attrib.hdrlen - 2)))
          some (hdr.take (attrib.hdrlen - 2) ++ le16_bytes qc, seqnum)

/-- `struct rtw_ieee80211s_hdr`. -/
structure RtwIeee80211sHdr where
  flags : UInt8
  ttl : UInt8
  seqnum : BitVec 32
  eaddr1 : MacAddr
  eaddr2 : MacAddr

def RtwIeee80211sHdr.bytes (mctrl : RtwIeee80211sHdr) : List UInt8 :=
  [mctrl.flags, mctrl.ttl] ++ BitField.wordBytes mctrl.seqnum.toNat ++ mctrl.eaddr1.bytes ++
    mctrl.eaddr2.bytes

def MESH_FLAGS_AE : UInt8 := 0x3
def MESH_FLAGS_AE_A4 : UInt8 := 0x1
def MESH_FLAGS_AE_A5_A6 : UInt8 := 0x2

/-- The TTL and the sequence number, and the next number of the interface. -/
def mesh_tx_number (dot11MeshTTL : UInt8) (mesh_seqnum : BitVec 32) (attrib : MeshXmitAttrib) :
    UInt8 × BitVec 32 × BitVec 32 :=
  if attrib.mfwd_ttl ≠ 0 ∨ attrib.mb2u = true then
    (if attrib.mfwd_ttl = 0 then dot11MeshTTL else attrib.mfwd_ttl, attrib.mseq, mesh_seqnum)
  else (dot11MeshTTL, mesh_seqnum, mesh_seqnum + 1)

/-- The mesh control of a frame, and the next sequence number of the interface. -/
def rtw_mesh_tx_build_mctrl (dot11MeshTTL : UInt8) (mesh_seqnum : BitVec 32) (attrib : MeshXmitAttrib) :
    List UInt8 × BitVec 32 :=
  let numbered := mesh_tx_number dot11MeshTTL mesh_seqnum attrib
  let plain : RtwIeee80211sHdr := ⟨0, numbered.1, numbered.2.1, .zero, .zero⟩
  let mctrl :=
    match attrib.mesh_frame_mode with
    | .MESH_UCAST_PX_DATA =>
        { plain with
          flags := plain.flags ||| MESH_FLAGS_AE_A5_A6, eaddr1 := attrib.dst, eaddr2 := attrib.src }
    | .MESH_BMCAST_PX_DATA =>
        { plain with flags := plain.flags ||| MESH_FLAGS_AE_A4, eaddr1 := attrib.src }
    | _ => plain
  (mctrl.bytes.take attrib.meshctrl_len, numbered.2.2)

/-- A frame as it is sent: header, IV, mesh control and what follows. -/
def mesh_mpdu (dot11MeshTTL : UInt8) (mesh_seqnum : BitVec 32) (psta : Option MeshPsta)
    (attrib : MeshXmitAttrib) (iv rest : List UInt8) : Option (List UInt8) :=
  (mesh_make_wlanhdr psta attrib).map (fun made =>
    made.1 ++ iv ++ (rtw_mesh_tx_build_mctrl dot11MeshTTL mesh_seqnum attrib).1 ++ rest)

/-! ## The receiver -/

/-- The fields of `struct rx_pkt_attrib` that only a mesh uses, with the others. -/
structure MeshRxPktAttrib extends RxPktAttrib where
  mda : MacAddr
  msa : MacAddr
  mesh_ctrl_present : Bool
  mesh_ctrl_len : Nat

inductive RtwMeshPs
  | UNKNOWN
  | ACTIVE
  | LSLEEP
  | DSLEEP
  deriving DecidableEq

/-- The fields of `struct sta_info` that the header changes. -/
structure MeshSta where
  sleep_state : Bool
  peer_mps : RtwMeshPs
  nonpeer_mps : RtwMeshPs
  deriving DecidableEq

/-- What is done to the queues of a station whose power save mode changes. -/
inductive MeshStaCall
  | stop_sta_xmit
  | wakeup_sta_to_xmit
  deriving DecidableEq

/-- A station that receives mesh frames. -/
structure MeshRx where
  asoc_state : Bool
  rtw_get_stainfo : MacAddr -> Option MeshSta

def GetAddr4Ptr (pbuf : List UInt8) : MacAddr := addr_at pbuf 24
def GetPwrMgt (pbuf : List UInt8) : Bool := le16_to_cpu pbuf &&& 0x1000 != 0
def get_mctrl_present (qc : List UInt8) : Bool := BitField.field (le16_to_cpu qc) 8 1 != 0
def get_mps_lv (qc : List UInt8) : Bool := BitField.field (le16_to_cpu qc) 9 1 != 0

def mesh_mps_mode (ptr : List UInt8) (is_ra_bmc : Bool) (qc : List UInt8) : RtwMeshPs :=
  if GetPwrMgt ptr then (if is_ra_bmc || get_mps_lv qc then .DSLEEP else .LSLEEP) else .ACTIVE

def MeshSta.told (sta : MeshSta) (is_ra_bmc : Bool) (mps_mode : RtwMeshPs) : MeshSta :=
  if is_ra_bmc then { sta with nonpeer_mps := mps_mode }
  else
    { sta with
      peer_mps := mps_mode
      nonpeer_mps :=
        if mps_mode ≠ .ACTIVE ∧ sta.nonpeer_mps = .ACTIVE then .DSLEEP else sta.nonpeer_mps }

/-- What `rtw_mesh_rx_data_validate_hdr` leaves: its answer, the attributes, and
the station with the call that its power save mode asks for. -/
structure HdrValidated where
  ret : RecvStatus
  rattrib : MeshRxPktAttrib
  sta : Option (MeshSta × Option MeshStaCall)

/-- The rest of `rtw_mesh_rx_data_validate_hdr`, once the addresses are read. -/
def mesh_validate_qos (ptr : List UInt8) (rattrib : MeshRxPktAttrib) (sta : MeshSta) (is_ra_bmc : Bool)
    (a4_shift : Nat) : HdrValidated :=
  let qc := ptr.drop (WLAN_HDR_A3_LEN + a4_shift)
  let call :=
    if GetPwrMgt ptr then (if sta.sleep_state then none else some MeshStaCall.stop_sta_xmit)
    else (if sta.sleep_state then some MeshStaCall.wakeup_sta_to_xmit else none)
  let told := some (sta.told is_ra_bmc (mesh_mps_mode ptr is_ra_bmc qc), call)
  if get_frame_sub_type ptr &&& 0x40 != 0 then ⟨.RTW_RX_HANDLED, rattrib, told⟩
  else
    let rattrib := { rattrib with mesh_ctrl_present := get_mctrl_present qc }
    if !rattrib.mesh_ctrl_present then ⟨._FAIL, rattrib, told⟩ else ⟨._SUCCESS, rattrib, told⟩

/-- Check the header of a received frame and take its addresses. -/
def rtw_mesh_rx_data_validate_hdr (rx : MeshRx) (ptr : List UInt8) (rattrib : MeshRxPktAttrib) : HdrValidated :=
  if !rx.asoc_state then ⟨._FAIL, rattrib, none⟩
  else if !rattrib.qos then ⟨._FAIL, rattrib, none⟩
  else
    match rattrib.to_fr_ds with
    | 1 =>
        if !IS_MCAST (GetAddr1Ptr ptr) then ⟨._FAIL, rattrib, none⟩
        else
          match rx.rtw_get_stainfo (get_addr2_ptr ptr) with
          | none => ⟨._SUCCESS, rattrib, none⟩   -- dropped at the check of the station
          | some sta =>
              mesh_validate_qos ptr
                { rattrib with
                  ra := GetAddr1Ptr ptr
                  ta := get_addr2_ptr ptr
                  mda := GetAddr1Ptr ptr
                  msa := GetAddr3Ptr ptr
                  dst := GetAddr1Ptr ptr
                  src := GetAddr3Ptr ptr
                  bssid := get_addr2_ptr ptr }
                sta true 0
    | 3 =>
        if IS_MCAST (GetAddr1Ptr ptr) then ⟨._FAIL, rattrib, none⟩
        else
          match rx.rtw_get_stainfo (get_addr2_ptr ptr) with
          | none => ⟨._SUCCESS, rattrib, none⟩
          | some sta =>
              mesh_validate_qos ptr
                { rattrib with
                  ra := GetAddr1Ptr ptr
                  ta := get_addr2_ptr ptr
                  mda := GetAddr3Ptr ptr
                  msa := GetAddr4Ptr ptr
                  dst := GetAddr3Ptr ptr
                  src := GetAddr4Ptr ptr
                  bssid := get_addr2_ptr ptr }
                sta false 6
    | _ => ⟨._FAIL, rattrib, none⟩

def ae_to_mesh_ctrl_len (ae : UInt8) : Nat := [6, 12, 18, 0].getD ae.toNat 0

/-- The addresses and the length of a mesh control; `none` when its flags do not
go with the DS bits. -/
def rtw_mesh_rx_data_validate_mctrl (rattrib : MeshRxPktAttrib) (mctrl : List UInt8)
    (mda msa : MacAddr) : Option (Nat × MacAddr × MacAddr) :=
  let ae := mctrl.headD 0 &&& MESH_FLAGS_AE
  let mlen := ae_to_mesh_ctrl_len ae
  let eaddr1 := addr_at mctrl 6
  let eaddr2 := addr_at mctrl 12
  match rattrib.to_fr_ds with
  | 1 =>
      if ae = MESH_FLAGS_AE_A4 then some (mlen, mda, eaddr1)
      else if ae = 0 then some (mlen, mda, msa)
      else none
  | 3 =>
      if ae = MESH_FLAGS_AE_A5_A6 then some (mlen, eaddr1, eaddr2)
      else if ae = 0 then some (mlen, mda, msa)
      else none
  | _ => none

/-- Read the mesh control of a frame that is no A-MSDU. -/
def rtw_mesh_rx_validate_mctrl_non_amsdu (ptr : List UInt8) (rattrib : MeshRxPktAttrib) :
    RecvStatus × MeshRxPktAttrib :=
  match rtw_mesh_rx_data_validate_mctrl rattrib (ptr.drop (rattrib.hdrlen + rattrib.iv_len))
      rattrib.mda rattrib.msa with
  | none => (._FAIL, { rattrib with mesh_ctrl_len := 0 })
  | some (mlen, da, sa) => (._SUCCESS, { rattrib with mesh_ctrl_len := mlen, dst := da, src := sa })

/-- The fields that `validate_recv_frame` reads before. -/
def mesh_frame_control (ptr : List UInt8) (rattrib : MeshRxPktAttrib) : MeshRxPktAttrib :=
  { rattrib with
    to_fr_ds := get_tofr_ds ptr
    qos := get_frame_sub_type ptr &&& 0x80 != 0 }

/-- The length of the header in `validate_recv_data_frame`. -/
def mesh_hdrlen (ptr : List UInt8) (rattrib : MeshRxPktAttrib) : Nat :=
  let a4_shift := if rattrib.to_fr_ds = 3 then 6 else 0
  (if rattrib.qos then WLAN_HDR_A3_QOS_LEN + a4_shift else WLAN_HDR_A3_LEN + a4_shift) +
    (if GetOrder ptr then 4 else 0)

/-- The attributes of a frame that both checks accept; `iv_len` is the length of
the IV that the receiver counts with. -/
def mesh_read_addresses (rx : MeshRx) (stale : MeshRxPktAttrib) (iv_len : Nat) (ptr : List UInt8) :
    Option MeshRxPktAttrib :=
  match rtw_mesh_rx_data_validate_hdr rx ptr (mesh_frame_control ptr stale) with
  | ⟨._SUCCESS, rattrib, some _⟩ =>
      match rtw_mesh_rx_validate_mctrl_non_amsdu ptr
          { rattrib with hdrlen := mesh_hdrlen ptr rattrib, iv_len := iv_len } with
      | (._SUCCESS, read) => some read
      | _ => none
  | _ => none

end Rtl8821ce
