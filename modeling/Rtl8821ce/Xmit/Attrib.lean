import Rtl8821ce.Recv.Frame

/-!
# Attributes of transmitted frames

`update_attrib` fills in the `pkt_attrib` of an Ethernet frame: its addresses,
its cipher with the IV, and its priority.  The IV is drawn here, once for the
frame, from the packet number counter of the station.

The lengths of IV, ICV and 802.11 header follow from the cipher and from the QoS
control, so they are functions of the attributes.
-/

namespace Rtl8821ce

/-- What the interface is at the moment. -/
inductive FwState
  | WIFI_STATION_STATE
  | WIFI_AP_STATE
  | WIFI_ADHOC_STATE
  deriving DecidableEq

inductive AuthAlgrthm
  | dot11AuthAlgrthm_Open
  | dot11AuthAlgrthm_Shared
  | dot11AuthAlgrthm_8021X
  | dot11AuthAlgrthm_Auto
  | dot11AuthAlgrthm_WAPI
  deriving DecidableEq

/-- A fragmentation threshold that the driver admits. -/
structure FragThreshold where
  val : Nat
  admitted : 256 ≤ val
deriving DecidableEq

/-- The fields of `struct security_priv` that the transmit path uses. -/
structure XmitSecurity where
  dot11AuthAlgrthm : AuthAlgrthm
  dot11PrivacyAlgrthm : Algorithm
  dot11PrivacyKeyIndex : Nat
  dot11DefKey : Nat -> List UInt8
  dot118021XGrpPrivacy : Algorithm
  dot118021XGrpKeyid : Nat
  dot118021XGrpKey : Nat -> List UInt8
  dot118021XGrptxmickey : Nat -> List UInt8
  busetkipkey : Bool
  sw_encrypt : Bool
  hw_decrypted : Bool

/-- What the transmit path reads of an adapter.  `bmc_search_off` stands for the
camera flag that rules out a search for group keys. -/
structure XmitAdapter where
  fwstate : FwState
  bssid : MacAddr
  mac_addr : MacAddr
  qos_option : Bool
  acm_mask : Nat
  frag_len : FragThreshold
  securitypriv : XmitSecurity
  bmc_search_off : Bool

/-- The fields of `struct sta_info` that the transmit path uses. -/
structure TxStaInfo where
  fw_linked : Bool
  qos_option : Bool
  ieee8021x_blocked : Bool
  dot118021XPrivacy : Algorithm
  dot118021x_UncstKey : List UInt8
  dot11tkiptxmickey : List UInt8
  dot11txpn : Nat
  txseq_tid : Fin 8 -> Nat

/-- An Ethernet frame. -/
structure EtherFrame where
  h_dest : MacAddr
  h_source : MacAddr
  h_proto : UInt16
  payload : List UInt8
deriving DecidableEq

/-- `iv_len` of a cipher. -/
def Algorithm.iv_len : Algorithm -> Nat
  | ._NO_PRIVACY_ => 0
  | ._WEP40_ => 4
  | ._WEP104_ => 4
  | ._TKIP_ => 8
  | ._AES_ => 8

/-- `icv_len` of a cipher. -/
def Algorithm.icv_len : Algorithm -> Nat
  | ._NO_PRIVACY_ => 0
  | ._WEP40_ => 4
  | ._WEP104_ => 4
  | ._TKIP_ => 4
  | ._AES_ => 8

/-- The fields of `struct pkt_attrib` that the transmit path uses.  `qos` says
that the header has a QoS control. -/
structure PktAttrib where
  dst : MacAddr
  src : MacAddr
  ta : MacAddr
  ra : MacAddr
  ether_type : UInt16
  pktlen : Nat
  qos : Bool
  qos_en : Bool
  priority : Fin 8
  mdata : Bool
  eosp : Bool
  encrypt : Algorithm
  bswenc : Bool
  key_idx : Nat
  iv : List UInt8
  iv_length : iv.length = encrypt.iv_len
  icv : List UInt8
  icv_length : icv.length = encrypt.icv_len
  dot118021x_UncstKey : List UInt8
  dot11tkiptxmickey : List UInt8

def PktAttrib.iv_len (pattrib : PktAttrib) : Nat := pattrib.encrypt.iv_len

def PktAttrib.icv_len (pattrib : PktAttrib) : Nat := pattrib.encrypt.icv_len

/-- `WLAN_HDR_A3_QOS_LEN` or `WLAN_HDR_A3_LEN`. -/
def PktAttrib.hdrlen (pattrib : PktAttrib) : Nat := if pattrib.qos then 26 else 24

def PktAttrib.bmcst (pattrib : PktAttrib) : Bool := IS_MCAST pattrib.ra

/-- The ICV bytes that a fragment has behind its payload in the buffer. -/
def PktAttrib.sw_icv_len (pattrib : PktAttrib) : Nat :=
  if pattrib.bswenc then pattrib.icv_len else 0

theorem Algorithm.iv_len_le (encrypt : Algorithm) : encrypt.iv_len ≤ 8 := by
  cases encrypt <;> decide

theorem Algorithm.icv_len_le (encrypt : Algorithm) : encrypt.icv_len ≤ 8 := by
  cases encrypt <;> decide

theorem PktAttrib.hdrlen_bounds (pattrib : PktAttrib) : 24 ≤ pattrib.hdrlen ∧ pattrib.hdrlen ≤ 26 := by
  unfold PktAttrib.hdrlen
  split
  · exact ⟨by decide, by decide⟩
  · exact ⟨by decide, by decide⟩

theorem PktAttrib.sw_icv_len_le (pattrib : PktAttrib) : pattrib.sw_icv_len ≤ 8 := by
  unfold PktAttrib.sw_icv_len
  split
  · exact pattrib.encrypt.icv_len_le
  · exact Nat.zero_le 8

/-- Byte `k` of a packet number, the lowest first. -/
def TSC (k val : Nat) : UInt8 := UInt8.ofNat (val / 256 ^ k)

/-- The counter after one draw, which wraps behind `last`. -/
def pn48_next (last val : Nat) : Nat := if val = last then 0 else (val + 1) % 2 ^ 64

def WEP_IV (dot11txpn keyidx : Nat) : List UInt8 × Nat :=
  let pn := pn48_next 0xffffff dot11txpn
  ([TSC 0 pn, TSC 1 pn, TSC 2 pn, UInt8.ofNat (keyidx % 4 * 64)], pn)

def TKIP_IV (dot11txpn keyidx : Nat) : List UInt8 × Nat :=
  let pn := pn48_next 0xffffffffffff dot11txpn
  ([TSC 1 pn, (TSC 1 pn ||| 0x20) &&& 0x7f, TSC 0 pn, 0x20 ||| UInt8.ofNat (keyidx % 4 * 64),
    TSC 2 pn, TSC 3 pn, TSC 4 pn, TSC 5 pn], pn)

def AES_IV (dot11txpn keyidx : Nat) : List UInt8 × Nat :=
  let pn := pn48_next 0xffffffffffff dot11txpn
  ([TSC 0 pn, TSC 1 pn, 0, 0x20 ||| UInt8.ofNat (keyidx % 4 * 64),
    TSC 2 pn, TSC 3 pn, TSC 4 pn, TSC 5 pn], pn)

/-- The IV of a frame and the counter after it.  Pairwise keys have index 0. -/
def draw_iv (encrypt : Algorithm) (bmcast : Bool) (dot11txpn key_idx : Nat) : List UInt8 × Nat :=
  match encrypt with
  | ._NO_PRIVACY_ => ([], dot11txpn)
  | ._WEP40_ => WEP_IV dot11txpn key_idx
  | ._WEP104_ => WEP_IV dot11txpn key_idx
  | ._TKIP_ => TKIP_IV dot11txpn (if bmcast then key_idx else 0)
  | ._AES_ => AES_IV dot11txpn (if bmcast then key_idx else 0)

theorem length_draw_iv (encrypt : Algorithm) (bmcast : Bool) (dot11txpn key_idx : Nat) :
    (draw_iv encrypt bmcast dot11txpn key_idx).1.length = encrypt.iv_len := by
  cases encrypt <;> rfl

/-! ## Filling in the attributes -/

/-- `GET_ENCRY_ALGO`. -/
def GET_ENCRY_ALGO (psecuritypriv : XmitSecurity) (psta : TxStaInfo) (bmcst : Bool) : Algorithm :=
  match psecuritypriv.dot11AuthAlgrthm with
  | .dot11AuthAlgrthm_8021X =>
      if bmcst then psecuritypriv.dot118021XGrpPrivacy else psta.dot118021XPrivacy
  | _ => psecuritypriv.dot11PrivacyAlgrthm

def sec_info_key_idx (psecuritypriv : XmitSecurity) (psta : TxStaInfo) (bmcast : Bool) : Nat :=
  if psta.ieee8021x_blocked then 0
  else
    match psecuritypriv.dot11AuthAlgrthm with
    | .dot11AuthAlgrthm_8021X => if bmcast then psecuritypriv.dot118021XGrpKeyid else 0
    | .dot11AuthAlgrthm_WAPI => 0
    | _ => psecuritypriv.dot11PrivacyKeyIndex

/-- The cipher of a frame; `none` when the frame has to be dropped. -/
def sec_info_encrypt (padapter : XmitAdapter) (psta : TxStaInfo) (ether_type : UInt16)
    (bmcast : Bool) : Option Algorithm :=
  if psta.ieee8021x_blocked then
    if ether_type ≠ 0x888e then none else some ._NO_PRIVACY_
  else
    let encrypt := GET_ENCRY_ALGO padapter.securitypriv psta bmcast
    if (encrypt = ._WEP40_ ∨ encrypt = ._WEP104_) ∧ ether_type = 0x888e then some ._NO_PRIVACY_
    else if encrypt = ._TKIP_ ∧ !padapter.securitypriv.busetkipkey then none
    else some encrypt

def sec_info_bswenc (padapter : XmitAdapter) (encrypt : Algorithm) (bmcast : Bool) : Bool :=
  encrypt ≠ ._NO_PRIVACY_ &&
    (padapter.securitypriv.sw_encrypt || !padapter.securitypriv.hw_decrypted ||
      (bmcast && padapter.bmc_search_off))

/-- The mask of `qos_acm`: traffic of a class that needs admission is sent in a
lower class. -/
def qos_acm (acm_mask : Nat) (priority : Fin 8) : Fin 8 :=
  if priority = 0 ∨ priority = 3 then if acm_mask.testBit 1 then 1 else priority
  else if priority = 4 ∨ priority = 5 then if acm_mask.testBit 2 then 0 else priority
  else if priority = 6 ∨ priority = 7 then if acm_mask.testBit 3 then 5 else priority
  else priority

/-- The user priority that `set_qos` takes from an IP header. -/
def set_qos (pkt : EtherFrame) : Fin 8 :=
  if pkt.h_proto = 0x0800 then Fin.ofNat 8 ((pkt.payload.getD 1 0).toNat / 32) else 0

def attrib_qos (padapter : XmitAdapter) (psta : TxStaInfo) : Bool :=
  match padapter.fwstate with
  | .WIFI_STATION_STATE => padapter.qos_option
  | _ => psta.qos_option

def attrib_priority (padapter : XmitAdapter) (psta : TxStaInfo) (pkt : EtherFrame) : Fin 8 :=
  if attrib_qos padapter psta then
    match padapter.fwstate with
    | .WIFI_STATION_STATE =>
        if padapter.acm_mask ≠ 0 then qos_acm padapter.acm_mask (set_qos pkt) else set_qos pkt
    | _ => set_qos pkt
  else 0

def attrib_ra (padapter : XmitAdapter) (pkt : EtherFrame) : MacAddr :=
  match padapter.fwstate with
  | .WIFI_STATION_STATE => padapter.bssid
  | _ => pkt.h_dest

def attrib_ta (padapter : XmitAdapter) : MacAddr :=
  match padapter.fwstate with
  | .WIFI_AP_STATE => padapter.bssid
  | _ => padapter.mac_addr

/-- Fill in the attributes of a frame to the station `psta`, and draw its IV. -/
def update_attrib (padapter : XmitAdapter) (psta : TxStaInfo) (pkt : EtherFrame) : Option (PktAttrib × TxStaInfo) :=
  let bmcast := IS_MCAST (attrib_ra padapter pkt)
  if !psta.fw_linked then none
  else
    (sec_info_encrypt padapter psta pkt.h_proto bmcast).map (fun encrypt =>
      let key_idx := sec_info_key_idx padapter.securitypriv psta bmcast
      let drawn := draw_iv encrypt bmcast psta.dot11txpn key_idx
      ({  dst := pkt.h_dest
          src := pkt.h_source
          ta := attrib_ta padapter
          ra := attrib_ra padapter pkt
          ether_type := pkt.h_proto
          pktlen := pkt.payload.length
          qos := attrib_qos padapter psta
          qos_en := psta.qos_option
          priority := attrib_priority padapter psta pkt
          mdata := false
          eosp := false
          encrypt := encrypt
          bswenc := sec_info_bswenc padapter encrypt bmcast
          key_idx := key_idx
          iv := drawn.1
          iv_length := length_draw_iv encrypt bmcast psta.dot11txpn key_idx
          icv := List.replicate encrypt.icv_len 0
          icv_length := List.length_replicate
          dot118021x_UncstKey := psta.dot118021x_UncstKey
          dot11tkiptxmickey := psta.dot11tkiptxmickey },
        { psta with dot11txpn := drawn.2 }))

/-- What the attributes of a frame are. -/
theorem update_attrib_some {padapter : XmitAdapter} {psta after : TxStaInfo} {pkt : EtherFrame}
    {pattrib : PktAttrib} (filled : update_attrib padapter psta pkt = some (pattrib, after)) :
    psta.fw_linked = true ∧
      sec_info_encrypt padapter psta pkt.h_proto pattrib.bmcst = some pattrib.encrypt ∧
      pattrib.iv = (draw_iv pattrib.encrypt pattrib.bmcst psta.dot11txpn pattrib.key_idx).1 ∧
      after = { psta with
        dot11txpn := (draw_iv pattrib.encrypt pattrib.bmcst psta.dot11txpn pattrib.key_idx).2 } ∧
      pattrib.dst = pkt.h_dest ∧ pattrib.src = pkt.h_source ∧
      pattrib.ra = attrib_ra padapter pkt ∧ pattrib.ta = attrib_ta padapter ∧
      pattrib.ether_type = pkt.h_proto ∧ pattrib.pktlen = pkt.payload.length := by
  unfold update_attrib at filled
  dsimp only at filled
  split at filled
  case isTrue refused => exact nomatch filled
  case isFalse linked =>
    rcases Option.map_eq_some_iff.mp filled with ⟨encrypt, chosen, made⟩
    rcases Prod.mk.inj made with ⟨rfl, rfl⟩
    refine ⟨?_, chosen, rfl, rfl, rfl, rfl, rfl, rfl, rfl, rfl⟩
    cases isLinked : psta.fw_linked with
    | true => rfl
    | false => exact absurd (by rw [isLinked]; rfl) linked

def test_addr (last : UInt8) : MacAddr := .ofLast last

/-- A station that is linked under 802.1X with the given cipher, and cuts frames at 256 bytes. -/
def test_adapter (encrypt : Algorithm) (sw_encrypt : Bool) : XmitAdapter where
  fwstate := .WIFI_STATION_STATE
  bssid := test_addr 1
  mac_addr := test_addr 2
  qos_option := true
  acm_mask := 0
  frag_len := ⟨256, Nat.le_refl 256⟩
  securitypriv :=
    { dot11AuthAlgrthm := .dot11AuthAlgrthm_8021X
      dot11PrivacyAlgrthm := encrypt
      dot11PrivacyKeyIndex := 0
      dot11DefKey := fun _ => List.replicate 16 1
      dot118021XGrpPrivacy := encrypt
      dot118021XGrpKeyid := 1
      dot118021XGrpKey := fun _ => List.replicate 16 2
      dot118021XGrptxmickey := fun _ => List.replicate 16 3
      busetkipkey := true
      sw_encrypt := sw_encrypt
      hw_decrypted := true }
  bmc_search_off := false

def test_psta (encrypt : Algorithm) : TxStaInfo where
  fw_linked := true
  qos_option := true
  ieee8021x_blocked := false
  dot118021XPrivacy := encrypt
  dot118021x_UncstKey := List.replicate 16 4
  dot11tkiptxmickey := List.replicate 16 5
  dot11txpn := 0
  txseq_tid := fun _ => 0

def test_pkt (length : Nat) : EtherFrame where
  h_dest := test_addr 3
  h_source := test_addr 2
  h_proto := 0x0800
  payload := List.replicate length 0x45

def test_attrib (encrypt : Algorithm) (sw_encrypt : Bool) (length : Nat) : PktAttrib where
  dst := test_addr 3
  src := test_addr 2
  ta := test_addr 2
  ra := test_addr 1
  ether_type := 0x0800
  pktlen := (test_pkt length).payload.length
  qos := true
  qos_en := true
  priority := attrib_priority (test_adapter encrypt sw_encrypt) (test_psta encrypt) (test_pkt length)
  mdata := false
  eosp := false
  encrypt := encrypt
  bswenc := sec_info_bswenc (test_adapter encrypt sw_encrypt) encrypt false
  key_idx := 0
  iv := (draw_iv encrypt false 0 0).1
  iv_length := length_draw_iv encrypt false 0 0
  icv := List.replicate encrypt.icv_len 0
  icv_length := List.length_replicate
  dot118021x_UncstKey := List.replicate 16 4
  dot11tkiptxmickey := List.replicate 16 5

end Rtl8821ce
