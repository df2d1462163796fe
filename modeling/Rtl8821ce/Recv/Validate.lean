import Rtl8821ce.Recv.Defrag

/-!
# The checks before a frame is taken

`recv_func_prehandle` reads the header of a received frame, looks at its
addresses under the state of the connection, finds its station and drops
duplicates.  The adapter here is out of monitor and test mode, and no
encryption is set up on it: `GET_ENCRY_ALGO` gives `_NO_PRIVACY_`.
-/

namespace Rtl8821ce

/-- What the address checks read of `struct mlme_priv` and of the adapter.
`fw_linked` stands for `_FW_LINKED` or `_FW_UNDER_LINKING`. -/
structure MlmePriv where
  adhoc_state : Bool
  station_state : Bool
  ap_state : Bool
  fw_linked : Bool
  bssid : MacAddr
  adapter_mac_addr : MacAddr
  dot11AuthAlgrthm_8021X : Bool

/-- The answer of the three address checks: `_SUCCESS` comes with the station. -/
structure AddressCheck where
  status : RecvStatus
  psta : Option (Fin NUM_STA)

def foreign_bssid (pmlmepriv : MlmePriv) (pattrib : RxPktAttrib) : Bool :=
  pattrib.bssid = .zero || pmlmepriv.bssid = .zero || pattrib.bssid ≠ pmlmepriv.bssid

/-- Neither `ToDS` nor `FromDS` is set.  Only the last branch of the source
looks for the station of a refused frame, which makes no difference. -/
def sta2sta_data_frame (pmlmepriv : MlmePriv) (pstapriv : StaPriv) (pattrib : RxPktAttrib) : AddressCheck :=
  let bmcast := IS_MCAST pattrib.dst
  let myhwaddr := pmlmepriv.adapter_mac_addr
  let refused : Bool :=
    if pmlmepriv.adhoc_state then
      myhwaddr = pattrib.src || (myhwaddr ≠ pattrib.dst && !bmcast) ||
        foreign_bssid pmlmepriv pattrib
    else if pmlmepriv.station_state then pattrib.bssid ≠ pattrib.src
    else if pmlmepriv.ap_state then
      if bmcast then !IS_MCAST pattrib.bssid else pattrib.bssid ≠ pattrib.dst
    else true
  match rtw_get_stainfo pstapriv pattrib.ta with
  | none => ⟨._FAIL, none⟩
  | some psta => ⟨if refused then ._FAIL else ._SUCCESS, some psta⟩

/-- `FromDS` is set.  `no_data` is `BIT(6)` of the subtype. -/
def ap2sta_data_frame (pmlmepriv : MlmePriv) (pstapriv : StaPriv) (pattrib : RxPktAttrib)
    (no_data : Bool) : AddressCheck :=
  let bmcast := IS_MCAST pattrib.dst
  let myhwaddr := pmlmepriv.adapter_mac_addr
  if pmlmepriv.station_state && pmlmepriv.fw_linked then
    if myhwaddr = pattrib.src then ⟨._FAIL, none⟩
    else if myhwaddr ≠ pattrib.dst && !bmcast then ⟨._FAIL, none⟩
    else if foreign_bssid pmlmepriv pattrib then ⟨._FAIL, none⟩
    else
      match rtw_get_stainfo pstapriv pattrib.ta with
      | none => ⟨._FAIL, none⟩
      | some psta => ⟨if no_data then .RTW_RX_HANDLED else ._SUCCESS, some psta⟩
  else if pmlmepriv.ap_state then ⟨.RTW_RX_HANDLED, none⟩
  else ⟨._FAIL, none⟩

/-- `ToDS` is set. -/
def sta2ap_data_frame (pmlmepriv : MlmePriv) (pstapriv : StaPriv) (pattrib : RxPktAttrib)
    (no_data : Bool) : AddressCheck :=
  if pmlmepriv.ap_state then
    if pattrib.bssid ≠ pmlmepriv.bssid then ⟨._FAIL, none⟩
    else
      match rtw_get_stainfo pstapriv pattrib.ta with
      | none => ⟨.RTW_RX_HANDLED, none⟩
      | some psta => ⟨if no_data then .RTW_RX_HANDLED else ._SUCCESS, some psta⟩
  else ⟨.RTW_RX_HANDLED, none⟩

/-- Drop a frame that repeats the sequence and fragment number of the one
before, and remember them otherwise. -/
def recv_decache (psta : StaInfo) (pattrib : RxPktAttrib) : RecvStatus × StaInfo :=
  let seq_ctrl := 16 * pattrib.seq_num.val + pattrib.frag_num.val
  let tid := pattrib.priority
  if pattrib.qos then
    if IS_MCAST pattrib.ra then
      if seq_ctrl = psta.bmc_tid_rxseq tid then (._FAIL, psta)
      else (._SUCCESS,
        { psta with bmc_tid_rxseq := Function.update psta.bmc_tid_rxseq tid seq_ctrl })
    else
      if seq_ctrl = psta.tid_rxseq tid then (._FAIL, psta)
      else (._SUCCESS, { psta with tid_rxseq := Function.update psta.tid_rxseq tid seq_ctrl })
  else
    if IS_MCAST pattrib.ra then
      if seq_ctrl = psta.nonqos_bmc_rxseq then (._FAIL, psta)
      else (._SUCCESS, { psta with nonqos_bmc_rxseq := seq_ctrl })
    else
      if seq_ctrl = psta.nonqos_rxseq then (._FAIL, psta)
      else (._SUCCESS, { psta with nonqos_rxseq := seq_ctrl })

/-- What the checks answer: the status, the frame with its attributes, and the
stations. -/
structure Validated where
  status : RecvStatus
  precv_frame : RecvFrame
  pstapriv : StaPriv

/-- The addresses of a data frame by `to_fr_ds`. -/
def data_frame_addresses (ptr : List UInt8) (pattrib : RxPktAttrib) : RxPktAttrib :=
  let addressed := { pattrib with ra := GetAddr1Ptr ptr, ta := get_addr2_ptr ptr }
  if pattrib.to_fr_ds = 0 then
    { addressed with
      dst := GetAddr1Ptr ptr, src := get_addr2_ptr ptr, bssid := GetAddr3Ptr ptr }
  else if pattrib.to_fr_ds = 1 then
    { addressed with
      dst := GetAddr1Ptr ptr, src := GetAddr3Ptr ptr, bssid := get_addr2_ptr ptr }
  else if pattrib.to_fr_ds = 2 then
    { addressed with
      dst := GetAddr3Ptr ptr, src := get_addr2_ptr ptr, bssid := GetAddr1Ptr ptr }
  else pattrib

theorem data_frame_addresses_eq (ptr : List UInt8) (pattrib : RxPktAttrib) :
    ∃ dst src ta ra, ∃ bssid,
      data_frame_addresses ptr pattrib =
        { pattrib with dst := dst, src := src, ta := ta, ra := ra, bssid := bssid } := by
  unfold data_frame_addresses
  dsimp only
  split
  · exact ⟨_, _, _, _, _, rfl⟩
  · split
    · exact ⟨_, _, _, _, _, rfl⟩
    · split
      · exact ⟨_, _, _, _, _, rfl⟩
      · exact ⟨_, _, _, _, _, rfl⟩

/-- The fields that depend on the QoS control and the order bit, and those of a
frame without encryption. -/
def data_frame_lengths (ptr : List UInt8) (pattrib : RxPktAttrib) : RxPktAttrib :=
  let hdrlen := (if pattrib.qos then 26 else 24) + (if GetOrder ptr then 4 else 0)
  { pattrib with
    amsdu := pattrib.qos && GetAMsdu (ptr.drop 24)
    priority := if pattrib.qos then GetPriority (ptr.drop 24) else 0
    hdrlen := hdrlen
    encrypt := ._NO_PRIVACY_
    iv_len := 0
    icv_len := 0 }

def validate_recv_data_frame (pmlmepriv : MlmePriv) (pstapriv : StaPriv) (precv_frame : RecvFrame) : Validated :=
  let ptr := precv_frame.rx_data
  let no_data := get_frame_sub_type ptr &&& 0x40 != 0
  let addressed := data_frame_addresses ptr precv_frame.attrib
  let checked :=
    if addressed.to_fr_ds = 0 then sta2sta_data_frame pmlmepriv pstapriv addressed
    else if addressed.to_fr_ds = 1 then ap2sta_data_frame pmlmepriv pstapriv addressed no_data
    else if addressed.to_fr_ds = 2 then sta2ap_data_frame pmlmepriv pstapriv addressed no_data
    else ⟨._FAIL, none⟩   -- WDS is not supported
  match checked with
  | ⟨._SUCCESS, some psta⟩ =>
      let pattrib := data_frame_lengths ptr addressed
      match recv_decache (pstapriv.pstainfo_buf psta) pattrib with
      | (._SUCCESS, record) =>
          ⟨._SUCCESS,
            { precv_frame with
              attrib := pattrib
              preorder_ctrl :=
                if !IS_MCAST pattrib.ra && pattrib.qos then some (psta, pattrib.priority)
                else none },
            pstapriv.modify psta (fun _ => record)⟩
      | (status, _) =>
          ⟨status, { precv_frame with attrib := pattrib, preorder_ctrl := none }, pstapriv⟩
  | ⟨._SUCCESS, none⟩ => ⟨._FAIL, { precv_frame with attrib := addressed }, pstapriv⟩
  | ⟨status, _⟩ => ⟨status, { precv_frame with attrib := addressed }, pstapriv⟩

/-- A frame that passed the first checks has the attributes of its header. -/
theorem validate_recv_data_frame_success {pmlmepriv : MlmePriv} {pstapriv : StaPriv} {precv_frame : RecvFrame}
    (success : (validate_recv_data_frame pmlmepriv pstapriv precv_frame).status = ._SUCCESS) :
    (∃ preorder_ctrl,
      (validate_recv_data_frame pmlmepriv pstapriv precv_frame).precv_frame =
        { precv_frame with
          attrib := data_frame_lengths precv_frame.rx_data
            (data_frame_addresses precv_frame.rx_data precv_frame.attrib)
          preorder_ctrl := preorder_ctrl }) ∧
      precv_frame.attrib.to_fr_ds ≤ 2 := by
  have sameDs : (data_frame_addresses precv_frame.rx_data precv_frame.attrib).to_fr_ds =
      precv_frame.attrib.to_fr_ds := by
    rcases data_frame_addresses_eq precv_frame.rx_data precv_frame.attrib with ⟨dst, src, ta, ra, bssid, addressed⟩
    rw [addressed]
  unfold validate_recv_data_frame at success ⊢
  dsimp only at success ⊢
  generalize isAddressed : data_frame_addresses precv_frame.rx_data precv_frame.attrib = addressed
    at success sameDs ⊢
  rw [← sameDs]
  split at success
  case h_1 checked psta found =>
    have supported : addressed.to_fr_ds ≤ 2 := by
      by_contra unsupported
      rw [if_neg (by omega), if_neg (by omega), if_neg (by omega)] at found
      exact nomatch found
    split at success
    case h_1 decached record passed =>
      exact ⟨⟨_, rfl⟩, supported⟩
    case h_2 decached status record failed notPassed =>
      exact (failed success).elim
  case h_2 checked found => exact nomatch success
  case h_3 whole status psta withStation withoutStation found =>
    cases psta with
    | none => exact (withoutStation success rfl).elim
    | some psta => exact (withStation psta success rfl).elim

/-- The fields that `validate_recv_frame` reads for every type of frame. -/
def frame_control_attrib (ptr : List UInt8) (pattrib : RxPktAttrib) : RxPktAttrib :=
  { pattrib with
    to_fr_ds := get_tofr_ds ptr
    frag_num := GetFragNum ptr
    seq_num := GetSequence ptr
    mfrag := GetMFrag ptr
    privacy := GetPrivacy ptr }

end Rtl8821ce
