import Rtl8821ce.Recv.Decryptor
import Rtl8821ce.Security.Bip
import Rtl8821ce.Library.Run
import Rtl8821ce.Xmit.Attrib

/-!
# Protected management frames

`validate_mgmt_protect` stands before every use of a management frame.  The protected bit,
the receiver address, the subtype and the category of an action frame select what it does:
let the frame pass, drop it, check the element at its end, or decrypt it.  The driver is a
station without mesh.
-/

namespace Rtl8821ce
namespace Decrypt

def WLAN_STA_MFP : UInt32 := 0x400

/-- The fields of `struct sta_info` that the check reads. -/
structure MgmtSta where
  mac_addr : MacAddr
  flags : UInt32
  bpairwise_key_installed : Bool

def MgmtSta.mfp (psta : MgmtSta) : Bool := psta.flags &&& WLAN_STA_MFP != 0

/-- The fields of `struct security_priv` that belong to the key of group addressed management
frames. -/
structure BipSecurity where
  binstallBIPkey : Bool
  dot11wBIPKeyid : UInt32
  dot11wBIPKey : Nat -> List UInt8
  dot11wBIPrxpn : Nat

/-- A received frame, with the length of the descriptor. -/
structure MgmtFrame where
  precv_frame : RecvFrame
  pkt_len : UInt16

/-- What the check uses besides: both block ciphers, the keys, the static buffer of the
decryption, the stations, and the answers of the allocator. -/
structure MgmtEnv where
  decrypt : DecryptEnv
  psecuritypriv : RxSecurity
  message : Nat -> UInt8
  aes_128_encrypt : List UInt8 -> Block -> Block
  rtw_malloc : Nat -> Bool
  rtw_get_stainfo : MacAddr -> Option MgmtSta

def WIFI_DISASSOC : Nat := 0xa0
def WIFI_DEAUTH : Nat := 0xc0
def WIFI_ACTION : Nat := 0xd0

def RTW_WLAN_CATEGORY_PUBLIC : UInt8 := 4
def RTW_WLAN_CATEGORY_HT : UInt8 := 7
def RTW_WLAN_CATEGORY_UNPROTECTED_WNM : UInt8 := 11
def RTW_WLAN_CATEGORY_MESH : UInt8 := 13
def RTW_WLAN_CATEGORY_MULTIHOP : UInt8 := 14
def RTW_WLAN_CATEGORY_SELF_PROTECTED : UInt8 := 15
def RTW_WLAN_CATEGORY_VHT : UInt8 := 21
def RTW_WLAN_CATEGORY_P2P : UInt8 := 0x7f

def CATEGORY_IS_GROUP_PRIVACY (cat : UInt8) : Bool :=
  cat == RTW_WLAN_CATEGORY_MESH || cat == RTW_WLAN_CATEGORY_MULTIHOP

def CATEGORY_IS_NON_ROBUST (cat : UInt8) : Bool :=
  cat == RTW_WLAN_CATEGORY_PUBLIC || cat == RTW_WLAN_CATEGORY_HT ||
    cat == RTW_WLAN_CATEGORY_UNPROTECTED_WNM || cat == RTW_WLAN_CATEGORY_SELF_PROTECTED ||
    cat == RTW_WLAN_CATEGORY_VHT || cat == RTW_WLAN_CATEGORY_P2P

def CATEGORY_IS_ROBUST (cat : UInt8) : Bool := !CATEGORY_IS_NON_ROBUST cat

/-- The labels of the function. -/
inductive Label
  | bip_verify
  | exit
  | fail
deriving DecidableEq, Repr

def unprotected_label (psta : Option MgmtSta) (subtype : Nat) (is_bmc : Bool) (category : UInt8) : Label :=
  match psta with
  | none => .exit
  | some psta =>
      if !psta.mfp then .exit
      else if is_bmc then
        if subtype = WIFI_ACTION ∧ CATEGORY_IS_GROUP_PRIVACY category = true then .fail
        else if subtype = WIFI_ACTION ∧ CATEGORY_IS_ROBUST category = true then .bip_verify
        else if subtype = WIFI_DEAUTH ∨ subtype = WIFI_DISASSOC then .bip_verify
        else .exit
      else if subtype = WIFI_DEAUTH ∨ subtype = WIFI_DISASSOC then .fail
      else if subtype = WIFI_ACTION ∧ CATEGORY_IS_ROBUST category = true ∧
          psta.bpairwise_key_installed = true then .fail
      else .exit

/-- The station that is asked for its association, when a frame of it was dropped that says
that there is none. -/
def sa_query_station (psta : Option MgmtSta) (subtype : Nat) (is_bmc : Bool) (reason : Nat) : Option MacAddr :=
  psta.bind (fun psta =>
    if psta.mfp ∧ is_bmc = false ∧ (subtype = WIFI_DEAUTH ∨ subtype = WIFI_DISASSOC) ∧
        (reason = 6 ∨ reason = 7) then
      some psta.mac_addr
    else none)

/-- What the function leaves behind; a frame that is gone was freed. -/
structure MgmtOutcome where
  ret : RecvStatus
  sec : BipSecurity
  psecuritypriv : RxSecurity
  message : Nat -> UInt8
  frame : Option MgmtFrame
  sa_query : Option MacAddr

def leave (env : MgmtEnv) (sec : BipSecurity) (frame : MgmtFrame) (ret : RecvStatus)
    (sa_query : Option MacAddr) : MgmtOutcome where
  ret := ret
  sec := sec
  psecuritypriv := env.psecuritypriv
  message := env.message
  frame := some frame
  sa_query := sa_query

def ccmp_frame (frame : MgmtFrame) : MgmtFrame :=
  let ptr := frame.precv_frame.rx_data
  { frame with
    precv_frame :=
      { frame.precv_frame with
        attrib :=
          { frame.precv_frame.attrib with
            bdecrypted := false
            encrypt := ._AES_
            hdrlen := WLAN_HDR_A3_LEN
            iv_len := Algorithm._AES_.iv_len
            icv_len := Algorithm._AES_.icv_len
            ra := GetAddr1Ptr ptr
            ta := get_addr2_ptr ptr } } }

/-- Move the body over the IV and take both lengths off the length of the descriptor. -/
def strip_iv (env : MgmtEnv) (data_len : Nat) (frame : MgmtFrame) : MgmtFrame :=
  let ptr := frame_memory frame.precv_frame env.decrypt.behind
  let hdrlen := frame.precv_frame.attrib.hdrlen
  let mgmt_DATA := Memory.read ptr (hdrlen + frame.precv_frame.attrib.iv_len) data_len
  { precv_frame :=
      { frame.precv_frame with
        rx_data := Memory.read (Memory.write ptr hdrlen mgmt_DATA) 0 frame.precv_frame.len }
    pkt_len := frame.pkt_len - 16 }

/-- The part for protected frames.  The length of the body wraps for a frame that is too
short, and the copies do not end well then: there is no outcome if the memory for them was
there. -/
def decrypt_mgmt (env : MgmtEnv) (sec : BipSecurity) (frame : MgmtFrame) : Option MgmtOutcome :=
  let frame := ccmp_frame frame
  let data_len := frame.pkt_len.toUInt32 - 24 - 8 - 8
  if !env.rtw_malloc data_len.toNat then some (leave env sec frame ._FAIL none)
  else if frame.pkt_len < 40 then none
  else
    (decryptor env.decrypt env.psecuritypriv env.message frame.precv_frame).map (fun done =>
      { ret := if done.return_packet.isSome then ._SUCCESS else ._FAIL
        sec := sec
        psecuritypriv := done.psecuritypriv
        message := done.message
        frame := done.return_packet.map (fun precv_frame =>
          strip_iv env data_len.toNat { frame with precv_frame := precv_frame })
        sa_query := none })

/-- The first byte of the body, which may be behind the end of the frame. -/
def category_at (env : MgmtEnv) (frame : MgmtFrame) : UInt8 :=
  frame_memory frame.precv_frame env.decrypt.behind WLAN_HDR_A3_LEN

def reason_at (env : MgmtEnv) (frame : MgmtFrame) : Nat :=
  le16_to_cpu (Memory.read (frame_memory frame.precv_frame env.decrypt.behind) WLAN_HDR_A3_LEN 2)

/-- `none` stands for a function that ran out of the frame. -/
def validate_mgmt_protect (env : MgmtEnv) (sec : BipSecurity) (psta : Option MgmtSta) (frame : MgmtFrame) :
    Option MgmtOutcome :=
  if !sec.binstallBIPkey then some (leave env sec frame ._SUCCESS none)
  else
    let ptr := frame.precv_frame.rx_data
    let subtype := get_frame_sub_type ptr
    let is_bmc := IS_MCAST (GetAddr1Ptr ptr)
    if !frame.precv_frame.attrib.privacy then
      let category := if subtype = WIFI_ACTION then category_at env frame else 0xFF
      match unprotected_label psta subtype is_bmc category with
      | .exit => some (leave env sec frame ._SUCCESS none)
      | .fail => some (leave env sec frame ._FAIL (sa_query_station psta subtype is_bmc (reason_at env frame)))
      | .bip_verify =>
          let igtk := sec.dot11wBIPKey sec.dot11wBIPKeyid.toNat
          let igtk_id := sec.dot11wBIPKeyid.toUInt16
          let verified := rtw_BIP_verify env.rtw_malloc env.aes_128_encrypt ptr igtk igtk_id.toNat sec.dot11wBIPrxpn
          some (leave env { sec with dot11wBIPrxpn := verified.2 } frame
            (if verified.1 = ._SUCCESS then ._SUCCESS else ._FAIL) none)
    else decrypt_mgmt env sec frame

def Leaves (frame : MgmtFrame) : Prop :=
  get_frame_sub_type frame.precv_frame.rx_data = WIFI_DEAUTH ∨
    get_frame_sub_type frame.precv_frame.rx_data = WIFI_DISASSOC

def RobustAction (env : MgmtEnv) (frame : MgmtFrame) : Prop :=
  get_frame_sub_type frame.precv_frame.rx_data = WIFI_ACTION ∧
    CATEGORY_IS_ROBUST (category_at env frame) = true

def GroupAddressed (frame : MgmtFrame) : Prop := IS_MCAST (GetAddr1Ptr frame.precv_frame.rx_data) = true

/-- The frame is not protected, but its station protects frames. -/
structure Unprotected (psta : MgmtSta) (frame : MgmtFrame) : Prop where
  privacy : frame.precv_frame.attrib.privacy = false
  mfp : psta.mfp = true

instance (frame : MgmtFrame) : Decidable (Leaves frame) := inferInstanceAs (Decidable (_ ∨ _))
instance (env : MgmtEnv) (frame : MgmtFrame) : Decidable (RobustAction env frame) :=
  inferInstanceAs (Decidable (_ ∧ _))
instance (frame : MgmtFrame) : Decidable (GroupAddressed frame) := inferInstanceAs (Decidable (_ = _))
instance (psta : MgmtSta) (frame : MgmtFrame) : Decidable (Unprotected psta frame) :=
  decidable_of_iff (frame.precv_frame.attrib.privacy = false ∧ psta.mfp = true)
    ⟨fun both => ⟨both.1, both.2⟩, fun unprotected => ⟨unprotected.privacy, unprotected.mfp⟩⟩

/-- The frame has to end with the element of its code. -/
def NeedsCode (env : MgmtEnv) (psta : MgmtSta) (frame : MgmtFrame) : Prop :=
  Unprotected psta frame ∧ GroupAddressed frame ∧ (Leaves frame ∨ RobustAction env frame)

instance (env : MgmtEnv) (psta : MgmtSta) (frame : MgmtFrame) : Decidable (NeedsCode env psta frame) :=
  inferInstanceAs (Decidable (_ ∧ _))

/-- The code of the frame is checked against the installed key. -/
def CodeVerified (env : MgmtEnv) (sec : BipSecurity) (frame : MgmtFrame) : Prop :=
  BipVerified env.aes_128_encrypt frame.precv_frame.rx_data (sec.dot11wBIPKey sec.dot11wBIPKeyid.toNat)
    sec.dot11wBIPKeyid.toUInt16.toNat sec.dot11wBIPrxpn

section outcome

variable {env : MgmtEnv} {sec : BipSecurity} {psta : MgmtSta} {frame : MgmtFrame} {outcome : MgmtOutcome}

theorem validate_unprotected (installed : sec.binstallBIPkey = true) (psta : Option MgmtSta)
    (privacy : frame.precv_frame.attrib.privacy = false) :
    validate_mgmt_protect env sec psta frame =
      match unprotected_label psta (get_frame_sub_type frame.precv_frame.rx_data)
          (IS_MCAST (GetAddr1Ptr frame.precv_frame.rx_data))
          (if get_frame_sub_type frame.precv_frame.rx_data = WIFI_ACTION then category_at env frame else 0xFF) with
      | .exit => some (leave env sec frame ._SUCCESS none)
      | .fail =>
          some (leave env sec frame ._FAIL
            (sa_query_station psta (get_frame_sub_type frame.precv_frame.rx_data)
              (IS_MCAST (GetAddr1Ptr frame.precv_frame.rx_data)) (reason_at env frame)))
      | .bip_verify =>
          let verified := rtw_BIP_verify env.rtw_malloc env.aes_128_encrypt frame.precv_frame.rx_data
            (sec.dot11wBIPKey sec.dot11wBIPKeyid.toNat) sec.dot11wBIPKeyid.toUInt16.toNat sec.dot11wBIPrxpn
          some (leave env { sec with dot11wBIPrxpn := verified.2 } frame
            (if verified.1 = ._SUCCESS then ._SUCCESS else ._FAIL) none) := by
  unfold validate_mgmt_protect
  rw [installed, privacy]
  rfl

theorem validate_protected (installed : sec.binstallBIPkey = true) (psta : Option MgmtSta)
    (privacy : frame.precv_frame.attrib.privacy = true) :
    validate_mgmt_protect env sec psta frame = decrypt_mgmt env sec frame := by
  unfold validate_mgmt_protect
  rw [installed, privacy]
  rfl

theorem leave_not_action {subtype : Nat} (leaves : subtype = WIFI_DEAUTH ∨ subtype = WIFI_DISASSOC) :
    subtype ≠ WIFI_ACTION := by
  rcases leaves with rfl | rfl <;> decide

theorem label_of_needs_code (needs : NeedsCode env psta frame) :
    let label := unprotected_label (some psta) (get_frame_sub_type frame.precv_frame.rx_data)
      (IS_MCAST (GetAddr1Ptr frame.precv_frame.rx_data))
      (if get_frame_sub_type frame.precv_frame.rx_data = WIFI_ACTION then category_at env frame else 0xFF)
    label = .bip_verify ∨ label = .fail := by
  intro label
  rcases needs with ⟨unprotected, group, kind⟩
  unfold GroupAddressed at group
  simp only [label, unprotected_label, unprotected.mfp, group, Bool.not_true, Bool.false_eq_true, if_false, if_true]
  rcases kind with leaves | ⟨action, robust⟩
  · have other := leave_not_action leaves
    rw [if_neg (fun both => other both.1), if_neg (fun both => other both.1)]
    exact Or.inl (if_pos leaves)
  · rw [if_pos action]
    split
    case isTrue privacy => exact Or.inr rfl
    case isFalse => exact Or.inl (if_pos ⟨action, robust⟩)

theorem answer_success_iff (verified : RecvStatus) :
    (if verified = ._SUCCESS then ._SUCCESS else ._FAIL : RecvStatus) = ._SUCCESS <-> verified = ._SUCCESS := by
  cases verified <;> decide

/-- What the check does to the stored number: it takes the number of a frame that carries its
code, or it keeps the number. -/
theorem validate_rxpn (installed : sec.binstallBIPkey = true) {psta : Option MgmtSta}
    (whole : WLAN_HDR_A3_LEN ≤ frame.precv_frame.len)
    (ran : validate_mgmt_protect env sec psta frame = some outcome) :
    outcome.sec = sec ∨ (outcome.ret = ._SUCCESS ∧ CodeVerified env sec frame ∧
      outcome.sec = { sec with dot11wBIPrxpn := mme_ipn frame.precv_frame.rx_data }) := by
  cases privacy : frame.precv_frame.attrib.privacy with
  | true =>
      rw [validate_protected installed psta privacy] at ran
      unfold decrypt_mgmt at ran
      dsimp only at ran
      split at ran
      case isTrue => exact Or.inl (by rw [← Option.some.inj ran]; rfl)
      case isFalse =>
        split at ran
        case isTrue => cases ran
        case isFalse =>
          rcases Option.map_eq_some_iff.mp ran with ⟨done, _, result⟩
          exact Or.inl (by rw [← result])
  | false =>
      rw [validate_unprotected installed psta privacy] at ran
      split at ran
      · exact Or.inl (by rw [← Option.some.inj ran]; rfl)
      · exact Or.inl (by rw [← Option.some.inj ran]; rfl)
      · rw [← Option.some.inj ran]
        have number := @rtw_BIP_verify_ipn env.rtw_malloc env.aes_128_encrypt frame.precv_frame.rx_data
          (sec.dot11wBIPKey sec.dot11wBIPKeyid.toNat) sec.dot11wBIPKeyid.toUInt16.toNat sec.dot11wBIPrxpn
        split at number
        case isTrue verified =>
          refine Or.inr ⟨(answer_success_iff _).mpr verified, ((rtw_BIP_verify_success_iff whole).mp verified).2, ?_⟩
          simp only [leave, number]
        case isFalse => exact Or.inl (by simp only [leave, number])

theorem accepted_needs_code (installed : sec.binstallBIPkey = true) (needs : NeedsCode env psta frame)
    (whole : WLAN_HDR_A3_LEN ≤ frame.precv_frame.len)
    (ran : validate_mgmt_protect env sec (some psta) frame = some outcome) (success : outcome.ret = ._SUCCESS) :
    CodeVerified env sec frame ∧ outcome.sec.dot11wBIPrxpn = mme_ipn frame.precv_frame.rx_data := by
  rw [validate_unprotected installed (some psta) needs.1.privacy] at ran
  rcases label_of_needs_code needs with check | drop
  · rw [check] at ran
    dsimp only at ran
    rw [← Option.some.inj ran] at success ⊢
    have verified := (answer_success_iff _).mp success
    refine ⟨((rtw_BIP_verify_success_iff whole).mp verified).2, ?_⟩
    exact rtw_BIP_verify_ipn.trans (if_pos verified)
  · rw [drop] at ran
    rw [← Option.some.inj ran] at success
    cases success

end outcome

/-- A received frame, as `validate_recv_frame` passes it on, and everything but the key of
group addressed management frames as it is then. -/
structure MgmtArrival where
  env : MgmtEnv
  frame : MgmtFrame
  whole : WLAN_HDR_A3_LEN ≤ frame.precv_frame.len
  privacy : frame.precv_frame.attrib.privacy = GetPrivacy frame.precv_frame.rx_data

/-- The station that `validate_recv_mgnt_frame` finds. -/
def MgmtArrival.psta (arrived : MgmtArrival) : Option MgmtSta :=
  arrived.env.rtw_get_stainfo (get_addr2_ptr arrived.frame.precv_frame.rx_data)

/-- The key between two frames, and the numbers of the frames that were accepted with their
code, newest first. -/
structure MgmtRun where
  sec : BipSecurity
  accepted : List Nat

def MgmtRun.validated (run : MgmtRun) (arrived : MgmtArrival) : Option MgmtOutcome :=
  validate_mgmt_protect arrived.env run.sec arrived.psta arrived.frame

def MgmtRun.step (run : MgmtRun) (arrived : MgmtArrival) : MgmtRun :=
  match run.validated arrived with
  | none => run
  | some outcome =>
      { sec := outcome.sec
        accepted :=
          if outcome.ret = ._SUCCESS ∧
              arrived.psta.any (fun psta => decide (NeedsCode arrived.env psta arrived.frame)) = true then
            mme_ipn arrived.frame.precv_frame.rx_data :: run.accepted
          else run.accepted }

/-- The key is there, and no accepted number is larger than the stored one. -/
structure MgmtRun.Stored (run : MgmtRun) : Prop where
  installed : run.sec.binstallBIPkey = true
  below : ∀ earlier ∈ run.accepted, earlier ≤ run.sec.dot11wBIPrxpn

theorem MgmtRun.Stored.step {run : MgmtRun} (stored : run.Stored) (arrived : MgmtArrival) :
    (run.step arrived).Stored := by
  unfold MgmtRun.step
  cases ran : run.validated arrived with
  | none => exact stored
  | some outcome =>
      dsimp only
      have grows : run.sec.dot11wBIPrxpn ≤ outcome.sec.dot11wBIPrxpn ∧ outcome.sec.binstallBIPkey = true := by
        rcases validate_rxpn stored.installed arrived.whole ran with kept | ⟨_, verified, taken⟩
        · rw [kept]
          exact ⟨Nat.le_refl _, stored.installed⟩
        · rw [taken]
          exact ⟨Nat.le_of_lt verified.fresh, stored.installed⟩
      refine ⟨grows.2, ?_⟩
      split
      case isFalse => exact fun earlier member => Nat.le_trans (stored.below earlier member) grows.1
      case isTrue coded =>
        rcases coded with ⟨success, needs⟩
        unfold MgmtRun.validated at ran
        cases found : arrived.psta with
        | none =>
            rw [found] at needs
            cases needs
        | some psta =>
            rw [found] at needs ran
            have number := (accepted_needs_code stored.installed (of_decide_eq_true needs) arrived.whole ran success).2
            intro earlier member
            rcases List.mem_cons.mp member with rfl | before
            · exact Nat.le_of_eq number.symm
            · exact Nat.le_trans (stored.below earlier before) grows.1

end Decrypt
end Rtl8821ce
