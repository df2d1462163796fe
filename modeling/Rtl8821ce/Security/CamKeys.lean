import Rtl8821ce.Library.Run
import Rtl8821ce.Library.Scanner
import Rtl8821ce.Recv.Station
import Rtl8821ce.Security.CamCtl

/-!
# Keys in the security CAM

`setkey_hdl` installs group keys and WEP keys, `set_stakey_hdl` the keys of a
station.  Both look for an entry with the same key first and take an unused entry
otherwise.  The entries of the default keys are the first four.
-/

namespace Rtl8821ce

open Scanner

def _NO_PRIVACY_ : BitVec 8 := 0x0
def _WEP40_ : BitVec 8 := 0x1
def _WEP104_ : BitVec 8 := 0x5

def is_wep_enc (alg : BitVec 8) : Bool := alg = _WEP40_ || alg = _WEP104_

namespace SecCamEnt

/-- The key id, `ctrl & 0x03`. -/
def kid (ent : SecCamEnt) : BitVec 16 := ent.ctrl &&& 0x03

/-- `BIT6` of `ctrl`. -/
def gk (ent : SecCamEnt) : Bool := ent.ctrl.getLsbD 6

/-- `BIT(15)` of `ctrl`. -/
def valid (ent : SecCamEnt) : Bool := ent.ctrl.getLsbD 15

end SecCamEnt

/-- `write_cam`: the table of the hardware and its copy. -/
def write_cam (cam_ctl : CamCtl) (id : Nat) (ent : SecCamEnt) : CamCtl :=
  { cam_ctl with
    cam := Function.update cam_ctl.cam id ent
    cam_cache := Function.update cam_ctl.cam_cache id ent }

def clear_cam_entry (cam_ctl : CamCtl) (id : Nat) : CamCtl := write_cam cam_ctl id .zero

def rtw_camid_is_gk (cam_ctl : CamCtl) (cam_id : Nat) : Bool :=
  if rtw_sec_camid_is_used cam_ctl cam_id then (cam_ctl.cam_cache cam_id).gk else false

/-- A key id or a group flag that is not given (-1) matches every entry. -/
def cam_cache_chk (cam_ctl : CamCtl) (addr : MacAddr) (kid : Option (BitVec 8)) (gk : Option Bool)
    (id : Nat) : Bool :=
  if (cam_ctl.cam_cache id).mac ≠ addr then false
  else if kid.any (fun kid => kid.zeroExtend 16 ≠ (cam_ctl.cam_cache id).kid) then false
  else if gk.any (fun gk => gk ≠ rtw_camid_is_gk cam_ctl id) then false
  else true

def rtw_camid_search (cam_ctl : CamCtl) (addr : MacAddr) (kid : Option (BitVec 8)) (gk : Option Bool) : Option Nat :=
  (List.range cam_ctl.num).find? (cam_cache_chk cam_ctl addr kid gk)

/-- The entry of a key, or the first unused one behind the default keys. -/
def rtw_get_camid (cam_ctl : CamCtl) (addr : MacAddr) (kid : BitVec 8) (gk : Bool) : Option Nat :=
  match rtw_camid_search cam_ctl addr (some kid) (if cam_ctl.chk_bmc then some gk else none) with
  | some i => some i
  | none =>
      (List.range cam_ctl.num).find? (fun i => decide (4 ≤ i) && !rtw_sec_camid_is_used cam_ctl i)

def rtw_camid_free (cam_ctl : CamCtl) (cam_id : Nat) : CamCtl :=
  if cam_id < cam_ctl.num then rtw_sec_cam_map_clr cam_ctl cam_id else cam_ctl

/-- The values of `state & 0x03`. -/
inductive HwState
  | _HW_STATE_NOLINK_
  | _HW_STATE_ADHOC_
  | _HW_STATE_STATION_
  | _HW_STATE_AP_
deriving DecidableEq

/-- What a key command reads of its adapter.  `assoc_success` is
`WIFI_FW_ASSOC_SUCCESS` of `state`. -/
structure KeyEnv where
  hw_state : HwState
  assoc_success : Bool
  bssid : MacAddr
  adapter_mac_addr : MacAddr
  stapriv : StaPriv

def KeyEnv.beaconing (env : KeyEnv) : Bool :=
  env.hw_state = ._HW_STATE_AP_ || env.hw_state = ._HW_STATE_ADHOC_

/-- The entry for a key, before the bitmap is looked at. -/
def assigned_camid (env : KeyEnv) (cam_ctl : CamCtl) (sta : Option (Fin NUM_STA)) (kid : BitVec 8)
    (gk : Bool) : Option Nat :=
  match sta with
  | some sta => rtw_get_camid cam_ctl (env.stapriv.pstainfo_buf sta).mac_addr kid gk
  | none =>
      if env.beaconing then
        if 3 < kid.toNat then none else some kid.toNat
      else if env.assoc_success then rtw_get_camid cam_ctl env.bssid kid gk
      else none

/-- The entry that is marked used, with whether it was used before. -/
def rtw_camid_alloc (env : KeyEnv) (cam_ctl : CamCtl) (sta : Option (Fin NUM_STA)) (kid : BitVec 8)
    (gk : Bool) : CamCtl × Option (Nat × Bool) :=
  match assigned_camid env cam_ctl sta kid gk with
  | none => (cam_ctl, none)
  | some cam_id =>
      (rtw_sec_cam_map_set cam_ctl cam_id, some (cam_id, rtw_sec_camid_is_used cam_ctl cam_id))

/-- One round of the loops that clear the keys of an address. -/
def clear_key_body (addr : MacAddr) (gk : Option Bool) (cam_ctl : CamCtl) : Iteration CamCtl CamCtl :=
  match rtw_camid_search cam_ctl addr none gk with
  | none => .done cam_ctl
  | some cam_id => .more (rtw_camid_free (clear_cam_entry cam_ctl cam_id) cam_id)

/-- Clear the keys of an address.  There is no result when the loop does not end. -/
def clear_keys (cam_ctl : CamCtl) (addr : MacAddr) (gk : Option Bool) : Option CamCtl :=
  scan (clear_key_body addr gk) (cam_ctl.num + 1) cam_ctl

/-- `BIT(15) | (BIT(6)) | (algorithm << 2) | keyid`. -/
def key_ctrl (gk : Bool) (algorithm keyid : BitVec 8) : BitVec 16 :=
  BitVec.twoPow 16 15 ||| (if gk then BitVec.twoPow 16 6 else 0) |||
    (algorithm.zeroExtend 16 <<< 2) ||| keyid.zeroExtend 16

/-- `struct set_stakey_parm`. -/
structure SetStakeyParm where
  addr : MacAddr
  algorithm : BitVec 8
  keyid : BitVec 8
  key : List UInt8
  gk : Bool
deriving DecidableEq

inductive KeyResult
  | H2C_SUCCESS
  | H2C_REJECTED
  | H2C_SUCCESS_RSP
deriving DecidableEq

/-- A pairwise key that meets the group key with the same id: no group key of the
station stays. -/
def clear_conflicting (cam_ctl : CamCtl) (pparm : SetStakeyParm) (cam_id : Nat) (used : Bool) : Option CamCtl :=
  if !pparm.gk && used && rtw_camid_is_gk cam_ctl cam_id then
    clear_keys { cam_ctl with conflict := true } pparm.addr (some true)
  else some cam_ctl

def set_stakey_hdl (env : KeyEnv) (cam_ctl : CamCtl) (pparm : SetStakeyParm) : Option (CamCtl × KeyResult) :=
  if pparm.algorithm = _NO_PRIVACY_ then
    (clear_keys cam_ctl pparm.addr none).map (·, .H2C_SUCCESS_RSP)
  else
    match rtw_get_stainfo env.stapriv pparm.addr with
    | none => some (cam_ctl, .H2C_REJECTED)
    | some psta =>
        match rtw_camid_alloc env cam_ctl (some psta) pparm.keyid pparm.gk with
        | (cam_ctl, none) => some (cam_ctl, .H2C_SUCCESS)
        | (cam_ctl, some (cam_id, used)) =>
            (clear_conflicting cam_ctl pparm cam_id used).map (fun cam_ctl =>
              (write_cam cam_ctl cam_id
                ⟨key_ctrl pparm.gk pparm.algorithm pparm.keyid, pparm.addr, pparm.key⟩,
                .H2C_SUCCESS_RSP))

/-- `struct setkey_parm`. -/
structure SetkeyParm where
  algorithm : BitVec 8
  keyid : BitVec 8
  key : List UInt8
deriving DecidableEq

def group_key_addr (env : KeyEnv) (cam_id : Nat) : MacAddr :=
  if cam_id ≤ 3 then .zero else if env.beaconing then env.adapter_mac_addr else env.bssid

/-- The WEP key of a station goes into an entry for the access point too. -/
def set_wep_pairwise (env : KeyEnv) (cam_ctl : CamCtl) (pparm : SetkeyParm) : Option CamCtl :=
  if is_wep_enc pparm.algorithm && env.hw_state = ._HW_STATE_STATION_ && cam_ctl.chk_bmc then
    (set_stakey_hdl env cam_ctl ⟨env.bssid, pparm.algorithm, pparm.keyid, pparm.key, false⟩).map (·.1)
  else some cam_ctl

def setkey_hdl (env : KeyEnv) (cam_ctl : CamCtl) (pparm : SetkeyParm) : Option CamCtl :=
  match rtw_camid_alloc env cam_ctl none pparm.keyid true with
  | (cam_ctl, none) => some cam_ctl
  | (cam_ctl, some (cam_id, used)) =>
      let addr := group_key_addr env cam_id
      -- the entry that was found is a pairwise key
      if used && !rtw_camid_is_gk cam_ctl cam_id then
        clear_keys { cam_ctl with conflict := true } addr (some true)
      else
        set_wep_pairwise env
          (write_cam cam_ctl cam_id ⟨key_ctrl true pparm.algorithm pparm.keyid, addr, pparm.key⟩) pparm

/-- The commands for keys, each with its adapter at that time. -/
inductive KeyCommand
  | setkey_hdl (env : KeyEnv) (pparm : SetkeyParm)
  | set_stakey_hdl (env : KeyEnv) (pparm : SetStakeyParm)

def CamCtl.handle (cam_ctl : CamCtl) : KeyCommand -> Option CamCtl
  | .setkey_hdl env pparm => Rtl8821ce.setkey_hdl env cam_ctl pparm
  | .set_stakey_hdl env pparm => (Rtl8821ce.set_stakey_hdl env cam_ctl pparm).map (·.1)

def key_step (state : Option CamCtl) (command : KeyCommand) : Option CamCtl :=
  state.bind (fun cam_ctl => cam_ctl.handle command)

end Rtl8821ce
