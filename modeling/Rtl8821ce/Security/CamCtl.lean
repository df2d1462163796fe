import Mathlib.Logic.Function.Basic
import Rtl8821ce.Recv.Frame

/-!
# The security CAM

The keys that the hardware works with stand in the entries of a table.  The
driver keeps a copy of the table and a bitmap of the entries in use.
-/

namespace Rtl8821ce

/-- `struct sec_cam_ent`. -/
structure SecCamEnt where
  ctrl : BitVec 16
  mac : MacAddr
  key : List UInt8
deriving DecidableEq

def SecCamEnt.zero : SecCamEnt := ⟨0, .zero, List.replicate 16 0⟩

def SEC_CAM_ENT_NUM_SW_LIMIT : Nat := 32

/-- `struct cam_ctl_t` with the cached entries and the table of the hardware.
`chk_bmc` is `SEC_CAP_CHK_BMC` of `sec_cap`, and `conflict` is
`SEC_STATUS_STA_PK_GK_CONFLICT_DIS_BMC_SEARCH` of `flags`. -/
structure CamCtl where
  num : Nat
  chk_bmc : Bool
  conflict : Bool
  used : Nat -> Bool
  cam_cache : Nat -> SecCamEnt
  cam : Nat -> SecCamEnt

/-- The bitmap has as many bits as there can be entries. -/
def rtw_sec_cam_map_set (cam_ctl : CamCtl) (id : Nat) : CamCtl :=
  if id < SEC_CAM_ENT_NUM_SW_LIMIT then { cam_ctl with used := Function.update cam_ctl.used id true }
  else cam_ctl

def rtw_sec_cam_map_clr (cam_ctl : CamCtl) (id : Nat) : CamCtl :=
  if id < SEC_CAM_ENT_NUM_SW_LIMIT then { cam_ctl with used := Function.update cam_ctl.used id false }
  else cam_ctl

@[simp] theorem num_map_set (cam_ctl : CamCtl) (id : Nat) :
    (rtw_sec_cam_map_set cam_ctl id).num = cam_ctl.num := by
  unfold rtw_sec_cam_map_set
  split <;> rfl

@[simp] theorem chk_bmc_map_set (cam_ctl : CamCtl) (id : Nat) :
    (rtw_sec_cam_map_set cam_ctl id).chk_bmc = cam_ctl.chk_bmc := by
  unfold rtw_sec_cam_map_set
  split <;> rfl

@[simp] theorem num_map_clr (cam_ctl : CamCtl) (id : Nat) :
    (rtw_sec_cam_map_clr cam_ctl id).num = cam_ctl.num := by
  unfold rtw_sec_cam_map_clr
  split <;> rfl

@[simp] theorem chk_bmc_map_clr (cam_ctl : CamCtl) (id : Nat) :
    (rtw_sec_cam_map_clr cam_ctl id).chk_bmc = cam_ctl.chk_bmc := by
  unfold rtw_sec_cam_map_clr
  split <;> rfl

theorem used_map_set_self (cam_ctl : CamCtl) {id : Nat} (bound : id < SEC_CAM_ENT_NUM_SW_LIMIT) :
    (rtw_sec_cam_map_set cam_ctl id).used id = true := by
  rw [rtw_sec_cam_map_set, if_pos bound]
  exact Function.update_self id true cam_ctl.used

theorem used_map_set_of_ne (cam_ctl : CamCtl) {id other : Nat} (different : other ≠ id) :
    (rtw_sec_cam_map_set cam_ctl id).used other = cam_ctl.used other := by
  unfold rtw_sec_cam_map_set
  split
  case isTrue inside => exact Function.update_of_ne different true cam_ctl.used
  case isFalse outside => rfl

theorem used_map_clr_of_ne (cam_ctl : CamCtl) {id other : Nat} (different : other ≠ id) :
    (rtw_sec_cam_map_clr cam_ctl id).used other = cam_ctl.used other := by
  unfold rtw_sec_cam_map_clr
  split
  case isTrue inside => exact Function.update_of_ne different false cam_ctl.used
  case isFalse outside => rfl

def rtw_sec_camid_is_used (cam_ctl : CamCtl) (id : Nat) : Bool :=
  if cam_ctl.num ≤ id then false else cam_ctl.used id

def invalidate_cam_all (cam_ctl : CamCtl) : CamCtl :=
  { cam_ctl with
    used := fun _ => false
    cam_cache := fun _ => .zero
    cam := fun _ => .zero }

end Rtl8821ce
