import Rtl8821ce.Library.Run
import Rtl8821ce.Recv.Station
import Rtl8821ce.Security.CamCtl

/-!
# MAC ids

The interfaces of an adapter share one table of MAC ids.  A station holds an id
from `rtw_alloc_stainfo` to `rtw_free_stainfo`; an entry for the own address has
none, and broadcast stations of interfaces without broadcast traffic share
`RTW_DEFAULT_MGMT_MACID`.  The id of any other broadcast station is the number
of its entry in the security CAM as well.
-/

namespace Rtl8821ce

open Function (update_apply update_of_ne update_self)

def RTW_DEFAULT_MGMT_MACID : Nat := 1

def INVALID_SEC_MAC_CAM_ID : Nat := 0xFF

def MACID_NUM_SW_LIMIT : Nat := 32

/-- What is fixed for the adapter: its interfaces with their addresses, and the
number of MAC ids, which `hal_spec` limits. -/
structure MacidConfig where
  CONFIG_CONCURRENT_MODE : Bool
  CONFIG_IFACE_NUMBER : Nat
  adapter_mac_addr : Fin CONFIG_IFACE_NUMBER -> MacAddr
  num : Nat
  num_le : num ≤ MACID_NUM_SW_LIMIT
  mgmt_lt : RTW_DEFAULT_MGMT_MACID < num

/-- A station of an interface.  The callers of `rtw_alloc_stainfo` look for the
address first, so it tells the live stations of an interface apart. -/
structure MacidSta (cfg : MacidConfig) where
  iface : Fin cfg.CONFIG_IFACE_NUMBER
  mac_addr : MacAddr
deriving DecidableEq

/-- `struct macid_ctl_t` and the security CAM; `mac_id` is the id in the
`sta_info` of each live station. -/
structure MacidCtl (cfg : MacidConfig) where
  used : Nat -> Bool
  bmc : Nat -> Bool
  if_g : Fin cfg.CONFIG_IFACE_NUMBER -> Nat -> Bool
  ch_g : Fin 2 -> Nat -> Bool
  iface_bmc : Fin cfg.CONFIG_IFACE_NUMBER -> Nat
  sta : Nat -> Option (MacidSta cfg)
  cam_ctl : CamCtl
  mac_id : MacidSta cfg -> Option Nat

/-- `rtw_macid_ctl_init` on zeroed memory. -/
def rtw_macid_ctl_init (cfg : MacidConfig) (cam_ctl : CamCtl) : MacidCtl cfg where
  used := fun i => i = RTW_DEFAULT_MGMT_MACID
  bmc := fun i => i = RTW_DEFAULT_MGMT_MACID
  if_g := fun _ i => i = RTW_DEFAULT_MGMT_MACID
  ch_g := fun _ _ => false
  iface_bmc := fun _ => 0
  sta := fun _ => none
  cam_ctl := cam_ctl
  mac_id := fun _ => none

variable {cfg : MacidConfig}

def MCC_ROLE_STA_GC_MGMT_QUEUE_MACID : Nat := 0

def MCC_ROLE_SOFTAP_GO_MGMT_QUEUE_MACID : Nat := 1

/-- Whether the search of `rtw_alloc_macid` stops at an id. -/
def macid_available (s : MacidCtl cfg) (mcc_en is_bc_sta : Bool) (i : Nat) : Bool :=
  !(mcc_en && (i == MCC_ROLE_STA_GC_MGMT_QUEUE_MACID || i == MCC_ROLE_SOFTAP_GO_MGMT_QUEUE_MACID)) &&
    !s.used i && !(is_bc_sta && rtw_sec_camid_is_used s.cam_ctl i)

/-- Write the id into the `sta_info`. -/
def MacidCtl.set_mac_id (s : MacidCtl cfg) (psta : MacidSta cfg) (mac_id : Option Nat) : MacidCtl cfg :=
  { s with mac_id := Function.update s.mac_id psta mac_id }

def MacidCtl.assign (s : MacidCtl cfg) (psta : MacidSta cfg) (i : Nat) : MacidCtl cfg :=
  let is_bc_sta : Bool := psta.mac_addr = bc_addr
  { s with
    used := Function.update s.used i true
    bmc := if is_bc_sta then Function.update s.bmc i true else s.bmc
    iface_bmc := if is_bc_sta then Function.update s.iface_bmc psta.iface i else s.iface_bmc
    cam_ctl := if is_bc_sta then rtw_sec_cam_map_set s.cam_ctl i else s.cam_ctl
    if_g := Function.update s.if_g psta.iface (Function.update (s.if_g psta.iface) i true)
    sta := Function.update s.sta i (some psta)
    mac_id := Function.update s.mac_id psta (some i) }

def rtw_iface_bcmc_id_set (s : MacidCtl cfg) (iface : Fin cfg.CONFIG_IFACE_NUMBER) (mac_id : Nat) : MacidCtl cfg :=
  { s with iface_bmc := Function.update s.iface_bmc iface mac_id }

/-- The search for the first available id, and what follows it. -/
def alloc_own_macid (s : MacidCtl cfg) (mcc_en : Bool) (psta : MacidSta cfg) : MacidCtl cfg :=
  match (List.range cfg.num).find? (macid_available s mcc_en (psta.mac_addr = bc_addr)) with
  | none => s.set_mac_id psta (some cfg.num)
  | some i => s.assign psta i

/-- `idle` says that the interface is a station or has no role, and `mcc_en` that
two channels are in use. -/
def rtw_alloc_macid (s : MacidCtl cfg) (idle mcc_en : Bool) (psta : MacidSta cfg) : MacidCtl cfg :=
  if psta.mac_addr = cfg.adapter_mac_addr psta.iface then s.set_mac_id psta (some cfg.num)
  else if psta.mac_addr = bc_addr then
    let s := rtw_iface_bcmc_id_set s psta.iface INVALID_SEC_MAC_CAM_ID
    if !cfg.CONFIG_CONCURRENT_MODE || idle then s.set_mac_id psta (some RTW_DEFAULT_MGMT_MACID)
    else alloc_own_macid s mcc_en psta
  else alloc_own_macid s mcc_en psta

def macid_used_by_others (s : MacidCtl cfg) (iface : Fin cfg.CONFIG_IFACE_NUMBER) (i : Nat) : Bool :=
  (List.finRange cfg.CONFIG_IFACE_NUMBER).any (fun other => other ≠ iface && s.if_g other i)

/-- The part of `rtw_release_macid` for an id that is the station's own. -/
def MacidCtl.release (s : MacidCtl cfg) (psta : MacidSta cfg) (i : Nat) : MacidCtl cfg :=
  let is_bc_sta : Bool := psta.mac_addr = bc_addr
  let id := s.iface_bmc psta.iface
  let s :=
    if is_bc_sta then
      { s with
        cam_ctl :=
          if id ≠ INVALID_SEC_MAC_CAM_ID ∧ id < s.cam_ctl.num then rtw_sec_cam_map_clr s.cam_ctl id
          else s.cam_ctl
        iface_bmc := Function.update s.iface_bmc psta.iface INVALID_SEC_MAC_CAM_ID }
    else s
  let others := macid_used_by_others s psta.iface i
  let s :=
    { s with if_g := Function.update s.if_g psta.iface (Function.update (s.if_g psta.iface) i false) }
  if others then s
  else
    { s with
      used := Function.update s.used i false
      bmc := Function.update s.bmc i false
      ch_g := fun group => Function.update (s.ch_g group) i false
      sta := Function.update s.sta i none }

/-- The station is freed next, so its id is gone on every path. -/
def rtw_release_macid (s : MacidCtl cfg) (psta : MacidSta cfg) (i : Nat) : MacidCtl cfg :=
  let released :=
    if psta.mac_addr = cfg.adapter_mac_addr psta.iface then s
    else if cfg.num ≤ i then s
    else if i = RTW_DEFAULT_MGMT_MACID then s
    else if s.used i = false then s
    else if s.if_g psta.iface i = false then s
    else s.release psta i
  released.set_mac_id psta none

/-- Stations come and go on any interface, and the CAM is invalidated. -/
inductive MacidOperation (cfg : MacidConfig)
  | rtw_alloc_macid (idle mcc_en : Bool) (psta : MacidSta cfg)
  | rtw_release_macid (psta : MacidSta cfg)
  | invalidate_cam_all

/-- One operation; only live stations are released, and only new ones get an id. -/
def MacidCtl.step (s : MacidCtl cfg) : MacidOperation cfg -> MacidCtl cfg
  | .rtw_alloc_macid idle mcc_en psta =>
      if (s.mac_id psta).isSome then s else Rtl8821ce.rtw_alloc_macid s idle mcc_en psta
  | .rtw_release_macid psta =>
      match s.mac_id psta with
      | none => s
      | some i => Rtl8821ce.rtw_release_macid s psta i
  | .invalidate_cam_all => { s with cam_ctl := Rtl8821ce.invalidate_cam_all s.cam_ctl }

def Holds (s : MacidCtl cfg) (psta : MacidSta cfg) (i : Nat) : Prop :=
  s.mac_id psta = some i ∧ i < cfg.num ∧ i ≠ RTW_DEFAULT_MGMT_MACID

/-- The table names the holders, and the bitmaps agree with the table.  An
interface remembers the id of its broadcast station. -/
structure MacidsConsistent (s : MacidCtl cfg) : Prop where
  sta : ∀ i psta, s.sta i = some psta <-> Holds s psta i
  used : ∀ i, s.used i = true <-> i = RTW_DEFAULT_MGMT_MACID ∨ (s.sta i).isSome = true
  if_g : ∀ iface i, s.if_g iface i = true <->
    i = RTW_DEFAULT_MGMT_MACID ∨ ∃ psta, s.sta i = some psta ∧ psta.iface = iface
  bmc : ∀ i, s.bmc i = true <->
    i = RTW_DEFAULT_MGMT_MACID ∨ ∃ psta, s.sta i = some psta ∧ psta.mac_addr = bc_addr
  shared : ∀ psta, s.mac_id psta = some RTW_DEFAULT_MGMT_MACID -> psta.mac_addr = bc_addr
  recorded : ∀ psta i, s.sta i = some psta -> psta.mac_addr = bc_addr -> s.iface_bmc psta.iface = i
  peer : ∀ psta i, s.sta i = some psta -> psta.mac_addr ≠ cfg.adapter_mac_addr psta.iface

/-- The CAM entry of a broadcast station's own id is in use, as long as there is
an entry of that number. -/
def BroadcastCamUsed (s : MacidCtl cfg) : Prop :=
  s.cam_ctl.chk_bmc = true -> ∀ psta i, Holds s psta i -> psta.mac_addr = bc_addr ->
    i < s.cam_ctl.num -> s.cam_ctl.used i = true

theorem consistent_init (cam_ctl : CamCtl) : MacidsConsistent (rtw_macid_ctl_init cfg cam_ctl) where
  sta := fun _ _ => ⟨fun found => (nomatch found), fun holds => (nomatch holds.1)⟩
  used := fun _ => ⟨fun set => .inl (of_decide_eq_true set),
    fun held => decide_eq_true (held.resolve_right Bool.false_ne_true)⟩
  if_g := fun _ _ => ⟨fun set => .inl (of_decide_eq_true set),
    fun held => decide_eq_true (held.resolve_right (fun ⟨_, found, _⟩ => nomatch found))⟩
  bmc := fun _ => ⟨fun set => .inl (of_decide_eq_true set),
    fun held => decide_eq_true (held.resolve_right (fun ⟨_, found, _⟩ => nomatch found))⟩
  shared := fun _ given => nomatch given
  recorded := fun _ _ found => nomatch found
  peer := fun _ _ found => nomatch found

theorem MacidSta.eq_of {first second : MacidSta cfg} (iface : first.iface = second.iface)
    (mac_addr : first.mac_addr = second.mac_addr) : first = second := by
  cases first
  cases second
  exact congrArg₂ MacidSta.mk iface mac_addr

@[simp] theorem mac_id_set_self (s : MacidCtl cfg) (psta : MacidSta cfg) (mac_id : Option Nat) :
    (s.set_mac_id psta mac_id).mac_id psta = mac_id :=
  update_self psta _ _

theorem mac_id_set_of_ne (s : MacidCtl cfg) {psta other : MacidSta cfg} (mac_id : Option Nat)
    (different : other ≠ psta) : (s.set_mac_id psta mac_id).mac_id other = s.mac_id other :=
  update_of_ne different _ _

theorem holds_set_mac_id {s : MacidCtl cfg} {psta : MacidSta cfg} {mac_id : Option Nat}
    (before : ∀ i, ¬ Holds s psta i) (after : ∀ i, mac_id = some i -> i < cfg.num -> i = RTW_DEFAULT_MGMT_MACID)
    (other : MacidSta cfg) (i : Nat) : Holds (s.set_mac_id psta mac_id) other i <-> Holds s other i := by
  by_cases own : other = psta
  · subst own
    refine iff_of_false (fun holds => ?_) (before i)
    have given := holds.1
    rw [mac_id_set_self] at given
    exact holds.2.2 (after i given holds.2.1)
  · unfold Holds
    rw [mac_id_set_of_ne s mac_id own]

theorem MacidsConsistent.set_mac_id {s : MacidCtl cfg} (consistent : MacidsConsistent s)
    {psta : MacidSta cfg} {mac_id : Option Nat} (before : ∀ i, ¬ Holds s psta i)
    (after : ∀ i, mac_id = some i -> i < cfg.num -> i = RTW_DEFAULT_MGMT_MACID)
    (shared : mac_id = some RTW_DEFAULT_MGMT_MACID -> psta.mac_addr = bc_addr) :
    MacidsConsistent (s.set_mac_id psta mac_id) where
  sta := fun i other => (consistent.sta i other).trans (holds_set_mac_id before after other i).symm
  used := consistent.used
  if_g := consistent.if_g
  bmc := consistent.bmc
  shared := by
    intro other given
    by_cases own : other = psta
    · subst own
      exact shared ((mac_id_set_self s other mac_id).symm.trans given)
    · exact consistent.shared other ((mac_id_set_of_ne s mac_id own).symm.trans given)
  recorded := consistent.recorded
  peer := consistent.peer

theorem MacidsConsistent.reset_iface_bmc {s : MacidCtl cfg} (consistent : MacidsConsistent s)
    {psta : MacidSta cfg} (broadcast : psta.mac_addr = bc_addr) (before : ∀ i, ¬ Holds s psta i) :
    MacidsConsistent (rtw_iface_bcmc_id_set s psta.iface INVALID_SEC_MAC_CAM_ID) where
  sta := consistent.sta
  used := consistent.used
  if_g := consistent.if_g
  bmc := consistent.bmc
  shared := consistent.shared
  recorded := by
    intro other i found addressed
    have apart : other.iface ≠ psta.iface := by
      intro same
      rcases MacidSta.eq_of same (addressed.trans broadcast.symm) with rfl
      exact before i ((consistent.sta i other).mp found)
    exact (update_of_ne apart _ _).trans (consistent.recorded other i found addressed)
  peer := consistent.peer

/-! ## Giving an id -/

theorem used_assign (s : MacidCtl cfg) (psta : MacidSta cfg) (i k : Nat) :
    (s.assign psta i).used k = if k = i then true else s.used k :=
  update_apply _ _ _ _

theorem sta_assign (s : MacidCtl cfg) (psta : MacidSta cfg) (i k : Nat) :
    (s.assign psta i).sta k = if k = i then some psta else s.sta k :=
  update_apply _ _ _ _

theorem if_g_assign (s : MacidCtl cfg) (psta : MacidSta cfg) (i k : Nat) (iface : Fin cfg.CONFIG_IFACE_NUMBER) :
    (s.assign psta i).if_g iface k = if iface = psta.iface ∧ k = i then true else s.if_g iface k := by
  show (Function.update s.if_g psta.iface _) iface k = _
  by_cases own : iface = psta.iface
  · subst own
    rw [update_self, update_apply]
    simp only [true_and]
  · rw [update_of_ne own, if_neg (fun both => own both.1)]

theorem bmc_assign (s : MacidCtl cfg) (psta : MacidSta cfg) (i k : Nat) :
    (s.assign psta i).bmc k = if psta.mac_addr = bc_addr ∧ k = i then true else s.bmc k := by
  by_cases broadcast : psta.mac_addr = bc_addr
  · simp only [MacidCtl.assign, broadcast, decide_true, if_true, true_and, update_apply]
  · simp only [MacidCtl.assign, broadcast, decide_false, Bool.false_eq_true, if_false, false_and]

theorem iface_bmc_assign (s : MacidCtl cfg) (psta : MacidSta cfg) (i : Nat) (iface : Fin cfg.CONFIG_IFACE_NUMBER) :
    (s.assign psta i).iface_bmc iface =
      if psta.mac_addr = bc_addr ∧ iface = psta.iface then i else s.iface_bmc iface := by
  by_cases broadcast : psta.mac_addr = bc_addr
  · simp only [MacidCtl.assign, broadcast, decide_true, if_true, true_and, update_apply]
  · simp only [MacidCtl.assign, broadcast, decide_false, Bool.false_eq_true, if_false, false_and]

theorem mac_id_assign (s : MacidCtl cfg) (psta : MacidSta cfg) (i : Nat) (other : MacidSta cfg) :
    (s.assign psta i).mac_id other = if other = psta then some i else s.mac_id other :=
  update_apply _ _ _ _

theorem MacidsConsistent.assign {s : MacidCtl cfg} (consistent : MacidsConsistent s)
    {psta : MacidSta cfg} {i : Nat} (bound : i < cfg.num) (free : s.used i = false)
    (fresh : s.mac_id psta = none) (peer : psta.mac_addr ≠ cfg.adapter_mac_addr psta.iface) :
    MacidsConsistent (s.assign psta i) := by
  have unused : ¬ (i = RTW_DEFAULT_MGMT_MACID ∨ (s.sta i).isSome = true) := by
    intro held
    exact Bool.false_ne_true (free.symm.trans ((consistent.used i).mpr held))
  have vacant : s.sta i = none := Option.not_isSome_iff_eq_none.mp (fun held => unused (.inr held))
  refine ⟨fun k other => ?_, fun k => ?_, fun iface k => ?_, fun k => ?_, fun other given => ?_, ?_, ?_⟩
  · unfold Holds
    rw [sta_assign, mac_id_assign]
    by_cases same : k = i <;> by_cases own : other = psta
    · subst same own
      rw [if_pos rfl, if_pos rfl]
      exact iff_of_true rfl ⟨rfl, bound, fun mgmt => unused (.inl mgmt)⟩
    · subst same
      rw [if_pos rfl, if_neg own]
      refine iff_of_false (fun found => own (Option.some.inj found).symm) (fun holds => ?_)
      exact nomatch vacant.symm.trans ((consistent.sta k other).mpr holds)
    · subst own
      rw [if_neg same, if_pos rfl]
      refine iff_of_false (fun found => ?_) (fun holds => same (Option.some.inj holds.1).symm)
      exact nomatch fresh.symm.trans ((consistent.sta k other).mp found).1
    · rw [if_neg same, if_neg own]
      exact consistent.sta k other
  · rw [used_assign, sta_assign]
    by_cases same : k = i
    · rw [if_pos same, if_pos same]
      exact iff_of_true rfl (.inr rfl)
    · rw [if_neg same, if_neg same]
      exact consistent.used k
  · rw [if_g_assign, sta_assign]
    by_cases same : k = i
    · subst same
      simp only [if_true, and_true, Option.some.injEq, exists_eq_left']
      by_cases own : iface = psta.iface
      · rw [if_pos own]
        exact iff_of_true rfl (.inr own.symm)
      · rw [if_neg own, consistent.if_g, vacant]
        exact iff_of_false (fun set => unused (.inl (set.resolve_right (fun ⟨_, found, _⟩ => nomatch found))))
          (fun held => held.elim (fun mgmt => unused (.inl mgmt)) (fun equal => own equal.symm))
    · rw [if_neg (fun both => same both.2), if_neg same]
      exact consistent.if_g iface k
  · rw [bmc_assign, sta_assign]
    by_cases same : k = i
    · subst same
      simp only [if_true, and_true, Option.some.injEq, exists_eq_left']
      by_cases broadcast : psta.mac_addr = bc_addr
      · rw [if_pos broadcast]
        exact iff_of_true rfl (.inr broadcast)
      · rw [if_neg broadcast, consistent.bmc, vacant]
        exact iff_of_false (fun set => unused (.inl (set.resolve_right (fun ⟨_, found, _⟩ => nomatch found))))
          (fun held => held.elim (fun mgmt => unused (.inl mgmt)) broadcast)
    · rw [if_neg (fun both => same both.2), if_neg same]
      exact consistent.bmc k
  · rw [mac_id_assign] at given
    by_cases own : other = psta
    · rw [if_pos own] at given
      exact absurd (Option.some.inj given) (fun mgmt => unused (.inl mgmt))
    · rw [if_neg own] at given
      exact consistent.shared other given
  · intro other k found addressed
    rw [sta_assign] at found
    rw [iface_bmc_assign]
    by_cases same : k = i
    · rw [if_pos same] at found
      rcases Option.some.inj found with rfl
      rw [if_pos ⟨addressed, rfl⟩, same]
    · rw [if_neg same] at found
      rw [if_neg]
      · exact consistent.recorded other k found addressed
      · intro both
        rcases MacidSta.eq_of both.2 (addressed.trans both.1.symm) with rfl
        exact nomatch fresh.symm.trans ((consistent.sta k other).mp found).1
  · intro other k found
    rw [sta_assign] at found
    by_cases same : k = i
    · rw [if_pos same] at found
      exact Option.some.inj found ▸ peer
    · rw [if_neg same] at found
      exact consistent.peer other k found

theorem MacidsConsistent.not_used_by_others {s : MacidCtl cfg} (consistent : MacidsConsistent s)
    {psta : MacidSta cfg} {i : Nat} (holds : Holds s psta i) : macid_used_by_others s psta.iface i = false := by
  refine List.any_eq_false.mpr (fun other _ shared => ?_)
  rcases Bool.and_eq_true_iff.mp shared with ⟨different, set⟩
  rcases ((consistent.if_g other i).mp set).resolve_left holds.2.2 with ⟨holder, found, own⟩
  rw [(consistent.sta i psta).mpr holds] at found
  rcases Option.some.inj found with rfl
  exact of_decide_eq_true different own.symm

theorem release_of_holds {s : MacidCtl cfg} (consistent : MacidsConsistent s) {psta : MacidSta cfg}
    {i : Nat} (holds : Holds s psta i) :
    s.release psta i =
      { s with
        used := Function.update s.used i false
        bmc := Function.update s.bmc i false
        if_g := Function.update s.if_g psta.iface (Function.update (s.if_g psta.iface) i false)
        ch_g := fun group => Function.update (s.ch_g group) i false
        iface_bmc :=
          if psta.mac_addr = bc_addr then
            Function.update s.iface_bmc psta.iface INVALID_SEC_MAC_CAM_ID
          else s.iface_bmc
        sta := Function.update s.sta i none
        cam_ctl :=
          if psta.mac_addr = bc_addr ∧ s.iface_bmc psta.iface ≠ INVALID_SEC_MAC_CAM_ID ∧
              s.iface_bmc psta.iface < s.cam_ctl.num then
            rtw_sec_cam_map_clr s.cam_ctl (s.iface_bmc psta.iface)
          else s.cam_ctl } := by
  have alone := consistent.not_used_by_others holds
  by_cases broadcast : psta.mac_addr = bc_addr
  · have still : macid_used_by_others
        { s with
          cam_ctl :=
            if s.iface_bmc psta.iface ≠ INVALID_SEC_MAC_CAM_ID ∧ s.iface_bmc psta.iface < s.cam_ctl.num then
              rtw_sec_cam_map_clr s.cam_ctl (s.iface_bmc psta.iface)
            else s.cam_ctl
          iface_bmc := Function.update s.iface_bmc psta.iface INVALID_SEC_MAC_CAM_ID }
        psta.iface i = false := alone
    simp only [MacidCtl.release, broadcast, decide_true, if_true, still, Bool.false_eq_true, if_false, true_and]
  · simp only [MacidCtl.release, broadcast, decide_false, Bool.false_eq_true, if_false, alone, false_and]

theorem if_g_release (s : MacidCtl cfg) (psta : MacidSta cfg) (i k : Nat) (iface : Fin cfg.CONFIG_IFACE_NUMBER) :
    Function.update s.if_g psta.iface (Function.update (s.if_g psta.iface) i false) iface k =
      if iface = psta.iface ∧ k = i then false else s.if_g iface k := by
  by_cases own : iface = psta.iface
  · subst own
    rw [update_self, update_apply]
    simp only [true_and]
  · rw [update_of_ne own, if_neg (fun both => own both.1)]

theorem MacidsConsistent.release {s : MacidCtl cfg} (consistent : MacidsConsistent s)
    {psta : MacidSta cfg} {i : Nat} (holds : Holds s psta i) :
    MacidsConsistent ((s.release psta i).set_mac_id psta none) := by
  have held : s.sta i = some psta := (consistent.sta i psta).mpr holds
  rw [release_of_holds consistent holds]
  refine ⟨fun k other => ?_, fun k => ?_, fun iface k => ?_, fun k => ?_, fun other given => ?_, ?_, ?_⟩
  · show (Function.update s.sta i none) k = some other <->
      (Function.update s.mac_id psta none) other = some k ∧ _
    by_cases same : k = i
    · subst same
      rw [update_self]
      refine iff_of_false (fun found => nomatch found) (fun later => ?_)
      by_cases own : other = psta
      · subst own
        rw [update_self] at later
        exact nomatch later.1
      · rw [update_of_ne own] at later
        exact own (Option.some.inj (((consistent.sta k other).mpr later).symm.trans held))
    · rw [update_of_ne same, consistent.sta]
      by_cases own : other = psta
      · subst own
        rw [update_self]
        exact iff_of_false (fun later => same (Option.some.inj (later.1.symm.trans holds.1)))
          (fun later => nomatch later.1)
      · rw [update_of_ne own]
        exact Iff.rfl
  · show (Function.update s.used i false) k = true <-> _ ∨ ((Function.update s.sta i none) k).isSome = true
    by_cases same : k = i
    · subst same
      rw [update_self, update_self]
      exact iff_of_false Bool.false_ne_true
        (fun later => later.elim holds.2.2 Bool.false_ne_true)
    · rw [update_of_ne same, update_of_ne same]
      exact consistent.used k
  · show (Function.update s.if_g psta.iface _) iface k = true <->
      _ ∨ ∃ other, (Function.update s.sta i none) k = some other ∧ _
    rw [if_g_release]
    by_cases same : k = i
    · subst same
      rw [update_self]
      refine iff_of_false (fun set => ?_)
        (fun later => later.elim holds.2.2 (fun ⟨_, found, _⟩ => nomatch found))
      by_cases own : iface = psta.iface
      · rw [if_pos ⟨own, rfl⟩] at set
        exact Bool.false_ne_true set
      · rw [if_neg (fun both => own both.1), consistent.if_g] at set
        rcases set.resolve_left holds.2.2 with ⟨other, found, local_iface⟩
        rw [held] at found
        rcases Option.some.inj found with rfl
        exact own local_iface.symm
    · rw [if_neg (fun both => same both.2), update_of_ne same]
      exact consistent.if_g iface k
  · show (Function.update s.bmc i false) k = true <->
      _ ∨ ∃ other, (Function.update s.sta i none) k = some other ∧ _
    by_cases same : k = i
    · subst same
      rw [update_self, update_self]
      exact iff_of_false Bool.false_ne_true
        (fun later => later.elim holds.2.2 (fun ⟨_, found, _⟩ => nomatch found))
    · rw [update_of_ne same, update_of_ne same]
      exact consistent.bmc k
  · by_cases own : other = psta
    · subst own
      exact nomatch (mac_id_set_self _ other none).symm.trans given
    · exact consistent.shared other ((mac_id_set_of_ne _ none own).symm.trans given)
  · intro other k found addressed
    change (Function.update s.sta i none) k = some other at found
    show (if psta.mac_addr = bc_addr then _ else s.iface_bmc) other.iface = k
    by_cases same : k = i
    · subst same
      rw [update_self] at found
      exact nomatch found
    · rw [update_of_ne same] at found
      have before := consistent.recorded other k found addressed
      split
      case isTrue broadcast =>
        rw [update_of_ne]
        · exact before
        · intro local_iface
          rcases MacidSta.eq_of local_iface (addressed.trans broadcast.symm) with rfl
          exact same (Option.some.inj (((consistent.sta k other).mp found).1.symm.trans holds.1))
      case isFalse unicast => exact before
  · intro other k found
    change (Function.update s.sta i none) k = some other at found
    by_cases same : k = i
    · subst same
      rw [update_self] at found
      exact nomatch found
    · rw [update_of_ne same] at found
      exact consistent.peer other k found

/-- What an allocation gives: an id that is not the station's own, or an
available one. -/
inductive Allocated (psta : MacidSta cfg) (s : MacidCtl cfg) : MacidCtl cfg -> Prop
  | none_own (mac_id : Nat)
      (given : mac_id = cfg.num ∨ mac_id = RTW_DEFAULT_MGMT_MACID ∧ psta.mac_addr = bc_addr) :
      Allocated psta s (s.set_mac_id psta (some mac_id))
  | own (i : Nat) (bound : i < cfg.num) (free : s.used i = false)
      (peer : psta.mac_addr ≠ cfg.adapter_mac_addr psta.iface) : Allocated psta s (s.assign psta i)

theorem allocated_own (s : MacidCtl cfg) (mcc_en : Bool) {psta : MacidSta cfg}
    (peer : psta.mac_addr ≠ cfg.adapter_mac_addr psta.iface) : Allocated psta s (alloc_own_macid s mcc_en psta) := by
  unfold alloc_own_macid
  cases found : (List.range cfg.num).find? (macid_available s mcc_en (psta.mac_addr = bc_addr)) with
  | none => exact .none_own cfg.num (.inl rfl)
  | some i =>
      have available := List.find?_some found
      rw [macid_available, Bool.and_eq_true_iff, Bool.and_eq_true_iff] at available
      exact .own i (List.mem_range.mp (List.mem_of_find?_eq_some found))
        (Bool.not_eq_true' _ ▸ available.1.2) peer

theorem rtw_alloc_macid_allocated (s : MacidCtl cfg) (idle mcc_en : Bool) (psta : MacidSta cfg) :
    Allocated psta s (rtw_alloc_macid s idle mcc_en psta) ∨
      psta.mac_addr = bc_addr ∧
        Allocated psta (rtw_iface_bcmc_id_set s psta.iface INVALID_SEC_MAC_CAM_ID)
          (rtw_alloc_macid s idle mcc_en psta) := by
  unfold rtw_alloc_macid
  split
  case isTrue own => exact .inl (.none_own cfg.num (.inl rfl))
  case isFalse peer =>
    split
    case isTrue broadcast =>
      refine .inr ⟨broadcast, ?_⟩
      dsimp only
      split
      case isTrue shares => exact .none_own RTW_DEFAULT_MGMT_MACID (.inr ⟨rfl, broadcast⟩)
      case isFalse separate => exact allocated_own _ mcc_en peer
    case isFalse unicast => exact .inl (allocated_own s mcc_en peer)

theorem MacidsConsistent.allocated {s after : MacidCtl cfg} (consistent : MacidsConsistent s)
    {psta : MacidSta cfg} (fresh : s.mac_id psta = none) (allocated : Allocated psta s after) :
    MacidsConsistent after := by
  cases allocated with
  | none_own mac_id given =>
      refine consistent.set_mac_id (fun i holds => nomatch fresh.symm.trans holds.1) ?_ ?_
      · intro i same bound
        rcases Option.some.inj same with rfl
        exact given.elim (fun all => absurd bound (Nat.not_lt.mpr (Nat.le_of_eq all.symm))) And.left
      · intro same
        refine given.elim (fun all => ?_) And.right
        exact absurd cfg.mgmt_lt (Nat.not_lt.mpr (Nat.le_of_eq (all.symm.trans (Option.some.inj same))))
  | own i bound free peer => exact consistent.assign bound free fresh peer

/-- A release takes back the id of a station that has one, and only forgets the
`sta_info` of the others. -/
theorem MacidsConsistent.release_cases {s : MacidCtl cfg} (consistent : MacidsConsistent s)
    {psta : MacidSta cfg} {i : Nat} (given : s.mac_id psta = some i) :
    (Holds s psta i ∧ rtw_release_macid s psta i = (s.release psta i).set_mac_id psta none) ∨
      (∀ k, ¬ Holds s psta k) ∧ rtw_release_macid s psta i = s.set_mac_id psta none := by
  by_cases holds : Holds s psta i
  · refine .inl ⟨holds, ?_⟩
    have found := (consistent.sta i psta).mpr holds
    have used : s.used i = true := (consistent.used i).mpr (.inr (by rw [found]; rfl))
    have own : s.if_g psta.iface i = true := (consistent.if_g psta.iface i).mpr (.inr ⟨psta, found, rfl⟩)
    unfold rtw_release_macid
    rw [if_neg (consistent.peer psta i found), if_neg (Nat.not_le.mpr holds.2.1), if_neg holds.2.2, used, own]
    rfl
  · refine .inr ⟨fun k other => ?_, ?_⟩
    · rcases Option.some.inj (given.symm.trans other.1) with rfl
      exact holds other
    · unfold rtw_release_macid
      dsimp only
      split_ifs with own beyond mgmt unused foreign
      · rfl
      · rfl
      · rfl
      · rfl
      · rfl
      · exact absurd ⟨given, Nat.not_le.mp beyond, mgmt⟩ holds

theorem MacidsConsistent.step {s : MacidCtl cfg} (consistent : MacidsConsistent s)
    (operation : MacidOperation cfg) : MacidsConsistent (s.step operation) := by
  cases operation with
  | rtw_alloc_macid idle mcc_en psta =>
      unfold MacidCtl.step
      dsimp only
      split
      case isTrue live => exact consistent
      case isFalse new =>
        have fresh : s.mac_id psta = none := Option.not_isSome_iff_eq_none.mp new
        rcases rtw_alloc_macid_allocated s idle mcc_en psta with direct | ⟨broadcast, reset⟩
        · exact consistent.allocated fresh direct
        · have forgotten := consistent.reset_iface_bmc broadcast
            (fun i holds => nomatch fresh.symm.trans holds.1)
          exact forgotten.allocated fresh reset
  | rtw_release_macid psta =>
      unfold MacidCtl.step
      dsimp only
      cases given : s.mac_id psta with
      | none => exact consistent
      | some i =>
          dsimp only
          rcases consistent.release_cases given with ⟨holds, released⟩ | ⟨before, released⟩
          · rw [released]
            exact consistent.release holds
          · rw [released]
            exact consistent.set_mac_id before (fun _ same => nomatch same) (fun same => nomatch same)
  | invalidate_cam_all =>
      exact ⟨consistent.sta, consistent.used, consistent.if_g, consistent.bmc, consistent.shared,
        consistent.recorded, consistent.peer⟩

/-- The condition: the CAM is not invalidated while a broadcast station has an id
of its own that numbers a CAM entry. -/
def SparesBroadcast (s : MacidCtl cfg) : MacidOperation cfg -> Prop
  | .invalidate_cam_all =>
      s.cam_ctl.chk_bmc = true -> ∀ psta i, Holds s psta i -> psta.mac_addr = bc_addr ->
        s.cam_ctl.num ≤ i
  | _ => True

theorem cam_ctl_assign (s : MacidCtl cfg) (psta : MacidSta cfg) (i : Nat) :
    (s.assign psta i).cam_ctl =
      if psta.mac_addr = bc_addr then rtw_sec_cam_map_set s.cam_ctl i else s.cam_ctl := by
  by_cases broadcast : psta.mac_addr = bc_addr
  · simp only [MacidCtl.assign, broadcast, decide_true, if_true]
  · simp only [MacidCtl.assign, broadcast, decide_false, Bool.false_eq_true, if_false]

theorem BroadcastCamUsed.allocated {s after : MacidCtl cfg} (kept : BroadcastCamUsed s)
    (consistent : MacidsConsistent s) {psta : MacidSta cfg} (fresh : s.mac_id psta = none)
    (allocated : Allocated psta s after) : BroadcastCamUsed after := by
  have following := consistent.allocated fresh allocated
  cases allocated with
  | none_own mac_id given =>
      intro capable other i holds
      exact kept capable other i ((consistent.sta i other).mp ((following.sta i other).mpr holds))
  | own i bound free peer =>
      intro capable other k holds addressed inside
      have limit : i < SEC_CAM_ENT_NUM_SW_LIMIT := Nat.lt_of_lt_of_le bound cfg.num_le
      have found := (following.sta k other).mpr holds
      rw [sta_assign] at found
      rw [cam_ctl_assign] at capable inside ⊢
      by_cases same : k = i
      · subst same
        rw [if_pos rfl] at found
        rw [Option.some.inj found, if_pos addressed]
        exact used_map_set_self s.cam_ctl limit
      · rw [if_neg same] at found
        have before : s.cam_ctl.chk_bmc = true -> k < s.cam_ctl.num -> s.cam_ctl.used k = true :=
          fun capable inside => kept capable other k ((consistent.sta k other).mp found) addressed inside
        by_cases broadcast : psta.mac_addr = bc_addr
        · rw [if_pos broadcast] at capable inside ⊢
          rw [used_map_set_of_ne s.cam_ctl same]
          exact before (chk_bmc_map_set s.cam_ctl i ▸ capable) (num_map_set s.cam_ctl i ▸ inside)
        · rw [if_neg broadcast] at capable inside ⊢
          exact before capable inside

theorem BroadcastCamUsed.release {s : MacidCtl cfg} (kept : BroadcastCamUsed s)
    (consistent : MacidsConsistent s) {psta : MacidSta cfg} {i : Nat} (holds : Holds s psta i) :
    BroadcastCamUsed ((s.release psta i).set_mac_id psta none) := by
  intro capable other k later addressed inside
  have found := ((consistent.release holds).sta k other).mpr later
  rw [release_of_holds consistent holds] at capable inside found ⊢
  change (Function.update s.sta i none) k = some other at found
  have different : k ≠ i := by
    intro same
    rw [same, update_self] at found
    exact nomatch found
  rw [update_of_ne different] at found
  have before : s.cam_ctl.chk_bmc = true -> k < s.cam_ctl.num -> s.cam_ctl.used k = true :=
    fun capable inside => kept capable other k ((consistent.sta k other).mp found) addressed inside
  change (if _ then _ else s.cam_ctl).chk_bmc = true at capable
  change k < (if _ then _ else s.cam_ctl).num at inside
  change (if _ then _ else s.cam_ctl).used k = true
  by_cases frees : psta.mac_addr = bc_addr ∧ s.iface_bmc psta.iface ≠ INVALID_SEC_MAC_CAM_ID ∧
      s.iface_bmc psta.iface < s.cam_ctl.num
  · rw [if_pos frees] at capable inside ⊢
    have own := consistent.recorded psta i ((consistent.sta i psta).mpr holds) frees.1
    rw [own] at capable inside ⊢
    rw [used_map_clr_of_ne s.cam_ctl different]
    exact before (chk_bmc_map_clr s.cam_ctl i ▸ capable) (num_map_clr s.cam_ctl i ▸ inside)
  · rw [if_neg frees] at capable inside ⊢
    exact before capable inside

theorem BroadcastCamUsed.step_iff {s : MacidCtl cfg} (kept : BroadcastCamUsed s)
    (consistent : MacidsConsistent s) (operation : MacidOperation cfg) :
    BroadcastCamUsed (s.step operation) <-> SparesBroadcast s operation := by
  cases operation with
  | rtw_alloc_macid idle mcc_en psta =>
      refine iff_of_true ?_ trivial
      unfold MacidCtl.step
      dsimp only
      split
      case isTrue live => exact kept
      case isFalse new =>
        have fresh : s.mac_id psta = none := Option.not_isSome_iff_eq_none.mp new
        rcases rtw_alloc_macid_allocated s idle mcc_en psta with direct | ⟨broadcast, reset⟩
        · exact kept.allocated consistent fresh direct
        · have forgotten := consistent.reset_iface_bmc broadcast
            (fun i holds => nomatch fresh.symm.trans holds.1)
          have still : BroadcastCamUsed (rtw_iface_bcmc_id_set s psta.iface INVALID_SEC_MAC_CAM_ID) := kept
          exact still.allocated forgotten fresh reset
  | rtw_release_macid psta =>
      refine iff_of_true ?_ trivial
      unfold MacidCtl.step
      dsimp only
      cases given : s.mac_id psta with
      | none => exact kept
      | some i =>
          dsimp only
          rcases consistent.release_cases given with ⟨holds, released⟩ | ⟨before, released⟩
          · rw [released]
            exact kept.release consistent holds
          · rw [released]
            intro capable other k holds
            have same := @holds_set_mac_id cfg s psta none before (fun _ same => nomatch same) other k
            exact kept capable other k (same.mp holds)
  | invalidate_cam_all =>
      constructor
      · intro later capable psta i holds broadcast
        refine Nat.not_lt.mp (fun inside => ?_)
        exact Bool.false_ne_true (later capable psta i holds broadcast inside)
      · intro spares capable psta i holds broadcast inside
        exact absurd inside (Nat.not_lt.mpr (spares capable psta i holds broadcast))

/-- What the tables promise.  An id other than `RTW_DEFAULT_MGMT_MACID` is used
exactly when one live station holds it; the table, the interface and the broadcast
maps tell which, and its CAM entry is kept for a broadcast station. -/
structure MacidsTruthful (s : MacidCtl cfg) : Prop where
  used : ∀ i, s.used i = true <-> i = RTW_DEFAULT_MGMT_MACID ∨
    ∃ psta, Holds s psta i ∧ ∀ other, Holds s other i -> other = psta
  sta : ∀ i psta, Holds s psta i -> s.sta i = some psta
  if_g : ∀ iface i, i ≠ RTW_DEFAULT_MGMT_MACID -> s.if_g iface i = true ->
    ∃ psta, Holds s psta i ∧ psta.iface = iface
  bmc : ∀ i, i ≠ RTW_DEFAULT_MGMT_MACID ->
    (s.bmc i = true <-> ∃ psta, Holds s psta i ∧ psta.mac_addr = bc_addr)
  shared : ∀ psta, s.mac_id psta = some RTW_DEFAULT_MGMT_MACID -> psta.mac_addr = bc_addr
  unique : ∀ i first second, Holds s first i -> Holds s second i -> first = second
  cam : BroadcastCamUsed s

theorem MacidsConsistent.unique {s : MacidCtl cfg} (consistent : MacidsConsistent s)
    {first second : MacidSta cfg} {i : Nat} (one : Holds s first i) (two : Holds s second i) : first = second :=
  Option.some.inj (((consistent.sta i first).mpr one).symm.trans ((consistent.sta i second).mpr two))

theorem MacidsConsistent.truthful_iff {s : MacidCtl cfg} (consistent : MacidsConsistent s) :
    MacidsTruthful s <-> BroadcastCamUsed s := by
  refine ⟨MacidsTruthful.cam, fun kept => ⟨fun i => ?_, ?_, ?_, ?_, consistent.shared, ?_, kept⟩⟩
  · rw [consistent.used, Option.isSome_iff_exists]
    refine or_congr Iff.rfl (exists_congr (fun psta => ?_))
    rw [consistent.sta]
    exact ⟨fun holds => ⟨holds, fun other also => consistent.unique also holds⟩, And.left⟩
  · exact fun i psta holds => (consistent.sta i psta).mpr holds
  · intro iface i own set
    rcases ((consistent.if_g iface i).mp set).resolve_left own with ⟨psta, found, local_iface⟩
    exact ⟨psta, (consistent.sta i psta).mp found, local_iface⟩
  · intro i own
    rw [consistent.bmc, or_iff_right own]
    exact exists_congr (fun psta => and_congr (consistent.sta i psta) Iff.rfl)
  · exact fun i first second one two => consistent.unique one two

theorem consistent_run (cam_ctl : CamCtl) (operations : List (MacidOperation cfg)) :
    MacidsConsistent (Run.execute MacidCtl.step (rtw_macid_ctl_init cfg cam_ctl) operations) := by
  have all : Run.Guarded MacidCtl.step (fun _ _ => True) (rtw_macid_ctl_init cfg cam_ctl) operations :=
    Run.guarded_of_forall MacidCtl.step (fun _ => True) _ operations (fun _ _ => trivial)
  exact all.invariant (fun s operation _ consistent => consistent.step operation) (consistent_init cam_ctl)

/-- The tables are truthful all along a run exactly when the CAM is never
invalidated under a broadcast station that has its own id. -/
theorem macids_truthful_iff (cfg : MacidConfig) (cam_ctl : CamCtl) (operations : List (MacidOperation cfg)) :
    (∀ done, done <+: operations ->
      MacidsTruthful (Run.execute MacidCtl.step (rtw_macid_ctl_init cfg cam_ctl) done)) <->
    Run.Guarded MacidCtl.step SparesBroadcast (rtw_macid_ctl_init cfg cam_ctl) operations := by
  have exactly : ∀ (s : MacidCtl cfg) operation, MacidsConsistent s ∧ BroadcastCamUsed s ->
      (MacidsConsistent (s.step operation) ∧ BroadcastCamUsed (s.step operation) <->
        SparesBroadcast s operation) := by
    intro s operation both
    rw [and_iff_right (both.1.step operation)]
    exact both.2.step_iff both.1 operation
  have initial : MacidsConsistent (rtw_macid_ctl_init cfg cam_ctl) ∧
      BroadcastCamUsed (rtw_macid_ctl_init cfg cam_ctl) :=
    ⟨consistent_init cam_ctl, fun _ _ _ holds => nomatch holds.1⟩
  rw [← Run.guarded_iff_invariant exactly initial operations]
  refine forall_congr' (fun done => imp_congr Iff.rfl ?_)
  have consistent := @consistent_run cfg cam_ctl done
  rw [consistent.truthful_iff, and_iff_right consistent]

def MacidConfig.twoIfaces : MacidConfig where
  CONFIG_CONCURRENT_MODE := true
  CONFIG_IFACE_NUMBER := 2
  adapter_mac_addr := fun iface => .ofLast iface.val.toUInt8
  num := 32
  num_le := Nat.le_refl 32
  mgmt_lt := by decide

def broadcastOfFirst : MacidSta .twoIfaces where
  iface := (0 : Fin 2)
  mac_addr := bc_addr

/-- An access point's broadcast station gets the id 0, and the invalidation of the
CAM frees the entry 0 while the station lives. -/
theorem broadcast_cam_entry_lost :
    ¬ ∀ (cfg : MacidConfig) (cam_ctl : CamCtl) (operations : List (MacidOperation cfg)),
      ∀ done, done <+: operations ->
        MacidsTruthful (Run.execute MacidCtl.step (rtw_macid_ctl_init cfg cam_ctl) done) := by
  intro claim
  have truthful := claim .twoIfaces ⟨32, true, false, fun _ => false, fun _ => .zero, fun _ => .zero⟩
    [.rtw_alloc_macid false false broadcastOfFirst, .invalidate_cam_all] _ List.prefix_rfl
  exact Bool.false_ne_true
    (truthful.cam rfl broadcastOfFirst 0 ⟨by decide, by decide, by decide⟩ rfl (by decide))

end Rtl8821ce
