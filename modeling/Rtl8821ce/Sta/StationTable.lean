import Rtl8821ce.Library.Buckets
import Rtl8821ce.Library.Run
import Rtl8821ce.Recv.Station

/-!
# The station table

`pstainfo_buf` has `NUM_STA` station records.  A record is in `free_sta_queue` or in one
of the buckets of `sta_hash`.  A station may also be announced before it is linked:
`pre_link_sta_ctl` has the addresses of such stations, and a station with such an address
keeps its record when it is freed.

A record is known by its place in `pstainfo_buf`, which is what `rtw_stainfo_offset`
computes.  Of a record the model has what the table needs, the address and the state; the
queues, timers and bitmaps that the same functions tear down are modelled elsewhere.
-/

namespace Rtl8821ce

namespace Sta

open Buckets (entries)

def _FW_LINKED : UInt32 := 0x00000001
def WIFI_FW_PRE_LINK : UInt32 := 0x00000800
def RTW_PRE_LINK_STA_NUM : Nat := 8

/-- `struct sta_info`. -/
structure StaInfo where
  mac_addr : MacAddr
  state : UInt32
  deriving DecidableEq

/-- `struct pre_link_sta_node_t`. -/
structure PreLinkStaNode where
  valid : Bool
  addr : MacAddr
  deriving DecidableEq

/-- `struct pre_link_sta_ctl_t`. -/
structure PreLinkStaCtl where
  num : Nat
  node : List PreLinkStaNode

/-- `struct sta_priv`. -/
structure StaPriv where
  pstainfo_buf : Fin NUM_STA -> StaInfo
  free_sta_queue : List (Fin NUM_STA)
  sta_hash : Nat -> List (Fin NUM_STA)
  asoc_sta_count : Int
  pre_link_sta_ctl : PreLinkStaCtl

def wifi_mac_hash (mac : MacAddr) : Nat :=
  let x := mac.bytes.foldl (fun (x : UInt32) (byte : UInt8) => (x <<< 2) ^^^ byte.toUInt32) 0
  ((x ^^^ (x >>> 8)) &&& (NUM_STA.toUInt32 - 1)).toNat

/-- `_rtw_init_sta_priv`.  The addresses of the nodes are whatever the memory held. -/
def _rtw_init_sta_priv (addrs : Nat -> MacAddr) : StaPriv where
  pstainfo_buf := fun _ => ⟨.zero, 0⟩
  free_sta_queue := List.finRange NUM_STA
  sta_hash := fun _ => []
  asoc_sta_count := 0
  pre_link_sta_ctl := ⟨0, (List.range RTW_PRE_LINK_STA_NUM).map fun i => ⟨false, addrs i⟩⟩

def StaPriv.mac_addr (s : StaPriv) (psta : Fin NUM_STA) : MacAddr := (s.pstainfo_buf psta).mac_addr

def StaPriv.set_state (s : StaPriv) (psta : Fin NUM_STA) (state : UInt32) : StaPriv :=
  { s with pstainfo_buf := Function.update s.pstainfo_buf psta { s.pstainfo_buf psta with state := state } }

/-- `rtw_list_delete` of the hash list node of a station. -/
def StaPriv.unlink (s : StaPriv) (psta : Fin NUM_STA) : StaPriv :=
  { s with sta_hash := Buckets.delete s.sta_hash psta }

/-- The address that is looked for: all group addresses stand for the broadcast address. -/
def lookup_addr (hwaddr : MacAddr) : MacAddr := if IS_MCAST hwaddr then bc_addr else hwaddr

def rtw_get_stainfo (s : StaPriv) (hwaddr : MacAddr) : Option (Fin NUM_STA) :=
  (s.sta_hash (wifi_mac_hash (lookup_addr hwaddr))).find? (fun psta => s.mac_addr psta = lookup_addr hwaddr)

def rtw_get_bcmc_stainfo (s : StaPriv) : Option (Fin NUM_STA) := rtw_get_stainfo s bc_addr

/-- Take the first free record, and enter it under its address. -/
def rtw_alloc_stainfo (s : StaPriv) (hwaddr : MacAddr) : Option (Fin NUM_STA) × StaPriv :=
  match s.free_sta_queue with
  | [] => (none, s)
  | psta :: rest =>
      let taken :=
        { s with pstainfo_buf := Function.update s.pstainfo_buf psta ⟨hwaddr, 0⟩, free_sta_queue := rest }
      if NUM_STA ≤ wifi_mac_hash hwaddr then (none, taken)
      else
        (some psta,
          { taken with
            sta_hash := Buckets.insert taken.sta_hash (wifi_mac_hash hwaddr) psta
            asoc_sta_count := taken.asoc_sta_count + 1 })

def PreLinkStaNode.names (addr : MacAddr) (node : PreLinkStaNode) : Bool :=
  node.valid && decide (node.addr = addr)

def rtw_is_pre_link_sta (s : StaPriv) (addr : MacAddr) : Bool :=
  s.pre_link_sta_ctl.node.any (PreLinkStaNode.names addr)

/-- A station that is announced keeps its record and its bucket. -/
def rtw_free_stainfo (s : StaPriv) (psta : Fin NUM_STA) : StaPriv :=
  if rtw_is_pre_link_sta s (s.mac_addr psta) then
    s.set_state psta (WIFI_FW_PRE_LINK &&& ~~~_FW_LINKED)
  else
    let unlinked := { s.unlink psta with asoc_sta_count := s.asoc_sta_count - 1 }
    { unlinked.set_state psta ((s.pstainfo_buf psta).state &&& ~~~_FW_LINKED) with
      free_sta_queue := s.free_sta_queue ++ [psta] }

/-- A pass of the first loop of `rtw_free_all_stainfo`. -/
def unlink_stainfo (s : StaPriv) (psta : Fin NUM_STA) : StaPriv :=
  if rtw_is_pre_link_sta s (s.mac_addr psta) then s else s.unlink psta

/-- `free_sta_list`: all stations but the one for group addresses. -/
def free_sta_list (s : StaPriv) : List (Fin NUM_STA) :=
  (entries NUM_STA s.sta_hash).filter fun psta => rtw_get_bcmc_stainfo s ≠ some psta

/-- The stations are unlinked first, and freed behind the lock. -/
def rtw_free_all_stainfo (s : StaPriv) : StaPriv :=
  if s.asoc_sta_count = 1 then s
  else (free_sta_list s).foldl rtw_free_stainfo ((free_sta_list s).foldl unlink_stainfo s)

def rtw_check_invalid_mac_address (mac_addr : MacAddr) : Bool :=
  mac_addr == .zero || mac_addr == bc_addr || IS_MCAST mac_addr

def StaPriv.set_node (s : StaPriv) (i num : Nat) (change : PreLinkStaNode -> PreLinkStaNode) : StaPriv :=
  { s with pre_link_sta_ctl := ⟨num, s.pre_link_sta_ctl.node.modify i change⟩ }

/-- The node of an address: the one it has, or a free one.  `none` when there is neither. -/
def pre_link_add_node (s : StaPriv) (hwaddr : MacAddr) : Option StaPriv :=
  if rtw_is_pre_link_sta s hwaddr then some s
  else
    (s.pre_link_sta_ctl.node.findIdx? fun node => !node.valid).map fun i =>
      s.set_node i (s.pre_link_sta_ctl.num + 1) fun _ => ⟨true, hwaddr⟩

def rtw_pre_link_sta_add (s : StaPriv) (hwaddr : MacAddr) : StaPriv :=
  if rtw_check_invalid_mac_address hwaddr then s
  else
    match pre_link_add_node s hwaddr with
    | none => s
    | some noted =>
        match rtw_get_stainfo noted hwaddr with
        | some _ => noted
        | none =>
            match rtw_alloc_stainfo noted hwaddr with
            | (none, after) => after
            | (some sta, after) => after.set_state sta WIFI_FW_PRE_LINK

/-- A station that was only announced is freed when it is announced no more. -/
def free_pre_linked (s : StaPriv) (hwaddr : MacAddr) : StaPriv :=
  match rtw_get_stainfo s hwaddr with
  | none => s
  | some sta => if (s.pstainfo_buf sta).state = WIFI_FW_PRE_LINK then rtw_free_stainfo s sta else s

def rtw_pre_link_sta_del (s : StaPriv) (hwaddr : MacAddr) : StaPriv :=
  if rtw_check_invalid_mac_address hwaddr then s
  else
    match s.pre_link_sta_ctl.node.findIdx? (PreLinkStaNode.names hwaddr) with
    | none => s
    | some i =>
        free_pre_linked
          (s.set_node i (s.pre_link_sta_ctl.num - 1) fun node => { node with valid := false }) hwaddr

def rtw_pre_link_sta_ctl_reset (s : StaPriv) : StaPriv :=
  let addrs := (s.pre_link_sta_ctl.node.filter (·.valid)).map (·.addr)
  let cleared :=
    { s with
      pre_link_sta_ctl :=
        ⟨s.pre_link_sta_ctl.num - addrs.length,
          s.pre_link_sta_ctl.node.map fun node => { node with valid := false }⟩ }
  addrs.foldl free_pre_linked cleared

/-- What happens to the table. -/
inductive TableOperation
  | rtw_alloc_stainfo (hwaddr : MacAddr)
  | rtw_free_stainfo (psta : Fin NUM_STA)
  | rtw_free_all_stainfo
  | rtw_pre_link_sta_add (hwaddr : MacAddr)
  | rtw_pre_link_sta_del (hwaddr : MacAddr)
  | rtw_pre_link_sta_ctl_reset

def StaPriv.step (s : StaPriv) : TableOperation -> StaPriv
  | .rtw_alloc_stainfo hwaddr => (Sta.rtw_alloc_stainfo s hwaddr).2
  | .rtw_free_stainfo psta => Sta.rtw_free_stainfo s psta
  | .rtw_free_all_stainfo => Sta.rtw_free_all_stainfo s
  | .rtw_pre_link_sta_add hwaddr => Sta.rtw_pre_link_sta_add s hwaddr
  | .rtw_pre_link_sta_del hwaddr => Sta.rtw_pre_link_sta_del s hwaddr
  | .rtw_pre_link_sta_ctl_reset => Sta.rtw_pre_link_sta_ctl_reset s

end Sta

end Rtl8821ce
