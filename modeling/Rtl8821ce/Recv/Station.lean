import Rtl8821ce.Recv.Header
import Rtl8821ce.Recv.Reorder

/-!
# Stations

`pstainfo_buf` holds `NUM_STA` station records.  A record is either in
`free_sta_queue` or in the hash table under its address; the buckets of the
table are kept here as one list, in the order of insertion, because a search
looks for an address and equal addresses share a bucket.
-/

namespace Rtl8821ce

/-- The fields of `struct sta_info` that the receive path uses. -/
structure StaInfo where
  mac_addr : MacAddr
  ieee8021x_blocked : Bool
  dot11tkiprxmickey : List UInt8
  tid_rxseq : Fin 16 -> Nat
  bmc_tid_rxseq : Fin 16 -> Nat
  nonqos_rxseq : Nat
  nonqos_bmc_rxseq : Nat
  defrag_q : List RecvFrame
  recvreorder_ctrl : Fin 16 -> RecvReorderCtrl

/-- A reorder session as `rtw_alloc_stainfo` leaves it. -/
def RecvReorderCtrl.init : RecvReorderCtrl where
  enable := false
  indicate_seq := 0xffff
  wsize_b := 64
  pending_recvframe_queue := []
  bReorderWaiting := false
  reordering_ctrl_timer := false

/-- A record as `rtw_alloc_stainfo` leaves it: everything zeroed, all queues
initialised as empty, and the sequence numbers per TID at `0xffff`. -/
def StaInfo.init (hwaddr : MacAddr) : StaInfo where
  mac_addr := hwaddr
  ieee8021x_blocked := false
  dot11tkiprxmickey := List.replicate 16 0
  tid_rxseq := fun _ => 0xffff
  bmc_tid_rxseq := fun _ => 0xffff
  nonqos_rxseq := 0
  nonqos_bmc_rxseq := 0
  defrag_q := []
  recvreorder_ctrl := fun _ => .init

/-- The fields of `struct sta_priv` that the receive path uses. -/
structure StaPriv where
  pstainfo_buf : Fin NUM_STA -> StaInfo
  free_sta_queue : List (Fin NUM_STA)
  sta_hash : List (Fin NUM_STA)

/-- `_rtw_init_sta_priv`. -/
def _rtw_init_sta_priv : StaPriv where
  pstainfo_buf := fun _ => .init .zero
  free_sta_queue := List.finRange NUM_STA
  sta_hash := []

def bc_addr : MacAddr := .broadcast

/-- Find a station.  All group addresses stand for the broadcast address. -/
def rtw_get_stainfo (pstapriv : StaPriv) (hwaddr : MacAddr) : Option (Fin NUM_STA) :=
  let addr := if IS_MCAST hwaddr then bc_addr else hwaddr
  pstapriv.sta_hash.find? (fun psta => (pstapriv.pstainfo_buf psta).mac_addr = addr)

def rtw_get_bcmc_stainfo (pstapriv : StaPriv) : Option (Fin NUM_STA) :=
  rtw_get_stainfo pstapriv bc_addr

/-- Take a record from the free queue, initialise it and enter it under its
address. -/
def rtw_alloc_stainfo (pstapriv : StaPriv) (hwaddr : MacAddr) : StaPriv :=
  match pstapriv.free_sta_queue with
  | [] => pstapriv
  | psta :: rest =>
      { pstainfo_buf := Function.update pstapriv.pstainfo_buf psta (.init hwaddr)
        free_sta_queue := rest
        sta_hash := pstapriv.sta_hash ++ [psta] }

/-- The reorder queues of a station that is freed: drained, their timers
cancelled. -/
def StaInfo.drain_reorder (psta : StaInfo) : StaInfo :=
  { psta with
    recvreorder_ctrl := fun tid =>
      { psta.recvreorder_ctrl tid with
        pending_recvframe_queue := []
        reordering_ctrl_timer := false } }

/-- Take a station out of the hash table, drain its reorder queues and put the
record back into the free queue.  The second part are the frames to free. -/
def rtw_free_stainfo (pstapriv : StaPriv) (psta : Fin NUM_STA) : StaPriv × List RecvFrame :=
  let record := pstapriv.pstainfo_buf psta
  ({ pstainfo_buf := Function.update pstapriv.pstainfo_buf psta record.drain_reorder
     free_sta_queue := pstapriv.free_sta_queue ++ [psta]
     sta_hash := pstapriv.sta_hash.erase psta },
    (List.finRange 16).flatMap
      (fun tid => (record.recvreorder_ctrl tid).pending_recvframe_queue))

namespace StaPriv

def modify (pstapriv : StaPriv) (psta : Fin NUM_STA) (change : StaInfo -> StaInfo) : StaPriv :=
  { pstapriv with
    pstainfo_buf :=
      Function.update pstapriv.pstainfo_buf psta (change (pstapriv.pstainfo_buf psta)) }

@[simp] theorem modify_same (pstapriv : StaPriv) (psta : Fin NUM_STA)
    (change : StaInfo -> StaInfo) :
    (pstapriv.modify psta change).pstainfo_buf psta = change (pstapriv.pstainfo_buf psta) :=
  Function.update_self _ _ _

theorem modify_of_ne (pstapriv : StaPriv) {psta other : Fin NUM_STA} (different : other ≠ psta)
    (change : StaInfo -> StaInfo) : (pstapriv.modify psta change).pstainfo_buf other = pstapriv.pstainfo_buf other :=
  Function.update_of_ne different _ _

@[simp] theorem modify_sta_hash (pstapriv : StaPriv) (psta : Fin NUM_STA)
    (change : StaInfo -> StaInfo) : (pstapriv.modify psta change).sta_hash = pstapriv.sta_hash :=
  rfl

@[simp] theorem modify_free_sta_queue (pstapriv : StaPriv) (psta : Fin NUM_STA)
    (change : StaInfo -> StaInfo) :
    (pstapriv.modify psta change).free_sta_queue = pstapriv.free_sta_queue := rfl

end StaPriv

theorem rtw_get_stainfo_modify {pstapriv : StaPriv} {psta : Fin NUM_STA} {change : StaInfo -> StaInfo}
    (mac_addr : (change (pstapriv.pstainfo_buf psta)).mac_addr =
      (pstapriv.pstainfo_buf psta).mac_addr) (hwaddr : MacAddr) :
    rtw_get_stainfo (pstapriv.modify psta change) hwaddr = rtw_get_stainfo pstapriv hwaddr := by
  have kept : ∀ other, ((pstapriv.modify psta change).pstainfo_buf other).mac_addr =
      (pstapriv.pstainfo_buf other).mac_addr := by
    intro other
    by_cases same : other = psta
    · rw [same, StaPriv.modify_same]
      exact mac_addr
    · rw [StaPriv.modify_of_ne _ same]
  simp only [rtw_get_stainfo, kept, StaPriv.modify_sta_hash]

/-- A station that was found is in the hash table. -/
theorem mem_sta_hash_of_found {pstapriv : StaPriv} {hwaddr : MacAddr} {psta : Fin NUM_STA}
    (found : rtw_get_stainfo pstapriv hwaddr = some psta) : psta ∈ pstapriv.sta_hash :=
  List.mem_of_find?_eq_some found

end Rtl8821ce
