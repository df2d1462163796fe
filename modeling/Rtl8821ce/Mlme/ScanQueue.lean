import Rtl8821ce.Recv.Frame
import Mathlib.Data.Fintype.Basic
import Mathlib.Data.List.FinRange

/-!
# The list of scan results

The entries for scan results are in one of two lists, `scanned_queue` and `free_bss_pool`.
A description that is the same network as an entry is merged into it; any other one takes a
free entry or, when there is none, the entry with the weakest signal.  A hidden network has
an SSID of length 0 or of zeros, and is the same as any other of its BSSID.
-/

namespace Rtl8821ce

namespace Scan

/-- `Reserved[0]` of a description: the frame it is from. -/
inductive BssType
  | UNDEF
  | BCN
  | PROB_REQ
  | PROB_RSP
deriving DecidableEq, Repr

def BssType.value : BssType -> Nat
  | .UNDEF => 0
  | .BCN => 1
  | .PROB_REQ => 2
  | .PROB_RSP => 3

structure WlanPhyInfo where
  SignalStrength : UInt8
  SignalQuality : UInt8
deriving DecidableEq

/-- `WLAN_BSSID_EX`: the fields that the functions read.  `IEs` has the `IELength` bytes of
the body, the fixed elements first. -/
structure WlanBssidEx where
  MacAddress : MacAddr
  bss_type : BssType
  Ssid : List UInt8
  Rssi : Int
  PhyInfo : WlanPhyInfo
  IEs : List UInt8
deriving DecidableEq

/-- `struct wlan_network`. -/
structure WlanNetwork where
  network : WlanBssidEx
  fixed : Bool
  last_scanned : UInt64
deriving DecidableEq

/-- `struct mlme_priv`: the entries of `free_bss_buf` and the two lists. -/
structure MlmePriv (max_bss_cnt : Nat) where
  free_bss_buf : Fin max_bss_cnt -> WlanNetwork
  scanned_queue : List (Fin max_bss_cnt)
  free_bss_pool : List (Fin max_bss_cnt)
  num_of_scanned : Nat

/-- What the connection and the receiver know while a result arrives. -/
structure Link where
  linked : Bool
  cur_network : WlanBssidEx
  signal_strength : UInt8
  signal_qual : UInt8

def WLAN_CAPABILITY_BSS : UInt8 := 0x01

def WLAN_CAPABILITY_IBSS : UInt8 := 0x02

/-- The low byte of the capability; the two bits that are compared are there. -/
def rtw_get_capability_from_ie (ie : List UInt8) : UInt8 := ie.getD (8 + 2) 0

def is_all_null (c : List UInt8) : Bool := c.all (· == 0)

def is_same_network (src dst : WlanBssidEx) (feature : Bool) : Bool :=
  let s_cap := rtw_get_capability_from_ie src.IEs
  let d_cap := rtw_get_capability_from_ie dst.IEs
  if feature ∧ src.MacAddress = dst.MacAddress then true
  else if src.MacAddress = dst.MacAddress ∧ s_cap &&& WLAN_CAPABILITY_IBSS = d_cap &&& WLAN_CAPABILITY_IBSS ∧
      s_cap &&& WLAN_CAPABILITY_BSS = d_cap &&& WLAN_CAPABILITY_BSS then
    if src.Ssid.length = dst.Ssid.length ∧
        (src.Ssid = dst.Ssid ∨ is_all_null src.Ssid = true ∨ is_all_null dst.Ssid = true) then true
    else src.Ssid.length = 0 ∨ dst.Ssid.length = 0
  else false

variable {max_bss_cnt : Nat}

def MlmePriv.set (s : MlmePriv max_bss_cnt) (pnetwork : Fin max_bss_cnt) (entry : WlanNetwork) : MlmePriv max_bss_cnt :=
  { s with free_bss_buf := Function.update s.free_bss_buf pnetwork entry }

/-- The first entry of the pool; it is in neither list until it is inserted. -/
def rtw_alloc_network (s : MlmePriv max_bss_cnt) (now : UInt64) : Option (Fin max_bss_cnt × MlmePriv max_bss_cnt) :=
  match s.free_bss_pool with
  | [] => none
  | pnetwork :: rest =>
      some (pnetwork,
        { s.set pnetwork { s.free_bss_buf pnetwork with fixed := false, last_scanned := now } with
          free_bss_pool := rest
          num_of_scanned := s.num_of_scanned + 1 })

def MlmePriv.give_back (s : MlmePriv max_bss_cnt) (pnetwork : Fin max_bss_cnt) : MlmePriv max_bss_cnt :=
  { s with
    scanned_queue := s.scanned_queue.erase pnetwork
    free_bss_pool := s.free_bss_pool ++ [pnetwork]
    num_of_scanned := s.num_of_scanned - 1 }

def SCANQUEUE_LIFETIME : UInt32 := 20000

/-- `jiffies_to_msecs` is the kernel's; `adhoc` says that the state is one of an IBSS. -/
def _rtw_free_network (jiffies_to_msecs : UInt64 -> UInt32) (now : UInt64) (adhoc isfreeall : Bool)
    (s : MlmePriv max_bss_cnt) (pnetwork : Fin max_bss_cnt) : MlmePriv max_bss_cnt :=
  let entry := s.free_bss_buf pnetwork
  let lifetime := if adhoc then 1 else SCANQUEUE_LIFETIME
  if entry.fixed then s
  else if ¬ isfreeall ∧ jiffies_to_msecs (now - entry.last_scanned) < lifetime then s
  else s.give_back pnetwork

def _rtw_free_network_nolock (s : MlmePriv max_bss_cnt) (pnetwork : Fin max_bss_cnt) : MlmePriv max_bss_cnt :=
  if (s.free_bss_buf pnetwork).fixed then s else s.give_back pnetwork

/-- The next entry is taken before the current one is freed. -/
def rtw_free_network_queue (jiffies_to_msecs : UInt64 -> UInt32) (now : UInt64) (adhoc isfreeall : Bool)
    (s : MlmePriv max_bss_cnt) : MlmePriv max_bss_cnt :=
  s.scanned_queue.foldl (_rtw_free_network jiffies_to_msecs now adhoc isfreeall) s

/-- Four fifths of the history and one of the sample, as bytes. -/
def smoothed (sample history : UInt8) : UInt8 := .ofNat ((sample.toNat + history.toNat * 4) / 5)

/-- The bss info was not received on the right channel. -/
def WRONG_CHANNEL : UInt8 := 101

def update_network (link : Link) (dst src : WlanBssidEx) (update_ie : Bool) : WlanBssidEx :=
  let sq_smp := src.PhyInfo.SignalQuality
  let rssi_final := if sq_smp ≠ WRONG_CHANNEL then (src.Rssi + dst.Rssi * 4).tdiv 5 else dst.Rssi
  let phy_final : WlanPhyInfo :=
    if link.linked ∧ is_same_network link.cur_network src false = true then ⟨link.signal_strength, link.signal_qual⟩
    else if sq_smp ≠ WRONG_CHANNEL then
      ⟨smoothed src.PhyInfo.SignalStrength dst.PhyInfo.SignalStrength,
        smoothed src.PhyInfo.SignalQuality dst.PhyInfo.SignalQuality⟩
    else dst.PhyInfo
  let dst := if update_ie then src else dst
  { dst with PhyInfo := phy_final, Rssi := rssi_final }

def stored (target : WlanBssidEx) : WlanBssidEx :=
  if target.PhyInfo.SignalQuality = WRONG_CHANNEL then
    { target with PhyInfo := { target.PhyInfo with SignalQuality := 0 } }
  else target

def takes_elements (network target : WlanBssidEx) : Bool :=
  -- a test of the lengths comes first, but both branches of this one set the flag again
  target.bss_type ≠ .PROB_REQ ∧ network.bss_type.value ≤ target.bss_type.value

/-- The loop: the entry that is the same network, or the weakest one that is not fixed. -/
def search (p2p : Bool) (free_bss_buf : Fin max_bss_cnt -> WlanNetwork) (target : WlanBssidEx) :
    Option (Fin max_bss_cnt) -> List (Fin max_bss_cnt) -> Option (Fin max_bss_cnt) × Option (Fin max_bss_cnt)
  | choice, [] => (none, choice)
  | choice, pnetwork :: rest =>
      let entry := free_bss_buf pnetwork
      if p2p ∧ entry.network.MacAddress = target.MacAddress then (some pnetwork, choice)
      else if is_same_network entry.network target p2p then (some pnetwork, choice)
      else if entry.fixed then search p2p free_bss_buf target choice rest
      else
        match choice with
        | none => search p2p free_bss_buf target (some pnetwork) rest
        | some weakest =>
            if entry.network.PhyInfo.SignalStrength < (free_bss_buf weakest).network.PhyInfo.SignalStrength then
              search p2p free_bss_buf target (some pnetwork) rest
            else search p2p free_bss_buf target choice rest

def rtw_update_scanned_network (p2p : Bool) (link : Link) (now : UInt64) (target : WlanBssidEx)
    (s : MlmePriv max_bss_cnt) : MlmePriv max_bss_cnt :=
  match search p2p s.free_bss_buf target none s.scanned_queue with
  | (some pnetwork, _) =>
      let entry := s.free_bss_buf pnetwork
      s.set pnetwork
        { entry with
          last_scanned := now
          network := update_network link entry.network target (takes_elements entry.network target) }
  | (none, choice) =>
      if s.free_bss_pool = [] then
        match choice with
        | none => s
        | some pnetwork => s.set pnetwork ⟨stored target, false, now⟩
      else
        match rtw_alloc_network s now with
        | none => s
        | some (pnetwork, s) =>
            { s.set pnetwork ⟨stored target, (s.free_bss_buf pnetwork).fixed, now⟩ with
              scanned_queue := s.scanned_queue ++ [pnetwork] }

inductive ScanOperation (max_bss_cnt : Nat)
  | update_scanned_network (link : Link) (now : UInt64) (target : WlanBssidEx)
  | free_network_queue (now : UInt64) (adhoc isfreeall : Bool)
  | free_network_nolock (pnetwork : Fin max_bss_cnt)
  | set_fixed (pnetwork : Fin max_bss_cnt) (fixed : Bool)

/-- P2P is idle.  An entry is fixed while the station is joined to it. -/
def scan_step (jiffies_to_msecs : UInt64 -> UInt32) (s : MlmePriv max_bss_cnt) :
    ScanOperation max_bss_cnt -> MlmePriv max_bss_cnt
  | .update_scanned_network link now target => rtw_update_scanned_network false link now target s
  | .free_network_queue now adhoc isfreeall => rtw_free_network_queue jiffies_to_msecs now adhoc isfreeall s
  | .free_network_nolock pnetwork => _rtw_free_network_nolock s pnetwork
  | .set_fixed pnetwork fixed => s.set pnetwork { s.free_bss_buf pnetwork with fixed }

/-- A description has its fixed elements and fits in the entry, as `collect_bss_info` checks,
and an entry is freed that was found in the queue. -/
def Called (s : MlmePriv max_bss_cnt) : ScanOperation max_bss_cnt -> Prop
  | .update_scanned_network _ _ target => 12 ≤ target.IEs.length ∧ target.IEs.length ≤ 768 ∧ target.Ssid.length ≤ 32
  | .free_network_nolock pnetwork => pnetwork ∈ s.scanned_queue
  | .free_network_queue _ _ _ | .set_fixed _ _ => True

instance (s : MlmePriv max_bss_cnt) : DecidablePred (Called s)
  | .update_scanned_network _ _ _ => inferInstanceAs (Decidable (_ ∧ _ ∧ _))
  | .free_network_nolock _ => inferInstanceAs (Decidable (_ ∈ _))
  | .free_network_queue _ _ _ | .set_fixed _ _ => isTrue trivial

def init_mlme_priv (max_bss_cnt : Nat) : MlmePriv max_bss_cnt where
  free_bss_buf := fun _ => ⟨⟨.zero, .UNDEF, [], 0, ⟨0, 0⟩, []⟩, false, 0⟩
  scanned_queue := []
  free_bss_pool := List.finRange max_bss_cnt
  num_of_scanned := 0

end Scan

end Rtl8821ce
