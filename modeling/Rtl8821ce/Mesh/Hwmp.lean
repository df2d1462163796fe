import Rtl8821ce.Mesh.PathQuota

/-!
# Path selection

Stations of a mesh learn their paths from PREQ, PREP, PERR and RANN elements.
`rtw_hwmp_route_info_get` takes from a PREQ or a PREP what it says about the
station it started from and about the station that transmitted it; then each
kind of element is processed by a function of its own.  The elements are given
by their fields, as the macros of the source read them.

Transmissions are recorded as calls of the functions that build the frames.
-/

namespace Rtl8821ce

def RTW_MAX_METRIC : BitVec 32 := 0xffffffff

def RTW_SN_GT (x y : BitVec 32) : Bool := (y - x).slt 0

def RTW_SN_LT (x y : BitVec 32) : Bool := (x - y).slt 0

def RTW_SN_DELTA (x y : BitVec 32) : BitVec 32 := if x >= y then x - y else y - x

def RTW_MAX_SANE_SN_DELTA : BitVec 32 := 32

def RTW_MAX_PREQ_QUEUE_LEN : Nat := 64

/-- What `struct rtw_mesh_cfg` configures, with times in the unit of `systime`,
and the conversion of time units to it. -/
structure MeshCfg where
  element_ttl : BitVec 8
  dot11MeshForwarding : Bool
  dot11MeshGateAnnouncementProtocol : Bool
  net_traversal_jiffies : Systime
  root_path_confirmation_jiffies : Systime
  tu_to_systime : BitVec 32 -> Systime

/-- The fields of `struct rtw_mesh_stats` that path selection counts up. -/
structure MeshStats where
  fwded_mcast : Nat
  fwded_unicast : Nat
  fwded_frames : Nat
  dropped_frames_ttl : Nat
  dropped_frames_no_route : Nat

/-- `enum rtw_mpath_frame_type`, without PERR. -/
inductive MpathFrameType
  | RTW_MPATH_PREQ
  | RTW_MPATH_PREP
  | RTW_MPATH_RANN
  deriving DecidableEq

/-- A call that transmits path selection elements. -/
inductive HwmpTx
  | rtw_mesh_path_sel_frame_tx (mpath_action : MpathFrameType) (flags : BitVec 8)
      (originator_addr : MacAddr) (originator_sn : BitVec 32) (target_flags : BitVec 8)
      (target : Option MacAddr) (target_sn : BitVec 32) (da : MacAddr) (hopcount ttl : BitVec 8)
      (lifetime metric preq_id : BitVec 32)
  | rtw_mesh_path_error_tx (ttl : BitVec 8) (target : MacAddr) (target_sn : BitVec 32)
      (perr_reason_code : BitVec 16) (ra : MacAddr)

/-- What path selection works on. -/
structure Hwmp where
  info : MeshInfo
  known_gates : List MacAddr
  sn : BitVec 32
  last_sn_update : Systime
  mshstats : MeshStats
  /-- The field `attrib.ra` of the frames. -/
  ra : Nat -> MacAddr
  mpath_tx_queue : List Nat
  preq_queue : List (MacAddr × BitVec 8)
  sent : List HwmpTx

/-- What surrounds the reception of an element: the time, the address of the
transmitter, the link metric of its station if there is one, and which
allocations and insertions succeed. -/
structure HwmpRx where
  now : Systime
  addr2 : MacAddr
  link_metric : Option (BitVec 32)
  alloc : MacAddr -> Bool
  ret : MacAddr -> Option Nat
  preq_alloc : Bool

structure Preq where
  flags : BitVec 8
  hopcount : BitVec 8
  ttl : BitVec 8
  preq_id : BitVec 32
  orig_addr : MacAddr
  orig_sn : BitVec 32
  lifetime : BitVec 32
  metric : BitVec 32
  target_f : BitVec 8
  target_addr : MacAddr
  target_sn : BitVec 32

/-- The target of a PREP is the station it started from. -/
structure Prep where
  flags : BitVec 8
  hopcount : BitVec 8
  ttl : BitVec 8
  target_addr : MacAddr
  target_sn : BitVec 32
  lifetime : BitVec 32
  metric : BitVec 32
  orig_addr : MacAddr
  orig_sn : BitVec 32

structure Perr where
  ttl : BitVec 8
  target_addr : MacAddr
  target_sn : BitVec 32
  rcode : BitVec 16

structure Rann where
  rann_flags : BitVec 8
  rann_hopcount : BitVec 8
  rann_ttl : BitVec 8
  rann_addr : MacAddr
  rann_seq : BitVec 32
  rann_interval : BitVec 32
  rann_metric : BitVec 32

def rtw_mpath_expired (now : Systime) (mpath : MeshPath) : Bool :=
  mpath.flags.ACTIVE && rtw_time_after now mpath.exp_time && !mpath.flags.FIXED

namespace Hwmp

def path (s : Hwmp) (dst : MacAddr) : Option MeshPath := s.info.mesh_paths.lookup dst

def modify (s : Hwmp) (dst : MacAddr) (change : MeshPath -> MeshPath) : Hwmp :=
  match s.path dst with
  | none => s
  | some mpath =>
      { s with info := { s.info with mesh_paths := s.info.mesh_paths.insert dst (change mpath) } }

end Hwmp

/-- Look a path up.  A path that has expired is no longer active. -/
def rtw_mesh_path_lookup (s : Hwmp) (now : Systime) (dst : MacAddr) : Option MeshPath × Hwmp :=
  let looked := s.modify dst (fun mpath =>
    if rtw_mpath_expired now mpath then
      { mpath with flags := { mpath.flags with ACTIVE := false } }
    else mpath)
  (looked.path dst, looked)

/-- Set the next hop of a path, also in the frames that wait for it. -/
def rtw_mesh_path_assign_nexthop (s : Hwmp) (dst sta : MacAddr) : Hwmp :=
  let waiting := (s.path dst).elim [] (fun mpath => mpath.frame_queue)
  { s.modify dst (fun mpath => { mpath with next_hop := some sta }) with
    ra := fun xframe => if xframe ∈ waiting then sta else s.ra xframe }

/-- `rtw_mesh_path_tx_pending`: hand the frames of an active path over for transmission. -/
def hwmp_path_tx_pending (s : Hwmp) (dst : MacAddr) : Hwmp :=
  match s.path dst with
  | none => s
  | some mpath =>
      if mpath.flags.ACTIVE && mpath.frame_queue_len != 0 then
        { s.modify dst (fun mpath => { mpath with frame_queue := [], frame_queue_len := 0 }) with
          mpath_tx_queue := s.mpath_tx_queue ++ mpath.frame_queue }
      else s

def rtw_mesh_path_add_gate (s : Hwmp) (dst : MacAddr) : Hwmp :=
  match s.path dst with
  | none => s
  | some mpath =>
      if mpath.is_gate then s
      else
        { s.modify dst (fun mpath => { mpath with is_gate := true }) with
          known_gates := dst :: s.known_gates }

def rtw_mesh_gate_del (s : Hwmp) (dst : MacAddr) : Hwmp :=
  match s.path dst with
  | none => s
  | some mpath =>
      if mpath.is_gate then
        { s.modify dst (fun mpath => { mpath with is_gate := false }) with
          known_gates := s.known_gates.erase dst }
      else s

/-- What a PREQ and a RANN do with the gate flag of the path to their originator. -/
def announce_gate (s : Hwmp) (dst : MacAddr) (is_gate : Bool) (interval : BitVec 32) : Hwmp :=
  if is_gate then
    rtw_mesh_path_add_gate
      (s.modify dst (fun path => { path with gate_ann_int := interval, gate_asked := false })) dst
  else rtw_mesh_gate_del s dst

/-- Queue a PREQ for a path, unless one is queued already. -/
def rtw_mesh_queue_preq (s : Hwmp) (preq_alloc : Bool) (dst : MacAddr) (flags : BitVec 8) : Hwmp :=
  match s.path dst with
  | none => s
  | some mpath =>
      if preq_alloc = false ∨ s.preq_queue.length = RTW_MAX_PREQ_QUEUE_LEN ∨
          mpath.flags.REQ_QUEUED = true then s
      else
        { s.modify dst (fun mpath =>
            { mpath with flags := { mpath.flags with REQ_QUEUED := true } }) with
          preq_queue := s.preq_queue ++ [(dst, flags)] }

/-- What the element says about the station it started from. -/
structure Originator where
  originator_addr : MacAddr
  originator_sn : BitVec 32
  originator_lifetime : BitVec 32
  originator_metric : BitVec 32

def Preq.originator (preq : Preq) : Originator :=
  ⟨preq.orig_addr, preq.orig_sn, preq.lifetime, preq.metric⟩

def Prep.originator (prep : Prep) : Originator :=
  ⟨prep.target_addr, prep.target_sn, prep.lifetime, prep.metric⟩

/-- The metric of the element with the last hop added to it. -/
def hwmp_new_metric (originator_metric last_hop_metric : BitVec 32) : BitVec 32 :=
  if originator_metric + last_hop_metric < originator_metric then RTW_MAX_METRIC
  else originator_metric + last_hop_metric

/-- Whether information about the originator is processed, and whether the path
takes it.  In the source these are `process` and `fresh_info`. -/
def originator_fresh (path : MeshPath) (originator_sn new_metric : BitVec 32) : Bool × Bool :=
  if path.flags.FIXED then (true, false)
  else if path.flags.ACTIVE && path.flags.SN_VALID then
    if RTW_SN_GT path.sn originator_sn ||
        (path.sn == originator_sn && decide (path.metric ≤ new_metric)) then (false, false)
    else (true, true)
  else if !path.flags.ACTIVE then
    let have_sn := path.flags.SN_VALID
    let newer_sn := have_sn && RTW_SN_GT originator_sn path.sn
    let bounced := have_sn &&
      decide (RTW_MAX_SANE_SN_DELTA < RTW_SN_DELTA originator_sn path.sn)
    if !have_sn || newer_sn then (true, true)
    else if bounced then (true, true)
    else (false, false)
  else (true, true)

/-- The later one of the expiry of a path and a new one. -/
def later_exp_time (path : MeshPath) (exp_time : Systime) : Systime :=
  if rtw_time_after path.exp_time exp_time then path.exp_time else exp_time

/-- `rtw_mesh_path_activate`. -/
def MeshPathFlags.activate (flags : MeshPathFlags) : MeshPathFlags :=
  { flags with ACTIVE := true, RESOLVED := true }

/-- The path to the originator takes what the element says. -/
def accept_originator (cfg : MeshCfg) (rx : HwmpRx) (s : Hwmp) (originator : Originator)
    (new_metric : BitVec 32) : Hwmp :=
  let dst := originator.originator_addr
  let exp_time := rx.now + cfg.tu_to_systime originator.originator_lifetime
  let assigned := rtw_mesh_path_assign_nexthop s dst rx.addr2
  hwmp_path_tx_pending
    (assigned.modify dst (fun path => { path with
      flags := { path.flags with SN_VALID := true }.activate
      metric := new_metric
      sn := originator.originator_sn
      exp_time := later_exp_time path exp_time })) dst

/-- The part of `rtw_hwmp_route_info_get` about the originator.  The answer is
`process`, or nothing when a path cannot be added. -/
def originator_update (cfg : MeshCfg) (rx : HwmpRx) (s : Hwmp) (originator : Originator)
    (new_metric : BitVec 32) : Option Bool × Hwmp :=
  let dst := originator.originator_addr
  if dst = s.info.adapter_mac_addr then (some false, s)
  else
    let looked := rtw_mesh_path_lookup s rx.now dst
    match looked.1 with
    | some path =>
        let fresh := originator_fresh path originator.originator_sn new_metric
        (some fresh.1,
          if fresh.2 then accept_originator cfg rx looked.2 originator new_metric else looked.2)
    | none =>
        let added := rtw_mesh_path_add looked.2.info rx.now (rx.alloc dst) (rx.ret dst) dst
        match added.1 with
        | .error _ => (none, { looked.2 with info := added.2 })
        | .ok _ =>
            (some true,
              accept_originator cfg rx { looked.2 with info := added.2 } originator new_metric)

/-- The path to the transmitter is the last hop itself. -/
def accept_transmitter (cfg : MeshCfg) (rx : HwmpRx) (s : Hwmp) (lifetime : BitVec 32)
    (last_hop_metric : BitVec 32) : Hwmp :=
  let ta := rx.addr2
  let exp_time := rx.now + cfg.tu_to_systime lifetime
  let assigned := rtw_mesh_path_assign_nexthop s ta rx.addr2
  hwmp_path_tx_pending
    (assigned.modify ta (fun path => { path with
      metric := last_hop_metric
      exp_time := later_exp_time path exp_time
      flags := path.flags.activate })) ta

/-- The part of `rtw_hwmp_route_info_get` about the transmitter.  The answer is
whether no path was missing that could not be added. -/
def transmitter_update (cfg : MeshCfg) (rx : HwmpRx) (s : Hwmp) (originator : Originator)
    (last_hop_metric : BitVec 32) : Bool × Hwmp :=
  let ta := rx.addr2
  if originator.originator_addr = ta then (true, s)
  else
    let looked := rtw_mesh_path_lookup s rx.now ta
    match looked.1 with
    | some path =>
        let fresh := !(path.flags.FIXED ||
          path.flags.ACTIVE && decide (path.metric < last_hop_metric))
        (true,
          if fresh then
            accept_transmitter cfg rx looked.2 originator.originator_lifetime last_hop_metric
          else looked.2)
    | none =>
        let added := rtw_mesh_path_add looked.2.info rx.now (rx.alloc ta) (rx.ret ta) ta
        match added.1 with
        | .error _ => (false, { looked.2 with info := added.2 })
        | .ok _ =>
            (true,
              accept_transmitter cfg rx { looked.2 with info := added.2 }
                originator.originator_lifetime last_hop_metric)

/-- The answer is the metric of the path, or 0 when the element is not processed. -/
def rtw_hwmp_route_info_get (cfg : MeshCfg) (rx : HwmpRx) (s : Hwmp) (originator : Originator) : BitVec 32 × Hwmp :=
  match rx.link_metric with
  | none => (0, s)
  | some last_hop_metric =>
      let new_metric := hwmp_new_metric originator.originator_metric last_hop_metric
      let updated := originator_update cfg rx s originator new_metric
      match updated.1 with
      | none => (0, updated.2)
      | some process =>
          let transmitted := transmitter_update cfg rx updated.2 originator last_hop_metric
          (if transmitted.1 && process then new_metric else 0, transmitted.2)

/-! ## The elements -/

namespace Hwmp

def transmit (s : Hwmp) (tx : HwmpTx) : Hwmp := { s with sent := s.sent ++ [tx] }

def count (s : Hwmp) (change : MeshStats -> MeshStats) : Hwmp :=
  { s with mshstats := change s.mshstats }

end Hwmp

/-- Whether a PREQ asks for all stations that it reaches: `target_addr` is the
broadcast address and the flag `RTW_IEEE80211_PREQ_TO_FLAG` is set. -/
def Preq.proactive (preq : Preq) : Bool :=
  preq.target_addr = mesh_bcast_addr && preq.target_f.getLsbD 0

/-- The target of a PREQ takes its number, or the path to it answers the PREQ. -/
def preq_target_sn (path : MeshPath) (target_sn : BitVec 32) : MeshPath :=
  if !path.flags.SN_VALID || RTW_SN_LT path.sn target_sn then
    { path with sn := target_sn, flags := { path.flags with SN_VALID := true } }
  else path

/-- The variables that `rtw_hwmp_preq_frame_process` has set when it comes to the reply. -/
structure PreqTurn where
  path : Option MeshPath
  target_addr : MacAddr
  target_sn : BitVec 32
  target_metric : BitVec 32
  target_flags : BitVec 8
  reply : Bool
  forward : Bool
  to_gate_ask : Bool

/-- The first half of `rtw_hwmp_preq_frame_process`. -/
def preq_turn (cfg : MeshCfg) (rx : HwmpRx) (s : Hwmp) (preq : Preq) : PreqTurn × Hwmp :=
  let turn : PreqTurn :=
    ⟨none, preq.target_addr, preq.target_sn, 0, preq.target_f, false, true, false⟩
  if preq.target_addr = s.info.adapter_mac_addr then
    let outdated := rtw_time_after rx.now (s.last_sn_update + cfg.net_traversal_jiffies) ||
      rtw_time_before rx.now s.last_sn_update
    let s := if outdated then { s with sn := s.sn + 1, last_sn_update := rx.now } else s
    ({ turn with target_sn := s.sn, reply := true, forward := false, to_gate_ask := true }, s)
  else if preq.proactive then
    let looked := rtw_mesh_path_lookup s rx.now preq.orig_addr
    match looked.1 with
    | none => (turn, looked.2)
    | some path =>
        let prep := preq.flags.getLsbD 2
        let s := if prep then { looked.2 with sn := looked.2.sn + 1, last_sn_update := rx.now }
          else looked.2
        let turn := if prep then
            { turn with
              reply := true
              target_addr := s.info.adapter_mac_addr
              target_sn := s.sn }
          else turn
        ({ turn with path := some path },
          announce_gate s preq.orig_addr (preq.flags.getLsbD 0) preq.lifetime)
  else
    let looked := rtw_mesh_path_lookup s rx.now preq.target_addr
    match looked.1 with
    | none => (turn, looked.2)
    | some path =>
        let updated :=
          looked.2.modify preq.target_addr (fun path => preq_target_sn path preq.target_sn)
        let answers := !(!path.flags.SN_VALID || RTW_SN_LT path.sn preq.target_sn) &&
          !preq.target_f.getLsbD 0 && path.flags.ACTIVE
        let turn := { turn with path := some (preq_target_sn path preq.target_sn) }
        if answers then
          ({ turn with
              reply := true
              target_metric := path.metric
              target_sn := path.sn
              target_flags := preq.target_f ||| 1 }, updated)
        else (turn, updated)

/-- The reply of `rtw_hwmp_preq_frame_process`. -/
def preq_reply (cfg : MeshCfg) (rx : HwmpRx) (s : Hwmp) (preq : Preq) (turn : PreqTurn) : Hwmp :=
  if turn.reply then
    if cfg.element_ttl ≠ 0 then
      -- BIT 7 is used to identify the prep is from mesh gate
      let flags : BitVec 8 :=
        if turn.to_gate_ask && cfg.dot11MeshGateAnnouncementProtocol then 0x81 else 0
      s.transmit (.rtw_mesh_path_sel_frame_tx .RTW_MPATH_PREP flags preq.orig_addr preq.orig_sn 0
        (some turn.target_addr) turn.target_sn rx.addr2 0 cfg.element_ttl preq.lifetime
        turn.target_metric 0)
    else s.count (fun stats => { stats with dropped_frames_ttl := stats.dropped_frames_ttl + 1 })
  else s

/-- The forwarding of `rtw_hwmp_preq_frame_process`. -/
def preq_forward (cfg : MeshCfg) (s : Hwmp) (preq : Preq) (turn : PreqTurn) (originator_metric : BitVec 32) : Hwmp :=
  if turn.forward && cfg.dot11MeshForwarding then
    if preq.ttl ≤ 1 then
      s.count (fun stats => { stats with dropped_frames_ttl := stats.dropped_frames_ttl + 1 })
    else
      let da :=
        match turn.path with
        | some path => if path.is_root then path.rann_snd_addr else mesh_bcast_addr
        | none => mesh_bcast_addr
      let target := if preq.flags.getLsbD 2 then (preq.target_addr, preq.target_sn)
        else (turn.target_addr, turn.target_sn)
      let forwarded := s.transmit (.rtw_mesh_path_sel_frame_tx .RTW_MPATH_PREQ preq.flags
        preq.orig_addr preq.orig_sn turn.target_flags (some target.1) target.2 da
        (preq.hopcount + 1) (preq.ttl - 1) preq.lifetime originator_metric preq.preq_id)
      forwarded.count (fun stats =>
        let unicast := !is_multicast_mac_addr da
        { stats with
          fwded_unicast := if unicast then stats.fwded_unicast + 1 else stats.fwded_unicast
          fwded_mcast := if unicast then stats.fwded_mcast else stats.fwded_mcast + 1
          fwded_frames := stats.fwded_frames + 1 })
  else s

def rtw_hwmp_preq_frame_process (cfg : MeshCfg) (rx : HwmpRx) (s : Hwmp) (preq : Preq)
    (originator_metric : BitVec 32) : Hwmp :=
  let turned := preq_turn cfg rx s preq
  preq_forward cfg (preq_reply cfg rx turned.2 preq turned.1) preq turned.1 originator_metric

def rtw_hwmp_prep_frame_process (cfg : MeshCfg) (rx : HwmpRx) (s : Hwmp) (prep : Prep) (metric : BitVec 32) : Hwmp :=
  if prep.orig_addr = s.info.adapter_mac_addr then
    let looked := rtw_mesh_path_lookup s rx.now prep.target_addr
    match looked.1 with
    | none => looked.2
    | some path =>
        if path.gate_asked && prep.flags.getLsbD 7 then
          let answered :=
            looked.2.modify prep.target_addr (fun path => { path with gate_asked := false })
          if prep.flags.getLsbD 0 then answered else rtw_mesh_gate_del answered prep.target_addr
        else looked.2
  else if !cfg.dot11MeshForwarding then s
  else if prep.ttl ≤ 1 then
    s.count (fun stats => { stats with dropped_frames_ttl := stats.dropped_frames_ttl + 1 })
  else
    let looked := rtw_mesh_path_lookup s rx.now prep.orig_addr
    let next_hop :=
      match looked.1 with
      | some path => if path.flags.ACTIVE then path.next_hop else none
      | none => none
    match next_hop with
    | some next_hop =>
        let forwarded := looked.2.transmit (.rtw_mesh_path_sel_frame_tx .RTW_MPATH_PREP prep.flags
          prep.orig_addr prep.orig_sn 0 (some prep.target_addr) prep.target_sn next_hop
          (prep.hopcount + 1) (prep.ttl - 1) prep.lifetime metric 0)
        forwarded.count (fun stats => { stats with
          fwded_unicast := stats.fwded_unicast + 1
          fwded_frames := stats.fwded_frames + 1 })
    | none =>
        looked.2.count (fun stats =>
          { stats with dropped_frames_no_route := stats.dropped_frames_no_route + 1 })

/-- Whether a PERR from `ta` breaks a path. -/
def perr_breaks (path : MeshPath) (ta : MacAddr) (target_sn : BitVec 32) : Bool :=
  path.flags.ACTIVE && path.next_hop = some ta && !path.flags.FIXED &&
    (!path.flags.SN_VALID || RTW_SN_GT target_sn path.sn || target_sn == 0)

def MeshPath.broken (path : MeshPath) (target_sn : BitVec 32) : MeshPath :=
  { path with
    flags := { path.flags with ACTIVE := false }
    sn := if target_sn ≠ 0 then target_sn else path.sn + 1 }

def rtw_hwmp_perr_frame_process (cfg : MeshCfg) (rx : HwmpRx) (s : Hwmp) (perr : Perr) : Hwmp :=
  if perr.ttl ≤ 1 then
    s.count (fun stats => { stats with dropped_frames_ttl := stats.dropped_frames_ttl + 1 })
  else
    let looked := rtw_mesh_path_lookup s rx.now perr.target_addr
    match looked.1 with
    | none => looked.2
    | some path =>
        if perr_breaks path rx.addr2 perr.target_sn then
          let broken := looked.2.modify perr.target_addr (fun path => path.broken perr.target_sn)
          if cfg.dot11MeshForwarding then
            broken.transmit (.rtw_mesh_path_error_tx (perr.ttl - 1) perr.target_addr
              perr.target_sn perr.rcode mesh_bcast_addr)
          else broken
        else looked.2

/-- Whether a RANN is newer than what the path has, or as new and better. -/
def rann_fresh (path : MeshPath) (rann : Rann) : Bool :=
  RTW_SN_LT path.sn rann.rann_seq ||
    path.sn == rann.rann_seq && decide (rann.rann_metric < path.rann_metric)

/-- Whether a RANN makes the root be asked for a path. -/
def rann_asks (cfg : MeshCfg) (rx : HwmpRx) (path : MeshPath) (rann : Rann) : Bool :=
  (!(path.flags.ACTIVE || path.flags.RESOLVING) ||
      (rtw_time_after rx.now (path.last_preq_to_root + cfg.root_path_confirmation_jiffies) ||
        rtw_time_before rx.now path.last_preq_to_root)) &&
    !path.flags.FIXED && rann.rann_ttl != 0

def ask_root (cfg : MeshCfg) (rx : HwmpRx) (s : Hwmp) (path : MeshPath) (rann : Rann) : Hwmp :=
  if rann_asks cfg rx path rann then
    -- RTW_PREQ_Q_F_START | RTW_PREQ_Q_F_REFRESH
    (rtw_mesh_queue_preq s rx.preq_alloc rann.rann_addr 3).modify rann.rann_addr (fun path =>
      { path with last_preq_to_root := rx.now })
  else s

/-- What `rtw_hwmp_rann_frame_process` does with a path that takes the RANN. -/
def accept_rann (cfg : MeshCfg) (rx : HwmpRx) (s : Hwmp) (path : MeshPath) (rann : Rann)
    (metric_txsta : BitVec 32) : Hwmp :=
  let dst := rann.rann_addr
  let taken := (ask_root cfg rx s path rann).modify dst (fun path => { path with
    sn := rann.rann_seq
    rann_metric := rann.rann_metric + metric_txsta
    is_root := true
    rann_snd_addr := rx.addr2 })
  let gated := announce_gate taken dst (rann.rann_flags.getLsbD 0) rann.rann_interval
  if rann.rann_ttl ≤ 1 then
    gated.count (fun stats => { stats with dropped_frames_ttl := stats.dropped_frames_ttl + 1 })
  else if cfg.dot11MeshForwarding then
    gated.transmit (.rtw_mesh_path_sel_frame_tx .RTW_MPATH_RANN rann.rann_flags dst rann.rann_seq
      0 none 0 mesh_bcast_addr (rann.rann_hopcount + 1) (rann.rann_ttl - 1) rann.rann_interval
      (rann.rann_metric + metric_txsta) 0)
  else gated

def rtw_hwmp_rann_frame_process (cfg : MeshCfg) (rx : HwmpRx) (s : Hwmp) (rann : Rann) : Hwmp :=
  let dst := rann.rann_addr
  if dst = s.info.adapter_mac_addr then s
  else
    match rx.link_metric with
    | none => s
    | some metric_txsta =>
        let looked := rtw_mesh_path_lookup s rx.now dst
        match looked.1 with
        | some path =>
            if rann_fresh path rann then accept_rann cfg rx looked.2 path rann metric_txsta
            else looked.2
        | none =>
            let added := rtw_mesh_path_add looked.2.info rx.now (rx.alloc dst) (rx.ret dst) dst
            let s := { looked.2 with info := added.2 }
            match added.1 with
            | .error _ =>
                s.count (fun stats =>
                  { stats with dropped_frames_no_route := stats.dropped_frames_no_route + 1 })
            | .ok path =>
                if rann_fresh path rann then accept_rann cfg rx s path rann metric_txsta else s

/-- A received element. -/
inductive HwmpElement
  | preq (preq : Preq)
  | prep (prep : Prep)
  | perr (perr : Perr)
  | rann (rann : Rann)

/-- What `rtw_mesh_rx_path_sel_frame` does with one element. -/
def Hwmp.receive (cfg : MeshCfg) (s : Hwmp) : HwmpRx × HwmpElement -> Hwmp
  | (rx, .preq preq) =>
      let got := rtw_hwmp_route_info_get cfg rx s preq.originator
      if got.1 ≠ 0 then rtw_hwmp_preq_frame_process cfg rx got.2 preq got.1 else got.2
  | (rx, .prep prep) =>
      let got := rtw_hwmp_route_info_get cfg rx s prep.originator
      if got.1 ≠ 0 then rtw_hwmp_prep_frame_process cfg rx got.2 prep got.1 else got.2
  | (rx, .perr perr) => rtw_hwmp_perr_frame_process cfg rx s perr
  | (rx, .rann rann) => rtw_hwmp_rann_frame_process cfg rx s rann

end Rtl8821ce
