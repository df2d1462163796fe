import Rtl8821ce.Mesh.Hwmp
import Rtl8821ce.Mesh.PendingFrames
import Rtl8821ce.Sta.StationTable

/-!
# The addresses of a mesh frame

`rtw_mesh_addr_resolve` finds the mesh destination of an Ethernet frame, which
is a proxy if the destination is behind one, and the next hop.  A frame for a
group address may be sent as copies to the stations instead.  From the
attributes `rtw_make_wlanhdr` writes the header and `rtw_mesh_tx_build_mctrl`
the mesh control.

A frame whose path is not known waits in the queue of the path; it gets its
next hop later, from the path or from a gate.
-/

namespace Rtl8821ce

/-- The fields of `struct pkt_attrib` that the header and the mesh control are made of. -/
structure MeshXmitAttrib extends MeshAttrib where
  dst : MacAddr
  src : MacAddr
  ta : MacAddr
  msa : MacAddr
  mb2u : Bool
  mfwd_ttl : UInt8
  mseq : BitVec 32
  qos_en : Bool
  subtype : BitVec 16
  priority : Fin 8
  hdrlen : Nat
  meshctrl_len : Nat
  encrypt : Algorithm
  mdata : Bool
  eosp : Nat
  ack_policy : Nat
  amsdu : Bool

/-- The bits of `b2u_flags_msrc`. -/
structure B2uFlags where
  RTW_MESH_B2U_ALL : Bool
  RTW_MESH_B2U_BCAST : Bool
  RTW_MESH_B2U_IP_MCAST : Bool

/-- A station of `asoc_list`, and whether there is a frame for a copy to it. -/
structure B2uSta where
  mac_addr : MacAddr
  fw_linked : Bool
  alloc_xmitframe : Bool

/-- What surrounds the transmission of a frame: the time, the interval before
its end in which a path is refreshed, the stations, and which allocations and
insertions succeed.  `fresh` are the attributes of a frame just allocated. -/
structure MeshTx where
  now : Systime
  path_refresh_time : Systime
  alloc : Bool
  ret : Option Nat
  preq_alloc : Bool
  b2u_flags_msrc : B2uFlags
  asoc_list : List B2uSta
  fresh : MeshXmitAttrib

/-- What `rtw_mesh_addr_resolve` answers. -/
inductive AddrResolve
  | _SUCCESS
  | _FAIL
  | RTW_RA_RESOLVING
  | RTW_BMC_NO_NEED
  deriving DecidableEq

def rtw_mpp_path_lookup (s : Hwmp) (now : Systime) (dst : MacAddr) : Option MeshPath × Hwmp :=
  match s.info.mpp_paths.lookup dst with
  | none => (none, s)
  | some mppath =>
      let looked :=
        if rtw_mpath_expired now mppath then
          { mppath with flags := { mppath.flags with ACTIVE := false } }
        else mppath
      (some looked,
        { s with info := { s.info with mpp_paths := s.info.mpp_paths.insert dst looked } })

def RTW_PREQ_Q_F_START : BitVec 8 := 0x1
def RTW_PREQ_Q_F_REFRESH : BitVec 8 := 0x2

/-- The next hop of an active path.  A path that ends soon is refreshed. -/
def rtw_mesh_nexthop_lookup (tx : MeshTx) (s : Hwmp) (mda msa : MacAddr) : Option MacAddr × Hwmp :=
  let looked := rtw_mesh_path_lookup s tx.now mda
  match looked.1 with
  | none => (none, looked.2)
  | some mpath =>
      if !mpath.flags.ACTIVE then (none, looked.2)
      else
        let refresh := rtw_time_after tx.now (mpath.exp_time - tx.path_refresh_time) &&
          decide (s.info.adapter_mac_addr = msa) && !mpath.flags.RESOLVING && !mpath.flags.FIXED
        (mpath.next_hop,
          if refresh then
            rtw_mesh_queue_preq looked.2 tx.preq_alloc mda (RTW_PREQ_Q_F_START ||| RTW_PREQ_Q_F_REFRESH)
          else looked.2)

def mesh_discard_frame (s : Hwmp) : Hwmp :=
  { s with mshstats :=
      { s.mshstats with dropped_frames_no_route := s.mshstats.dropped_frames_no_route + 1 } }

/-- `rtw_mesh_path_del`, with what becomes of the gate and of the frames that wait. -/
def hwmp_path_del (s : Hwmp) (dst : MacAddr) : Hwmp :=
  let waiting := (s.path dst).elim [] (fun mpath => mpath.frame_queue)
  let flushed := waiting.foldl (fun s _ => mesh_discard_frame s) (rtw_mesh_gate_del s dst)
  { flushed with info := rtw_mesh_path_del flushed.info dst }

/-- Put a frame behind those that wait for a path; the first of them makes room. -/
def mesh_queue_frame (tx : MeshTx) (s : Hwmp) (xframe : Nat) (mda : MacAddr) : Hwmp :=
  match s.path mda with
  | none => s
  | some mpath =>
      let asked :=
        if mpath.flags.RESOLVING then s
        else rtw_mesh_queue_preq s tx.preq_alloc mda RTW_PREQ_Q_F_START
      if mpath.frame_queue_len >= RTW_MESH_FRAME_QUEUE_LEN then
        mesh_discard_frame (asked.modify mda (fun mpath =>
          { mpath with frame_queue := mpath.frame_queue.tail ++ [xframe] }))
      else
        asked.modify mda (fun mpath => { mpath with
          frame_queue := mpath.frame_queue ++ [xframe]
          frame_queue_len := mpath.frame_queue_len + 1 })

/-- Give a frame its next hop, or let it wait for one. -/
def rtw_mesh_nexthop_resolve (tx : MeshTx) (s : Hwmp) (xframe : Nat) (attrib : MeshXmitAttrib) :
    AddrResolve × MeshXmitAttrib × Hwmp :=
  let found := rtw_mesh_nexthop_lookup tx s attrib.mda attrib.msa
  match found.1 with
  | some ra => (._SUCCESS, { attrib with ra := ra }, found.2)
  | none =>
      let looked := rtw_mesh_path_lookup found.2 tx.now attrib.mda
      match looked.1 with
      | some _ => (.RTW_RA_RESOLVING, attrib, mesh_queue_frame tx looked.2 xframe attrib.mda)
      | none =>
          match rtw_mesh_path_add looked.2.info tx.now tx.alloc tx.ret attrib.mda with
          | (.error _, info) => (._FAIL, attrib, mesh_discard_frame { looked.2 with info := info })
          | (.ok _, info) =>
              (.RTW_RA_RESOLVING, attrib,
                mesh_queue_frame tx { looked.2 with info := info } xframe attrib.mda)

def is_zero_mac_addr (addr : MacAddr) : Bool := addr.bytes == List.replicate 6 0

def IP_MCAST_MAC (mac : MacAddr) : Bool := mac.bytes.take 3 == [0x01, 0x00, 0x5e]

def ICMPV6_MCAST_MAC (mac : MacAddr) : Bool :=
  mac.bytes.take 2 == [0x33, 0x33] && mac.bytes.getD 2 0 != 0xff

def rtw_msrc_b2u_policy_chk (flags : B2uFlags) (mda : MacAddr) : Bool :=
  flags.RTW_MESH_B2U_ALL || (flags.RTW_MESH_B2U_BCAST && is_broadcast_mac_addr mda) ||
    (flags.RTW_MESH_B2U_IP_MCAST && (IP_MCAST_MAC mda || ICMPV6_MCAST_MAC mda))

/-- What `rtw_mesh_data_bmc_to_uc` leaves. -/
structure B2u where
  bmc_need : Bool
  b2u_list : List MeshXmitAttrib
  b2u_mseq : BitVec 32
  mesh_seqnum : BitVec 32

/-- The loop of `rtw_mesh_data_bmc_to_uc` for a frame of this station. -/
def data_bmc_to_uc_loop (fresh : MeshXmitAttrib) (da sa mda msa : MacAddr) (ae_need : Bool) :
    List B2uSta -> B2u -> B2u
  | [], b2u => b2u
  | sta :: rest, b2u =>
      if !sta.fw_linked || decide (sta.mac_addr = msa) || is_broadcast_mac_addr sta.mac_addr ||
          is_zero_mac_addr sta.mac_addr then
        data_bmc_to_uc_loop fresh da sa mda msa ae_need rest b2u
      else if !sta.alloc_xmitframe then { b2u with bmc_need := true }
      else
        let numbered :=
          if b2u.b2u_list.isEmpty then
            { b2u with b2u_mseq := b2u.mesh_seqnum, mesh_seqnum := b2u.mesh_seqnum + 1 }
          else b2u
        let attrib : MeshXmitAttrib :=
          { fresh with
            mb2u := true
            mseq := numbered.b2u_mseq
            mfwd_ttl := 0
            ra := sta.mac_addr
            ta := msa
            mda := mda
            msa := msa
            dst := da
            src := sa
            mesh_frame_mode := if ae_need then .MESH_UCAST_PX_DATA else .MESH_UCAST_DATA }
        data_bmc_to_uc_loop fresh da sa mda msa ae_need rest
          { numbered with b2u_list := numbered.b2u_list ++ [attrib] }

/-- The result of `rtw_mesh_addr_resolve`. -/
structure AddrResolved where
  res : AddrResolve
  attrib : MeshXmitAttrib
  b2u_list : List MeshXmitAttrib
  mesh_seqnum : BitVec 32
  s : Hwmp

/-- Whether a path makes the lookup of a proxy unnecessary. -/
def mpath_valid (mpath : MeshPath) : Bool :=
  mpath.next_hop.isSome && (mpath.flags.ACTIVE || mpath.flags.RESOLVING)

/-- The paths to a destination, and to the proxy it is behind. -/
def mesh_dest_lookup (tx : MeshTx) (s : Hwmp) (h_dest : MacAddr) : Option MeshPath × Hwmp :=
  let mpath := rtw_mesh_path_lookup s tx.now h_dest
  if mpath.1.any mpath_valid then (none, mpath.2)
  else
    let mppath := rtw_mpp_path_lookup mpath.2 tx.now h_dest
    match mppath.1 with
    | none => (none, mppath.2)
    | some found =>
        let info := mppath.2.info
        let paths := info.mpp_paths.insert h_dest { found with exp_time := tx.now }
        let used := { mppath.2 with info := { info with mpp_paths := paths } }
        (some found, if mpath.1.isSome then hwmp_path_del used h_dest else used)

/-- The addresses of a frame of this station, but for those that depend on its kind. -/
def mesh_addressed (attrib : MeshXmitAttrib) (own h_dest h_source : MacAddr) : MeshXmitAttrib :=
  { attrib with mfwd_ttl := 0, dst := h_dest, src := h_source, ta := own, msa := own }

/-- The attributes of a frame for one station, before it has a next hop. -/
def mesh_ucast_attrib (attrib : MeshXmitAttrib) (own h_dest h_source : MacAddr)
    (mppath : Option MeshPath) : MeshXmitAttrib :=
  let ae_need := decide (own ≠ h_source) || mppath.any (fun mppath => decide (mppath.mpp ≠ h_dest))
  { mesh_addressed attrib own h_dest h_source with
    mb2u := false
    mesh_frame_mode := if ae_need then .MESH_UCAST_PX_DATA else .MESH_UCAST_DATA
    mda := if ae_need then mppath.elim h_dest (fun mppath => mppath.mpp) else h_dest }

def addr_resolve_ucast (tx : MeshTx) (s : Hwmp) (mesh_seqnum : BitVec 32) (xframe : Nat)
    (attrib : MeshXmitAttrib) (h_dest h_source : MacAddr) : AddrResolved :=
  let mppath := mesh_dest_lookup tx s h_dest
  let resolved := rtw_mesh_nexthop_resolve tx mppath.2 xframe
    (mesh_ucast_attrib attrib s.info.adapter_mac_addr h_dest h_source mppath.1)
  ⟨resolved.1, resolved.2.1, [], mesh_seqnum, resolved.2.2⟩

/-- The copies of a frame for a group address, if it is to be sent as copies. -/
def mesh_copies (tx : MeshTx) (mesh_seqnum : BitVec 32) (own h_dest h_source : MacAddr) : B2u :=
  if rtw_msrc_b2u_policy_chk tx.b2u_flags_msrc h_dest then
    data_bmc_to_uc_loop tx.fresh h_dest h_source h_dest own (decide (own ≠ h_source)) tx.asoc_list
      ⟨false, [], 0, mesh_seqnum⟩
  else ⟨true, [], 0, mesh_seqnum⟩

def addr_resolve_mcast (tx : MeshTx) (s : Hwmp) (mesh_seqnum : BitVec 32) (attrib : MeshXmitAttrib)
    (h_dest h_source : MacAddr) : AddrResolved :=
  let own := s.info.adapter_mac_addr
  let b2u := mesh_copies tx mesh_seqnum own h_dest h_source
  if b2u.bmc_need = false then ⟨.RTW_BMC_NO_NEED, attrib, b2u.b2u_list, b2u.mesh_seqnum, s⟩
  else
    ⟨._SUCCESS,
      { mesh_addressed attrib own h_dest h_source with
        mb2u := !b2u.b2u_list.isEmpty
        mseq := if b2u.b2u_list.isEmpty then attrib.mseq else b2u.b2u_mseq
        mesh_frame_mode := if own ≠ h_source then .MESH_BMCAST_PX_DATA else .MESH_BMCAST_DATA
        ra := h_dest },
      b2u.b2u_list, b2u.mesh_seqnum, s⟩

/-- Find the addresses and the next hop of the Ethernet frame `pkt`. -/
def rtw_mesh_addr_resolve (tx : MeshTx) (s : Hwmp) (mesh_seqnum : BitVec 32) (xframe : Nat)
    (attrib : MeshXmitAttrib) (pkt : List UInt8) : AddrResolved :=
  if pkt.length < 14 then ⟨._FAIL, attrib, [], mesh_seqnum, s⟩
  else if !IS_MCAST (addr_at pkt 0) then
    addr_resolve_ucast tx s mesh_seqnum xframe attrib (addr_at pkt 0) (addr_at pkt 6)
  else addr_resolve_mcast tx s mesh_seqnum attrib (addr_at pkt 0) (addr_at pkt 6)

def rtw_mesh_path_fix_nexthop (s : Hwmp) (dst next_hop : MacAddr) : Hwmp :=
  let assigned := rtw_mesh_path_assign_nexthop s dst next_hop
  hwmp_path_tx_pending
    (assigned.modify dst (fun mpath => { mpath with
      sn := 0xffff
      metric := 0
      exp_time := 0
      flags := MeshPathFlags.activate
        { ACTIVE := false, RESOLVING := false, SN_VALID := true, FIXED := true, RESOLVED := false,
          REQ_QUEUED := false } }))
    dst

/-- Add a path by way of a station; `none` when the path cannot be added, which
the source does not notice.  The station may be the one for group addresses. -/
def cfg80211_rtw_add_mpath (stapriv : Sta.StaPriv) (tx : MeshTx) (s : Hwmp) (dst next_hop : MacAddr) : Option Hwmp :=
  match Sta.rtw_get_stainfo stapriv next_hop with
  | none => some s
  | some sta =>
      match rtw_mesh_path_add s.info tx.now tx.alloc tx.ret dst with
      | (.error _, _) => none
      | (.ok _, info) => some (rtw_mesh_path_fix_nexthop { s with info := info } dst (stapriv.mac_addr sta))

end Rtl8821ce
