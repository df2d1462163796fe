import Rtl8821ce.Mesh.AddressRoundTrip
import Rtl8821ce.Mesh.RouteFreshness

/-!
# Resolved addresses come back

Whatever way a frame gets its addresses, the receiver finds the destination and
the source that the Ethernet frame had: when its path is known, as a copy, and
when a gate takes it after it waited.  A frame for one station needs a next hop
that is one station.  `cfg80211_rtw_add_mpath` takes the station for group
addresses as well, and frames that go there are refused by every receiver.
-/

namespace Rtl8821ce

/-- The attributes name these addresses, directly or in the mesh control. -/
structure MeshXmitAttrib.Leads (attrib : MeshXmitAttrib) (da sa : MacAddr) : Prop where
  data : attrib.mesh_frame_mode.data = true
  dst : attrib.dst = da
  src : attrib.src = sa
  mda : attrib.mesh_frame_mode = .MESH_UCAST_DATA -> attrib.mda = da
  msa : attrib.mesh_frame_mode = .MESH_UCAST_DATA ∨ attrib.mesh_frame_mode = .MESH_BMCAST_DATA ->
    attrib.msa = sa
  ra : attrib.mesh_frame_mode.unicast = false -> attrib.ra = da
  group : attrib.mesh_frame_mode.unicast = false -> IS_MCAST da = true

theorem MeshXmitAttrib.Leads.read {attrib : MeshXmitAttrib} {da sa : MacAddr} (leads : attrib.Leads da sa) :
    attrib.read_mctrl (if attrib.mesh_frame_mode.unicast then attrib.mda else attrib.ra) attrib.msa =
      (attrib.mesh_frame_mode.mctrl_len, da, sa) := by
  have mda := leads.mda
  have msa := leads.msa
  have ra := leads.ra
  have data := leads.data
  unfold MeshXmitAttrib.read_mctrl
  cases mode : attrib.mesh_frame_mode with
  | MESH_UCAST_DATA =>
      rw [← mda mode, ← msa (Or.inl mode)]
      rfl
  | MESH_BMCAST_DATA =>
      rw [← ra (by rw [mode]; rfl), ← msa (Or.inr mode)]
      rfl
  | MESH_UCAST_PX_DATA =>
      rw [← leads.dst, ← leads.src]
      rfl
  | MESH_BMCAST_PX_DATA =>
      rw [← ra (by rw [mode]; rfl), ← leads.src]
      rfl
  | MESH_MHOP_UCAST_ACT => exact absurd data (by rw [mode]; decide)
  | MESH_MHOP_BMCAST_ACT => exact absurd data (by rw [mode]; decide)

theorem mesh_update_attrib_eq {qos : MeshQos} {attrib : MeshXmitAttrib} (enabled : qos.qos_option = true)
    (data : attrib.mesh_frame_mode.data = true) :
    mesh_update_attrib qos attrib =
      { attrib with
        encrypt := qos.encrypt
        hdrlen := if attrib.mesh_frame_mode.unicast then 32 else 26
        meshctrl_len := attrib.mesh_frame_mode.mctrl_len
        subtype := WIFI_QOS_DATA_TYPE
        qos_en := true
        priority := qos.priority } := by
  unfold mesh_update_attrib rtw_mesh_tx_set_whdr_mctrl_len
  rw [if_pos enabled]
  cases mode : attrib.mesh_frame_mode with
  | MESH_UCAST_DATA => rw [enabled]; rfl
  | MESH_BMCAST_DATA => rw [enabled]; rfl
  | MESH_UCAST_PX_DATA => rw [enabled]; rfl
  | MESH_BMCAST_PX_DATA => rw [enabled]; rfl
  | MESH_MHOP_UCAST_ACT => exact absurd data (by rw [mode]; decide)
  | MESH_MHOP_BMCAST_ACT => exact absurd data (by rw [mode]; decide)

/-- How a frame is sent and received once it has its addresses. -/
structure MeshAir where
  qos : MeshQos
  dot11MeshTTL : UInt8
  mesh_seqnum : BitVec 32
  psta : Option MeshPsta
  iv : List UInt8
  rest : List UInt8
  rx : MeshRx
  stale : MeshRxPktAttrib

namespace MeshAir

def mpdu (air : MeshAir) (attrib : MeshXmitAttrib) : Option (List UInt8) :=
  mesh_mpdu air.dot11MeshTTL air.mesh_seqnum air.psta (mesh_update_attrib air.qos attrib) air.iv air.rest

/-- The receiver accepts the frame, and finds the addresses of the Ethernet
frame and the length that the sender set. -/
def ReadsBack (air : MeshAir) (attrib : MeshXmitAttrib) (pkt frame : List UInt8) : Prop :=
  ∃ read, mesh_read_addresses air.rx air.stale air.iv.length frame = some read ∧
    read.dst = addr_at pkt 0 ∧ read.src = addr_at pkt 6 ∧
    read.mesh_ctrl_len = (mesh_update_attrib air.qos attrib).meshctrl_len

theorem mpdu_eq {air : MeshAir} {attrib : MeshXmitAttrib} {frame : List UInt8}
    (data : attrib.mesh_frame_mode.data = true) (sent : air.mpdu attrib = some frame) :
    air.qos.qos_option = true ∧ ∃ seqnum,
      frame = (air_header (mesh_update_attrib air.qos attrib) seqnum).bytes ++ (air.iv ++
        ((rtw_mesh_tx_build_mctrl air.dot11MeshTTL air.mesh_seqnum (mesh_update_attrib air.qos attrib)).1 ++
          air.rest)) := by
  rcases Option.map_eq_some_iff.mp sent with ⟨made, header, laid⟩
  have enabled : air.qos.qos_option = true := by
    by_contra disabled
    have qos_en : (mesh_update_attrib air.qos attrib).qos_en = false := by
      unfold mesh_update_attrib
      rw [if_neg disabled]
      exact Bool.eq_false_iff.mpr disabled
    unfold mesh_make_wlanhdr at header
    rw [qos_en] at header
    cases header
  refine ⟨enabled, made.2, ?_⟩
  have updated := mesh_update_attrib_eq enabled data
  rw [← laid, List.append_assoc, List.append_assoc,
    mesh_make_wlanhdr_eq (by rw [updated]; exact data) (by rw [updated]) (by rw [updated]) header]

/-- A frame that leads to the addresses reads back exactly when the address of
its receiver is of the kind of its mode. -/
theorem readsBack_iff {air : MeshAir} {attrib : MeshXmitAttrib} {pkt frame : List UInt8} {sta : MeshSta}
    (asoc : air.rx.asoc_state = true) (known : air.rx.rtw_get_stainfo attrib.ta = some sta)
    (leads : attrib.Leads (addr_at pkt 0) (addr_at pkt 6)) (sent : air.mpdu attrib = some frame) :
    air.ReadsBack attrib pkt frame <->
      (attrib.mesh_frame_mode.unicast = true -> IS_MCAST attrib.ra = false) := by
  rcases mpdu_eq leads.data sent with ⟨enabled, seqnum, rfl⟩
  have updated := mesh_update_attrib_eq enabled leads.data
  have same : (mesh_update_attrib air.qos attrib).toMeshAttrib = attrib.toMeshAttrib := by rw [updated]
  have transmitter : air.rx.rtw_get_stainfo (mesh_update_attrib air.qos attrib).ta = some sta := by
    rw [updated]
    exact known
  have length : (mesh_update_attrib air.qos attrib).meshctrl_len =
      (mesh_update_attrib air.qos attrib).mesh_frame_mode.mctrl_len := by rw [updated]
  have leads : (mesh_update_attrib air.qos attrib).Leads (addr_at pkt 0) (addr_at pkt 6) := by
    rw [updated]
    exact
      { data := leads.data, dst := leads.dst, src := leads.src, mda := leads.mda, msa := leads.msa
        ra := leads.ra, group := leads.group }
  unfold ReadsBack
  rw [← same]
  generalize mesh_update_attrib air.qos attrib = settled at *
  constructor
  · intro back unicast
    by_contra group
    rcases back with ⟨read, accepted, -⟩
    rw [mesh_read_refused asoc air.stale seqnum air.iv _ unicast (Bool.eq_true_of_not_eq_false group)] at accepted
    cases accepted
  · intro single
    have kind : IS_MCAST settled.ra = !settled.mesh_frame_mode.unicast := by
      cases unicast : settled.mesh_frame_mode.unicast with
      | true => exact single unicast
      | false =>
          rw [leads.ra unicast]
          exact leads.group unicast
    rcases mesh_read_accepted asoc air.stale seqnum air.iv air.rest transmitter kind leads.data length
      air.dot11MeshTTL air.mesh_seqnum with ⟨read, accepted, fields⟩
    rw [leads.read] at fields
    rcases Prod.mk.inj fields with ⟨mctrl_len, addresses⟩
    rcases Prod.mk.inj addresses with ⟨dst, src⟩
    exact ⟨read, accepted, dst, src, mctrl_len.trans length.symm⟩

end MeshAir

section

variable (tx : MeshTx) (s : Hwmp) (mda msa : MacAddr)

theorem nexthop_lookup_some {ra : MacAddr} (found : (rtw_mesh_nexthop_lookup tx s mda msa).1 = some ra) :
    ∃ mpath, s.path mda = some mpath ∧ mpath.next_hop = some ra := by
  unfold rtw_mesh_nexthop_lookup at found
  dsimp only at found
  have looked := path_lookup s tx.now mda mda
  rw [if_pos rfl] at looked
  have same : (rtw_mesh_path_lookup s tx.now mda).1 = (rtw_mesh_path_lookup s tx.now mda).2.path mda := rfl
  rw [same, looked] at found
  cases known : s.path mda with
  | none =>
      rw [known] at found
      cases found
  | some mpath =>
      rw [known] at found
      dsimp only [Option.map_some] at found
      split at found
      case isTrue => cases found
      case isFalse active =>
        refine ⟨mpath, rfl, ?_⟩
        rw [← found]
        unfold MeshPath.looked
        split <;> rfl

variable (xframe : Nat) (attrib : MeshXmitAttrib)

theorem nexthop_resolve_cases :
    ((rtw_mesh_nexthop_resolve tx s xframe attrib).1 = ._SUCCESS ∧
        ∃ mpath hop, s.path attrib.mda = some mpath ∧ mpath.next_hop = some hop ∧
          (rtw_mesh_nexthop_resolve tx s xframe attrib).2.1 = { attrib with ra := hop }) ∨
      ((rtw_mesh_nexthop_resolve tx s xframe attrib).1 ≠ ._SUCCESS ∧
        (rtw_mesh_nexthop_resolve tx s xframe attrib).2.1 = attrib) := by
  unfold rtw_mesh_nexthop_resolve
  dsimp only
  cases found : (rtw_mesh_nexthop_lookup tx s attrib.mda attrib.msa).1 with
  | some ra =>
      rcases nexthop_lookup_some tx s attrib.mda attrib.msa found with ⟨mpath, known, hop⟩
      exact Or.inl ⟨rfl, mpath, ra, known, hop, rfl⟩
  | none =>
      apply Or.inr
      dsimp only
      split
      case h_1 => exact ⟨nofun, rfl⟩
      case h_2 =>
        split
        case h_1 => exact ⟨nofun, rfl⟩
        case h_2 => exact ⟨nofun, rfl⟩

end

/-- The paths that are there now were there before, with the same next hops. -/
def NextHopsOf (s after : Hwmp) : Prop :=
  ∀ d mpath, after.path d = some mpath ->
    ∃ before, s.path d = some before ∧ before.next_hop = mpath.next_hop

namespace NextHopsOf

theorem refl (s : Hwmp) : NextHopsOf s s := fun _ mpath there => ⟨mpath, there, rfl⟩

theorem trans {first second third : Hwmp} (earlier : NextHopsOf first second)
    (later : NextHopsOf second third) : NextHopsOf first third := by
  intro d mpath there
  rcases later d mpath there with ⟨middle, known, same⟩
  rcases earlier d middle known with ⟨before, found, kept⟩
  exact ⟨before, found, kept.trans same⟩

theorem modify (s : Hwmp) (dst : MacAddr) {change : MeshPath -> MeshPath}
    (kept : ∀ mpath, (change mpath).next_hop = mpath.next_hop) : NextHopsOf s (s.modify dst change) := by
  intro d mpath there
  rw [path_modify] at there
  split at there
  case isTrue =>
    rcases Option.map_eq_some_iff.mp there with ⟨before, known, rfl⟩
    exact ⟨before, known, (kept before).symm⟩
  case isFalse => exact ⟨mpath, there, rfl⟩

theorem mesh_path_lookup (s : Hwmp) (now : Systime) (dst : MacAddr) :
    NextHopsOf s (rtw_mesh_path_lookup s now dst).2 := by
  apply NextHopsOf.modify
  intro mpath
  split <;> rfl

theorem gate_del (s : Hwmp) (dst : MacAddr) : NextHopsOf s (rtw_mesh_gate_del s dst) := by
  unfold rtw_mesh_gate_del
  split
  case h_1 => exact refl s
  case h_2 =>
    split
    case isTrue => exact modify s dst (fun _ => rfl)
    case isFalse => exact refl s

theorem path_del (s : Hwmp) (dst : MacAddr) : NextHopsOf s (hwmp_path_del s dst) := by
  apply (gate_del s dst).trans
  have flushed : ∀ (waiting : List Nat) (s : Hwmp),
      (waiting.foldl (fun s _ => mesh_discard_frame s) s).info = s.info := by
    intro waiting
    induction waiting with
    | nil => exact fun _ => rfl
    | cons _ rest ih => exact fun s => ih (mesh_discard_frame s)
  intro d mpath there
  unfold hwmp_path_del Hwmp.path at there
  dsimp only at there
  rw [flushed] at there
  have erased : (rtw_mesh_path_del (rtw_mesh_gate_del s dst).info dst).mesh_paths.lookup d =
      some mpath -> (rtw_mesh_gate_del s dst).info.mesh_paths.lookup d = some mpath := by
    unfold rtw_mesh_path_del rtw_table_path_del
    dsimp only
    split
    case h_1 => exact id
    case h_2 =>
      intro left
      by_cases same : d = dst
      · rw [same] at left
        cases (AList.lookup_erase dst _).symm.trans left
      · exact (AList.lookup_erase_ne same).symm.trans left
  exact ⟨mpath, erased there, rfl⟩

end NextHopsOf

section

variable (tx : MeshTx) (s : Hwmp) (h_dest : MacAddr)

/-- The mesh destination of a frame: the destination itself if it has a path that
can be used, else the proxy that it is behind. -/
def mesh_da (now : Systime) (s : Hwmp) (h_dest : MacAddr) : MacAddr :=
  if (s.path h_dest).any (fun mpath => mpath_valid (mpath.looked now)) then h_dest
  else (s.info.mpp_paths.lookup h_dest).elim h_dest (fun mppath => mppath.mpp)

theorem mesh_dest_lookup_mpp :
    (mesh_dest_lookup tx s h_dest).1.elim h_dest (fun mppath => mppath.mpp) = mesh_da tx.now s h_dest := by
  have path : (rtw_mesh_path_lookup s tx.now h_dest).1 = (s.path h_dest).map (MeshPath.looked tx.now) :=
    (path_lookup s tx.now h_dest h_dest).trans (if_pos rfl)
  have proxies : (rtw_mesh_path_lookup s tx.now h_dest).2.info.mpp_paths = s.info.mpp_paths := by
    unfold rtw_mesh_path_lookup Hwmp.modify
    dsimp only
    split <;> rfl
  have valid : (rtw_mesh_path_lookup s tx.now h_dest).1.any mpath_valid =
      (s.path h_dest).any (fun mpath => mpath_valid (mpath.looked tx.now)) := by
    rw [path, Option.any_map]
  unfold mesh_dest_lookup mesh_da
  dsimp only
  rw [valid]
  split
  case isTrue => rfl
  case isFalse =>
    unfold rtw_mpp_path_lookup
    rw [proxies]
    cases s.info.mpp_paths.lookup h_dest with
    | none => rfl
    | some mppath =>
        dsimp only [Option.elim]
        split <;> rfl

theorem mesh_dest_lookup_paths : NextHopsOf s (mesh_dest_lookup tx s h_dest).2 := by
  have looked := NextHopsOf.mesh_path_lookup s tx.now h_dest
  have unchanged : ∀ (s : Hwmp) (dst : MacAddr), NextHopsOf s (rtw_mpp_path_lookup s tx.now dst).2 := by
    intro s dst
    unfold rtw_mpp_path_lookup
    split
    case h_1 => exact NextHopsOf.refl s
    case h_2 => exact NextHopsOf.refl s
  unfold mesh_dest_lookup
  dsimp only
  split
  case isTrue => exact looked
  case isFalse =>
    have proxied := looked.trans (unchanged (rtw_mesh_path_lookup s tx.now h_dest).2 h_dest)
    split
    case h_1 => exact proxied
    case h_2 =>
      dsimp only
      split
      case isTrue =>
        exact proxied.trans (NextHopsOf.path_del { (rtw_mpp_path_lookup _ tx.now h_dest).2 with info := _ } h_dest)
      case isFalse => exact proxied

end

/-! ## The addresses of a frame -/

/-- What holds of a frame for one station that has its addresses. -/
structure UnicastAddressed (attrib : MeshXmitAttrib) (own da sa : MacAddr) : Prop where
  leads : attrib.Leads da sa
  unicast : attrib.mesh_frame_mode.unicast = true
  ta : attrib.ta = own

theorem leads_of_unicast {attrib : MeshXmitAttrib} {ae_need : Bool}
    (mode : attrib.mesh_frame_mode = if ae_need then .MESH_UCAST_PX_DATA else .MESH_UCAST_DATA)
    (mda : ae_need = false -> attrib.mda = attrib.dst) (msa : ae_need = false -> attrib.msa = attrib.src) :
    UnicastAddressed attrib attrib.ta attrib.dst attrib.src := by
  cases ae_need with
  | true =>
      rw [if_pos rfl] at mode
      exact
        { leads :=
            { data := by rw [mode]; rfl
              dst := rfl
              src := rfl
              mda := fun other => by rw [mode] at other; cases other
              msa := fun other => by rw [mode] at other; rcases other with other | other <;> cases other
              ra := fun other => by rw [mode] at other; cases other
              group := fun other => by rw [mode] at other; cases other }
          unicast := by rw [mode]; rfl
          ta := rfl }
  | false =>
      rw [if_neg Bool.false_ne_true] at mode
      exact
        { leads :=
            { data := by rw [mode]; rfl
              dst := rfl
              src := rfl
              mda := fun _ => mda rfl
              msa := fun _ => msa rfl
              ra := fun other => by rw [mode] at other; cases other
              group := fun other => by rw [mode] at other; cases other }
          unicast := by rw [mode]; rfl
          ta := rfl }

theorem UnicastAddressed.prepared {attrib : MeshXmitAttrib} {own da sa : MacAddr}
    (addressed : UnicastAddressed attrib own da sa) (dst_addr next_hop : MacAddr) :
    UnicastAddressed { attrib with toMeshAttrib := rtw_prepare_for_gate attrib.toMeshAttrib dst_addr next_hop }
      own da sa := by
  have mode : (rtw_prepare_for_gate attrib.toMeshAttrib dst_addr next_hop).mesh_frame_mode =
      .MESH_UCAST_PX_DATA := by
    have unicast := addressed.unicast
    unfold rtw_prepare_for_gate
    cases before : attrib.mesh_frame_mode with
    | MESH_UCAST_DATA => rfl
    | MESH_UCAST_PX_DATA => rfl
    | MESH_BMCAST_DATA => exact absurd unicast (by rw [before]; decide)
    | MESH_BMCAST_PX_DATA => exact absurd unicast (by rw [before]; decide)
    | MESH_MHOP_UCAST_ACT => exact absurd unicast (by rw [before]; decide)
    | MESH_MHOP_BMCAST_ACT => exact absurd unicast (by rw [before]; decide)
  have px := @leads_of_unicast
    { attrib with toMeshAttrib := rtw_prepare_for_gate attrib.toMeshAttrib dst_addr next_hop } true mode nofun nofun
  rw [← addressed.leads.dst, ← addressed.leads.src, ← addressed.ta]
  exact px

/-- The next hop of the mesh destination is one station. -/
def NextHopSingle (now : Systime) (s : Hwmp) (h_dest : MacAddr) : Prop :=
  ∀ mpath hop, s.path (mesh_da now s h_dest) = some mpath -> mpath.next_hop = some hop ->
    IS_MCAST hop = false

theorem ucast_attrib_addressed (attrib : MeshXmitAttrib) (own h_dest h_source : MacAddr) (mppath : Option MeshPath) :
    UnicastAddressed (mesh_ucast_attrib attrib own h_dest h_source mppath) own h_dest h_source := by
  refine @leads_of_unicast (mesh_ucast_attrib attrib own h_dest h_source mppath) _ rfl ?_ ?_
  · intro plain
    show (if _ then mppath.elim h_dest (fun mppath => mppath.mpp) else h_dest) = h_dest
    rw [plain]
    rfl
  · intro plain
    exact Classical.not_not.mp (of_decide_eq_false (Bool.or_eq_false_iff.mp plain).1)

theorem ucast_attrib_mda (attrib : MeshXmitAttrib) (own h_dest h_source : MacAddr) (mppath : Option MeshPath) :
    (mesh_ucast_attrib attrib own h_dest h_source mppath).mda =
      mppath.elim h_dest (fun mppath => mppath.mpp) := by
  unfold mesh_ucast_attrib
  dsimp only
  split
  case isTrue => rfl
  case isFalse plain =>
    cases mppath with
    | none => rfl
    | some mppath =>
        have same := (Bool.or_eq_false_iff.mp (Bool.eq_false_iff.mpr plain)).2
        exact (Classical.not_not.mp (of_decide_eq_false same)).symm

theorem addr_resolve_ucast_spec (tx : MeshTx) (s : Hwmp) (mesh_seqnum : BitVec 32) (xframe : Nat)
    (attrib : MeshXmitAttrib) (h_dest h_source : MacAddr) :
    UnicastAddressed (addr_resolve_ucast tx s mesh_seqnum xframe attrib h_dest h_source).attrib
        s.info.adapter_mac_addr h_dest h_source ∧
      ((addr_resolve_ucast tx s mesh_seqnum xframe attrib h_dest h_source).res = ._SUCCESS ->
        ∃ mpath, s.path (mesh_da tx.now s h_dest) = some mpath ∧
          mpath.next_hop = some (addr_resolve_ucast tx s mesh_seqnum xframe attrib h_dest h_source).attrib.ra) := by
  have addressed := ucast_attrib_addressed attrib s.info.adapter_mac_addr h_dest h_source
    (mesh_dest_lookup tx s h_dest).1
  have mda := ucast_attrib_mda attrib s.info.adapter_mac_addr h_dest h_source (mesh_dest_lookup tx s h_dest).1
  rw [mesh_dest_lookup_mpp] at mda
  unfold addr_resolve_ucast
  dsimp only
  generalize mesh_ucast_attrib attrib s.info.adapter_mac_addr h_dest h_source
    (mesh_dest_lookup tx s h_dest).1 = ready at addressed mda
  rcases nexthop_resolve_cases tx (mesh_dest_lookup tx s h_dest).2 xframe ready with
    ⟨-, mpath, hop, known, next, given⟩ | ⟨failed, kept⟩
  · rw [given]
    rcases mesh_dest_lookup_paths tx s h_dest ready.mda mpath known with ⟨before, found, same⟩
    rw [mda] at found
    have leads := addressed.leads
    exact
      ⟨{ leads := { leads with ra := fun group => absurd addressed.unicast (by rw [group]; decide) }
         unicast := addressed.unicast
         ta := addressed.ta },
        fun _ => ⟨before, found, same.trans next⟩⟩
  · rw [kept]
    exact ⟨addressed, fun success => absurd success failed⟩

theorem addr_resolve_mcast_spec (tx : MeshTx) (s : Hwmp) (mesh_seqnum : BitVec 32)
    (attrib : MeshXmitAttrib) {h_dest h_source : MacAddr} (group : IS_MCAST h_dest = true) :
    ((addr_resolve_mcast tx s mesh_seqnum attrib h_dest h_source).res = ._SUCCESS ->
      (addr_resolve_mcast tx s mesh_seqnum attrib h_dest h_source).attrib.Leads h_dest h_source ∧
        (addr_resolve_mcast tx s mesh_seqnum attrib h_dest h_source).attrib.mesh_frame_mode.unicast = false ∧
        (addr_resolve_mcast tx s mesh_seqnum attrib h_dest h_source).attrib.ta = s.info.adapter_mac_addr) ∧
      (addr_resolve_mcast tx s mesh_seqnum attrib h_dest h_source).res ≠ .RTW_RA_RESOLVING := by
  unfold addr_resolve_mcast
  dsimp only
  split
  case isTrue => exact ⟨nofun, nofun⟩
  case isFalse =>
    refine ⟨fun _ => ?_, nofun⟩
    dsimp only
    by_cases foreign : s.info.adapter_mac_addr ≠ h_source
    · rw [if_pos foreign]
      exact
        ⟨{ data := rfl
           dst := rfl
           src := rfl
           mda := nofun
           msa := fun other => by rcases other with other | other <;> cases other
           ra := fun _ => rfl
           group := fun _ => group },
          rfl, rfl⟩
    · rw [if_neg foreign]
      exact
        ⟨{ data := rfl
           dst := rfl
           src := rfl
           mda := nofun
           msa := fun _ => Classical.not_not.mp foreign
           ra := fun _ => rfl
           group := fun _ => group },
          rfl, rfl⟩

/-- A copy is addressed to one of the stations. -/
structure CopyAddressed (asoc_list : List B2uSta) (own da sa : MacAddr) (copy : MeshXmitAttrib) : Prop where
  addressed : UnicastAddressed copy own da sa
  station : ∃ sta, sta ∈ asoc_list ∧ copy.ra = sta.mac_addr

theorem data_bmc_to_uc_loop_copies (fresh : MeshXmitAttrib) (da sa own : MacAddr) {asoc_list : List B2uSta}
    (stations : List B2uSta) (within : stations ⊆ asoc_list) (b2u : B2u)
    (before : ∀ copy ∈ b2u.b2u_list, CopyAddressed asoc_list own da sa copy) :
    ∀ copy ∈ (data_bmc_to_uc_loop fresh da sa da own (decide (own ≠ sa)) stations b2u).b2u_list,
        CopyAddressed asoc_list own da sa copy := by
  induction stations generalizing b2u with
  | nil => exact before
  | cons sta rest ih =>
      have there := List.cons_subset.mp within
      unfold data_bmc_to_uc_loop
      split
      case isTrue skipped => exact ih there.2 b2u before
      case isFalse taken =>
        split
        case isTrue full => exact before
        case isFalse allocated =>
          dsimp only
          generalize numbered : (if b2u.b2u_list.isEmpty = true then _ else b2u) = counted
          have same : counted.b2u_list = b2u.b2u_list := by
            rw [← numbered]
            split <;> rfl
          apply ih there.2
          intro copy member
          dsimp only at member
          rcases List.mem_append.mp member with old | new
          · exact before copy (same ▸ old)
          · rw [List.mem_singleton.mp new]
            exact
              { addressed := leads_of_unicast rfl (fun _ => rfl)
                  (fun plain => Classical.not_not.mp (of_decide_eq_false plain))
                station := ⟨sta, there.1, rfl⟩ }

theorem addr_resolve_mcast_copies (tx : MeshTx) (s : Hwmp) (mesh_seqnum : BitVec 32)
    (attrib : MeshXmitAttrib) (h_dest h_source : MacAddr) :
    ∀ copy ∈ (addr_resolve_mcast tx s mesh_seqnum attrib h_dest h_source).b2u_list,
      CopyAddressed tx.asoc_list s.info.adapter_mac_addr h_dest h_source copy := by
  have listed : (addr_resolve_mcast tx s mesh_seqnum attrib h_dest h_source).b2u_list =
      (mesh_copies tx mesh_seqnum s.info.adapter_mac_addr h_dest h_source).b2u_list := by
    unfold addr_resolve_mcast
    dsimp only
    split <;> rfl
  rw [listed]
  unfold mesh_copies
  split
  case isFalse => exact fun copy member => absurd member List.not_mem_nil
  case isTrue =>
    exact data_bmc_to_uc_loop_copies tx.fresh _ _ _ tx.asoc_list (List.Subset.refl _) _
      (fun copy member => absurd member List.not_mem_nil)

/-- The attributes of a frame that waited, after gates have taken it over one after
the other: each by its own address and its next hop. -/
def retargeted (attrib : MeshXmitAttrib) (gates : List (MacAddr × MacAddr)) : MeshXmitAttrib :=
  gates.foldl
    (fun attrib gate =>
      { attrib with toMeshAttrib := rtw_prepare_for_gate attrib.toMeshAttrib gate.1 gate.2 })
    attrib

theorem UnicastAddressed.retargeted {attrib : MeshXmitAttrib} {own da sa : MacAddr}
    (addressed : UnicastAddressed attrib own da sa) (gates : List (MacAddr × MacAddr)) :
    UnicastAddressed (retargeted attrib gates) own da sa := by
  induction gates generalizing attrib with
  | nil => exact addressed
  | cons gate rest ih => exact ih (addressed.prepared gate.1 gate.2)

theorem MeshAir.readsBack_iff_single {air : MeshAir} {attrib : MeshXmitAttrib} {own : MacAddr} {pkt : List UInt8}
    {sta : MeshSta} (asoc : air.rx.asoc_state = true) (known : air.rx.rtw_get_stainfo own = some sta)
    (addressed : UnicastAddressed attrib own (addr_at pkt 0) (addr_at pkt 6)) {frame : List UInt8}
    (sent : air.mpdu attrib = some frame) : air.ReadsBack attrib pkt frame <-> IS_MCAST attrib.ra = false := by
  rw [air.readsBack_iff asoc (by rw [addressed.ta]; exact known) addressed.leads sent]
  exact ⟨fun single => single addressed.unicast, fun single _ => single⟩

/-- A frame with resolved addresses reads back exactly when it is for a group or
its next hop is one station; a frame that a gate took over, when the next hop of
the gate is; and a copy, when its station is. -/
theorem mesh_addresses_read_back_iff {air : MeshAir} {sta : MeshSta} (asoc : air.rx.asoc_state = true)
    (tx : MeshTx) (s : Hwmp) (mesh_seqnum : BitVec 32) (xframe : Nat) (attrib : MeshXmitAttrib)
    (pkt : List UInt8) (known : air.rx.rtw_get_stainfo s.info.adapter_mac_addr = some sta) :
    ((rtw_mesh_addr_resolve tx s mesh_seqnum xframe attrib pkt).res = ._SUCCESS ->
        ∀ frame, air.mpdu (rtw_mesh_addr_resolve tx s mesh_seqnum xframe attrib pkt).attrib = some frame ->
          (air.ReadsBack (rtw_mesh_addr_resolve tx s mesh_seqnum xframe attrib pkt).attrib pkt frame <->
            IS_MCAST (addr_at pkt 0) = true ∨ NextHopSingle tx.now s (addr_at pkt 0))) ∧
      ((rtw_mesh_addr_resolve tx s mesh_seqnum xframe attrib pkt).res = .RTW_RA_RESOLVING ->
        ∀ gates gate_dst gate_hop frame,
          air.mpdu (retargeted (rtw_mesh_addr_resolve tx s mesh_seqnum xframe attrib pkt).attrib
            (gates ++ [(gate_dst, gate_hop)])) = some frame ->
          (air.ReadsBack (retargeted (rtw_mesh_addr_resolve tx s mesh_seqnum xframe attrib pkt).attrib
              (gates ++ [(gate_dst, gate_hop)])) pkt frame <->
            IS_MCAST gate_hop = false)) ∧
      ∀ copy ∈ (rtw_mesh_addr_resolve tx s mesh_seqnum xframe attrib pkt).b2u_list,
        ∃ station, station ∈ tx.asoc_list ∧ copy.ra = station.mac_addr ∧
          ∀ frame, air.mpdu copy = some frame ->
            (air.ReadsBack copy pkt frame <-> IS_MCAST station.mac_addr = false) := by
  unfold rtw_mesh_addr_resolve
  split
  case isTrue short => exact ⟨nofun, nofun, nofun⟩
  case isFalse whole =>
    split
    case isTrue single =>
      have one : IS_MCAST (addr_at pkt 0) = false := by
        rw [Bool.not_eq_true'] at single
        exact single
      rcases addr_resolve_ucast_spec tx s mesh_seqnum xframe attrib (addr_at pkt 0) (addr_at pkt 6) with
        ⟨addressed, hop⟩
      refine ⟨?_, ?_, nofun⟩
      · intro success frame sent
        rcases hop success with ⟨mpath, there, next⟩
        rw [air.readsBack_iff_single asoc known addressed sent]
        constructor
        · intro ra
          apply Or.inr
          intro other hop found given
          rw [there] at found
          rw [← Option.some.inj found, next] at given
          rw [← Option.some.inj given]
          exact ra
        · intro condition
          rcases condition with group | hops
          · rw [one] at group
            cases group
          · exact hops mpath _ there next
      · intro resolving gates gate_dst gate_hop frame sent
        rw [air.readsBack_iff_single asoc known (addressed.retargeted _) sent]
        unfold retargeted
        rw [List.foldl_append]
        rfl
    case isFalse several =>
      have group : IS_MCAST (addr_at pkt 0) = true := by
        rw [Bool.not_eq_true', Bool.not_eq_false] at several
        exact several
      have spec := @addr_resolve_mcast_spec tx s mesh_seqnum attrib _ (addr_at pkt 6) group
      refine ⟨?_, fun resolving => absurd resolving spec.2, ?_⟩
      · intro success frame sent
        rcases spec.1 success with ⟨leads, mode, ta⟩
        rw [air.readsBack_iff asoc (by rw [ta]; exact known) leads sent, mode]
        exact ⟨fun _ => Or.inl group, nofun⟩
      · intro copy member
        have copied := addr_resolve_mcast_copies tx s mesh_seqnum attrib (addr_at pkt 0) (addr_at pkt 6)
          copy member
        rcases copied.station with ⟨station, there, ra⟩
        refine ⟨station, there, ra, fun frame sent => ?_⟩
        rw [air.readsBack_iff_single asoc known copied.addressed sent, ra]

/-- The stations of station 1: the one for group addresses, and station 2. -/
def mesh_stations : Sta.StaPriv :=
  (Sta.rtw_alloc_stainfo (Sta.rtw_alloc_stainfo (Sta._rtw_init_sta_priv fun _ => .zero) bc_addr).2
    (mesh_sta 2)).2

def fresh_attrib : MeshXmitAttrib where
  mesh_frame_mode := .MESH_UCAST_DATA
  ra := .zero
  mda := .zero
  dst := .zero
  src := .zero
  ta := .zero
  msa := .zero
  mb2u := false
  mfwd_ttl := 0
  mseq := 0
  qos_en := false
  subtype := 0
  priority := 0
  hdrlen := 0
  meshctrl_len := 0
  encrypt := ._NO_PRIVACY_
  mdata := false
  eosp := 0
  ack_policy := 0
  amsdu := false

def mesh_tx : MeshTx where
  now := 10
  path_refresh_time := 1
  alloc := true
  ret := none
  preq_alloc := true
  b2u_flags_msrc := ⟨false, false, false⟩
  asoc_list := []
  fresh := fresh_attrib

def mesh_air : MeshAir where
  qos := ⟨true, 0, ._NO_PRIVACY_⟩
  dot11MeshTTL := 31
  mesh_seqnum := 1
  psta := some ⟨true, fun _ => 0⟩
  iv := []
  rest := [0xaa, 0xaa, 0x03]
  rx := ⟨true, fun addr => if addr = mesh_sta 1 then some ⟨false, .ACTIVE, .ACTIVE⟩ else none⟩
  stale := ⟨.zero, .zero, .zero, false, 0⟩

/-- A frame for station 9 from an address behind station 1. -/
def mesh_pkt : List UInt8 := (mesh_sta 9).bytes ++ (mesh_sta 7).bytes ++ [0x08, 0x00]

/-- Station 1 with a path to station 9 that was configured. -/
def mesh_path_by (next_hop : MacAddr) : Hwmp :=
  (cfg80211_rtw_add_mpath mesh_stations mesh_tx hwmp_empty (mesh_sta 9) next_hop).getD hwmp_empty

def mesh_attrib_by (next_hop : MacAddr) : MeshXmitAttrib :=
  (rtw_mesh_addr_resolve mesh_tx (mesh_path_by next_hop) 1 0 fresh_attrib mesh_pkt).attrib

def mesh_frame_by (next_hop : MacAddr) : List UInt8 := (mesh_air.mpdu (mesh_attrib_by next_hop)).getD []

/-- The path goes by way of station 2: the frame comes to station 9 as it was. -/
theorem mesh_addresses_read_back_neighbour :
    mesh_air.mpdu (mesh_attrib_by (mesh_sta 2)) = some (mesh_frame_by (mesh_sta 2)) ∧
      mesh_air.ReadsBack (mesh_attrib_by (mesh_sta 2)) mesh_pkt (mesh_frame_by (mesh_sta 2)) := by
  have sent : mesh_air.mpdu (mesh_attrib_by (mesh_sta 2)) = some (mesh_frame_by (mesh_sta 2)) := by decide +kernel
  refine ⟨sent, ?_⟩
  have known : mesh_air.rx.rtw_get_stainfo (mesh_path_by (mesh_sta 2)).info.adapter_mac_addr =
      some ⟨false, .ACTIVE, .ACTIVE⟩ := by decide +kernel
  have first := (mesh_addresses_read_back_iff rfl mesh_tx (mesh_path_by (mesh_sta 2)) 1 0 fresh_attrib mesh_pkt known).1
  refine (first (by decide +kernel) _ sent).mpr (Or.inr ?_)
  intro mpath hop there next
  have path : ((mesh_path_by (mesh_sta 2)).path (mesh_da 10 (mesh_path_by (mesh_sta 2)) (mesh_sta 9))).map
      (fun mpath => mpath.next_hop) = some (some (mesh_sta 2)) := by decide +kernel
  rw [show addr_at mesh_pkt 0 = mesh_sta 9 from by decide +kernel] at there
  rw [show mesh_tx.now = 10 from rfl] at there
  rw [there, Option.map_some, next] at path
  rw [Option.some.inj (Option.some.inj path)]
  decide +kernel

/-- The path goes by way of the broadcast address: the frame gets this address
as its next hop, and station 9 refuses it. -/
theorem mesh_addresses_group_next_hop :
    cfg80211_rtw_add_mpath mesh_stations mesh_tx hwmp_empty (mesh_sta 9) bc_addr = some (mesh_path_by bc_addr) ∧
      (rtw_mesh_addr_resolve mesh_tx (mesh_path_by bc_addr) 1 0 fresh_attrib mesh_pkt).res = ._SUCCESS ∧
      mesh_air.mpdu (rtw_mesh_addr_resolve mesh_tx (mesh_path_by bc_addr) 1 0 fresh_attrib mesh_pkt).attrib =
        some (mesh_frame_by bc_addr) ∧
      ¬ mesh_air.ReadsBack (rtw_mesh_addr_resolve mesh_tx (mesh_path_by bc_addr) 1 0 fresh_attrib mesh_pkt).attrib
        mesh_pkt (mesh_frame_by bc_addr) := by
  refine ⟨rfl, by decide +kernel, by decide +kernel, ?_⟩
  rintro ⟨read, accepted, -⟩
  have refused : (mesh_read_addresses mesh_air.rx mesh_air.stale mesh_air.iv.length (mesh_frame_by bc_addr)).isNone =
      true := by decide +kernel
  rw [accepted] at refused
  cases refused

end Rtl8821ce
