import Rtl8821ce.Library.SerialNumber
import Rtl8821ce.Mesh.Hwmp

/-!
# Freshness of routes

An active path takes newer information only, as long as it knows that its
sequence number is one of the destination.  A path that was activated by its
transmitter has no such number, and takes whatever comes first; and a RANN adds
its two metrics without a look at the carry.
-/

namespace Rtl8821ce

/-- A path that is in use at a time, and was not set by hand. -/
structure MeshPath.AliveAt (now : Systime) (path : MeshPath) : Prop where
  ACTIVE : path.flags.ACTIVE = true
  unexpired : rtw_mpath_expired now path = false
  unfixed : path.flags.FIXED = false

/-- A number that follows `w` by less than half a circle. -/
def InSnWindow (w sn : BitVec 32) : Prop := (sn - w).toNat < 2 ^ 31

instance (w sn : BitVec 32) : Decidable (InSnWindow w sn) :=
  inferInstanceAs (Decidable ((sn - w).toNat < 2 ^ 31))

/-- What an element says about the station it started from. -/
def HwmpElement.originator : HwmpElement -> Option Originator
  | .preq element => some element.originator
  | .prep element => some element.originator
  | .perr _ | .rann _ => none

/-- The sequence numbers that an element has for a destination. -/
def NumbersInWindow (d : MacAddr) (w : BitVec 32) : HwmpElement -> Prop
  | .preq preq =>
      (preq.orig_addr = d -> InSnWindow w preq.orig_sn) ∧
        (preq.target_addr = d -> InSnWindow w preq.target_sn)
  | .prep prep => prep.target_addr = d -> InSnWindow w prep.target_sn
  | .perr perr => perr.target_addr = d -> InSnWindow w perr.target_sn
  | .rann rann => rann.rann_addr = d -> InSnWindow w rann.rann_seq

/-- A path in use that gets information about its destination in a PREQ or a
PREP has a sequence number already, and a RANN that it takes adds up. -/
def NumbersKnown (d : MacAddr) (s : Hwmp) (event : HwmpRx × HwmpElement) : Prop :=
  ∀ path, s.path d = some path -> path.AliveAt event.1.now ->
    match event.2 with
    | .preq preq =>
        preq.orig_addr = d ∨ preq.target_addr = d -> event.1.link_metric.isSome = true ->
          path.flags.SN_VALID = true
    | .prep prep =>
        prep.target_addr = d -> event.1.link_metric.isSome = true -> path.flags.SN_VALID = true
    | .perr _ => True
    | .rann rann =>
        rann.rann_addr = d -> rann_fresh path rann = true ->
          ∀ metric_txsta, event.1.link_metric = some metric_txsta ->
            rann.rann_metric.toNat + metric_txsta.toNat < 2 ^ 32

/-- What an element may do to a path that is in use before it and stays active. -/
structure FreshStep (cfg : MeshCfg) (d : MacAddr) (s : Hwmp) (event : HwmpRx × HwmpElement) :
    Prop where
  sn : ∀ path after, s.path d = some path -> path.AliveAt event.1.now ->
    (s.receive cfg event).path d = some after -> after.flags.ACTIVE = true ->
    RTW_SN_LT after.sn path.sn = false
  /-- The next hop and the metric as information about the originator leaves them. -/
  originator : ∀ o last_hop_metric path after, event.2.originator = some o ->
    event.1.link_metric = some last_hop_metric -> o.originator_addr = d ->
    s.path d = some path -> path.AliveAt event.1.now ->
    (originator_update cfg event.1 s o
      (hwmp_new_metric o.originator_metric last_hop_metric)).2.path d = some after ->
    after = path ∨
      (RTW_SN_GT o.originator_sn path.sn = true ∨
        o.originator_sn = path.sn ∧ after.metric < path.metric) ∧
      o.originator_metric ≤ after.metric
  rann_metric : ∀ rann path after, event.2 = .rann rann -> rann.rann_addr = d ->
    s.path d = some path -> path.AliveAt event.1.now ->
    (s.receive cfg event).path d = some after ->
    after.rann_metric = path.rann_metric ∨ rann.rann_metric ≤ after.rann_metric

/-- The path is in use whenever an element arrives, and active in the end. -/
def StaysActive (cfg : MeshCfg) (d : MacAddr) : Hwmp -> List (HwmpRx × HwmpElement) -> Prop
  | s, [] => ∃ path, s.path d = some path ∧ path.flags.ACTIVE = true
  | s, event :: rest =>
      (∃ path, s.path d = some path ∧ path.AliveAt event.1.now) ∧
        StaysActive cfg d (s.receive cfg event) rest

theorem sn_lt_iff {w x y : BitVec 32} (xInside : InSnWindow w x) (yInside : InSnWindow w y) :
    RTW_SN_LT x y = true <-> (x - w).toNat < (y - w).toNat :=
  SerialNumber.slt_sub_iff xInside yInside

theorem sn_gt_iff {w x y : BitVec 32} (xInside : InSnWindow w x) (yInside : InSnWindow w y) :
    RTW_SN_GT x y = true <-> (y - w).toNat < (x - w).toNat :=
  SerialNumber.slt_sub_iff yInside xInside

/-- Both numbers are in the window, the second one not before the first. -/
structure SnOrdered (w x y : BitVec 32) : Prop where
  inside : InSnWindow w y
  ordered : (x - w).toNat ≤ (y - w).toNat

theorem SnOrdered.refl {w x : BitVec 32} (inside : InSnWindow w x) : SnOrdered w x x :=
  ⟨inside, Nat.le_refl _⟩

theorem SnOrdered.trans {w x y z : BitVec 32} (first : SnOrdered w x y) (second : SnOrdered w y z) :
    SnOrdered w x z :=
  ⟨second.inside, Nat.le_trans first.ordered second.ordered⟩

theorem SnOrdered.not_lt {w x y : BitVec 32} (ordered : SnOrdered w x y)
    (inside : InSnWindow w x) : RTW_SN_LT y x = false := by
  have order := ordered.ordered
  rw [← Bool.not_eq_true, sn_lt_iff ordered.inside inside]
  omega

theorem SnOrdered.of_lt {w x y : BitVec 32} (xInside : InSnWindow w x) (yInside : InSnWindow w y)
    (less : RTW_SN_LT x y = true) : SnOrdered w x y :=
  ⟨yInside, Nat.le_of_lt ((sn_lt_iff xInside yInside).mp less)⟩

theorem SnOrdered.of_not_gt {w x y : BitVec 32} (xInside : InSnWindow w x)
    (yInside : InSnWindow w y) (notGreater : RTW_SN_GT x y = false) : SnOrdered w x y := by
  refine ⟨yInside, ?_⟩
  rw [← Bool.not_eq_true, sn_gt_iff xInside yInside] at notGreater
  omega

theorem SnOrdered.gt_or_eq {w x y : BitVec 32} (ordered : SnOrdered w x y)
    (inside : InSnWindow w x) : RTW_SN_GT y x = true ∨ y = x := by
  rw [sn_gt_iff ordered.inside inside]
  rcases Nat.lt_or_eq_of_le ordered.ordered with less | same
  · exact Or.inl less
  · refine Or.inr ?_
    have distances := BitVec.eq_of_toNat_eq same
    calc y = (y - w) + w := (BitVec.sub_add_cancel y w).symm
      _ = (x - w) + w := by rw [distances]
      _ = x := BitVec.sub_add_cancel x w

section paths

variable {s : Hwmp} {d : MacAddr} {path : MeshPath}

def MeshPath.looked (now : Systime) (path : MeshPath) : MeshPath :=
  if rtw_mpath_expired now path then { path with flags := { path.flags with ACTIVE := false } }
  else path

theorem path_modify (s : Hwmp) (dst d : MacAddr) (change : MeshPath -> MeshPath) :
    (s.modify dst change).path d = if d = dst then (s.path d).map change else s.path d := by
  unfold Hwmp.modify
  split
  case h_1 missing =>
    split
    case isTrue same =>
      rw [same, missing]
      rfl
    case isFalse => rfl
  case h_2 found known =>
    unfold Hwmp.path
    dsimp only
    split
    case isTrue same =>
      rw [same, AList.lookup_insert]
      unfold Hwmp.path at known
      rw [known]
      rfl
    case isFalse different => exact AList.lookup_insert_ne different

theorem path_lookup (s : Hwmp) (now : Systime) (dst d : MacAddr) :
    (rtw_mesh_path_lookup s now dst).2.path d =
      if d = dst then (s.path d).map (MeshPath.looked now) else s.path d :=
  path_modify s dst d _

theorem looked_of_alive {now : Systime} (alive : path.AliveAt now) : path.looked now = path :=
  if_neg (by rw [alive.unexpired]; decide)

theorem path_lookup_alive {now : Systime} (found : s.path d = some path)
    (alive : path.AliveAt now) (dst : MacAddr) : (rtw_mesh_path_lookup s now dst).2.path d = some path := by
  rw [path_lookup, found, Option.map_some, looked_of_alive alive]
  split <;> rfl

theorem lookup_alive {now : Systime} (found : s.path d = some path) (alive : path.AliveAt now) :
    (rtw_mesh_path_lookup s now d).1 = some path :=
  path_lookup_alive found alive d

theorem path_add (found : s.path d = some path) (now : Systime) (alloc : Bool) (ret : Option Nat) (dst : MacAddr) :
    Hwmp.path { s with info := (rtw_mesh_path_add s.info now alloc ret dst).2 } d =
      some path := by
  have kept : (rtw_mesh_path_add s.info now alloc ret dst).2.mesh_paths.lookup d =
      s.info.mesh_paths.lookup d := by
    rcases rtw_mesh_path_add_cases s.info now alloc ret dst with
      ⟨_, outcome⟩ | ⟨_, ⟨_, outcome⟩ | ⟨_, _, _, mesh_paths⟩⟩
    · rw [outcome]
    · rw [outcome]
    · rw [mesh_paths]
      split
      case isTrue added =>
        have different : d ≠ dst := by
          rintro rfl
          exact added.2.2 (AList.lookup_isSome.mp (by
            unfold Hwmp.path at found
            rw [found]
            rfl))
        exact AList.lookup_insert_ne different
      case isFalse => rfl
  exact kept.trans found

theorem path_assign_nexthop (s : Hwmp) (dst sta d : MacAddr) :
    (rtw_mesh_path_assign_nexthop s dst sta).path d =
      if d = dst then (s.path d).map (fun path => { path with next_hop := some sta })
      else s.path d :=
  path_modify s dst d _

def MeshPath.unqueued (path : MeshPath) : MeshPath :=
  if path.flags.ACTIVE && path.frame_queue_len != 0 then
    { path with frame_queue := [], frame_queue_len := 0 }
  else path

theorem path_tx_pending (s : Hwmp) (dst d : MacAddr) :
    (hwmp_path_tx_pending s dst).path d =
      if d = dst then (s.path d).map MeshPath.unqueued else s.path d := by
  unfold hwmp_path_tx_pending
  split
  case h_1 missing =>
    split
    case isTrue same =>
      rw [same, missing]
      rfl
    case isFalse => rfl
  case h_2 found known =>
    by_cases same : d = dst
    · rw [if_pos same, same, known, Option.map_some, MeshPath.unqueued]
      split
      · refine (path_modify s dst dst _).trans ?_
        rw [if_pos rfl, known]
        rfl
      · exact known
    · rw [if_neg same]
      split
      · exact (path_modify s dst d _).trans (if_neg same)
      · rfl

end paths

/-! ## Steps that leave the number of a path alone -/

/-- Two states of a path with the same number and metric of the root. -/
structure SameNumber (path after : MeshPath) : Prop where
  sn : after.sn = path.sn
  SN_VALID : after.flags.SN_VALID = path.flags.SN_VALID
  rann_metric : after.rann_metric = path.rann_metric
  FIXED : after.flags.FIXED = path.flags.FIXED

theorem SameNumber.refl (path : MeshPath) : SameNumber path path := ⟨rfl, rfl, rfl, rfl⟩

theorem SameNumber.trans {first second third : MeshPath} (early : SameNumber first second)
    (late : SameNumber second third) : SameNumber first third :=
  ⟨late.sn.trans early.sn, late.SN_VALID.trans early.SN_VALID,
    late.rann_metric.trans early.rann_metric, late.FIXED.trans early.FIXED⟩

theorem SameNumber.looked (now : Systime) (path : MeshPath) : SameNumber path (path.looked now) := by
  unfold MeshPath.looked
  split
  · exact ⟨rfl, rfl, rfl, rfl⟩
  · exact .refl path

theorem SameNumber.unqueued (path : MeshPath) : SameNumber path path.unqueued := by
  unfold MeshPath.unqueued
  split
  · exact ⟨rfl, rfl, rfl, rfl⟩
  · exact .refl path

/-- The path to `d`, if there is one, is still there with the same number. -/
def KeepsNumber (d : MacAddr) (s after : Hwmp) : Prop :=
  ∀ path, s.path d = some path ->
    ∃ later, after.path d = some later ∧ SameNumber path later

namespace KeepsNumber

variable {d : MacAddr} {s middle after : Hwmp}

theorem of_path_eq (same : after.path d = s.path d) : KeepsNumber d s after :=
  fun path found => ⟨path, same.trans found, .refl path⟩

theorem trans (first : KeepsNumber d s middle) (second : KeepsNumber d middle after) : KeepsNumber d s after := by
  intro path found
  rcases first path found with ⟨between, foundBetween, early⟩
  rcases second between foundBetween with ⟨later, foundLater, late⟩
  exact ⟨later, foundLater, early.trans late⟩

theorem of_map {dst : MacAddr} {change : MeshPath -> MeshPath}
    (changed : after.path d = if d = dst then (s.path d).map change else s.path d)
    (kept : ∀ path, SameNumber path (change path)) : KeepsNumber d s after := by
  intro path found
  rw [found, Option.map_some] at changed
  split at changed
  · exact ⟨change path, changed, kept path⟩
  · exact ⟨path, changed, .refl path⟩

theorem modify {change : MeshPath -> MeshPath} (kept : ∀ path, SameNumber path (change path))
    (dst : MacAddr) : KeepsNumber d s (s.modify dst change) :=
  of_map (path_modify s dst d change) kept

theorem lookup (now : Systime) (dst : MacAddr) : KeepsNumber d s (rtw_mesh_path_lookup s now dst).2 :=
  of_map (path_lookup s now dst d) (.looked now)

theorem add (now : Systime) (alloc : Bool) (ret : Option Nat) (dst : MacAddr) :
    KeepsNumber d s { s with info := (rtw_mesh_path_add s.info now alloc ret dst).2 } :=
  fun path found => ⟨path, path_add found now alloc ret dst, .refl path⟩

theorem assign_nexthop (dst sta : MacAddr) : KeepsNumber d s (rtw_mesh_path_assign_nexthop s dst sta) :=
  of_map (path_assign_nexthop s dst sta d) (fun _ => ⟨rfl, rfl, rfl, rfl⟩)

theorem tx_pending (dst : MacAddr) : KeepsNumber d s (hwmp_path_tx_pending s dst) :=
  of_map (path_tx_pending s dst d) .unqueued

theorem add_gate (dst : MacAddr) : KeepsNumber d s (rtw_mesh_path_add_gate s dst) := by
  unfold rtw_mesh_path_add_gate
  split
  · exact of_path_eq rfl
  · split
    · exact of_path_eq rfl
    · exact of_map (path_modify s dst d _) (fun _ => ⟨rfl, rfl, rfl, rfl⟩)

theorem gate_del (dst : MacAddr) : KeepsNumber d s (rtw_mesh_gate_del s dst) := by
  unfold rtw_mesh_gate_del
  split
  · exact of_path_eq rfl
  · split
    · exact of_map (path_modify s dst d _) (fun _ => ⟨rfl, rfl, rfl, rfl⟩)
    · exact of_path_eq rfl

theorem queue_preq (preq_alloc : Bool) (dst : MacAddr) (flags : BitVec 8) :
    KeepsNumber d s (rtw_mesh_queue_preq s preq_alloc dst flags) := by
  unfold rtw_mesh_queue_preq
  split
  · exact of_path_eq rfl
  · split
    · exact of_path_eq rfl
    · exact of_map (path_modify s dst d _) (fun _ => ⟨rfl, rfl, rfl, rfl⟩)

theorem announce_gate (dst : MacAddr) (is_gate : Bool) (interval : BitVec 32) :
    KeepsNumber d s (Rtl8821ce.announce_gate s dst is_gate interval) := by
  unfold Rtl8821ce.announce_gate
  split
  · refine KeepsNumber.trans (modify ?_ dst) (add_gate dst)
    exact fun _ => ⟨rfl, rfl, rfl, rfl⟩
  · exact gate_del dst

theorem ask_root (cfg : MeshCfg) (rx : HwmpRx) (path : MeshPath) (rann : Rann) :
    KeepsNumber d s (Rtl8821ce.ask_root cfg rx s path rann) := by
  unfold Rtl8821ce.ask_root
  split
  · refine KeepsNumber.trans (queue_preq rx.preq_alloc rann.rann_addr 3) (modify ?_ rann.rann_addr)
    exact fun _ => ⟨rfl, rfl, rfl, rfl⟩
  · exact of_path_eq rfl

theorem accept_transmitter (cfg : MeshCfg) (rx : HwmpRx) (lifetime last_hop_metric : BitVec 32) :
    KeepsNumber d s (Rtl8821ce.accept_transmitter cfg rx s lifetime last_hop_metric) := by
  unfold Rtl8821ce.accept_transmitter
  dsimp only
  refine KeepsNumber.trans ?_ (tx_pending rx.addr2)
  refine (assign_nexthop rx.addr2 rx.addr2).trans (modify ?_ rx.addr2)
  exact fun _ => ⟨rfl, rfl, rfl, rfl⟩

theorem transmitter_update (cfg : MeshCfg) (rx : HwmpRx) (originator : Originator) (last_hop_metric : BitVec 32) :
    KeepsNumber d s (Rtl8821ce.transmitter_update cfg rx s originator last_hop_metric).2 := by
  unfold Rtl8821ce.transmitter_update
  dsimp only
  split
  · exact of_path_eq rfl
  · have looked : KeepsNumber d s (rtw_mesh_path_lookup s rx.now rx.addr2).2 := lookup rx.now rx.addr2
    split
    · split
      · exact looked.trans (accept_transmitter cfg rx _ _)
      · exact looked
    · have added := looked.trans (add rx.now (rx.alloc rx.addr2) (rx.ret rx.addr2) rx.addr2)
      split
      · exact added
      · exact added.trans (accept_transmitter cfg rx _ _)

end KeepsNumber

section originator

variable {s : Hwmp} {d : MacAddr} {path : MeshPath} {cfg : MeshCfg} {rx : HwmpRx}

/-- The path to an originator after it has taken what the element says. -/
def MeshPath.originated (cfg : MeshCfg) (rx : HwmpRx) (originator : Originator)
    (new_metric : BitVec 32) (path : MeshPath) : MeshPath :=
  MeshPath.unqueued { path with
    next_hop := some rx.addr2
    flags := { path.flags with SN_VALID := true }.activate
    metric := new_metric
    sn := originator.originator_sn
    exp_time :=
      later_exp_time path (rx.now + cfg.tu_to_systime originator.originator_lifetime) }

theorem path_accept_originator (s : Hwmp) (originator : Originator) (new_metric : BitVec 32) (d : MacAddr) :
    (accept_originator cfg rx s originator new_metric).path d =
      if d = originator.originator_addr then
        (s.path d).map (MeshPath.originated cfg rx originator new_metric)
      else s.path d := by
  unfold accept_originator
  dsimp only
  rw [path_tx_pending, path_modify, path_assign_nexthop]
  split
  · rw [Option.map_map, Option.map_map]
    rfl
  · rfl

theorem path_originator_update (cfg : MeshCfg) (found : s.path d = some path) (alive : path.AliveAt rx.now)
    (originator : Originator) (new_metric : BitVec 32) :
    (originator_update cfg rx s originator new_metric).2.path d = some path ∨
      (originator.originator_addr = d ∧
        (originator_fresh path originator.originator_sn new_metric).2 = true) ∧
      (originator_update cfg rx s originator new_metric).2.path d =
        some (path.originated cfg rx originator new_metric) := by
  unfold originator_update
  dsimp only
  split
  case isTrue own => exact Or.inl found
  case isFalse foreign =>
    have looked := path_lookup_alive found alive originator.originator_addr
    split
    case h_1 candidate known =>
      dsimp only
      split
      case isTrue fresh =>
        rw [path_accept_originator, looked, Option.map_some]
        split
        case isTrue same =>
          rw [← same, lookup_alive found alive] at known
          rw [Option.some.inj known]
          exact Or.inr ⟨⟨same.symm, fresh⟩, rfl⟩
        case isFalse => exact Or.inl rfl
      case isFalse => exact Or.inl looked
    case h_2 missing =>
      have different : d ≠ originator.originator_addr := by
        intro same
        rw [← same, lookup_alive found alive] at missing
        cases missing
      have added := path_add looked rx.now (rx.alloc originator.originator_addr)
        (rx.ret originator.originator_addr) originator.originator_addr
      split
      · exact Or.inl added
      · rw [path_accept_originator, if_neg different]
        exact Or.inl added

theorem originator_fresh_known (alive : path.AliveAt rx.now) (known : path.flags.SN_VALID = true)
    {originator_sn new_metric : BitVec 32} (fresh : (originator_fresh path originator_sn new_metric).2 = true) :
    RTW_SN_GT path.sn originator_sn = false ∧
      (path.sn = originator_sn -> new_metric < path.metric) := by
  unfold originator_fresh at fresh
  rw [alive.unfixed, alive.ACTIVE, known, if_neg (by decide), Bool.and_self, if_pos rfl] at fresh
  split at fresh
  case isTrue => cases fresh
  case isFalse passed =>
    rw [Bool.or_eq_true, not_or, Bool.and_eq_true, not_and, Bool.not_eq_true] at passed
    refine ⟨passed.1, fun same => ?_⟩
    have worse := passed.2 (beq_iff_eq.mpr same)
    rw [decide_eq_true_eq, BitVec.not_le] at worse
    exact worse

theorem le_hwmp_new_metric (originator_metric last_hop_metric : BitVec 32) :
    originator_metric ≤ hwmp_new_metric originator_metric last_hop_metric := by
  unfold hwmp_new_metric
  split
  case isTrue => exact BitVec.le_def.mpr (Nat.le_of_lt_succ originator_metric.isLt)
  case isFalse kept => exact BitVec.not_lt.mp kept

end originator

/-! ## The elements -/

section elements

variable {s : Hwmp} {d : MacAddr} {path : MeshPath} {cfg : MeshCfg} {rx : HwmpRx}

theorem preq_turn_number (cfg : MeshCfg) (rx : HwmpRx) (preq : Preq) (found : s.path d = some path) :
    ∃ after, (preq_turn cfg rx s preq).2.path d = some after ∧
      (SameNumber path after ∨
        preq.target_addr = d ∧ after.sn = preq.target_sn ∧
          (path.flags.SN_VALID = false ∨ RTW_SN_LT path.sn preq.target_sn = true)) := by
  have keeps : ∀ {after : Hwmp}, KeepsNumber d s after ->
      ∃ later, after.path d = some later ∧
        (SameNumber path later ∨
          preq.target_addr = d ∧ later.sn = preq.target_sn ∧
            (path.flags.SN_VALID = false ∨ RTW_SN_LT path.sn preq.target_sn = true)) := by
    intro after kept
    rcases kept path found with ⟨later, foundLater, same⟩
    exact ⟨later, foundLater, Or.inl same⟩
  unfold preq_turn
  dsimp only
  split
  case isTrue own =>
    refine keeps (.of_path_eq ?_)
    split <;> rfl
  case isFalse foreign =>
    split
    case isTrue proactive =>
      have looked : KeepsNumber d s (rtw_mesh_path_lookup s rx.now preq.orig_addr).2 :=
        .lookup rx.now preq.orig_addr
      split
      case h_1 => exact keeps looked
      case h_2 =>
        refine keeps (KeepsNumber.trans ?_ (.announce_gate preq.orig_addr _ _))
        split
        · exact looked.trans (.of_path_eq rfl)
        · exact looked
    case isFalse single =>
      have looked := path_lookup s rx.now preq.target_addr d
      split
      case h_1 => exact keeps (.lookup rx.now preq.target_addr)
      case h_2 candidate known =>
        have outcome := path_modify (rtw_mesh_path_lookup s rx.now preq.target_addr).2
          preq.target_addr d (fun path => preq_target_sn path preq.target_sn)
        have reached : ∃ later,
            ((rtw_mesh_path_lookup s rx.now preq.target_addr).2.modify preq.target_addr
              (fun path => preq_target_sn path preq.target_sn)).path d = some later ∧
            (SameNumber path later ∨ preq.target_addr = d ∧ later.sn = preq.target_sn ∧
              (path.flags.SN_VALID = false ∨ RTW_SN_LT path.sn preq.target_sn = true)) := by
          rw [outcome, looked, found]
          by_cases same : d = preq.target_addr
          · rw [if_pos same, if_pos same, Option.map_some, Option.map_some]
            refine ⟨_, rfl, ?_⟩
            have kept := SameNumber.looked rx.now path
            unfold preq_target_sn
            split
            case isTrue newer =>
              rw [kept.SN_VALID, kept.sn, Bool.or_eq_true, Bool.not_eq_true'] at newer
              exact Or.inr ⟨same.symm, rfl, newer⟩
            case isFalse => exact Or.inl kept
          · rw [if_neg same, if_neg same]
            exact ⟨path, rfl, Or.inl (.refl path)⟩
        split <;> exact reached

theorem preq_reply_path (preq : Preq) (turn : PreqTurn) : (preq_reply cfg rx s preq turn).path d = s.path d := by
  unfold preq_reply
  split
  · split <;> rfl
  · rfl

theorem preq_forward_path (preq : Preq) (turn : PreqTurn) (originator_metric : BitVec 32) :
    (preq_forward cfg s preq turn originator_metric).path d = s.path d := by
  unfold preq_forward
  split
  · split <;> rfl
  · rfl

theorem preq_process_path (preq : Preq) (originator_metric : BitVec 32) :
    (rtw_hwmp_preq_frame_process cfg rx s preq originator_metric).path d =
      (preq_turn cfg rx s preq).2.path d := by
  unfold rtw_hwmp_preq_frame_process
  dsimp only
  rw [preq_forward_path, preq_reply_path]

theorem prep_process_keeps (cfg : MeshCfg) (rx : HwmpRx) (prep : Prep) (metric : BitVec 32) :
    KeepsNumber d s (rtw_hwmp_prep_frame_process cfg rx s prep metric) := by
  unfold rtw_hwmp_prep_frame_process
  dsimp only
  split
  · have looked : KeepsNumber d s (rtw_mesh_path_lookup s rx.now prep.target_addr).2 :=
      .lookup rx.now prep.target_addr
    split
    · exact looked
    · split
      · have answered : KeepsNumber d s ((rtw_mesh_path_lookup s rx.now prep.target_addr).2.modify
            prep.target_addr (fun path => { path with gate_asked := false })) := by
          refine looked.trans (.modify ?_ prep.target_addr)
          exact fun _ => ⟨rfl, rfl, rfl, rfl⟩
        split
        · exact answered
        · exact answered.trans (.gate_del prep.target_addr)
      · exact looked
  · split
    · exact .of_path_eq rfl
    · split
      · exact .of_path_eq rfl
      · have looked : KeepsNumber d s (rtw_mesh_path_lookup s rx.now prep.orig_addr).2 :=
          .lookup rx.now prep.orig_addr
        split
        · exact looked.trans (.of_path_eq rfl)
        · exact looked.trans (.of_path_eq rfl)

theorem perr_process_number (cfg : MeshCfg) (rx : HwmpRx) (perr : Perr) (found : s.path d = some path) :
    ∃ after, (rtw_hwmp_perr_frame_process cfg rx s perr).path d = some after ∧
      (SameNumber path after ∨ after.flags.ACTIVE = false) ∧
      after.rann_metric = path.rann_metric := by
  have keeps : ∀ {after : Hwmp}, KeepsNumber d s after ->
      ∃ later, after.path d = some later ∧
        (SameNumber path later ∨ later.flags.ACTIVE = false) ∧
        later.rann_metric = path.rann_metric := by
    intro after kept
    rcases kept path found with ⟨later, foundLater, same⟩
    exact ⟨later, foundLater, Or.inl same, same.rann_metric⟩
  unfold rtw_hwmp_perr_frame_process
  dsimp only
  split
  · exact keeps (.of_path_eq rfl)
  · have looked : KeepsNumber d s (rtw_mesh_path_lookup s rx.now perr.target_addr).2 :=
      .lookup rx.now perr.target_addr
    split
    · exact keeps looked
    · split
      · rcases looked path found with ⟨before, foundBefore, same⟩
        have broken := path_modify (rtw_mesh_path_lookup s rx.now perr.target_addr).2
          perr.target_addr d (fun path => path.broken perr.target_sn)
        have reached : ∃ later,
            ((rtw_mesh_path_lookup s rx.now perr.target_addr).2.modify perr.target_addr
              (fun path => path.broken perr.target_sn)).path d = some later ∧
            (SameNumber path later ∨ later.flags.ACTIVE = false) ∧
            later.rann_metric = path.rann_metric := by
          rw [broken, foundBefore, Option.map_some]
          split
          · exact ⟨_, rfl, Or.inr rfl, same.rann_metric⟩
          · exact ⟨before, rfl, Or.inl same, same.rann_metric⟩
        split <;> exact reached
      · exact keeps looked

theorem accept_rann_number (candidate : MeshPath) (rann : Rann) (metric_txsta : BitVec 32)
    (found : s.path d = some path) :
    ∃ after,
      (accept_rann cfg rx s candidate rann metric_txsta).path d = some after ∧
      (rann.rann_addr ≠ d ∧ SameNumber path after ∨
        rann.rann_addr = d ∧ after.sn = rann.rann_seq ∧
          after.rann_metric = rann.rann_metric + metric_txsta) := by
  have asked : KeepsNumber d s (ask_root cfg rx s candidate rann) := .ask_root cfg rx candidate rann
  unfold accept_rann
  dsimp only
  rcases asked path found with ⟨earlier, foundEarlier, sameEarlier⟩
  have taken := path_modify (ask_root cfg rx s candidate rann) rann.rann_addr d (fun path =>
    { path with
      sn := rann.rann_seq
      rann_metric := rann.rann_metric + metric_txsta
      is_root := true
      rann_snd_addr := rx.addr2 })
  rw [foundEarlier, Option.map_some] at taken
  generalize (ask_root cfg rx s candidate rann).modify rann.rann_addr _ = middle at taken ⊢
  have gated : KeepsNumber d middle (announce_gate middle rann.rann_addr
      (rann.rann_flags.getLsbD 0) rann.rann_interval) := .announce_gate rann.rann_addr _ _
  generalize announce_gate middle rann.rann_addr _ _ = last at gated ⊢
  have passed : ∃ after, last.path d = some after ∧
      (rann.rann_addr ≠ d ∧ SameNumber path after ∨
        rann.rann_addr = d ∧ after.sn = rann.rann_seq ∧
          after.rann_metric = rann.rann_metric + metric_txsta) := by
    split at taken
    case isTrue same =>
      rcases gated _ taken with ⟨after, foundAfter, kept⟩
      exact ⟨after, foundAfter, Or.inr ⟨same.symm, kept.sn, kept.rann_metric⟩⟩
    case isFalse different =>
      rcases gated _ taken with ⟨after, foundAfter, kept⟩
      exact ⟨after, foundAfter, Or.inl ⟨Ne.symm different, sameEarlier.trans kept⟩⟩
  split
  · exact passed
  · split <;> exact passed

theorem rann_process_number (cfg : MeshCfg) (rann : Rann) (found : s.path d = some path)
    (alive : path.AliveAt rx.now) :
    ∃ after, (rtw_hwmp_rann_frame_process cfg rx s rann).path d = some after ∧
      (SameNumber path after ∨
        rann.rann_addr = d ∧ rann_fresh path rann = true ∧ after.sn = rann.rann_seq ∧
          ∃ metric_txsta, rx.link_metric = some metric_txsta ∧
            after.rann_metric = rann.rann_metric + metric_txsta) := by
  have unchanged : ∀ {after : Hwmp}, after.path d = some path ->
      ∃ later, after.path d = some later ∧
        (SameNumber path later ∨
          rann.rann_addr = d ∧ rann_fresh path rann = true ∧ later.sn = rann.rann_seq ∧
            ∃ metric_txsta, rx.link_metric = some metric_txsta ∧
              later.rann_metric = rann.rann_metric + metric_txsta) :=
    fun same => ⟨path, same, Or.inl (.refl path)⟩
  unfold rtw_hwmp_rann_frame_process
  dsimp only
  split
  case isTrue => exact unchanged found
  case isFalse =>
    split
    case h_1 => exact unchanged found
    case h_2 metric_txsta metric =>
      have looked := path_lookup_alive found alive rann.rann_addr
      split
      case h_1 candidate known =>
        split
        case isTrue fresh =>
          rcases accept_rann_number candidate rann metric_txsta looked with
            ⟨after, foundAfter, ⟨_, same⟩ | ⟨same, sn, rann_metric⟩⟩
          · exact ⟨after, foundAfter, Or.inl same⟩
          · rw [same, lookup_alive found alive] at known
            rw [← Option.some.inj known] at fresh
            exact ⟨after, foundAfter, Or.inr ⟨same, fresh, sn, metric_txsta, metric, rann_metric⟩⟩
        case isFalse => exact unchanged looked
      case h_2 missing =>
        have different : rann.rann_addr ≠ d := by
          intro same
          rw [same, lookup_alive found alive] at missing
          cases missing
        have added := path_add looked rx.now (rx.alloc rann.rann_addr) (rx.ret rann.rann_addr)
          rann.rann_addr
        split
        case h_1 => exact unchanged added
        case h_2 created _ =>
          split
          case isTrue =>
            rcases accept_rann_number created rann metric_txsta added with
              ⟨after, foundAfter, ⟨_, same⟩ | ⟨same, _⟩⟩
            · exact ⟨after, foundAfter, Or.inl same⟩
            · exact absurd same different
          case isFalse => exact unchanged added

theorem route_info_number (cfg : MeshCfg) (found : s.path d = some path) (alive : path.AliveAt rx.now)
    {last_hop_metric : BitVec 32} (metric : rx.link_metric = some last_hop_metric) (o : Originator) :
    ∃ after, (rtw_hwmp_route_info_get cfg rx s o).2.path d = some after ∧
      (SameNumber path after ∨
        o.originator_addr = d ∧ after.sn = o.originator_sn ∧ after.flags.SN_VALID = true ∧
          (originator_fresh path o.originator_sn
            (hwmp_new_metric o.originator_metric last_hop_metric)).2 = true) := by
  have updated : ∃ later,
      (originator_update cfg rx s o (hwmp_new_metric o.originator_metric last_hop_metric)).2.path d =
        some later ∧
      (SameNumber path later ∨
        o.originator_addr = d ∧ later.sn = o.originator_sn ∧ later.flags.SN_VALID = true ∧
          (originator_fresh path o.originator_sn
            (hwmp_new_metric o.originator_metric last_hop_metric)).2 = true) := by
    rcases path_originator_update cfg found alive o
      (hwmp_new_metric o.originator_metric last_hop_metric) with same | ⟨⟨about, fresh⟩, taken⟩
    · exact ⟨path, same, Or.inl (.refl path)⟩
    · have unqueued := SameNumber.unqueued { path with
        next_hop := some rx.addr2
        flags := { path.flags with SN_VALID := true }.activate
        metric := hwmp_new_metric o.originator_metric last_hop_metric
        sn := o.originator_sn
        exp_time := later_exp_time path (rx.now + cfg.tu_to_systime o.originator_lifetime) }
      exact ⟨_, taken, Or.inr ⟨about, unqueued.sn, unqueued.SN_VALID, fresh⟩⟩
  rcases updated with ⟨later, foundLater, outcome⟩
  unfold rtw_hwmp_route_info_get
  rw [metric]
  dsimp only
  split
  · exact ⟨later, foundLater, outcome⟩
  · rcases KeepsNumber.transmitter_update cfg rx o last_hop_metric later foundLater with
      ⟨after, foundAfter, kept⟩
    refine ⟨after, foundAfter, ?_⟩
    rcases outcome with same | ⟨about, sn, valid, fresh⟩
    · exact Or.inl (same.trans kept)
    · exact Or.inr ⟨about, kept.sn.trans sn, kept.SN_VALID.trans valid, fresh⟩

theorem route_info_none (missing : rx.link_metric = none) (o : Originator) :
    rtw_hwmp_route_info_get cfg rx s o = (0, s) := by
  unfold rtw_hwmp_route_info_get
  rw [missing]

end elements

section step

variable {s : Hwmp} {d : MacAddr} {path : MeshPath} {cfg : MeshCfg} {w : BitVec 32}

theorem route_info_ordered (cfg : MeshCfg) {rx : HwmpRx} (found : s.path d = some path)
    (alive : path.AliveAt rx.now) {last_hop_metric : BitVec 32}
    (metric : rx.link_metric = some last_hop_metric) (inside : InSnWindow w path.sn)
    (o : Originator) (known : o.originator_addr = d -> path.flags.SN_VALID = true)
    (number : o.originator_addr = d -> InSnWindow w o.originator_sn) :
    ∃ after, (rtw_hwmp_route_info_get cfg rx s o).2.path d = some after ∧
      SnOrdered w path.sn after.sn ∧
      (path.flags.SN_VALID = true -> after.flags.SN_VALID = true) := by
  rcases route_info_number cfg found alive metric o with
    ⟨after, foundAfter, same | ⟨about, sn, valid, fresh⟩⟩
  · refine ⟨after, foundAfter, ?_, fun valid => same.SN_VALID.trans valid⟩
    rw [same.sn]
    exact .refl inside
  · refine ⟨after, foundAfter, ?_, fun _ => valid⟩
    rw [sn]
    exact .of_not_gt inside (number about) (originator_fresh_known alive (known about) fresh).1

theorem receive_ordered (cfg : MeshCfg) {event : HwmpRx × HwmpElement} (found : s.path d = some path)
    (alive : path.AliveAt event.1.now) (known : NumbersKnown d s event)
    (inside : InSnWindow w path.sn) (numbers : NumbersInWindow d w event.2) :
    ∃ after, (s.receive cfg event).path d = some after ∧
      (after.flags.ACTIVE = true -> SnOrdered w path.sn after.sn) := by
  rcases event with ⟨rx, element⟩
  have knownHere := known path found alive
  have unchanged : ∃ after, s.path d = some after ∧
      (after.flags.ACTIVE = true -> SnOrdered w path.sn after.sn) :=
    ⟨path, found, fun _ => .refl inside⟩
  cases element with
  | preq preq =>
      unfold Hwmp.receive
      dsimp only
      cases metric : rx.link_metric with
      | none =>
          rw [route_info_none metric, if_neg (fun different => different rfl)]
          exact unchanged
      | some last_hop_metric =>
          have isSome : rx.link_metric.isSome = true := by rw [metric]; rfl
          rcases route_info_ordered cfg found alive metric inside preq.originator
            (fun about => knownHere (Or.inl about) isSome) numbers.1 with
            ⟨later, foundLater, ordered, valid⟩
          split
          · rw [preq_process_path]
            rcases preq_turn_number cfg rx preq foundLater with
              ⟨after, foundAfter, same | ⟨about, sn, newer⟩⟩
            · refine ⟨after, foundAfter, fun _ => ?_⟩
              rw [same.sn]
              exact ordered
            · refine ⟨after, foundAfter, fun _ => ?_⟩
              rcases newer with unknown | newer
              · rw [valid (knownHere (Or.inr about) isSome)] at unknown
                cases unknown
              · rw [sn]
                exact ordered.trans (.of_lt ordered.inside (numbers.2 about) newer)
          · exact ⟨later, foundLater, fun _ => ordered⟩
  | prep prep =>
      unfold Hwmp.receive
      dsimp only
      cases metric : rx.link_metric with
      | none =>
          rw [route_info_none metric, if_neg (fun different => different rfl)]
          exact unchanged
      | some last_hop_metric =>
          have isSome : rx.link_metric.isSome = true := by rw [metric]; rfl
          rcases route_info_ordered cfg found alive metric inside prep.originator
            (fun about => knownHere about isSome) numbers with ⟨later, foundLater, ordered, _⟩
          split
          · rcases prep_process_keeps cfg rx prep _ later foundLater with
              ⟨after, foundAfter, same⟩
            refine ⟨after, foundAfter, fun _ => ?_⟩
            rw [same.sn]
            exact ordered
          · exact ⟨later, foundLater, fun _ => ordered⟩
  | perr perr =>
      rcases perr_process_number cfg rx perr found with
        ⟨after, foundAfter, same | broken, _⟩
      · refine ⟨after, foundAfter, fun _ => ?_⟩
        rw [same.sn]
        exact .refl inside
      · refine ⟨after, foundAfter, fun active => ?_⟩
        rw [broken] at active
        cases active
  | rann rann =>
      rcases rann_process_number cfg rann found alive with
        ⟨after, foundAfter, same | ⟨about, fresh, sn, _⟩⟩
      · refine ⟨after, foundAfter, fun _ => ?_⟩
        rw [same.sn]
        exact .refl inside
      · refine ⟨after, foundAfter, fun _ => ?_⟩
        rw [sn]
        unfold rann_fresh at fresh
        rcases Bool.or_eq_true_iff.mp fresh with newer | better
        · exact .of_lt inside (numbers about) newer
        · rw [← beq_iff_eq.mp (Bool.and_eq_true_iff.mp better).1]
          exact .refl inside

theorem freshStep_of_known {event : HwmpRx × HwmpElement} (known : NumbersKnown d s event)
    (inside : ∀ path, s.path d = some path -> InSnWindow w path.sn)
    (numbers : NumbersInWindow d w event.2) : FreshStep cfg d s event where
  sn := by
    intro path after found alive foundAfter active
    rcases receive_ordered cfg found alive known (inside path found) numbers with
      ⟨later, foundLater, ordered⟩
    rw [foundLater] at foundAfter
    rw [← Option.some.inj foundAfter] at active ⊢
    exact (ordered active).not_lt (inside path found)
  originator := by
    intro o last_hop_metric path after kind metric about found alive foundAfter
    rcases path_originator_update cfg found alive o
      (hwmp_new_metric o.originator_metric last_hop_metric) with same | ⟨⟨_, fresh⟩, taken⟩
    · rw [same] at foundAfter
      exact Or.inl (Option.some.inj foundAfter).symm
    · right
      rw [taken] at foundAfter
      have stored : after.metric = hwmp_new_metric o.originator_metric last_hop_metric := by
        rw [← Option.some.inj foundAfter, MeshPath.originated, MeshPath.unqueued]
        split <;> rfl
      have isSome : event.1.link_metric.isSome = true := by rw [metric]; rfl
      have knownHere := known path found alive
      have facts : path.flags.SN_VALID = true ∧ InSnWindow w o.originator_sn := by
        rcases event with ⟨rx, element⟩
        cases element with
        | preq preq =>
            rw [← Option.some.inj kind] at about ⊢
            exact ⟨knownHere (Or.inl about) isSome, numbers.1 about⟩
        | prep prep =>
            rw [← Option.some.inj kind] at about ⊢
            exact ⟨knownHere about isSome, numbers about⟩
        | perr perr => cases kind
        | rann rann => cases kind
      have newer := originator_fresh_known alive facts.1 fresh
      refine ⟨?_, stored ▸ le_hwmp_new_metric _ _⟩
      rcases (SnOrdered.of_not_gt (inside path found) facts.2 newer.1).gt_or_eq
        (inside path found) with later | same
      · exact Or.inl later
      · exact Or.inr ⟨same, stored ▸ newer.2 same.symm⟩
  rann_metric := by
    intro rann path after kind about found alive foundAfter
    rcases event with ⟨rx, element⟩
    dsimp only at kind alive
    rw [kind] at known foundAfter
    rcases rann_process_number cfg rann found alive with
      ⟨later, foundLater, same | ⟨_, fresh, _, metric_txsta, metric, sum⟩⟩
    · rw [Hwmp.receive, foundLater] at foundAfter
      rw [← Option.some.inj foundAfter]
      exact Or.inl same.rann_metric
    · rw [Hwmp.receive, foundLater] at foundAfter
      rw [← Option.some.inj foundAfter, sum]
      have small := known path found alive about fresh metric_txsta metric
      refine Or.inr (BitVec.le_def.mpr ?_)
      rw [BitVec.toNat_add, Nat.mod_eq_of_lt small]
      exact Nat.le_add_right _ _

end step

/-- As long as a path stays active and its numbers are known, every element is
fresh for it, and its sequence number does not decrease over the whole run. -/
theorem hwmp_run_fresh (cfg : MeshCfg) (d : MacAddr) (w : BitVec 32) (start : Hwmp)
    (events : List (HwmpRx × HwmpElement)) (first : ∀ path, start.path d = some path -> InSnWindow w path.sn)
    (numbers : ∀ event ∈ events, NumbersInWindow d w event.2) (active : StaysActive cfg d start events)
    (known : Run.Guarded (Hwmp.receive cfg) (NumbersKnown d) start events) :
    Run.Guarded (Hwmp.receive cfg) (FreshStep cfg d) start events ∧
      ∀ path after, start.path d = some path ->
        (Run.execute (Hwmp.receive cfg) start events).path d = some after ->
        RTW_SN_LT after.sn path.sn = false := by
  have ordered : Run.Guarded (Hwmp.receive cfg) (FreshStep cfg d) start events ∧
      ∀ path after, start.path d = some path ->
        (Run.execute (Hwmp.receive cfg) start events).path d = some after ->
        SnOrdered w path.sn after.sn := by
    induction events generalizing start with
    | nil =>
        refine ⟨trivial, fun path after found foundAfter => ?_⟩
        rw [Run.execute_nil, found] at foundAfter
        rw [← Option.some.inj foundAfter]
        exact .refl (first path found)
    | cons event rest ih =>
        rcases active.1 with ⟨path, found, alive⟩
        have number := numbers event List.mem_cons_self
        rcases receive_ordered cfg found alive known.1 (first path found) number with
          ⟨next, foundNext, orderedNext⟩
        have activeNext : next.flags.ACTIVE = true := by
          have behind := active.2
          cases rest with
          | nil =>
              rcases behind with ⟨later, foundLater, active⟩
              rw [foundNext] at foundLater
              exact (Option.some.inj foundLater) ▸ active
          | cons following rest =>
              rcases behind.1 with ⟨later, foundLater, alive⟩
              rw [foundNext] at foundLater
              exact (Option.some.inj foundLater) ▸ alive.ACTIVE
        have later := ih (start.receive cfg event)
          (fun other foundOther => by
            rw [foundNext] at foundOther
            rw [← Option.some.inj foundOther]
            exact (orderedNext activeNext).inside)
          (fun event member => numbers event (List.mem_cons_of_mem _ member)) active.2 known.2
        refine ⟨⟨freshStep_of_known known.1 first number, later.1⟩, ?_⟩
        intro other after foundOther foundAfter
        rw [found] at foundOther
        rw [← Option.some.inj foundOther]
        exact (orderedNext activeNext).trans (later.2 next after foundNext foundAfter)
  exact ⟨ordered.1, fun path after found foundAfter =>
    (ordered.2 path after found foundAfter).not_lt (first path found)⟩

def mesh_sta (last : UInt8) : MacAddr := .ofLast last

def mesh_cfg : MeshCfg where
  element_ttl := 31
  dot11MeshForwarding := true
  dot11MeshGateAnnouncementProtocol := false
  net_traversal_jiffies := 50
  root_path_confirmation_jiffies := 2000
  tu_to_systime := fun units => units.setWidth 64

def hwmp_empty : Hwmp where
  info := .initial (mesh_sta 1)
  known_gates := []
  sn := 0
  last_sn_update := 0
  mshstats := ⟨0, 0, 0, 0, 0⟩
  ra := fun _ => .zero
  mpath_tx_queue := []
  preq_queue := []
  sent := []

def from_neighbour : HwmpRx where
  now := 10
  addr2 := mesh_sta 2
  link_metric := some 100
  alloc := fun _ => true
  ret := fun _ => none
  preq_alloc := true

def preq_of (orig_addr : MacAddr) (orig_sn : BitVec 32) : HwmpElement :=
  .preq ⟨0, 0, 31, 1, orig_addr, orig_sn, 5000, 100, 0, mesh_sta 9, 0⟩

def rann_of (rann_addr : MacAddr) (rann_seq : BitVec 32) : HwmpElement :=
  .rann ⟨0, 0, 31, rann_addr, rann_seq, 5000, 0⟩

def hwmp_numbered : Hwmp :=
  hwmp_empty.receive mesh_cfg (from_neighbour, preq_of (mesh_sta 2) 100)

/-- The path to station 2 has a number, and its next PREQ has a newer one. -/
theorem hwmp_run_fresh_numbered :
    Run.Guarded (Hwmp.receive mesh_cfg) (FreshStep mesh_cfg (mesh_sta 2)) hwmp_numbered
        [(from_neighbour, preq_of (mesh_sta 2) 101)] ∧
      ∀ path after, hwmp_numbered.path (mesh_sta 2) = some path ->
        (Run.execute (Hwmp.receive mesh_cfg) hwmp_numbered
          [(from_neighbour, preq_of (mesh_sta 2) 101)]).path (mesh_sta 2) = some after ->
        RTW_SN_LT after.sn path.sn = false := by
  have found : ∃ path, hwmp_numbered.path (mesh_sta 2) = some path ∧
      path.AliveAt 10 ∧ path.flags.SN_VALID = true ∧ path.sn = 100 :=
    ⟨_, rfl, ⟨by decide, by decide, by decide⟩, by decide, by decide⟩
  rcases found with ⟨path, found, alive, valid, sn⟩
  have same : ∀ other, hwmp_numbered.path (mesh_sta 2) = some other -> other = path := by
    intro other foundOther
    rw [found] at foundOther
    exact (Option.some.inj foundOther).symm
  refine hwmp_run_fresh mesh_cfg (mesh_sta 2) 0 hwmp_numbered _ ?_ ?_ ?_ ?_
  · intro other foundOther
    rw [same other foundOther, sn]
    decide
  · intro event member
    rw [List.mem_singleton.mp member]
    exact ⟨fun _ => by decide, fun impossible => absurd impossible (by decide)⟩
  · exact ⟨⟨path, found, alive⟩, _, rfl, by decide⟩
  · refine ⟨fun other foundOther _ => ?_, trivial⟩
    rw [same other foundOther]
    exact fun _ _ => valid

/-- After a RANN of station 2 with the number 100, and a PREQ of station 3 that
station 2 has transmitted. -/
def hwmp_unnumbered : Hwmp :=
  Run.execute (Hwmp.receive mesh_cfg) hwmp_empty
    [(from_neighbour, rann_of (mesh_sta 2) 100), (from_neighbour, preq_of (mesh_sta 3) 7)]

/-- The path to station 2 stays active, and its number goes from 100 to 50. -/
theorem hwmp_sn_decreases :
    StaysActive mesh_cfg (mesh_sta 2) hwmp_unnumbered
        [(from_neighbour, preq_of (mesh_sta 2) 50)] ∧
      (∀ event, event ∈ [rann_of (mesh_sta 2) 100, preq_of (mesh_sta 3) 7,
          preq_of (mesh_sta 2) 50] -> NumbersInWindow (mesh_sta 2) 0 event) ∧
      ∃ path, ∃ after,
        hwmp_unnumbered.path (mesh_sta 2) = some path ∧ path.flags.FIXED = false ∧
        (Run.execute (Hwmp.receive mesh_cfg) hwmp_unnumbered
          [(from_neighbour, preq_of (mesh_sta 2) 50)]).path (mesh_sta 2) = some after ∧
        RTW_SN_LT after.sn path.sn = true := by
  refine ⟨⟨⟨_, rfl, by decide, by decide, by decide⟩, _, rfl, by decide⟩, ?_, ?_⟩
  · intro event member
    simp only [List.mem_cons, List.not_mem_nil, or_false] at member
    rcases member with rfl | rfl | rfl
    · exact fun _ => by decide
    · exact ⟨fun impossible => absurd impossible (by decide),
        fun impossible => absurd impossible (by decide)⟩
    · exact ⟨fun _ => by decide, fun impossible => absurd impossible (by decide)⟩
  · exact ⟨_, _, rfl, by decide, rfl, by decide⟩

end Rtl8821ce
