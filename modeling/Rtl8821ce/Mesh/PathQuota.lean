import Mathlib.Data.List.AList
import Rtl8821ce.Library.Run
import Rtl8821ce.Mesh.Pathtbl

/-!
# The quota of mesh paths

An interface has a table of mesh paths and a table of paths to proxied
addresses, and one counter `mpaths` that limits the first of them.
`rtw_mesh_path_add` counts before it knows whether a path is added, and
`rtw_mesh_path_free_rcu`, which both tables use, always counts down.

The tables are there from `rtw_mesh_pathtbl_init` on.  Gates and the frames that
wait for a path are not part of this module.
-/

namespace Rtl8821ce

/-- `struct rtw_mesh_table`, a hash table with the keys `dst`. -/
abbrev MeshTable := AList (fun _ : MacAddr => MeshPath)

def MeshTable.count (tbl : MeshTable) : Nat := tbl.keys.length

/-- The fields of `struct rtw_mesh_info` that the tables use, with the address of
the adapter. -/
structure MeshInfo where
  adapter_mac_addr : MacAddr
  mpaths : Int
  mesh_paths : MeshTable
  mpp_paths : MeshTable
  mesh_paths_generation : Nat
  mpp_paths_generation : Nat

/-- What `rtw_mesh_path_add` answers when there is no path.  `rhashtable` is an
error of the hash table. -/
inductive PathAddError
  | ENOTSUPP
  | ENOSPC
  | ENOMEM
  | rhashtable (ret : Nat)
  deriving DecidableEq

def is_multicast_mac_addr (addr : MacAddr) : Bool :=
  addr.bytes.headD 0 != 0xff && (0x01 &&& addr.bytes.headD 0) != 0

/-- Increment a counter unless it is `u`. -/
def ATOMIC_INC_UNLESS (v u : Int) : Bool × Int :=
  if v = u then (false, v) else (true, v + 1)

/-- Allocate and add a path to the table of mesh paths.  `alloc` is whether the
allocation succeeds, and `ret` an error of the insertion. -/
def rtw_mesh_path_add (info : MeshInfo) (now : Systime) (alloc : Bool) (ret : Option Nat)
    (dst : MacAddr) : Except PathAddError MeshPath × MeshInfo :=
  if dst = info.adapter_mac_addr then (.error .ENOTSUPP, info)
  else if is_multicast_mac_addr dst then (.error .ENOTSUPP, info)
  else
    let counted := ATOMIC_INC_UNLESS info.mpaths RTW_MESH_MAX_MPATHS
    let info := { info with mpaths := counted.2 }
    if counted.1 = false then (.error .ENOSPC, info)
    else if alloc = false then (.error .ENOMEM, info)
    else
      match ret with
      | some ret => (.error (.rhashtable ret), info)
      | none =>
          let generation := info.mesh_paths_generation + 1
          match info.mesh_paths.lookup dst with
          | some mpath => (.ok mpath, { info with mesh_paths_generation := generation })
          | none =>
              let new_mpath := rtw_mesh_path_new now dst
              (.ok new_mpath,
                { info with
                  mesh_paths := info.mesh_paths.insert dst new_mpath
                  mesh_paths_generation := generation })

def rtw_mpp_path_add (info : MeshInfo) (now : Systime) (alloc : Bool) (ret : Option Nat)
    (dst mpp : MacAddr) : MeshInfo :=
  if dst = info.adapter_mac_addr then info
  else if is_multicast_mac_addr dst then info
  else if alloc = false then info
  else
    { info with
      mpp_paths :=
        if ret.isSome ∨ dst ∈ info.mpp_paths then info.mpp_paths
        else info.mpp_paths.insert dst { rtw_mesh_path_new now dst with mpp := mpp }
      mpp_paths_generation := info.mpp_paths_generation + 1 }

set_option linter.style.nameCheck false in
/-- Take a path out of its table and free it, with the counter before the table. -/
def __rtw_mesh_path_del (counted : Int × MeshTable) (dst : MacAddr) : Int × MeshTable :=
  (counted.1 - 1, counted.2.erase dst)

/-- A walk over a table that deletes some of its paths. -/
def walk_path_del (doomed : MeshPath -> Bool) (mpaths : Int) (tbl : MeshTable) : Int × MeshTable :=
  tbl.entries.foldl
    (fun counted mpath =>
      if doomed mpath.2 then __rtw_mesh_path_del counted mpath.1 else counted)
    (mpaths, tbl)

def rtw_mesh_path_flush_by_nexthop (info : MeshInfo) (sta : MacAddr) : MeshInfo :=
  let walked :=
    walk_path_del (fun mpath => mpath.next_hop = some sta) info.mpaths info.mesh_paths
  { info with mpaths := walked.1, mesh_paths := walked.2 }

def rtw_mpp_flush_by_proxy (info : MeshInfo) (proxy : MacAddr) : MeshInfo :=
  let walked := walk_path_del (fun mpath => mpath.mpp = proxy) info.mpaths info.mpp_paths
  { info with mpaths := walked.1, mpp_paths := walked.2 }

/-- Delete all paths of an interface, those to proxied addresses last. -/
def rtw_mesh_path_flush_by_iface (info : MeshInfo) : MeshInfo :=
  let walked := walk_path_del (fun _ => true) info.mpaths info.mesh_paths
  let mpp_walked := walk_path_del (fun _ => true) walked.1 info.mpp_paths
  { info with mpaths := mpp_walked.1, mesh_paths := walked.2, mpp_paths := mpp_walked.2 }

def rtw_table_path_del (info : MeshInfo) (addr : MacAddr) : MeshInfo :=
  match info.mesh_paths.lookup addr with
  | none => info
  | some _ =>
      let deleted := __rtw_mesh_path_del (info.mpaths, info.mesh_paths) addr
      { info with mpaths := deleted.1, mesh_paths := deleted.2 }

/-- Delete a mesh path, and before it the paths to addresses that it proxies. -/
def rtw_mesh_path_del (info : MeshInfo) (addr : MacAddr) : MeshInfo :=
  let deleted := rtw_table_path_del (rtw_mpp_flush_by_proxy info addr) addr
  { deleted with mesh_paths_generation := deleted.mesh_paths_generation + 1 }

/-- Whether `rtw_mesh_path_tbl_expire` deletes a path.  `hz` are the ticks of a second. -/
def mesh_path_outdated (hz now : Systime) (mpath : MeshPath) : Bool :=
  !mpath.flags.RESOLVING && !mpath.flags.FIXED && rtw_time_after now (mpath.exp_time + 600 * hz)

def rtw_mesh_path_expire (hz : Systime) (info : MeshInfo) (now : Systime) : MeshInfo :=
  let walked := walk_path_del (mesh_path_outdated hz now) info.mpaths info.mesh_paths
  let mpp_walked := walk_path_del (mesh_path_outdated hz now) walked.1 info.mpp_paths
  { info with mpaths := mpp_walked.1, mesh_paths := walked.2, mpp_paths := mpp_walked.2 }

/-- What happens to the tables between two states. -/
inductive PathEvent
  | rtw_mesh_path_add (now : Systime) (alloc : Bool) (ret : Option Nat) (dst : MacAddr)
  | rtw_mpp_path_add (now : Systime) (alloc : Bool) (ret : Option Nat) (dst mpp : MacAddr)
  | rtw_mesh_path_del (addr : MacAddr)
  | rtw_mesh_path_expire (now : Systime)
  | rtw_mesh_path_flush_by_nexthop (sta : MacAddr)
  | rtw_mesh_path_flush_by_iface
  /-- Anything else writes to a path of one of the tables. -/
  | written (dst : MacAddr) (mpath mpp : MeshPath)

def MeshInfo.step (hz : Systime) (info : MeshInfo) : PathEvent -> MeshInfo
  | .rtw_mesh_path_add now alloc ret dst => (Rtl8821ce.rtw_mesh_path_add info now alloc ret dst).2
  | .rtw_mpp_path_add now alloc ret dst mpp => Rtl8821ce.rtw_mpp_path_add info now alloc ret dst mpp
  | .rtw_mesh_path_del addr => Rtl8821ce.rtw_mesh_path_del info addr
  | .rtw_mesh_path_expire now => Rtl8821ce.rtw_mesh_path_expire hz info now
  | .rtw_mesh_path_flush_by_nexthop sta => Rtl8821ce.rtw_mesh_path_flush_by_nexthop info sta
  | .rtw_mesh_path_flush_by_iface => Rtl8821ce.rtw_mesh_path_flush_by_iface info
  | .written dst mpath mpp =>
      { info with
        mesh_paths := info.mesh_paths.replace dst mpath
        mpp_paths := info.mpp_paths.replace dst mpp }

/-- `mesh_info` with empty tables. -/
def MeshInfo.initial (adapter_mac_addr : MacAddr) : MeshInfo where
  adapter_mac_addr := adapter_mac_addr
  mpaths := 0
  mesh_paths := ∅
  mpp_paths := ∅
  mesh_paths_generation := 0
  mpp_paths_generation := 0

/-- The counter is the number of mesh paths, and paths are refused for lack of
space exactly when the table is full. -/
structure QuotaHolds (info : MeshInfo) : Prop where
  mpaths : info.mpaths = info.mesh_paths.count
  limit : 0 ≤ info.mpaths ∧ info.mpaths ≤ RTW_MESH_MAX_MPATHS
  refusal : ∀ now alloc ret dst,
    (rtw_mesh_path_add info now alloc ret dst).1 = .error .ENOSPC <->
      dst ≠ info.adapter_mac_addr ∧ is_multicast_mac_addr dst = false ∧
        info.mesh_paths.count = RTW_MESH_MAX_MPATHS

/-- An addition is refused before it counts, or adds a path; and no path to a
proxied address is deleted. -/
def CountsAsItShould (hz : Systime) (info : MeshInfo) : PathEvent -> Prop
  | .rtw_mesh_path_add _ alloc ret dst =>
      dst = info.adapter_mac_addr ∨ is_multicast_mac_addr dst = true ∨
        info.mesh_paths.count = RTW_MESH_MAX_MPATHS ∨
        alloc = true ∧ ret = none ∧ dst ∉ info.mesh_paths
  | .rtw_mesh_path_del addr => ∀ mpath ∈ info.mpp_paths.entries, mpath.2.mpp ≠ addr
  | .rtw_mesh_path_expire now =>
      ∀ mpath ∈ info.mpp_paths.entries, mesh_path_outdated hz now mpath.2 = false
  | .rtw_mesh_path_flush_by_iface => info.mpp_paths.entries = []
  | .rtw_mpp_path_add .. | .rtw_mesh_path_flush_by_nexthop _ | .written .. => True

theorem MeshTable.count_erase {tbl : MeshTable} {dst : MacAddr} (there : dst ∈ tbl) :
    MeshTable.count (tbl.erase dst) + 1 = tbl.count := by
  have positive := List.length_pos_of_mem (AList.mem_keys.mp there)
  unfold count
  rw [AList.keys_erase, List.length_erase_of_mem (AList.mem_keys.mp there)]
  omega

theorem MeshTable.count_insert {tbl : MeshTable} {dst : MacAddr} (mpath : MeshPath)
    (absent : dst ∉ tbl) : MeshTable.count (tbl.insert dst mpath) = tbl.count + 1 := by
  have outside : dst ∉ tbl.keys := fun member => absent (AList.mem_keys.mpr member)
  unfold count
  rw [AList.keys_insert, List.erase_of_not_mem outside, List.length_cons]

theorem walk_path_del_entries (doomed : MeshPath -> Bool) (mpaths : Int) (tbl : MeshTable)
    (left : List (Sigma fun _ : MacAddr => MeshPath)) (distinct : left.NodupKeys)
    (there : ∀ mpath ∈ left, mpath.1 ∈ tbl) :
    let walked := left.foldl
      (fun counted mpath =>
        if doomed mpath.2 then __rtw_mesh_path_del counted mpath.1 else counted) (mpaths, tbl)
    walked.1 = mpaths - (left.countP (fun mpath => doomed mpath.2) : Nat) ∧
      walked.2.count + left.countP (fun mpath => doomed mpath.2) = tbl.count := by
  induction left generalizing mpaths tbl with
  | nil => exact ⟨(Int.sub_zero mpaths).symm, rfl⟩
  | cons first left ih =>
      rcases List.nodupKeys_cons.mp distinct with ⟨fresh, distinctLeft⟩
      have behind : ∀ mpath ∈ left, mpath.1 ∈ tbl :=
        fun mpath member => there mpath (List.mem_cons_of_mem _ member)
      rw [List.foldl_cons, List.countP_cons]
      cases decided : doomed first.2 with
      | false =>
          have later := ih mpaths tbl distinctLeft behind
          simpa [decided] using later
      | true =>
          have remaining : ∀ mpath ∈ left, mpath.1 ∈ tbl.erase first.1 := by
            intro mpath member
            refine AList.mem_erase.mpr ⟨fun same => fresh ?_, behind mpath member⟩
            exact same ▸ List.mem_map.mpr ⟨mpath, member, rfl⟩
          have later := ih (mpaths - 1) (tbl.erase first.1) distinctLeft remaining
          have removed := MeshTable.count_erase (there first List.mem_cons_self)
          simp only [if_true, __rtw_mesh_path_del] at later ⊢
          omega

theorem walk_path_del_counts (doomed : MeshPath -> Bool) (mpaths : Int) (tbl : MeshTable) :
    (walk_path_del doomed mpaths tbl).1 =
        mpaths - (tbl.entries.countP (fun mpath => doomed mpath.2) : Nat) ∧
      (walk_path_del doomed mpaths tbl).2.count +
        tbl.entries.countP (fun mpath => doomed mpath.2) = tbl.count :=
  walk_path_del_entries doomed mpaths tbl tbl.entries tbl.nodupKeys
    (fun mpath member => AList.mem_keys.mpr (List.mem_map.mpr ⟨mpath, member, rfl⟩))

/-- The counter is the number of mesh paths, which is at most the limit. -/
structure MpathsCounted (info : MeshInfo) : Prop where
  mpaths : info.mpaths = info.mesh_paths.count
  limit : info.mesh_paths.count ≤ RTW_MESH_MAX_MPATHS

variable {info : MeshInfo}

theorem rtw_mesh_path_add_cases (info : MeshInfo) (now : Systime) (alloc : Bool) (ret : Option Nat) (dst : MacAddr) :
    (dst = info.adapter_mac_addr ∨ is_multicast_mac_addr dst = true) ∧
        rtw_mesh_path_add info now alloc ret dst = (.error .ENOTSUPP, info) ∨
    (dst ≠ info.adapter_mac_addr ∧ is_multicast_mac_addr dst = false) ∧
      (info.mpaths = RTW_MESH_MAX_MPATHS ∧
          rtw_mesh_path_add info now alloc ret dst = (.error .ENOSPC, info) ∨
        info.mpaths ≠ RTW_MESH_MAX_MPATHS ∧
          (rtw_mesh_path_add info now alloc ret dst).1 ≠ .error .ENOSPC ∧
          (rtw_mesh_path_add info now alloc ret dst).2.mpaths = info.mpaths + 1 ∧
          (rtw_mesh_path_add info now alloc ret dst).2.mesh_paths =
            (if alloc = true ∧ ret = none ∧ dst ∉ info.mesh_paths then
              info.mesh_paths.insert dst (rtw_mesh_path_new now dst)
            else info.mesh_paths)) := by
  unfold rtw_mesh_path_add ATOMIC_INC_UNLESS
  by_cases own : dst = info.adapter_mac_addr
  · rw [if_pos own]
    exact Or.inl ⟨Or.inl own, rfl⟩
  rw [if_neg own]
  cases group : is_multicast_mac_addr dst with
  | true => exact Or.inl ⟨Or.inr rfl, rfl⟩
  | false =>
      refine Or.inr ⟨⟨own, rfl⟩, ?_⟩
      rw [if_neg (by decide)]
      by_cases full : info.mpaths = RTW_MESH_MAX_MPATHS
      · rw [if_pos full]
        exact Or.inl ⟨full, rfl⟩
      · rw [if_neg full]
        refine Or.inr ⟨full, ?_⟩
        cases alloc with
        | false => simp
        | true =>
            cases ret with
            | some ret => simp
            | none =>
                by_cases present : dst ∈ info.mesh_paths
                · rcases Option.isSome_iff_exists.mp (AList.lookup_isSome.mpr present) with
                    ⟨mpath, found⟩
                  simp [found, present]
                · have missing := AList.lookup_eq_none.mpr present
                  simp [missing, present]

theorem quotaHolds_iff : QuotaHolds info <-> MpathsCounted info := by
  constructor
  · intro holds
    have limit := holds.limit.2
    rw [holds.mpaths] at limit
    exact ⟨holds.mpaths, by omega⟩
  · intro counted
    refine ⟨counted.mpaths, ?_, fun now alloc ret dst => ?_⟩
    · have limit := counted.limit
      rw [counted.mpaths]
      omega
    · have same : info.mpaths = RTW_MESH_MAX_MPATHS <->
          info.mesh_paths.count = RTW_MESH_MAX_MPATHS := by
        rw [counted.mpaths]
        omega
      rcases rtw_mesh_path_add_cases info now alloc ret dst with
        ⟨own | group, outcome⟩ | ⟨⟨foreign, single⟩, ⟨full, outcome⟩ | ⟨space, accepted, _⟩⟩
      · rw [outcome]
        exact iff_of_false (by simp) (fun refused => refused.1 own)
      · rw [outcome]
        exact iff_of_false (by simp) (fun refused => by rw [refused.2.1] at group; cases group)
      · rw [outcome]
        exact iff_of_true rfl ⟨foreign, single, same.mp full⟩
      · exact iff_of_false accepted (fun refused => space (same.mpr refused.2.2))

theorem mpathsCounted_of_deleted (counted : MpathsCounted info) {after : MeshInfo} {n k : Nat}
    (mpaths : after.mpaths = info.mpaths - n - k) (count : after.mesh_paths.count + n = info.mesh_paths.count) :
    MpathsCounted after <-> k = 0 := by
  have before := counted.mpaths
  have limit := counted.limit
  constructor
  · intro holds
    have same := holds.mpaths
    omega
  · intro none
    exact ⟨by omega, by omega⟩

theorem add_counted_iff (counted : MpathsCounted info) (now : Systime) (alloc : Bool)
    (ret : Option Nat) (dst : MacAddr) :
    MpathsCounted (rtw_mesh_path_add info now alloc ret dst).2 <->
      dst = info.adapter_mac_addr ∨ is_multicast_mac_addr dst = true ∨
        info.mesh_paths.count = RTW_MESH_MAX_MPATHS ∨
        alloc = true ∧ ret = none ∧ dst ∉ info.mesh_paths := by
  have before := counted.mpaths
  have limit := counted.limit
  rcases rtw_mesh_path_add_cases info now alloc ret dst with
    ⟨own | group, outcome⟩ | ⟨⟨foreign, single⟩, ⟨full, outcome⟩ | ⟨space, _, mpaths, mesh_paths⟩⟩
  · rw [outcome]
    exact iff_of_true counted (Or.inl own)
  · rw [outcome]
    exact iff_of_true counted (Or.inr (Or.inl group))
  · rw [outcome]
    exact iff_of_true counted (Or.inr (Or.inr (Or.inl (by omega))))
  · by_cases added : alloc = true ∧ ret = none ∧ dst ∉ info.mesh_paths
    · rw [if_pos added] at mesh_paths
      have larger := MeshTable.count_insert (rtw_mesh_path_new now dst) added.2.2
      refine iff_of_true ⟨?_, ?_⟩ (Or.inr (Or.inr (Or.inr added)))
      · rw [mpaths, mesh_paths, larger, before]
        rfl
      · rw [mesh_paths, larger]
        omega
    · rw [if_neg added] at mesh_paths
      refine iff_of_false (fun holds => ?_) ?_
      · have same := holds.mpaths
        rw [mpaths, mesh_paths] at same
        omega
      · rintro (own | group | full | added')
        · exact foreign own
        · rw [single] at group
          cases group
        · exact space (by omega)
        · exact added added'

theorem del_counted_iff (counted : MpathsCounted info) (addr : MacAddr) :
    MpathsCounted (rtw_mesh_path_del info addr) <->
      ∀ mpath ∈ info.mpp_paths.entries, mpath.2.mpp ≠ addr := by
  have walked := walk_path_del_counts (fun mpath => mpath.mpp = addr) info.mpaths info.mpp_paths
  have none : info.mpp_paths.entries.countP (fun mpath => decide (mpath.2.mpp = addr)) = 0 <->
      ∀ mpath ∈ info.mpp_paths.entries, mpath.2.mpp ≠ addr := by
    rw [List.countP_eq_zero]
    simp only [decide_eq_true_eq, ne_eq]
  rw [← none]
  unfold rtw_mesh_path_del rtw_table_path_del rtw_mpp_flush_by_proxy
  dsimp only
  by_cases present : addr ∈ info.mesh_paths
  · rcases Option.isSome_iff_exists.mp (AList.lookup_isSome.mpr present) with ⟨mpath, found⟩
    have removed := MeshTable.count_erase present
    rw [found]
    refine mpathsCounted_of_deleted (n := 1) counted ?_ ?_
    · dsimp only [__rtw_mesh_path_del]
      omega
    · exact removed
  · rw [AList.lookup_eq_none.mpr present]
    refine mpathsCounted_of_deleted (n := 0) counted ?_ ?_
    · dsimp only
      omega
    · rfl

theorem walked_counted_iff (counted : MpathsCounted info) (doomed : MeshPath -> Bool) :
    MpathsCounted { info with
      mpaths := (walk_path_del doomed (walk_path_del doomed info.mpaths info.mesh_paths).1
        info.mpp_paths).1
      mesh_paths := (walk_path_del doomed info.mpaths info.mesh_paths).2
      mpp_paths := (walk_path_del doomed (walk_path_del doomed info.mpaths info.mesh_paths).1
        info.mpp_paths).2 } <->
      ∀ mpath ∈ info.mpp_paths.entries, doomed mpath.2 = false := by
  have walked := walk_path_del_counts doomed info.mpaths info.mesh_paths
  have mpp_walked := walk_path_del_counts doomed
    (walk_path_del doomed info.mpaths info.mesh_paths).1 info.mpp_paths
  have none : info.mpp_paths.entries.countP (fun mpath => doomed mpath.2) = 0 <->
      ∀ mpath ∈ info.mpp_paths.entries, doomed mpath.2 = false := by
    rw [List.countP_eq_zero]
    simp only [Bool.not_eq_true]
  rw [← none]
  refine mpathsCounted_of_deleted counted ?_ walked.2
  rw [mpp_walked.1, walked.1]

theorem step_counted_iff (hz : Systime) (info : MeshInfo) (event : PathEvent) (counted : MpathsCounted info) :
    MpathsCounted (info.step hz event) <-> CountsAsItShould hz info event := by
  cases event with
  | rtw_mesh_path_add now alloc ret dst => exact add_counted_iff counted now alloc ret dst
  | rtw_mpp_path_add now alloc ret dst mpp =>
      refine iff_of_true ?_ trivial
      unfold MeshInfo.step rtw_mpp_path_add
      dsimp only
      split_ifs <;> exact ⟨counted.mpaths, counted.limit⟩
  | rtw_mesh_path_del addr => exact del_counted_iff counted addr
  | rtw_mesh_path_expire now => exact walked_counted_iff counted (mesh_path_outdated hz now)
  | rtw_mesh_path_flush_by_nexthop sta =>
      have walked := walk_path_del_counts (fun mpath => mpath.next_hop = some sta) info.mpaths
        info.mesh_paths
      refine iff_of_true ?_ trivial
      refine (mpathsCounted_of_deleted counted ?_ walked.2).mpr rfl
      exact walked.1.trans (Int.sub_zero _).symm
  | rtw_mesh_path_flush_by_iface =>
      refine (walked_counted_iff counted (fun _ => true)).trans ?_
      unfold CountsAsItShould
      constructor
      · intro none
        exact List.eq_nil_iff_forall_not_mem.mpr (fun mpath member => nomatch none mpath member)
      · intro none mpath member
        rw [none] at member
        cases member
  | written dst mpath mpp =>
      have kept : MeshTable.count (info.mesh_paths.replace dst mpath) = info.mesh_paths.count :=
        congrArg List.length (@AList.keys_replace _ _ _ dst mpath info.mesh_paths)
      exact iff_of_true ⟨counted.mpaths.trans (congrArg Nat.cast kept.symm),
        Nat.le_trans (Nat.le_of_eq kept) counted.limit⟩ trivial

theorem MeshInfo.initial_counted (adapter_mac_addr : MacAddr) : MpathsCounted (.initial adapter_mac_addr) where
  mpaths := rfl
  limit := Nat.zero_le _

/-- From empty tables on, the quota holds in every state of a run exactly when
every step counts as it should. -/
theorem mesh_path_run_quota_iff (hz : Systime) (adapter_mac_addr : MacAddr) (events : List PathEvent) :
    (∀ done, done <+: events ->
        QuotaHolds (Run.execute (MeshInfo.step hz) (.initial adapter_mac_addr) done)) <->
      Run.Guarded (MeshInfo.step hz) (CountsAsItShould hz) (.initial adapter_mac_addr) events := by
  have exact := Run.guarded_iff_invariant (step_counted_iff hz)
    (MeshInfo.initial_counted adapter_mac_addr) events
  rw [← exact]
  exact forall_congr' (fun done => imp_congr Iff.rfl quotaHolds_iff)

/-- Adding a path twice counts it twice. -/
theorem mesh_path_added_twice :
    ¬ (∀ done, done <+: [PathEvent.rtw_mesh_path_add 0 true none .zero,
          .rtw_mesh_path_add 1 true none .zero] ->
        QuotaHolds (Run.execute (MeshInfo.step 1000) (.initial mesh_bcast_addr) done)) := by
  intro all
  have holds := (all _ (List.prefix_refl _)).mpaths
  revert holds
  decide

end Rtl8821ce
