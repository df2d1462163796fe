import Mathlib.Data.List.Infix
import Rtl8821ce.Library.RecentCache
import Rtl8821ce.Library.Run
import Rtl8821ce.Mesh.Pathtbl

/-!
# The mesh received cache

A mesh interface remembers the source address and the sequence number of the multicast frames of
the last seconds, in 256 short lists, and drops a frame that it remembers.
-/

namespace Rtl8821ce
namespace Mrc

variable {minfo : MeshInfo}

def RTW_MRC_BUCKETS : Nat := 256
def RTW_MRC_QUEUE_MAX_LEN : Nat := 4
def RTW_MRC_TIMEOUT_MS : BitVec 32 := 3 * 1000

/-- `struct rtw_mrc_entry`. -/
structure RtwMrcEntry where
  exp_time : Systime
  seqnum : BitVec 32
  msa : MacAddr
deriving DecidableEq

/-- `struct rtw_mrc`; the head of a bucket is the entry that was added last. -/
structure RtwMrc where
  bucket : BitVec 8 -> List RtwMrcEntry
  idx_mask : BitVec 32

/-- The counters of `struct rtw_mesh_stats`. -/
structure RtwMeshStats where
  fwded_mcast : BitVec 32
  fwded_unicast : BitVec 32
  fwded_frames : BitVec 32
  dropped_frames_ttl : BitVec 32
  dropped_frames_no_route : BitVec 32
  dropped_frames_duplicate : BitVec 32
  mrc_del_qlen : BitVec 32

structure MeshInfo where
  mrc : Option RtwMrc
  mshstats : RtwMeshStats

/-- `rtw_mrc_init` when there is memory for the cache. -/
def rtw_mrc_init (mshstats : RtwMeshStats) : MeshInfo where
  mrc := some ⟨fun _ => [], BitVec.ofNat 32 (RTW_MRC_BUCKETS - 1)⟩
  mshstats := mshstats

/-- The loop over a bucket: whether the frame is found, how many entries were deleted for the
length of the bucket, and what is left. -/
def rtw_mrc_check_loop (now : Systime) (msa : MacAddr) (seq : BitVec 32) :
    Nat -> BitVec 32 -> List RtwMrcEntry -> Bool × BitVec 32 × List RtwMrcEntry
  | _, mrc_del_qlen, [] => (false, mrc_del_qlen, [])
  | entries, mrc_del_qlen, p :: n =>
      let timeout := rtw_time_after now p.exp_time
      if timeout ∨ entries + 1 = RTW_MRC_QUEUE_MAX_LEN then
        -- the entry is deleted, and does not count
        rtw_mrc_check_loop now msa seq entries
          (if timeout then mrc_del_qlen else mrc_del_qlen + 1) n
      else if seq = p.seqnum ∧ msa = p.msa then (true, mrc_del_qlen, p :: n)
      else
        let later := rtw_mrc_check_loop now msa seq (entries + 1) mrc_del_qlen n
        (later.1, later.2.1, p :: later.2.2)

def mrc_idx (mrc : RtwMrc) (seq : BitVec 32) : BitVec 8 := (seq &&& mrc.idx_mask).truncate 8

/-- One frame that is looked for at the time `now`; `alloc` is whether there is memory for an
entry. -/
structure MrcCall where
  msa : MacAddr
  seq : BitVec 32
  now : Systime
  alloc : Bool

def rtw_mrc_check (rtw_ms_to_systime : BitVec 32 -> Systime) (minfo : MeshInfo) (call : MrcCall) : Int × MeshInfo :=
  match minfo.mrc with
  | none => (-1, minfo)
  | some mrc =>
      let idx := mrc_idx mrc call.seq
      let looked := rtw_mrc_check_loop call.now call.msa call.seq 0 minfo.mshstats.mrc_del_qlen
        (mrc.bucket idx)
      let mshstats := { minfo.mshstats with mrc_del_qlen := looked.2.1 }
      let leave := fun bucket => MeshInfo.mk
        (some { mrc with bucket := Function.update mrc.bucket idx bucket }) mshstats
      if looked.1 then (-1, leave looked.2.2)
      else if call.alloc = false then (0, leave looked.2.2)
      else (0, leave (⟨call.now + rtw_ms_to_systime RTW_MRC_TIMEOUT_MS, call.seq, call.msa⟩ ::
        looked.2.2))

def rtw_mesh_decache (rtw_ms_to_systime : BitVec 32 -> Systime) (minfo : MeshInfo)
    (call : MrcCall) : Int × MeshInfo :=
  rtw_mrc_check rtw_ms_to_systime minfo call

def RTW_RX_MSDU_ACT_NONE : Nat := 0
def RTW_RX_MSDU_ACT_INDICATE : Nat := 1
def RTW_RX_MSDU_ACT_FORWARD : Nat := 2

/-- The interface and what the functions that `rtw_mesh_rx_msdu_act_check` calls answer:
`nexthop` is whether `rtw_mesh_rx_nexthop_resolve` finds one, `bmc_need` whether a frame to a
group is also sent as such, and `xframe` whether there is an `xmit_frame`. -/
structure Forwarding where
  adapter_mac_addr : MacAddr
  dot11MeshForwarding : Bool
  asoc_list_cnt : Nat
  nexthop : Bool
  bmc_need : Bool
  xframe : Bool

/-- The end of `rtw_mesh_rx_msdu_act_check`, from `fwd_chk` on.  What is written into the frame
that is forwarded is left out. -/
def fwd_chk (fwd : Forwarding) (minfo : MeshInfo) (is_mda_bmc : Bool) (ttl : BitVec 8) (act : Nat) : Nat × MeshInfo :=
  if fwd.asoc_list_cnt ≤ 1 then (act, minfo)
  else if ttl = 1 then
    (act, { minfo with mshstats := { minfo.mshstats with
      dropped_frames_ttl := minfo.mshstats.dropped_frames_ttl + 1 } })
  else if (is_mda_bmc = false ∨ fwd.bmc_need) ∧ fwd.xframe = false then (act, minfo)
  else
    let stats := minfo.mshstats
    let stats := if is_mda_bmc then { stats with fwded_mcast := stats.fwded_mcast + 1 }
      else { stats with fwded_unicast := stats.fwded_unicast + 1 }
    (act ||| RTW_RX_MSDU_ACT_FORWARD,
      { minfo with mshstats := { stats with fwded_frames := stats.fwded_frames + 1 } })

/-- What to do with an MSDU from the mesh.  The update of the proxy table that the source makes
first is left out. -/
def rtw_mesh_rx_msdu_act_check (rtw_ms_to_systime : BitVec 32 -> Systime) (fwd : Forwarding)
    (minfo : MeshInfo) (mda : MacAddr) (ttl : BitVec 8) (call : MrcCall) : Nat × MeshInfo :=
  let is_mda_bmc := IS_MCAST mda
  let is_mda_self := !is_mda_bmc && decide (mda = fwd.adapter_mac_addr)
  if call.msa = fwd.adapter_mac_addr then (RTW_RX_MSDU_ACT_NONE, minfo)
  else
    -- only frames to groups are remembered
    let decached :=
      if is_mda_bmc then rtw_mesh_decache rtw_ms_to_systime minfo call else (0, minfo)
    let minfo := decached.2
    if decached.1 ≠ 0 then
      (RTW_RX_MSDU_ACT_NONE, { minfo with mshstats := { minfo.mshstats with
        dropped_frames_duplicate := minfo.mshstats.dropped_frames_duplicate + 1 } })
    else if is_mda_bmc then
      if fwd.dot11MeshForwarding then fwd_chk fwd minfo is_mda_bmc ttl RTW_RX_MSDU_ACT_INDICATE
      else (RTW_RX_MSDU_ACT_INDICATE, minfo)
    else if is_mda_self then (RTW_RX_MSDU_ACT_INDICATE, minfo)
    else if fwd.dot11MeshForwarding = false then (RTW_RX_MSDU_ACT_NONE, minfo)
    else if fwd.nexthop then fwd_chk fwd minfo is_mda_bmc ttl RTW_RX_MSDU_ACT_NONE
    else (RTW_RX_MSDU_ACT_NONE, { minfo with mshstats := { minfo.mshstats with
      dropped_frames_no_route := minfo.mshstats.dropped_frames_no_route + 1 } })

/-! ## What holds -/

def stale (call : MrcCall) (p : RtwMrcEntry) : Bool := rtw_time_after call.now p.exp_time

def same (call : MrcCall) (p : RtwMrcEntry) : Bool :=
  decide (call.seq = p.seqnum ∧ call.msa = p.msa)

def RtwMrcEntry.key (p : RtwMrcEntry) : BitVec 32 × MacAddr := (p.seqnum, p.msa)

def MeshInfo.bucket (minfo : MeshInfo) (call : MrcCall) : List RtwMrcEntry :=
  minfo.mrc.elim [] (fun mrc => mrc.bucket (mrc_idx mrc call.seq))

/-- The bucket holds an entry of the frame that is not expired. -/
def Remembered (minfo : MeshInfo) (call : MrcCall) : Prop :=
  ∃ p, p ∈ minfo.bucket call ∧ stale call p = false ∧ same call p = true

/-- The buckets are short, and no frame is there twice. -/
def CacheKept (minfo : MeshInfo) : Prop :=
  ∃ mrc, minfo.mrc = some mrc ∧ ∀ idx,
    (mrc.bucket idx).length ≤ RTW_MRC_QUEUE_MAX_LEN ∧
      ((mrc.bucket idx).map RtwMrcEntry.key).Nodup

/-- The answer says whether the frame is remembered, and a remembered frame to a group is neither
indicated nor forwarded. -/
structure Answered (rtw_ms_to_systime : BitVec 32 -> Systime) (minfo : MeshInfo)
    (call : MrcCall) : Prop where
  nonzero_iff : (rtw_mrc_check rtw_ms_to_systime minfo call).1 ≠ 0 <-> Remembered minfo call
  once : ∀ (fwd : Forwarding) (mda : MacAddr) (ttl : BitVec 8), IS_MCAST mda = true ->
    Remembered minfo call ->
      (rtw_mesh_rx_msdu_act_check rtw_ms_to_systime fwd minfo mda ttl call).1 =
        RTW_RX_MSDU_ACT_NONE

/-- The bucket is full of entries that are not expired, and the oldest is the one of the frame. -/
def OldestOfFullBucket (minfo : MeshInfo) (call : MrcCall) : Prop :=
  RecentCache.LastOfFull RTW_MRC_QUEUE_MAX_LEN (stale call) (same call) (minfo.bucket call)

def mrc_step (rtw_ms_to_systime : BitVec 32 -> Systime) (minfo : MeshInfo) (call : MrcCall) : MeshInfo :=
  (rtw_mrc_check rtw_ms_to_systime minfo call).2

theorem same_iff (call : MrcCall) (p : RtwMrcEntry) : same call p = true <-> p.key = (call.seq, call.msa) := by
  rw [same, decide_eq_true_iff, RtwMrcEntry.key, Prod.mk.injEq]
  exact and_congr eq_comm eq_comm

theorem rtw_mrc_check_loop_eq (call : MrcCall) (bucket : List RtwMrcEntry) (entries : Nat)
    (mrc_del_qlen : BitVec 32) :
    (rtw_mrc_check_loop call.now call.msa call.seq entries mrc_del_qlen bucket).1 =
        (RecentCache.pass RTW_MRC_QUEUE_MAX_LEN (stale call) (same call) entries bucket).1 ∧
      (rtw_mrc_check_loop call.now call.msa call.seq entries mrc_del_qlen bucket).2.2 =
        (RecentCache.pass RTW_MRC_QUEUE_MAX_LEN (stale call) (same call) entries bucket).2 := by
  induction bucket generalizing entries mrc_del_qlen with
  | nil => exact ⟨rfl, rfl⟩
  | cons p n ih =>
      by_cases deleted : stale call p = true ∨ entries + 1 = RTW_MRC_QUEUE_MAX_LEN
      · rw [RecentCache.pass, if_pos deleted]
        simp only [rtw_mrc_check_loop]
        rw [if_pos (show rtw_time_after call.now p.exp_time = true ∨ _ from deleted)]
        exact ih entries _
      rw [RecentCache.pass, if_neg deleted]
      simp only [rtw_mrc_check_loop]
      rw [if_neg (show ¬ (rtw_time_after call.now p.exp_time = true ∨ _) from deleted)]
      by_cases found : call.seq = p.seqnum ∧ call.msa = p.msa
      · have wanted : same call p = true := decide_eq_true found
        rw [if_pos found, if_pos wanted]
        exact ⟨rfl, rfl⟩
      · have different : ¬ same call p = true := fun wanted => found (of_decide_eq_true wanted)
        rcases ih (entries + 1) mrc_del_qlen with ⟨answer, left⟩
        rw [if_neg found, if_neg different]
        exact ⟨answer, congrArg (p :: ·) left⟩

theorem rtw_mrc_check_eq (rtw_ms_to_systime : BitVec 32 -> Systime)
    {mrc : RtwMrc} (there : minfo.mrc = some mrc) (call : MrcCall) :
    ∃ new : Option RtwMrcEntry,
      (∀ p, new = some p -> p.key = (call.seq, call.msa)) ∧
      let checked := RecentCache.check RTW_MRC_QUEUE_MAX_LEN (stale call) (same call) new
        (mrc.bucket (mrc_idx mrc call.seq))
      (rtw_mrc_check rtw_ms_to_systime minfo call).1 = (if checked.1 then -1 else 0) ∧
        (rtw_mrc_check rtw_ms_to_systime minfo call).2.mrc = some { mrc with
          bucket := Function.update mrc.bucket (mrc_idx mrc call.seq) checked.2 } := by
  have loop := rtw_mrc_check_loop_eq call (mrc.bucket (mrc_idx mrc call.seq)) 0
    minfo.mshstats.mrc_del_qlen
  let added : RtwMrcEntry :=
    ⟨call.now + rtw_ms_to_systime RTW_MRC_TIMEOUT_MS, call.seq, call.msa⟩
  refine ⟨if call.alloc = false then none else some added, ?_, ?_⟩
  · intro p new
    split at new
    · exact absurd new nofun
    · rw [<- Option.some.inj new]
      rfl
  simp only [rtw_mrc_check, there, loop.1, loop.2, RecentCache.check]
  by_cases found : (RecentCache.pass RTW_MRC_QUEUE_MAX_LEN (stale call) (same call) 0
      (mrc.bucket (mrc_idx mrc call.seq))).1 = true
  · simp only [if_pos found, and_self]
  · simp only [if_neg found]
    by_cases noMemory : call.alloc = false
    · simp only [if_pos noMemory]
      exact ⟨rfl, rfl⟩
    · simp only [if_neg noMemory]
      exact ⟨rfl, rfl⟩

theorem CacheKept.bucket (kept : CacheKept minfo) (call : MrcCall) :
    (minfo.bucket call).length ≤ RTW_MRC_QUEUE_MAX_LEN ∧
      ((minfo.bucket call).map RtwMrcEntry.key).Nodup := by
  rcases kept with ⟨mrc, there, good⟩
  rw [MeshInfo.bucket, there]
  exact good _

theorem CacheKept.step (rtw_ms_to_systime : BitVec 32 -> Systime) (kept : CacheKept minfo) (call : MrcCall) :
    CacheKept (mrc_step rtw_ms_to_systime minfo call) := by
  rcases kept with ⟨mrc, there, good⟩
  rcases rtw_mrc_check_eq rtw_ms_to_systime there call with ⟨new, newKey, _, after⟩
  refine ⟨_, after, fun idx => ?_⟩
  rcases good (mrc_idx mrc call.seq) with ⟨short, distinct⟩
  by_cases here : idx = mrc_idx mrc call.seq
  · rw [here]
    simp only [Function.update_self]
    exact ⟨RecentCache.check_length_le (by decide) new short,
      RecentCache.check_nodup (by decide) (same_iff call) newKey distinct⟩
  · simp only [Function.update_of_ne here]
    exact good idx

theorem nonzero_iff (rtw_ms_to_systime : BitVec 32 -> Systime) (kept : CacheKept minfo) (call : MrcCall) :
    ((rtw_mrc_check rtw_ms_to_systime minfo call).1 ≠ 0 <-> Remembered minfo call) <->
      ¬ OldestOfFullBucket minfo call := by
  rcases kept.bucket call with ⟨short, distinct⟩
  rcases kept with ⟨mrc, there, _⟩
  rcases rtw_mrc_check_eq rtw_ms_to_systime there call with ⟨new, _, answer, _⟩
  have here : minfo.bucket call = mrc.bucket (mrc_idx mrc call.seq) := by
    rw [MeshInfo.bucket, there]
    rfl
  rw [here] at short distinct
  rw [answer, OldestOfFullBucket, Remembered, here,
    <- RecentCache.check_right_iff (by decide) new (same_iff call) short distinct]
  refine iff_congr ?_ Iff.rfl
  split
  · exact iff_of_true (by decide) ‹_›
  · exact iff_of_false (fun nonzero => nonzero rfl) ‹_›

theorem act_none_of_nonzero (rtw_ms_to_systime : BitVec 32 -> Systime) (fwd : Forwarding)
    (minfo : MeshInfo) {mda : MacAddr} (ttl : BitVec 8) (call : MrcCall) (group : IS_MCAST mda = true)
    (found : (rtw_mrc_check rtw_ms_to_systime minfo call).1 ≠ 0) :
    (rtw_mesh_rx_msdu_act_check rtw_ms_to_systime fwd minfo mda ttl call).1 =
      RTW_RX_MSDU_ACT_NONE := by
  simp only [rtw_mesh_rx_msdu_act_check, group, if_true, rtw_mesh_decache]
  by_cases own : call.msa = fwd.adapter_mac_addr
  · rw [if_pos own]
  · rw [if_neg own, if_pos found]

theorem answered_iff (rtw_ms_to_systime : BitVec 32 -> Systime) (kept : CacheKept minfo) (call : MrcCall) :
    Answered rtw_ms_to_systime minfo call <-> ¬ OldestOfFullBucket minfo call := by
  constructor
  · intro answered
    exact (nonzero_iff rtw_ms_to_systime kept call).mp answered.nonzero_iff
  · intro notOldest
    have right := (nonzero_iff rtw_ms_to_systime kept call).mpr notOldest
    exact ⟨right, fun fwd mda ttl group remembered =>
      act_none_of_nonzero rtw_ms_to_systime fwd minfo ttl call group (right.mpr remembered)⟩

theorem rtw_mrc_init_kept (mshstats : RtwMeshStats) : CacheKept (rtw_mrc_init mshstats) :=
  ⟨_, rfl, fun _ => ⟨Nat.zero_le _, List.nodup_nil⟩⟩

/-- The buckets are short and without repetition after every run, and all answers of a run are
right exactly when no call asks for the oldest frame of a full bucket. -/
theorem received_cache_right_iff (rtw_ms_to_systime : BitVec 32 -> Systime)
    (mshstats : RtwMeshStats) (calls : List MrcCall) :
    CacheKept (Run.execute (mrc_step rtw_ms_to_systime) (rtw_mrc_init mshstats) calls) ∧
      (Run.Guarded (mrc_step rtw_ms_to_systime) (Answered rtw_ms_to_systime)
          (rtw_mrc_init mshstats) calls <->
        Run.Guarded (mrc_step rtw_ms_to_systime)
          (fun minfo call => ¬ OldestOfFullBucket minfo call) (rtw_mrc_init mshstats) calls) := by
  have initial := rtw_mrc_init_kept mshstats
  refine ⟨?_, ?_, ?_⟩
  · have any := Run.guarded_of_forall (mrc_step rtw_ms_to_systime) (fun _ => True)
      (rtw_mrc_init mshstats) calls (fun _ _ => trivial)
    exact any.invariant (fun _ call _ kept => kept.step rtw_ms_to_systime call) initial
  · intro answered
    exact answered.of_invariant (fun _ call _ kept => kept.step rtw_ms_to_systime call)
      (fun _ call right kept => (answered_iff rtw_ms_to_systime kept call).mp right) initial
  · intro notOldest
    exact notOldest.of_invariant (fun _ call _ kept => kept.step rtw_ms_to_systime call)
      (fun _ call right kept => (answered_iff rtw_ms_to_systime kept call).mpr right) initial

def frame_of (seq : BitVec 32) : MrcCall :=
  ⟨.ofLast 1, seq, 0, true⟩

def no_stats : RtwMeshStats := ⟨0, 0, 0, 0, 0, 0, 0⟩

def full_bucket : MeshInfo :=
  Run.execute (mrc_step (fun ms => ms.zeroExtend 64)) (rtw_mrc_init no_stats)
    [frame_of 0, frame_of 256, frame_of 512, frame_of 768]

/-- The first of four frames of one bucket is received again at once, and is indicated. -/
theorem received_cache_forgets :
    Remembered full_bucket (frame_of 0) ∧
      (rtw_mrc_check (fun ms => ms.zeroExtend 64) full_bucket (frame_of 0)).1 = 0 ∧
      (rtw_mesh_rx_msdu_act_check (fun ms => ms.zeroExtend 64)
        ⟨.zero, false, 0, false, false, false⟩ full_bucket mesh_bcast_addr 31 (frame_of 0)).1 =
          RTW_RX_MSDU_ACT_INDICATE ∧
      ¬ Run.Guarded (mrc_step (fun ms => ms.zeroExtend 64))
        (Answered (fun ms => ms.zeroExtend 64)) (rtw_mrc_init no_stats)
        [frame_of 0, frame_of 256, frame_of 512, frame_of 768, frame_of 0] := by
  have remembered : Remembered full_bucket (frame_of 0) :=
    ⟨⟨3000, 0, .ofLast 1⟩, by decide, by decide, by decide⟩
  have answer : (rtw_mrc_check (fun ms => ms.zeroExtend 64) full_bucket (frame_of 0)).1 = 0 := by
    decide
  refine ⟨remembered, answer, by decide, ?_⟩
  rintro ⟨_, _, _, _, last, _⟩
  exact last.nonzero_iff.mpr remembered answer

end Mrc
end Rtl8821ce
