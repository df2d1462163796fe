import Rtl8821ce.Library.Custody
import Rtl8821ce.Recv.Pool

/-!
# Counting the frames of the pool

The invariant counts, for every frame, how often it is in the free queue, held
by the interrupt handler, or in a queue of a station.  Inside a function the
frames it has in its hands are counted too: each function takes some frames
into its hands and hands some on, and the sum stays one.
-/

namespace Rtl8821ce

variable {adapter : RecvAdapter} {hand : List Nat}

def queued (queue : List RecvFrame) (frame : Nat) : Nat :=
  (queue.map RecvFrame.index).count frame

@[simp] theorem queued_nil (frame : Nat) : queued [] frame = 0 := rfl

@[simp] theorem queued_cons (first : RecvFrame) (rest : List RecvFrame) (frame : Nat) :
    queued (first :: rest) frame = queued rest frame + if first.index = frame then 1 else 0 := by
  simp only [queued, List.map_cons, List.count_cons, beq_iff_eq]

@[simp] theorem queued_append (first second : List RecvFrame) (frame : Nat) :
    queued (first ++ second) frame = queued first frame + queued second frame := by
  simp only [queued, List.map_append, List.count_append]

theorem queued_pos {queue : List RecvFrame} {prframe : RecvFrame} (member : prframe ∈ queue) :
    0 < queued queue prframe.index :=
  List.count_pos_iff.mpr (List.mem_map_of_mem member)

def StaInfo.holds (psta : StaInfo) (frame : Nat) : Nat :=
  queued psta.defrag_q frame +
    ∑ tid, queued (psta.recvreorder_ctrl tid).pending_recvframe_queue frame

def RecvAdapter.places (adapter : RecvAdapter) (frame : Nat) : Nat :=
  adapter.free_recv_queue.count frame + adapter.held.count frame +
    ∑ psta, (adapter.stapriv.pstainfo_buf psta).holds frame

/-- The frames in `hand` are in the hands of the running function; all others
are where they belong. -/
structure Owned (adapter : RecvAdapter) (hand : List Nat) : Prop where
  once : ∀ frame,
    adapter.places frame + hand.count frame = if frame < NR_RECVFRAME then 1 else 0
  free_recvframe_cnt : adapter.free_recvframe_cnt = adapter.free_recv_queue.length
  never_freed_twice : adapter.freed_twice = false
  reachable : ∀ psta, psta ∉ adapter.stapriv.sta_hash ->
    ∀ frame, (adapter.stapriv.pstainfo_buf psta).holds frame = 0
  records : (adapter.stapriv.sta_hash ++ adapter.stapriv.free_sta_queue).Nodup
  -- a queued fragment points to a session of the station in whose queue it is
  sessions : ∀ psta prframe, prframe ∈ (adapter.stapriv.pstainfo_buf psta).defrag_q ->
    ∀ session, prframe.preorder_ctrl = some session -> session.1 = psta

theorem count_without (numbers : List Nat) (removed number : Nat) :
    (numbers.filter (fun other => other != removed)).count number =
      if number = removed then 0 else numbers.count number := by
  split
  case isTrue same =>
      rw [List.count_eq_zero, same]
      intro member
      have kept := (List.mem_filter.mp member).2
      rw [bne_self_eq_false] at kept
      cases kept
  case isFalse different =>
      exact List.count_filter (p := fun other => other != removed) (bne_iff_ne.mpr different)

theorem queued_delete (precvframe frame : Nat) (queue : List RecvFrame) :
    queued (queue_delete precvframe queue) frame =
      if frame = precvframe then 0 else queued queue frame := by
  have commute : (queue_delete precvframe queue).map RecvFrame.index =
      (queue.map RecvFrame.index).filter (fun index => index != precvframe) := by
    rw [List.filter_map]
    rfl
  rw [queued, commute, count_without]
  rfl

theorem holds_delete (psta : StaInfo) (precvframe frame : Nat) :
    (psta.rtw_list_delete precvframe).holds frame =
      if frame = precvframe then 0 else psta.holds frame := by
  simp only [StaInfo.holds, StaInfo.rtw_list_delete, queued_delete, Custody.sum_without]
  split <;> rfl

theorem places_free (adapter : RecvAdapter) (precvframe frame : Nat) :
    (rtw_free_recvframe adapter precvframe).places frame =
      if frame = precvframe then 1 + adapter.held.count frame else adapter.places frame := by
  simp only [RecvAdapter.places, rtw_free_recvframe, holds_delete, Custody.sum_without,
    List.count_append, count_without]
  split
  case isTrue same =>
      rw [same, List.count_singleton_self]
      omega
  case isFalse different =>
      rw [List.count_singleton, if_neg (fun same => different (beq_iff_eq.mp same).symm), Nat.add_zero]

theorem Owned.release {before : List Nat} {precvframe : Nat}
    (owned : Owned adapter before) (small : precvframe < NR_RECVFRAME)
    (notFree : adapter.free_recv_queue.count precvframe = 0)
    (notHeld : adapter.held.count precvframe = 0) (notInHand : hand.count precvframe = 0)
    (others : ∀ frame, frame ≠ precvframe -> before.count frame = hand.count frame) :
    Owned (rtw_free_recvframe adapter precvframe) hand := by
  have absent : precvframe ∉ adapter.free_recv_queue := List.count_eq_zero.mp notFree
  have kept : adapter.free_recv_queue.filter (fun frame => frame != precvframe) =
      adapter.free_recv_queue := by
    rw [List.filter_eq_self]
    intro frame member
    rw [bne_iff_ne]
    rintro rfl
    exact absent member
  refine ⟨fun frame => ?_, ?_, ?_, fun psta unlisted frame => ?_, owned.records, ?_⟩
  · have once := owned.once frame
    rw [places_free]
    split
    case isTrue same =>
        rw [same, notHeld, notInHand, if_pos small]
    case isFalse different =>
        rw [← others frame different]
        exact once
  · simp only [rtw_free_recvframe, kept, List.length_append, owned.free_recvframe_cnt]
    rfl
  · simp only [rtw_free_recvframe, owned.never_freed_twice, Bool.false_or]
    rw [List.contains_eq_mem, decide_eq_false_iff_not]
    exact absent
  · have empty := owned.reachable psta unlisted frame
    have deleted := holds_delete (adapter.stapriv.pstainfo_buf psta) precvframe frame
    rw [empty, ite_self] at deleted
    exact deleted
  · intro psta prframe member
    exact owned.sessions psta prframe (List.mem_of_mem_filter member)

theorem Owned.free {precvframe : Nat} (owned : Owned adapter (precvframe :: hand)) :
    Owned (rtw_free_recvframe adapter precvframe) hand := by
  have once := owned.once precvframe
  rw [List.count_cons_self] at once
  have small : precvframe < NR_RECVFRAME := by
    by_contra large
    rw [if_neg large] at once
    omega
  rw [if_pos small] at once
  have placed : adapter.places precvframe = 0 := by omega
  simp only [RecvAdapter.places] at placed
  refine owned.release small (by omega) (by omega) (by omega) (fun frame different => ?_)
  rw [List.count_cons_of_ne (Ne.symm different)]

theorem Owned.free_queue {frames : List RecvFrame} (owned : Owned adapter (frames.map RecvFrame.index ++ hand)) :
    Owned (rtw_free_recvframe_queue adapter frames) hand := by
  induction frames generalizing adapter with
  | nil => exact owned
  | cons first rest ih => exact ih owned.free

theorem Owned.modify {adapter : RecvAdapter} {before hand : List Nat}
    (owned : Owned adapter before) (psta : Fin NUM_STA) (change : StaInfo -> StaInfo) (balance : ∀ frame,
      (change (adapter.stapriv.pstainfo_buf psta)).holds frame + hand.count frame =
        (adapter.stapriv.pstainfo_buf psta).holds frame + before.count frame)
    (reachable : psta ∉ adapter.stapriv.sta_hash -> ∀ frame,
      (change (adapter.stapriv.pstainfo_buf psta)).holds frame = 0)
    (sessions : ∀ prframe ∈ (change (adapter.stapriv.pstainfo_buf psta)).defrag_q,
        ∀ session, prframe.preorder_ctrl = some session -> session.1 = psta) :
    Owned { adapter with stapriv := adapter.stapriv.modify psta change } hand := by
  refine ⟨fun frame => ?_, owned.free_recvframe_cnt, owned.never_freed_twice, ?_, owned.records, ?_⟩
  · have once := owned.once frame
    have exchanged := Custody.sum_update adapter.stapriv.pstainfo_buf
      (fun record => record.holds frame) psta (change (adapter.stapriv.pstainfo_buf psta))
    have balanced := balance frame
    simp only [RecvAdapter.places, StaPriv.modify] at once ⊢
    omega
  · intro other unlisted frame
    by_cases same : other = psta
    · rw [same] at unlisted ⊢
      rw [StaPriv.modify_same]
      exact reachable unlisted frame
    · rw [StaPriv.modify_of_ne _ same]
      exact owned.reachable other unlisted frame
  · intro other prframe member
    by_cases same : other = psta
    · rw [same] at member ⊢
      rw [StaPriv.modify_same] at member
      exact sessions prframe member
    · rw [StaPriv.modify_of_ne _ same] at member
      exact owned.sessions other prframe member

theorem holds_set_defrag_q (psta : StaInfo) (queue : List RecvFrame) (frame : Nat) :
    (psta.set_defrag_q queue).holds frame + queued psta.defrag_q frame =
      psta.holds frame + queued queue frame := by
  simp only [StaInfo.holds, StaInfo.set_defrag_q]
  omega

theorem holds_set_reorder_ctrl (psta : StaInfo) (tid : Fin 16) (preorder_ctrl : RecvReorderCtrl) (frame : Nat) :
    (psta.set_reorder_ctrl tid preorder_ctrl).holds frame +
        queued (psta.recvreorder_ctrl tid).pending_recvframe_queue frame =
      psta.holds frame + queued preorder_ctrl.pending_recvframe_queue frame := by
  have exchanged := Custody.sum_update psta.recvreorder_ctrl
    (fun ctrl => queued ctrl.pending_recvframe_queue frame) tid preorder_ctrl
  simp only [StaInfo.holds, StaInfo.set_reorder_ctrl]
  omega

/-- Writing a session exchanges frames between its queue and the hand. -/
theorem Owned.set_reorder_ctrl {before : List Nat} (owned : Owned adapter before) (session : Fin NUM_STA × Fin 16)
    (preorder_ctrl : RecvReorderCtrl) (balance : ∀ frame,
      queued preorder_ctrl.pending_recvframe_queue frame + hand.count frame =
        queued (adapter.reorder_ctrl session).pending_recvframe_queue frame + before.count frame)
    (listed : session.1 ∈ adapter.stapriv.sta_hash ∨
      queued preorder_ctrl.pending_recvframe_queue =
        queued (adapter.reorder_ctrl session).pending_recvframe_queue) :
    Owned (adapter.set_reorder_ctrl session preorder_ctrl) hand := by
  have exchanged := holds_set_reorder_ctrl (adapter.stapriv.pstainfo_buf session.1) session.2
    preorder_ctrl
  refine owned.modify session.1 _ (fun frame => ?_) (fun unlisted frame => ?_)
    (owned.sessions session.1)
  · have balanced := balance frame
    have swapped := exchanged frame
    simp only [RecvAdapter.reorder_ctrl] at balanced
    omega
  · have swapped := exchanged frame
    have empty := owned.reachable session.1 unlisted frame
    have same := congrFun (listed.resolve_left unlisted) frame
    simp only [RecvAdapter.reorder_ctrl] at same
    omega

end Rtl8821ce
