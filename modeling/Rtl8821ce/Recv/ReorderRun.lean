import Rtl8821ce.Library.Run
import Rtl8821ce.Recv.Reorder

/-!
# Whole runs of the reorder engine

A run is any interleaving of frame arrivals and timer expiries on one session.
The state carries a ghost history: every frame that was taken over, with its
unwrapped number, and every frame given to `recv_process_mpdu`.  The unwrapped
number of an accepted frame is the unwrapped `indicate_seq` plus the distance
that the frame lies ahead of it on the circle of 4096 numbers; the unwrapped
`indicate_seq` moves by the distance that `indicate_seq` moves.

Each state of a run is the residue of a state of the abstract window, and the
step lemma carries this across both operations.
-/

namespace Rtl8821ce

open SerialNumber
open ReorderWindow (Log InOrder arrive)

variable {wsize : Nat} {log : Log RecvFrame}

/-- What can happen between two states. -/
inductive ReorderEvent
  | recv_indicatepkt_reorder (prframe : RecvFrame)
  | rtw_reordering_ctrl_timeout_handler (cannot_run : Bool)

/-- A session with its history.  `unwrapped` has no meaning while
`indicate_seq` is `0xFFFF`. -/
structure ReorderRun where
  preorder_ctrl : RecvReorderCtrl
  unwrapped : Nat
  handled : List (Nat × RecvFrame)
  processed : List RecvFrame

def ReorderRun.start (preorder_ctrl : RecvReorderCtrl) : ReorderRun :=
  ⟨preorder_ctrl, 0, [], []⟩

/-- One operation.  The first frame of a session starts the numbers at its own. -/
def ReorderRun.step (run : ReorderRun) : ReorderEvent -> ReorderRun
  | .recv_indicatepkt_reorder prframe =>
      let seq_num := prframe.attrib.seq_num.val
      let outcome := recv_indicatepkt_reorder run.preorder_ctrl prframe
      let fresh := run.preorder_ctrl.indicate_seq = 0xFFFF
      let base := if fresh then seq_num else run.preorder_ctrl.indicate_seq
      let unwrapped := if fresh then seq_num else run.unwrapped
      match outcome.status with
      | ._SUCCESS => { run with preorder_ctrl := outcome.preorder_ctrl }
      | ._FAIL =>
          { run with
            preorder_ctrl := outcome.preorder_ctrl
            unwrapped := unwrapped + distance 4096 base outcome.preorder_ctrl.indicate_seq
            processed := run.processed ++ outcome.processed }
      | .RTW_RX_HANDLED =>
          { preorder_ctrl := outcome.preorder_ctrl
            unwrapped := unwrapped + distance 4096 base outcome.preorder_ctrl.indicate_seq
            handled := run.handled ++ [(unwrapped + distance 4096 base seq_num, prframe)]
            processed := run.processed ++ outcome.processed }
  | .rtw_reordering_ctrl_timeout_handler cannot_run =>
      let outcome := rtw_reordering_ctrl_timeout_handler run.preorder_ctrl cannot_run
      { run with
        preorder_ctrl := outcome.1
        unwrapped :=
          if run.preorder_ctrl.indicate_seq = 0xFFFF then run.unwrapped
          else run.unwrapped +
            distance 4096 run.preorder_ctrl.indicate_seq outcome.1.indicate_seq
        processed := run.processed ++ outcome.2 }

/-- A session together with its history shows an abstract window and its own.
Before the first frame there is nothing to show. -/
structure Tracks (wsize : Nat) (run : ReorderRun) (log : Log RecvFrame) : Prop where
  enable : run.preorder_ctrl.enable = true
  wsize_b : run.preorder_ctrl.wsize_b = wsize
  shows : Shows run.preorder_ctrl log.window
  unwrapped : run.unwrapped = log.window.next
  handled : run.handled = log.accepted
  processed : run.processed = log.delivered.map Prod.snd

/-- A session that has seen no frame. -/
structure Fresh (wsize : Nat) (run : ReorderRun) : Prop where
  enable : run.preorder_ctrl.enable = true
  wsize_b : run.preorder_ctrl.wsize_b = wsize
  indicate_seq : run.preorder_ctrl.indicate_seq = 0xFFFF
  pending : run.preorder_ctrl.pending_recvframe_queue = []
  handled : run.handled = []
  processed : run.processed = []

/-- The invariant of a run: nothing seen yet, or the residues of a window whose
history is in order. -/
def Resequenced (wsize : Nat) (run : ReorderRun) : Prop :=
  Fresh wsize run ∨ ∃ log : Log RecvFrame, Tracks wsize run log ∧ InOrder wsize log

/-! ## The step lemma -/

theorem Tracks.initialised {run : ReorderRun}
    (tracks : Tracks wsize run log) : ¬ run.preorder_ctrl.indicate_seq = 0xFFFF := by
  have residue := tracks.shows.indicate_seq
  omega

theorem unwrapped_moved {run : ReorderRun}
    (tracks : Tracks wsize run log) {next : Nat} (forward : log.window.next ≤ next)
    (near : next < log.window.next + 4096) :
    run.unwrapped + distance 4096 run.preorder_ctrl.indicate_seq (next % 4096) = next := by
  rw [tracks.unwrapped, tracks.shows.indicate_seq, distance_mod forward (by omega)]
  omega

theorem Tracks.step_timeout {run : ReorderRun}
    (tracks : Tracks wsize run log) (order : InOrder wsize log) (byte : wsize ≤ 255) (cannot_run : Bool) :
    Resequenced wsize (run.step (.rtw_reordering_ctrl_timeout_handler cannot_run)) := by
  refine Or.inr ?_
  cases cannot_run with
  | true =>
      refine ⟨log, ?_, order⟩
      simp only [ReorderRun.step, rtw_reordering_ctrl_timeout_handler, if_true, List.append_nil,
        if_neg tracks.initialised, distance_self (show 0 < 4096 by decide), Nat.add_zero]
      exact ⟨tracks.enable, tracks.wsize_b, ⟨tracks.shows.indicate_seq, tracks.shows.pending,
        tracks.shows.tagged⟩, tracks.unwrapped, tracks.handled, tracks.processed⟩
  | false =>
      have cleared : Shows { run.preorder_ctrl with
          bReorderWaiting := false, reordering_ctrl_timer := false } log.window :=
        ⟨tracks.shows.indicate_seq, tracks.shows.pending, tracks.shows.tagged⟩
      have forced := recv_indicatepkts_in_order_forced cleared order byte
      rcases forced with ⟨shows, delivered, enable, constant, forward, bounded⟩
      refine ⟨_, ?_, order.flush⟩
      have moved := unwrapped_moved tracks forward (by omega)
      rw [← shows.indicate_seq] at moved
      simp only [ReorderRun.step, rtw_reordering_ctrl_timeout_handler, Bool.false_eq_true, if_false,
        if_neg tracks.initialised]
      split_ifs <;>
        exact ⟨enable.trans tracks.enable, constant.trans tracks.wsize_b,
          ⟨shows.indicate_seq, shows.pending, shows.tagged⟩, moved, tracks.handled, by
            rw [tracks.processed, delivered, List.map_append]⟩

theorem Tracks.step_frame {run : ReorderRun}
    (tracks : Tracks wsize run log) (order : InOrder wsize log) (positive : 1 ≤ wsize)
    (byte : wsize ≤ 255) (prframe : RecvFrame) :
    Resequenced wsize (run.step (.recv_indicatepkt_reorder prframe)) := by
  refine Or.inr ?_
  have started := tracks.initialised
  have still : run.unwrapped +
      distance 4096 run.preorder_ctrl.indicate_seq run.preorder_ctrl.indicate_seq = run.unwrapped := by
    rw [distance_self (by decide), Nat.add_zero]
  cases qos : prframe.attrib.qos with
  | false =>
      refine ⟨log, ?_, order⟩
      simp only [ReorderRun.step, recv_indicatepkt_reorder, qos, Bool.not_false, Bool.true_or, if_true]
      exact ⟨tracks.enable, tracks.wsize_b, tracks.shows, tracks.unwrapped, tracks.handled, tracks.processed⟩
  | true =>
      by_cases behind : 2048 ≤ distance 4096 run.preorder_ctrl.indicate_seq prframe.attrib.seq_num
      · have refused := check_indicate_seq_behind started behind
        refine ⟨log, ?_, order⟩
        simp only [ReorderRun.step, recv_indicatepkt_reorder, qos, tracks.enable, refused, Bool.not_true,
          Bool.not_false, Bool.or_false, Bool.false_eq_true, if_false, if_true, if_neg started, still,
          List.append_nil]
        exact tracks
      · -- the number of the frame is the one whose residue it shows, counted from the window
        have counted : (log.window.next + distance 4096 run.preorder_ctrl.indicate_seq
            prframe.attrib.seq_num) % 4096 = prframe.attrib.seq_num.val % 4096 := by
          rw [tracks.shows.indicate_seq, distance_mod_base]
          exact add_distance_mod (by decide) _ _
        rw [Nat.mod_eq_of_lt prframe.attrib.seq_num.isLt] at counted
        cases outcome : arrive wsize (log.window.next + distance 4096 run.preorder_ctrl.indicate_seq
            prframe.attrib.seq_num) prframe log.window with
        | none =>
            have refused := recv_indicatepkt_reorder_refused tracks.shows order qos tracks.enable
              tracks.wsize_b positive byte counted.symm (by omega) (by omega) outcome
            refine ⟨log, ?_, order⟩
            simp only [ReorderRun.step, refused, if_neg started, still, List.append_nil]
            exact tracks
        | some result =>
            rcases result with ⟨delivered, window⟩
            rcases recv_indicatepkt_reorder_accepted tracks.shows order qos tracks.enable tracks.wsize_b
                positive byte counted.symm (by omega) (by omega) outcome
              with ⟨status, shows, processed, enable, constant, forward, bounded⟩
            refine ⟨_, ?_, order.arrive positive outcome⟩
            have moved := unwrapped_moved tracks forward bounded
            rw [← shows.indicate_seq] at moved
            simp only [ReorderRun.step, status, if_neg started]
            exact ⟨enable, constant, shows, moved, by rw [tracks.handled, tracks.unwrapped], by
              rw [tracks.processed, processed, List.map_append]⟩

/-- The session whose window starts at a given number. -/
def ReorderRun.startAt (run : ReorderRun) (seq_num : Nat) : ReorderRun :=
  { run with
    preorder_ctrl := { run.preorder_ctrl with indicate_seq := seq_num }
    unwrapped := seq_num }

theorem Fresh.startAt {run : ReorderRun} (fresh : Fresh wsize run) (seq_num : Fin 4096) :
    Tracks wsize (run.startAt seq_num) ⟨⟨seq_num, []⟩, [], []⟩ := by
  refine ⟨fresh.enable, fresh.wsize_b, ⟨?_, fresh.pending, ?_⟩, rfl, fresh.handled, fresh.processed⟩
  · exact (Nat.mod_eq_of_lt seq_num.isLt).symm
  · intro entry member
    cases member

theorem Fresh.step_eq {run : ReorderRun} (fresh : Fresh wsize run)
    (positive : 1 ≤ wsize) (byte : wsize ≤ 255) {prframe : RecvFrame} (qos : prframe.attrib.qos = true) :
    run.step (.recv_indicatepkt_reorder prframe) =
      (run.startAt prframe.attrib.seq_num).step (.recv_indicatepkt_reorder prframe) := by
  have tracks := fresh.startAt prframe.attrib.seq_num
  have checked : check_indicate_seq run.preorder_ctrl prframe.attrib.seq_num =
      check_indicate_seq (run.startAt prframe.attrib.seq_num).preorder_ctrl prframe.attrib.seq_num := by
    have ahead := check_indicate_seq_ahead tracks.shows.indicate_seq (tracks.wsize_b ▸ positive)
      (tracks.wsize_b ▸ byte) (Nat.le_refl _) (by omega)
    rw [Nat.mod_eq_of_lt prframe.attrib.seq_num.isLt] at ahead
    rw [check_indicate_seq_first fresh.indicate_seq, ahead]
    simp only [ReorderWindow.advance, if_true]
    rfl
  have same : recv_indicatepkt_reorder run.preorder_ctrl prframe =
      recv_indicatepkt_reorder (run.startAt prframe.attrib.seq_num).preorder_ctrl prframe := by
    simp only [recv_indicatepkt_reorder, checked, reorder_applies qos fresh.enable,
      reorder_applies qos tracks.enable, Bool.false_eq_true, if_false]
  have taken := recv_indicatepkt_reorder_status qos tracks.enable
  simp only [ReorderRun.step, same, if_pos fresh.indicate_seq, if_neg tracks.initialised]
  cases status : (recv_indicatepkt_reorder (run.startAt prframe.attrib.seq_num).preorder_ctrl
      prframe).status with
  | _SUCCESS => exact absurd status taken
  | _FAIL => rfl
  | RTW_RX_HANDLED => rfl

theorem Fresh.step_frame {run : ReorderRun} (fresh : Fresh wsize run)
    (positive : 1 ≤ wsize) (byte : wsize ≤ 255) (prframe : RecvFrame) :
    Resequenced wsize (run.step (.recv_indicatepkt_reorder prframe)) := by
  cases qos : prframe.attrib.qos with
  | false =>
      refine Or.inl ?_
      simp only [ReorderRun.step, recv_indicatepkt_reorder, qos, Bool.not_false, Bool.true_or, if_true]
      exact ⟨fresh.enable, fresh.wsize_b, fresh.indicate_seq, fresh.pending, fresh.handled, fresh.processed⟩
  | true =>
      rw [fresh.step_eq positive byte qos]
      exact (fresh.startAt _).step_frame (InOrder.empty _ _) positive byte prframe

theorem Fresh.step_timeout {run : ReorderRun} (fresh : Fresh wsize run) (cannot_run : Bool) :
    Resequenced wsize (run.step (.rtw_reordering_ctrl_timeout_handler cannot_run)) := by
  refine Or.inl ?_
  cases cannot_run with
  | true =>
      simp only [ReorderRun.step, rtw_reordering_ctrl_timeout_handler, if_true, List.append_nil]
      exact ⟨fresh.enable, fresh.wsize_b, fresh.indicate_seq, fresh.pending, fresh.handled, fresh.processed⟩
  | false =>
      simp only [ReorderRun.step, rtw_reordering_ctrl_timeout_handler, recv_indicatepkts_in_order,
        fresh.pending, Bool.false_eq_true, if_false, if_true, List.append_nil]
      exact ⟨fresh.enable, fresh.wsize_b, fresh.indicate_seq, rfl, fresh.handled, fresh.processed⟩

theorem Resequenced.step {run : ReorderRun} (resequenced : Resequenced wsize run)
    (positive : 1 ≤ wsize) (byte : wsize ≤ 255) (event : ReorderEvent) : Resequenced wsize (run.step event) := by
  rcases resequenced with fresh | ⟨log, tracks, order⟩
  · cases event with
    | recv_indicatepkt_reorder prframe => exact fresh.step_frame positive byte prframe
    | rtw_reordering_ctrl_timeout_handler cannot_run => exact fresh.step_timeout cannot_run
  · cases event with
    | recv_indicatepkt_reorder prframe => exact tracks.step_frame order positive byte prframe
    | rtw_reordering_ctrl_timeout_handler cannot_run => exact tracks.step_timeout order byte cannot_run

/-- What holds between two operations.  `processedTags` and `pendingTags` give
the frames their unwrapped numbers back. -/
structure InSequence (wsize : Nat) (run : ReorderRun) : Prop where
  ordered : run.preorder_ctrl.pending_recvframe_queue.Pairwise (fun first second =>
    distance 4096 run.preorder_ctrl.indicate_seq first.attrib.seq_num <
      distance 4096 run.preorder_ctrl.indicate_seq second.attrib.seq_num)
  inWindow : ∀ prframe ∈ run.preorder_ctrl.pending_recvframe_queue,
    1 ≤ distance 4096 run.preorder_ctrl.indicate_seq prframe.attrib.seq_num ∧
      distance 4096 run.preorder_ctrl.indicate_seq prframe.attrib.seq_num ≤ wsize - 1
  few : run.preorder_ctrl.pending_recvframe_queue.length < wsize
  distinct : (run.preorder_ctrl.pending_recvframe_queue.map (fun prframe => prframe.attrib.seq_num)).Nodup
  onceInOrder : Exists fun processedTags : List (Nat × RecvFrame) =>
    Exists fun pendingTags : List (Nat × RecvFrame) =>
      processedTags.map Prod.snd = run.processed ∧
      pendingTags.map Prod.snd = run.preorder_ctrl.pending_recvframe_queue ∧
      run.handled.Perm (processedTags ++ pendingTags) ∧
      processedTags.Pairwise (fun first second => first.1 < second.1)

theorem Tracks.distance_pending {run : ReorderRun}
    (tracks : Tracks wsize run log) (order : InOrder wsize log) (byte : wsize ≤ 255)
    {entry : Nat × RecvFrame} (member : entry ∈ log.window.pending) :
    distance 4096 run.preorder_ctrl.indicate_seq entry.2.attrib.seq_num =
      entry.1 - log.window.next := by
  have ahead := order.ahead entry member
  have inside := order.inside entry member
  rw [tracks.shows.indicate_seq, tracks.shows.tagged entry member]
  exact distance_mod (Nat.le_of_lt ahead) (by omega)

theorem Tracks.inSequence {run : ReorderRun}
    (tracks : Tracks wsize run log) (order : InOrder wsize log) (positive : 1 ≤ wsize)
    (byte : wsize ≤ 255) : InSequence wsize run := by
  have increasing : log.window.pending.Pairwise (fun first second =>
      distance 4096 run.preorder_ctrl.indicate_seq first.2.attrib.seq_num <
        distance 4096 run.preorder_ctrl.indicate_seq second.2.attrib.seq_num) := by
    refine order.sorted.imp_of_mem ?_
    intro first second firstMember secondMember earlier
    have ahead := order.ahead first firstMember
    rw [tracks.distance_pending order byte firstMember, tracks.distance_pending order byte secondMember]
    omega
  have ordered : run.preorder_ctrl.pending_recvframe_queue.Pairwise (fun first second =>
      distance 4096 run.preorder_ctrl.indicate_seq first.attrib.seq_num <
        distance 4096 run.preorder_ctrl.indicate_seq second.attrib.seq_num) := by
    rw [tracks.shows.pending, List.pairwise_map]
    exact increasing
  refine ⟨ordered, ?_, ?_, ?_, ?_⟩
  · intro prframe member
    rw [tracks.shows.pending] at member
    rcases List.mem_map.mp member with ⟨entry, found, same⟩
    have ahead := order.ahead entry found
    have inside := order.inside entry found
    rw [← same, tracks.distance_pending order byte found]
    omega
  · rw [tracks.shows.pending, List.length_map]
    exact order.length_lt positive
  · rw [List.Nodup, List.pairwise_map]
    refine ordered.imp ?_
    intro first second earlier same
    rw [same] at earlier
    exact Nat.lt_irrefl _ earlier
  · exact ⟨log.delivered, log.window.pending, tracks.processed.symm, tracks.shows.pending.symm,
      tracks.handled ▸ order.conserved, order.increasing⟩

theorem Fresh.inSequence {run : ReorderRun} (fresh : Fresh wsize run)
    (positive : 1 ≤ wsize) : InSequence wsize run := by
  refine ⟨?_, ?_, ?_, ?_, ⟨[], [], ?_⟩⟩
  · rw [fresh.pending]
    exact List.Pairwise.nil
  · rw [fresh.pending]
    intro prframe member
    cases member
  · rw [fresh.pending]
    exact positive
  · rw [fresh.pending]
    exact List.nodup_nil
  · rw [fresh.handled, fresh.processed, fresh.pending]
    exact ⟨rfl, rfl, List.Perm.refl _, List.Pairwise.nil⟩

/-- Every run of a session with a constant window, from an empty queue and the
out-of-band `indicate_seq`, is in sequence in each state it reaches. -/
theorem reorder_run_inSequence {wsize : Nat} (positive : 1 ≤ wsize) (byte : wsize ≤ 255)
    {preorder_ctrl : RecvReorderCtrl} (enable : preorder_ctrl.enable = true)
    (constant : preorder_ctrl.wsize_b = wsize) (empty : preorder_ctrl.pending_recvframe_queue = [])
    (initial : preorder_ctrl.indicate_seq = 0xFFFF) (events : List ReorderEvent) :
    InSequence wsize (Run.execute ReorderRun.step (.start preorder_ctrl) events) := by
  have guarded := Run.guarded_of_forall ReorderRun.step (fun _ => True) (.start preorder_ctrl) events
    (fun _ _ => trivial)
  have final := @Run.Guarded.invariant _ _ _ _ (Resequenced wsize)
    (fun run event _ resequenced => resequenced.step positive byte event) _ _ guarded
    (Or.inl ⟨enable, constant, initial, empty, rfl, rfl⟩)
  rcases final with fresh | ⟨log, tracks, order⟩
  · exact fresh.inSequence positive
  · exact tracks.inSequence order positive byte

/-- An enabled session as `rtw_alloc_stainfo` leaves it, with a given window size. -/
def RecvReorderCtrl.initial (wsize : Nat) : RecvReorderCtrl where
  enable := true
  indicate_seq := 0xFFFF
  wsize_b := wsize
  pending_recvframe_queue := []
  bReorderWaiting := false
  reordering_ctrl_timer := false

def RecvFrame.ofSeq (index : Nat) (seq_num : Fin 4096) : RecvFrame where
  index := index
  attrib := { RxPktAttrib.zero with qos := true, seq_num := seq_num }
  rx_data := []
  tailroom := 0

/-- A run across the end of the number range, with a gap, a flush and a jump. -/
theorem reorder_run_inSequence_across_wrap :
    InSequence 64 (Run.execute ReorderRun.step (.start (.initial 64))
      [.recv_indicatepkt_reorder (.ofSeq 0 4094), .recv_indicatepkt_reorder (.ofSeq 1 1),
        .recv_indicatepkt_reorder (.ofSeq 2 4095), .rtw_reordering_ctrl_timeout_handler false,
        .recv_indicatepkt_reorder (.ofSeq 3 900)]) :=
  @reorder_run_inSequence 64 (by decide) (by decide) _ rfl rfl rfl rfl _

end Rtl8821ce
