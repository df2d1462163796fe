import Rtl8821ce.Recv.ReorderRun

/-!
# The timer of a reorder session

The receive path works under the lock of the pending queue, but calls
`_cancel_timer_ex` after it has left the lock.  An expiry can therefore be in
flight: its handler has been started and waits for the lock while the receive
path still holds it, or it gets the lock before the timer is cancelled.
`_cancel_timer_ex` waits for such a handler and removes the timer afterwards,
also when the handler has set it again.

The operations of this module are the pieces between which the two paths can
alternate.  The timer is armed while it is set or its handler is still to run.
-/

namespace Rtl8821ce

/-- `recv_indicatepkt_reorder` up to where it leaves the lock.  The flag tells
whether `_cancel_timer_ex` follows. -/
def recv_indicatepkt_reorder_locked (preorder_ctrl : RecvReorderCtrl) (prframe : RecvFrame) : ReorderOutcome × Bool :=
  if !prframe.attrib.qos || !preorder_ctrl.enable then (⟨._SUCCESS, preorder_ctrl, []⟩, false)
  else
    let checked := check_indicate_seq preorder_ctrl prframe.attrib.seq_num
    if !checked.1 then (⟨._FAIL, checked.2, []⟩, false)
    else
      match enqueue_reorder_recvframe prframe checked.2.pending_recvframe_queue with
      | none => (⟨._FAIL, checked.2, []⟩, false)
      | some queue =>
          let indicated :=
            recv_indicatepkts_in_order { checked.2 with pending_recvframe_queue := queue } false
          if indicated.1 then
            (⟨.RTW_RX_HANDLED,
              if !indicated.2.1.bReorderWaiting then
                { indicated.2.1 with bReorderWaiting := true, reordering_ctrl_timer := true }
              else indicated.2.1,
              indicated.2.2⟩, false)
          else
            (⟨.RTW_RX_HANDLED, { indicated.2.1 with bReorderWaiting := false }, indicated.2.2⟩, true)

/-- The handler under the lock.  The receive path may have set the timer again
since it ran out. -/
def rtw_reordering_ctrl_timeout_locked (preorder_ctrl : RecvReorderCtrl) (cannot_run : Bool) : RecvReorderCtrl :=
  if cannot_run then preorder_ctrl
  else
    let indicated :=
      recv_indicatepkts_in_order { preorder_ctrl with bReorderWaiting := false } true
    if indicated.1 then { indicated.2.1 with reordering_ctrl_timer := true } else indicated.2.1

/-! ## Runs of the two paths -/

/-- A session, whether an expiry is in flight, and whether the receive path is
inside `_cancel_timer_ex`. -/
structure TimerRun where
  preorder_ctrl : RecvReorderCtrl
  in_flight : Bool
  cancelling : Bool
deriving DecidableEq

/-- A session between two calls, with no expiry in flight. -/
def TimerRun.start (preorder_ctrl : RecvReorderCtrl) : TimerRun := ⟨preorder_ctrl, false, false⟩

/-- The pieces of the two paths: the locked part of a receive call, the return
of `_cancel_timer_ex`, the timer running out, and the handler. -/
inductive TimerEvent
  | recv_indicatepkt_reorder (prframe : RecvFrame)
  | _cancel_timer_ex
  | expires
  | rtw_reordering_ctrl_timeout_handler (cannot_run : Bool)

/-- One piece.  A piece that cannot come next changes nothing: there is one
receive path, `_cancel_timer_ex` returns only when no handler is left, and a
timer does not run out a second time before its handler has run. -/
def TimerRun.step (run : TimerRun) : TimerEvent -> TimerRun
  | .recv_indicatepkt_reorder prframe =>
      if run.cancelling then run
      else
        let locked := recv_indicatepkt_reorder_locked run.preorder_ctrl prframe
        { run with preorder_ctrl := locked.1.preorder_ctrl, cancelling := locked.2 }
  | ._cancel_timer_ex =>
      if run.cancelling && !run.in_flight then
        { run with
          preorder_ctrl := { run.preorder_ctrl with reordering_ctrl_timer := false }
          cancelling := false }
      else run
  | .expires =>
      if run.preorder_ctrl.reordering_ctrl_timer && !run.in_flight then
        { run with
          preorder_ctrl := { run.preorder_ctrl with reordering_ctrl_timer := false }
          in_flight := true }
      else run
  | .rtw_reordering_ctrl_timeout_handler cannot_run =>
      if run.in_flight then
        { run with
          preorder_ctrl := rtw_reordering_ctrl_timeout_locked run.preorder_ctrl cannot_run
          in_flight := false }
      else run

/-- With this piece a receive call or a handler has come to its end. -/
def TimerRun.completes (run : TimerRun) : TimerEvent -> Bool
  | .recv_indicatepkt_reorder prframe =>
      !run.cancelling && !(recv_indicatepkt_reorder_locked run.preorder_ctrl prframe).2
  | ._cancel_timer_ex => run.cancelling && !run.in_flight
  | .expires => false
  | .rtw_reordering_ctrl_timeout_handler _ => run.in_flight

/-- The timer is set, or has run out and its handler is still to come. -/
def TimerRun.armed (run : TimerRun) : Bool :=
  run.preorder_ctrl.reordering_ctrl_timer || run.in_flight

def TimerRun.ArmedForFrames (run : TimerRun) : Prop :=
  run.armed = true <-> run.preorder_ctrl.pending_recvframe_queue ≠ []

instance (run : TimerRun) : Decidable run.ArmedForFrames :=
  inferInstanceAs (Decidable (_ <-> _))

/-- After each operation that completes, the timer is armed exactly when frames wait. -/
def TimerDisciplined (run : TimerRun) (events : List TimerEvent) : Prop :=
  Run.Guarded TimerRun.step
    (fun before event => before.completes event = true -> (before.step event).ArmedForFrames)
    run events

/-- No number is missing between the frames of the queue, counted from `indicate_seq`. -/
def gapless : Nat -> List RecvFrame -> Bool
  | _, [] => true
  | indicate_seq, prframe :: rest =>
      !SN_LESS indicate_seq prframe.attrib.seq_num &&
        gapless (if SN_EQUAL indicate_seq prframe.attrib.seq_num then (indicate_seq + 1) % 0x1000
          else indicate_seq) rest

/-- The numbers of the frames that wait follow each other without a gap. -/
def RecvReorderCtrl.gapless (preorder_ctrl : RecvReorderCtrl) : Bool :=
  match preorder_ctrl.pending_recvframe_queue with
  | [] => true
  | prframe :: rest => Rtl8821ce.gapless prframe.attrib.seq_num (prframe :: rest)

/-- A handler that can run finds a frame in the queue, and where the receive
path has set the timer again it also finds a gap between the frames.  A handler
that cannot run finds the timer set again exactly when frames wait. -/
def HandlerInTime (run : TimerRun) : TimerEvent -> Prop
  | .rtw_reordering_ctrl_timeout_handler false =>
      run.in_flight = true ->
        run.preorder_ctrl.pending_recvframe_queue ≠ [] ∧
          (run.preorder_ctrl.reordering_ctrl_timer = true -> run.preorder_ctrl.gapless = false)
  | .rtw_reordering_ctrl_timeout_handler true =>
      run.in_flight = true ->
        (run.preorder_ctrl.reordering_ctrl_timer = true <->
          run.preorder_ctrl.pending_recvframe_queue ≠ [])
  | _ => True

instance (run : TimerRun) : ∀ event, Decidable (HandlerInTime run event)
  | .rtw_reordering_ctrl_timeout_handler false => inferInstanceAs (Decidable (_ -> _))
  | .rtw_reordering_ctrl_timeout_handler true => inferInstanceAs (Decidable (_ -> _))
  | .recv_indicatepkt_reorder _ => isTrue trivial
  | ._cancel_timer_ex => isTrue trivial
  | .expires => isTrue trivial

theorem indicate_loop_gapless (indicate_seq : Nat) (queue : List RecvFrame) :
    (indicate_loop indicate_seq queue).2.2.isEmpty = gapless indicate_seq queue := by
  induction queue generalizing indicate_seq with
  | nil => rfl
  | cons prframe rest ih =>
      rw [indicate_loop, gapless]
      cases reached : !SN_LESS indicate_seq prframe.attrib.seq_num with
      | true =>
          rw [if_pos rfl, Bool.true_and]
          exact ih _
      | false =>
          rw [if_neg Bool.false_ne_true]
          rfl

/-- What the two loops of the engine keep, and the meaning of their answer. -/
structure Indicated (before : RecvReorderCtrl) (answer : Bool) (after : RecvReorderCtrl) : Prop where
  bReorderWaiting : after.bReorderWaiting = before.bReorderWaiting
  reordering_ctrl_timer : after.reordering_ctrl_timer = before.reordering_ctrl_timer
  answer : answer = !after.pending_recvframe_queue.isEmpty

theorem recv_indicatepkts_in_order_indicated (preorder_ctrl : RecvReorderCtrl) :
    Indicated preorder_ctrl (recv_indicatepkts_in_order preorder_ctrl false).1
      (recv_indicatepkts_in_order preorder_ctrl false).2.1 := by
  unfold recv_indicatepkts_in_order
  exact ⟨rfl, rfl, rfl⟩

theorem recv_indicatepkts_in_order_flushed {preorder_ctrl : RecvReorderCtrl}
    (frames : preorder_ctrl.pending_recvframe_queue ≠ []) :
    Indicated preorder_ctrl (recv_indicatepkts_in_order preorder_ctrl true).1
        (recv_indicatepkts_in_order preorder_ctrl true).2.1 ∧
      (recv_indicatepkts_in_order preorder_ctrl true).1 = !preorder_ctrl.gapless := by
  unfold recv_indicatepkts_in_order RecvReorderCtrl.gapless
  split
  case h_1 empty => exact absurd empty frames
  case h_2 prframe rest queue =>
      rw [queue]
      exact ⟨⟨rfl, rfl, rfl⟩, congrArg not (indicate_loop_gapless _ _)⟩
  case h_3 impossible => cases impossible

theorem check_indicate_seq_kept (preorder_ctrl : RecvReorderCtrl) (seq_num : Nat) :
    (check_indicate_seq preorder_ctrl seq_num).2 =
      { preorder_ctrl with
        indicate_seq := (check_indicate_seq preorder_ctrl seq_num).2.indicate_seq } := by
  unfold check_indicate_seq
  dsimp only
  split_ifs <;> rfl

/-- A receive call leaves queue and timer alone, or leaves frames in the queue
with the timer set unless it was already waited for, or leaves the queue empty
and goes on to cancel the timer. -/
theorem recv_indicatepkt_reorder_locked_cases (preorder_ctrl : RecvReorderCtrl) (prframe : RecvFrame) :
    let locked := recv_indicatepkt_reorder_locked preorder_ctrl prframe
    let after := locked.1.preorder_ctrl
    (locked.2 = false ∧ after.pending_recvframe_queue = preorder_ctrl.pending_recvframe_queue ∧
        after.bReorderWaiting = preorder_ctrl.bReorderWaiting ∧
        after.reordering_ctrl_timer = preorder_ctrl.reordering_ctrl_timer) ∨
      (locked.2 = false ∧ after.pending_recvframe_queue ≠ [] ∧ after.bReorderWaiting = true ∧
        after.reordering_ctrl_timer =
          (!preorder_ctrl.bReorderWaiting || preorder_ctrl.reordering_ctrl_timer)) ∨
      (locked.2 = true ∧ after.pending_recvframe_queue = [] ∧ after.bReorderWaiting = false) := by
  have kept := check_indicate_seq_kept preorder_ctrl prframe.attrib.seq_num
  unfold recv_indicatepkt_reorder_locked
  by_cases leaves : (!prframe.attrib.qos || !preorder_ctrl.enable) = true
  · rw [if_pos leaves]
    exact Or.inl ⟨rfl, rfl, rfl, rfl⟩
  · rw [if_neg leaves]
    dsimp only
    by_cases refused : (!(check_indicate_seq preorder_ctrl prframe.attrib.seq_num).1) = true
    · rw [if_pos refused, kept]
      exact Or.inl ⟨rfl, rfl, rfl, rfl⟩
    · rw [if_neg refused]
      cases enqueue_reorder_recvframe prframe
        (check_indicate_seq preorder_ctrl prframe.attrib.seq_num).2.pending_recvframe_queue with
      | none =>
          rw [kept]
          exact Or.inl ⟨rfl, rfl, rfl, rfl⟩
      | some queue =>
          right
          dsimp only
          have indicated := recv_indicatepkts_in_order_indicated
            { (check_indicate_seq preorder_ctrl prframe.attrib.seq_num).2 with
              pending_recvframe_queue := queue }
          rw [kept] at indicated ⊢
          generalize recv_indicatepkts_in_order _ false = outcome at indicated ⊢
          have answer := indicated.answer
          by_cases waits : outcome.1 = true
          · rw [if_pos waits]
            rw [waits] at answer
            have frames : outcome.2.1.pending_recvframe_queue ≠ [] := by
              intro empty
              rw [empty] at answer
              cases answer
            refine Or.inl ⟨rfl, ?_⟩
            cases waiting : outcome.2.1.bReorderWaiting with
            | false =>
                refine ⟨frames, rfl, ?_⟩
                rw [← indicated.bReorderWaiting, waiting]
                rfl
            | true =>
                refine ⟨frames, waiting, ?_⟩
                have before := indicated.bReorderWaiting
                rw [waiting] at before
                dsimp only at before
                rw [← before]
                exact indicated.reordering_ctrl_timer
          · rw [if_neg waits]
            rw [Bool.not_eq_true] at waits
            rw [waits, eq_comm, Bool.not_eq_false', List.isEmpty_iff] at answer
            exact Or.inr ⟨rfl, answer, rfl⟩

/-- What a handler that can run leaves behind: it sets the timer, unless it has
emptied a queue of frames without a gap. -/
theorem rtw_reordering_ctrl_timeout_locked_frames {preorder_ctrl : RecvReorderCtrl}
    (frames : preorder_ctrl.pending_recvframe_queue ≠ []) :
    let after := rtw_reordering_ctrl_timeout_locked preorder_ctrl false
    after.bReorderWaiting = false ∧
      (after.pending_recvframe_queue = [] <-> preorder_ctrl.gapless = true) ∧
      after.reordering_ctrl_timer = (!preorder_ctrl.gapless || preorder_ctrl.reordering_ctrl_timer) := by
  rcases @recv_indicatepkts_in_order_flushed
    { preorder_ctrl with bReorderWaiting := false } frames with ⟨indicated, flushed⟩
  have same : RecvReorderCtrl.gapless { preorder_ctrl with bReorderWaiting := false } =
      preorder_ctrl.gapless := rfl
  have answer := indicated.answer
  rw [flushed, same] at answer
  have emptied := Bool.not_inj answer
  unfold rtw_reordering_ctrl_timeout_locked
  rw [if_neg Bool.false_ne_true]
  dsimp only
  rw [flushed, same]
  cases complete : preorder_ctrl.gapless with
  | true =>
      rw [complete] at emptied
      exact ⟨indicated.bReorderWaiting, iff_of_true (List.isEmpty_iff.mp emptied.symm) rfl,
        indicated.reordering_ctrl_timer⟩
  | false =>
      rw [complete] at emptied
      refine ⟨indicated.bReorderWaiting, iff_of_false ?_ Bool.false_ne_true, rfl⟩
      intro empty
      have found := List.isEmpty_iff.mpr empty
      exact absurd (emptied.trans found) Bool.false_ne_true

theorem rtw_reordering_ctrl_timeout_locked_empty {preorder_ctrl : RecvReorderCtrl}
    (empty : preorder_ctrl.pending_recvframe_queue = []) :
    rtw_reordering_ctrl_timeout_locked preorder_ctrl false =
      { preorder_ctrl with bReorderWaiting := false, reordering_ctrl_timer := true } := by
  unfold rtw_reordering_ctrl_timeout_locked recv_indicatepkts_in_order
  rw [if_neg Bool.false_ne_true]
  dsimp only
  rw [empty]
  rfl

/-- Between two receive calls the timer is armed exactly when frames wait, and a
session is waited for only while it is armed.  Inside `_cancel_timer_ex` the
queue is empty and nothing is waited for. -/
structure TimerKept (run : TimerRun) : Prop where
  cancelled : run.cancelling = true ->
    run.preorder_ctrl.pending_recvframe_queue = [] ∧ run.preorder_ctrl.bReorderWaiting = false
  armed : run.cancelling = false -> run.ArmedForFrames
  waiting : run.preorder_ctrl.bReorderWaiting = true -> run.armed = true

theorem TimerKept.step_receive {run : TimerRun} (kept : TimerKept run) (prframe : RecvFrame) :
    TimerKept (run.step (.recv_indicatepkt_reorder prframe)) := by
  unfold TimerRun.step
  dsimp only
  cases busy : run.cancelling with
  | true => exact kept
  | false =>
      rw [if_neg Bool.false_ne_true]
      have before := kept.armed busy
      have waiting := kept.waiting
      unfold TimerRun.ArmedForFrames TimerRun.armed at before
      unfold TimerRun.armed at waiting
      rcases recv_indicatepkt_reorder_locked_cases run.preorder_ctrl prframe with
        ⟨goes, queue, waits, timer⟩ | ⟨goes, frames, waits, timer⟩ | ⟨goes, empty, waits⟩
      · refine ⟨fun cancelling => ?_, fun _ => ?_, fun isWaiting => ?_⟩
        · exact absurd (goes.symm.trans cancelling) Bool.false_ne_true
        · unfold TimerRun.ArmedForFrames TimerRun.armed
          dsimp only
          rw [queue, timer]
          exact before
        · unfold TimerRun.armed
          dsimp only at isWaiting ⊢
          rw [timer]
          exact waiting (waits ▸ isWaiting)
      · have armed : TimerRun.armed { run with
            preorder_ctrl := (recv_indicatepkt_reorder_locked run.preorder_ctrl prframe).1.preorder_ctrl
            cancelling := (recv_indicatepkt_reorder_locked run.preorder_ctrl prframe).2 } = true := by
          unfold TimerRun.armed
          dsimp only
          rw [timer]
          cases waited : run.preorder_ctrl.bReorderWaiting with
          | false => rfl
          | true => exact waiting waited
        refine ⟨fun cancelling => ?_, fun _ => iff_of_true armed frames, fun _ => armed⟩
        exact absurd (goes.symm.trans cancelling) Bool.false_ne_true
      · refine ⟨fun _ => ⟨empty, waits⟩, fun running => ?_, fun isWaiting => ?_⟩
        · exact absurd (running.symm.trans goes) Bool.false_ne_true
        · exact absurd (waits.symm.trans isWaiting) Bool.false_ne_true

theorem TimerKept.step_cancelled {run : TimerRun} (kept : TimerKept run) :
    TimerKept (run.step ._cancel_timer_ex) := by
  unfold TimerRun.step
  dsimp only
  by_cases ends : (run.cancelling && !run.in_flight) = true
  · rw [if_pos ends]
    rw [Bool.and_eq_true, Bool.not_eq_true'] at ends
    rcases kept.cancelled ends.1 with ⟨empty, waits⟩
    refine ⟨fun cancelling => absurd cancelling Bool.false_ne_true, fun _ => ?_, fun isWaiting => ?_⟩
    · refine iff_of_false ?_ (not_not.mpr empty)
      unfold TimerRun.armed
      rw [ends.2]
      exact Bool.false_ne_true
    · exact absurd (waits.symm.trans isWaiting) Bool.false_ne_true
  · rw [if_neg ends]
    exact kept

theorem TimerKept.step_expires {run : TimerRun} (kept : TimerKept run) : TimerKept (run.step .expires) := by
  unfold TimerRun.step
  dsimp only
  by_cases ends : (run.preorder_ctrl.reordering_ctrl_timer && !run.in_flight) = true
  · rw [if_pos ends]
    rw [Bool.and_eq_true] at ends
    have armed : run.armed = true := by
      unfold TimerRun.armed
      rw [ends.1]
      rfl
    exact ⟨kept.cancelled, fun running => ⟨fun _ => (kept.armed running).mp armed, fun _ => rfl⟩, fun _ => rfl⟩
  · rw [if_neg ends]
    exact kept

theorem TimerRun.armedForFrames_handler_iff {run : TimerRun} (cannot_run : Bool) (flies : run.in_flight = true) :
    (run.step (.rtw_reordering_ctrl_timeout_handler cannot_run)).ArmedForFrames <->
      HandlerInTime run (.rtw_reordering_ctrl_timeout_handler cannot_run) := by
  unfold TimerRun.step TimerRun.ArmedForFrames TimerRun.armed
  dsimp only
  rw [if_pos flies, Bool.or_false]
  cases cannot_run with
  | true => exact ⟨fun matched _ => matched, fun inTime => inTime flies⟩
  | false =>
      unfold HandlerInTime
      by_cases empty : run.preorder_ctrl.pending_recvframe_queue = []
      · rw [rtw_reordering_ctrl_timeout_locked_empty empty]
        dsimp only
        exact iff_of_false (fun matched => matched.mp rfl empty) (fun inTime => (inTime flies).1 empty)
      · rcases rtw_reordering_ctrl_timeout_locked_frames empty with ⟨_, emptied, timer⟩
        rw [timer, ne_eq, emptied]
        cases complete : run.preorder_ctrl.gapless with
        | true =>
            constructor
            · intro matched _
              exact ⟨empty, fun set => absurd rfl (matched.mp set)⟩
            · intro inTime
              refine iff_of_false (fun set => ?_) (not_not.mpr rfl)
              exact Bool.false_ne_true ((inTime flies).2 set).symm
        | false => exact iff_of_true (iff_of_true rfl Bool.false_ne_true) (fun _ => ⟨empty, fun _ => rfl⟩)

theorem TimerKept.step_handler {run : TimerRun} (kept : TimerKept run) {cannot_run : Bool}
    (inTime : HandlerInTime run (.rtw_reordering_ctrl_timeout_handler cannot_run)) :
    TimerKept (run.step (.rtw_reordering_ctrl_timeout_handler cannot_run)) := by
  by_cases flies : run.in_flight = true
  · have matched := (TimerRun.armedForFrames_handler_iff cannot_run flies).mpr inTime
    unfold TimerRun.step at matched ⊢
    dsimp only at matched ⊢
    rw [if_pos flies] at matched ⊢
    cases cannot_run with
    | true =>
        have set := inTime flies
        refine ⟨kept.cancelled, fun _ => matched, fun isWaiting => ?_⟩
        refine matched.mpr ?_
        intro empty
        cases busy : run.cancelling with
        | true => exact absurd ((kept.cancelled busy).2.symm.trans isWaiting) Bool.false_ne_true
        | false => exact (kept.armed busy).mp (kept.waiting isWaiting) empty
    | false =>
        rcases rtw_reordering_ctrl_timeout_locked_frames (inTime flies).1 with ⟨waits, _, _⟩
        refine ⟨fun busy => absurd (kept.cancelled busy).1 (inTime flies).1, fun _ => matched,
          fun isWaiting => absurd (waits.symm.trans isWaiting) Bool.false_ne_true⟩
  · unfold TimerRun.step
    dsimp only
    rw [if_neg flies]
    exact kept

theorem TimerKept.step {run : TimerRun} (kept : TimerKept run) {event : TimerEvent}
    (inTime : HandlerInTime run event) : TimerKept (run.step event) := by
  cases event with
  | recv_indicatepkt_reorder prframe => exact kept.step_receive prframe
  | _cancel_timer_ex => exact kept.step_cancelled
  | expires => exact kept.step_expires
  | rtw_reordering_ctrl_timeout_handler cannot_run => exact kept.step_handler inTime

/-- Where a piece completes an operation, the receive path is not inside
`_cancel_timer_ex`, or a handler has come in time. -/
theorem TimerKept.armed_after {run : TimerRun} (kept : TimerKept run) {event : TimerEvent}
    (inTime : HandlerInTime run event) (completes : run.completes event = true) :
    (run.step event).ArmedForFrames := by
  have after := kept.step inTime
  cases event with
  | recv_indicatepkt_reorder prframe =>
      apply after.armed
      simp only [TimerRun.completes, Bool.and_eq_true, Bool.not_eq_true'] at completes
      simp only [TimerRun.step, completes.1, Bool.false_eq_true, if_false]
      exact completes.2
  | _cancel_timer_ex =>
      apply after.armed
      unfold TimerRun.completes at completes
      unfold TimerRun.step
      dsimp only
      rw [if_pos completes]
  | expires => cases completes
  | rtw_reordering_ctrl_timeout_handler cannot_run =>
      exact (TimerRun.armedForFrames_handler_iff cannot_run completes).mpr inTime

/-- As long as every handler comes in time, the timer is armed exactly when
frames wait, after each operation of the run. -/
theorem timer_disciplined {preorder_ctrl : RecvReorderCtrl} (empty : preorder_ctrl.pending_recvframe_queue = [])
    (unset : preorder_ctrl.reordering_ctrl_timer = false)
    (idle : preorder_ctrl.bReorderWaiting = false) {events : List TimerEvent}
    (inTime : Run.Guarded TimerRun.step HandlerInTime (.start preorder_ctrl) events) :
    TimerDisciplined (.start preorder_ctrl) events := by
  have initial : TimerKept (.start preorder_ctrl) := by
    refine ⟨fun busy => absurd busy Bool.false_ne_true, fun _ => ?_, fun isWaiting => ?_⟩
    · refine iff_of_false ?_ (not_not.mpr empty)
      unfold TimerRun.armed TimerRun.start
      rw [unset]
      exact Bool.false_ne_true
    · exact absurd (idle.symm.trans isWaiting) Bool.false_ne_true
  exact inTime.of_invariant (fun _ _ meets kept => kept.step meets)
    (fun _ _ meets kept => kept.armed_after meets) initial

/-- A frame that waits for its predecessor is flushed by the handler, which sets
no timer behind it. -/
theorem timer_disciplined_flush :
    TimerDisciplined (.start (.initial 64))
      [.recv_indicatepkt_reorder (.ofSeq 0 10), ._cancel_timer_ex,
        .recv_indicatepkt_reorder (.ofSeq 1 12), .expires,
        .recv_indicatepkt_reorder (.ofSeq 2 13), .rtw_reordering_ctrl_timeout_handler false] :=
  timer_disciplined rfl rfl rfl (by decide)

/-- A gap is flushed while the timer stays on; the next expiry meets a frame
that sets the timer again; its handler empties the queue and leaves the timer
set.  Every later expiry finds the queue empty and sets the timer once more. -/
theorem timer_armed_without_frames : let events : List TimerEvent :=
      [.recv_indicatepkt_reorder (.ofSeq 0 10), ._cancel_timer_ex,
        .recv_indicatepkt_reorder (.ofSeq 1 12), .recv_indicatepkt_reorder (.ofSeq 2 14), .expires,
        .rtw_reordering_ctrl_timeout_handler false, .expires,
        .recv_indicatepkt_reorder (.ofSeq 3 15), .rtw_reordering_ctrl_timeout_handler false]
    let after := Run.execute TimerRun.step (.start (.initial 64)) events
    ¬ TimerDisciplined (.start (.initial 64)) events ∧
      after.preorder_ctrl.pending_recvframe_queue = [] ∧ after.preorder_ctrl.reordering_ctrl_timer = true ∧
      after.in_flight = false ∧ after.cancelling = false := by
  unfold TimerDisciplined
  decide

end Rtl8821ce
