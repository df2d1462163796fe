import Rtl8821ce.Recv.DefragRun
import Rtl8821ce.Recv.PoolOwned

/-!
# How frames move behind the checks

Defragmentation takes a frame out of the hands of the receive path and hands
out the frame it returns and those it gives back.  The reorder engine takes a
frame or refuses it.  `recv_func_posthandle` then frees the frame that it was
called with; that is the refused one only if no other frame was handed out.
-/

namespace Rtl8821ce

variable {pstapriv : StaPriv} {precv_frame prframe : RecvFrame} {adapter : RecvAdapter} {hand : List Nat}

/-- The reorder engine refuses a frame: it lies behind the window, or its
sequence number is waiting already. -/
def Refused (adapter : RecvAdapter) (prframe : RecvFrame) : Prop :=
  ∃ session, prframe.preorder_ctrl = some session ∧
    prframe.attrib.qos = true ∧ (adapter.reorder_ctrl session).enable = true ∧
      ((check_indicate_seq (adapter.reorder_ctrl session) prframe.attrib.seq_num).1 = false ∨
        enqueue_reorder_recvframe prframe
          (adapter.reorder_ctrl session).pending_recvframe_queue = none)

instance (adapter : RecvAdapter) (prframe : RecvFrame) : Decidable (Refused adapter prframe) :=
  match known : prframe.preorder_ctrl with
  | none => isFalse (fun ⟨_, same, _⟩ => nomatch known.symm.trans same)
  | some session =>
      decidable_of_iff
        (prframe.attrib.qos = true ∧ (adapter.reorder_ctrl session).enable = true ∧
          ((check_indicate_seq (adapter.reorder_ctrl session) prframe.attrib.seq_num).1 = false ∨
            enqueue_reorder_recvframe prframe
              (adapter.reorder_ctrl session).pending_recvframe_queue = none))
        ⟨fun reason => ⟨session, known, reason⟩, fun ⟨_, same, reason⟩ =>
          Option.some.inj (known.symm.trans same) ▸ reason⟩

/-- What the queue of a last fragment is joined to is dropped by `portctrl` or
not refused by the reorder engine. -/
def JoinsUnrefused (adapter : RecvAdapter) (precv_frame : RecvFrame) : Prop :=
  precv_frame.LastFragment -> ∀ prtnframe,
    (recvframe_chk_defrag adapter.micKeys adapter.stapriv precv_frame).prtnframe =
        some prtnframe ->
      portctrl_drops adapter prtnframe = false -> ¬ Refused adapter prtnframe

instance (adapter : RecvAdapter) (precv_frame : RecvFrame) : Decidable (JoinsUnrefused adapter precv_frame) :=
  inferInstanceAs (Decidable (_ -> ∀ prtnframe, prtnframe ∈
    (recvframe_chk_defrag adapter.micKeys adapter.stapriv precv_frame).prtnframe -> _))

/-! ## Defragmentation -/

theorem recvframe_defrag_frames (defrag_q : List RecvFrame) :
    ((recvframe_defrag defrag_q).prtnframe.toList ++ (recvframe_defrag defrag_q).freed).map
      RecvFrame.index = defrag_q.map RecvFrame.index := by
  cases defrag_q with
  | nil => rfl
  | cons prframe rest =>
      rw [recvframe_defrag]
      split
      · rfl
      · split
        case h_1 => rfl
        case h_2 joined loop =>
            simp only [Option.toList_some, List.cons_append, List.nil_append, List.map_cons,
              (defrag_loop_sameEntry loop).index]

theorem chk_defrag_queue_cases (pstapriv : StaPriv) (precv_frame : RecvFrame) :
    (precv_frame.attrib.mfrag = false ∧ precv_frame.attrib.frag_num = 0 ∧
        chk_defrag_queue pstapriv precv_frame = ⟨some precv_frame, pstapriv, []⟩) ∨
      (defrag_station pstapriv precv_frame = none ∧
        chk_defrag_queue pstapriv precv_frame = ⟨none, pstapriv, [precv_frame]⟩) ∨
      (precv_frame.attrib.mfrag = true ∧ ∃ psta stale, ∃ kept,
        defrag_station pstapriv precv_frame = some psta ∧
          stale ++ kept = (pstapriv.pstainfo_buf psta).defrag_q ∧
          chk_defrag_queue pstapriv precv_frame =
            ⟨none, pstapriv.modify psta (.set_defrag_q (kept ++ [precv_frame])), stale⟩) ∨
      (precv_frame.LastFragment ∧ ∃ psta,
        defrag_station pstapriv precv_frame = some psta ∧
          chk_defrag_queue pstapriv precv_frame =
            ⟨(recvframe_defrag (fragments_with pstapriv precv_frame)).prtnframe,
              pstapriv.modify psta (.set_defrag_q []),
              (recvframe_defrag (fragments_with pstapriv precv_frame)).freed⟩) := by
  cases more : precv_frame.attrib.mfrag with
  | true =>
      cases found : defrag_station pstapriv precv_frame with
      | none =>
          refine Or.inr (Or.inl ⟨rfl, ?_⟩)
          simp only [chk_defrag_queue, more, found, Bool.not_true, Bool.false_and, Bool.false_eq_true, if_false]
      | some psta =>
          refine Or.inr (Or.inr (Or.inl ⟨rfl, psta, ?_⟩))
          simp only [chk_defrag_queue, more, found, Bool.not_true, Bool.false_and,
            Bool.false_eq_true, if_false, if_true]
          by_cases first : precv_frame.attrib.frag_num = 0
          · refine ⟨_, [], trivial, List.append_nil _, ?_⟩
            rw [if_pos first, if_pos first]
          · refine ⟨[], _, trivial, List.nil_append _, ?_⟩
            rw [if_neg first, if_neg first]
  | false =>
      by_cases first : precv_frame.attrib.frag_num = 0
      · refine Or.inl ⟨rfl, first, ?_⟩
        simp only [chk_defrag_queue, more, first, Bool.not_false, Bool.true_and, decide_true, if_true]
      · cases found : defrag_station pstapriv precv_frame with
        | none =>
            refine Or.inr (Or.inl ⟨rfl, ?_⟩)
            simp only [chk_defrag_queue, more, first, found, Bool.not_false, Bool.true_and,
              decide_false, Bool.false_eq_true, if_false]
        | some psta =>
            refine Or.inr (Or.inr (Or.inr ⟨⟨more, first⟩, psta, rfl, ?_⟩))
            simp only [chk_defrag_queue, fragments_with, more, first, found, Bool.not_false,
              Bool.true_and, decide_false, Bool.false_eq_true, if_false]

theorem defrag_station_listed {psta : Fin NUM_STA} (found : defrag_station pstapriv precv_frame = some psta) :
    psta ∈ pstapriv.sta_hash := by
  rw [defrag_station] at found
  split at found
  case h_1 known =>
      cases found
      exact mem_sta_hash_of_found known
  case h_2 =>
      split at found
      · exact mem_sta_hash_of_found found
      · cases found

/-- The session of a frame belongs to the station that its address finds. -/
def Addressed (pstapriv : StaPriv) (prframe : RecvFrame) : Prop :=
  ∀ session, prframe.preorder_ctrl = some session ->
    rtw_get_stainfo pstapriv prframe.attrib.ta = some session.1

/-- The session of a frame belongs to a station in the hash table. -/
def Listed (pstapriv : StaPriv) (prframe : RecvFrame) : Prop :=
  ∀ session, prframe.preorder_ctrl = some session -> session.1 ∈ pstapriv.sta_hash

theorem Addressed.listed (addressed : Addressed pstapriv prframe) : Listed pstapriv prframe :=
  fun session known => mem_sta_hash_of_found (addressed session known)

theorem Addressed.station {psta : Fin NUM_STA} (addressed : Addressed pstapriv prframe)
    (found : defrag_station pstapriv prframe = some psta) (session : Fin NUM_STA × Fin 16)
    (known : prframe.preorder_ctrl = some session) : session.1 = psta := by
  rw [defrag_station, addressed session known] at found
  exact Option.some.inj found

theorem count_map_append (frames : List RecvFrame) (hand : List Nat) (frame : Nat) :
    (frames.map RecvFrame.index ++ hand).count frame = queued frames frame + hand.count frame :=
  List.count_append

theorem Owned.chk_defrag_queue (owned : Owned adapter (precv_frame.index :: hand))
    (addressed : Addressed adapter.stapriv precv_frame) :
    let outcome := Rtl8821ce.chk_defrag_queue adapter.stapriv precv_frame
    Owned { adapter with stapriv := outcome.pstapriv }
        ((outcome.prtnframe.toList ++ outcome.freed).map RecvFrame.index ++ hand) ∧
      outcome.pstapriv.sta_hash = adapter.stapriv.sta_hash ∧
      ∀ prtnframe, outcome.prtnframe = some prtnframe ->
        Listed adapter.stapriv prtnframe := by
  dsimp only
  rcases chk_defrag_queue_cases adapter.stapriv precv_frame with
    ⟨_, _, outcome⟩ | ⟨_, outcome⟩ | ⟨_, psta, stale, kept, found, parts, outcome⟩ |
      ⟨_, psta, found, outcome⟩
  · rw [outcome]
    refine ⟨owned, rfl, fun prtnframe same => ?_⟩
    cases same
    exact addressed.listed
  · rw [outcome]
    exact ⟨owned, rfl, fun prtnframe none => by cases none⟩
  · rw [outcome]
    have listed := defrag_station_listed found
    refine ⟨owned.modify psta _ (fun frame => ?_) (fun unlisted => absurd listed unlisted) ?_,
      rfl, fun prtnframe none => by cases none⟩
    · have exchanged := holds_set_defrag_q (adapter.stapriv.pstainfo_buf psta)
        (kept ++ [precv_frame]) frame
      rw [← parts] at exchanged
      simp only [Option.toList_none, List.nil_append, count_map_append, List.count_cons,
        queued_append, queued_cons, queued_nil, beq_iff_eq] at exchanged ⊢
      omega
    · intro prframe member session known
      rcases List.mem_append.mp member with old | new
      · exact owned.sessions psta prframe
          (by rw [← parts]; exact List.mem_append_right _ old) session known
      · rw [List.mem_singleton.mp new] at known
        exact addressed.station found session known
  · rw [outcome]
    have listed := defrag_station_listed found
    have fragments : fragments_with adapter.stapriv precv_frame =
        (adapter.stapriv.pstainfo_buf psta).defrag_q ++ [precv_frame] := by
      rw [fragments_with, found]
    refine ⟨owned.modify psta _ (fun frame => ?_) (fun unlisted => absurd listed unlisted)
      (fun prframe member => absurd member List.not_mem_nil), rfl, fun prtnframe joins session known => ?_⟩
    · have exchanged := holds_set_defrag_q (adapter.stapriv.pstainfo_buf psta) [] frame
      have frames := recvframe_defrag_frames (fragments_with adapter.stapriv precv_frame)
      simp only [frames, count_map_append]
      rw [fragments]
      simp only [List.count_cons, queued_append, queued_cons, queued_nil, beq_iff_eq]
        at exchanged ⊢
      omega
    · rcases recvframe_defrag_first joins with ⟨first, member, same⟩
      rw [same.preorder_ctrl] at known
      rw [fragments] at member
      rcases List.mem_append.mp member with old | new
      · rw [owned.sessions psta first old session known]
        exact listed
      · rw [List.mem_singleton.mp new] at known
        exact addressed.listed session known

theorem free_queue_stapriv (adapter : RecvAdapter) (frames : List RecvFrame) :
    (rtw_free_recvframe_queue adapter frames).stapriv.sta_hash = adapter.stapriv.sta_hash := by
  induction frames generalizing adapter with
  | nil => rfl
  | cons first rest ih => exact ih _

theorem recvframe_chk_defrag_frames (psecuritypriv : MicKeys) (pstapriv : StaPriv) (precv_frame : RecvFrame) :
    let queued := Rtl8821ce.chk_defrag_queue pstapriv precv_frame
    let outcome := recvframe_chk_defrag psecuritypriv pstapriv precv_frame
    (∀ hand frame,
        ((outcome.prtnframe.toList ++ outcome.freed).map RecvFrame.index ++ hand).count frame =
          ((queued.prtnframe.toList ++ queued.freed).map RecvFrame.index ++ hand).count frame) ∧
      ∀ prtnframe, outcome.prtnframe = some prtnframe ->
        ∃ joined, queued.prtnframe = some joined ∧ SameEntry joined prtnframe := by
  dsimp only
  rw [recvframe_chk_defrag]
  cases returns : (chk_defrag_queue pstapriv precv_frame).prtnframe with
  | none =>
      dsimp only
      rw [returns]
      exact ⟨fun _ _ => rfl, fun prtnframe none => by cases none⟩
  | some joined =>
      dsimp only
      split
      case isFalse plain =>
          rw [returns]
          exact ⟨fun _ _ => rfl, fun prtnframe same => ⟨prtnframe, same, .refl _⟩⟩
      case isTrue secret =>
          have checked := recvframe_chkmic_sameEntry psecuritypriv
            ((rtw_get_stainfo (chk_defrag_queue pstapriv precv_frame).pstapriv
              joined.attrib.ta).map
                (chk_defrag_queue pstapriv precv_frame).pstapriv.pstainfo_buf) joined
          split
          case h_1 out result =>
              rw [result] at checked
              have index : out.index = joined.index := checked.index
              refine ⟨fun hand frame => ?_, fun prtnframe none => by cases none⟩
              simp only [Option.toList_none, Option.toList_some, List.nil_append,
                count_map_append, queued_append, queued_cons, queued_nil, index]
              omega
          case h_2 status out _ result =>
              rw [result] at checked
              have index : out.index = joined.index := checked.index
              refine ⟨fun hand frame => ?_, fun prtnframe same => ?_⟩
              · simp only [Option.toList_some, List.cons_append, List.nil_append,
                  count_map_append, queued_cons, index]
              · cases same
                exact ⟨joined, rfl, checked⟩

theorem Owned.reorder_hand {before : List Nat} (owned : Owned adapter before)
    (same : ∀ frame, hand.count frame = before.count frame) : Owned adapter hand := by
  refine ⟨fun frame => ?_, owned.free_recvframe_cnt, owned.never_freed_twice, owned.reachable,
    owned.records, owned.sessions⟩
  rw [same frame]
  exact owned.once frame

theorem Owned.chk_defrag_moved (owned : Owned adapter (precv_frame.index :: hand))
    (addressed : Addressed adapter.stapriv precv_frame) :
    let outcome := recvframe_chk_defrag adapter.micKeys adapter.stapriv precv_frame
    Owned { adapter with stapriv := outcome.pstapriv }
      (outcome.freed.map RecvFrame.index ++
        (outcome.prtnframe.toList.map RecvFrame.index ++ hand)) := by
  dsimp only
  have frames := (recvframe_chk_defrag_frames adapter.micKeys adapter.stapriv precv_frame).1
  rw [recvframe_chk_defrag_pstapriv]
  refine (owned.chk_defrag_queue addressed).1.reorder_hand (fun frame => ?_)
  rw [← frames hand frame]
  simp only [List.map_append, List.append_assoc, List.count_append]
  omega

theorem Owned.chk_defrag {adapter : RecvAdapter} {hand : List Nat} {precv_frame : RecvFrame}
    (owned : Owned adapter (precv_frame.index :: hand)) (addressed : Addressed adapter.stapriv precv_frame) :
    Owned (adapter.chk_defrag precv_frame).2
        ((adapter.chk_defrag precv_frame).1.toList.map RecvFrame.index ++ hand) ∧
      ∀ prtnframe, (adapter.chk_defrag precv_frame).1 = some prtnframe ->
        Listed (adapter.chk_defrag precv_frame).2.stapriv prtnframe := by
  refine ⟨(owned.chk_defrag_moved addressed).free_queue, fun prtnframe returns session known => ?_⟩
  rcases owned.chk_defrag_queue addressed with ⟨_, sta_hash, sessions⟩
  rcases (recvframe_chk_defrag_frames adapter.micKeys
    adapter.stapriv precv_frame).2 prtnframe returns with ⟨first, returned, same⟩
  rw [same.preorder_ctrl] at known
  have listed := sessions first returned session known
  rw [RecvAdapter.chk_defrag, free_queue_stapriv, recvframe_chk_defrag_pstapriv, sta_hash]
  exact listed

theorem indicate_loop_split (indicate_seq : Nat) (queue : List RecvFrame) :
    (indicate_loop indicate_seq queue).1 ++ (indicate_loop indicate_seq queue).2.2 = queue := by
  induction queue generalizing indicate_seq with
  | nil => rfl
  | cons prframe rest ih =>
      rw [indicate_loop]
      split
      · dsimp only
        rw [List.cons_append, ih]
      · rfl

theorem recv_indicatepkts_in_order_split (preorder_ctrl : RecvReorderCtrl) (bforced : Bool) (frame : Nat) :
    queued (recv_indicatepkts_in_order preorder_ctrl bforced).2.2 frame +
        queued (recv_indicatepkts_in_order preorder_ctrl bforced).2.1.pending_recvframe_queue
          frame =
      queued preorder_ctrl.pending_recvframe_queue frame := by
  rw [recv_indicatepkts_in_order.eq_def]
  cases bforced with
  | false =>
      dsimp only
      rw [← queued_append, indicate_loop_split]
  | true =>
      cases pending : preorder_ctrl.pending_recvframe_queue with
      | nil =>
          dsimp only
          rw [pending, queued_nil]
      | cons prframe rest =>
          dsimp only
          rw [← queued_append, indicate_loop_split]

theorem enqueue_reorder_recvframe_queued {queue longer : List RecvFrame}
    (inserted : enqueue_reorder_recvframe prframe queue = some longer) (frame : Nat) :
    queued longer frame = queued queue frame + if prframe.index = frame then 1 else 0 := by
  induction queue generalizing longer with
  | nil =>
      cases inserted
      exact queued_cons prframe [] frame
  | cons pnextrframe rest ih =>
      rw [enqueue_reorder_recvframe] at inserted
      split at inserted
      · rcases Option.map_eq_some_iff.mp inserted with ⟨tail, placed, rfl⟩
        have moved := ih placed
        simp only [queued_cons]
        omega
      · split at inserted
        · cases inserted
        · cases inserted
          exact queued_cons prframe _ frame

theorem check_indicate_seq_pending (preorder_ctrl : RecvReorderCtrl) (seq_num : Nat) :
    (check_indicate_seq preorder_ctrl seq_num).2.pending_recvframe_queue =
      preorder_ctrl.pending_recvframe_queue := by
  unfold check_indicate_seq
  dsimp only
  generalize (if preorder_ctrl.indicate_seq = 0xFFFF then seq_num
    else preorder_ctrl.indicate_seq) = indicate_seq
  split
  · rfl
  · split
    · rfl
    · split
      · split <;> rfl
      · rfl

theorem recv_indicatepkt_reorder_cases (preorder_ctrl : RecvReorderCtrl) (prframe : RecvFrame) :
    let outcome := recv_indicatepkt_reorder preorder_ctrl prframe
    (outcome.status = ._SUCCESS ∧ outcome.preorder_ctrl = preorder_ctrl ∧
        outcome.processed = []) ∨
      (outcome.status = ._FAIL ∧
        (prframe.attrib.qos = true ∧ preorder_ctrl.enable = true ∧
          ((check_indicate_seq preorder_ctrl prframe.attrib.seq_num).1 = false ∨
            enqueue_reorder_recvframe prframe preorder_ctrl.pending_recvframe_queue = none)) ∧
        outcome.preorder_ctrl.pending_recvframe_queue =
          preorder_ctrl.pending_recvframe_queue ∧ outcome.processed = []) ∨
      (outcome.status = .RTW_RX_HANDLED ∧ ∀ frame,
        queued outcome.processed frame +
            queued outcome.preorder_ctrl.pending_recvframe_queue frame =
          queued preorder_ctrl.pending_recvframe_queue frame +
            if prframe.index = frame then 1 else 0) := by
  dsimp only
  have pending := check_indicate_seq_pending preorder_ctrl prframe.attrib.seq_num
  rw [recv_indicatepkt_reorder]
  split
  case isTrue notApplied => exact Or.inl ⟨rfl, rfl, rfl⟩
  case isFalse applies =>
      rw [Bool.or_eq_true, not_or, Bool.not_eq_true, Bool.not_eq_true, Bool.not_eq_false',
        Bool.not_eq_false'] at applies
      dsimp only
      split
      case isTrue behind =>
          rw [Bool.not_eq_true'] at behind
          exact Or.inr (Or.inl ⟨rfl, ⟨applies.1, applies.2, Or.inl behind⟩, pending, rfl⟩)
      case isFalse inside =>
          rw [pending]
          cases inserted : enqueue_reorder_recvframe prframe
              preorder_ctrl.pending_recvframe_queue with
          | none =>
              exact Or.inr (Or.inl ⟨rfl, ⟨applies.1, applies.2, Or.inr rfl⟩, pending, rfl⟩)
          | some queue =>
              refine Or.inr (Or.inr ?_)
              have parts := recv_indicatepkts_in_order_split
                { (check_indicate_seq preorder_ctrl prframe.attrib.seq_num).2 with
                  pending_recvframe_queue := queue } false
              have longer := enqueue_reorder_recvframe_queued inserted
              dsimp only at parts ⊢
              split
              · refine ⟨rfl, fun frame => ?_⟩
                rw [← longer frame, ← parts frame]
                dsimp only
                split <;> rfl
              · refine ⟨rfl, fun frame => ?_⟩
                rw [← longer frame, ← parts frame]

theorem Owned.indicatepkt_reorder {adapter : RecvAdapter} {hand : List Nat}
    {prframe : RecvFrame} (owned : Owned adapter (prframe.index :: hand)) (listed : Listed adapter.stapriv prframe) :
    ((adapter.indicatepkt_reorder prframe).1 = ._SUCCESS ∧
        Owned (adapter.indicatepkt_reorder prframe).2 (prframe.index :: hand)) ∨
      ((adapter.indicatepkt_reorder prframe).1 = ._FAIL ∧ Refused adapter prframe ∧
        Owned (adapter.indicatepkt_reorder prframe).2 (prframe.index :: hand)) ∨
      ((adapter.indicatepkt_reorder prframe).1 = .RTW_RX_HANDLED ∧
        Owned (adapter.indicatepkt_reorder prframe).2 hand) := by
  rw [RecvAdapter.indicatepkt_reorder]
  cases known : prframe.preorder_ctrl with
  | none => exact Or.inl ⟨rfl, owned⟩
  | some session =>
      have member := listed session known
      dsimp only
      rcases recv_indicatepkt_reorder_cases (adapter.reorder_ctrl session) prframe with
        ⟨status, ctrl, processed⟩ | ⟨status, refused, pending, processed⟩ | ⟨status, balance⟩
      · rw [processed, ctrl]
        exact Or.inl ⟨status, owned.set_reorder_ctrl session _ (fun frame => rfl) (Or.inl member)⟩
      · rw [processed]
        refine Or.inr (Or.inl ⟨status, ⟨session, known, refused⟩,
          owned.set_reorder_ctrl session _ (fun frame => ?_) (Or.inl member)⟩)
        rw [pending]
      · refine Or.inr (Or.inr ⟨status, Owned.free_queue
          (owned.set_reorder_ctrl session _ (fun frame => ?_) (Or.inl member))⟩)
        have balanced := balance frame
        rw [count_map_append, List.count_cons]
        simp only [beq_iff_eq]
        omega

theorem Owned.set_iseq (owned : Owned adapter hand)
    (prframe : RecvFrame) (seq_num : Nat) : Owned (adapter.set_iseq prframe seq_num) hand := by
  rw [RecvAdapter.set_iseq]
  cases prframe.preorder_ctrl with
  | none => exact owned
  | some session => exact owned.set_reorder_ctrl session _ (fun frame => rfl) (Or.inr rfl)

theorem chk_defrag_returns {prtnframe : RecvFrame} (returns : (adapter.chk_defrag precv_frame).1 = some prtnframe)
    (notLast : ¬ precv_frame.LastFragment) : prtnframe.index = precv_frame.index := by
  rcases (recvframe_chk_defrag_frames adapter.micKeys adapter.stapriv
    precv_frame).2 prtnframe returns with ⟨joined, first, same⟩
  rcases chk_defrag_queue_cases adapter.stapriv precv_frame with
    ⟨_, _, outcome⟩ | ⟨_, outcome⟩ | ⟨_, _, _, _, _, _, outcome⟩ | ⟨last, _⟩
  · rw [outcome] at first
    cases first
    exact same.index
  · rw [outcome] at first
    cases first
  · rw [outcome] at first
    cases first
  · exact absurd last notLast

/-- What defragmentation leaves of the stations: their addresses, their 802.1X
state, and which of them are in the hash table. -/
structure SameStations (before after : RecvAdapter) : Prop where
  sta_hash : after.stapriv.sta_hash = before.stapriv.sta_hash
  mac_addr : ∀ psta, (after.stapriv.pstainfo_buf psta).mac_addr =
    (before.stapriv.pstainfo_buf psta).mac_addr
  blocked : ∀ psta, (after.stapriv.pstainfo_buf psta).ieee8021x_blocked =
    (before.stapriv.pstainfo_buf psta).ieee8021x_blocked
  mlmepriv : after.mlmepriv = before.mlmepriv

theorem SameStations.portctrl_drops {before after : RecvAdapter}
    (same : SameStations before after) (prframe : RecvFrame) :
    Rtl8821ce.portctrl_drops after prframe = Rtl8821ce.portctrl_drops before prframe := by
  simp only [Rtl8821ce.portctrl_drops, rtw_get_stainfo, same.sta_hash, same.mac_addr, same.blocked, same.mlmepriv]

theorem free_queue_sameStations (adapter : RecvAdapter) (frames : List RecvFrame) :
    SameStations adapter (rtw_free_recvframe_queue adapter frames) := by
  induction frames generalizing adapter with
  | nil => exact ⟨rfl, fun _ => rfl, fun _ => rfl, rfl⟩
  | cons first rest ih =>
      have later := ih (rtw_free_recvframe adapter first.index)
      exact ⟨later.sta_hash, later.mac_addr, later.blocked, later.mlmepriv⟩

theorem Owned.free_reorder_ctrl {precvframe : Nat}
    (owned : Owned adapter (precvframe :: hand)) (session : Fin NUM_STA × Fin 16) :
    (rtw_free_recvframe adapter precvframe).reorder_ctrl session =
      adapter.reorder_ctrl session := by
  have once := owned.once precvframe
  rw [List.count_cons_self] at once
  have station := Custody.le_sum
    (fun psta => (adapter.stapriv.pstainfo_buf psta).holds precvframe) session.1
  have pending := Custody.le_sum
    (fun tid => queued ((adapter.stapriv.pstainfo_buf session.1).recvreorder_ctrl
      tid).pending_recvframe_queue precvframe) session.2
  have absent : queued (adapter.reorder_ctrl session).pending_recvframe_queue precvframe = 0 := by
    simp only [RecvAdapter.places, StaInfo.holds, RecvAdapter.reorder_ctrl] at once station ⊢
    split at once <;> omega
  have kept : queue_delete precvframe (adapter.reorder_ctrl session).pending_recvframe_queue =
      (adapter.reorder_ctrl session).pending_recvframe_queue := by
    rw [queue_delete, List.filter_eq_self]
    intro frame member
    rw [bne_iff_ne]
    rintro rfl
    exact absurd absent (Nat.pos_iff_ne_zero.mp (queued_pos member))
  simp only [RecvAdapter.reorder_ctrl, rtw_free_recvframe, StaInfo.rtw_list_delete] at kept ⊢
  rw [kept]

theorem Owned.free_queue_reorder_ctrl {frames : List RecvFrame} (owned : Owned adapter (frames.map RecvFrame.index ++ hand))
    (session : Fin NUM_STA × Fin 16) :
    (rtw_free_recvframe_queue adapter frames).reorder_ctrl session =
      adapter.reorder_ctrl session := by
  induction frames generalizing adapter with
  | nil => rfl
  | cons first rest ih =>
      exact (ih owned.free).trans (owned.free_reorder_ctrl session)

theorem set_defrag_q_kept (adapter : RecvAdapter) (psta : Fin NUM_STA) (queue : List RecvFrame) :
    SameStations adapter
        { adapter with stapriv := adapter.stapriv.modify psta (.set_defrag_q queue) } ∧
      ∀ session, RecvAdapter.reorder_ctrl
        { adapter with stapriv := adapter.stapriv.modify psta (.set_defrag_q queue) } session =
          adapter.reorder_ctrl session := by
  have fields : ∀ other,
      ((adapter.stapriv.modify psta (.set_defrag_q queue)).pstainfo_buf other).mac_addr =
          (adapter.stapriv.pstainfo_buf other).mac_addr ∧
        ((adapter.stapriv.modify psta (.set_defrag_q queue)).pstainfo_buf
            other).ieee8021x_blocked =
          (adapter.stapriv.pstainfo_buf other).ieee8021x_blocked ∧
        ((adapter.stapriv.modify psta (.set_defrag_q queue)).pstainfo_buf
            other).recvreorder_ctrl =
          (adapter.stapriv.pstainfo_buf other).recvreorder_ctrl := by
    intro other
    by_cases same : other = psta
    · rw [same, StaPriv.modify_same]
      exact ⟨rfl, rfl, rfl⟩
    · rw [StaPriv.modify_of_ne _ same]
      exact ⟨rfl, rfl, rfl⟩
  exact ⟨⟨rfl, fun other => (fields other).1, fun other => (fields other).2.1, rfl⟩,
    fun session => congrFun (fields session.1).2.2 session.2⟩

theorem chk_defrag_queue_kept (adapter : RecvAdapter) (precv_frame : RecvFrame) :
    SameStations adapter { adapter with
        stapriv := (chk_defrag_queue adapter.stapriv precv_frame).pstapriv } ∧
      ∀ session, RecvAdapter.reorder_ctrl { adapter with
        stapriv := (chk_defrag_queue adapter.stapriv precv_frame).pstapriv } session =
          adapter.reorder_ctrl session := by
  rcases chk_defrag_queue_cases adapter.stapriv precv_frame with
    ⟨_, _, outcome⟩ | ⟨_, outcome⟩ | ⟨_, psta, _, kept, _, _, outcome⟩ | ⟨_, psta, _, outcome⟩
  · rw [outcome]
    exact ⟨⟨rfl, fun _ => rfl, fun _ => rfl, rfl⟩, fun _ => rfl⟩
  · rw [outcome]
    exact ⟨⟨rfl, fun _ => rfl, fun _ => rfl, rfl⟩, fun _ => rfl⟩
  · rw [outcome]
    exact set_defrag_q_kept adapter psta _
  · rw [outcome]
    exact set_defrag_q_kept adapter psta _

theorem Owned.chk_defrag_kept {adapter : RecvAdapter} {hand : List Nat}
    {precv_frame : RecvFrame} (owned : Owned adapter (precv_frame.index :: hand))
    (addressed : Addressed adapter.stapriv precv_frame) :
    SameStations adapter (adapter.chk_defrag precv_frame).2 ∧
      ∀ session, (adapter.chk_defrag precv_frame).2.reorder_ctrl session =
        adapter.reorder_ctrl session := by
  have queueing := chk_defrag_queue_kept adapter precv_frame
  rw [← recvframe_chk_defrag_pstapriv adapter.micKeys] at queueing
  rcases queueing with ⟨stations, sessions⟩
  have freeing := free_queue_sameStations { adapter with
    stapriv := (recvframe_chk_defrag adapter.micKeys adapter.stapriv precv_frame).pstapriv }
    (recvframe_chk_defrag adapter.micKeys adapter.stapriv precv_frame).freed
  refine ⟨⟨freeing.sta_hash.trans stations.sta_hash,
    fun psta => (freeing.mac_addr psta).trans (stations.mac_addr psta),
    fun psta => (freeing.blocked psta).trans (stations.blocked psta),
    freeing.mlmepriv.trans stations.mlmepriv⟩, fun session => ?_⟩
  exact ((owned.chk_defrag_moved addressed).free_queue_reorder_ctrl session).trans
    (sessions session)

theorem Owned.recv_func_posthandle (owned : Owned adapter (prframe.index :: hand))
    (addressed : Addressed adapter.stapriv prframe) (unrefused : JoinsUnrefused adapter (decryptor prframe)) :
    Owned (Rtl8821ce.recv_func_posthandle adapter prframe) hand := by
  have defragged := @Owned.chk_defrag _ _ (decryptor prframe) owned addressed
  have kept := @Owned.chk_defrag_kept _ _ (decryptor prframe) owned addressed
  rw [Rtl8821ce.recv_func_posthandle]
  split
  case h_1 after returns =>
      rw [returns] at defragged
      exact defragged.1
  case h_2 prtnframe after returns =>
      have result : (adapter.chk_defrag (decryptor prframe)).1 = some prtnframe := by rw [returns]
      rw [returns] at defragged kept
      rcases defragged with ⟨moved, listed⟩
      rcases kept with ⟨stations, sessions⟩
      split
      case isTrue drops => exact moved.free
      case isFalse passes =>
          rw [stations.portctrl_drops, Bool.not_eq_true] at passes
          have handed := @Owned.indicatepkt_reorder _ _ prtnframe moved
            (listed prtnframe rfl)
          rcases handed with ⟨status, taken⟩ | ⟨status, refused, taken⟩ | ⟨status, taken⟩
          · split
            case h_1 later outcome => rw [outcome] at status; cases status
            case h_2 later outcome => rw [outcome] at status; cases status
            case h_3 later outcome =>
                rw [outcome] at taken
                exact (taken.set_iseq prtnframe _).free
          · -- a frame that is refused is the frame in hand
            have unchanged : Refused adapter prtnframe := by
              rcases refused with ⟨session, known, qos, enable, reason⟩
              rw [sessions session] at enable reason
              exact ⟨session, known, qos, enable, reason⟩
            have notLast : ¬ (decryptor prframe).LastFragment :=
              fun last => unrefused last prtnframe result passes unchanged
            have index := chk_defrag_returns result notLast
            split
            case h_1 later outcome =>
                rw [outcome, index] at taken
                exact taken.free
            case h_2 later outcome => rw [outcome] at status; cases status
            case h_3 later outcome => rw [outcome] at status; cases status
          · split
            case h_1 later outcome => rw [outcome] at status; cases status
            case h_2 later outcome =>
                rw [outcome] at taken
                exact taken
            case h_3 later outcome => rw [outcome] at status; cases status

end Rtl8821ce
