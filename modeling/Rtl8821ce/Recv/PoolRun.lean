import Rtl8821ce.Recv.PoolPaths

/-!
# Where the frames of the pool are

Over any run of allocations, receptions, reorder timeouts and stations coming
and going, every frame is in exactly one place, and the counter counts the free
queue.  Three paths break this.  They are the conditions of the run theorem: a
reassembled frame that the reorder engine refuses, a fragmented management
frame that is freed by the check and by its caller, and a station that is freed
with fragments in its queue.
-/

namespace Rtl8821ce

variable {adapter : RecvAdapter} {pmlmepriv : MlmePriv} {pstapriv : StaPriv} {pattrib : RxPktAttrib}
  {hand : List Nat}

/-- The frames are conserved: each is in exactly one place, none is in a queue
of a station that has been freed, none was freed twice, and the counter counts
the free queue. -/
structure Conserved (adapter : RecvAdapter) : Prop where
  exactly_once : ∀ frame, frame < NR_RECVFRAME -> adapter.places frame = 1
  reachable : ∀ psta, psta ∉ adapter.stapriv.sta_hash ->
    ∀ frame, (adapter.stapriv.pstainfo_buf psta).holds frame = 0
  never_freed_twice : adapter.freed_twice = false
  free_recvframe_cnt : adapter.free_recvframe_cnt = adapter.free_recv_queue.length

/-- The frame reaches `validate_recv_mgnt_frame`. -/
def IsManagement (rx_data : List UInt8) : Prop :=
  (rx_data.getD 0 0) &&& 0x03 = 0 ∧ GetFrameType rx_data = WIFI_MGT_TYPE

/-- A management frame is not a last fragment, and if it is another fragment,
there is a queue for it. -/
def ManagementUnjoined (adapter : RecvAdapter) (rframe : RecvFrame) : Prop :=
  let framed := { rframe with attrib := frame_control_attrib rframe.rx_data rframe.attrib }
  IsManagement rframe.rx_data ->
    ¬ framed.LastFragment ∧
      (framed.attrib.mfrag = true -> defrag_station adapter.stapriv framed ≠ none)

def KeepsTrack (adapter : RecvAdapter) : RecvEvent -> Prop
  | .recv_func precvframe rx_data tailroom =>
      let inHand := { adapter with held := adapter.held.erase precvframe }
      let rframe := RecvFrame.arriving precvframe rx_data tailroom
      let validated := validate_recv_frame inHand rframe
      precvframe ∈ adapter.held ->
        ManagementUnjoined inHand rframe ∧
          (validated.1 = ._SUCCESS -> JoinsUnrefused validated.2.2 (decryptor validated.2.1))
  | .rtw_free_stainfo psta =>
      psta ∈ adapter.stapriv.sta_hash -> (adapter.stapriv.pstainfo_buf psta).defrag_q = []
  | _ => True

instance (adapter : RecvAdapter) (rframe : RecvFrame) : Decidable (ManagementUnjoined adapter rframe) :=
  inferInstanceAs (Decidable (_ ∧ _ -> _ ∧ (_ -> _)))

instance (adapter : RecvAdapter) (event : RecvEvent) : Decidable (KeepsTrack adapter event) :=
  match event with
  | .recv_func _ _ _ => inferInstanceAs (Decidable (_ -> _ ∧ (_ -> _)))
  | .rtw_free_stainfo psta =>
      inferInstanceAs (Decidable (_ -> (adapter.stapriv.pstainfo_buf psta).defrag_q = []))
  | .rtw_alloc_recvframe => inferInstanceAs (Decidable True)
  | .rtw_free_recvframe _ => inferInstanceAs (Decidable True)
  | .rtw_reordering_ctrl_timeout_handler _ _ => inferInstanceAs (Decidable True)
  | .rtw_alloc_stainfo _ => inferInstanceAs (Decidable True)
  | .add_ba_rsp_hdl _ _ _ => inferInstanceAs (Decidable True)
  | .mlme_update _ _ _ => inferInstanceAs (Decidable True)

theorem Owned.conserved (owned : Owned adapter []) : Conserved adapter := by
  refine ⟨fun frame small => ?_, owned.reachable, owned.never_freed_twice, owned.free_recvframe_cnt⟩
  have once := owned.once frame
  rw [if_pos small, List.count_nil, Nat.add_zero] at once
  exact once

/-! ## The checks before -/

theorem sta2sta_found {psta : Fin NUM_STA}
    (found : sta2sta_data_frame pmlmepriv pstapriv pattrib = ⟨._SUCCESS, some psta⟩) :
    rtw_get_stainfo pstapriv pattrib.ta = some psta := by
  unfold sta2sta_data_frame at found
  dsimp only at found
  cases known : rtw_get_stainfo pstapriv pattrib.ta with
  | none =>
      rw [known] at found
      cases found
  | some other =>
      rw [known] at found
      exact (AddressCheck.mk.inj found).2

theorem ap2sta_found {no_data : Bool} {psta : Fin NUM_STA}
    (found : ap2sta_data_frame pmlmepriv pstapriv pattrib no_data = ⟨._SUCCESS, some psta⟩) :
    rtw_get_stainfo pstapriv pattrib.ta = some psta := by
  unfold ap2sta_data_frame at found
  dsimp only at found
  split at found
  · split at found
    · cases found
    · split at found
      · cases found
      · split at found
        · cases found
        · cases known : rtw_get_stainfo pstapriv pattrib.ta with
          | none =>
              rw [known] at found
              cases found
          | some other =>
              rw [known] at found
              exact (AddressCheck.mk.inj found).2
  · split at found <;> cases found

theorem sta2ap_found {no_data : Bool} {psta : Fin NUM_STA}
    (found : sta2ap_data_frame pmlmepriv pstapriv pattrib no_data = ⟨._SUCCESS, some psta⟩) :
    rtw_get_stainfo pstapriv pattrib.ta = some psta := by
  unfold sta2ap_data_frame at found
  split at found
  · split at found
    · cases found
    · cases known : rtw_get_stainfo pstapriv pattrib.ta with
      | none =>
          rw [known] at found
          cases found
      | some other =>
          rw [known] at found
          exact (AddressCheck.mk.inj found).2
  · cases found

theorem recv_decache_kept (psta : StaInfo) (pattrib : RxPktAttrib) :
    (recv_decache psta pattrib).2.mac_addr = psta.mac_addr ∧
      (recv_decache psta pattrib).2.defrag_q = psta.defrag_q ∧
      (recv_decache psta pattrib).2.recvreorder_ctrl = psta.recvreorder_ctrl := by
  unfold recv_decache
  dsimp only
  split <;> split <;> split <;> exact ⟨rfl, rfl, rfl⟩

theorem Owned.modify_kept (owned : Owned adapter hand) (psta : Fin NUM_STA) (change : StaInfo -> StaInfo)
    (defrag_q : (change (adapter.stapriv.pstainfo_buf psta)).defrag_q =
      (adapter.stapriv.pstainfo_buf psta).defrag_q)
    (sessions : (change (adapter.stapriv.pstainfo_buf psta)).recvreorder_ctrl =
      (adapter.stapriv.pstainfo_buf psta).recvreorder_ctrl) :
    Owned { adapter with stapriv := adapter.stapriv.modify psta change } hand := by
  have holds : ∀ frame, (change (adapter.stapriv.pstainfo_buf psta)).holds frame =
      (adapter.stapriv.pstainfo_buf psta).holds frame := by
    intro frame
    rw [StaInfo.holds, StaInfo.holds, defrag_q, sessions]
  refine owned.modify psta change (fun frame => ?_) (fun unlisted frame => ?_) ?_
  · rw [holds]
  · rw [holds]
    exact owned.reachable psta unlisted frame
  · rw [defrag_q]
    exact owned.sessions psta

theorem Owned.validate_recv_data_frame (owned : Owned adapter hand) (precv_frame : RecvFrame)
    (fresh : precv_frame.preorder_ctrl = none) :
    let validated := Rtl8821ce.validate_recv_data_frame adapter.mlmepriv adapter.stapriv
      precv_frame
    Owned { adapter with stapriv := validated.pstapriv } hand ∧
      validated.precv_frame.index = precv_frame.index ∧
      Addressed validated.pstapriv validated.precv_frame := by
  have unaddressed : ∀ (pstapriv : StaPriv) (pattrib : RxPktAttrib), Addressed pstapriv
      { precv_frame with attrib := pattrib } := by
    intro pstapriv pattrib session known
    rw [fresh] at known
    cases known
  unfold Rtl8821ce.validate_recv_data_frame
  dsimp only
  split
  case h_1 psta checked =>
      have found : rtw_get_stainfo adapter.stapriv
          (data_frame_addresses precv_frame.rx_data precv_frame.attrib).ta = some psta := by
        split at checked
        · exact sta2sta_found checked
        · split at checked
          · exact ap2sta_found checked
          · split at checked
            · exact sta2ap_found checked
            · cases checked
      have kept := recv_decache_kept (adapter.stapriv.pstainfo_buf psta)
        (data_frame_lengths precv_frame.rx_data
          (data_frame_addresses precv_frame.rx_data precv_frame.attrib))
      split
      case h_1 record decached =>
          rw [decached] at kept
          dsimp only
          refine ⟨owned.modify_kept psta (fun _ => record) kept.2.1 kept.2.2, rfl, fun session known => ?_⟩
          dsimp only at known
          split at known
          case isFalse => cases known
          case isTrue =>
              cases known
              exact (rtw_get_stainfo_modify kept.1 _).trans found
      case h_2 => exact ⟨owned, rfl, fun session none => nomatch none⟩
  case h_2 => exact ⟨owned, rfl, unaddressed _ _⟩
  case h_3 => exact ⟨owned, rfl, unaddressed _ _⟩

theorem recvframe_chk_defrag_unfragmented {psecuritypriv : MicKeys}
    {precv_frame : RecvFrame} (more : precv_frame.attrib.mfrag = false)
    (first : precv_frame.attrib.frag_num = 0) (plain : precv_frame.attrib.encrypt ≠ ._TKIP_) :
    recvframe_chk_defrag psecuritypriv pstapriv precv_frame =
      ⟨some precv_frame, pstapriv, []⟩ := by
  simp only [recvframe_chk_defrag, chk_defrag_queue, more, first, Bool.not_false, Bool.true_and,
    decide_true, if_true, recvframe_chkmic, plain, if_false]
  split <;> rfl

theorem count_free_queue {adapter : RecvAdapter} {frames : List RecvFrame} {precvframe : Nat}
    (absent : queued frames precvframe = 0) :
    (rtw_free_recvframe_queue adapter frames).free_recv_queue.count precvframe =
        adapter.free_recv_queue.count precvframe ∧
      (rtw_free_recvframe_queue adapter frames).held = adapter.held := by
  induction frames generalizing adapter with
  | nil => exact ⟨rfl, rfl⟩
  | cons first rest ih =>
      rw [queued_cons] at absent
      have different : first.index ≠ precvframe := by
        intro same
        rw [if_pos same] at absent
        omega
      have later := @ih (rtw_free_recvframe adapter first.index)
        (by omega)
      refine ⟨later.1.trans ?_, later.2⟩
      simp only [rtw_free_recvframe, List.count_append, count_without, List.count_singleton]
      rw [if_neg (Ne.symm different), if_neg (fun same => different (beq_iff_eq.mp same)), Nat.add_zero]

theorem Owned.free_management {adapter : RecvAdapter} {hand : List Nat} {precv_frame : RecvFrame}
    (owned : Owned adapter (precv_frame.index :: hand))
    (fresh : precv_frame.preorder_ctrl = none) (plain : precv_frame.attrib.encrypt ≠ ._TKIP_)
    (notLast : ¬ precv_frame.LastFragment) (queue : precv_frame.attrib.mfrag = true ->
      defrag_station adapter.stapriv precv_frame ≠ none) :
    Owned (rtw_free_recvframe (adapter.chk_defrag precv_frame).2 precv_frame.index) hand := by
  have addressed : Addressed adapter.stapriv precv_frame := by
    intro session known
    rw [fresh] at known
    cases known
  cases more : precv_frame.attrib.mfrag with
  | false =>
      have first : precv_frame.attrib.frag_num = 0 := by
        by_contra notFirst
        exact notLast ⟨more, notFirst⟩
      rw [RecvAdapter.chk_defrag, recvframe_chk_defrag_unfragmented more first plain]
      exact owned.free
  | true =>
      rcases chk_defrag_queue_cases adapter.stapriv precv_frame with
        ⟨whole, _⟩ | ⟨noQueue, _⟩ | ⟨_, psta, stale, kept, _, parts, outcome⟩ | ⟨last, _⟩
      · rw [more] at whole
        cases whole
      · exact absurd noQueue (queue more)
      · -- the queue gives the frame up again: `rtw_list_delete` takes it out
        have queued := (owned.chk_defrag addressed).1
        have result : adapter.chk_defrag precv_frame =
            (none, rtw_free_recvframe_queue { adapter with
              stapriv := adapter.stapriv.modify psta (.set_defrag_q (kept ++ [precv_frame])) }
                stale) := by
          simp only [RecvAdapter.chk_defrag, recvframe_chk_defrag, outcome]
        rw [result] at queued ⊢
        have once := owned.once precv_frame.index
        rw [List.count_cons_self] at once
        have small : precv_frame.index < NR_RECVFRAME := by
          by_contra large
          rw [if_neg large] at once
          omega
        rw [if_pos small] at once
        have station := Custody.le_sum
          (fun other => (adapter.stapriv.pstainfo_buf other).holds precv_frame.index) psta
        simp only [RecvAdapter.places] at once
        simp only [StaInfo.holds, ← parts, queued_append] at once station
        have absent : Rtl8821ce.queued stale precv_frame.index = 0 := by omega
        rcases @count_free_queue { adapter with
          stapriv := adapter.stapriv.modify psta (.set_defrag_q (kept ++ [precv_frame])) } _ _ absent
          with ⟨free, held⟩
        refine queued.release small ?_ ?_ (by omega) (fun _ _ => rfl)
        · rw [free]
          dsimp only
          omega
        · rw [held]
          dsimp only
          omega
      · exact absurd last notLast

theorem Owned.validate_recv_ctrl_frame (owned : Owned adapter hand) (precv_frame : RecvFrame) :
    Owned (Rtl8821ce.validate_recv_ctrl_frame adapter precv_frame) hand := by
  rw [Rtl8821ce.validate_recv_ctrl_frame]
  split
  · rw [rtw_process_bar_frame]
    split
    · exact owned
    · exact owned.set_reorder_ctrl _ _ (fun frame => rfl) (Or.inr rfl)
  · exact owned

theorem Owned.validate_recv_frame {rframe : RecvFrame} (owned : Owned adapter (rframe.index :: hand))
    (fresh : rframe.preorder_ctrl = none) (plain : rframe.attrib.encrypt ≠ ._TKIP_)
    (management : ManagementUnjoined adapter rframe) :
    let validated := Rtl8821ce.validate_recv_frame adapter rframe
    (validated.1 = ._SUCCESS ∧ Owned validated.2.2 (validated.2.1.index :: hand) ∧
        Addressed validated.2.2.stapriv validated.2.1) ∨
      (validated.1 ≠ ._SUCCESS ∧
        Owned (rtw_free_recvframe validated.2.2 validated.2.1.index) hand) := by
  have failed : (RecvStatus._FAIL) ≠ ._SUCCESS := RecvStatus.noConfusion
  dsimp only
  unfold Rtl8821ce.validate_recv_frame
  dsimp only
  split
  case isTrue version => exact Or.inr ⟨failed, owned.free⟩
  case isFalse version =>
      split
      case isTrue mgnt =>
          rw [bne_iff_ne, ne_eq, not_not] at version
          rcases management ⟨version, mgnt⟩ with ⟨notLast, queue⟩
          exact Or.inr ⟨failed, @Owned.free_management _ _ { rframe with
            attrib := frame_control_attrib rframe.rx_data rframe.attrib }
              owned fresh plain notLast queue⟩
      case isFalse notMgnt =>
          split
          case isTrue ctrl => exact Or.inr ⟨failed, (owned.validate_recv_ctrl_frame _).free⟩
          case isFalse notCtrl =>
              split
              case isFalse unknown => exact Or.inr ⟨failed, owned.free⟩
              case isTrue isData =>
                  rcases owned.validate_recv_data_frame
                    { rframe with
                      attrib := { frame_control_attrib rframe.rx_data rframe.attrib with
                        qos := get_frame_sub_type rframe.rx_data &&& 0x80 != 0 } } fresh
                    with ⟨moved, index, addressed⟩
                  dsimp only
                  rw [index]
                  by_cases valid : (Rtl8821ce.validate_recv_data_frame adapter.mlmepriv
                      adapter.stapriv { rframe with
                        attrib := { frame_control_attrib rframe.rx_data rframe.attrib with
                          qos := get_frame_sub_type rframe.rx_data &&& 0x80 != 0 } }).status =
                        ._SUCCESS
                  · exact Or.inl ⟨valid, moved, addressed⟩
                  · exact Or.inr ⟨valid, moved.free⟩

theorem Owned.recv_func {adapter : RecvAdapter} {hand : List Nat} {rframe : RecvFrame}
    (owned : Owned adapter (rframe.index :: hand)) (fresh : rframe.preorder_ctrl = none)
    (plain : rframe.attrib.encrypt ≠ ._TKIP_) (management : ManagementUnjoined adapter rframe)
    (data : (Rtl8821ce.validate_recv_frame adapter rframe).1 = ._SUCCESS ->
      JoinsUnrefused (Rtl8821ce.validate_recv_frame adapter rframe).2.2
        (decryptor (Rtl8821ce.validate_recv_frame adapter rframe).2.1)) :
    Owned (Rtl8821ce.recv_func adapter rframe) hand := by
  have checked := owned.validate_recv_frame fresh plain management
  rw [Rtl8821ce.recv_func]
  split
  case h_1 valid after result =>
      rw [result] at checked data
      rcases checked with ⟨_, inHand, addressed⟩ | ⟨failed, _⟩
      · exact inHand.recv_func_posthandle addressed (data rfl)
      · exact absurd rfl failed
  case h_2 status invalid after failed result =>
      rw [result] at checked
      rcases checked with ⟨success, _⟩ | ⟨_, freed⟩
      · exact absurd success failed
      · exact freed

theorem Owned.rtw_alloc_recvframe (owned : Owned adapter []) : Owned (Rtl8821ce.rtw_alloc_recvframe adapter) [] := by
  rw [Rtl8821ce.rtw_alloc_recvframe]
  cases free : adapter.free_recv_queue with
  | nil => exact owned
  | cons precvframe rest =>
      refine ⟨fun frame => ?_, ?_, owned.never_freed_twice, owned.reachable, owned.records, owned.sessions⟩
      · have once := owned.once frame
        simp only [RecvAdapter.places, free, List.count_append, List.count_cons, List.count_nil] at once ⊢
        omega
      · have counted := owned.free_recvframe_cnt
        rw [free, List.length_cons] at counted
        dsimp only
        omega

theorem Owned.take {precvframe : Nat} (owned : Owned adapter []) (held : precvframe ∈ adapter.held) :
    Owned { adapter with held := adapter.held.erase precvframe } [precvframe] := by
  refine ⟨fun frame => ?_, owned.free_recvframe_cnt, owned.never_freed_twice, owned.reachable,
    owned.records, owned.sessions⟩
  have once := owned.once frame
  have counted := (List.perm_cons_erase held).count_eq frame
  simp only [RecvAdapter.places, List.count_cons, List.count_nil] at once counted ⊢
  omega

theorem Owned.timeout (owned : Owned adapter []) (session : Fin NUM_STA × Fin 16) (cannot_run : Bool) :
    Owned (adapter.step (.rtw_reordering_ctrl_timeout_handler session cannot_run)) [] := by
  have balance : ∀ frame,
      queued (rtw_reordering_ctrl_timeout_handler (adapter.reorder_ctrl session) cannot_run).2
          frame +
        queued (rtw_reordering_ctrl_timeout_handler (adapter.reorder_ctrl session)
          cannot_run).1.pending_recvframe_queue frame =
      queued (adapter.reorder_ctrl session).pending_recvframe_queue frame := by
    intro frame
    rw [rtw_reordering_ctrl_timeout_handler]
    cases cannot_run with
    | true => exact Nat.zero_add _
    | false =>
        have parts := recv_indicatepkts_in_order_split { adapter.reorder_ctrl session with
          reordering_ctrl_timer := false, bReorderWaiting := false } true frame
        dsimp only at parts ⊢
        rw [← parts]
        simp only [Bool.false_eq_true, if_false]
        split <;> rfl
  refine Owned.free_queue (owned.set_reorder_ctrl session _ (fun frame => ?_) ?_)
  · have balanced := balance frame
    rw [count_map_append]
    omega
  · by_cases listed : session.1 ∈ adapter.stapriv.sta_hash
    · exact Or.inl listed
    · -- a station that has been freed has nothing pending
      refine Or.inr (funext fun frame => ?_)
      have none := owned.reachable session.1 listed frame
      have pending := Custody.le_sum
        (fun tid => queued ((adapter.stapriv.pstainfo_buf session.1).recvreorder_ctrl
          tid).pending_recvframe_queue frame) session.2
      have balanced := balance frame
      simp only [StaInfo.holds] at none
      simp only [RecvAdapter.reorder_ctrl] at balanced ⊢
      omega

theorem Owned.rtw_alloc_stainfo (owned : Owned adapter []) (hwaddr : MacAddr) :
    Owned { adapter with stapriv := Rtl8821ce.rtw_alloc_stainfo adapter.stapriv hwaddr } [] := by
  rw [Rtl8821ce.rtw_alloc_stainfo]
  cases free : adapter.stapriv.free_sta_queue with
  | nil => exact owned
  | cons psta rest =>
      have records := owned.records
      rw [free] at records
      have unlisted : psta ∉ adapter.stapriv.sta_hash :=
        fun listed => (List.nodup_append.mp records).2.2 psta listed psta List.mem_cons_self rfl
      have blank : ∀ frame, (StaInfo.init hwaddr).holds frame = 0 := by
        intro frame
        exact (Nat.zero_add _).trans (Finset.sum_const_zero)
      have written := @Owned.modify _ _ [] owned psta (fun _ => .init hwaddr)
        (fun frame => by rw [blank, owned.reachable psta unlisted frame])
        (fun _ => blank) (fun prframe member => absurd member List.not_mem_nil)
      refine ⟨written.once, owned.free_recvframe_cnt, owned.never_freed_twice,
        fun other absent => ?_, ?_, written.sessions⟩
      · exact written.reachable other (fun listed => absent (List.mem_append_left _ listed))
      · dsimp only
        rw [List.append_assoc]
        exact records

theorem queued_flatMap (queues : Fin 16 -> List RecvFrame) (frame : Nat) :
    queued ((List.finRange 16).flatMap queues) frame = ∑ tid, queued (queues tid) frame := by
  rw [queued, List.map_flatMap, List.count_flatMap, Fin.sum_univ_def]
  rfl

theorem Owned.rtw_free_stainfo (owned : Owned adapter [])
    {psta : Fin NUM_STA} (listed : psta ∈ adapter.stapriv.sta_hash)
    (empty : (adapter.stapriv.pstainfo_buf psta).defrag_q = []) :
    Owned (rtw_free_recvframe_queue
      { adapter with stapriv := (Rtl8821ce.rtw_free_stainfo adapter.stapriv psta).1 }
      (Rtl8821ce.rtw_free_stainfo adapter.stapriv psta).2) [] := by
  have blank : ∀ frame,
      (adapter.stapriv.pstainfo_buf psta).drain_reorder.holds frame = 0 := by
    intro frame
    simp only [StaInfo.holds, StaInfo.drain_reorder, empty, queued_nil, Finset.sum_const_zero, Nat.add_zero]
  have written := @Owned.modify _ _
    ((Rtl8821ce.rtw_free_stainfo adapter.stapriv psta).2.map RecvFrame.index ++ []) owned psta
    .drain_reorder (fun frame => ?_) (fun unlisted => absurd listed unlisted)
    (owned.sessions psta)
  case refine_1 =>
      rw [blank, count_map_append, Rtl8821ce.rtw_free_stainfo, queued_flatMap, StaInfo.holds, empty, queued_nil]
      omega
  refine Owned.free_queue ⟨written.once, owned.free_recvframe_cnt, owned.never_freed_twice,
    fun other absent frame => ?_, ?_, written.sessions⟩
  · by_cases same : other = psta
    · have drain := blank frame
      rw [← same] at drain
      simp only [Rtl8821ce.rtw_free_stainfo, same, Function.update_self] at drain ⊢
      exact drain
    · exact written.reachable other
        (fun still => absent ((List.mem_erase_of_ne same).mpr still)) frame
  · have moved : (adapter.stapriv.sta_hash ++ adapter.stapriv.free_sta_queue).Perm
        (adapter.stapriv.sta_hash.erase psta ++ (adapter.stapriv.free_sta_queue ++ [psta])) := by
      refine ((List.perm_cons_erase listed).append_right _).trans ?_
      rw [← List.append_assoc]
      exact (List.perm_append_singleton psta _).symm
    exact moved.nodup_iff.mp owned.records

theorem Owned.step {event : RecvEvent} (keeps : KeepsTrack adapter event) (owned : Owned adapter []) :
    Owned (adapter.step event) [] := by
  cases event with
  | rtw_alloc_recvframe => exact owned.rtw_alloc_recvframe
  | rtw_free_recvframe precvframe =>
      rw [RecvAdapter.step]
      split
      case isTrue held => exact (owned.take held).free
      case isFalse => exact owned
  | recv_func precvframe rx_data tailroom =>
      rw [RecvAdapter.step]
      split
      case isTrue held =>
          rcases keeps held with ⟨management, data⟩
          exact @Owned.recv_func _ _ (.arriving precvframe rx_data tailroom)
            (owned.take held) rfl (fun tkip => nomatch tkip) management data
      case isFalse => exact owned
  | rtw_reordering_ctrl_timeout_handler session cannot_run =>
      exact owned.timeout session cannot_run
  | rtw_alloc_stainfo hwaddr => exact owned.rtw_alloc_stainfo hwaddr
  | rtw_free_stainfo psta =>
      rw [RecvAdapter.step]
      split
      case isTrue listed => exact owned.rtw_free_stainfo listed (keeps listed)
      case isFalse => exact owned
  | add_ba_rsp_hdl addr tid status =>
      rw [RecvAdapter.step, Rtl8821ce.add_ba_rsp_hdl]
      split
      · exact owned
      · exact owned.set_reorder_ctrl _ _ (fun frame => rfl) (Or.inr rfl)
  | mlme_update mlmepriv psta ieee8021x_blocked =>
      have kept := owned.modify_kept psta (.set_blocked ieee8021x_blocked) rfl rfl
      exact ⟨kept.once, kept.free_recvframe_cnt, kept.never_freed_twice, kept.reachable,
        kept.records, kept.sessions⟩

theorem owned_initial (mlmepriv : MlmePriv) (micKeys : MicKeys) :
    Owned (_rtw_init_recv_priv mlmepriv micKeys) [] := by
  have blank : ∀ psta frame, ((_rtw_init_recv_priv mlmepriv micKeys).stapriv.pstainfo_buf
      psta).holds frame = 0 := by
    intro psta frame
    exact (Nat.zero_add _).trans Finset.sum_const_zero
  refine ⟨fun frame => ?_, ?_, rfl, fun psta _ => blank psta,
    List.nodup_finRange NUM_STA, fun psta prframe member => nomatch member⟩
  case refine_2 => simp only [_rtw_init_recv_priv, List.length_range]
  have once : (List.range NR_RECVFRAME).count frame =
      if frame ∈ List.range NR_RECVFRAME then 1 else 0 := List.nodup_range.count
  simp only [List.mem_range] at once
  simp only [RecvAdapter.places, blank, Finset.sum_const_zero, List.count_nil, Nat.add_zero]
  exact once

/-- As long as every step keeps track of its frames, they are conserved. -/
theorem recv_run_conserved (mlmepriv : MlmePriv) (micKeys : MicKeys) (events : List RecvEvent)
    (keeps : Run.Guarded RecvAdapter.step KeepsTrack (_rtw_init_recv_priv mlmepriv micKeys)
      events) :
    Conserved (Run.execute RecvAdapter.step (_rtw_init_recv_priv mlmepriv micKeys) events) :=
  (@Run.Guarded.invariant _ _ _ _ (fun adapter => Owned adapter [])
    (fun _ _ meets owned => owned.step meets) _ _ keeps (owned_initial mlmepriv micKeys)).conserved

def MlmePriv.accessPoint : MlmePriv where
  adhoc_state := false
  station_state := false
  ap_state := true
  fw_linked := true
  bssid := .ofByte 0xaa
  adapter_mac_addr := .ofByte 0xaa
  dot11AuthAlgrthm_8021X := false

def toAccessPoint (frag_num : UInt8) (mfrag : Bool) (payload : List UInt8) : List UInt8 :=
  [0x08, if mfrag then 0x05 else 0x01, 0, 0] ++ (MacAddr.ofByte 0xaa).bytes ++
    (MacAddr.ofByte 1).bytes ++ (MacAddr.ofByte 0xaa).bytes ++ [0x10 + frag_num, 0x00] ++ payload

/-- A station associates, sends two fragments of one MSDU, and leaves. -/
def twoFragmentsReceived : List RecvEvent :=
  [.rtw_alloc_stainfo bc_addr, .rtw_alloc_stainfo (.ofByte 1),
    .rtw_alloc_recvframe, .recv_func 0 (toAccessPoint 0 true [10, 11]) 1600,
    .rtw_alloc_recvframe, .recv_func 1 (toAccessPoint 1 false [12]) 14, .rtw_free_stainfo ⟨1, one_lt_NUM_STA⟩]

/-- Both frames are back in the free queue, the last fragment first. -/
theorem recv_run_twoFragments :
    (Run.execute RecvAdapter.step (_rtw_init_recv_priv .accessPoint ⟨false, fun _ => []⟩)
        twoFragmentsReceived).free_recv_queue = List.range' 2 254 ++ [1, 0] ∧
      Conserved (Run.execute RecvAdapter.step
        (_rtw_init_recv_priv .accessPoint ⟨false, fun _ => []⟩) twoFragmentsReceived) :=
  ⟨by decide +kernel,
    recv_run_conserved .accessPoint ⟨false, fun _ => []⟩ twoFragmentsReceived (by decide +kernel)⟩

/-- An action frame that says it is the last of several fragments. -/
def lastActionFragment : List RecvEvent :=
  [.rtw_alloc_stainfo bc_addr, .rtw_alloc_recvframe,
    .recv_func 0 ([0xd0, 0x00] ++ List.replicate 20 0 ++ [0x11, 0x00]) 0]

/-- It is freed twice, and the counter counts one frame too many. -/
theorem recv_run_frees_management_twice :
    ¬ Conserved (Run.execute RecvAdapter.step
      (_rtw_init_recv_priv .accessPoint ⟨false, fun _ => []⟩) lastActionFragment) := by
  intro conserved
  have counted := conserved.free_recvframe_cnt
  revert counted
  decide +kernel

end Rtl8821ce
