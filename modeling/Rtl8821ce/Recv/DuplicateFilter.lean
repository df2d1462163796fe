import Rtl8821ce.Library.LastSeen
import Rtl8821ce.Recv.Validate

/-!
# The duplicate filter

`recv_decache` keeps one sequence control word for each stream of a station.  The words of
the QoS streams start at `0xffff`, so that a first frame with the sequence number 0 passes;
those of the other two streams start at 0.
-/

namespace Rtl8821ce

/-- Frames with one counter: the TID of a QoS frame, and whether it goes to a group. -/
structure RxStream where
  tid : Option (Fin 16)
  bmc : Bool
deriving DecidableEq

namespace RxPktAttrib

def rx_stream (pattrib : RxPktAttrib) : RxStream where
  tid := if pattrib.qos then some pattrib.priority else none
  bmc := IS_MCAST pattrib.ra

def seq_ctrl (pattrib : RxPktAttrib) : Nat := 16 * pattrib.seq_num.val + pattrib.frag_num.val

theorem seq_ctrl_eq_iff (first second : RxPktAttrib) :
    first.seq_ctrl = second.seq_ctrl <->
      first.seq_num = second.seq_num ∧ first.frag_num = second.frag_num := by
  have low := first.frag_num.isLt
  have low' := second.frag_num.isLt
  simp only [seq_ctrl, Fin.ext_iff]
  omega

end RxPktAttrib

def StaInfo.rxseq (psta : StaInfo) (stream : RxStream) : Nat :=
  match stream.tid, stream.bmc with
  | some tid, true => psta.bmc_tid_rxseq tid
  | some tid, false => psta.tid_rxseq tid
  | none, true => psta.nonqos_bmc_rxseq
  | none, false => psta.nonqos_rxseq

def RxStream.initial (stream : RxStream) : Nat := if stream.tid = none then 0 else 0xffff

theorem rxseq_init (hwaddr : MacAddr) : (StaInfo.init hwaddr).rxseq = RxStream.initial := by
  funext stream
  rcases stream with ⟨none | tid, _ | _⟩ <;> rfl

theorem recv_decache_of_eq {psta : StaInfo} {pattrib : RxPktAttrib}
    (same : pattrib.seq_ctrl = psta.rxseq pattrib.rx_stream) : recv_decache psta pattrib = (._FAIL, psta) := by
  unfold recv_decache
  unfold RxPktAttrib.rx_stream StaInfo.rxseq at same
  cases qos : pattrib.qos <;> cases bmc : IS_MCAST pattrib.ra <;>
    simp only [qos, bmc, if_true, Bool.false_eq_true, if_false] at same ⊢ <;>
    exact if_pos same

theorem recv_decache_of_ne {psta : StaInfo} {pattrib : RxPktAttrib}
    (other : pattrib.seq_ctrl ≠ psta.rxseq pattrib.rx_stream) :
    (recv_decache psta pattrib).1 = ._SUCCESS ∧
      (recv_decache psta pattrib).2.rxseq =
        Function.update psta.rxseq pattrib.rx_stream pattrib.seq_ctrl := by
  have passed : exists psta', recv_decache psta pattrib = (._SUCCESS, psta') ∧
      psta'.rxseq = Function.update psta.rxseq pattrib.rx_stream pattrib.seq_ctrl := by
    unfold recv_decache
    unfold RxPktAttrib.rx_stream StaInfo.rxseq at other
    unfold RxPktAttrib.rx_stream
    cases qos : pattrib.qos <;> cases bmc : IS_MCAST pattrib.ra <;>
      simp only [qos, bmc, if_true, Bool.false_eq_true, if_false] at other ⊢ <;>
      refine ⟨_, if_neg other, funext fun stream => ?_⟩ <;>
      rcases stream with ⟨none | tid, _ | _⟩ <;>
      simp [StaInfo.rxseq, Function.update_apply, RxPktAttrib.seq_ctrl]
  obtain ⟨psta', result, words⟩ := passed
  rw [result]
  exact ⟨rfl, words⟩

/-- A station and the frames that were accepted from it, newest first. -/
structure RxHistory where
  psta : StaInfo
  accepted : List RxPktAttrib

def RxHistory.receive (s : RxHistory) (pattrib : RxPktAttrib) : RxHistory :=
  match recv_decache s.psta pattrib with
  | (._SUCCESS, psta) => ⟨psta, pattrib :: s.accepted⟩
  | (_, psta) => ⟨psta, s.accepted⟩

def RxHistory.previous (s : RxHistory) (stream : RxStream) : Option RxPktAttrib :=
  s.accepted.find? fun pattrib => decide (pattrib.rx_stream = stream)

/-- A frame is rejected exactly when it has the numbers of the one before it. -/
def RxHistory.Sound (s : RxHistory) (pattrib : RxPktAttrib) : Prop :=
  (recv_decache s.psta pattrib).1 = ._FAIL <->
    exists last, s.previous pattrib.rx_stream = some last ∧ last.seq_num = pattrib.seq_num ∧
      last.frag_num = pattrib.frag_num

def RxPktAttrib.offer (pattrib : RxPktAttrib) : RxStream × Nat := (pattrib.rx_stream, pattrib.seq_ctrl)

def RxHistory.abstract (s : RxHistory) : LastSeen.History RxStream Nat where
  cells := s.psta.rxseq
  accepted := s.accepted.map RxPktAttrib.offer

theorem receive_abstract (s : RxHistory) (pattrib : RxPktAttrib) :
    (s.receive pattrib).abstract = s.abstract.step pattrib.offer := by
  unfold RxHistory.receive LastSeen.History.step LastSeen.History.rejects
  by_cases same : pattrib.seq_ctrl = s.psta.rxseq pattrib.rx_stream
  · have rejected : decide (pattrib.offer.2 = s.abstract.cells pattrib.offer.1) = true := decide_eq_true same
    rw [recv_decache_of_eq same, if_pos rejected]
  · have accepted : ¬decide (pattrib.offer.2 = s.abstract.cells pattrib.offer.1) = true := by
      rw [decide_eq_true_eq]
      exact same
    obtain ⟨success, words⟩ := recv_decache_of_ne same
    cases result : recv_decache s.psta pattrib with
    | mk status psta =>
        rw [result] at success words
        cases success
        rw [if_neg accepted]
        exact congrArg (fun cells => (⟨cells, _⟩ : LastSeen.History RxStream Nat)) words

theorem previous_abstract (s : RxHistory) (stream : RxStream) :
    LastSeen.previous s.abstract.accepted stream =
      (s.previous stream).map RxPktAttrib.seq_ctrl := by
  simp only [LastSeen.previous, RxHistory.abstract, RxHistory.previous, List.find?_map, Option.map_map]
  rfl

theorem sound_iff_right (s : RxHistory) (pattrib : RxPktAttrib) :
    s.Sound pattrib <-> s.abstract.Right pattrib.offer := by
  have status : (recv_decache s.psta pattrib).1 = ._FAIL <->
      pattrib.seq_ctrl = s.psta.rxseq pattrib.rx_stream := by
    by_cases same : pattrib.seq_ctrl = s.psta.rxseq pattrib.rx_stream
    · exact iff_of_true (congrArg Prod.fst (recv_decache_of_eq same)) same
    · rw [(recv_decache_of_ne same).1]
      exact iff_of_false nofun same
  have last : (exists last, s.previous pattrib.rx_stream = some last ∧
      last.seq_num = pattrib.seq_num ∧ last.frag_num = pattrib.frag_num) <->
      (s.previous pattrib.rx_stream).map RxPktAttrib.seq_ctrl = some pattrib.seq_ctrl := by
    rw [Option.map_eq_some_iff]
    simp only [RxPktAttrib.seq_ctrl_eq_iff]
  unfold RxHistory.Sound LastSeen.History.Right LastSeen.History.rejects
  rw [status, last, decide_eq_true_eq, previous_abstract]
  exact Iff.rfl

theorem guarded_sound_iff (s : RxHistory) (frames : List RxPktAttrib) :
    Run.Guarded RxHistory.receive RxHistory.Sound s frames <->
      Run.Guarded LastSeen.History.step LastSeen.History.Right s.abstract
        (frames.map RxPktAttrib.offer) := by
  induction frames generalizing s with
  | nil => exact Iff.rfl
  | cons pattrib rest ih =>
      have later := ih (s.receive pattrib)
      rw [receive_abstract] at later
      exact and_congr (sound_iff_right s pattrib) later

/-- No stream begins with the numbers that a new record holds already: sequence and fragment
number 0 without QoS, 4095 and 15 with QoS. -/
def GoodFirstFrames (frames : List RxPktAttrib) : Prop :=
  ∀ before pattrib after, frames = before ++ pattrib :: after ->
    (∀ earlier ∈ before, earlier.rx_stream ≠ pattrib.rx_stream) ->
      if pattrib.qos then ¬(pattrib.seq_num = 4095 ∧ pattrib.frag_num = 15)
      else ¬(pattrib.seq_num = 0 ∧ pattrib.frag_num = 0)

theorem seq_ctrl_ne_initial (pattrib : RxPktAttrib) :
    pattrib.seq_ctrl ≠ pattrib.rx_stream.initial <->
      if pattrib.qos then ¬(pattrib.seq_num = 4095 ∧ pattrib.frag_num = 15)
      else ¬(pattrib.seq_num = 0 ∧ pattrib.frag_num = 0) := by
  have low := pattrib.frag_num.isLt
  have high := pattrib.seq_num.isLt
  unfold RxStream.initial RxPktAttrib.rx_stream RxPktAttrib.seq_ctrl
  cases qos : pattrib.qos
  · simp only [Bool.false_eq_true, if_false, if_true, Fin.ext_iff]
    simp only [Fin.val_zero]
    omega
  · simp only [if_true, reduceCtorEq, if_false, Fin.ext_iff]
    show _ <-> ¬(pattrib.seq_num.val = 4095 ∧ pattrib.frag_num.val = 15)
    omega

theorem goodStart_iff (frames : List RxPktAttrib) :
    LastSeen.GoodStart RxStream.initial (frames.map RxPktAttrib.offer) <-> GoodFirstFrames frames := by
  constructor
  · intro good before pattrib after split first
    rw [← seq_ctrl_ne_initial]
    refine good (before.map RxPktAttrib.offer) pattrib.offer (after.map RxPktAttrib.offer) ?_ ?_
    · rw [split, List.map_append, List.map_cons]
    · intro earlier member
      obtain ⟨frame, inside, rfl⟩ := List.mem_map.mp member
      exact first frame inside
  · intro good before offered after split first
    obtain ⟨before', rest, rfl, rfl, rest_eq⟩ := List.map_eq_append_iff.mp split
    obtain ⟨pattrib, after', rfl, rfl, rfl⟩ := List.map_eq_cons_iff.mp rest_eq
    rw [RxPktAttrib.offer, ne_eq]
    refine (seq_ctrl_ne_initial pattrib).mpr (good before' pattrib after' rfl ?_)
    intro earlier member
    exact first earlier.offer (List.mem_map_of_mem member)

/-- The filter is sound for all frames of a station exactly when no stream begins with the
numbers of a new record. -/
theorem recv_decache_sound_iff (pstapriv : StaPriv) (hwaddr : MacAddr) (psta : Fin NUM_STA)
    (rest : List (Fin NUM_STA)) (free : pstapriv.free_sta_queue = psta :: rest) (frames : List RxPktAttrib) :
    Run.Guarded RxHistory.receive RxHistory.Sound
        ⟨(rtw_alloc_stainfo pstapriv hwaddr).pstainfo_buf psta, []⟩ frames <->
      GoodFirstFrames frames := by
  have fresh : (rtw_alloc_stainfo pstapriv hwaddr).pstainfo_buf psta = .init hwaddr := by
    simp only [rtw_alloc_stainfo, free]
    exact Function.update_self _ _ _
  rw [fresh, guarded_sound_iff, ← goodStart_iff, ← LastSeen.guarded_right_iff_goodStart]
  unfold RxHistory.abstract
  rw [rxseq_init]
  rfl

def first_record : Fin NUM_STA := ⟨0, zero_lt_NUM_STA⟩

/-- A first QoS frame with the sequence number 0 passes, and its copy does not. -/
theorem recv_decache_sound_iff_qos :
    Run.Guarded RxHistory.receive RxHistory.Sound
      ⟨(rtw_alloc_stainfo _rtw_init_sta_priv bc_addr).pstainfo_buf first_record, []⟩
      [{ RxPktAttrib.zero with qos := true }, { RxPktAttrib.zero with qos := true }] := by
  have free : _rtw_init_sta_priv.free_sta_queue = first_record :: (List.finRange NUM_STA).tail := rfl
  refine (recv_decache_sound_iff _rtw_init_sta_priv bc_addr first_record _ free _).mpr ?_
  intro before pattrib after split first
  have member : pattrib ∈ [{ RxPktAttrib.zero with qos := true }, { RxPktAttrib.zero with qos := true }] := by
    rw [split]
    exact List.mem_append_right _ List.mem_cons_self
  have same : pattrib = { RxPktAttrib.zero with qos := true } := by simpa using member
  rw [same]
  decide

/-- A first frame without QoS and with the sequence number 0 is dropped. -/
theorem recv_decache_drops_first :
    let s : RxHistory := ⟨(rtw_alloc_stainfo _rtw_init_sta_priv bc_addr).pstainfo_buf first_record, []⟩
    (recv_decache s.psta .zero).1 = ._FAIL ∧ ¬s.Sound .zero := by
  intro s
  have dropped : (recv_decache s.psta .zero).1 = ._FAIL := rfl
  refine ⟨dropped, fun sound => ?_⟩
  obtain ⟨last, seen, -⟩ := sound.mp dropped
  exact nomatch seen

end Rtl8821ce
