import Rtl8821ce.Library.Run
import Rtl8821ce.Recv.Defrag

/-!
# Whole runs of defragmentation

A run is any sequence of received frames, with stations coming and going in
between.  Its state keeps the frames received so far, and each frame returned
for a last fragment together with that fragment.

The invariant needs no condition: a queue holds frames that were received, in
the order in which they were received.  What is returned is then a
concatenation of received fragments numbered from zero.  That they belong to
one transmitter and one sequence number is not checked by the code; it is the
condition under which no two MSDUs are mixed.
-/

namespace Rtl8821ce

variable {pstapriv : StaPriv} {received : List RecvFrame}

/-- What can happen between two states. -/
inductive DefragEvent
  | recvframe_chk_defrag (precv_frame : RecvFrame)
  | rtw_alloc_stainfo (hwaddr : MacAddr)
  | rtw_free_stainfo (psta : Fin NUM_STA)

/-- The stations with the history of the fragments. -/
structure DefragRun where
  pstapriv : StaPriv
  received : List RecvFrame
  returned : List (RecvFrame × RecvFrame)

def RecvFrame.LastFragment (precv_frame : RecvFrame) : Prop :=
  precv_frame.attrib.mfrag = false ∧ precv_frame.attrib.frag_num ≠ 0

instance (precv_frame : RecvFrame) : Decidable precv_frame.LastFragment :=
  inferInstanceAs (Decidable (_ ∧ _))

/-- One operation.  Only a station in the hash table can be freed. -/
def DefragRun.step (psecuritypriv : MicKeys) (run : DefragRun) : DefragEvent -> DefragRun
  | .recvframe_chk_defrag precv_frame =>
      let outcome := recvframe_chk_defrag psecuritypriv run.pstapriv precv_frame
      { pstapriv := outcome.pstapriv
        received := run.received ++ [precv_frame]
        returned :=
          match outcome.prtnframe with
          | some prtnframe =>
              if precv_frame.LastFragment then run.returned ++ [(precv_frame, prtnframe)]
              else run.returned
          | none => run.returned }
  | .rtw_alloc_stainfo hwaddr =>
      { run with pstapriv := rtw_alloc_stainfo run.pstapriv hwaddr }
  | .rtw_free_stainfo psta =>
      if psta ∈ run.pstapriv.sta_hash then
        { run with pstapriv := (rtw_free_stainfo run.pstapriv psta).1 }
      else run

/-- The returned frame carries one MSDU: the payloads, in order, of fragments
0, 1, ..., n that were received from one transmitter with one sequence number,
the last of them `last`.  For a TKIP frame the Michael code has been checked
and cut off the end. -/
def OneMsdu (received : List RecvFrame) (last prtnframe : RecvFrame) : Prop :=
  ∃ fragments : List RecvFrame,
    fragments.getLast? = some last ∧ fragments.Sublist received ∧ Numbered fragments ∧
      (∀ fragment ∈ fragments,
        fragment.transmitter = last.transmitter ∧
          fragment.attrib.seq_num = last.attrib.seq_num) ∧
      ∃ michael, MichaelOf prtnframe michael ∧
        prtnframe.body ++ michael = msdu fragments

def NeverMixes (run : DefragRun) : Prop :=
  ∀ entry ∈ run.returned, OneMsdu run.received entry.1 entry.2

/-- The queue to which a last fragment is appended, with it. -/
def fragments_with (pstapriv : StaPriv) (precv_frame : RecvFrame) : List RecvFrame :=
  match defrag_station pstapriv precv_frame with
  | none => [precv_frame]
  | some psta => (pstapriv.pstainfo_buf psta).defrag_q ++ [precv_frame]

/-- A last fragment that completes a series of numbers completes a series of
its own transmitter and sequence number, of whole frames, that fits into the
buffer of the first. -/
def CompletesOwnSeries (run : DefragRun) : DefragEvent -> Prop
  | .recvframe_chk_defrag precv_frame =>
      let fragments := fragments_with run.pstapriv precv_frame
      precv_frame.LastFragment -> Numbered fragments ->
        (∀ fragment ∈ fragments,
          fragment.transmitter = precv_frame.transmitter ∧
            fragment.attrib.seq_num = precv_frame.attrib.seq_num) ∧
          (∀ fragment ∈ fragments, fragment.Whole) ∧ FitsFirst fragments
  | .rtw_alloc_stainfo _ => True
  | .rtw_free_stainfo _ => True

instance (event : DefragEvent) (run : DefragRun) : Decidable (CompletesOwnSeries run event) :=
  match event with
  | .recvframe_chk_defrag _ => inferInstanceAs (Decidable (_ -> _))
  | .rtw_alloc_stainfo _ => inferInstanceAs (Decidable True)
  | .rtw_free_stainfo _ => inferInstanceAs (Decidable True)

/-- Every queue is a part of the received frames, in their order. -/
def QueuesReceived (pstapriv : StaPriv) (received : List RecvFrame) : Prop :=
  ∀ psta, (pstapriv.pstainfo_buf psta).defrag_q.Sublist received

theorem QueuesReceived.modify {pstapriv : StaPriv} {received : List RecvFrame}
    (queues : QueuesReceived pstapriv received) (psta : Fin NUM_STA) {queue : List RecvFrame}
    (part : queue.Sublist received) : QueuesReceived (pstapriv.modify psta (.set_defrag_q queue)) received := by
  intro other
  by_cases same : other = psta
  · rw [same, StaPriv.modify_same]
    exact part
  · rw [StaPriv.modify_of_ne _ same]
    exact queues other

theorem QueuesReceived.receive (queues : QueuesReceived pstapriv received) (precv_frame : RecvFrame) :
    QueuesReceived pstapriv (received ++ [precv_frame]) :=
  fun psta => (queues psta).trans (List.sublist_append_left _ _)

theorem QueuesReceived.alloc (queues : QueuesReceived pstapriv received) (hwaddr : MacAddr) :
    QueuesReceived (rtw_alloc_stainfo pstapriv hwaddr) received := by
  intro other
  rw [rtw_alloc_stainfo]
  cases pstapriv.free_sta_queue with
  | nil => exact queues other
  | cons psta rest =>
      by_cases same : other = psta
      · simp only [same, Function.update_self]
        exact List.nil_sublist _
      · simp only [Function.update_of_ne same]
        exact queues other

theorem QueuesReceived.free (queues : QueuesReceived pstapriv received) (psta : Fin NUM_STA) :
    QueuesReceived (rtw_free_stainfo pstapriv psta).1 received := by
  intro other
  by_cases same : other = psta
  · simp only [rtw_free_stainfo, same, Function.update_self]
    exact queues psta
  · simp only [rtw_free_stainfo, Function.update_of_ne same]
    exact queues other

theorem recvframe_chk_defrag_pstapriv (psecuritypriv : MicKeys) (pstapriv : StaPriv) (precv_frame : RecvFrame) :
    (recvframe_chk_defrag psecuritypriv pstapriv precv_frame).pstapriv =
      (chk_defrag_queue pstapriv precv_frame).pstapriv := by
  rw [recvframe_chk_defrag]
  dsimp only
  split
  · rfl
  · split
    · split <;> rfl
    · rfl

theorem QueuesReceived.chk_defrag {pstapriv : StaPriv} {received : List RecvFrame}
    (queues : QueuesReceived pstapriv received) (psecuritypriv : MicKeys) (precv_frame : RecvFrame) :
    QueuesReceived (recvframe_chk_defrag psecuritypriv pstapriv precv_frame).pstapriv
      (received ++ [precv_frame]) := by
  have kept := queues.receive precv_frame
  rw [recvframe_chk_defrag_pstapriv, chk_defrag_queue]
  dsimp only
  split
  · exact kept
  · cases defrag_station pstapriv precv_frame with
    | none => exact kept
    | some psta =>
        dsimp only
        split
        · refine kept.modify psta (List.Sublist.append ?_ (List.Sublist.refl _))
          split
          · exact List.nil_sublist _
          · exact queues psta
        · exact kept.modify psta (List.nil_sublist _)

theorem chk_defrag_queue_last {precv_frame : RecvFrame} (last : precv_frame.LastFragment) :
    (chk_defrag_queue pstapriv precv_frame).prtnframe =
      (recvframe_defrag (fragments_with pstapriv precv_frame)).prtnframe := by
  rcases last with ⟨noMore, notFirst⟩
  simp only [chk_defrag_queue, fragments_with, noMore, notFirst, Bool.not_false, Bool.true_and,
    decide_false, Bool.false_eq_true, if_false]
  cases defrag_station pstapriv precv_frame with
  | none =>
      simp only [recvframe_defrag, ne_eq, notFirst, not_false_eq_true, if_true]
  | some psta => rfl

/-- A frame returned for a last fragment is what the queue with that fragment
was joined to, perhaps without its code. -/
theorem recvframe_chk_defrag_last {psecuritypriv : MicKeys}
    {precv_frame prtnframe : RecvFrame} (last : precv_frame.LastFragment)
    (returns : (recvframe_chk_defrag psecuritypriv pstapriv precv_frame).prtnframe =
      some prtnframe) :
    ∃ joined,
      (recvframe_defrag (fragments_with pstapriv precv_frame)).prtnframe = some joined ∧
        ∃ michael, MichaelOf prtnframe michael ∧
          prtnframe.body ++ michael = joined.body := by
  rw [recvframe_chk_defrag, chk_defrag_queue_last last] at returns
  dsimp only at returns
  split at returns
  case h_1 nothing =>
      rw [chk_defrag_queue_last last, nothing] at returns
      cases returns
  case h_2 joined joins =>
      refine ⟨joined, joins, ?_⟩
      split at returns
      case isFalse plain =>
          rw [chk_defrag_queue_last last, joins] at returns
          cases returns
          exact ⟨[], Or.inl rfl, List.append_nil _⟩
      case isTrue secret =>
          have checked := recvframe_chkmic_body psecuritypriv
            ((rtw_get_stainfo (chk_defrag_queue pstapriv precv_frame).pstapriv
              joined.attrib.ta).map
                (chk_defrag_queue pstapriv precv_frame).pstapriv.pstainfo_buf) secret
          split at returns
          case h_1 => cases returns
          case h_2 status out _ result =>
              cases returns
              rw [result] at checked
              exact checked

theorem QueuesReceived.fragments_with (queues : QueuesReceived pstapriv received) (precv_frame : RecvFrame) :
    (Rtl8821ce.fragments_with pstapriv precv_frame).Sublist (received ++ [precv_frame]) := by
  rw [Rtl8821ce.fragments_with]
  cases defrag_station pstapriv precv_frame with
  | none => exact List.sublist_append_right _ _
  | some psta => exact (queues psta).append (List.Sublist.refl _)

theorem getLast_fragments_with (pstapriv : StaPriv) (precv_frame : RecvFrame) :
    (fragments_with pstapriv precv_frame).getLast? = some precv_frame := by
  rw [fragments_with]
  cases defrag_station pstapriv precv_frame with
  | none => rfl
  | some psta => exact List.getLast?_concat

theorem OneMsdu.receive {last prtnframe : RecvFrame}
    (single : OneMsdu received last prtnframe) (precv_frame : RecvFrame) :
    OneMsdu (received ++ [precv_frame]) last prtnframe := by
  rcases single with ⟨fragments, isLast, part, rest⟩
  exact ⟨fragments, isLast, part.trans (List.sublist_append_left _ _), rest⟩

/-- The invariant of a run. -/
structure DefragRun.Sound (run : DefragRun) : Prop where
  queues : QueuesReceived run.pstapriv run.received
  single : NeverMixes run

theorem DefragRun.Sound.step (psecuritypriv : MicKeys) {run : DefragRun} {event : DefragEvent}
    (own : CompletesOwnSeries run event) (sound : run.Sound) : (run.step psecuritypriv event).Sound := by
  cases event with
  | rtw_alloc_stainfo hwaddr => exact ⟨sound.queues.alloc hwaddr, sound.single⟩
  | rtw_free_stainfo psta =>
      rw [DefragRun.step]
      split
      · exact ⟨sound.queues.free psta, sound.single⟩
      · exact sound
  | recvframe_chk_defrag precv_frame =>
      refine ⟨sound.queues.chk_defrag psecuritypriv precv_frame, ?_⟩
      have earlier : ∀ entry ∈ run.returned,
          OneMsdu (run.received ++ [precv_frame]) entry.1 entry.2 :=
        fun entry member => (sound.single entry member).receive precv_frame
      simp only [NeverMixes, DefragRun.step]
      split
      case h_2 nothing => exact earlier
      case h_1 prtnframe returns =>
          split
          case isFalse notLast => exact earlier
          case isTrue last =>
              rcases recvframe_chk_defrag_last last returns with ⟨joined, joins, michael, code, cut⟩
              have numbered := recvframe_defrag_numbered joins
              rcases own last numbered with ⟨same, whole, fits⟩
              intro entry member
              rcases List.mem_append.mp member with old | new
              · exact earlier entry old
              · rw [List.mem_singleton.mp new]
                exact ⟨fragments_with run.pstapriv precv_frame, getLast_fragments_with _ _,
                  sound.queues.fragments_with precv_frame, numbered, same, michael, code,
                  cut.trans (recvframe_defrag_msdu whole fits joins)⟩

/-- The run before the first frame, with any stations whose queues are empty. -/
def DefragRun.start (pstapriv : StaPriv) : DefragRun := ⟨pstapriv, [], []⟩

/-- As long as each last fragment that completes a series of numbers completes
its own, no two MSDUs are mixed. -/
theorem defrag_run_neverMixes (psecuritypriv : MicKeys) (pstapriv : StaPriv) (events : List DefragEvent)
    (empty : ∀ psta, (pstapriv.pstainfo_buf psta).defrag_q = [])
    (own : Run.Guarded (DefragRun.step psecuritypriv) CompletesOwnSeries (.start pstapriv) events) :
    NeverMixes (Run.execute (DefragRun.step psecuritypriv) (.start pstapriv) events) := by
  have sound : (DefragRun.start pstapriv).Sound := by
    refine ⟨fun psta => ?_, fun entry member => nomatch member⟩
    rw [DefragRun.start, empty psta]
  exact (@Run.Guarded.invariant _ _ _ _ DefragRun.Sound
    (fun _ _ meets old => old.step psecuritypriv meets) _ _ own sound).single

/-- A plain data fragment behind a 24-byte header, in a buffer of 1650 bytes. -/
def RecvFrame.ofFragment (index : Nat) (ta : MacAddr) (seq_num : Fin 4096) (frag_num : Fin 16)
    (mfrag : Bool) (payload : List UInt8) : RecvFrame where
  index := index
  attrib := { RxPktAttrib.zero with
    hdrlen := 24, ta := ta, seq_num := seq_num, frag_num := frag_num, mfrag := mfrag }
  rx_data := [0x08, if mfrag then 0x04 else 0x00, 0, 0] ++ List.replicate 6 0 ++ ta.bytes ++
    List.replicate 6 0 ++
      [UInt8.ofNat (16 * seq_num.val + frag_num.val), UInt8.ofNat (seq_num.val / 16)] ++ payload
  tailroom := 1626 - payload.length

def MacAddr.ofByte (byte : UInt8) : MacAddr := ⟨[0, 1, 2, 3, 4, byte], rfl⟩

/-- Two fragments of one MSDU, with a frame of another station in between. -/
def twoFragments : List DefragEvent :=
  [.rtw_alloc_stainfo (.ofByte 1), .rtw_alloc_stainfo (.ofByte 2),
    .recvframe_chk_defrag (.ofFragment 0 (.ofByte 1) 7 0 true [10, 11]),
    .recvframe_chk_defrag (.ofFragment 1 (.ofByte 2) 7 1 false [20]),
    .recvframe_chk_defrag (.ofFragment 2 (.ofByte 1) 7 1 false [12])]

/-- They are joined, and nothing else is. -/
theorem defrag_run_twoFragments :
    (Run.execute (DefragRun.step ⟨false, fun _ => []⟩) (.start _rtw_init_sta_priv)
        twoFragments).returned.map (fun entry => entry.2.body) = [[10, 11, 12]] ∧
      NeverMixes (Run.execute (DefragRun.step ⟨false, fun _ => []⟩) (.start _rtw_init_sta_priv)
        twoFragments) :=
  ⟨by decide +kernel, defrag_run_neverMixes ⟨false, fun _ => []⟩ _rtw_init_sta_priv twoFragments
    (fun _ => rfl) (by decide +kernel)⟩

/-- The first fragment of one MSDU and, its last fragment lost, the last of the
next one. -/
def lostFragment : List DefragEvent :=
  [.rtw_alloc_stainfo (.ofByte 1),
    .recvframe_chk_defrag (.ofFragment 0 (.ofByte 1) 1 0 true [10]),
    .recvframe_chk_defrag (.ofFragment 1 (.ofByte 1) 2 1 false [21])]

/-- The two fragments are joined although their sequence numbers differ. -/
theorem defrag_run_mixes_after_loss :
    ¬ NeverMixes (Run.execute (DefragRun.step ⟨false, fun _ => []⟩) (.start _rtw_init_sta_priv)
      lostFragment) := by
  intro single
  have entry : ∃ entry, entry ∈ (Run.execute (DefragRun.step ⟨false, fun _ => []⟩)
      (.start _rtw_init_sta_priv) lostFragment).returned ∧
        entry.1 = .ofFragment 1 (.ofByte 1) 2 1 false [21] := by
    have lasts : (Run.execute (DefragRun.step ⟨false, fun _ => []⟩)
        (.start _rtw_init_sta_priv) lostFragment).returned.map Prod.fst =
          [.ofFragment 1 (.ofByte 1) 2 1 false [21]] := by decide +kernel
    have member := List.mem_map.mp (lasts ▸ List.mem_singleton_self _)
    exact member
  rcases entry with ⟨entry, member, last⟩
  rcases single entry member with ⟨fragments, isLast, part, numbered, same, _⟩
  -- the only frame received with the number of the last one is not a first fragment
  have received : ∀ fragment, fragment ∈ (Run.execute (DefragRun.step ⟨false, fun _ => []⟩)
      (.start _rtw_init_sta_priv) lostFragment).received ->
        fragment.attrib.seq_num = 2 -> fragment.attrib.frag_num ≠ 0 := by decide +kernel
  cases fragments with
  | nil => cases isLast
  | cons first rest =>
      have seq_num := (same first List.mem_cons_self).2
      rw [last] at seq_num
      have zero := congrArg List.head? numbered
      rw [List.map_cons, List.head?_cons, List.length_cons, List.range_succ_eq_map, List.head?_cons] at zero
      exact received first (part.subset List.mem_cons_self) seq_num
        (Fin.ext (Option.some.inj zero))

end Rtl8821ce
