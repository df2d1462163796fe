import Rtl8821ce.Recv.DefragRun

/-!
# Reassembly of a whole series

A series of fragments of one transmitter, numbered from zero and fed in order, gives
one frame, whose body is the concatenation of the bodies.  What was left in the queue
of the transmitter before does not matter: the first fragment empties it.
-/

namespace Rtl8821ce

/-- Feed frames to `recvframe_chk_defrag` one after the other, and collect the frames
that it returns. -/
def chk_defrag_all (psecuritypriv : MicKeys) : StaPriv -> List RecvFrame -> List RecvFrame × StaPriv
  | pstapriv, [] => ([], pstapriv)
  | pstapriv, precv_frame :: rest =>
      let outcome := recvframe_chk_defrag psecuritypriv pstapriv precv_frame
      let later := chk_defrag_all psecuritypriv outcome.pstapriv rest
      (outcome.prtnframe.toList ++ later.1, later.2)

/-- A series of fragments of one transmitter, without privacy bit. -/
structure Series (ta : MacAddr) (front : List RecvFrame) (last : RecvFrame) : Prop where
  transmitter : ∀ fragment ∈ front ++ [last], fragment.attrib.ta = ta
  plain : ∀ fragment ∈ front ++ [last], fragment.attrib.privacy = false
  more : ∀ fragment ∈ front, fragment.attrib.mfrag = true
  noMore : last.attrib.mfrag = false
  numbered : Numbered (front ++ [last])
  whole : ∀ fragment ∈ front ++ [last], fragment.Whole
  fits : FitsFirst (front ++ [last])

section

variable {psecuritypriv : MicKeys} {pstapriv : StaPriv} {psta : Fin NUM_STA}
  {precv_frame : RecvFrame}

theorem defrag_loop_ends {curfragnum : Nat} {prframe : RecvFrame} {rest : List RecvFrame}
    (numbered : rest.map (fun fragment => fragment.attrib.frag_num.val) =
      List.range' curfragnum rest.length) :
    ∃ joined, defrag_loop curfragnum prframe rest = some joined := by
  induction rest generalizing curfragnum prframe with
  | nil => exact ⟨prframe, rfl⟩
  | cons pnextrframe rest ih =>
      rw [List.map_cons, List.length_cons, List.range'_succ] at numbered
      have cells := List.cons.inj numbered
      rw [defrag_loop, if_neg (not_ne_iff.mpr cells.1.symm)]
      exact ih cells.2

theorem recvframe_defrag_ends {prframe : RecvFrame} {rest : List RecvFrame} (numbered : Numbered (prframe :: rest)) :
    ∃ joined,
      (recvframe_defrag (prframe :: rest)).prtnframe = some joined ∧ SameEntry prframe joined := by
  rw [Numbered, List.map_cons, List.length_cons, List.range_eq_range', List.range'_succ] at numbered
  have cells := List.cons.inj numbered
  have first : prframe.attrib.frag_num = 0 := Fin.ext cells.1
  rcases @defrag_loop_ends 1 prframe rest cells.2 with ⟨joined, ends⟩
  refine ⟨joined, ?_, defrag_loop_sameEntry ends⟩
  rw [recvframe_defrag, if_neg (not_ne_iff.mpr first), ends]

theorem defrag_station_of_found (found : rtw_get_stainfo pstapriv precv_frame.attrib.ta = some psta) :
    defrag_station pstapriv precv_frame = some psta := by
  unfold defrag_station
  rw [found]

theorem recvframe_chk_defrag_more (more : precv_frame.attrib.mfrag = true)
    (found : rtw_get_stainfo pstapriv precv_frame.attrib.ta = some psta) :
    (recvframe_chk_defrag psecuritypriv pstapriv precv_frame).prtnframe = none ∧
      (recvframe_chk_defrag psecuritypriv pstapriv precv_frame).pstapriv =
        pstapriv.modify psta (.set_defrag_q
          ((if precv_frame.attrib.frag_num = 0 then [] else
            (pstapriv.pstainfo_buf psta).defrag_q) ++ [precv_frame])) := by
  unfold recvframe_chk_defrag chk_defrag_queue
  rw [defrag_station_of_found found, more]
  exact ⟨rfl, rfl⟩

theorem recvframe_chk_defrag_joins {joined : RecvFrame} (last : precv_frame.LastFragment)
    (found : rtw_get_stainfo pstapriv precv_frame.attrib.ta = some psta)
    (joins : (recvframe_defrag ((pstapriv.pstainfo_buf psta).defrag_q ++ [precv_frame])).prtnframe =
      some joined) (plain : joined.attrib.privacy = false) :
    (recvframe_chk_defrag psecuritypriv pstapriv precv_frame).prtnframe = some joined := by
  have queue : fragments_with pstapriv precv_frame =
      (pstapriv.pstainfo_buf psta).defrag_q ++ [precv_frame] := by
    rw [fragments_with, defrag_station_of_found found]
  unfold recvframe_chk_defrag
  dsimp only
  rw [chk_defrag_queue_last last, queue, joins]
  dsimp only
  rw [if_neg (by rw [plain]; exact Bool.false_ne_true), chk_defrag_queue_last last, queue, joins]

theorem recvframe_chk_defrag_single (noMore : precv_frame.attrib.mfrag = false)
    (first : precv_frame.attrib.frag_num = 0) (plain : precv_frame.attrib.privacy = false) :
    (recvframe_chk_defrag psecuritypriv pstapriv precv_frame).prtnframe = some precv_frame := by
  unfold recvframe_chk_defrag chk_defrag_queue
  dsimp only
  have single : (!precv_frame.attrib.mfrag && decide (precv_frame.attrib.frag_num = 0)) = true := by
    rw [noMore, first]
    rfl
  rw [if_pos single]
  dsimp only
  rw [if_neg (by rw [plain]; exact Bool.false_ne_true)]

end

theorem frag_num_of_numbered {before after : List RecvFrame} {fragment : RecvFrame}
    (numbered : Numbered (before ++ fragment :: after)) : fragment.attrib.frag_num.val = before.length := by
  have place := congrArg (fun numbers => numbers[before.length]?) numbered
  rw [List.map_append, List.map_cons, List.getElem?_append_right (by rw [List.length_map]),
    List.length_map, Nat.sub_self, List.getElem?_cons_zero, List.getElem?_range] at place
  · exact Option.some.inj place
  · rw [List.length_append, List.length_cons]
    omega

theorem chk_defrag_all_last {psecuritypriv : MicKeys} {ta : MacAddr} {psta : Fin NUM_STA}
    {last : RecvFrame} {done : List RecvFrame} {pstapriv : StaPriv} (series : Series ta done last)
    (found : rtw_get_stainfo pstapriv ta = some psta)
    (queued : done = [] ∨ (pstapriv.pstainfo_buf psta).defrag_q = done) :
    ∃ joined,
      (chk_defrag_all psecuritypriv pstapriv [last]).1 = [joined] ∧
        joined.body = msdu (done ++ [last]) ∧
        ∃ first, (done ++ [last]).head? = some first ∧ SameEntry first joined := by
  have member : last ∈ done ++ [last] := List.mem_append_right _ (List.mem_singleton_self last)
  have number := frag_num_of_numbered series.numbered
  have foundLast : rtw_get_stainfo pstapriv last.attrib.ta = some psta := by
    rw [series.transmitter last member]
    exact found
  rw [chk_defrag_all]
  dsimp only
  cases done with
  | nil =>
      have single := @recvframe_chk_defrag_single psecuritypriv pstapriv last series.noMore
        (Fin.ext number) (series.plain last member)
      rw [single]
      exact ⟨last, rfl, rfl, last, rfl, .refl last⟩
  | cons first others =>
      have queue := queued.resolve_left (List.cons_ne_nil first others)
      have isLast : last.LastFragment := by
        refine ⟨series.noMore, fun zero => ?_⟩
        rw [zero, List.length_cons] at number
        exact absurd number (Nat.succ_ne_zero _).symm
      rcases @recvframe_defrag_ends first (others ++ [last]) series.numbered with ⟨joined, joins, same⟩
      have plain : joined.attrib.privacy = false := by
        rcases same.attrib with ⟨icv_len, attrib⟩
        rw [attrib]
        exact series.plain first List.mem_cons_self
      have body := recvframe_defrag_msdu series.whole series.fits joins
      rw [← List.cons_append, ← queue] at joins
      rw [recvframe_chk_defrag_joins isLast foundLast joins plain]
      exact ⟨joined, rfl, body, first, rfl, same⟩

theorem chk_defrag_all_from {psecuritypriv : MicKeys} {ta : MacAddr} {psta : Fin NUM_STA}
    {last : RecvFrame} (front : List RecvFrame) {done : List RecvFrame} {pstapriv : StaPriv}
    (series : Series ta (done ++ front) last) (found : rtw_get_stainfo pstapriv ta = some psta)
    (queued : done = [] ∨ (pstapriv.pstainfo_buf psta).defrag_q = done) :
    ∃ joined,
      (chk_defrag_all psecuritypriv pstapriv (front ++ [last])).1 = [joined] ∧
        joined.body = msdu (done ++ front ++ [last]) ∧
        ∃ first, (done ++ front ++ [last]).head? = some first ∧ SameEntry first joined := by
  induction front generalizing done pstapriv with
  | nil =>
      rw [List.append_nil] at series ⊢
      exact chk_defrag_all_last series found queued
  | cons fragment rest ih =>
      have member : fragment ∈ done ++ fragment :: rest := List.mem_append_right _ List.mem_cons_self
      have inSeries : fragment ∈ done ++ fragment :: rest ++ [last] := List.mem_append_left _ member
      have foundHere : rtw_get_stainfo pstapriv fragment.attrib.ta = some psta := by
        rw [series.transmitter fragment inSeries]
        exact found
      have number : fragment.attrib.frag_num.val = done.length := by
        have numbered := series.numbered
        rw [List.append_assoc, List.cons_append] at numbered
        exact frag_num_of_numbered numbered
      have kept : (if fragment.attrib.frag_num = 0 then [] else
          (pstapriv.pstainfo_buf psta).defrag_q) = done := by
        split
        case isTrue first =>
          rw [first] at number
          exact (List.eq_nil_of_length_eq_zero number.symm).symm
        case isFalse later =>
          refine queued.resolve_left (fun none => later (Fin.ext ?_))
          rw [number, none]
          rfl
      rcases @recvframe_chk_defrag_more psecuritypriv pstapriv psta fragment
        (series.more fragment member) foundHere with ⟨nothing, after⟩
      rw [kept] at after
      rw [List.cons_append, chk_defrag_all, nothing, after]
      have regrouped : done ++ fragment :: rest = done ++ [fragment] ++ rest := by
        rw [List.append_assoc, List.singleton_append]
      rw [regrouped] at series ⊢
      refine ih series ?_ (Or.inr ?_)
      · exact (rtw_get_stainfo_modify rfl ta).trans found
      · rw [StaPriv.modify_same]
        rfl

/-- A series gives one frame, which carries the concatenation of the bodies. -/
theorem chk_defrag_all_series {psecuritypriv : MicKeys} {pstapriv : StaPriv} {ta : MacAddr}
    {psta : Fin NUM_STA} {front : List RecvFrame} {last : RecvFrame}
    (series : Series ta front last) (found : rtw_get_stainfo pstapriv ta = some psta) :
    ∃ joined,
      (chk_defrag_all psecuritypriv pstapriv (front ++ [last])).1 = [joined] ∧
        joined.body = msdu (front ++ [last]) ∧
        ∃ first, (front ++ [last]).head? = some first ∧ SameEntry first joined :=
  @chk_defrag_all_from psecuritypriv ta psta last front [] pstapriv series found (Or.inl rfl)

end Rtl8821ce
