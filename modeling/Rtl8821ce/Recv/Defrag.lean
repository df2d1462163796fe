import Rtl8821ce.Recv.Station
import Rtl8821ce.Security.Michael

/-!
# Defragmentation

`recvframe_chk_defrag` collects the fragments of a transmitter in its
`defrag_q` and hands them to `recvframe_defrag` when the last one arrives.  The
loop there appends each fragment to the first one, where it compares nothing
but the fragment numbers, and goes on when a frame turns out to be too short
or the buffer too small.

What the loop is for is `msdu`: the bodies of the fragments in order, all but
the last without their ICV.  The second half of the module says when the loop
computes it.
-/

namespace Rtl8821ce

variable {prframe pnextrframe joined : RecvFrame} {curfragnum : Nat} {rest defrag_q : List RecvFrame}

/-- The group keys of `struct security_priv` that `recvframe_chkmic` reads. -/
structure MicKeys where
  binstallGrpkey : Bool
  dot118021XGrprxmickey : Nat -> List UInt8

/-- Check the Michael code of a TKIP frame and cut eight bytes off its tail.
`datalen` is a `u32`: it wraps around for a frame shorter than its parts. -/
def recvframe_chkmic (psecuritypriv : MicKeys) (stainfo : Option StaInfo)
    (precvframe : RecvFrame) : RecvStatus × RecvFrame :=
  let prxattrib := precvframe.attrib
  if prxattrib.encrypt = ._TKIP_ then
    let pulled := (recvframe_pull_tail precvframe 8).getD precvframe
    match stainfo with
    | none => (._SUCCESS, pulled)
    | some stainfo =>
        if IS_MCAST prxattrib.ra && !psecuritypriv.binstallGrpkey then (._FAIL, precvframe)
        else
          let mickey :=
            if IS_MCAST prxattrib.ra then
              psecuritypriv.dot118021XGrprxmickey prxattrib.key_index
            else stainfo.dot11tkiprxmickey
          let datalen := (((precvframe.len : Int) - prxattrib.hdrlen - prxattrib.iv_len -
            prxattrib.icv_len - 8) % 2 ^ 32).toNat
          let payload := precvframe.rx_data.drop (prxattrib.hdrlen + prxattrib.iv_len)
          let miccode := rtw_seccalctkipmic mickey precvframe.rx_data (payload.take datalen)
            (UInt8.ofNat prxattrib.priority)
          (if miccode = (payload.drop datalen).take 8 then ._SUCCESS else ._FAIL, pulled)
  else (._SUCCESS, precvframe)

/-- One round of the loop of `recvframe_defrag`: append the payload of
`pnextrframe` to `prframe`.  None of the three answers is looked at. -/
def defrag_append (prframe pnextrframe : RecvFrame) : RecvFrame :=
  let wlanhdr_offset := (pnextrframe.attrib.hdrlen + pnextrframe.attrib.iv_len) % 256
  let payload := (recvframe_pull pnextrframe wlanhdr_offset).getD pnextrframe
  let pulled := (recvframe_pull_tail prframe prframe.attrib.icv_len).getD prframe
  let joined := (recvframe_put pulled payload.rx_data).getD pulled
  { joined with attrib := { joined.attrib with icv_len := pnextrframe.attrib.icv_len } }

/-- The loop of `recvframe_defrag`; `none` when a fragment number is out of
order. -/
def defrag_loop : Nat -> RecvFrame -> List RecvFrame -> Option RecvFrame
  | _, prframe, [] => some prframe
  | curfragnum, prframe, pnextrframe :: rest =>
      if curfragnum ≠ pnextrframe.attrib.frag_num.val then none
      else defrag_loop (curfragnum + 1) (defrag_append prframe pnextrframe) rest

/-- What defragmentation returns and which frames it gives back. -/
structure DefragOutcome where
  prtnframe : Option RecvFrame
  freed : List RecvFrame

/-- Join the fragments of a queue; the queue is empty afterwards.  It is never
called for an empty queue. -/
def recvframe_defrag : List RecvFrame -> DefragOutcome
  | [] => ⟨none, []⟩
  | prframe :: rest =>
      if prframe.attrib.frag_num ≠ 0 then ⟨none, prframe :: rest⟩
      else
        match defrag_loop 1 prframe rest with
        | none => ⟨none, prframe :: rest⟩
        | some joined => ⟨some joined, rest⟩

/-- The station whose `defrag_q` takes the fragments of a frame.  Frames of an
unknown transmitter share the queue of the broadcast station, except data. -/
def defrag_station (pstapriv : StaPriv) (precv_frame : RecvFrame) : Option (Fin NUM_STA) :=
  match rtw_get_stainfo pstapriv precv_frame.attrib.ta with
  | some psta => some psta
  | none =>
      if GetFrameType precv_frame.rx_data ≠ WIFI_DATA_TYPE then rtw_get_bcmc_stainfo pstapriv
      else none

/-- What `recvframe_chk_defrag` returns, leaves behind and gives back. -/
structure ChkDefragOutcome where
  prtnframe : Option RecvFrame
  pstapriv : StaPriv
  freed : List RecvFrame

/-- Write a station's `defrag_q`. -/
def StaInfo.set_defrag_q (queue : List RecvFrame) (psta : StaInfo) : StaInfo :=
  { psta with defrag_q := queue }

/-- The part of `recvframe_chk_defrag` before the check of the code: queue a
fragment, and join the queue when it is the last one. -/
def chk_defrag_queue (pstapriv : StaPriv) (precv_frame : RecvFrame) : ChkDefragOutcome :=
  let ismfrag := precv_frame.attrib.mfrag
  let fragnum := precv_frame.attrib.frag_num
  if !ismfrag && fragnum = 0 then ⟨some precv_frame, pstapriv, []⟩
  else
    match defrag_station pstapriv precv_frame with
    | none => ⟨none, pstapriv, [precv_frame]⟩
    | some psta =>
        let pdefrag_q := (pstapriv.pstainfo_buf psta).defrag_q
        if ismfrag then
          -- the first fragment empties the queue
          let stale := if fragnum = 0 then pdefrag_q else []
          let kept := if fragnum = 0 then [] else pdefrag_q
          ⟨none, pstapriv.modify psta (.set_defrag_q (kept ++ [precv_frame])), stale⟩
        else
          let outcome := recvframe_defrag (pdefrag_q ++ [precv_frame])
          ⟨outcome.prtnframe, pstapriv.modify psta (.set_defrag_q []), outcome.freed⟩

/-- Check if a frame needs to be defragmented, and queue it if so. -/
def recvframe_chk_defrag (psecuritypriv : MicKeys) (pstapriv : StaPriv)
    (precv_frame : RecvFrame) : ChkDefragOutcome :=
  let queued := chk_defrag_queue pstapriv precv_frame
  match queued.prtnframe with
  | none => queued
  | some prtnframe =>
      if prtnframe.attrib.privacy then
        let stainfo := (rtw_get_stainfo queued.pstapriv prtnframe.attrib.ta).map
          queued.pstapriv.pstainfo_buf
        match recvframe_chkmic psecuritypriv stainfo prtnframe with
        | (._FAIL, checked) => ⟨none, queued.pstapriv, queued.freed ++ [checked]⟩
        | (_, checked) => { queued with prtnframe := some checked }
      else queued

namespace RecvFrame

def body (fragment : RecvFrame) : List UInt8 :=
  fragment.rx_data.drop (fragment.attrib.hdrlen + fragment.attrib.iv_len)

def payload (fragment : RecvFrame) : List UInt8 :=
  fragment.body.take (fragment.body.length - fragment.attrib.icv_len)

/-- The address of the transmitter, as the frame itself tells it. -/
def transmitter (fragment : RecvFrame) : MacAddr := get_addr2_ptr fragment.rx_data

def Whole (fragment : RecvFrame) : Prop :=
  fragment.attrib.hdrlen + fragment.attrib.iv_len < 256 ∧
    fragment.attrib.hdrlen + fragment.attrib.iv_len + fragment.attrib.icv_len ≤ fragment.len

instance (fragment : RecvFrame) : Decidable fragment.Whole :=
  inferInstanceAs (Decidable (_ ∧ _))

end RecvFrame

/-- The payloads of the fragments in order; the last one keeps its ICV. -/
def msdu : List RecvFrame -> List UInt8
  | [] => []
  | [last] => last.body
  | fragment :: next :: rest => fragment.payload ++ msdu (next :: rest)

def Numbered (fragments : List RecvFrame) : Prop :=
  fragments.map (fun fragment => fragment.attrib.frag_num.val) = List.range fragments.length

instance (fragments : List RecvFrame) : Decidable (Numbered fragments) :=
  inferInstanceAs (Decidable (_ = _))

/-- The bodies of later fragments fit behind a frame with `room` bytes of tail
room, each after the ICV of the one before has been cut off. -/
def FitsBehind : Nat -> Nat -> List RecvFrame -> Prop
  | _, _, [] => True
  | room, icv_len, fragment :: rest =>
      fragment.body.length ≤ room + icv_len ∧
        FitsBehind (room + icv_len - fragment.body.length) fragment.attrib.icv_len rest

instance decidableFitsBehind : ∀ (room icv_len : Nat) (rest : List RecvFrame),
    Decidable (FitsBehind room icv_len rest)
  | _, _, [] => isTrue trivial
  | room, icv_len, fragment :: rest =>
      haveI := decidableFitsBehind (room + icv_len - fragment.body.length)
        fragment.attrib.icv_len rest
      inferInstanceAs (Decidable (_ ∧ _))

/-- The fragments fit into the buffer of the first one. -/
def FitsFirst : List RecvFrame -> Prop
  | [] => True
  | first :: rest => FitsBehind first.tailroom first.attrib.icv_len rest

instance : ∀ fragments : List RecvFrame, Decidable (FitsFirst fragments)
  | [] => isTrue trivial
  | first :: rest => decidableFitsBehind first.tailroom first.attrib.icv_len rest

/-! ## What the loop computes -/

namespace RecvFrame

theorem length_body (fragment : RecvFrame) :
    fragment.body.length =
      fragment.len - (fragment.attrib.hdrlen + fragment.attrib.iv_len) := by
  simp only [body, List.length_drop, len]

theorem Whole.icv_le {fragment : RecvFrame} (whole : fragment.Whole) :
    fragment.attrib.icv_len ≤ fragment.body.length := by
  have enough := whole.2
  rw [length_body]
  omega

end RecvFrame

/-- What a round of the loop leaves of a whole frame when the next one fits. -/
structure Joined (prframe pnextrframe joined : RecvFrame) : Prop where
  body : joined.body = prframe.payload ++ pnextrframe.body
  header : joined.attrib.hdrlen + joined.attrib.iv_len ≤ joined.len
  attrib : joined.attrib = { prframe.attrib with icv_len := pnextrframe.attrib.icv_len }
  tailroom : joined.tailroom =
    prframe.tailroom + prframe.attrib.icv_len - pnextrframe.body.length
  index : joined.index = prframe.index

theorem defrag_append_joined (first : prframe.Whole) (next : pnextrframe.Whole)
    (fits : pnextrframe.body.length ≤ prframe.tailroom + prframe.attrib.icv_len) :
    Joined prframe pnextrframe (defrag_append prframe pnextrframe) := by
  rcases first with ⟨_, enough⟩
  rcases next with ⟨byte, nextEnough⟩
  have offset : (pnextrframe.attrib.hdrlen + pnextrframe.attrib.iv_len) % 256 =
      pnextrframe.attrib.hdrlen + pnextrframe.attrib.iv_len := Nat.mod_eq_of_lt byte
  have pulled : recvframe_pull pnextrframe
      ((pnextrframe.attrib.hdrlen + pnextrframe.attrib.iv_len) % 256) =
        some { pnextrframe with rx_data := pnextrframe.body } := by
    rw [offset, recvframe_pull, if_neg (by omega)]
    rfl
  have cut : recvframe_pull_tail prframe prframe.attrib.icv_len =
      some { prframe with
        rx_data := prframe.rx_data.take (prframe.len - prframe.attrib.icv_len)
        tailroom := prframe.tailroom + prframe.attrib.icv_len } := by
    rw [recvframe_pull_tail, if_neg (by omega)]
  have put : recvframe_put
      { prframe with
        rx_data := prframe.rx_data.take (prframe.len - prframe.attrib.icv_len)
        tailroom := prframe.tailroom + prframe.attrib.icv_len } pnextrframe.body =
      some { prframe with
        rx_data := prframe.rx_data.take (prframe.len - prframe.attrib.icv_len) ++
          pnextrframe.body
        tailroom := prframe.tailroom + prframe.attrib.icv_len - pnextrframe.body.length } := by
    rw [recvframe_put, if_neg (show ¬ prframe.tailroom + prframe.attrib.icv_len <
      pnextrframe.body.length by omega)]
  simp only [defrag_append, pulled, cut, Option.getD_some, put]
  have inside : prframe.attrib.hdrlen + prframe.attrib.iv_len ≤
      (prframe.rx_data.take (prframe.len - prframe.attrib.icv_len)).length := by
    rw [List.length_take]
    unfold RecvFrame.len at enough ⊢
    omega
  refine ⟨?_, ?_, rfl, rfl, rfl⟩
  case refine_2 =>
    have longer := @List.length_append _ (prframe.rx_data.take (prframe.len -
      prframe.attrib.icv_len)) pnextrframe.body
    simp only [RecvFrame.len] at inside longer ⊢
    omega
  simp only [RecvFrame.body, RecvFrame.payload]
  rw [List.drop_append_of_le_length inside, List.drop_take, List.length_drop]
  congr 2
  unfold RecvFrame.len
  omega

theorem Joined.whole (round : Joined prframe pnextrframe joined) (first : prframe.Whole)
    (next : pnextrframe.Whole) : joined.Whole := by
  have header := round.header
  have grown := congrArg List.length round.body
  have icv := next.icv_le
  rw [List.length_append, RecvFrame.length_body joined] at grown
  have hdrlen : joined.attrib.hdrlen = prframe.attrib.hdrlen := by rw [round.attrib]
  have iv_len : joined.attrib.iv_len = prframe.attrib.iv_len := by rw [round.attrib]
  have icv_len : joined.attrib.icv_len = pnextrframe.attrib.icv_len := by rw [round.attrib]
  refine ⟨?_, ?_⟩
  · rw [hdrlen, iv_len]
    exact first.1
  · omega

theorem Joined.msdu (round : Joined prframe pnextrframe joined) (next : pnextrframe.Whole)
    (rest : List RecvFrame) : msdu (joined :: rest) = msdu (prframe :: pnextrframe :: rest) := by
  cases rest with
  | nil => exact round.body
  | cons later rest =>
      have payload : joined.payload = prframe.payload ++ pnextrframe.payload := by
        have icv := next.icv_le
        have icv_len : joined.attrib.icv_len = pnextrframe.attrib.icv_len := by rw [round.attrib]
        rw [RecvFrame.payload, round.body, icv_len, List.length_append, List.take_append,
          List.take_of_length_le (by omega)]
        congr 2
        omega
      rw [Rtl8821ce.msdu, payload, List.append_assoc]
      rfl

theorem defrag_loop_numbered (ends : defrag_loop curfragnum prframe rest = some joined) :
    rest.map (fun fragment => fragment.attrib.frag_num.val) =
      List.range' curfragnum rest.length := by
  induction rest generalizing curfragnum prframe with
  | nil => rfl
  | cons pnextrframe rest ih =>
      rw [defrag_loop] at ends
      split at ends
      case isTrue outOfOrder => cases ends
      case isFalse inOrder =>
          rw [List.map_cons, ih ends, List.length_cons, List.range'_succ, not_ne_iff.mp inOrder]

theorem defrag_loop_msdu (first : prframe.Whole) (others : ∀ fragment ∈ rest, fragment.Whole)
    (fits : FitsBehind prframe.tailroom prframe.attrib.icv_len rest)
    (ends : defrag_loop curfragnum prframe rest = some joined) : joined.body = msdu (prframe :: rest) := by
  induction rest generalizing curfragnum prframe with
  | nil =>
      cases ends
      rfl
  | cons pnextrframe rest ih =>
      rw [defrag_loop] at ends
      split at ends
      case isTrue outOfOrder => cases ends
      case isFalse inOrder =>
          have next := others pnextrframe List.mem_cons_self
          have round := defrag_append_joined first next fits.1
          have behind := fits.2
          have icv_len : (defrag_append prframe pnextrframe).attrib.icv_len =
              pnextrframe.attrib.icv_len := by rw [round.attrib]
          rw [← round.tailroom, ← icv_len] at behind
          rw [ih (round.whole first next)
            (fun fragment member => others fragment (List.mem_cons_of_mem _ member)) behind ends,
            round.msdu next]

/-- The frame is the same entry with the same session, and its attributes are
the same up to the ICV length. -/
structure SameEntry (prframe joined : RecvFrame) : Prop where
  index : joined.index = prframe.index
  preorder_ctrl : joined.preorder_ctrl = prframe.preorder_ctrl
  attrib : ∃ icv_len, joined.attrib = { prframe.attrib with icv_len := icv_len }

theorem SameEntry.refl (prframe : RecvFrame) : SameEntry prframe prframe := ⟨rfl, rfl, _, rfl⟩

theorem SameEntry.trans {first second third : RecvFrame} (one : SameEntry first second)
    (two : SameEntry second third) : SameEntry first third := by
  rcases one.attrib with ⟨_, attrib⟩
  rcases two.attrib with ⟨icv_len, later⟩
  exact ⟨two.index.trans one.index, two.preorder_ctrl.trans one.preorder_ctrl, icv_len, by
    rw [later, attrib]⟩

theorem pull_tail_sameEntry (prframe : RecvFrame) (sz : Nat) :
    SameEntry prframe ((recvframe_pull_tail prframe sz).getD prframe) := by
  rw [recvframe_pull_tail]
  split <;> exact ⟨rfl, rfl, _, rfl⟩

theorem put_sameEntry (prframe : RecvFrame) (bytes : List UInt8) :
    SameEntry prframe ((recvframe_put prframe bytes).getD prframe) := by
  rw [recvframe_put]
  split <;> exact ⟨rfl, rfl, _, rfl⟩

theorem defrag_append_sameEntry (prframe pnextrframe : RecvFrame) :
    SameEntry prframe (defrag_append prframe pnextrframe) := by
  have joined := (pull_tail_sameEntry prframe prframe.attrib.icv_len).trans (put_sameEntry _
    ((recvframe_pull pnextrframe
      ((pnextrframe.attrib.hdrlen + pnextrframe.attrib.iv_len) % 256)).getD pnextrframe).rx_data)
  rcases joined.attrib with ⟨_, attrib⟩
  exact ⟨joined.index, joined.preorder_ctrl, pnextrframe.attrib.icv_len, by
    rw [defrag_append, attrib]⟩

theorem defrag_loop_sameEntry (ends : defrag_loop curfragnum prframe rest = some joined) :
    SameEntry prframe joined := by
  induction rest generalizing curfragnum prframe with
  | nil =>
      cases ends
      exact .refl _
  | cons pnextrframe rest ih =>
      rw [defrag_loop] at ends
      split at ends
      case isTrue outOfOrder => cases ends
      case isFalse inOrder =>
          exact (defrag_append_sameEntry _ pnextrframe).trans (ih ends)

theorem recvframe_defrag_numbered
    (ends : (recvframe_defrag defrag_q).prtnframe = some joined) : Numbered defrag_q := by
  cases defrag_q with
  | nil => cases ends
  | cons prframe rest =>
      rw [recvframe_defrag] at ends
      split at ends
      case isTrue notFirst => cases ends
      case isFalse zero =>
          split at ends
          case h_1 => cases ends
          case h_2 out loop =>
              rw [Numbered, List.map_cons, defrag_loop_numbered loop, not_ne_iff.mp zero,
                List.length_cons, List.range_eq_range', List.range'_succ]
              rfl

theorem recvframe_defrag_first (ends : (recvframe_defrag defrag_q).prtnframe = some joined) :
    ∃ first, first ∈ defrag_q ∧ SameEntry first joined := by
  cases defrag_q with
  | nil => cases ends
  | cons prframe rest =>
      rw [recvframe_defrag] at ends
      split at ends
      case isTrue notFirst => cases ends
      case isFalse zero =>
          split at ends
          case h_1 => cases ends
          case h_2 out loop =>
              cases ends
              exact ⟨prframe, List.mem_cons_self, defrag_loop_sameEntry loop⟩

theorem recvframe_defrag_msdu (whole : ∀ fragment ∈ defrag_q, fragment.Whole) (fits : FitsFirst defrag_q)
    (ends : (recvframe_defrag defrag_q).prtnframe = some joined) : joined.body = msdu defrag_q := by
  cases defrag_q with
  | nil => cases ends
  | cons prframe rest =>
      rw [recvframe_defrag] at ends
      split at ends
      case isTrue notFirst => cases ends
      case isFalse zero =>
          split at ends
          case h_1 => cases ends
          case h_2 out loop =>
              cases ends
              exact defrag_loop_msdu (whole prframe List.mem_cons_self)
                (fun fragment member => whole fragment (List.mem_cons_of_mem _ member)) fits loop

/-- What the check of the code cuts off: nothing, or the eight bytes of the
code of a TKIP frame. -/
def MichaelOf (prtnframe : RecvFrame) (michael : List UInt8) : Prop :=
  michael = [] ∨ (prtnframe.attrib.privacy = true ∧ prtnframe.attrib.encrypt = ._TKIP_ ∧
    michael.length ≤ 8)

theorem pull_tail_body (precvframe : RecvFrame) (sz : Nat) :
    ((recvframe_pull_tail precvframe sz).getD precvframe).attrib = precvframe.attrib ∧
      ∃ cut, cut.length ≤ sz ∧
        ((recvframe_pull_tail precvframe sz).getD precvframe).body ++ cut = precvframe.body := by
  rw [recvframe_pull_tail]
  split
  case isTrue short => exact ⟨rfl, [], Nat.zero_le sz, List.append_nil _⟩
  case isFalse long =>
      refine ⟨rfl, precvframe.body.drop (precvframe.len - sz -
        (precvframe.attrib.hdrlen + precvframe.attrib.iv_len)), ?_, ?_⟩
      · rw [List.length_drop, RecvFrame.length_body]
        omega
      · simp only [Option.getD_some, RecvFrame.body, List.drop_take]
        exact List.take_append_drop _ _

theorem recvframe_chkmic_sameEntry (psecuritypriv : MicKeys) (stainfo : Option StaInfo) (precvframe : RecvFrame) :
    SameEntry precvframe (recvframe_chkmic psecuritypriv stainfo precvframe).2 := by
  have pulled := pull_tail_sameEntry precvframe 8
  rw [recvframe_chkmic]
  split
  case isFalse plain => exact .refl _
  case isTrue tkip =>
      cases stainfo with
      | none => exact pulled
      | some stainfo =>
          dsimp only
          split
          · exact .refl _
          · exact pulled

theorem recvframe_chkmic_body (psecuritypriv : MicKeys) (stainfo : Option StaInfo)
    {precvframe : RecvFrame} (secret : precvframe.attrib.privacy = true) :
    ∃ michael,
      MichaelOf (recvframe_chkmic psecuritypriv stainfo precvframe).2 michael ∧
        (recvframe_chkmic psecuritypriv stainfo precvframe).2.body ++ michael =
          precvframe.body := by
  rcases pull_tail_body precvframe 8 with ⟨attrib, cut, short, whole⟩
  rw [recvframe_chkmic]
  split
  case isFalse plain => exact ⟨[], Or.inl rfl, List.append_nil _⟩
  case isTrue tkip =>
      rw [← attrib] at secret tkip
      cases stainfo with
      | none => exact ⟨cut, Or.inr ⟨secret, tkip, short⟩, whole⟩
      | some stainfo =>
          dsimp only
          split
          · exact ⟨[], Or.inl rfl, List.append_nil _⟩
          · exact ⟨cut, Or.inr ⟨secret, tkip, short⟩, whole⟩

end Rtl8821ce
