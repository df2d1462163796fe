import Rtl8821ce.Library.Run
import Rtl8821ce.Xmit.Coalesce

/-!
# Packet numbers of transmitted fragments

The packet number of a frame is drawn when its attributes are filled in, and the
fragment loop copies the IV of the attributes into every fragment.  So all
fragments of a frame carry one number, and a run repeats no number exactly as
long as its frames have one fragment each.  Between the two a frame waits in a
queue, one for each access category, so frames may overtake each other.
-/

namespace Rtl8821ce

def iv_pn (encrypt : Algorithm) (iv : List UInt8) : Nat :=
  let byte (k : Nat) : Nat := (iv.getD k 0).toNat
  let high := 256 ^ 2 * byte 4 + 256 ^ 3 * byte 5 + 256 ^ 4 * byte 6 + 256 ^ 5 * byte 7
  match encrypt with
  | ._TKIP_ => byte 2 + 256 * byte 0 + high
  | _ => byte 0 + 256 * byte 1 + high

def Fragment.iv (fragment : Fragment) (pattrib : PktAttrib) (buf : Nat -> UInt8) : List UInt8 :=
  Memory.read buf (fragment.mem_start + pattrib.hdrlen) pattrib.iv_len

/-- The packet numbers of the fragments of a frame, in order. -/
def Laid.pns (laid : Laid) (pattrib : PktAttrib) : List Nat :=
  laid.fragments.map (fun fragment => iv_pn pattrib.encrypt (fragment.iv pattrib laid.buf))

/-- A frame between its attributes and its fragments.  `order` counts the frames. -/
structure WaitingFrame where
  order : Nat
  attrib : PktAttrib
  pkt : EtherFrame

/-- The frames to one station: its record, the frames that wait, the place of the
last one that was laid out, and the packet numbers of all fragments so far. -/
structure PnState where
  psta : TxStaInfo
  frames : Nat
  waiting : List WaitingFrame
  last : Nat
  sent : List Nat

inductive PnEvent
  | update_attrib (pkt : EtherFrame)
  /-- Lay out a frame that waits, in a buffer with arbitrary contents. -/
  | rtw_xmitframe_coalesce (which : Nat) (buf : Nat -> UInt8)
  /-- Give up on a frame that waits. -/
  | rtw_free_xmitframe (which : Nat)

def PnState.step (padapter : XmitAdapter) (s : PnState) : PnEvent -> PnState
  | .update_attrib pkt =>
      match update_attrib padapter s.psta pkt with
      | none => s
      | some (attrib, psta) =>
          { s with
            psta := psta
            frames := s.frames + 1
            waiting := s.waiting ++ [⟨s.frames + 1, attrib, pkt⟩] }
  | .rtw_xmitframe_coalesce which buf =>
      match s.waiting[which]? with
      | none => s
      | some frame =>
          match coalesce_layout padapter s.psta buf frame.attrib frame.pkt with
          | none => { s with waiting := s.waiting.eraseIdx which }
          | some (laid, psta) =>
              { s with
                psta := psta
                waiting := s.waiting.eraseIdx which
                last := frame.order
                sent := s.sent ++ laid.pns frame.attrib }
  | .rtw_free_xmitframe which => { s with waiting := s.waiting.eraseIdx which }

def PnState.initial (psta : TxStaInfo) : PnState where
  psta := psta
  frames := 0
  waiting := []
  last := 0
  sent := []

def PnEvent.frame_count (events : List PnEvent) : Nat :=
  events.countP (fun event => match event with | .update_attrib _ => true | _ => false)

/-- The frames to the station are encrypted with its own key, by a cipher with
48 bit packet numbers. -/
def PairwiseKeyed (padapter : XmitAdapter) (psta : TxStaInfo) : Prop :=
  psta.ieee8021x_blocked = false ∧
    (GET_ENCRY_ALGO padapter.securitypriv psta false = ._TKIP_ ∨
      GET_ENCRY_ALGO padapter.securitypriv psta false = ._AES_)

instance (padapter : XmitAdapter) (psta : TxStaInfo) : Decidable (PairwiseKeyed padapter psta) :=
  inferInstanceAs (Decidable (_ ∧ _))

/-- The frames of a run go to the station, each has one fragment, and none is laid
out after one whose attributes were filled in later. -/
def OneNumberEach (padapter : XmitAdapter) (s : PnState) : PnEvent -> Prop
  | .update_attrib pkt => IS_MCAST (attrib_ra padapter pkt) = false
  | .rtw_xmitframe_coalesce which _ =>
      ∀ frame, s.waiting[which]? = some frame ->
        FitsOne padapter frame.attrib frame.pkt.payload ∧ s.last < frame.order
  | .rtw_free_xmitframe _ => True

theorem toNat_TSC (k val : Nat) : (TSC k val).toNat = val / 256 ^ k % 256 := by
  unfold TSC
  rw [UInt8.toNat_ofNat']

theorem pn_of_bytes {pn : Nat} (small : pn < 2 ^ 48) :
    (TSC 0 pn).toNat + 256 * (TSC 1 pn).toNat +
      (256 ^ 2 * (TSC 2 pn).toNat + 256 ^ 3 * (TSC 3 pn).toNat + 256 ^ 4 * (TSC 4 pn).toNat +
        256 ^ 5 * (TSC 5 pn).toNat) = pn := by
  simp only [toNat_TSC]
  omega

theorem iv_pn_draw_iv {encrypt : Algorithm} (cipher : encrypt = ._TKIP_ ∨ encrypt = ._AES_)
    (bmcast : Bool) {dot11txpn key_idx : Nat} (few : dot11txpn + 1 < 2 ^ 48) :
    iv_pn encrypt (draw_iv encrypt bmcast dot11txpn key_idx).1 = dot11txpn + 1 ∧
      (draw_iv encrypt bmcast dot11txpn key_idx).2 = dot11txpn + 1 := by
  have next : pn48_next 0xffffffffffff dot11txpn = dot11txpn + 1 := by
    unfold pn48_next
    rw [if_neg (by omega), Nat.mod_eq_of_lt (by omega)]
  rcases cipher with rfl | rfl
  · unfold draw_iv TKIP_IV
    rw [next]
    exact ⟨pn_of_bytes few, rfl⟩
  · unfold draw_iv AES_IV
    rw [next]
    exact ⟨pn_of_bytes few, rfl⟩

theorem pns_of_laysOut {padapter : XmitAdapter} {pattrib : PktAttrib} {seqnum mem_start : Nat}
    {whole : List UInt8} {laid : Laid} (layout : LaysOut padapter pattrib seqnum mem_start whole laid) :
    laid.pns pattrib =
      (bodies padapter pattrib whole).map (fun _ => iv_pn pattrib.encrypt pattrib.iv) := by
  have cutIv : ∀ (more : Bool) (rest : List UInt8),
      ((wlanhdr padapter pattrib seqnum more ++ pattrib.iv ++ rest).drop pattrib.hdrlen).take
        pattrib.iv_len = pattrib.iv := by
    intro more rest
    rw [List.append_assoc, List.drop_left' (length_wlanhdr _ _ _ _)]
    exact List.take_left' pattrib.iv_length
  have read : laid.pns pattrib =
      (laid.fragments.map (fun fragment => fragment.bytes pattrib laid.buf)).map
        (fun mpdu => iv_pn pattrib.encrypt ((mpdu.drop pattrib.hdrlen).take pattrib.iv_len)) := by
    rw [List.map_map]
    refine List.map_congr_left (fun fragment _ => ?_)
    dsimp only [Function.comp_apply, Fragment.bytes, Fragment.iv, Fragment.len]
    rw [Memory.read_drop _ _ (by omega), Memory.read_take _ _ (by omega)]
  rw [read, layout.written]
  generalize bodies padapter pattrib whole = pieces
  induction pieces with
  | nil => rfl
  | cons body rest ih =>
      cases rest with
      | nil =>
          rw [mpdus, List.map_singleton, List.map_singleton, List.append_assoc, cutIv]
      | cons next others =>
          rw [mpdus, List.map_cons, List.map_cons, ih, List.append_assoc, cutIv]

section

variable {padapter : XmitAdapter} {s : PnState} {start : Nat}

/-- The frames that wait are in order and carry the numbers of their places; the
fragments so far carry increasing numbers, up to that of the last frame. -/
structure PnInvariant (padapter : XmitAdapter) (start : Nat) (s : PnState) : Prop where
  keyed : PairwiseKeyed padapter s.psta
  counter : s.psta.dot11txpn = start + s.frames
  numbered : ∀ frame ∈ s.waiting,
    iv_pn frame.attrib.encrypt frame.attrib.iv = start + frame.order ∧
      frame.attrib.pktlen = frame.pkt.payload.length
  increasing : s.sent.Pairwise (fun first second => first < second)
  bounded : ∀ pn ∈ s.sent, pn ≤ start + s.last

theorem PnInvariant.fill (sound : PnInvariant padapter start s) {pkt : EtherFrame}
    (unicast : IS_MCAST (attrib_ra padapter pkt) = false) (few : s.psta.dot11txpn + 1 < 2 ^ 48) :
    PnInvariant padapter start (s.step padapter (.update_attrib pkt)) := by
  dsimp only [PnState.step]
  split
  case h_1 => exact sound
  case h_2 attrib psta filled =>
    rcases sound.keyed with ⟨openPort, ciphers⟩
    rcases update_attrib_some filled with ⟨-, chosen, iv, rfl, -, -, receiver, -, -, counted⟩
    have group : attrib.bmcst = false := by
      rw [PktAttrib.bmcst, receiver]
      exact unicast
    have cipher : attrib.encrypt = ._TKIP_ ∨ attrib.encrypt = ._AES_ := by
      rw [group] at chosen
      unfold sec_info_encrypt at chosen
      rw [openPort, if_neg Bool.false_ne_true] at chosen
      dsimp only at chosen
      split at chosen
      case isTrue wep =>
        rcases ciphers with isCipher | isCipher
        · rw [isCipher] at wep
          exact absurd wep.1 (by decide)
        · rw [isCipher] at wep
          exact absurd wep.1 (by decide)
      case isFalse notWep =>
        split at chosen
        · exact nomatch chosen
        · rw [← Option.some.inj chosen]
          exact ciphers
    have drawn := @iv_pn_draw_iv attrib.encrypt cipher attrib.bmcst s.psta.dot11txpn attrib.key_idx few
    refine ⟨⟨openPort, ciphers⟩, ?_, ?_, sound.increasing, sound.bounded⟩
    · dsimp only
      rw [drawn.2, sound.counter]
      omega
    · intro frame member
      rcases List.mem_append.mp member with before | added
      · exact sound.numbered frame before
      · rw [List.mem_singleton.mp added]
        dsimp only
        rw [iv, drawn.1, sound.counter]
        exact ⟨by omega, counted⟩

theorem PnInvariant.coalesce (sound : PnInvariant padapter start s) {which : Nat}
    {buf : Nat -> UInt8} (one : OneNumberEach padapter s (.rtw_xmitframe_coalesce which buf)) :
    PnInvariant padapter start (s.step padapter (.rtw_xmitframe_coalesce which buf)) := by
  have remaining : ∀ frame ∈ s.waiting.eraseIdx which,
      iv_pn frame.attrib.encrypt frame.attrib.iv = start + frame.order ∧
        frame.attrib.pktlen = frame.pkt.payload.length :=
    fun frame member => sound.numbered frame (List.mem_of_mem_eraseIdx member)
  dsimp only [PnState.step]
  split
  case h_1 => exact sound
  case h_2 frame found =>
    rcases one frame found with ⟨fits, later⟩
    rcases sound.numbered frame (List.mem_of_getElem? found) with ⟨number, counted⟩
    split
    case h_1 => exact { sound with numbered := remaining }
    case h_2 laid psta laidOut =>
      have pns := pns_of_laysOut (coalesce_layout_spec counted laidOut)
      rw [bodies_of_fitsOne fits, List.map_singleton, number] at pns
      have same : ∃ seqs, psta = { s.psta with txseq_tid := seqs } := by
        unfold coalesce_layout rtw_make_wlanhdr at laidOut
        split at laidOut
        · exact nomatch laidOut
        · rw [Option.map_some] at laidOut
          exact ⟨_, (Prod.mk.inj (Option.some.inj laidOut)).2.symm⟩
      rcases same with ⟨seqs, rfl⟩
      refine ⟨sound.keyed, sound.counter, remaining, ?_, ?_⟩
      · dsimp only
        rw [pns, List.pairwise_append]
        refine ⟨sound.increasing, List.pairwise_singleton _ _, ?_⟩
        intro before wasSent now isNow
        have below := sound.bounded before wasSent
        rw [List.mem_singleton.mp isNow]
        omega
      · intro pn member
        dsimp only at member ⊢
        rw [pns] at member
        rcases List.mem_append.mp member with before | now
        · exact Nat.le_trans (sound.bounded pn before) (by omega)
        · exact Nat.le_of_eq (List.mem_singleton.mp now)

theorem PnInvariant.run {events : List PnEvent}
    (ones : Run.Guarded (PnState.step padapter) (OneNumberEach padapter) s events)
    (few : s.psta.dot11txpn + PnEvent.frame_count events < 2 ^ 48) (sound : PnInvariant padapter start s) :
    PnInvariant padapter start (Run.execute (PnState.step padapter) s events) := by
  induction events generalizing s with
  | nil => exact sound
  | cons event rest ih =>
      rcases ones with ⟨one, later⟩
      rw [Run.execute_cons]
      unfold PnEvent.frame_count at few ih
      rw [List.countP_cons] at few
      cases event with
      | update_attrib pkt =>
          rw [if_pos rfl] at few
          have next := sound.fill one (by omega)
          refine ih later ?_ next
          have grown : (s.step padapter (.update_attrib pkt)).psta.dot11txpn ≤ s.psta.dot11txpn + 1 := by
            rw [next.counter, sound.counter]
            dsimp only [PnState.step]
            split
            · omega
            · dsimp only
              omega
          omega
      | rtw_xmitframe_coalesce which buf =>
          rw [if_neg Bool.false_ne_true] at few
          have next := sound.coalesce one
          refine ih later ?_ next
          have same : (s.step padapter (.rtw_xmitframe_coalesce which buf)).frames = s.frames := by
            dsimp only [PnState.step]
            split
            · rfl
            · split
              · rfl
              · rfl
          rw [next.counter, same, ← sound.counter]
          exact few
      | rtw_free_xmitframe which =>
          rw [if_neg Bool.false_ne_true] at few
          exact ih later few
            { sound with
              numbered := fun frame member =>
                sound.numbered frame (List.mem_of_mem_eraseIdx member) }

end

/-- A run of single-fragment frames, laid out in the order of their attributes,
never repeats a packet number. -/
theorem packet_numbers_increase {padapter : XmitAdapter} {psta : TxStaInfo}
    (keyed : PairwiseKeyed padapter psta) {events : List PnEvent}
    (few : psta.dot11txpn + PnEvent.frame_count events < 2 ^ 48)
    (ones : Run.Guarded (PnState.step padapter) (OneNumberEach padapter) (PnState.initial psta)
      events) :
    (Run.execute (PnState.step padapter) (PnState.initial psta) events).sent.Nodup ∧
      (Run.execute (PnState.step padapter) (PnState.initial psta) events).sent.Pairwise
        (fun first second => first < second) := by
  have initial : PnInvariant padapter psta.dot11txpn (PnState.initial psta) :=
    { keyed := keyed
      counter := rfl
      numbered := fun _ absent => nomatch absent
      increasing := List.Pairwise.nil
      bounded := fun _ absent => nomatch absent }
  have increasing := (initial.run ones few).increasing
  exact ⟨increasing.imp Nat.ne_of_lt, increasing⟩

/-- Two short frames in a row. -/
theorem packet_numbers_increase_two_frames :
    (Run.execute (PnState.step (test_adapter ._AES_ true)) (PnState.initial (test_psta ._AES_))
        [.update_attrib (test_pkt 20), .rtw_xmitframe_coalesce 0 (fun _ => 0),
          .update_attrib (test_pkt 30), .rtw_xmitframe_coalesce 0 (fun _ => 0)]).sent.Nodup ∧
      (Run.execute (PnState.step (test_adapter ._AES_ true)) (PnState.initial (test_psta ._AES_))
        [.update_attrib (test_pkt 20), .rtw_xmitframe_coalesce 0 (fun _ => 0),
          .update_attrib (test_pkt 30), .rtw_xmitframe_coalesce 0 (fun _ => 0)]).sent.Pairwise
        (fun first second => first < second) := by
  refine packet_numbers_increase (by decide) (by decide) ⟨rfl, ?_, rfl, ?_, trivial⟩
  · intro frame found
    cases found
    decide
  · intro frame found
    cases found
    decide

/-- Two fragments of one frame carry the same number. -/
theorem packet_number_repeated :
    ¬ (Run.execute (PnState.step (test_adapter ._AES_ true)) (PnState.initial (test_psta ._AES_))
        [.update_attrib (test_pkt 300), .rtw_xmitframe_coalesce 0 (fun _ => 0)]).sent.Nodup := by
  decide +kernel

end Rtl8821ce
