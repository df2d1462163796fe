import Rtl8821ce.Recv.EthHeader
import Rtl8821ce.Recv.Pool
import Rtl8821ce.Recv.Reassembly
import Rtl8821ce.Xmit.Addmic

/-!
# From one Ethernet frame to the other

The fragments that the driver lays out for an Ethernet frame without encryption,
numbered by the hardware and received in order by the driver of the addressed peer,
are joined and become one Ethernet frame again.  It has the same destination,
EtherType and payload.  Its source is the one that the 802.11 header tells: the
original one when an access point sends, and the transmitter otherwise.

The fragments have to fit into the buffer of the first one, which has 1650 bytes at
least; every packet of at most 1500 bytes does.
-/

namespace Rtl8821ce

def EtherFrame.bytes (pkt : EtherFrame) : List UInt8 :=
  pkt.h_dest.bytes ++ pkt.h_source.bytes ++ (ether_type_bytes pkt.h_proto ++ pkt.payload)

/-- The hardware writes the number of a fragment into the low bits of its sequence
control. -/
def number_fragment (number : Nat) (mpdu : List UInt8) : List UInt8 :=
  mpdu.set 22 (UInt8.ofNat ((mpdu.getD 22 0).toNat / 16 * 16 + number % 16))

/-- What a received frame finds: its entry with old attributes, the lowest bits of the
address of its buffer, and the session that the checks find for it. -/
structure RxSlot where
  index : Nat
  stale : RxPktAttrib
  align : Fin 8
  preorder_ctrl : Option (Fin NUM_STA × Fin 16)

def rtl8821c_query_rx_desc (ptr : List UInt8) (pattrib : RxPktAttrib) : RxPktAttrib :=
  { pattrib with
    qos := get_frame_sub_type ptr &&& 0x80 != 0
    mfrag := GetMFrag ptr
    frag_num := GetFragNum ptr }

/-- The size of the buffer for a frame.  A first fragment gets room for the others. -/
def rx_alloc_sz (pattrib : RxPktAttrib) (skb_len : Nat) : Nat :=
  if pattrib.mfrag && pattrib.frag_num = 0 then if skb_len ≤ 1650 then 1664 else skb_len + 14
  else skb_len + 14

/-- Copy a frame into its buffer, up to eight bytes behind its start and six more under
QoS. -/
def rtw_os_alloc_recvframe (slot : RxSlot) (pattrib : RxPktAttrib) (pdata : List UInt8) : RecvFrame where
  index := slot.index
  attrib := pattrib
  rx_data := pdata
  tailroom :=
    rx_alloc_sz pattrib pdata.length - (8 - slot.align.val) - (if pattrib.qos then 6 else 0) -
      pdata.length

/-- The attributes of a data frame without encryption that passed the checks. -/
def received_attrib (ptr : List UInt8) (stale : RxPktAttrib) : RxPktAttrib :=
  { data_frame_lengths ptr (data_frame_addresses ptr
      { frame_control_attrib ptr stale with qos := get_frame_sub_type ptr &&& 0x80 != 0 }) with
    bdecrypted := true }

/-- A data frame when it comes to `recvframe_chk_defrag`. -/
def received_frame (slot : RxSlot) (ptr : List UInt8) : RecvFrame :=
  { rtw_os_alloc_recvframe slot (rtl8821c_query_rx_desc ptr slot.stale) ptr with
    attrib := received_attrib ptr slot.stale
    preorder_ctrl := slot.preorder_ctrl }

/-- The fragments of a frame as they are received, from fragment `number` on. -/
def received_fragments (slots : Nat -> RxSlot) : (number : Nat) -> List (List UInt8) -> List RecvFrame
  | _, [] => []
  | number, mpdu :: rest =>
      received_frame (slots number) (number_fragment number mpdu) ::
        received_fragments slots (number + 1) rest

/-- What the peer makes of the fragments: the Ethernet frames, in order. -/
def reassembled (psecuritypriv : MicKeys) (pstapriv : StaPriv) (slots : Nat -> RxSlot)
    (mpdus : List (List UInt8)) : List (Option (List UInt8)) :=
  (chk_defrag_all psecuritypriv pstapriv (received_fragments slots 0 mpdus)).1.map
    (fun prtnframe => (wlanhdr_to_ethhdr prtnframe).map (fun ethernet => ethernet.rx_data))

/-- `to_fr_ds` of the frames of an interface. -/
def FwState.to_fr_ds : FwState -> Nat
  | .WIFI_STATION_STATE => 2
  | .WIFI_AP_STATE => 1
  | .WIFI_ADHOC_STATE => 0

theorem frame_control_fields (fwstate : FwState) (qos mdata mfrag : Bool) : let ptr : List UInt8 :=
      [if qos then 0x88 else 0x08, frame_ctl_flags fwstate mdata false mfrag]
    get_tofr_ds ptr = fwstate.to_fr_ds ∧ GetMFrag ptr = mfrag ∧ GetPrivacy ptr = false ∧
      GetOrder ptr = false ∧ (get_frame_sub_type ptr &&& 0x80 != 0) = qos := by
  cases fwstate <;> cases qos <;> revert mdata mfrag <;> decide

theorem frame_control_of_cons {fwstate : FwState} {qos mdata more : Bool} {ptr rest : List UInt8} (cells : ptr =
      (if qos then 0x88 else 0x08) :: frame_ctl_flags fwstate mdata false more :: rest) :
    get_tofr_ds ptr = fwstate.to_fr_ds ∧ GetMFrag ptr = more ∧ GetPrivacy ptr = false ∧
      GetOrder ptr = false ∧ (get_frame_sub_type ptr &&& 0x80 != 0) = qos := by
  have firstBytes : le16_to_cpu ptr = le16_to_cpu [if qos then 0x88 else 0x08,
      frame_ctl_flags fwstate mdata false more] := by
    rw [cells]
    rfl
  have fields := frame_control_fields fwstate qos mdata more
  unfold get_tofr_ds GetToDs GetFrDs GetMFrag GetPrivacy GetOrder get_frame_sub_type at fields ⊢
  rw [firstBytes]
  exact fields

theorem frag_num_of_drop {ptr rest : List UInt8} {high number : Nat} (small : number < 16)
    (control : ptr.drop 22 = UInt8.ofNat (high * 16 + number % 16) :: rest) : (GetFragNum ptr).val = number := by
  have low : (UInt8.ofNat (high * 16 + number % 16)).toNat = (high * 16 + number % 16) % 256 :=
    UInt8.toNat_ofNat'
  unfold GetFragNum le16_to_cpu
  rw [control, List.getD_cons_zero, List.getD_cons_succ, Fin.val_ofNat, low]
  omega

theorem received_frame_room {slot : RxSlot} {ptr : List UInt8} (more : GetMFrag ptr = true)
    (first : GetFragNum ptr = 0) (fits : ptr.length ≤ 1650) :
    1650 ≤ (received_frame slot ptr).tailroom + ptr.length := by
  have aligned := slot.align.isLt
  have shift : (if (get_frame_sub_type ptr &&& 0x80 != 0) = true then 6 else 0) ≤ 6 := by
    split <;> omega
  have size : rx_alloc_sz (rtl8821c_query_rx_desc ptr slot.stale) ptr.length = 1664 := by
    unfold rx_alloc_sz rtl8821c_query_rx_desc
    dsimp only
    rw [more, first]
    exact if_pos fits
  show 1650 ≤ rx_alloc_sz (rtl8821c_query_rx_desc ptr slot.stale) ptr.length -
    (8 - slot.align.val) - (if (get_frame_sub_type ptr &&& 0x80 != 0) = true then 6 else 0) -
      ptr.length + ptr.length
  rw [size]
  omega

theorem number_fragment_eq_cons (padapter : XmitAdapter) (pattrib : PktAttrib) (seqnum number : Nat)
    (mfrag : Bool) (body : List UInt8) :
    ∃ rest,
      number_fragment number (wlanhdr padapter pattrib seqnum mfrag ++ body) =
        (if pattrib.qos then 0x88 else 0x08) ::
          frame_ctl_flags padapter.fwstate pattrib.mdata (pattrib.encrypt ≠ ._NO_PRIVACY_) mfrag ::
          0 :: 0 :: ((wlanhdr_addresses padapter pattrib).1.bytes ++
            ((wlanhdr_addresses padapter pattrib).2.1.bytes ++
              ((wlanhdr_addresses padapter pattrib).2.2.bytes ++
                (UInt8.ofNat ((UInt8.ofNat (seqnum * 16)).toNat / 16 * 16 + number % 16) :: rest)))) ∧
      (number_fragment number (wlanhdr padapter pattrib seqnum mfrag ++ body)).drop 22 =
        UInt8.ofNat ((UInt8.ofNat (seqnum * 16)).toNat / 16 * 16 + number % 16) :: rest ∧
      (number_fragment number (wlanhdr padapter pattrib seqnum mfrag ++ body)).length =
        pattrib.hdrlen + body.length ∧
      (number_fragment number (wlanhdr padapter pattrib seqnum mfrag ++ body)).drop pattrib.hdrlen =
        body := by
  have length : (wlanhdr padapter pattrib seqnum mfrag).length = pattrib.hdrlen :=
    length_wlanhdr padapter pattrib seqnum mfrag
  rcases wlanhdr_eq_cons padapter pattrib seqnum mfrag with ⟨tail, header⟩
  let front : List UInt8 := (if pattrib.qos then 0x88 else 0x08) ::
    frame_ctl_flags padapter.fwstate pattrib.mdata (pattrib.encrypt ≠ ._NO_PRIVACY_) mfrag ::
      0 :: 0 :: ((wlanhdr_addresses padapter pattrib).1.bytes ++
        ((wlanhdr_addresses padapter pattrib).2.1.bytes ++
          (wlanhdr_addresses padapter pattrib).2.2.bytes))
  have frontLength : front.length = 22 := by
    simp only [front, List.length_cons, List.length_append, MacAddr.length_eq]
  have split : wlanhdr padapter pattrib seqnum mfrag ++ body =
      front ++ (UInt8.ofNat (seqnum * 16) :: (UInt8.ofNat (seqnum / 16) :: tail ++ body)) := by
    rw [header]
    simp only [front, List.cons_append, List.append_assoc]
  have numbered : number_fragment number (wlanhdr padapter pattrib seqnum mfrag ++ body) =
      front ++ (UInt8.ofNat ((UInt8.ofNat (seqnum * 16)).toNat / 16 * 16 + number % 16) ::
        (UInt8.ofNat (seqnum / 16) :: tail ++ body)) := by
    unfold number_fragment
    rw [split, List.getD_eq_getElem?_getD, List.getElem?_append_right (Nat.le_of_eq frontLength),
      List.set_append_right _ _ (Nat.le_of_eq frontLength), frontLength]
    rfl
  refine ⟨UInt8.ofNat (seqnum / 16) :: tail ++ body, ?_, ?_, ?_, ?_⟩
  · rw [numbered]
    simp only [front, List.cons_append, List.append_assoc]
  · rw [numbered, List.drop_left' frontLength]
  · rw [number_fragment, List.length_set, List.length_append, length]
  · rw [number_fragment, List.drop_set, if_pos (Nat.lt_of_lt_of_le (by decide)
      pattrib.hdrlen_bounds.1), List.drop_left' length]

/-- A received fragment with its number, whether more follow, and its body. -/
structure Carries (padapter : XmitAdapter) (pattrib : PktAttrib) (number : Nat) (more : Bool)
    (carried : List UInt8) (frame : RecvFrame) : Prop where
  hdrlen : frame.attrib.hdrlen = pattrib.hdrlen
  iv_len : frame.attrib.iv_len = 0
  icv_len : frame.attrib.icv_len = 0
  encrypt : frame.attrib.encrypt = ._NO_PRIVACY_
  privacy : frame.attrib.privacy = false
  mfrag : frame.attrib.mfrag = more
  frag_num : frame.attrib.frag_num.val = number
  ta : frame.attrib.ta = (wlanhdr_addresses padapter pattrib).2.1
  dst : frame.attrib.dst = pattrib.dst
  src : frame.attrib.src = header_sa padapter pattrib
  body : frame.body = carried
  len : frame.len = pattrib.hdrlen + carried.length
  room : more = true -> number = 0 -> frame.len ≤ 1650 -> 1650 ≤ frame.tailroom + frame.len

theorem data_frame_addresses_of_sender {padapter : XmitAdapter} {pattrib : PktAttrib}
    {ptr : List UInt8} {rxattrib : RxPktAttrib} (addr1 : GetAddr1Ptr ptr = (wlanhdr_addresses padapter pattrib).1)
    (addr2 : get_addr2_ptr ptr = (wlanhdr_addresses padapter pattrib).2.1)
    (addr3 : GetAddr3Ptr ptr = (wlanhdr_addresses padapter pattrib).2.2)
    (ds : rxattrib.to_fr_ds = padapter.fwstate.to_fr_ds) :
    (data_frame_addresses ptr rxattrib).ta = (wlanhdr_addresses padapter pattrib).2.1 ∧
      (data_frame_addresses ptr rxattrib).dst = pattrib.dst ∧
      (data_frame_addresses ptr rxattrib).src = header_sa padapter pattrib := by
  unfold data_frame_addresses
  rw [addr1, addr2, addr3, ds]
  unfold header_sa wlanhdr_addresses
  cases padapter.fwstate with
  | WIFI_STATION_STATE => exact ⟨rfl, rfl, rfl⟩
  | WIFI_AP_STATE => exact ⟨rfl, rfl, rfl⟩
  | WIFI_ADHOC_STATE => exact ⟨rfl, rfl, rfl⟩

theorem received_frame_carries {padapter : XmitAdapter} {pattrib : PktAttrib} {seqnum number : Nat}
    {more : Bool} {carried : List UInt8} (plain : pattrib.encrypt = ._NO_PRIVACY_)
    (small : number < 16) (slot : RxSlot) :
    Carries padapter pattrib number more carried
      (received_frame slot
        (number_fragment number (wlanhdr padapter pattrib seqnum more ++ carried))) := by
  rcases number_fragment_eq_cons padapter pattrib seqnum number more carried
    with ⟨rest, cells, control, length, behind⟩
  generalize number_fragment number (wlanhdr padapter pattrib seqnum more ++ carried) = ptr at *
  have notPrivate : decide (pattrib.encrypt ≠ ._NO_PRIVACY_) = false := by
    rw [plain]
    rfl
  rw [notPrivate] at cells
  rcases frame_control_of_cons cells with ⟨ds, mfrag, privacy, order, qos⟩
  have frag_num := frag_num_of_drop small control
  rcases addresses_of_cons (if pattrib.qos then 0x88 else 0x08)
    (frame_ctl_flags padapter.fwstate pattrib.mdata false more) 0 0
    (wlanhdr_addresses padapter pattrib).1 (wlanhdr_addresses padapter pattrib).2.1
    (wlanhdr_addresses padapter pattrib).2.2
    (UInt8.ofNat ((UInt8.ofNat (seqnum * 16)).toNat / 16 * 16 + number % 16) :: rest)
    with ⟨addr1, addr2, addr3⟩
  rw [← cells] at addr1 addr2 addr3
  rcases @data_frame_addresses_of_sender padapter pattrib ptr
    { frame_control_attrib ptr slot.stale with qos := get_frame_sub_type ptr &&& 0x80 != 0 }
    (addr_at_of_take addr1) (addr_at_of_take addr2) (addr_at_of_take addr3) ds with ⟨ta, dst, src⟩
  rcases data_frame_addresses_eq ptr
    { frame_control_attrib ptr slot.stale with qos := get_frame_sub_type ptr &&& 0x80 != 0 }
    with ⟨_, _, _, _, _, addressed⟩
  have hdrlen : (received_attrib ptr slot.stale).hdrlen = pattrib.hdrlen := by
    unfold received_attrib data_frame_lengths PktAttrib.hdrlen
    rw [addressed]
    dsimp only
    rw [qos, order]
    rfl
  have kept : (received_attrib ptr slot.stale).privacy = GetPrivacy ptr ∧
      (received_attrib ptr slot.stale).mfrag = GetMFrag ptr ∧
      (received_attrib ptr slot.stale).frag_num = GetFragNum ptr := by
    unfold received_attrib
    rw [addressed]
    exact ⟨rfl, rfl, rfl⟩
  refine ⟨hdrlen, rfl, rfl, rfl, kept.1.trans privacy, kept.2.1.trans mfrag, ?_, ta, dst, src, ?_, length, ?_⟩
  · exact (congrArg Fin.val kept.2.2).trans frag_num
  · show ptr.drop ((received_attrib ptr slot.stale).hdrlen + 0) = carried
    rw [hdrlen, Nat.add_zero, behind]
  · intro isMore isFirst fits
    exact received_frame_room (mfrag.trans isMore) (Fin.ext (frag_num.trans isFirst)) fits

/-- Frames that carry the given bodies, numbered from `number` on. -/
inductive Arrive (padapter : XmitAdapter) (pattrib : PktAttrib) :
    Nat -> List (List UInt8) -> List RecvFrame -> Prop
  | last {number : Nat} {body : List UInt8} {frame : RecvFrame}
      (carries : Carries padapter pattrib number false body frame) :
      Arrive padapter pattrib number [body] [frame]
  | more {number : Nat} {body : List UInt8} {frame : RecvFrame} {bodies : List (List UInt8)}
      {frames : List RecvFrame} (carries : Carries padapter pattrib number true body frame)
      (later : Arrive padapter pattrib (number + 1) bodies frames) :
      Arrive padapter pattrib number (body :: bodies) (frame :: frames)

section

variable {padapter : XmitAdapter} {pattrib : PktAttrib} {number : Nat}
  {bodies : List (List UInt8)} {frames : List RecvFrame}

theorem received_fragments_arrive {seqnum : Nat} (plain : pattrib.encrypt = ._NO_PRIVACY_)
    (slots : Nat -> RxSlot) (some_body : bodies ≠ []) (few : number + bodies.length ≤ 16) :
    Arrive padapter pattrib number bodies
      (received_fragments slots number (mpdus (wlanhdr padapter pattrib seqnum) pattrib bodies)) := by
  have iv : pattrib.iv = [] := by
    apply List.eq_nil_of_length_eq_zero
    rw [pattrib.iv_length, plain]
    rfl
  have icv : pattrib.sw_icv = [] := by
    apply List.eq_nil_of_length_eq_zero
    rw [length_sw_icv, PktAttrib.sw_icv_len, PktAttrib.icv_len, plain]
    exact ite_self 0
  induction bodies generalizing number with
  | nil => exact absurd rfl some_body
  | cons body rest ih =>
      rw [List.length_cons] at few
      cases rest with
      | nil =>
          rw [mpdus, iv, icv, List.append_nil, List.append_nil]
          exact .last (received_frame_carries plain (by omega) (slots number))
      | cons next rest =>
          rw [mpdus, iv, icv, List.append_nil, List.append_nil]
          exact .more (received_frame_carries plain (by omega) (slots number))
            (ih (List.cons_ne_nil _ _) (by omega))

theorem Arrive.bodies_eq (arrive : Arrive padapter pattrib number bodies frames) :
    frames.map RecvFrame.body = bodies := by
  induction arrive with
  | last carries => exact congrArg (fun body => [body]) carries.body
  | more carries later ih =>
      rw [List.map_cons, carries.body, ih]

theorem Arrive.numbers (arrive : Arrive padapter pattrib number bodies frames) :
    frames.map (fun frame => frame.attrib.frag_num.val) = List.range' number frames.length := by
  induction arrive with
  | last carries => exact congrArg (fun frag_num => [frag_num]) carries.frag_num
  | more carries later ih =>
      rw [List.map_cons, carries.frag_num, ih, List.length_cons, List.range'_succ]

theorem Arrive.carries (arrive : Arrive padapter pattrib number bodies frames) :
    ∀ frame ∈ frames, ∃ frag_num more, ∃ body,
      Carries padapter pattrib frag_num more body frame := by
  induction arrive with
  | last carries =>
      intro frame member
      rw [List.mem_singleton.mp member]
      exact ⟨_, _, _, carries⟩
  | more carries later ih =>
      intro frame member
      rcases List.mem_cons.mp member with here | behind
      · rw [here]
        exact ⟨_, _, _, carries⟩
      · exact ih frame behind

theorem Arrive.split (arrive : Arrive padapter pattrib number bodies frames) :
    ∃ front last, frames = front ++ [last] ∧
      (∀ frame ∈ front, frame.attrib.mfrag = true) ∧ last.attrib.mfrag = false := by
  induction arrive with
  | @last number body frame carries =>
      exact ⟨[], frame, rfl, (fun frame none => nomatch none), carries.mfrag⟩
  | @more number body frame bodies frames carries later ih =>
      rcases ih with ⟨front, last, split, more, noMore⟩
      refine ⟨frame :: front, last, by rw [split, List.cons_append], ?_, noMore⟩
      intro fragment member
      rcases List.mem_cons.mp member with here | behind
      · rw [here]
        exact carries.mfrag
      · exact more fragment behind

theorem fitsBehind_of_total {room : Nat} (noIcv : ∀ frame ∈ frames,
      frame.attrib.icv_len = 0) (fits : (frames.map RecvFrame.body).flatten.length ≤ room) :
    FitsBehind room 0 frames := by
  induction frames generalizing room with
  | nil => trivial
  | cons frame rest ih =>
      rw [List.map_cons, List.flatten_cons, List.length_append] at fits
      refine ⟨by omega, ?_⟩
      rw [noIcv frame List.mem_cons_self]
      exact ih (fun later member => noIcv later (List.mem_cons_of_mem _ member))
        (by omega)

theorem msdu_of_noIcv (noIcv : ∀ frame ∈ frames, frame.attrib.icv_len = 0) :
    msdu frames = (frames.map RecvFrame.body).flatten := by
  induction frames with
  | nil => rfl
  | cons frame rest ih =>
      cases rest with
      | nil => exact (List.append_nil _).symm
      | cons next rest =>
          have payload : frame.payload = frame.body := by
            rw [RecvFrame.payload, noIcv frame List.mem_cons_self, Nat.sub_zero, List.take_length]
          rw [msdu, payload, ih
            (fun later member => noIcv later (List.mem_cons_of_mem _ member))]
          rfl

theorem Arrive.fitsFirst (arrive : Arrive padapter pattrib 0 bodies frames)
    (fits : bodies.length = 1 ∨ pattrib.hdrlen + bodies.flatten.length ≤ 1650) : FitsFirst frames := by
  have noIcv : ∀ frame ∈ frames, frame.attrib.icv_len = 0 := by
    intro frame member
    rcases arrive.carries frame member with ⟨_, _, _, carries⟩
    exact carries.icv_len
  cases arrive with
  | last carries => trivial
  | @more _ body frame bodies frames carries later =>
      have total : pattrib.hdrlen + (body.length + bodies.flatten.length) ≤ 1650 := by
        rcases fits with single | within
        · have none := List.eq_nil_of_length_eq_zero (Nat.succ.inj single)
          rw [none] at later
          exact nomatch later
        · rw [List.flatten_cons, List.length_append] at within
          exact within
      have len := carries.len
      have room := carries.room rfl rfl (by omega)
      show FitsBehind frame.tailroom frame.attrib.icv_len frames
      rw [carries.icv_len]
      refine fitsBehind_of_total (fun frame member => noIcv frame (List.mem_cons_of_mem _ member)) ?_
      rw [later.bodies_eq]
      omega

end

theorem bsnaphdr_rtw_put_snap (front payload : List UInt8) (h_proto : UInt16) {offset : Nat}
    (start : front.length = offset) : bsnaphdr (front ++ (rtw_put_snap h_proto ++ payload)) offset = true := by
  have snapLength := length_rtw_put_snap h_proto
  have parts : rtw_put_snap h_proto = (rtw_put_snap h_proto).take 6 ++ ether_type_bytes h_proto := by
    unfold rtw_put_snap
    split
    · rfl
    · rfl
  have psnap : memcmp_bytes (front ++ (rtw_put_snap h_proto ++ payload)) offset SNAP_SIZE =
      (rtw_put_snap h_proto).take 6 := by
    have long : SNAP_SIZE ≤ (rtw_put_snap h_proto ++ payload).length := by
      rw [List.length_append, snapLength, SNAP_SIZE]
      omega
    rw [memcmp_bytes_append front _ SNAP_SIZE long start]
    exact List.take_append_of_le_length (by rw [snapLength]; decide)
  have psnap_type : memcmp_bytes (front ++ (rtw_put_snap h_proto ++ payload)) (offset + SNAP_SIZE) 2 =
      ether_type_bytes h_proto := by
    have regroup : front ++ (rtw_put_snap h_proto ++ payload) =
        (front ++ (rtw_put_snap h_proto).take 6) ++ (ether_type_bytes h_proto ++ payload) := by
      rw [List.append_assoc, ← List.append_assoc _ (ether_type_bytes h_proto), ← parts]
    rw [regroup, memcmp_bytes_append]
    · rfl
    · rw [List.length_append]
      exact Nat.le_add_right 2 _
    · rw [List.length_append, start, List.length_take, snapLength]
      rfl
  unfold bsnaphdr
  dsimp only
  rw [psnap, psnap_type]
  unfold rtw_put_snap
  dsimp only
  split
  case isTrue tunnelled => exact Bool.or_eq_true_iff.mpr (Or.inr rfl)
  case isFalse plain =>
    rw [not_or] at plain
    have notIpx : ether_type_bytes h_proto ≠ SNAP_ETH_TYPE_IPX :=
      fun same => plain.1 (@ether_type_bytes_inj h_proto 0x8137 same)
    have notAarp : ether_type_bytes h_proto ≠ SNAP_ETH_TYPE_APPLETALK_AARP :=
      fun same => plain.2 (@ether_type_bytes_inj h_proto 0x80f3 same)
    rw [decide_eq_true notIpx, decide_eq_true notAarp]
    rfl

/-! ## The round trip -/

def delivered_frame (padapter : XmitAdapter) (pattrib : PktAttrib) (pkt : EtherFrame) : EtherFrame :=
  { pkt with h_source := header_sa padapter pattrib }

theorem few_bodies {padapter : XmitAdapter} {pattrib : PktAttrib} {payload : List UInt8}
    (plain : pattrib.encrypt = ._NO_PRIVACY_)
    (fits : FitsOne padapter pattrib payload ∨ pattrib.hdrlen + 8 + payload.length ≤ 1650) :
    (bodies padapter pattrib (rtw_put_snap pattrib.ether_type ++ payload)).length = 1 ∨
      ((bodies padapter pattrib (rtw_put_snap pattrib.ether_type ++ payload)).length ≤ 16 ∧
        pattrib.hdrlen + 8 + payload.length ≤ 1650) := by
  rcases fits with one | within
  · left
    rw [bodies_of_fitsOne one]
    rfl
  · right
    refine ⟨?_, within⟩
    unfold bodies
    split
    · exact (by decide : 1 ≤ 16)
    · have size : 226 ≤ body_size padapter pattrib := by
        have threshold := padapter.frag_len.admitted
        have header := pattrib.hdrlen_bounds
        unfold body_size PktAttrib.iv_len PktAttrib.sw_icv_len PktAttrib.icv_len
        rw [plain]
        show 226 ≤ padapter.frag_len.val - 4 - pattrib.hdrlen - 0 - (if pattrib.bswenc then 0 else 0)
        rw [ite_self]
        omega
      have full := Cut.length_pieces_mul_le (by omega : 0 < body_size padapter pattrib)
        (rtw_put_snap pattrib.ether_type ++ payload)
      rw [List.length_append, length_rtw_put_snap] at full
      by_contra many
      have least : 16 * 226 ≤ ((Cut.pieces (body_size padapter pattrib)
          (rtw_put_snap pattrib.ether_type ++ payload)).length - 1) * body_size padapter pattrib :=
        Nat.mul_le_mul (by omega) size
      omega

theorem wlanhdr_addresses_ta {padapter : XmitAdapter} {pattrib : PktAttrib} (ta : pattrib.ta = attrib_ta padapter) :
    (wlanhdr_addresses padapter pattrib).2.1 = attrib_ta padapter := by
  unfold wlanhdr_addresses
  unfold attrib_ta at ta ⊢
  cases fwstate : padapter.fwstate with
  | WIFI_STATION_STATE =>
      rw [fwstate] at ta
      exact ta
  | WIFI_AP_STATE => rfl
  | WIFI_ADHOC_STATE =>
      rw [fwstate] at ta
      exact ta

theorem exists_body_of_mem_places {pattrib : PktAttrib} {mem_start : Nat}
    {bodies : List (List UInt8)} {fragment : Fragment} (member : fragment ∈ places pattrib mem_start bodies) :
    ∃ body, body ∈ bodies ∧ fragment.body_sz = body.length := by
  induction bodies generalizing mem_start with
  | nil => exact nomatch member
  | cons body rest ih =>
      rcases List.mem_cons.mp member with here | behind
      · rw [here]
        exact ⟨body, List.mem_cons_self, rfl⟩
      · rcases ih behind with ⟨later, laterMember, size⟩
        exact ⟨later, List.mem_cons_of_mem _ laterMember, size⟩

theorem length_fragment_le {padapter : XmitAdapter} {pattrib : PktAttrib} {seqnum : Nat}
    {whole : List UInt8} {laid : Laid} (unicast : pattrib.bmcst = false)
    (layout : LaysOut padapter pattrib seqnum TXDESC_OFFSET whole laid) {fragment : Fragment}
    (member : fragment ∈ laid.fragments) : (fragment.bytes pattrib laid.buf).length ≤ padapter.frag_len.val - 4 := by
  have room := body_size_gt padapter pattrib
  rw [layout.placed] at member
  rcases exists_body_of_mem_places member with ⟨body, bodyMember, size⟩
  unfold bodies at bodyMember
  rw [if_neg (by rw [unicast]; exact Bool.false_ne_true)] at bodyMember
  have short := Cut.length_le_of_mem_pieces (by omega : 0 < body_size padapter pattrib) bodyMember
  rw [Fragment.bytes, Memory.length_read, Fragment.len, size]
  unfold body_size at short room
  omega

theorem flatten_bodies (padapter : XmitAdapter) (pattrib : PktAttrib) (whole : List UInt8) :
    (bodies padapter pattrib whole).flatten = whole := by
  unfold bodies
  split
  · exact List.append_nil whole
  · exact Cut.flatten_pieces _ whole

theorem Arrive.series {padapter : XmitAdapter} {pattrib : PktAttrib} {bodies : List (List UInt8)}
    {frames front : List RecvFrame} {last : RecvFrame} (arrive : Arrive padapter pattrib 0 bodies frames)
    (fits : bodies.length = 1 ∨ pattrib.hdrlen + bodies.flatten.length ≤ 1650) (split : frames = front ++ [last])
    (more : ∀ frame ∈ front, frame.attrib.mfrag = true) (noMore : last.attrib.mfrag = false) :
    Series (wlanhdr_addresses padapter pattrib).2.1 front last := by
  have carried := arrive.carries
  have numbers := arrive.numbers
  have placed := arrive.fitsFirst fits
  rw [split] at carried numbers placed
  refine ⟨?_, ?_, more, noMore, ?_, ?_, placed⟩
  · intro fragment member
    rcases carried fragment member with ⟨_, _, _, carries⟩
    exact carries.ta
  · intro fragment member
    rcases carried fragment member with ⟨_, _, _, carries⟩
    exact carries.privacy
  · rw [Numbered, List.range_eq_range']
    exact numbers
  · intro fragment member
    rcases carried fragment member with ⟨_, _, _, carries⟩
    have header := pattrib.hdrlen_bounds
    unfold RecvFrame.Whole
    rw [carries.hdrlen, carries.iv_len, carries.icv_len, carries.len]
    omega

theorem bsnaphdr_of_body {joined : RecvFrame} {ether_type : UInt16} {payload : List UInt8}
    (body : joined.body = rtw_put_snap ether_type ++ payload) :
    bsnaphdr joined.rx_data (joined.attrib.hdrlen + joined.attrib.iv_len) = true := by
  have enough := RecvFrame.length_body joined
  have long : 8 ≤ joined.body.length := by
    rw [body, List.length_append, length_rtw_put_snap]
    omega
  have parts := List.take_append_drop (joined.attrib.hdrlen + joined.attrib.iv_len) joined.rx_data
  have isBody : joined.rx_data.drop (joined.attrib.hdrlen + joined.attrib.iv_len) =
      rtw_put_snap ether_type ++ payload := body
  rw [isBody] at parts
  rw [← parts]
  apply bsnaphdr_rtw_put_snap
  rw [List.length_take]
  unfold RecvFrame.len at enough
  omega

theorem Arrive.delivered {padapter : XmitAdapter} {pattrib : PktAttrib}
    {bodies : List (List UInt8)} {frames : List RecvFrame} {payload : List UInt8}
    {psecuritypriv : MicKeys} {pstapriv : StaPriv} {station : Fin NUM_STA}
    (arrive : Arrive padapter pattrib 0 bodies frames)
    (whole : bodies.flatten = rtw_put_snap pattrib.ether_type ++ payload)
    (fits : bodies.length = 1 ∨ pattrib.hdrlen + bodies.flatten.length ≤ 1650)
    (known : rtw_get_stainfo pstapriv (wlanhdr_addresses padapter pattrib).2.1 = some station) :
    (chk_defrag_all psecuritypriv pstapriv frames).1.map
        (fun prtnframe => (wlanhdr_to_ethhdr prtnframe).map (fun ethernet => ethernet.rx_data)) =
      [some (pattrib.dst.bytes ++ (header_sa padapter pattrib).bytes ++
        (ether_type_bytes pattrib.ether_type ++ payload))] := by
  rcases arrive.split with ⟨front, last, split, more, noMore⟩
  have header := pattrib.hdrlen_bounds
  have carried := arrive.carries
  have series := arrive.series fits split more noMore
  rcases @chk_defrag_all_series psecuritypriv pstapriv _ station front last series known
    with ⟨joined, returned, body, first, head, same⟩
  rw [← split] at returned body head
  rcases carried first (List.mem_of_head? head) with ⟨_, _, _, carries⟩
  rcases same.attrib with ⟨icv_len, attrib⟩
  have joinedBody : joined.body = rtw_put_snap pattrib.ether_type ++ payload := by
    rw [body, msdu_of_noIcv, arrive.bodies_eq, whole]
    intro fragment member
    rcases carried fragment member with ⟨_, _, _, carries⟩
    exact carries.icv_len
  have start : joined.attrib.hdrlen + joined.attrib.iv_len = pattrib.hdrlen := by
    rw [attrib]
    dsimp only
    rw [carries.hdrlen, carries.iv_len, Nat.add_zero]
  have long : SNAP_SIZE ≤ joined.body.length := by
    rw [joinedBody, List.length_append, length_rtw_put_snap, SNAP_SIZE]
    omega
  have snap := bsnaphdr_of_body joinedBody
  have delivered := wlanhdr_to_ethhdr_of_bsnaphdr (by rw [attrib]; exact carries.encrypt)
    (by omega) snap long
  have parts : (rtw_put_snap pattrib.ether_type ++ payload).drop SNAP_SIZE =
      ether_type_bytes pattrib.ether_type ++ payload := by
    unfold rtw_put_snap
    split
    · rfl
    · rfl
  rw [returned, List.map_singleton, delivered, joinedBody, parts, attrib]
  dsimp only
  rw [carries.dst, carries.src]

/-- Fragments that are received in order become one Ethernet frame, with the
destination, the EtherType and the payload of the one that was sent. -/
theorem fragments_reassembled {padapter : XmitAdapter} {psta drawn after : TxStaInfo}
    {buf : Nat -> UInt8} {pattrib : PktAttrib} {pkt : EtherFrame} {laid : Laid}
    {psecuritypriv : MicKeys} {pstapriv : StaPriv} {station : Fin NUM_STA}
    (plain : pattrib.encrypt = ._NO_PRIVACY_) (unicast : pattrib.bmcst = false)
    (filled : update_attrib padapter psta pkt = some (pattrib, drawn))
    (laidOut : coalesce_layout padapter drawn buf pattrib pkt = some (laid, after))
    (fits : FitsOne padapter pattrib pkt.payload ∨
      pattrib.hdrlen + 8 + pkt.payload.length ≤ 1650)
    (known : rtw_get_stainfo pstapriv (attrib_ta padapter) = some station)
    (slots : Nat -> RxSlot) :
    (∀ fragment ∈ laid.fragments,
      (fragment.bytes pattrib laid.buf).length ≤ padapter.frag_len.val - 4) ∧
    reassembled psecuritypriv pstapriv slots
        (laid.fragments.map (fun fragment => fragment.bytes pattrib laid.buf)) =
      [some (delivered_frame padapter pattrib pkt).bytes] := by
  rcases update_attrib_some filled with ⟨-, -, -, -, dst, -, -, ta, ether_type, counted⟩
  have layout := coalesce_layout_spec counted laidOut
  refine ⟨fun fragment member => length_fragment_le unicast layout member, ?_⟩
  have few := few_bodies plain fits
  have whole := flatten_bodies padapter pattrib (rtw_put_snap pattrib.ether_type ++ pkt.payload)
  have arrive := @received_fragments_arrive padapter pattrib 0 _
    (after.txseq_tid pattrib.priority) plain slots (bodies_ne_nil padapter pattrib
      (rtw_put_snap pattrib.ether_type ++ pkt.payload)) (by omega)
  rw [reassembled, layout.written]
  have delivered := @Arrive.delivered _ _ _ _ pkt.payload psecuritypriv pstapriv station arrive
    whole (by
      rw [whole, List.length_append, length_rtw_put_snap]
      omega) (by
      rw [wlanhdr_addresses_ta ta]
      exact known)
  rw [delivered, dst, ether_type]
  rfl

/-- The peer of the small network, which knows the station. -/
def test_peer : StaPriv := rtw_alloc_stainfo _rtw_init_sta_priv (test_addr 2)

def test_slots (number : Nat) : RxSlot := ⟨number, .zero, 0, none⟩

/-- A packet of 300 bytes in two fragments. -/
theorem fragments_reassembled_two :
    (∀ fragment ∈ (test_laid ._NO_PRIVACY_ false 300).fragments,
      (fragment.bytes (test_attrib ._NO_PRIVACY_ false 300)
        (test_laid ._NO_PRIVACY_ false 300).buf).length ≤ 256 - 4) ∧
    reassembled ⟨false, fun _ => []⟩ test_peer test_slots
        ((test_laid ._NO_PRIVACY_ false 300).fragments.map (fun fragment =>
          fragment.bytes (test_attrib ._NO_PRIVACY_ false 300)
            (test_laid ._NO_PRIVACY_ false 300).buf)) =
      [some (delivered_frame (test_adapter ._NO_PRIVACY_ false)
        (test_attrib ._NO_PRIVACY_ false 300) (test_pkt 300)).bytes] :=
  @fragments_reassembled (test_adapter ._NO_PRIVACY_ false) (test_psta ._NO_PRIVACY_)
    (test_psta ._NO_PRIVACY_) _ (fun _ => 0) (test_attrib ._NO_PRIVACY_ false 300) (test_pkt 300) _
    ⟨false, fun _ => []⟩ test_peer ⟨0, by decide⟩ rfl rfl rfl
    (test_layout_some ._NO_PRIVACY_ false 300) (Or.inr (by decide +kernel)) (by decide +kernel)
    test_slots

/-- A packet that the station sends for somebody else. -/
def test_bridged (length : Nat) : EtherFrame := { test_pkt length with h_source := test_addr 9 }

def test_bridged_attrib (length : Nat) : PktAttrib :=
  { test_attrib ._NO_PRIVACY_ false length with src := test_addr 9 }

def test_bridged_laid (length : Nat) : Laid :=
  ((coalesce_layout (test_adapter ._NO_PRIVACY_ false) (test_psta ._NO_PRIVACY_) (fun _ => 0)
    (test_bridged_attrib length) (test_bridged length)).map (fun laid => laid.1)).getD
      ⟨fun _ => 0, [], 0⟩

/-- The peer gets it with the address of the station as its source, and of a packet that
does not fit into the buffer of its first fragment it gets a part. -/
theorem reassembled_otherwise :
    ((update_attrib (test_adapter ._NO_PRIVACY_ false) (test_psta ._NO_PRIVACY_)
          (test_bridged 20)).map (fun filled => filled.1) = some (test_bridged_attrib 20) ∧
        reassembled ⟨false, fun _ => []⟩ test_peer test_slots
            ((test_bridged_laid 20).fragments.map (fun fragment =>
              fragment.bytes (test_bridged_attrib 20) (test_bridged_laid 20).buf)) ≠
          [some (test_bridged 20).bytes]) ∧
      reassembled ⟨false, fun _ => []⟩ test_peer test_slots
          ((test_laid ._NO_PRIVACY_ false 1700).fragments.map (fun fragment =>
            fragment.bytes (test_attrib ._NO_PRIVACY_ false 1700)
              (test_laid ._NO_PRIVACY_ false 1700).buf)) ≠
        [some (test_pkt 1700).bytes] := by
  refine ⟨⟨rfl, by decide +kernel⟩, ?_⟩
  have layout := coalesce_layout_spec rfl (test_layout_some ._NO_PRIVACY_ false 1700)
  rw [layout.written]
  decide +kernel

end Rtl8821ce
