import Rtl8821ce.Security.Michael
import Rtl8821ce.Xmit.Coalesce

/-!
# The Michael code of a transmitted frame

`xmitframe_addmic` walks over the fragments in the buffer once more, feeds the
bytes it takes for their payloads to the code, and puts the code behind the last
one.  It finds the fragments by its own arithmetic, which is that of the layout
for the first fragment only: a fragment in front of the last one counts four
bytes too many, and the next one is looked for without the descriptor room.
-/

namespace Rtl8821ce

def addmic_key (padapter : XmitAdapter) (pattrib : PktAttrib) : List UInt8 :=
  if pattrib.bmcst then
    padapter.securitypriv.dot118021XGrptxmickey padapter.securitypriv.dot118021XGrpKeyid
  else pattrib.dot11tkiptxmickey

/-- The loop over the fragments: the code so far, the place behind the last
payload, and the ranges that were fed to the code. -/
def addmic_loop (padapter : XmitAdapter) (pattrib : PktAttrib) (laid : Laid) :
    (left payload : Nat) -> MicData -> MicData × Nat × List (Nat × Nat)
  | 0, payload, micdata => (micdata, payload, [])
  | left + 1, payload, micdata =>
      let payload := RND4 payload + pattrib.hdrlen + pattrib.iv_len
      let whole := if left = 0 then laid.last_txcmdsz else padapter.frag_len.val
      let length := whole - pattrib.hdrlen - pattrib.iv_len - pattrib.sw_icv_len
      let micdata := rtw_secmicappend micdata (Memory.read laid.buf payload length)
      let next := if left = 0 then payload + length else payload + length + pattrib.icv_len
      let later := addmic_loop padapter pattrib laid left next micdata
      (later.1, later.2.1, (payload, length) :: later.2.2)

/-- Append the code to a TKIP frame; `none` without a key.  The second part of the
answer are the ranges that the code covers. -/
def xmitframe_addmic (padapter : XmitAdapter) (pattrib : PktAttrib) (laid : Laid) :
    Option (Laid × List (Nat × Nat)) :=
  if pattrib.encrypt = ._TKIP_ then
    if addmic_key padapter pattrib = List.replicate 16 0 then none
    else
      let pframe := Memory.read laid.buf TXDESC_OFFSET 30
      let micdata := rtw_secmicsetkey (addmic_key padapter pattrib)
      let micdata := rtw_secmicappend micdata (seccalctkipmic_addresses pframe)
      let priority : UInt8 := if pattrib.qos_en then UInt8.ofNat pattrib.priority else 0
      let micdata := rtw_secmicappend micdata [priority, 0, 0, 0]
      let walked := addmic_loop padapter pattrib laid laid.nr_frags TXDESC_OFFSET micdata
      some
        ({ laid with
            buf := Memory.write laid.buf walked.2.1 (rtw_secgetmic walked.1)
            last_txcmdsz := laid.last_txcmdsz + 8 },
          walked.2.2)
  else some (laid, [])

def Fragment.payload (fragment : Fragment) (pattrib : PktAttrib) : Nat × Nat :=
  (fragment.mem_start + pattrib.hdrlen + pattrib.iv_len, fragment.body_sz)

/-- The place behind the payload of the last fragment. -/
def Laid.payload_end (laid : Laid) (pattrib : PktAttrib) : Nat :=
  match laid.fragments.getLast? with
  | none => 0
  | some last => last.mem_start + pattrib.hdrlen + pattrib.iv_len + last.body_sz

/-- The source address that the header of a frame tells. -/
def header_sa (padapter : XmitAdapter) (pattrib : PktAttrib) : MacAddr :=
  match padapter.fwstate with
  | .WIFI_AP_STATE => pattrib.src
  | _ => pattrib.ta

def mic_message (padapter : XmitAdapter) (pattrib : PktAttrib) (payload : List UInt8) : List UInt8 :=
  pattrib.dst.bytes ++ (header_sa padapter pattrib).bytes ++
    [if pattrib.qos_en then UInt8.ofNat pattrib.priority else 0, 0, 0, 0] ++
    (rtw_put_snap pattrib.ether_type ++ payload)

/-- The walk visits exactly the payloads that were laid out, and the code of the
packet stands behind the last one. -/
def MicCoversPacket (padapter : XmitAdapter) (pattrib : PktAttrib) (payload : List UInt8) (laid : Laid) : Prop :=
  ∃ outcome, xmitframe_addmic padapter pattrib laid = some outcome ∧
    outcome.2 = laid.fragments.map (fun fragment => fragment.payload pattrib) ∧
    Memory.read outcome.1.buf (laid.payload_end pattrib) 8 =
      michael (addmic_key padapter pattrib) (mic_message padapter pattrib payload) ∧
    outcome.1.last_txcmdsz = laid.last_txcmdsz + 8

theorem addresses_of_cons (b0 b1 b2 b3 : UInt8) (addr1 addr2 addr3 : MacAddr) (rest : List UInt8) :
    ((b0 :: b1 :: b2 :: b3 :: (addr1.bytes ++ (addr2.bytes ++ (addr3.bytes ++ rest)))).drop 4).take 6 =
        addr1.bytes ∧
      ((b0 :: b1 :: b2 :: b3 :: (addr1.bytes ++ (addr2.bytes ++ (addr3.bytes ++ rest)))).drop 10).take
        6 = addr2.bytes ∧
      ((b0 :: b1 :: b2 :: b3 :: (addr1.bytes ++ (addr2.bytes ++ (addr3.bytes ++ rest)))).drop 16).take
        6 = addr3.bytes := by
  have past : ∀ (k : Nat) (address : MacAddr) (tail : List UInt8),
      (address.bytes ++ tail).drop (6 + k) = tail.drop k := by
    intro k address tail
    rw [← List.drop_drop, List.drop_left' address.length_eq]
  refine ⟨?_, ?_, ?_⟩
  · exact List.take_left' addr1.length_eq
  · show ((addr1.bytes ++ _).drop 6).take 6 = _
    rw [List.drop_left' addr1.length_eq, List.take_left' addr2.length_eq]
  · show ((addr1.bytes ++ _).drop 12).take 6 = _
    rw [past 6, List.drop_left' addr2.length_eq, List.take_left' addr3.length_eq]

theorem wlanhdr_eq_cons (padapter : XmitAdapter) (pattrib : PktAttrib) (seqnum : Nat) (mfrag : Bool) :
    ∃ rest, wlanhdr padapter pattrib seqnum mfrag =
      (if pattrib.qos then 0x88 else 0x08) ::
        frame_ctl_flags padapter.fwstate pattrib.mdata (pattrib.encrypt ≠ ._NO_PRIVACY_) mfrag ::
        0 :: 0 :: ((wlanhdr_addresses padapter pattrib).1.bytes ++
          ((wlanhdr_addresses padapter pattrib).2.1.bytes ++
            ((wlanhdr_addresses padapter pattrib).2.2.bytes ++
              (UInt8.ofNat (seqnum * 16) :: UInt8.ofNat (seqnum / 16) :: rest)))) := by
  refine ⟨if pattrib.qos then [UInt8.ofNat (pattrib.priority + 16 * pattrib.eosp.toNat), 0] else [], ?_⟩
  simp only [wlanhdr, List.cons_append, List.nil_append, List.append_assoc]

theorem frame_ctl_flags_ds (fwstate : FwState) (mdata privacy mfrag : Bool) :
    (frame_ctl_flags fwstate mdata privacy mfrag &&& 1 != 0) = (fwstate == .WIFI_STATION_STATE) ∧
      (frame_ctl_flags fwstate mdata privacy mfrag &&& 2 != 0) = (fwstate == .WIFI_AP_STATE) := by
  cases fwstate <;> revert mdata privacy mfrag <;> decide

theorem seccalctkipmic_addresses_wlanhdr (padapter : XmitAdapter) (pattrib : PktAttrib) (seqnum : Nat)
    (mfrag : Bool) (rest : List UInt8) :
    seccalctkipmic_addresses (wlanhdr padapter pattrib seqnum mfrag ++ rest) =
      pattrib.dst.bytes ++ (header_sa padapter pattrib).bytes := by
  rcases wlanhdr_eq_cons padapter pattrib seqnum mfrag with ⟨tail, header⟩
  rw [header]
  simp only [List.cons_append, List.append_assoc]
  generalize UInt8.ofNat (seqnum * 16) :: UInt8.ofNat (seqnum / 16) :: (tail ++ rest) = after
  rcases addresses_of_cons (if pattrib.qos then 0x88 else 0x08)
    (frame_ctl_flags padapter.fwstate pattrib.mdata (pattrib.encrypt ≠ ._NO_PRIVACY_) mfrag) 0 0
    (wlanhdr_addresses padapter pattrib).1 (wlanhdr_addresses padapter pattrib).2.1
    (wlanhdr_addresses padapter pattrib).2.2 after with ⟨first, second, third⟩
  have flags := frame_ctl_flags_ds padapter.fwstate pattrib.mdata
    (pattrib.encrypt ≠ ._NO_PRIVACY_) mfrag
  unfold seccalctkipmic_addresses
  rw [first, second, third]
  simp only [List.getD_cons_succ, List.getD_cons_zero]
  rw [flags.1, flags.2]
  unfold wlanhdr_addresses header_sa
  cases padapter.fwstate <;> rfl

theorem addmic_loop_last (padapter : XmitAdapter) (pattrib : PktAttrib) (laid : Laid) (payload : Nat)
    (micdata : MicData) {length : Nat}
    (rest : laid.last_txcmdsz - pattrib.hdrlen - pattrib.iv_len - pattrib.sw_icv_len = length) :
    addmic_loop padapter pattrib laid 1 payload micdata =
      (rtw_secmicappend micdata
          (Memory.read laid.buf (RND4 payload + pattrib.hdrlen + pattrib.iv_len) length),
        RND4 payload + pattrib.hdrlen + pattrib.iv_len + length,
        [(RND4 payload + pattrib.hdrlen + pattrib.iv_len, length)]) := by
  rw [← rest]
  rfl

theorem addmic_of_oneFragment {padapter : XmitAdapter} {pattrib : PktAttrib} {seqnum : Nat}
    {payload : List UInt8} {laid : Laid} (tkip : pattrib.encrypt = ._TKIP_)
    (keyed : addmic_key padapter pattrib ≠ List.replicate 16 0)
    (one : OneFragment padapter pattrib seqnum (rtw_put_snap pattrib.ether_type ++ payload) laid) :
    MicCoversPacket padapter pattrib payload laid := by
  have header := pattrib.hdrlen_bounds
  have wide : pattrib.hdrlen + (30 - pattrib.hdrlen) = 30 := by omega
  have addresses : seccalctkipmic_addresses (Memory.read laid.buf TXDESC_OFFSET 30) =
      pattrib.dst.bytes ++ (header_sa padapter pattrib).bytes := by
    rw [← wide, Memory.read_add, one.header]
    exact seccalctkipmic_addresses_wlanhdr _ _ _ _ _
  have length : laid.last_txcmdsz - pattrib.hdrlen - pattrib.iv_len - pattrib.sw_icv_len =
      (rtw_put_snap pattrib.ether_type ++ payload).length := by
    rw [one.last_txcmdsz]
    omega
  have start : RND4 TXDESC_OFFSET = TXDESC_OFFSET := rfl
  have ended : laid.payload_end pattrib = TXDESC_OFFSET + pattrib.hdrlen + pattrib.iv_len +
      (rtw_put_snap pattrib.ether_type ++ payload).length := by
    unfold Laid.payload_end
    rw [one.fragments]
    rfl
  refine ⟨_, by rw [xmitframe_addmic, if_pos tkip, if_neg keyed], ?_, ?_, rfl⟩
  · dsimp only
    rw [Laid.nr_frags, one.fragments, List.length_singleton, addmic_loop_last _ _ _ _ _ length, start]
    rfl
  · dsimp only
    rw [Laid.nr_frags, one.fragments, List.length_singleton, addmic_loop_last _ _ _ _ _ length, start,
      one.body, addresses, ended]
    dsimp only
    rw [← rtw_secmicappend_append, ← rtw_secmicappend_append, rtw_secgetmic_append, ← List.append_assoc]
    have read := Memory.read_write laid.buf (TXDESC_OFFSET + pattrib.hdrlen + pattrib.iv_len +
        (rtw_put_snap pattrib.ether_type ++ payload).length)
      (michael (addmic_key padapter pattrib) (mic_message padapter pattrib payload))
    rw [length_michael] at read
    exact read

/-- The walk is right exactly for the frames that have one fragment. -/
theorem addmic_covers_packet_iff {padapter : XmitAdapter} {psta after : TxStaInfo}
    {buf : Nat -> UInt8} {pattrib : PktAttrib} {pkt : EtherFrame} {laid : Laid} (tkip : pattrib.encrypt = ._TKIP_)
    (keyed : addmic_key padapter pattrib ≠ List.replicate 16 0) (counted : pattrib.pktlen = pkt.payload.length)
    (laidOut : coalesce_layout padapter psta buf pattrib pkt = some (laid, after)) :
    MicCoversPacket padapter pattrib pkt.payload laid <-> FitsOne padapter pattrib pkt.payload := by
  have layout := coalesce_layout_spec counted laidOut
  constructor
  · intro covers
    by_contra long
    rcases covers with ⟨outcome, appended, visited, -, -⟩
    rw [xmitframe_addmic, if_pos tkip, if_neg keyed] at appended
    rw [← Option.some.inj appended] at visited
    rcases layout.second_fragment long with ⟨first, second, rest, fragments, full, -⟩
    rw [Laid.nr_frags, fragments, List.length_cons, List.length_cons, addmic_loop,
      if_neg (Nat.succ_ne_zero _), List.map_cons] at visited
    have taken : padapter.frag_len.val - pattrib.hdrlen - pattrib.iv_len - pattrib.sw_icv_len =
        first.body_sz := (Prod.mk.inj (List.cons.inj visited).1).2
    rw [full] at taken
    have room := body_size_gt padapter pattrib
    unfold body_size at taken room
    omega
  · intro fits
    exact addmic_of_oneFragment tkip keyed (layout.oneFragment fits)

/-- A short frame under a pairwise key. -/
theorem addmic_covers_packet_short :
    MicCoversPacket (test_adapter ._TKIP_ true) (test_attrib ._TKIP_ true 20) (test_pkt 20).payload
        (test_laid ._TKIP_ true 20) <->
      FitsOne (test_adapter ._TKIP_ true) (test_attrib ._TKIP_ true 20) (test_pkt 20).payload :=
  @addmic_covers_packet_iff _ (test_psta ._TKIP_) _ (fun _ => 0) _ (test_pkt 20) _ rfl (by decide) rfl
    rfl

/-- A frame with two fragments. -/
theorem addmic_misses_second_fragment :
    (update_attrib (test_adapter ._TKIP_ true) (test_psta ._TKIP_) (test_pkt 300)).map
        (fun filled => filled.1) = some (test_attrib ._TKIP_ true 300) ∧
      ¬ MicCoversPacket (test_adapter ._TKIP_ true) (test_attrib ._TKIP_ true 300)
        (test_pkt 300).payload (test_laid ._TKIP_ true 300) := by
  refine ⟨rfl, ?_⟩
  intro covers
  rcases covers with ⟨outcome, appended, visited, -⟩
  have ranges := congrArg (fun answer => answer.map (fun outcome => outcome.2)) appended
  dsimp only [Option.map_some] at ranges
  rw [visited] at ranges
  revert ranges
  decide +kernel

end Rtl8821ce
