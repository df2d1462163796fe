import Rtl8821ce.Library.Cut
import Rtl8821ce.Library.Memory
import Rtl8821ce.Xmit.Attrib

/-!
# Laying out the fragments of a frame

`rtw_xmitframe_coalesce` writes the 802.11 header once, and then one fragment
after the other into the buffer of the frame: header, IV, the LLC header in the
first fragment, a part of the packet, and room for the ICV when the driver
encrypts.  A fragment starts at a multiple of four behind the one before, plus
`TXDESC_OFFSET` bytes that only the first fragment needs.

What the loop lays out is said without addresses by `mpdus`: the LLC header and
the packet, cut into pieces, each behind a copy of the header and the IV.

The buffer is a function of the distance from its start, which is a multiple of
four, and is as long as needed.
-/

namespace Rtl8821ce

/-- `TXDESC_OFFSET`, the room for the descriptor. -/
def TXDESC_OFFSET : Nat := 48

def RND4 (x : Nat) : Nat := (x / 4 + (if x % 4 = 0 then 0 else 1)) * 4

def frame_ctl_flags (fwstate : FwState) (mdata privacy mfrag : Bool) : UInt8 :=
  (match fwstate with
    | .WIFI_STATION_STATE => 0x01
    | .WIFI_AP_STATE => 0x02
    | .WIFI_ADHOC_STATE => 0x00) |||
  (if mdata then 0x20 else 0) ||| (if privacy then 0x40 else 0) ||| (if mfrag then 0x04 else 0)

/-- `addr1`, `addr2` and `addr3`. -/
def wlanhdr_addresses (padapter : XmitAdapter) (pattrib : PktAttrib) : MacAddr × MacAddr × MacAddr :=
  match padapter.fwstate with
  | .WIFI_STATION_STATE => (padapter.bssid, pattrib.ta, pattrib.dst)
  | .WIFI_AP_STATE => (pattrib.dst, padapter.bssid, pattrib.src)
  | .WIFI_ADHOC_STATE => (pattrib.dst, pattrib.ta, padapter.bssid)

/-- The header of a frame, with or without the bit that says that more fragments follow. -/
def wlanhdr (padapter : XmitAdapter) (pattrib : PktAttrib) (seqnum : Nat) (mfrag : Bool) : List UInt8 :=
  let addresses := wlanhdr_addresses padapter pattrib
  [(if pattrib.qos then 0x88 else 0x08 : UInt8),
    frame_ctl_flags padapter.fwstate pattrib.mdata (pattrib.encrypt ≠ ._NO_PRIVACY_) mfrag, 0, 0] ++
    addresses.1.bytes ++ addresses.2.1.bytes ++ addresses.2.2.bytes ++
    [UInt8.ofNat (seqnum * 16), UInt8.ofNat (seqnum / 16)] ++
    (if pattrib.qos then [UInt8.ofNat (pattrib.priority + 16 * pattrib.eosp.toNat), 0] else [])

/-- Write the header into `hdr`, whose first 64 bytes are cleared, and count the
sequence number up.  `none` when the station is not linked any more. -/
def rtw_make_wlanhdr (padapter : XmitAdapter) (psta : TxStaInfo) (buf : Nat -> UInt8) (hdr : Nat)
    (pattrib : PktAttrib) : Option ((Nat -> UInt8) × TxStaInfo) :=
  if !psta.fw_linked then none
  else
    let seqnum := (psta.txseq_tid pattrib.priority + 1) % 4096
    let cleared := Memory.write buf hdr (List.replicate 64 0)
    some (Memory.write cleared hdr (wlanhdr padapter pattrib seqnum false),
      { psta with txseq_tid := Function.update psta.txseq_tid pattrib.priority seqnum })

def SetMFrag (buf : Nat -> UInt8) (pbuf : Nat) : Nat -> UInt8 :=
  Memory.write buf (pbuf + 1) [buf (pbuf + 1) ||| 0x04]

def ClearMFrag (buf : Nat -> UInt8) (pbuf : Nat) : Nat -> UInt8 :=
  Memory.write buf (pbuf + 1) [buf (pbuf + 1) &&& 0xfb]

def rtw_put_snap (h_proto : UInt16) : List UInt8 :=
  let oui : List UInt8 :=
    if h_proto = 0x8137 ∨ h_proto = 0x80f3 then [0x00, 0x00, 0xf8] else [0x00, 0x00, 0x00]
  [(0xaa : UInt8), 0xaa, 0x03] ++ oui ++ [(h_proto >>> 8).toUInt8, h_proto.toUInt8]

/-- Where a fragment starts, and how long its LLC header and its part of the packet are. -/
structure Fragment where
  mem_start : Nat
  body_sz : Nat
deriving DecidableEq

/-- The buffer with all fragments.  `nr_frags` is their number. -/
structure Laid where
  buf : Nat -> UInt8
  fragments : List Fragment
  last_txcmdsz : Nat

def Laid.nr_frags (laid : Laid) : Nat := laid.fragments.length

/-- One pass of the loop: `buf`, `llc_sz` and `mem_sz` after it. -/
def coalesce_fragment (padapter : XmitAdapter) (pattrib : PktAttrib) (buf : Nat -> UInt8)
    (mem_start frg_inx : Nat) (pktfile : List UInt8) : (Nat -> UInt8) × Nat × Nat :=
  let frg_len := padapter.frag_len.val - 4
  let buf := SetMFrag buf mem_start
  let pframe := mem_start + pattrib.hdrlen
  let buf := Memory.write buf pframe pattrib.iv
  let pframe := pframe + pattrib.iv_len
  let llc := if frg_inx = 0 then rtw_put_snap pattrib.ether_type else []
  let buf := Memory.write buf pframe llc
  let pframe := pframe + llc.length
  -- what is left of a fragment is positive for every threshold that is admitted
  let mpdu_len :=
    frg_len - pattrib.hdrlen - pattrib.iv_len - llc.length - pattrib.sw_icv_len
  let rlen := if pattrib.bmcst then pattrib.pktlen else mpdu_len
  let part := pktfile.take rlen
  let buf := Memory.write buf pframe part
  let pframe := pframe + part.length
  let buf := if pattrib.bswenc then Memory.write buf pframe pattrib.icv else buf
  (buf, llc.length, part.length)

/-- The loop from a fragment on.  Each pass takes at least one byte of the packet. -/
def coalesce_loop (padapter : XmitAdapter) (pattrib : PktAttrib) :
    (fuel : Nat) -> (buf : Nat -> UInt8) -> (mem_start frg_inx : Nat) -> (pktfile : List UInt8) -> Laid
  | 0, buf, _, _, _ => ⟨buf, [], 0⟩
  | fuel + 1, buf, mem_start, frg_inx, pktfile =>
      let (buf, llc_sz, mem_sz) := coalesce_fragment padapter pattrib buf mem_start frg_inx pktfile
      let fragment : Fragment := ⟨mem_start, llc_sz + mem_sz⟩
      if pattrib.bmcst ∨ (pktfile.drop mem_sz).isEmpty then
        { buf := ClearMFrag buf mem_start
          fragments := [fragment]
          last_txcmdsz := pattrib.hdrlen + pattrib.iv_len + (if frg_inx = 0 then llc_sz else 0) +
            pattrib.sw_icv_len + mem_sz }
      else
        let pframe := mem_start + pattrib.hdrlen + pattrib.iv_len + llc_sz + mem_sz +
          pattrib.sw_icv_len
        let next := RND4 pframe + TXDESC_OFFSET
        let buf := Memory.write buf next (Memory.read buf TXDESC_OFFSET pattrib.hdrlen)
        let later := coalesce_loop padapter pattrib fuel buf next (frg_inx + 1)
          (pktfile.drop mem_sz)
        { later with fragments := fragment :: later.fragments }

/-- `rtw_xmitframe_coalesce` up to the end of the fragment loop. -/
def coalesce_layout (padapter : XmitAdapter) (psta : TxStaInfo) (buf : Nat -> UInt8)
    (pattrib : PktAttrib) (pkt : EtherFrame) : Option (Laid × TxStaInfo) :=
  (rtw_make_wlanhdr padapter psta buf TXDESC_OFFSET pattrib).map (fun made =>
    (coalesce_loop padapter pattrib (pkt.payload.length + 1) made.1 TXDESC_OFFSET 0 pkt.payload,
      made.2))

/-! ## What is laid out -/

/-- The number of bytes of a fragment that the LLC header and the packet get. -/
def body_size (padapter : XmitAdapter) (pattrib : PktAttrib) : Nat :=
  padapter.frag_len.val - 4 - pattrib.hdrlen - pattrib.iv_len - pattrib.sw_icv_len

/-- What the driver encrypts: the LLC header and the packet, in pieces for unicast frames. -/
def bodies (padapter : XmitAdapter) (pattrib : PktAttrib) (whole : List UInt8) : List (List UInt8) :=
  if pattrib.bmcst then [whole] else Cut.pieces (body_size padapter pattrib) whole

def PktAttrib.sw_icv (pattrib : PktAttrib) : List UInt8 := if pattrib.bswenc then pattrib.icv else []

def mpdus (header : Bool -> List UInt8) (pattrib : PktAttrib) : List (List UInt8) -> List (List UInt8)
  | [] => []
  | [last] => [header false ++ pattrib.iv ++ last ++ pattrib.sw_icv]
  | body :: next :: rest =>
      (header true ++ pattrib.iv ++ body ++ pattrib.sw_icv) :: mpdus header pattrib (next :: rest)

def Fragment.len (fragment : Fragment) (pattrib : PktAttrib) : Nat :=
  pattrib.hdrlen + pattrib.iv_len + fragment.body_sz + pattrib.sw_icv_len

def Fragment.bytes (fragment : Fragment) (pattrib : PktAttrib) (buf : Nat -> UInt8) : List UInt8 :=
  Memory.read buf fragment.mem_start (fragment.len pattrib)

def places (pattrib : PktAttrib) : Nat -> List (List UInt8) -> List Fragment
  | _, [] => []
  | mem_start, body :: rest =>
      let fragment : Fragment := ⟨mem_start, body.length⟩
      fragment :: places pattrib (RND4 (mem_start + fragment.len pattrib) + TXDESC_OFFSET) rest

theorem length_rtw_put_snap (h_proto : UInt16) : (rtw_put_snap h_proto).length = 8 := by
  unfold rtw_put_snap
  split
  · rfl
  · rfl

theorem length_wlanhdr (padapter : XmitAdapter) (pattrib : PktAttrib) (seqnum : Nat) (mfrag : Bool) :
    (wlanhdr padapter pattrib seqnum mfrag).length = pattrib.hdrlen := by
  unfold wlanhdr PktAttrib.hdrlen
  simp only [List.length_append, MacAddr.length_eq, List.length_cons, List.length_nil]
  split
  · rfl
  · rfl

theorem length_sw_icv (pattrib : PktAttrib) : pattrib.sw_icv.length = pattrib.sw_icv_len := by
  unfold PktAttrib.sw_icv PktAttrib.sw_icv_len
  split
  · exact pattrib.icv_length
  · rfl

theorem body_size_gt (padapter : XmitAdapter) (pattrib : PktAttrib) : 8 < body_size padapter pattrib := by
  have threshold := padapter.frag_len.admitted
  have header := pattrib.hdrlen_bounds
  have iv := pattrib.encrypt.iv_len_le
  have icv := pattrib.sw_icv_len_le
  unfold body_size PktAttrib.iv_len
  omega

theorem frame_ctl_flags_or (fwstate : FwState) (mdata privacy mfrag : Bool) :
    frame_ctl_flags fwstate mdata privacy mfrag ||| 0x04 =
      frame_ctl_flags fwstate mdata privacy true := by
  cases fwstate <;> revert mdata privacy mfrag <;> decide

theorem frame_ctl_flags_and (fwstate : FwState) (mdata privacy mfrag : Bool) :
    frame_ctl_flags fwstate mdata privacy mfrag &&& 0xfb =
      frame_ctl_flags fwstate mdata privacy false := by
  cases fwstate <;> revert mdata privacy mfrag <;> decide

theorem wlanhdr_set (padapter : XmitAdapter) (pattrib : PktAttrib) (seqnum : Nat) (before after : Bool) :
    (wlanhdr padapter pattrib seqnum before).set 1
        (frame_ctl_flags padapter.fwstate pattrib.mdata (pattrib.encrypt ≠ ._NO_PRIVACY_) after) =
      wlanhdr padapter pattrib seqnum after := by
  unfold wlanhdr
  simp only [List.cons_append, List.nil_append, List.append_assoc, List.set_cons_succ, List.set_cons_zero]

section

variable {padapter : XmitAdapter} {pattrib : PktAttrib} {seqnum : Nat} {buf : Nat -> UInt8}
  {mem_start : Nat} {mfrag : Bool}

theorem flags_of_header (headed : Memory.read buf mem_start pattrib.hdrlen = wlanhdr padapter pattrib seqnum mfrag) :
    buf (mem_start + 1) =
      frame_ctl_flags padapter.fwstate pattrib.mdata (pattrib.encrypt ≠ ._NO_PRIVACY_) mfrag := by
  have long : 1 < pattrib.hdrlen := Nat.lt_of_lt_of_le (by decide) pattrib.hdrlen_bounds.1
  have cell := @Memory.getElem?_read _ buf mem_start _ _ long
  rw [headed] at cell
  exact (Option.some.inj cell).symm

theorem read_SetMFrag (headed : Memory.read buf mem_start pattrib.hdrlen = wlanhdr padapter pattrib seqnum mfrag) :
    Memory.read (SetMFrag buf mem_start) mem_start pattrib.hdrlen =
      wlanhdr padapter pattrib seqnum true := by
  unfold SetMFrag
  rw [Memory.read_write_single, headed, flags_of_header headed, frame_ctl_flags_or, wlanhdr_set]

theorem read_ClearMFrag (headed : Memory.read buf mem_start pattrib.hdrlen = wlanhdr padapter pattrib seqnum mfrag) :
    Memory.read (ClearMFrag buf mem_start) mem_start pattrib.hdrlen =
      wlanhdr padapter pattrib seqnum false := by
  unfold ClearMFrag
  rw [Memory.read_write_single, headed, flags_of_header headed, frame_ctl_flags_and, wlanhdr_set]

def taken (padapter : XmitAdapter) (pattrib : PktAttrib) (whole : List UInt8) : List UInt8 :=
  if pattrib.bmcst then whole else whole.take (body_size padapter pattrib)

def llc_of (pattrib : PktAttrib) (frg_inx : Nat) : List UInt8 :=
  if frg_inx = 0 then rtw_put_snap pattrib.ether_type else []

theorem length_llc_of_le (pattrib : PktAttrib) (frg_inx : Nat) : (llc_of pattrib frg_inx).length ≤ 8 := by
  unfold llc_of
  split
  · exact Nat.le_of_eq (length_rtw_put_snap pattrib.ether_type)
  · exact Nat.zero_le 8

theorem coalesce_fragment_eq {frg_inx : Nat} {pktfile : List UInt8}
    (counted : pattrib.bmcst = true -> pattrib.pktlen = pktfile.length) :
    ∃ part,
      llc_of pattrib frg_inx ++ part = taken padapter pattrib (llc_of pattrib frg_inx ++ pktfile) ∧
      part = pktfile.take part.length ∧
      coalesce_fragment padapter pattrib buf mem_start frg_inx pktfile =
        (Memory.write (SetMFrag buf mem_start) (mem_start + pattrib.hdrlen)
            (pattrib.iv ++ (llc_of pattrib frg_inx ++ part) ++ pattrib.sw_icv),
          (llc_of pattrib frg_inx).length, part.length) := by
  have short := length_llc_of_le pattrib frg_inx
  have room := body_size_gt padapter pattrib
  have header := pattrib.hdrlen_bounds
  refine ⟨pktfile.take (if pattrib.bmcst then pattrib.pktlen else
    padapter.frag_len.val - 4 - pattrib.hdrlen - pattrib.iv_len -
      (llc_of pattrib frg_inx).length - pattrib.sw_icv_len), ?_, ?_, ?_⟩
  · unfold taken
    cases group : pattrib.bmcst with
    | true =>
        rw [if_pos rfl, if_pos rfl, counted group, List.take_length]
    | false =>
        rw [if_neg Bool.false_ne_true, if_neg Bool.false_ne_true, List.take_append]
        have less : padapter.frag_len.val - 4 - pattrib.hdrlen - pattrib.iv_len -
            (llc_of pattrib frg_inx).length - pattrib.sw_icv_len =
              body_size padapter pattrib - (llc_of pattrib frg_inx).length := by
          unfold body_size
          omega
        rw [less, List.take_of_length_le (Nat.le_trans short (Nat.le_of_lt room))]
  · rw [List.length_take, ← List.take_take, List.take_length]
  · unfold coalesce_fragment
    dsimp only
    rw [show (if frg_inx = 0 then rtw_put_snap pattrib.ether_type else []) =
      llc_of pattrib frg_inx from rfl]
    generalize pktfile.take _ = part
    have iv := pattrib.iv_length
    have afterIv : mem_start + pattrib.hdrlen + pattrib.iv_len =
        mem_start + pattrib.hdrlen + pattrib.iv.length := by rw [iv]; rfl
    have written : Memory.write (Memory.write (Memory.write (SetMFrag buf mem_start)
          (mem_start + pattrib.hdrlen) pattrib.iv)
          (mem_start + pattrib.hdrlen + pattrib.iv_len) (llc_of pattrib frg_inx))
          (mem_start + pattrib.hdrlen + pattrib.iv_len + (llc_of pattrib frg_inx).length) part =
        Memory.write (SetMFrag buf mem_start) (mem_start + pattrib.hdrlen)
          (pattrib.iv ++ (llc_of pattrib frg_inx ++ part)) := by
      rw [Memory.write_append, afterIv, Memory.write_append]
    rw [written]
    have afterPart : mem_start + pattrib.hdrlen + pattrib.iv_len + (llc_of pattrib frg_inx).length +
          part.length =
        mem_start + pattrib.hdrlen + (pattrib.iv ++ (llc_of pattrib frg_inx ++ part)).length := by
      rw [List.length_append, List.length_append, afterIv]
      omega
    unfold PktAttrib.sw_icv
    cases pattrib.bswenc with
    | true =>
        rw [if_pos rfl, if_pos rfl, afterPart, Memory.write_append]
    | false =>
        rw [if_neg Bool.false_ne_true, if_neg Bool.false_ne_true, List.append_nil]

theorem coalesce_fragment_spec {frg_inx : Nat} {pktfile : List UInt8}
    (counted : pattrib.bmcst = true -> pattrib.pktlen = pktfile.length)
    (headed : Memory.read buf mem_start pattrib.hdrlen = wlanhdr padapter pattrib seqnum mfrag) :
    ∃ part,
      llc_of pattrib frg_inx ++ part = taken padapter pattrib (llc_of pattrib frg_inx ++ pktfile) ∧
      part = pktfile.take part.length ∧
      (coalesce_fragment padapter pattrib buf mem_start frg_inx pktfile).2 =
        ((llc_of pattrib frg_inx).length, part.length) ∧
      Memory.read (coalesce_fragment padapter pattrib buf mem_start frg_inx pktfile).1 mem_start
          pattrib.hdrlen = wlanhdr padapter pattrib seqnum true ∧
      Memory.read (coalesce_fragment padapter pattrib buf mem_start frg_inx pktfile).1
          (mem_start + pattrib.hdrlen)
          (pattrib.iv_len + (llc_of pattrib frg_inx ++ part).length + pattrib.sw_icv_len) =
        pattrib.iv ++ (llc_of pattrib frg_inx ++ part) ++ pattrib.sw_icv ∧
      (∀ position, position < mem_start ∨ mem_start + pattrib.hdrlen + (pattrib.iv_len +
          (llc_of pattrib frg_inx ++ part).length + pattrib.sw_icv_len) ≤ position ->
        (coalesce_fragment padapter pattrib buf mem_start frg_inx pktfile).1 position =
          buf position) := by
  rcases @coalesce_fragment_eq padapter pattrib buf mem_start frg_inx pktfile counted with ⟨part, body, left, pass⟩
  refine ⟨part, body, left, ?_, ?_, ?_, ?_⟩
  · rw [pass]
  · rw [pass, Memory.read_write_of_disjoint _ (Or.inl (Nat.le_refl _))]
    exact read_SetMFrag headed
  · have behind := Memory.read_write (SetMFrag buf mem_start) (mem_start + pattrib.hdrlen)
      (pattrib.iv ++ (llc_of pattrib frg_inx ++ part) ++ pattrib.sw_icv)
    rw [List.length_append, List.length_append, pattrib.iv_length, length_sw_icv] at behind
    rw [pass]
    exact behind
  · intro position outside
    have header := pattrib.hdrlen_bounds
    rw [pass]
    dsimp only
    rw [Memory.write_of_outside, SetMFrag, Memory.write_of_outside]
    · rw [List.length_singleton]
      omega
    · rw [List.length_append, List.length_append, pattrib.iv_length, length_sw_icv]
      unfold PktAttrib.iv_len at outside
      omega

/-! ## All passes -/

theorem le_RND4 (x : Nat) : x ≤ RND4 x := by
  unfold RND4
  split <;> omega

theorem bodies_ne_nil (padapter : XmitAdapter) (pattrib : PktAttrib) (whole : List UInt8) :
    bodies padapter pattrib whole ≠ [] := by
  unfold bodies
  split
  · exact List.cons_ne_nil _ _
  · exact Cut.pieces_ne_nil _ _

theorem mpdus_cons (header : Bool -> List UInt8) (pattrib : PktAttrib) (body : List UInt8)
    {rest : List (List UInt8)} (more : rest ≠ []) :
    mpdus header pattrib (body :: rest) =
      (header true ++ pattrib.iv ++ body ++ pattrib.sw_icv) :: mpdus header pattrib rest := by
  cases rest with
  | nil => exact absurd rfl more
  | cons next rest => rfl

/-- The fragments that `laid` has from `mem_start` on are those of `whole`. -/
structure LaysOut (padapter : XmitAdapter) (pattrib : PktAttrib) (seqnum mem_start : Nat)
    (whole : List UInt8) (laid : Laid) : Prop where
  placed : laid.fragments = places pattrib mem_start (bodies padapter pattrib whole)
  written : laid.fragments.map (fun fragment => fragment.bytes pattrib laid.buf) =
    mpdus (wlanhdr padapter pattrib seqnum) pattrib (bodies padapter pattrib whole)
  last : ∃ body, (bodies padapter pattrib whole).getLast? = some body ∧
    laid.last_txcmdsz = pattrib.hdrlen + pattrib.iv_len + body.length + pattrib.sw_icv_len

theorem bodies_of_ended {frg_inx : Nat} {part pktfile : List UInt8}
    (body : llc_of pattrib frg_inx ++ part = taken padapter pattrib (llc_of pattrib frg_inx ++ pktfile))
    (left : part = pktfile.take part.length)
    (ended : pattrib.bmcst = true ∨ (pktfile.drop part.length).isEmpty = true) :
    bodies padapter pattrib (llc_of pattrib frg_inx ++ pktfile) =
      [llc_of pattrib frg_inx ++ part] := by
  have all : llc_of pattrib frg_inx ++ part = llc_of pattrib frg_inx ++ pktfile := by
    rcases ended with group | empty
    · rw [body, taken, if_pos group]
    · have complete := List.drop_eq_nil_iff.mp (List.isEmpty_iff.mp empty)
      rw [left, List.take_of_length_le complete]
  unfold bodies
  cases group : pattrib.bmcst with
  | true => rw [if_pos rfl, all]
  | false =>
      rw [if_neg Bool.false_ne_true, ← all]
      refine Cut.pieces_of_le ?_
      rw [body, taken, if_neg (by rw [group]; exact Bool.false_ne_true)]
      exact List.length_take_le _ _

theorem bodies_of_more {frg_inx : Nat} {part pktfile : List UInt8}
    (body : llc_of pattrib frg_inx ++ part = taken padapter pattrib (llc_of pattrib frg_inx ++ pktfile))
    (unicast : ¬ pattrib.bmcst = true) (remaining : ¬ (pktfile.drop part.length).isEmpty = true) :
    bodies padapter pattrib (llc_of pattrib frg_inx ++ pktfile) =
        (llc_of pattrib frg_inx ++ part) ::
          bodies padapter pattrib (llc_of pattrib (frg_inx + 1) ++ pktfile.drop part.length) ∧
      0 < part.length ∧ part.length < pktfile.length := by
  have room := body_size_gt padapter pattrib
  have short := length_llc_of_le pattrib frg_inx
  have fresh : part.length < pktfile.length := by
    refine Nat.lt_of_not_le (fun complete => remaining ?_)
    rw [List.drop_of_length_le complete]
    rfl
  have cutBody : llc_of pattrib frg_inx ++ part =
      (llc_of pattrib frg_inx ++ pktfile).take (body_size padapter pattrib) := by
    rw [body, taken, if_neg unicast]
  have long : body_size padapter pattrib < (llc_of pattrib frg_inx ++ pktfile).length := by
    refine Nat.lt_of_not_le (fun fits => ?_)
    rw [List.take_of_length_le fits] at cutBody
    have lengths := congrArg List.length cutBody
    rw [List.length_append, List.length_append] at lengths
    omega
  have full : (llc_of pattrib frg_inx ++ part).length = body_size padapter pattrib := by
    rw [cutBody, List.length_take, Nat.min_eq_left (Nat.le_of_lt long)]
  have later : llc_of pattrib (frg_inx + 1) ++ pktfile.drop part.length =
      (llc_of pattrib frg_inx ++ pktfile).drop (body_size padapter pattrib) := by
    rw [llc_of, if_neg (Nat.succ_ne_zero frg_inx), List.nil_append, ← full, List.length_append, List.drop_append]
    rw [List.drop_of_length_le (Nat.le_add_right _ _), List.nil_append, Nat.add_sub_cancel_left]
  refine ⟨?_, ?_, fresh⟩
  · unfold bodies
    rw [if_neg unicast, if_neg unicast, Cut.pieces_of_gt (by omega) long, ← cutBody, later]
  · rw [List.length_append] at full
    omega

theorem fragment_bytes_eq {body : List UInt8}
    (header : Memory.read buf mem_start pattrib.hdrlen = wlanhdr padapter pattrib seqnum mfrag)
    (behind : Memory.read buf (mem_start + pattrib.hdrlen)
        (pattrib.iv_len + body.length + pattrib.sw_icv_len) =
      pattrib.iv ++ body ++ pattrib.sw_icv) :
    Fragment.bytes ⟨mem_start, body.length⟩ pattrib buf =
      wlanhdr padapter pattrib seqnum mfrag ++ pattrib.iv ++ body ++ pattrib.sw_icv := by
  unfold Fragment.bytes Fragment.len
  dsimp only
  rw [Nat.add_assoc, Nat.add_assoc, ← Nat.add_assoc pattrib.iv_len, Memory.read_add, header, behind]
  simp only [List.append_assoc]

theorem LaysOut.of_ended {whole body : List UInt8} (single : bodies padapter pattrib whole = [body])
    (header : Memory.read buf mem_start pattrib.hdrlen = wlanhdr padapter pattrib seqnum mfrag)
    (behind : Memory.read buf (mem_start + pattrib.hdrlen)
        (pattrib.iv_len + body.length + pattrib.sw_icv_len) =
      pattrib.iv ++ body ++ pattrib.sw_icv) :
    LaysOut padapter pattrib seqnum mem_start whole
      { buf := ClearMFrag buf mem_start
        fragments := [⟨mem_start, body.length⟩]
        last_txcmdsz := pattrib.hdrlen + pattrib.iv_len + body.length + pattrib.sw_icv_len } := by
  refine ⟨?_, ?_, ?_⟩
  · rw [single, places, places]
  · rw [single]
    refine congrArg (fun mpdu => [mpdu]) (fragment_bytes_eq (read_ClearMFrag header) ?_)
    have long := pattrib.hdrlen_bounds.1
    unfold ClearMFrag
    rw [Memory.read_write_of_disjoint _ (Or.inr ?_), behind]
    rw [List.length_singleton]
    omega
  · rw [single]
    exact ⟨body, rfl, rfl⟩

theorem LaysOut.of_more {whole body rest : List UInt8} {later : Laid} {next : Nat}
    (cut : bodies padapter pattrib whole = body :: bodies padapter pattrib rest)
    (place : RND4 (mem_start + Fragment.len ⟨mem_start, body.length⟩ pattrib) + TXDESC_OFFSET = next)
    (layout : LaysOut padapter pattrib seqnum next rest later)
    (header : Memory.read later.buf mem_start pattrib.hdrlen =
      wlanhdr padapter pattrib seqnum true)
    (behind : Memory.read later.buf (mem_start + pattrib.hdrlen)
        (pattrib.iv_len + body.length + pattrib.sw_icv_len) =
      pattrib.iv ++ body ++ pattrib.sw_icv) :
    LaysOut padapter pattrib seqnum mem_start whole
      { later with fragments := ⟨mem_start, body.length⟩ :: later.fragments } := by
  refine ⟨?_, ?_, ?_⟩
  · dsimp only
    rw [cut, places, layout.placed, ← place]
  · rw [cut, mpdus_cons _ _ _ (bodies_ne_nil _ _ _), List.map_cons, ← layout.written]
    exact congrArg (fun mpdu => mpdu :: _) (fragment_bytes_eq header behind)
  · rcases layout.last with ⟨last, isLast, size⟩
    refine ⟨last, ?_, size⟩
    rw [cut]
    cases rests : bodies padapter pattrib rest with
    | nil => exact absurd rests (bodies_ne_nil _ _ _)
    | cons first others =>
        rw [List.getLast?_cons_cons, ← rests]
        exact isLast

/-- The loop lays out the rest of the packet, and leaves everything before it alone.  The
first fragment is the template for the headers of all others. -/
theorem coalesce_loop_spec {fuel frg_inx : Nat} {pktfile : List UInt8} (enough : pktfile.length < fuel)
    (counted : pattrib.bmcst = true -> pattrib.pktlen = pktfile.length)
    (headed : Memory.read buf mem_start pattrib.hdrlen = wlanhdr padapter pattrib seqnum mfrag)
    (template : mem_start = TXDESC_OFFSET ∨
      TXDESC_OFFSET + pattrib.hdrlen ≤ mem_start ∧
        Memory.read buf TXDESC_OFFSET pattrib.hdrlen = wlanhdr padapter pattrib seqnum true) :
    LaysOut padapter pattrib seqnum mem_start (llc_of pattrib frg_inx ++ pktfile)
        (coalesce_loop padapter pattrib fuel buf mem_start frg_inx pktfile) ∧
      ∀ position, position < mem_start ->
        (coalesce_loop padapter pattrib fuel buf mem_start frg_inx pktfile).buf position =
          buf position := by
  induction fuel generalizing buf mem_start mfrag frg_inx pktfile with
  | zero => exact absurd enough (Nat.not_lt_zero _)
  | succ fuel ih =>
      rcases @coalesce_fragment_spec padapter pattrib seqnum buf mem_start mfrag frg_inx pktfile counted
          headed with ⟨part, body, left, sizes, header, behind, outside⟩
      unfold coalesce_loop
      generalize coalesce_fragment padapter pattrib buf mem_start frg_inx pktfile = pass at *
      rcases pass with ⟨written, llc_sz, mem_sz⟩
      rcases Prod.mk.inj sizes with ⟨rfl, rfl⟩
      dsimp only at header behind outside ⊢
      rw [← List.length_append]
      split
      case isTrue ended =>
        have size : pattrib.hdrlen + pattrib.iv_len +
            (if frg_inx = 0 then (llc_of pattrib frg_inx).length else 0) + pattrib.sw_icv_len +
              part.length =
            pattrib.hdrlen + pattrib.iv_len + (llc_of pattrib frg_inx ++ part).length +
              pattrib.sw_icv_len := by
          rw [List.length_append]
          by_cases first : frg_inx = 0
          · rw [if_pos first]
            omega
          · have noLlc : (llc_of pattrib frg_inx).length = 0 := by
              rw [llc_of, if_neg first]
              rfl
            rw [if_neg first]
            omega
        rw [size]
        refine ⟨.of_ended (bodies_of_ended body left ended) header behind, ?_⟩
        intro position before
        exact (Memory.write_of_outside _ (Or.inl (by omega))).trans (outside position (Or.inl before))
      case isFalse more =>
        rw [not_or] at more
        rcases bodies_of_more body more.1 more.2 with ⟨cut, grows, fresh⟩
        have endEq : mem_start + pattrib.hdrlen + pattrib.iv_len + (llc_of pattrib frg_inx).length +
            part.length + pattrib.sw_icv_len = mem_start +
              Fragment.len ⟨mem_start, (llc_of pattrib frg_inx ++ part).length⟩ pattrib := by
          unfold Fragment.len
          dsimp only
          rw [List.length_append]
          omega
        have rounded := le_RND4 (mem_start +
          Fragment.len ⟨mem_start, (llc_of pattrib frg_inx ++ part).length⟩ pattrib)
        have size : Fragment.len ⟨mem_start, (llc_of pattrib frg_inx ++ part).length⟩ pattrib =
            pattrib.hdrlen + pattrib.iv_len + (llc_of pattrib frg_inx ++ part).length +
              pattrib.sw_icv_len := rfl
        rw [endEq]
        generalize place : RND4 (mem_start + Fragment.len ⟨mem_start,
          (llc_of pattrib frg_inx ++ part).length⟩ pattrib) + TXDESC_OFFSET = next
        have templateAfter : Memory.read written TXDESC_OFFSET pattrib.hdrlen =
            wlanhdr padapter pattrib seqnum true := by
          rcases template with here | ⟨below, copied⟩
          · rw [← here, header]
          · rw [← copied]
            exact Memory.read_congr (fun i inside => outside _ (Or.inl (by omega)))
        have copied : Memory.read (Memory.write written next
            (Memory.read written TXDESC_OFFSET pattrib.hdrlen)) next pattrib.hdrlen =
              wlanhdr padapter pattrib seqnum true := by
          have copy := Memory.read_write written next
            (Memory.read written TXDESC_OFFSET pattrib.hdrlen)
          rw [Memory.length_read] at copy
          rw [copy, templateAfter]
        have stillThere : Memory.read (Memory.write written next
            (Memory.read written TXDESC_OFFSET pattrib.hdrlen)) TXDESC_OFFSET pattrib.hdrlen =
              wlanhdr padapter pattrib seqnum true := by
          rw [Memory.read_write_of_disjoint _ (Or.inl (by omega)), templateAfter]
        obtain ⟨rest, frame⟩ := @ih
          (Memory.write written next (Memory.read written TXDESC_OFFSET pattrib.hdrlen)) next true
          (frg_inx + 1) (pktfile.drop part.length)
          (by
            rw [List.length_drop]
            omega)
          (fun group => absurd group more.1) copied (Or.inr ⟨by omega, stillThere⟩)
        generalize coalesce_loop padapter pattrib fuel _ next (frg_inx + 1) _ = laid at *
        have kept : ∀ position, position < next -> laid.buf position = written position := by
          intro position before
          rw [frame position before, Memory.write_of_outside _ (Or.inl before)]
        refine ⟨.of_more cut place rest ?_ ?_, ?_⟩
        · rw [← header]
          exact Memory.read_congr (fun i inside => kept _ (by omega))
        · rw [← behind]
          exact Memory.read_congr (fun i inside => kept _ (by omega))
        · intro position before
          exact (kept position (by omega)).trans (outside position (Or.inl before))

end

theorem coalesce_layout_spec {padapter : XmitAdapter} {psta after : TxStaInfo} {buf : Nat -> UInt8}
    {pattrib : PktAttrib} {pkt : EtherFrame} {laid : Laid} (counted : pattrib.pktlen = pkt.payload.length)
    (laidOut : coalesce_layout padapter psta buf pattrib pkt = some (laid, after)) :
    LaysOut padapter pattrib (after.txseq_tid pattrib.priority) TXDESC_OFFSET
      (rtw_put_snap pattrib.ether_type ++ pkt.payload) laid := by
  unfold coalesce_layout rtw_make_wlanhdr at laidOut
  split at laidOut
  case isTrue refused => exact nomatch laidOut
  case isFalse linked =>
    rw [Option.map_some] at laidOut
    rcases Prod.mk.inj (Option.some.inj laidOut) with ⟨rfl, rfl⟩
    have written := Memory.read_write (Memory.write buf TXDESC_OFFSET (List.replicate 64 0))
      TXDESC_OFFSET (wlanhdr padapter pattrib ((psta.txseq_tid pattrib.priority + 1) % 4096) false)
    rw [length_wlanhdr] at written
    have looped := (@coalesce_loop_spec padapter pattrib _ _ TXDESC_OFFSET false
      (pkt.payload.length + 1) 0 pkt.payload (Nat.lt_succ_self _) (fun _ => counted) written
      (Or.inl rfl)).1
    dsimp only
    rw [Function.update_self]
    exact looped

/-- A frame has one fragment when it goes to a group or fits below the threshold. -/
def FitsOne (padapter : XmitAdapter) (pattrib : PktAttrib) (payload : List UInt8) : Prop :=
  pattrib.bmcst = true ∨ 8 + payload.length ≤ body_size padapter pattrib

instance (padapter : XmitAdapter) (pattrib : PktAttrib) (payload : List UInt8) :
    Decidable (FitsOne padapter pattrib payload) :=
  inferInstanceAs (Decidable (_ ∨ _))

theorem bodies_of_fitsOne {padapter : XmitAdapter} {pattrib : PktAttrib} {payload : List UInt8}
    (fits : FitsOne padapter pattrib payload) :
    bodies padapter pattrib (rtw_put_snap pattrib.ether_type ++ payload) =
      [rtw_put_snap pattrib.ether_type ++ payload] := by
  unfold bodies
  split
  case isTrue group => rfl
  case isFalse unicast =>
    refine Cut.pieces_of_le ?_
    rw [List.length_append, length_rtw_put_snap]
    exact fits.resolve_left unicast

theorem bodies_of_not_fitsOne {padapter : XmitAdapter} {pattrib : PktAttrib} {payload : List UInt8}
    (long : ¬ FitsOne padapter pattrib payload) :
    bodies padapter pattrib (rtw_put_snap pattrib.ether_type ++ payload) =
      (rtw_put_snap pattrib.ether_type ++ payload).take (body_size padapter pattrib) ::
        Cut.pieces (body_size padapter pattrib)
          ((rtw_put_snap pattrib.ether_type ++ payload).drop (body_size padapter pattrib)) := by
  rw [FitsOne, not_or] at long
  have room := body_size_gt padapter pattrib
  unfold bodies
  rw [if_neg long.1, Cut.pieces_of_gt (by omega)]
  rw [List.length_append, length_rtw_put_snap]
  exact Nat.lt_of_not_le long.2

/-- A frame that fits, part by part. -/
structure OneFragment (padapter : XmitAdapter) (pattrib : PktAttrib) (seqnum : Nat)
    (whole : List UInt8) (laid : Laid) : Prop where
  fragments : laid.fragments = [⟨TXDESC_OFFSET, whole.length⟩]
  header : Memory.read laid.buf TXDESC_OFFSET pattrib.hdrlen =
    wlanhdr padapter pattrib seqnum false
  body : Memory.read laid.buf (TXDESC_OFFSET + pattrib.hdrlen + pattrib.iv_len) whole.length = whole
  last_txcmdsz : laid.last_txcmdsz =
    pattrib.hdrlen + pattrib.iv_len + whole.length + pattrib.sw_icv_len

theorem LaysOut.oneFragment {padapter : XmitAdapter} {pattrib : PktAttrib} {seqnum : Nat}
    {payload : List UInt8} {laid : Laid} (layout : LaysOut padapter pattrib seqnum TXDESC_OFFSET
      (rtw_put_snap pattrib.ether_type ++ payload) laid)
    (fits : FitsOne padapter pattrib payload) :
    OneFragment padapter pattrib seqnum (rtw_put_snap pattrib.ether_type ++ payload) laid := by
  have one := bodies_of_fitsOne fits
  generalize rtw_put_snap pattrib.ether_type ++ payload = whole at *
  have placed := layout.placed
  have written := layout.written
  rcases layout.last with ⟨last, isLast, size⟩
  rw [one, places, places] at placed
  rw [one, placed, List.map_singleton, mpdus] at written
  rw [one, List.getLast?_singleton] at isLast
  rw [← Option.some.inj isLast] at size
  have bytes := List.cons.inj written
  have read := bytes.1
  dsimp only [Fragment.bytes, Fragment.len] at read
  simp only [Memory.read_add, List.append_assoc] at read
  have front := List.append_inj read (by rw [Memory.length_read, length_wlanhdr])
  have middle := List.append_inj front.2 (by rw [Memory.length_read, pattrib.iv_length]; rfl)
  have back := List.append_inj middle.2 (Memory.length_read _ _ _)
  rw [← Nat.add_assoc] at back
  exact ⟨placed, front.1, back.1, size⟩

/-- A frame that does not fit has a full first fragment, and the second one lies behind the
descriptor room. -/
theorem LaysOut.second_fragment {padapter : XmitAdapter} {pattrib : PktAttrib} {seqnum : Nat}
    {payload : List UInt8} {laid : Laid} (layout : LaysOut padapter pattrib seqnum TXDESC_OFFSET
      (rtw_put_snap pattrib.ether_type ++ payload) laid)
    (long : ¬ FitsOne padapter pattrib payload) :
    ∃ first second, ∃ rest,
      laid.fragments = first :: second :: rest ∧
        first.body_sz = body_size padapter pattrib ∧ TXDESC_OFFSET < second.mem_start := by
  have placed := layout.placed
  rw [bodies_of_not_fitsOne long, places] at placed
  have room := body_size_gt padapter pattrib
  rw [FitsOne, not_or] at long
  have cut : ((rtw_put_snap pattrib.ether_type ++ payload).take
      (body_size padapter pattrib)).length = body_size padapter pattrib := by
    rw [List.length_take, List.length_append, length_rtw_put_snap]
    omega
  rcases List.exists_cons_of_ne_nil
    (Cut.pieces_ne_nil (body_size padapter pattrib)
      ((rtw_put_snap pattrib.ether_type ++ payload).drop (body_size padapter pattrib)))
    with ⟨body, others, more⟩
  rw [more, places] at placed
  refine ⟨_, _, _, placed, cut, ?_⟩
  have start : 0 < TXDESC_OFFSET := by decide
  dsimp only
  have behind := le_RND4 (TXDESC_OFFSET + Fragment.len ⟨TXDESC_OFFSET,
    ((rtw_put_snap pattrib.ether_type ++ payload).take (body_size padapter pattrib)).length⟩ pattrib)
  omega

def test_layout (encrypt : Algorithm) (sw_encrypt : Bool) (length : Nat) : Option (Laid × TxStaInfo) :=
  coalesce_layout (test_adapter encrypt sw_encrypt) (test_psta encrypt) (fun _ => 0)
    (test_attrib encrypt sw_encrypt length) (test_pkt length)

def test_laid (encrypt : Algorithm) (sw_encrypt : Bool) (length : Nat) : Laid :=
  ((test_layout encrypt sw_encrypt length).map (fun laid => laid.1)).getD ⟨fun _ => 0, [], 0⟩

/-- The first frame of the station has sequence number 1. -/
theorem test_layout_some (encrypt : Algorithm) (sw_encrypt : Bool) (length : Nat) :
    test_layout encrypt sw_encrypt length =
      some (test_laid encrypt sw_encrypt length,
        { test_psta encrypt with
          txseq_tid := Function.update (fun _ => 0) (test_attrib encrypt sw_encrypt length).priority
            1 }) :=
  rfl

end Rtl8821ce
