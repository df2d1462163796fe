import Rtl8821ce.Hal.TxRing
import Rtl8821ce.Xmit.SwEncrypt

/-!
# Handing a fragmented frame to the hardware

`rtl8821ce_dump_xframe` fills one buffer descriptor for each fragment.  It computes
the length of a fragment, but every descriptor gets the address of the whole buffer,
so the hardware always reads from the first fragment on.

The layout, the Michael code, the encryptors and this function each find the
fragments by arithmetic of their own.  They agree exactly for the frames that have
one fragment.
-/

namespace Rtl8821ce

variable {ring : TxRing} {laid : Laid} {covered : Laid × List (Nat × Nat)} {seqnum : Nat}

/-- `sz` of fragment `t`. -/
def dump_sz (padapter : XmitAdapter) (pattrib : PktAttrib) (laid : Laid) (t : Nat) : Nat :=
  if t ≠ laid.nr_frags - 1 then
    let sz := padapter.frag_len.val - 4
    if !padapter.securitypriv.sw_encrypt then sz - pattrib.icv_len else sz
  else laid.last_txcmdsz

/-- The range that a descriptor tells besides its own room; the packet starts at the
same place of the buffer each time.  A packet is far shorter than the 16 bits of the
length field allow. -/
def rtl8821ce_update_txbd (sz : Nat) : Nat × Nat := (TXDESC_OFFSET, sz)

/-- The ring when a free descriptor was filled for a buffer. -/
def fill_txbd (ring : TxRing) (pxmitbuf : XmitBuf) (txbd : Nat) : TxRing :=
  let described := { ring with buf_desc := Function.update ring.buf_desc txbd (some pxmitbuf) }
  if pxmitbuf.buf_tag ≠ .XMITBUF_CMD then rtl8821ce_enqueue_xmitbuf described pxmitbuf
  else described

/-- The loop over the fragments: the ring behind it, and the ranges that the hardware
was told to read.  The loop ends early when no descriptor is free. -/
def dump_xframe_loop (padapter : XmitAdapter) (pattrib : PktAttrib) (laid : Laid)
    (pxmitbuf : XmitBuf) : (left t : Nat) -> TxRing -> TxRing × List (Nat × Nat)
  | 0, _, ring => (ring, [])
  | left + 1, t, ring =>
      match get_txbd ring with
      | none => (ring, [])
      | some txbd =>
          let later := dump_xframe_loop padapter pattrib laid pxmitbuf left (t + 1)
            (fill_txbd ring pxmitbuf txbd)
          (later.1, rtl8821ce_update_txbd (dump_sz padapter pattrib laid t) :: later.2)

def rtl8821ce_dump_xframe (padapter : XmitAdapter) (pattrib : PktAttrib) (laid : Laid)
    (ring : TxRing) (pxmitbuf : XmitBuf) : TxRing × List (Nat × Nat) :=
  dump_xframe_loop padapter pattrib laid pxmitbuf laid.nr_frags 0 ring

def Fragment.range (fragment : Fragment) (pattrib : PktAttrib) : Nat × Nat :=
  (fragment.mem_start, fragment.len pattrib)

/-- Everybody who walks over the fragments of a frame finds them where they were laid
out: the encryptor of its cipher, and the descriptors when the ring has room for them. -/
structure WalkersAgree (CONFIG_IEEE80211W : Bool) (aes128k128d : List UInt8 -> Block -> Block)
    (padapter : XmitAdapter) (pattrib : PktAttrib) (laid : Laid) : Prop where
  encrypted : pattrib.bswenc = true -> pattrib.encrypt ≠ ._NO_PRIVACY_ ->
    EncryptsPayloads CONFIG_IEEE80211W aes128k128d padapter pattrib laid (laid.complete pattrib)
      (xmitframe_swencrypt CONFIG_IEEE80211W aes128k128d padapter pattrib laid)
  handed : ∀ (ring : TxRing) (pxmitbuf : XmitBuf), ring.qlen + laid.nr_frags < ring.entries ->
    (rtl8821ce_dump_xframe padapter pattrib laid ring pxmitbuf).2 =
      (laid.complete pattrib).map (fun fragment => fragment.range pattrib)

theorem get_txbd_of_room {ring : TxRing} (room : ring.qlen + 1 < ring.entries) :
    get_txbd ring = some ((ring.idx + ring.qlen) % ring.entries) := by
  unfold get_txbd
  exact if_neg (by omega)

theorem fill_txbd_room {pxmitbuf : XmitBuf} {txbd left : Nat} (room : ring.qlen + (left + 1) < ring.entries) :
    (fill_txbd ring pxmitbuf txbd).qlen + left < (fill_txbd ring pxmitbuf txbd).entries := by
  unfold fill_txbd rtl8821ce_enqueue_xmitbuf
  dsimp only
  split
  · dsimp only
    omega
  · dsimp only
    omega

theorem dump_xframe_loop_ranges (padapter : XmitAdapter) (pattrib : PktAttrib) (laid : Laid)
    (pxmitbuf : XmitBuf) {left : Nat} (t : Nat) (room : ring.qlen + left < ring.entries) :
    (dump_xframe_loop padapter pattrib laid pxmitbuf left t ring).2 =
      (List.range' t left).map (fun t => (TXDESC_OFFSET, dump_sz padapter pattrib laid t)) := by
  induction left generalizing t ring with
  | zero => rfl
  | succ left ih =>
    have free := @get_txbd_of_room ring (by omega)
    rw [dump_xframe_loop, free]
    exact congrArg (List.cons _) (ih (t + 1) (fill_txbd_room room))

theorem xmitframe_addmic_some {padapter : XmitAdapter} {pattrib : PktAttrib}
    (appended : xmitframe_addmic padapter pattrib laid = some covered) :
    covered.1.fragments = laid.fragments ∧
      covered.1.last_txcmdsz = laid.last_txcmdsz + pattrib.mic_len ∧
      (pattrib.encrypt ≠ ._TKIP_ -> covered.1 = laid) := by
  unfold xmitframe_addmic at appended
  unfold PktAttrib.mic_len
  split at appended
  case isTrue tkip =>
    rw [if_pos tkip]
    split at appended
    case isTrue missing => exact nomatch appended
    case isFalse keyed =>
      rw [← Option.some.inj appended]
      exact ⟨rfl, rfl, fun other => absurd tkip other⟩
  case isFalse other =>
    rw [if_neg other, ← Option.some.inj appended]
    exact ⟨rfl, rfl, fun _ => rfl⟩

theorem mem_start_grow_last (count : Nat) (fragments : List Fragment) :
    (grow_last count fragments).map Fragment.mem_start = fragments.map Fragment.mem_start := by
  fun_induction grow_last count fragments with
  | case1 => rfl
  | case2 last => rfl
  | case3 fragment next rest ih =>
    exact congrArg (List.cons fragment.mem_start) ih

section Walkers

variable {CONFIG_IEEE80211W : Bool} {aes128k128d : List UInt8 -> Block -> Block}
  {padapter : XmitAdapter} {pattrib : PktAttrib}

theorem complete_of_oneFragment {covered : Laid} {whole : List UInt8}
    (one : OneFragment padapter pattrib seqnum whole laid) (same : covered.fragments = laid.fragments) :
    covered.complete pattrib = [⟨TXDESC_OFFSET, whole.length + pattrib.mic_len⟩] := by
  rw [Laid.complete, same, one.fragments]
  rfl

theorem encrypts_of_oneFragment {whole : List UInt8} (one : OneFragment padapter pattrib seqnum whole laid)
    (appended : xmitframe_addmic padapter pattrib laid = some covered)
    (software : pattrib.bswenc = true) (secured : pattrib.encrypt ≠ ._NO_PRIVACY_) :
    EncryptsPayloads CONFIG_IEEE80211W aes128k128d padapter pattrib covered.1
      (covered.1.complete pattrib)
      (xmitframe_swencrypt CONFIG_IEEE80211W aes128k128d padapter pattrib covered.1) := by
  rcases xmitframe_addmic_some appended with ⟨sameFragments, size, sameFrame⟩
  have header : pattrib.encrypt = ._AES_ ->
      (ccmp_header (Memory.tail covered.1.buf TXDESC_OFFSET) pattrib.hdrlen).hdrlen =
        pattrib.hdrlen := by
    intro ccmp
    rw [sameFrame (by rw [ccmp]; decide)]
    refine @ccmp_header_of_wlanhdr padapter pattrib seqnum false _ ?_
    rw [Memory.read_tail, Nat.add_zero]
    exact one.header
  have icv : pattrib.sw_icv_len = pattrib.icv_len := if_pos software
  have length : covered.1.last_txcmdsz - pattrib.hdrlen - pattrib.iv_len - pattrib.icv_len =
      whole.length + pattrib.mic_len := by
    rw [size, one.last_txcmdsz, icv]
    omega
  have passed : xmitframe_swencrypt CONFIG_IEEE80211W aes128k128d padapter pattrib covered.1 =
      (encrypt_fragment CONFIG_IEEE80211W aes128k128d padapter pattrib covered.1.buf TXDESC_OFFSET
          (whole.length + pattrib.mic_len),
        [(TXDESC_OFFSET + pattrib.hdrlen + pattrib.iv_len, whole.length + pattrib.mic_len)]) := by
    rw [xmitframe_swencrypt_eq software secured, encrypt_frame, Laid.nr_frags, sameFragments,
      one.fragments, ← length]
    rfl
  rcases @encrypt_fragment_eq CONFIG_IEEE80211W aes128k128d padapter
    pattrib covered.1.buf TXDESC_OFFSET (whole.length + pattrib.mic_len) secured header
    with ⟨sealed, sealedLength⟩
  rw [complete_of_oneFragment one sameFragments, passed, sealed]
  refine ⟨rfl, ?_, ?_⟩
  · intro fragment only
    rw [List.mem_singleton.mp only]
    have read := Memory.read_write covered.1.buf (TXDESC_OFFSET + pattrib.hdrlen + pattrib.iv_len)
      (sealed_payload CONFIG_IEEE80211W aes128k128d padapter pattrib covered.1.buf TXDESC_OFFSET
        (whole.length + pattrib.mic_len))
    rw [sealedLength] at read
    exact read
  · intro position outside
    have beside := outside _ (List.mem_singleton.mpr rfl)
    unfold Fragment.payload at beside
    dsimp only at beside ⊢
    exact Memory.write_of_outside _ (by rw [sealedLength]; omega)

theorem handed_of_oneFragment {whole : List UInt8} (one : OneFragment padapter pattrib seqnum whole laid)
    (appended : xmitframe_addmic padapter pattrib laid = some covered) (ring : TxRing)
    (pxmitbuf : XmitBuf) (room : ring.qlen + covered.1.nr_frags < ring.entries) :
    (rtl8821ce_dump_xframe padapter pattrib covered.1 ring pxmitbuf).2 =
      (covered.1.complete pattrib).map (fun fragment => fragment.range pattrib) := by
  rcases xmitframe_addmic_some appended with ⟨sameFragments, size, -⟩
  have count : covered.1.nr_frags = 1 := by
    rw [Laid.nr_frags, sameFragments, one.fragments, List.length_singleton]
  have sz : dump_sz padapter pattrib covered.1 0 =
      Fragment.len ⟨TXDESC_OFFSET, whole.length + pattrib.mic_len⟩ pattrib := by
    unfold dump_sz Fragment.len
    rw [count, if_neg (fun other => other rfl), size, one.last_txcmdsz]
    dsimp only
    omega
  rw [rtl8821ce_dump_xframe, dump_xframe_loop_ranges _ _ _ _ _ room,
    complete_of_oneFragment one sameFragments, count]
  show [(TXDESC_OFFSET, dump_sz padapter pattrib covered.1 0)] = _
  rw [sz]
  rfl

theorem not_handed_of_second {covered : Laid} {first second : Fragment} {rest : List Fragment}
    (fragments : covered.fragments = first :: second :: rest)
    (behind : TXDESC_OFFSET < second.mem_start) (pxmitbuf : XmitBuf)
    (room : ring.qlen + covered.nr_frags < ring.entries) :
    (rtl8821ce_dump_xframe padapter pattrib covered ring pxmitbuf).2 ≠
      (covered.complete pattrib).map (fun fragment => fragment.range pattrib) := by
  intro handed
  have count : covered.nr_frags = rest.length + 2 := by
    rw [Laid.nr_frags, fragments]
    rfl
  have starts := congrArg (List.map Prod.fst) handed
  rw [rtl8821ce_dump_xframe, dump_xframe_loop_ranges _ _ _ _ _ room, count, List.map_map, List.map_map] at starts
  have laidOut : (covered.complete pattrib).map (Prod.fst ∘ fun fragment => fragment.range pattrib) =
      first.mem_start :: second.mem_start :: rest.map Fragment.mem_start := by
    have moved := mem_start_grow_last pattrib.mic_len covered.fragments
    rw [fragments] at moved
    rw [Laid.complete, fragments]
    exact moved
  rw [laidOut, List.range'_succ, List.range'_succ, List.map_cons, List.map_cons] at starts
  have secondStart := (List.cons.inj (List.cons.inj starts).2).1
  have told : TXDESC_OFFSET = second.mem_start := secondStart
  omega

/-- Layout, encryptor and descriptors agree exactly for the frames with one fragment. -/
theorem walkers_agree_iff {psta after : TxStaInfo} {buf : Nat -> UInt8} {pkt : EtherFrame}
    {laid : Laid} {covered : Laid × List (Nat × Nat)} (counted : pattrib.pktlen = pkt.payload.length)
    (laidOut : coalesce_layout padapter psta buf pattrib pkt = some (laid, after))
    (appended : xmitframe_addmic padapter pattrib laid = some covered) :
    WalkersAgree CONFIG_IEEE80211W aes128k128d padapter pattrib covered.1 <->
      FitsOne padapter pattrib pkt.payload := by
  have layout := coalesce_layout_spec counted laidOut
  constructor
  · intro agree
    by_contra long
    rcases layout.second_fragment long with ⟨first, second, rest, fragments, -, behind⟩
    rw [← (xmitframe_addmic_some appended).1] at fragments
    let ring : TxRing :=
      { buf_desc := fun _ => none, idx := 0, entries := covered.1.nr_frags + 1, queue := [],
        qlen := 0, hw_rp_cache := 0 }
    have room : ring.qlen + covered.1.nr_frags < ring.entries := by
      show 0 + covered.1.nr_frags < covered.1.nr_frags + 1
      omega
    exact not_handed_of_second fragments behind ⟨0, .XMITBUF_DATA⟩ room
      (agree.handed ring ⟨0, .XMITBUF_DATA⟩ room)
  · intro fits
    have one := layout.oneFragment fits
    exact ⟨encrypts_of_oneFragment one appended, handed_of_oneFragment one appended⟩

end Walkers

/-- A short frame under TKIP, which the driver encrypts. -/
theorem walkers_agree_short :
    WalkersAgree true (fun _ block => block) (test_adapter ._TKIP_ true)
        (test_attrib ._TKIP_ true 20)
        ((xmitframe_addmic (test_adapter ._TKIP_ true) (test_attrib ._TKIP_ true 20)
          (test_laid ._TKIP_ true 20)).getD (test_laid ._TKIP_ true 20, [])).1 <->
      FitsOne (test_adapter ._TKIP_ true) (test_attrib ._TKIP_ true 20) (test_pkt 20).payload :=
  @walkers_agree_iff true (fun _ block => block) _ _ (test_psta ._TKIP_) _ (fun _ => 0) (test_pkt 20)
    _ _ rfl rfl rfl

/-- Two fragments under CCMP: the encryptor takes four bytes too many for the first
payload, and the second descriptor tells bytes of the first fragment. -/
theorem walkers_disagree_on_second :
    (update_attrib (test_adapter ._AES_ true) (test_psta ._AES_) (test_pkt 300)).map
        (fun filled => filled.1) = some (test_attrib ._AES_ true 300) ∧
      xmitframe_addmic (test_adapter ._AES_ true) (test_attrib ._AES_ true 300)
        (test_laid ._AES_ true 300) = some (test_laid ._AES_ true 300, []) ∧
      ¬ WalkersAgree true (fun _ block => block) (test_adapter ._AES_ true)
        (test_attrib ._AES_ true 300) (test_laid ._AES_ true 300) := by
  refine ⟨rfl, rfl, ?_⟩
  intro agree
  have walked := (agree.encrypted rfl (by decide)).walked
  revert walked
  decide +kernel

end Rtl8821ce
