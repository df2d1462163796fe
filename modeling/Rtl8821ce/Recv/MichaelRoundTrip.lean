import Rtl8821ce.Recv.Defrag
import Rtl8821ce.Xmit.Addmic

/-!
# The Michael code on the other side

`recvframe_chkmic` of the receiver meets the code that `xmitframe_addmic` put behind the packet.
-/

namespace Rtl8821ce

/-- The frame after decryption: the bytes of the sender's buffer, an ICV behind them, and what
was parsed. -/
structure ArrivesAs (pattrib : PktAttrib) (buf : Nat -> UInt8) (payload : List UInt8) (precvframe : RecvFrame) :
    Prop where
  encrypt : precvframe.attrib.encrypt = ._TKIP_
  rx_data : ∃ icv, precvframe.attrib.icv_len = icv.length ∧ precvframe.rx_data =
    Memory.read buf TXDESC_OFFSET (pattrib.hdrlen + pattrib.iv_len + (8 + payload.length) + 8) ++ icv
  hdrlen : precvframe.attrib.hdrlen = pattrib.hdrlen
  iv_len : precvframe.attrib.iv_len = pattrib.iv_len
  priority : precvframe.attrib.priority.val = if pattrib.qos_en then pattrib.priority.val else 0
  len : precvframe.len < 2 ^ 32

/-- A frame of one fragment is accepted under the key of its sender. -/
theorem michael_accepted {padapter : XmitAdapter} {psta after : TxStaInfo} {buf : Nat -> UInt8} {pattrib : PktAttrib}
    {pkt : EtherFrame} {laid : Laid} {outcome : Laid × List (Nat × Nat)} {psecuritypriv : MicKeys} {stainfo : StaInfo}
    {precvframe : RecvFrame} (tkip : pattrib.encrypt = ._TKIP_) (counted : pattrib.pktlen = pkt.payload.length)
    (laidOut : coalesce_layout padapter psta buf pattrib pkt = some (laid, after))
    (fits : FitsOne padapter pattrib pkt.payload) (appended : xmitframe_addmic padapter pattrib laid = some outcome)
    (arrives : ArrivesAs pattrib outcome.1.buf pkt.payload precvframe)
    (installed : IS_MCAST precvframe.attrib.ra = true -> psecuritypriv.binstallGrpkey = true)
    (same_key : (if IS_MCAST precvframe.attrib.ra then
        psecuritypriv.dot118021XGrprxmickey precvframe.attrib.key_index
      else stainfo.dot11tkiprxmickey) = addmic_key padapter pattrib) :
    (recvframe_chkmic psecuritypriv (some stainfo) precvframe).1 = ._SUCCESS := by
  have one := (coalesce_layout_spec counted laidOut).oneFragment fits
  have whole : (rtw_put_snap pattrib.ether_type ++ pkt.payload).length = 8 + pkt.payload.length := by
    rw [List.length_append, length_rtw_put_snap]
  generalize rtw_put_snap pattrib.ether_type ++ pkt.payload = body at one whole
  rcases arrives with ⟨encrypt, ⟨icv, icv_len, rx_data⟩, hdrlen, iv_len, priority, len⟩
  have rest : laid.last_txcmdsz - pattrib.hdrlen - pattrib.iv_len - pattrib.sw_icv_len = body.length := by
    rw [one.last_txcmdsz]
    omega
  rw [xmitframe_addmic, if_pos tkip] at appended
  split at appended
  · cases appended
  rw [Laid.nr_frags, one.fragments, List.length_singleton] at appended
  dsimp only at appended
  rw [addmic_loop_last _ _ _ _ _ rest] at appended
  have written := congrArg (fun outcome => outcome.1.buf) (Option.some.inj appended)
  dsimp only at written
  generalize is_code : rtw_secgetmic _ = code at written
  have eight : code.length = 8 := is_code ▸ rfl
  have place : RND4 TXDESC_OFFSET + pattrib.hdrlen + pattrib.iv_len = TXDESC_OFFSET + (pattrib.hdrlen + pattrib.iv_len) :=
    Nat.add_assoc _ _ _
  -- what is read is the header with the IV, the body and the code
  have bytes : precvframe.rx_data =
      Memory.read laid.buf TXDESC_OFFSET (pattrib.hdrlen + pattrib.iv_len) ++ (body ++ (code ++ icv)) := by
    rw [rx_data, ← whole, ← written, place, Memory.read_add, Memory.read_add, ← eight,
      ← Nat.add_assoc TXDESC_OFFSET _ body.length, Memory.read_write,
      Memory.read_write_of_disjoint _ (Or.inl (Nat.le_add_right _ _)),
      Memory.read_write_of_disjoint _ (Or.inl (Nat.le_refl _)), ← Nat.add_assoc, one.body, List.append_assoc,
      List.append_assoc]
  have front : (Memory.read laid.buf TXDESC_OFFSET (pattrib.hdrlen + pattrib.iv_len)).length =
      precvframe.attrib.hdrlen + precvframe.attrib.iv_len := by
    rw [Memory.length_read, hdrlen, iv_len]
  have datalen : (((precvframe.len : Int) - precvframe.attrib.hdrlen - precvframe.attrib.iv_len -
      precvframe.attrib.icv_len - 8) % 2 ^ 32).toNat = body.length := by
    have length : precvframe.len = _ := congrArg List.length bytes
    rw [List.length_append, front, List.length_append, List.length_append, eight, ← icv_len] at length
    omega
  have addresses : seccalctkipmic_addresses precvframe.rx_data =
      seccalctkipmic_addresses (Memory.read laid.buf TXDESC_OFFSET 30) := by
    have wide : pattrib.hdrlen + (30 - pattrib.hdrlen) = 30 := by
      have header := pattrib.hdrlen_bounds
      omega
    rw [bytes, ← wide, Memory.read_add, Memory.read_add, one.header, List.append_assoc,
      seccalctkipmic_addresses_wlanhdr, seccalctkipmic_addresses_wlanhdr]
  have received : rtw_seccalctkipmic (addmic_key padapter pattrib) precvframe.rx_data body
      (UInt8.ofNat precvframe.attrib.priority.val) = code := by
    have pri : UInt8.ofNat precvframe.attrib.priority.val = if pattrib.qos_en then UInt8.ofNat pattrib.priority else 0 := by
      rw [priority]
      cases pattrib.qos_en <;> rfl
    rw [rtw_seccalctkipmic, addresses, pri, ← is_code, place, ← Nat.add_assoc, one.body]
  rw [recvframe_chkmic, if_pos encrypt]
  dsimp only
  split
  case isTrue refused =>
    rw [Bool.and_eq_true, Bool.not_eq_true'] at refused
    exact absurd (installed refused.1) (by rw [refused.2]; exact Bool.false_ne_true)
  case isFalse =>
    dsimp only
    rw [datalen, same_key]
    rw [bytes] at received ⊢
    rw [List.drop_left' front, List.take_left, List.drop_left, List.take_left' eight]
    exact if_pos received

def test_addmic : Laid × List (Nat × Nat) :=
  (xmitframe_addmic (test_adapter ._TKIP_ true) (test_attrib ._TKIP_ true 20) (test_laid ._TKIP_ true 20)).getD
    (test_laid ._TKIP_ true 20, [])

def test_arrival : RecvFrame where
  index := 0
  attrib := { RxPktAttrib.zero with encrypt := ._TKIP_, hdrlen := 26, iv_len := 8, priority := 2 }
  rx_data := Memory.read test_addmic.1.buf TXDESC_OFFSET 70
  tailroom := 0

/-- A short frame under a pairwise key. -/
theorem michael_accepted_short :
    (recvframe_chkmic ⟨false, fun _ => []⟩ (some { StaInfo.init .zero with dot11tkiprxmickey := List.replicate 16 5 })
      test_arrival).1 = ._SUCCESS :=
  @michael_accepted (test_adapter ._TKIP_ true) (test_psta ._TKIP_) _ (fun _ => 0) (test_attrib ._TKIP_ true 20)
    (test_pkt 20) (test_laid ._TKIP_ true 20) test_addmic _ _ _ rfl rfl rfl (by decide) rfl
    ⟨rfl, ⟨[], rfl, rfl⟩, rfl, rfl, by decide, by decide⟩ (by decide) rfl

end Rtl8821ce
