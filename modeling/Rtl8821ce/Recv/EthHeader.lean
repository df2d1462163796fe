import Rtl8821ce.Recv.Defrag

/-!
# From the 802.11 header to the Ethernet header

`wlanhdr_to_ethhdr` takes the 802.11 header off a received frame and puts an
Ethernet header there.  An LLC header whose EtherType is that of the Ethernet frame
goes as well; any other one stays, behind a length in place of the EtherType.  The
adapter here is out of test mode.
-/

namespace Rtl8821ce

def rtw_rfc1042_header : List UInt8 := [0xaa, 0xaa, 0x03, 0x00, 0x00, 0x00]
def rtw_bridge_tunnel_header : List UInt8 := [0xaa, 0xaa, 0x03, 0x00, 0x00, 0xf8]
def SNAP_ETH_TYPE_IPX : List UInt8 := [0x81, 0x37]
def SNAP_ETH_TYPE_APPLETALK_AARP : List UInt8 := [0x80, 0xf3]

def SNAP_SIZE : Nat := 6

/-- `count` bytes at `offset`; those behind the end of a short frame are read as zero. -/
def memcmp_bytes (ptr : List UInt8) (offset count : Nat) : List UInt8 :=
  (List.range count).map (fun i => ptr.getD (offset + i) 0)

/-- The LLC header at `offset` can be replaced by an EtherType. -/
def bsnaphdr (ptr : List UInt8) (offset : Nat) : Bool :=
  let psnap := memcmp_bytes ptr offset SNAP_SIZE
  let psnap_type := memcmp_bytes ptr (offset + SNAP_SIZE) 2
  (psnap = rtw_rfc1042_header && psnap_type ≠ SNAP_ETH_TYPE_IPX &&
    psnap_type ≠ SNAP_ETH_TYPE_APPLETALK_AARP) || psnap = rtw_bridge_tunnel_header

/-- `htons` of a number, as two bytes in memory. -/
def htons (x : Nat) : List UInt8 := [UInt8.ofNat (x / 256), UInt8.ofNat x]

def overwrite_front (bytes ptr : List UInt8) : List UInt8 :=
  (bytes ++ ptr.drop bytes.length).take ptr.length

/-- Put the Ethernet header in place of the 802.11 header; `none` when the frame is
shorter than what has to go. -/
def wlanhdr_to_ethhdr (precvframe : RecvFrame) : Option RecvFrame :=
  let pattrib := precvframe.attrib
  let precvframe :=
    if pattrib.encrypt ≠ ._NO_PRIVACY_ then
      (recvframe_pull_tail precvframe pattrib.icv_len).getD precvframe
    else precvframe
  let ptr := precvframe.rx_data
  let bsnaphdr := bsnaphdr ptr (pattrib.hdrlen + pattrib.iv_len)
  let rmv_len := pattrib.hdrlen + pattrib.iv_len + (if bsnaphdr then SNAP_SIZE else 0)
  let len := precvframe.len - rmv_len
  let eth_type := 256 * (ptr.getD rmv_len 0).toNat + (ptr.getD (rmv_len + 1) 0).toNat
  (recvframe_pull precvframe (rmv_len - 14 + (if bsnaphdr then 2 else 0))).map (fun pulled =>
    { pulled with
      attrib := { pattrib with eth_type := eth_type }
      rx_data := overwrite_front
        (pattrib.dst.bytes ++ pattrib.src.bytes ++ (if bsnaphdr then [] else htons len))
        pulled.rx_data })

def ether_type_bytes (h_proto : UInt16) : List UInt8 := [(h_proto >>> 8).toUInt8, h_proto.toUInt8]

theorem ether_type_bytes_inj {first second : UInt16}
    (same : ether_type_bytes first = ether_type_bytes second) : first = second := by
  have cells := List.cons.inj same
  have high := congrArg UInt8.toNat cells.1
  have low := congrArg UInt8.toNat (List.cons.inj cells.2).1
  have firstBound := first.toNat_lt
  have secondBound := second.toNat_lt
  simp only [UInt16.toNat_toUInt8, UInt16.toNat_shiftRight, UInt16.reduceToNat,
    Nat.reduceMod, Nat.shiftRight_eq_div_pow] at high low
  apply UInt16.toNat_inj.mp
  omega

theorem memcmp_bytes_append (front body : List UInt8) (count : Nat) {offset : Nat}
    (within : count ≤ body.length) (start : front.length = offset) :
    memcmp_bytes (front ++ body) offset count = body.take count := by
  subst start
  apply List.ext_getElem
  · rw [memcmp_bytes, List.length_map, List.length_range, List.length_take, Nat.min_eq_left within]
  · intro i readable inside
    rw [List.length_take] at inside
    simp only [memcmp_bytes, List.getElem_map, List.getElem_range, List.getElem_take]
    rw [List.getD_eq_getElem?_getD, List.getElem?_append_right (Nat.le_add_right _ _),
      Nat.add_sub_cancel_left, List.getElem?_eq_getElem (by omega), Option.getD_some]

/-- A frame whose LLC header goes: the addresses come in front of the EtherType. -/
theorem wlanhdr_to_ethhdr_of_bsnaphdr {precvframe : RecvFrame} (plain : precvframe.attrib.encrypt = ._NO_PRIVACY_)
    (header : 24 ≤ precvframe.attrib.hdrlen + precvframe.attrib.iv_len)
    (snap : bsnaphdr precvframe.rx_data (precvframe.attrib.hdrlen + precvframe.attrib.iv_len) = true)
    (enough : SNAP_SIZE ≤ precvframe.body.length) :
    (wlanhdr_to_ethhdr precvframe).map (fun ethernet => ethernet.rx_data) =
      some (precvframe.attrib.dst.bytes ++ precvframe.attrib.src.bytes ++
        precvframe.body.drop SNAP_SIZE) := by
  have six : SNAP_SIZE = 6 := rfl
  have long := RecvFrame.length_body precvframe
  have addresses : (precvframe.attrib.dst.bytes ++ precvframe.attrib.src.bytes).length = 12 := by
    rw [List.length_append, MacAddr.length_eq, MacAddr.length_eq]
  have pulled : precvframe.attrib.hdrlen + precvframe.attrib.iv_len + SNAP_SIZE - 14 + 2 =
      precvframe.attrib.hdrlen + precvframe.attrib.iv_len - 6 := by omega
  unfold wlanhdr_to_ethhdr
  dsimp only
  rw [if_neg (not_not_intro plain), snap, if_pos rfl, if_pos rfl, if_pos rfl, List.append_nil, pulled, recvframe_pull,
    if_neg (by omega), Option.map_some, Option.map_some]
  dsimp only
  refine congrArg some ?_
  unfold overwrite_front
  rw [addresses, List.drop_drop, RecvFrame.body, List.drop_drop]
  have behind : precvframe.attrib.hdrlen + precvframe.attrib.iv_len - 6 + 12 =
      precvframe.attrib.hdrlen + precvframe.attrib.iv_len + SNAP_SIZE := by omega
  rw [behind]
  apply List.take_of_length_le
  rw [List.length_append, addresses, List.length_drop, List.length_drop]
  unfold RecvFrame.len at long
  omega

end Rtl8821ce
