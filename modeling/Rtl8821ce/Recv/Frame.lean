import Mathlib.Algebra.Group.Int.Defs
import Mathlib.Algebra.GroupWithZero.Nat
import Mathlib.Data.List.Basic

/-!
# Received frames

A `recv_frame` is one entry of `precv_frame_buf`, known by its place there,
with the attributes that the receive path fills in and the bytes between
`rx_data` and `rx_tail`.  The source keeps `len` equal to the distance of the
two pointers in every function that moves one of them, so it is the length of
the bytes here; `tailroom` is what is left up to `rx_end`.
-/

namespace Rtl8821ce

/-- An address of `ETH_ALEN` bytes. -/
structure MacAddr where
  bytes : List UInt8
  length_eq : bytes.length = 6
deriving DecidableEq

def MacAddr.zero : MacAddr := ⟨List.replicate 6 0, rfl⟩

/-- The address `ff:ff:ff:ff:ff:ff`. -/
def MacAddr.broadcast : MacAddr := ⟨List.replicate 6 0xff, rfl⟩

/-- The locally administered addresses of the examples. -/
def MacAddr.ofLast (last : UInt8) : MacAddr := ⟨[0x02, 0, 0, 0, 0, last], rfl⟩

-- The literals of priorities, fragment numbers and sequence numbers.
instance neZero_eight : NeZero 8 := ⟨by decide⟩
instance neZero_sixteen : NeZero 16 := ⟨by decide⟩
instance neZero_sequence : NeZero 4096 := ⟨by decide⟩

/-- `IS_MCAST`: the group bit of the first byte. -/
def IS_MCAST (da : MacAddr) : Bool :=
  (da.bytes.headD 0 &&& 0x01) != 0

def is_broadcast_mac_addr (addr : MacAddr) : Bool := addr.bytes == List.replicate 6 0xff

/-- What the receive functions answer.  `RTW_RX_HANDLED` says that the frame
has another owner now. -/
inductive RecvStatus
  | _FAIL
  | _SUCCESS
  | RTW_RX_HANDLED
deriving DecidableEq, Repr

/-- The encryption algorithms the data paths tell apart. -/
inductive Algorithm
  | _NO_PRIVACY_
  | _WEP40_
  | _TKIP_
  | _AES_
  | _WEP104_
deriving DecidableEq, Repr

/-- The fields of `struct rx_pkt_attrib` that the modelled functions use.
`GetSequence` and `GetFragNum` cut the sequence and the fragment number to
twelve and four bits. -/
structure RxPktAttrib where
  hdrlen : Nat
  to_fr_ds : Nat
  amsdu : Bool
  qos : Bool
  priority : Fin 16
  seq_num : Fin 4096
  frag_num : Fin 16
  mfrag : Bool
  privacy : Bool
  bdecrypted : Bool
  encrypt : Algorithm
  iv_len : Nat
  icv_len : Nat
  eth_type : Nat
  dst : MacAddr
  src : MacAddr
  ta : MacAddr
  ra : MacAddr
  bssid : MacAddr
  key_index : Nat
deriving DecidableEq

/-- The attributes of a frame that has just been taken from the free queue. -/
def RxPktAttrib.zero : RxPktAttrib where
  hdrlen := 0
  to_fr_ds := 0
  amsdu := false
  qos := false
  priority := 0
  seq_num := 0
  frag_num := 0
  mfrag := false
  privacy := false
  bdecrypted := false
  encrypt := ._NO_PRIVACY_
  iv_len := 0
  icv_len := 0
  eth_type := 0
  dst := .zero
  src := .zero
  ta := .zero
  ra := .zero
  bssid := .zero
  key_index := 0

def NUM_STA : Nat := 32

theorem zero_lt_NUM_STA : 0 < NUM_STA := by decide
theorem one_lt_NUM_STA : 1 < NUM_STA := by decide

instance lawfulBEq_sta : LawfulBEq (Fin NUM_STA) := inferInstance

/-- One entry of `precv_frame_buf`.  `preorder_ctrl` points to a session of a
station record, known by its place and its TID. -/
structure RecvFrame where
  index : Nat
  attrib : RxPktAttrib
  rx_data : List UInt8
  tailroom : Nat
  preorder_ctrl : Option (Fin NUM_STA × Fin 16) := none
deriving DecidableEq

namespace RecvFrame

/-- `len`, which every function below moves together with the pointers. -/
def len (precvframe : RecvFrame) : Nat := precvframe.rx_data.length

end RecvFrame

/-- Move `rx_data` forward; `none` is the `NULL` of a frame that is too short. -/
def recvframe_pull (precvframe : RecvFrame) (sz : Nat) : Option RecvFrame :=
  if precvframe.len < sz then none
  else some { precvframe with rx_data := precvframe.rx_data.drop sz }

/-- Move `rx_tail` forward over bytes that were written there. -/
def recvframe_put (precvframe : RecvFrame) (bytes : List UInt8) : Option RecvFrame :=
  if precvframe.tailroom < bytes.length then none
  else some { precvframe with
    rx_data := precvframe.rx_data ++ bytes
    tailroom := precvframe.tailroom - bytes.length }

/-- Move `rx_tail` back. -/
def recvframe_pull_tail (precvframe : RecvFrame) (sz : Nat) : Option RecvFrame :=
  if precvframe.len < sz then none
  else some { precvframe with
    rx_data := precvframe.rx_data.take (precvframe.len - sz)
    tailroom := precvframe.tailroom + sz }

end Rtl8821ce
