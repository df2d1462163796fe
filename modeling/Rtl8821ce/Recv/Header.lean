import Rtl8821ce.Recv.Frame

/-!
# The fields of an 802.11 header

Each macro reads little-endian fields at fixed places of the bytes that `pbuf`
points to.  Bytes behind the end of a short frame are read as zero.
-/

namespace Rtl8821ce

/-- `le16_to_cpu` of the first two bytes. -/
def le16_to_cpu (pbuf : List UInt8) : Nat :=
  (pbuf.getD 0 0).toNat + 256 * (pbuf.getD 1 0).toNat

/-- The address at `offset`. -/
def addr_at (pbuf : List UInt8) (offset : Nat) : MacAddr where
  bytes := ((pbuf.drop offset).take 6 ++ List.replicate 6 0).take 6
  length_eq := by
    rw [List.length_take, List.length_append, List.length_replicate]
    omega

theorem addr_at_of_take {pbuf : List UInt8} {offset : Nat} {addr : MacAddr}
    (taken : (pbuf.drop offset).take 6 = addr.bytes) : addr_at pbuf offset = addr := by
  rcases addr with ⟨bytes, length⟩
  unfold addr_at
  congr 1
  rw [taken]
  exact List.take_left' length

def WLAN_HDR_A3_LEN : Nat := 24
def WLAN_HDR_A3_QOS_LEN : Nat := 26

/-- The longest header of a frame with four addresses and a QoS control. -/
def WLAN_HDR_A4_QOS_LEN : Nat := 32

def WIFI_MGT_TYPE : Nat := 0x00
def WIFI_CTRL_TYPE : Nat := 0x04
def WIFI_DATA_TYPE : Nat := 0x08

def GetFrameType (pbuf : List UInt8) : Nat := le16_to_cpu pbuf &&& 0x0c
def get_frame_sub_type (pbuf : List UInt8) : Nat := le16_to_cpu pbuf &&& 0xfc
def GetToDs (pbuf : List UInt8) : Bool := le16_to_cpu pbuf &&& 0x0100 != 0
def GetFrDs (pbuf : List UInt8) : Bool := le16_to_cpu pbuf &&& 0x0200 != 0
def GetMFrag (pbuf : List UInt8) : Bool := le16_to_cpu pbuf &&& 0x0400 != 0
def GetPrivacy (pbuf : List UInt8) : Bool := le16_to_cpu pbuf &&& 0x4000 != 0
def GetOrder (pbuf : List UInt8) : Bool := le16_to_cpu pbuf &&& 0x8000 != 0

def get_tofr_ds (pbuf : List UInt8) : Nat :=
  2 * (GetToDs pbuf).toNat + (GetFrDs pbuf).toNat

def GetFragNum (pbuf : List UInt8) : Fin 16 := Fin.ofNat 16 (le16_to_cpu (pbuf.drop 22))
def GetSequence (pbuf : List UInt8) : Fin 4096 := Fin.ofNat 4096 (le16_to_cpu (pbuf.drop 22) / 16)

def GetAddr1Ptr (pbuf : List UInt8) : MacAddr := addr_at pbuf 4
def get_addr2_ptr (pbuf : List UInt8) : MacAddr := addr_at pbuf 10
def GetAddr3Ptr (pbuf : List UInt8) : MacAddr := addr_at pbuf 16

/-- The fields of the QoS control, which `qc` points to. -/
def GetPriority (qc : List UInt8) : Fin 16 := Fin.ofNat 16 (le16_to_cpu qc)
def GetAMsdu (qc : List UInt8) : Bool := le16_to_cpu qc &&& 0x80 != 0

end Rtl8821ce
