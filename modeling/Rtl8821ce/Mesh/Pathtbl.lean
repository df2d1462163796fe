import Mathlib.Data.BitVec
import Rtl8821ce.Recv.Frame

/-!
# Mesh paths

A mesh path says by which neighbour a destination is reached, how fresh that
information is and what it costs, and it keeps the frames that wait for the
path to be resolved.  Frames are named by the numbers of their `xmit_frame`,
and a `sta_info` by its address.
-/

namespace Rtl8821ce

/-- `enum rtw_mesh_path_flags`, one field a bit. -/
structure MeshPathFlags where
  ACTIVE : Bool
  RESOLVING : Bool
  SN_VALID : Bool
  FIXED : Bool
  RESOLVED : Bool
  REQ_QUEUED : Bool
  deriving DecidableEq

/-- `systime`, an `unsigned long` of 64 bits. -/
abbrev Systime := BitVec 64

/-- `time_after`. -/
def rtw_time_after (a b : Systime) : Bool := (b - a).slt 0

def rtw_time_before (a b : Systime) : Bool := rtw_time_after b a

/-- `struct rtw_mesh_path`. -/
structure MeshPath where
  dst : MacAddr
  mpp : MacAddr
  next_hop : Option MacAddr
  frame_queue : List Nat
  frame_queue_len : Nat
  sn : BitVec 32
  metric : BitVec 32
  exp_time : Systime
  gate_ann_int : BitVec 32
  flags : MeshPathFlags
  rann_snd_addr : MacAddr
  rann_metric : BitVec 32
  last_preq_to_root : Systime
  is_root : Bool
  is_gate : Bool
  gate_asked : Bool
  deriving DecidableEq

def mesh_bcast_addr : MacAddr := .broadcast

/-- A path as `rtw_mesh_path_new` leaves it: zeroed but for what is written here. -/
def rtw_mesh_path_new (now : Systime) (dst : MacAddr) : MeshPath where
  dst := dst
  mpp := .zero
  next_hop := none
  frame_queue := []
  frame_queue_len := 0
  sn := 0
  metric := 0
  exp_time := now
  gate_ann_int := 0
  flags := ⟨false, false, false, false, false, false⟩
  rann_snd_addr := mesh_bcast_addr
  rann_metric := 0
  last_preq_to_root := 0
  is_root := false
  is_gate := false
  gate_asked := false

def RTW_MESH_MAX_MPATHS : Nat := 1024

/-- Number of frames buffered per destination for unresolved destinations. -/
def RTW_MESH_FRAME_QUEUE_LEN : Nat := 10

end Rtl8821ce
