import Rtl8821ce.Efuse.Adapter
import Rtl8821ce.Library.Memory

/-!
# Dump of a FIFO

The packet buffers are seen through a window of 4096 bytes: a register chooses the page that
the window shows.  The driver copies word by word, and turns to the next page when it has
come to the end of the window.
-/

namespace Rtl8821ce

namespace FifoDump

/-- `enum hal_fifo_sel`. -/
inductive HalFifoSel
  | TX
  | RX
  | RSVD_PAGE
  | REPORT
  | LLT
  | RXBUF_FW
  | RXBUF_PHY
  | RXDESC
  | SECURITY_CAM
  | WOW_CAM
  | RX_FILTER_CAM
  | BA_CAM
  | MBSSID_CAM
deriving DecidableEq, Repr

/-- The status codes that the functions below return instead of success.  `ENDLESS` stands for
a loop that goes on for ever. -/
inductive DumpRet
  | DUMP_FIFOSIZE_INCORRECT
  | NULL_POINTER
  | NOT_SUPPORT
  | ENDLESS
deriving DecidableEq, Repr

/-- The fields of `hw_cfg_info` and `txff_alloc` that the dump uses. -/
structure DumpAdapter where
  tx_fifo_size : UInt32
  rx_fifo_size : UInt32
  rsvd_boundary : UInt16

/-- The bytes of every page of the packet buffers, and those of the registers beside the window. -/
structure Chip where
  page : Nat -> Nat -> UInt8
  beside : Nat -> UInt8

/-- The registers that the dump writes, the caller's buffer, and the offsets of the words that
were written to it. -/
structure DumpState where
  pktbuf_dbg_ctrl : Nat
  rcr2 : UInt8
  data : ByteMap
  writes : List Nat

abbrev DumpM (α : Type) : Type := Program DumpState DumpRet α

def TX_PAGE_SIZE_SHIFT_88XX : UInt32 := 7

/-- The page of the packet buffers where a FIFO begins. -/
def HalFifoSel.first_page : HalFifoSel -> Option Nat
  | .TX | .RSVD_PAGE => some 0x780
  | .RX => some 0x700
  | .REPORT => some 0x660
  | .LLT => some 0x650
  | .RXBUF_FW => some 0x680
  | _ => none

/-- What the registers from `0x8000` on show: the page that the low twelve bits name. -/
def Chip.window (chip : Chip) (pktbuf_dbg_ctrl : Nat) : ByteMap := fun position =>
  if 0x8000 ≤ position ∧ position ≤ 0x8FFF then chip.page (pktbuf_dbg_ctrl % 0x1000) (position - 0x8000)
  else chip.beside position

/-- A word is read from the register `i` and written to the buffer. -/
def copy_word (chip : Chip) (i cnt : Nat) : DumpM Unit :=
  Program.update fun state =>
    { state with
      data := Memory.write state.data cnt (Memory.read (chip.window state.pktbuf_dbg_ctrl) i 4)
      writes := state.writes ++ [cnt] }

/-- The inner loop: no value when the count has come to the size, else the count at the end of
the window. -/
def read_window (chip : Chip) (size : Nat) : Nat -> Nat -> Nat -> DumpM (Option Nat)
  | 0, _, _ => Program.stop .ENDLESS
  | turns + 1, i, cnt =>
      if i ≤ 0x8FFF then do
        copy_word chip i cnt
        let cnt := (cnt + 4) % 2 ^ 32
        if size = cnt then pure none else read_window chip size turns (i + 4) cnt
      else pure (some cnt)

/-- The outer loop, one page in each turn.  The window has 1024 words. -/
def read_pages (chip : Chip) (size value32 : Nat) : Nat -> Nat -> Nat -> Nat -> DumpM Unit
  | 0, _, _, _ => Program.stop .ENDLESS
  | turns + 1, start_pg, residue, cnt => do
      Program.update fun state => { state with pktbuf_dbg_ctrl := (start_pg ||| value32) % 2 ^ 16 }
      let left <- read_window chip size 1025 (0x8000 + residue) cnt
      match left with
      | none => pure ()
      | some cnt => read_pages chip size value32 turns (start_pg + 1) 0 cnt

/-- The count comes back to its value after 2^30 words, so 2^20 pages behind the first are
enough for every size. -/
def MAX_PAGES : Nat := 2 ^ 20 + 1

def read_buf (chip : Chip) (adapter : DumpAdapter) (offset size : UInt32) (sel : HalFifoSel) : DumpM Unit := do
  let offset :=
    if sel = .RSVD_PAGE then offset + (adapter.rsvd_boundary.toUInt32 <<< TX_PAGE_SIZE_SHIFT_88XX) else offset
  match sel.first_page with
  | none => Program.stop .NOT_SUPPORT
  | some first_page =>
      let start_pg := offset.toNat / 0x1000 + first_page
      let residue := offset.toNat % 0x1000
      let state <- Program.get
      let value32 := state.pktbuf_dbg_ctrl &&& 0xF000
      read_pages chip size.toNat value32 MAX_PAGES start_pg residue 0
      Program.update fun state => { state with pktbuf_dbg_ctrl := value32 }

/-- The clock gate of the receiver is open while the FIFO is read, and `REG_RCR` is as before
afterwards. -/
def dump_fifo (chip : Chip) (adapter : DumpAdapter) (sel : HalFifoSel) (start_addr size : UInt32) (data : Bool) :
    DumpM Unit := do
  Program.require (!(sel == .TX && decide (start_addr + size > adapter.tx_fifo_size))) .DUMP_FIFOSIZE_INCORRECT
  Program.require (!(sel == .RX && decide (start_addr + size > adapter.rx_fifo_size))) .DUMP_FIFOSIZE_INCORRECT
  Program.require (decide (size &&& (4 - 1) = 0)) .DUMP_FIFOSIZE_INCORRECT
  Program.require data .NULL_POINTER
  let before <- Program.get
  Program.update fun state => { state with rcr2 := state.rcr2 ||| 0x08 }
  fun state =>
    let (status, state) := read_buf chip adapter start_addr size sel state
    (status, { state with rcr2 := before.rcr2 })

/-- Where a FIFO begins in the buffer that its pages belong to. -/
def fifo_shift (adapter : DumpAdapter) (sel : HalFifoSel) : Nat :=
  if sel = .RSVD_PAGE then adapter.rsvd_boundary.toNat * 128 else 0

def fifo (chip : Chip) (adapter : DumpAdapter) (sel : HalFifoSel) (first_page : Nat) : ByteMap := fun address =>
  chip.page (first_page + (address + fifo_shift adapter sel) / 0x1000) ((address + fifo_shift adapter sel) % 0x1000)

def Accepts (adapter : DumpAdapter) (sel : HalFifoSel) (start_addr size : UInt32) : Prop :=
  ∀ chip state code, (dump_fifo chip adapter sel start_addr size true state).1 = .error code -> code = .ENDLESS

/-- The dump ends, has written the words of the FIFO and nothing else, and has left the upper
bits of the window's register as they were. -/
structure Dumped (chip : Chip) (adapter : DumpAdapter) (sel : HalFifoSel) (first_page start_addr size : Nat)
    (before : Nat) (answer : Except DumpRet Unit) (after : DumpState) : Prop where
  ends : answer ≠ .error .ENDLESS
  extent : ∀ position,
    (∃ cnt, cnt ∈ after.writes ∧ cnt ≤ position ∧ position < cnt + 4) <-> position < size
  words : ∀ k, 4 * k < size ->
    Memory.read after.data (4 * k) 4 = Memory.read (fifo chip adapter sel first_page) (start_addr + 4 * k) 4
  restored : after.pktbuf_dbg_ctrl &&& 0xF000 = before &&& 0xF000

/-- Whatever the packet buffers, the buffer of the caller and the register hold. -/
def DumpsFifo (adapter : DumpAdapter) (sel : HalFifoSel) (start_addr size : UInt32) : Prop :=
  ∃ first_page, sel.first_page = some first_page ∧
    ∀ chip (state : DumpState), state.writes = [] ->
      let run := dump_fifo chip adapter sel start_addr size true state
      Dumped chip adapter sel first_page start_addr.toNat size.toNat state.pktbuf_dbg_ctrl run.1 run.2

end FifoDump

end Rtl8821ce
