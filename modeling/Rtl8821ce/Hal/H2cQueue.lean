import Rtl8821ce.Efuse.Adapter
import Rtl8821ce.Library.Memory
import Rtl8821ce.Library.Ring
import Rtl8821ce.Library.Run

/-!
# The queue of the commands to the firmware

The commands lie in a ring of reserved pages.  The chip moves the write pointer with every
packet that is sent, and the firmware moves the read pointer with every packet that it has
read.  The driver keeps the free space that it computed last, and takes a packet's size from
it with every packet.  The firmware may read at any time, also between two register accesses
of a call.
-/

namespace Rtl8821ce

namespace H2cQueue

def TX_FIFO_SIZE_8821C : Nat := 65536
def TX_FIFO_SIZE_LA_8821C : Nat := TX_FIFO_SIZE_8821C / 2
def TX_FIFO_SIZE_RX_EXPAND_1BLK_8821C : Nat := TX_FIFO_SIZE_8821C - 32768
def TX_PAGE_SIZE_SHIFT_88XX : Nat := 7
def RSVD_PG_H2CQ_NUM : Nat := 8
def RSVD_PG_CPU_INSTRUCTION_NUM : Nat := 0
def RSVD_PG_FW_TXBUF_NUM : Nat := 4
def RSVD_PG_CSIBUF_NUM : Nat := 0
def H2C_PKT_SIZE_88XX : Nat := 32

/-- The part of `set_trx_fifo_info` that places the queue: it lies before the pages at the
end of the transmit FIFO. -/
def rsvd_h2cq_addr (rx_expand_1blk la_mode : Bool) : Nat :=
  let txff_size := if rx_expand_1blk then TX_FIFO_SIZE_RX_EXPAND_1BLK_8821C else TX_FIFO_SIZE_8821C
  let txff_size := if la_mode then TX_FIFO_SIZE_LA_8821C else txff_size
  txff_size / 2 ^ TX_PAGE_SIZE_SHIFT_88XX - RSVD_PG_CSIBUF_NUM - RSVD_PG_FW_TXBUF_NUM - RSVD_PG_CPU_INSTRUCTION_NUM -
    RSVD_PG_H2CQ_NUM

structure H2cPkt where
  bytes : List UInt8
  length_eq : bytes.length = H2C_PKT_SIZE_88XX

/-- `h2c_info`, the pointers and the pages of the chip, the packets that the firmware has not
read yet, oldest first, and whether one of them was overwritten. -/
structure Queue where
  buf_size : Nat
  buf_fs : Nat
  head : Nat
  wptr : Nat
  rptr : Nat
  cells : ByteMap
  unread : List H2cPkt
  overwritten : Bool

/-- The address after the packet at `addr`; behind the tail comes the head. -/
def Queue.next (queue : Queue) (addr : Nat) : Nat :=
  queue.head + (addr - queue.head + H2C_PKT_SIZE_88XX) % queue.buf_size

/-- Where the packet lies that is `i` packets behind the one the firmware reads next. -/
def Queue.place (queue : Queue) (i : Nat) : Nat :=
  queue.head + (queue.rptr - queue.head + H2C_PKT_SIZE_88XX * i) % queue.buf_size

def Queue.fw_read (queue : Queue) : Queue :=
  match queue.unread with
  | [] => queue
  | _ :: rest => { queue with rptr := queue.next queue.rptr, unread := rest }

def Queue.fw_reads (queue : Queue) : Nat -> Queue
  | 0 => queue
  | count + 1 => queue.fw_read.fw_reads count

def Queue.accept (queue : Queue) (pkt : H2cPkt) : Queue :=
  { queue with
    cells := Memory.write queue.cells queue.wptr pkt.bytes
    wptr := queue.next queue.wptr
    unread := queue.unread ++ [pkt]
    overwritten := queue.overwritten ||
      (List.range queue.unread.length).any (fun i => queue.place i == queue.wptr) }

/-- `before` and `between` are the packets that the firmware reads before the two registers
are read. -/
def get_h2c_buf_free_space (before between : Nat) (queue : Queue) : Queue :=
  let queue := queue.fw_reads before
  let hw_wptr := queue.wptr % 2 ^ 18
  let queue := queue.fw_reads between
  let fw_rptr := queue.rptr % 2 ^ 18
  { queue with
    buf_fs :=
      if hw_wptr ≥ fw_rptr then (queue.buf_size + 2 ^ 32 - (hw_wptr - fw_rptr)) % 2 ^ 32 else fw_rptr - hw_wptr }

/-- What happens around a call: what the firmware reads in every turn of the first loop, and
in every turn of the second one, with the answer of the platform. -/
structure Surroundings where
  reads : Nat -> Nat × Nat
  sends : Nat -> Nat × Bool

inductive H2cRet
  | H2C_SPACE_FULL
  | SEND_H2C_FAIL
  | GET_H2C_SPACE_ERR
deriving DecidableEq, Repr

/-- The loop that waits for space, `cnt` turns at most. -/
def wait_for_space (reads : Nat -> Nat × Nat) : Nat -> Queue -> Except H2cRet Unit × Queue
  | 0, queue => (.error .H2C_SPACE_FULL, queue)
  | cnt + 1, queue =>
      if queue.buf_fs ≤ H2C_PKT_SIZE_88XX then
        let queue := get_h2c_buf_free_space (reads cnt).1 (reads cnt).2 queue
        if cnt = 0 then (.error .H2C_SPACE_FULL, queue) else wait_for_space reads cnt queue
      else (.ok ⟨⟩, queue)

def pltfm_send (pkt : H2cPkt) (sends : Nat -> Nat × Bool) : Nat -> Queue -> Except H2cRet Unit × Queue
  | 0, queue => (.error .SEND_H2C_FAIL, queue)
  | cnt + 1, queue =>
      let queue := queue.fw_reads (sends cnt).1
      if (sends cnt).2 then (.ok ⟨⟩, queue.accept pkt)
      else if cnt = 0 then (.error .SEND_H2C_FAIL, queue)
      else pltfm_send pkt sends cnt queue

def send_h2c_pkt (pkt : H2cPkt) (around : Surroundings) (queue : Queue) : Except H2cRet Unit × Queue :=
  match wait_for_space around.reads 100 queue with
  | (.error code, queue) => (.error code, queue)
  | (.ok _, queue) =>
      match pltfm_send pkt around.sends 100 queue with
      | (.error code, queue) => (.error code, queue)
      | (.ok _, queue) => (.ok ⟨⟩, { queue with buf_fs := (queue.buf_fs + 2 ^ 32 - H2C_PKT_SIZE_88XX) % 2 ^ 32 })

/-- The queue starts over, with both pointers on the packet `first` of the ring. -/
def init_h2c (rx_expand_1blk la_mode : Bool) (first : Nat) (queue : Queue) : Except H2cRet Unit × Queue :=
  let h2cq_addr := rsvd_h2cq_addr rx_expand_1blk la_mode * 2 ^ TX_PAGE_SIZE_SHIFT_88XX
  let h2cq_size := RSVD_PG_H2CQ_NUM * 2 ^ TX_PAGE_SIZE_SHIFT_88XX
  let start := h2cq_addr + (H2C_PKT_SIZE_88XX * first) % h2cq_size
  let queue :=
    { queue with
      head := h2cq_addr, wptr := start, rptr := start, unread := [], overwritten := false, buf_size := h2cq_size }
  let queue := get_h2c_buf_free_space 0 0 queue
  if queue.buf_size ≠ queue.buf_fs then (.error .GET_H2C_SPACE_ERR, queue) else (.ok ⟨⟩, queue)

/-- A call of the driver, or a packet that the firmware reads. -/
inductive QueueOp
  | send (pkt : H2cPkt) (around : Surroundings)
  | fwRead

def Queue.step (queue : Queue) : QueueOp -> Queue
  | .send pkt around => (send_h2c_pkt pkt around queue).2
  | .fwRead => queue.fw_read

/-- The packets that the firmware has not read lie in the ring one behind the other, up to the
write pointer, and they do not fill it. -/
structure Ordered (queue : Queue) (pkts slot : Nat) : Prop where
  size : queue.buf_size = H2C_PKT_SIZE_88XX * pkts
  fits : queue.head + queue.buf_size ≤ 2 ^ 18
  reads : queue.rptr = queue.head + H2C_PKT_SIZE_88XX * slot
  slot_lt : slot < pkts
  writes : queue.wptr = queue.place queue.unread.length
  not_full : queue.unread.length < pkts
  intact : ∀ i pkt, queue.unread[i]? = some pkt ->
    Memory.read queue.cells (queue.place i) H2C_PKT_SIZE_88XX = pkt.bytes
  clean : queue.overwritten = false

def Queue.free (queue : Queue) : Nat := queue.buf_size - H2C_PKT_SIZE_88XX * queue.unread.length

end H2cQueue

end Rtl8821ce
