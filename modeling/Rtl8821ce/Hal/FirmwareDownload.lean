import Rtl8821ce.Efuse.Adapter
import Rtl8821ce.Library.Memory

/-!
# Download of the firmware

The image begins with a header, behind which the data memory, the instruction memory and,
when the header says so, the extended memory follow, each with a checksum.  The driver puts
a piece of a section into a reserved page of the transmit buffer, and a transfer inside the
chip takes it from there.  What the platform and the chip answer is a parameter; the state
keeps every step that they were asked for, with its outcome, and every read of the image.
-/

namespace Rtl8821ce

namespace Firmware

def WLAN_FW_HDR_SIZE : UInt32 := 64
def WLAN_FW_HDR_CHKSUM_SIZE : UInt32 := 8
def WLAN_FW_HDR_VERSION : Nat := 4
def WLAN_FW_HDR_SUBVERSION : Nat := 6
def WLAN_FW_HDR_SUBINDEX : Nat := 7
def WLAN_FW_HDR_MONTH : Nat := 16
def WLAN_FW_HDR_DATE : Nat := 17
def WLAN_FW_HDR_HOUR : Nat := 18
def WLAN_FW_HDR_MIN : Nat := 19
def WLAN_FW_HDR_YEAR : Nat := 20
def WLAN_FW_HDR_MEM_USAGE : Nat := 24
def WLAN_FW_HDR_H2C_FMT_VER : Nat := 28
def WLAN_FW_HDR_DMEM_ADDR : Nat := 32
def WLAN_FW_HDR_DMEM_SIZE : Nat := 36
def WLAN_FW_HDR_IMEM_SIZE : Nat := 48
def WLAN_FW_HDR_EMEM_SIZE : Nat := 52
def WLAN_FW_HDR_EMEM_ADDR : Nat := 56
def WLAN_FW_HDR_IMEM_ADDR : Nat := 60

def DLFW_PKT_SIZE_LIMIT : UInt32 := 31744
def TX_DESC_SIZE_88XX : UInt32 := 48
def OCPBASE_TXBUF_88XX : UInt32 := 0x18780000
def OCPBASE_DMEM_88XX : UInt32 := 0x00200000
def HALMC_DDMA_POLLING_COUNT : Nat := 1000

def BIT_DDMACH0_OWN : UInt32 := 0x80000000
def BIT_DDMACH0_CHKSUM_EN : UInt32 := 0x20000000
def BIT_DDMACH0_CHKSUM_CONT : UInt32 := 0x01000000
def BIT_MASK_DDMACH0_DLEN : UInt32 := 0x3ffff

/-- The status codes that the functions below return instead of success.  `ENDLESS` is not
one of them: it stands for a loop that goes on for ever. -/
inductive DlfwRet
  | FW_SIZE_ERR
  | CFG_DLFW_SIZE_FAIL
  | ZERO_LEN_RSVD_PACKET
  | BUSY_STATE
  | MALLOC_FAIL
  | DL_RSVD_PAGE_FAIL
  | POLLING_BCN_VALID_FAIL
  | DDMA_FAIL
  | FW_CHECKSUM_FAIL
  | ENDLESS
deriving DecidableEq, Repr

inductive HalmacInterface
  | PCIE
  | USB
  | SDIO
  | AXI
deriving DecidableEq, Repr

inductive RsvdPgState
  | IDLE
  | BUSY
deriving DecidableEq, Repr

/-- `struct halmac_fw_version`, with the fields of `build_time`. -/
structure FwVersion where
  version : Nat
  sub_version : Nat
  sub_index : Nat
  h2c_version : Nat
  month : Nat
  date : Nat
  hour : Nat
  min : Nat
  year : Nat
deriving DecidableEq

/-- The fields of `struct halmac_adapter` that the download uses. -/
structure DlfwAdapter where
  intf : HalmacInterface
  txdesc_size : UInt32
  dlfw_pkt_size : UInt32
  rsvd_pg_state : RsvdPgState
  fw_ver : FwVersion
deriving DecidableEq

/-- What the platform and the chip are asked for and may refuse. -/
inductive Step
  | malloc (size : UInt32)
  | sendRsvdPage (pg_addr : UInt16) (buf : List UInt8)
  | bcnValid
  | ddmaReady
  | ddma (src dest ctrl : UInt32)
  | chksum (mem_addr : UInt32)
deriving DecidableEq

/-- The answers, which may depend on all that was done before.  `ready` answers a read of a
register in a loop that waits; its number counts down.  `dummy` is what a new buffer holds. -/
structure Platform where
  accepts : List (Step × Bool) -> Step -> Bool
  ready : List (Step × Bool) -> Step -> Nat -> Bool
  dummy : UInt8

/-- A transfer inside the chip, with the reserved page that was filled last: the page's
place in the transmit buffer, the place that is read and the place that is written, the
number of bytes, and whether the checksum starts again. -/
structure Transfer where
  page : UInt16
  buf : List UInt8
  src : UInt32
  dest : UInt32
  len : UInt32
  restart : Bool
deriving DecidableEq

structure Download where
  adapter : DlfwAdapter
  mcufw_ctrl : UInt16
  page : UInt16 × List UInt8
  reads : List (Nat × Nat)
  steps : List (Step × Bool)
  transfers : List Transfer

abbrev DlfwM (α : Type) : Type := Program Download DlfwRet α

/-- A read of `length` bytes of the image. -/
def readImage (fw_bin : ByteMap) (offset length : Nat) : DlfwM (List UInt8) := do
  Program.update (fun state => { state with reads := state.reads ++ [(offset, length)] })
  pure (Memory.read fw_bin offset length)

def le_to_cpu (bytes : List UInt8) : Nat := bytes.foldr (fun byte rest => byte.toNat + 0x100 * rest) 0

def readLe32 (fw_bin : ByteMap) (offset : Nat) : DlfwM UInt32 := do
  let bytes <- readImage fw_bin offset 4
  pure (UInt32.ofNat (le_to_cpu bytes))

def readField (fw_bin : ByteMap) (offset length : Nat) : DlfwM Nat := do
  let bytes <- readImage fw_bin offset length
  pure (le_to_cpu bytes)

def attempt (step : Step) (outcome : List (Step × Bool) -> Bool) (code : DlfwRet) : DlfwM Unit := do
  let state <- Program.get
  Program.update (fun state => { state with steps := state.steps ++ [(step, outcome state.steps)] })
  Program.require (outcome state.steps) code

/-- A register is read until it has the value that is waited for, `cnt` times at most. -/
def poll (ready : Nat -> Bool) : Nat -> Bool
  | 0 => false
  | cnt + 1 => ready (cnt + 1) || poll ready cnt

section

variable (platform : Platform)

/-- The part of `dl_rsvd_page` while the state is busy. -/
def fill_rsvd_page (pg_addr : UInt16) (buf : List UInt8) : DlfwM Unit := do
  Program.update (fun state => { state with adapter := { state.adapter with rsvd_pg_state := .BUSY } })
  attempt (.sendRsvdPage pg_addr buf) (fun steps => platform.accepts steps (.sendRsvdPage pg_addr buf))
    .DL_RSVD_PAGE_FAIL
  Program.update (fun state => { state with page := (pg_addr, buf) })
  attempt .bcnValid (fun steps => poll (platform.ready steps .bcnValid) 1000) .POLLING_BCN_VALID_FAIL

/-- `DL_RSVD_PG_END` is reached with and without success.  The registers, which are as before
there, are left out. -/
def dl_rsvd_page (pg_addr : UInt16) (buf : List UInt8) : DlfwM Unit := fun state =>
  if buf.length = 0 then (.error .ZERO_LEN_RSVD_PACKET, state)
  else if state.adapter.rsvd_pg_state = .BUSY then (.error .BUSY_STATE, state)
  else
    let (status, state) := fill_rsvd_page platform (pg_addr &&& 0xfff) buf state
    (status, { state with adapter := { state.adapter with rsvd_pg_state := .IDLE } })

/-- A packet of an unlucky size goes to a USB bus with one more byte. -/
def send_fwpkt (fw_bin : ByteMap) (pg_addr : UInt16) (offset : Nat) (size : UInt32) : DlfwM Unit := do
  let state <- Program.get
  if state.adapter.intf = .USB ∧ (size + TX_DESC_SIZE_88XX) &&& (512 - 1) = 0 then
    attempt (.malloc (size + 1)) (fun steps => platform.accepts steps (.malloc (size + 1))) .MALLOC_FAIL
    let copy <- readImage fw_bin offset size.toNat
    dl_rsvd_page platform pg_addr (copy ++ [platform.dummy])
  else
    let buf <- readImage fw_bin offset size.toNat
    dl_rsvd_page platform pg_addr buf

/-- The registers of the channel are written, which starts the transfer. -/
def iddma_en (src dest ctrl : UInt32) : DlfwM Unit := do
  Program.update (fun state =>
    { state with
      transfers := state.transfers ++
        [{ page := state.page.1, buf := state.page.2, src, dest, len := ctrl &&& BIT_MASK_DDMACH0_DLEN,
           restart := ctrl &&& BIT_DDMACH0_CHKSUM_CONT = 0 }] })
  attempt (.ddma src dest ctrl)
    (fun steps => poll (platform.ready steps (.ddma src dest ctrl)) HALMC_DDMA_POLLING_COUNT) .DDMA_FAIL

def iddma_dlfw (src dest len : UInt32) (first : Bool) : DlfwM Unit := do
  attempt .ddmaReady (fun steps => poll (platform.ready steps .ddmaReady) HALMC_DDMA_POLLING_COUNT) .DDMA_FAIL
  let ch0_ctrl := (BIT_DDMACH0_CHKSUM_EN ||| BIT_DDMACH0_OWN) ||| (len &&& BIT_MASK_DDMACH0_DLEN)
  let ch0_ctrl := if first then ch0_ctrl else ch0_ctrl ||| BIT_DDMACH0_CHKSUM_CONT
  iddma_en platform src dest ch0_ctrl

/-- Bits 3 and 4 are for the instruction memory, 5 and 6 for the data memory. -/
def check_fw_chksum (mem_addr : UInt32) : DlfwM Unit := do
  let state <- Program.get
  let passed := platform.accepts state.steps (.chksum mem_addr)
  let dw_ok : UInt16 := if mem_addr < OCPBASE_DMEM_88XX then 0x08 else 0x20
  let chksum_ok : UInt16 := if mem_addr < OCPBASE_DMEM_88XX then 0x10 else 0x40
  Program.update (fun state =>
    { state with
      mcufw_ctrl :=
        if passed then state.mcufw_ctrl ||| (dw_ok ||| chksum_ok)
        else (state.mcufw_ctrl ||| dw_ok) &&& ~~~chksum_ok })
  attempt (.chksum mem_addr) (fun steps => platform.accepts steps (.chksum mem_addr)) .FW_CHECKSUM_FAIL

/-- The loop of `dlfw_to_mem` over the pieces, for at most `turns` turns. -/
def dlfw_pieces (fw_bin : ByteMap) (start : Nat) (src dest : UInt32) : Nat -> UInt32 -> UInt32 -> Bool -> DlfwM Unit
  | 0, _, residue_size, _ => Program.require (decide (residue_size = 0)) .ENDLESS
  | turns + 1, mem_offset, residue_size, first_part =>
      if residue_size = 0 then pure ()
      else do
        let state <- Program.get
        let pkt_size :=
          if residue_size ≥ state.adapter.dlfw_pkt_size then state.adapter.dlfw_pkt_size else residue_size
        send_fwpkt platform fw_bin (src >>> 7).toUInt16 (start + mem_offset.toNat) pkt_size
        iddma_dlfw platform (OCPBASE_TXBUF_88XX + src + state.adapter.txdesc_size) (dest + mem_offset) pkt_size
          first_part
        dlfw_pieces fw_bin start src dest turns (mem_offset + pkt_size) (residue_size - pkt_size) false

/-- A turn that goes on takes at least one byte, so there are never more turns than bytes. -/
def dlfw_to_mem (fw_bin : ByteMap) (start : Nat) (src dest size : UInt32) : DlfwM Unit := do
  dlfw_pieces platform fw_bin start src dest size.toNat 0 size true
  check_fw_chksum platform dest

def update_fw_info (fw_bin : ByteMap) : DlfwM Unit := do
  let version <- readField fw_bin WLAN_FW_HDR_VERSION 2
  let sub_version <- readField fw_bin WLAN_FW_HDR_SUBVERSION 1
  let sub_index <- readField fw_bin WLAN_FW_HDR_SUBINDEX 1
  let h2c_version <- readField fw_bin WLAN_FW_HDR_H2C_FMT_VER 2
  let month <- readField fw_bin WLAN_FW_HDR_MONTH 1
  let date <- readField fw_bin WLAN_FW_HDR_DATE 1
  let hour <- readField fw_bin WLAN_FW_HDR_HOUR 1
  let min <- readField fw_bin WLAN_FW_HDR_MIN 1
  let year <- readField fw_bin WLAN_FW_HDR_YEAR 2
  Program.update (fun state =>
    { state with
      adapter :=
        { state.adapter with
          fw_ver := { version, sub_version, sub_index, h2c_version, month, date, hour, min, year } } })

/-- The size of the extended memory, which the header has only if it says that there is one. -/
def readEmemSize (fw_bin : ByteMap) : DlfwM UInt32 := do
  let mem_usage <- readField fw_bin WLAN_FW_HDR_MEM_USAGE 1
  if mem_usage.testBit 4 then readLe32 fw_bin WLAN_FW_HDR_EMEM_SIZE
  else pure 0

/-- The sizes of the three sections with their checksums. -/
def section_sizes (fw_bin : ByteMap) : DlfwM (UInt32 × UInt32 × UInt32) := do
  let dmem_size <- readLe32 fw_bin WLAN_FW_HDR_DMEM_SIZE
  let imem_size <- readLe32 fw_bin WLAN_FW_HDR_IMEM_SIZE
  let emem_size <- readEmemSize fw_bin
  pure
    (dmem_size + WLAN_FW_HDR_CHKSUM_SIZE, imem_size + WLAN_FW_HDR_CHKSUM_SIZE,
      if emem_size ≠ 0 then emem_size + WLAN_FW_HDR_CHKSUM_SIZE else emem_size)

/-- The address of a section, without `BIT(31)`. -/
def readAddr (fw_bin : ByteMap) (offset : Nat) : DlfwM UInt32 := do
  let addr <- readLe32 fw_bin offset
  pure (addr &&& 0x7fffffff)

/-- What follows the label `DLFW_EMEM`. -/
def dlfw_emem (fw_bin : ByteMap) (dl_addr dmem_size imem_size emem_size : UInt32) : DlfwM Unit :=
  if emem_size = 0 then pure ()
  else do
    let start := WLAN_FW_HDR_SIZE.toNat + dmem_size.toNat + imem_size.toNat
    let addr <- readAddr fw_bin WLAN_FW_HDR_EMEM_ADDR
    dlfw_to_mem platform fw_bin start (dl_addr <<< 7) addr emem_size

/-- The pointers to the sections are not cut to 32 bits, but the sizes are.  The states of
the offload features, which are reset at the end, are left out. -/
def start_dlfw (fw_bin : ByteMap) (dl_addr : UInt32) (emem_only : Bool) : DlfwM Unit := do
  let (dmem_size, imem_size, emem_size) <- section_sizes fw_bin
  if emem_only then dlfw_emem platform fw_bin dl_addr dmem_size imem_size emem_size
  else
    Program.update (fun state => { state with mcufw_ctrl := (state.mcufw_ctrl &&& 0x3800) ||| 1 })
    let addr <- readAddr fw_bin WLAN_FW_HDR_DMEM_ADDR
    dlfw_to_mem platform fw_bin WLAN_FW_HDR_SIZE.toNat 0 addr dmem_size
    let addr <- readAddr fw_bin WLAN_FW_HDR_IMEM_ADDR
    dlfw_to_mem platform fw_bin (WLAN_FW_HDR_SIZE.toNat + dmem_size.toNat) 0 addr imem_size
    dlfw_emem platform fw_bin dl_addr dmem_size imem_size emem_size
    update_fw_info fw_bin

end

def chk_fw_size (fw_bin : ByteMap) (size : UInt32) : DlfwM Unit := do
  Program.require (decide (WLAN_FW_HDR_SIZE ≤ size)) .FW_SIZE_ERR
  let (dmem_size, imem_size, emem_size) <- section_sizes fw_bin
  let real_size := WLAN_FW_HDR_SIZE + dmem_size + imem_size + emem_size
  Program.require (decide (size = real_size)) .FW_SIZE_ERR

def cfg_max_dl_size (size : UInt32) : DlfwM Unit := do
  Program.require (decide (size ≤ DLFW_PKT_SIZE_LIMIT)) .CFG_DLFW_SIZE_FAIL
  Program.require (decide (size &&& (2 - 1) = 0)) .CFG_DLFW_SIZE_FAIL
  Program.update (fun state => { state with adapter := { state.adapter with dlfw_pkt_size := size } })

end Firmware

end Rtl8821ce
