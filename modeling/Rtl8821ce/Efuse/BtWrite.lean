import Rtl8821ce.Efuse.BtMapRobust

/-!
# Writing the Bluetooth efuse

A section with changed bytes is appended to the log: its header, up to five times, then each of
its words once, and everything is read back.
-/

namespace Rtl8821ce
namespace BtEfuse

open Scanner (Iteration scan)

/-- The cells and, for each of them, which of the writes to come will be stored.  `written` are the
places that physical writes went to. -/
structure BtChip where
  cells : ByteMap
  stores : Nat -> Nat -> Bool
  fakeBTEfuseUsedBytes : Nat
  written : List Nat

/-- A packet without its `word_cnts`, which no writer looks at. -/
structure PgPkt where
  offset : Nat
  word_en : Nat
  data : ByteMap

def EFUSE_REPEAT_THRESHOLD_ : Nat := 3

def EFUSE_MAX_SECTION_BASE : Nat := 16

/-- `rtw_efuse_bt_access` that writes one byte. -/
def rtw_efuse_bt_write (chip : BtChip) (addr : Nat) (data : UInt8) : BtChip :=
  if addr + 1 > EFUSE_BT_REAL_CONTENT_LEN then chip
  else
    { chip with
      cells := if chip.stores addr 0 then Function.update chip.cells addr data else chip.cells
      stores := Function.update chip.stores addr (fun n => chip.stores addr (n + 1))
      written := addr :: chip.written }

/-- The map as `rtw_BT_efuse_map_read` returns it. -/
def rtw_BT_efuse_map_read (chip : BtChip) (addr cnts : Nat) (data : ByteMap) : Option MapRead :=
  hal_ReadEFuse_BT_logic_map chip.cells addr cnts data chip.fakeBTEfuseUsedBytes

def current_size (chip : BtChip) : Nat :=
  (hal_EfuseGetCurrentSize_BT chip.cells chip.fakeBTEfuseUsedBytes).get
    (Option.isSome_iff_exists.mpr (current_size_ends chip.cells chip.fakeBTEfuseUsedBytes))

def hal_BT_EfusePgCheckAvailableAddr (chip : BtChip) : Bool × BtChip :=
  let size := current_size chip
  (size < EFUSE_BT_REAL_CONTENT_LEN - EFUSE_PROTECT_BYTES_BANK, { chip with fakeBTEfuseUsedBytes := size })

def hal_EfuseConstructPGPkt (offset word_en : Nat) (pData : ByteMap) : PgPkt where
  offset := offset
  word_en := word_en
  data := fun i => if i < 8 ∧ word_en.testBit (i / 2) = false then pData i else 0xFF

def hal_EfusePartialWriteCheck (chip : BtChip) : Option Nat :=
  let startAddr := chip.fakeBTEfuseUsedBytes % 2 ^ 16 % EFUSE_BT_REAL_CONTENT_LEN
  if startAddr ≥ EFUSE_BT_REAL_CONTENT_LEN then none
  else if (rtw_efuse_bt_read chip.cells startAddr).all (fun efuse_data => efuse_data == 0xFF) then some startAddr
  else none

/-- A header byte is written until it reads as something.  `left` more failures are allowed; what
is left of them and `tmp_header` are returned. -/
def repeat_write (efuse_addr : Nat) (pg_header : UInt8) : Nat -> UInt8 -> BtChip -> Option (UInt8 × Nat) × BtChip
  | left, tmp_header, chip =>
      let chip := rtw_efuse_bt_write chip efuse_addr pg_header
      let tmp_header := (rtw_efuse_bt_read chip.cells efuse_addr).getD tmp_header
      if tmp_header ≠ 0xFF then (some (tmp_header, left), chip)
      else
        match left with
        | 0 => (none, chip)
        | left + 1 => repeat_write efuse_addr pg_header left tmp_header chip

def hal_EfusePgPacketWrite2ByteHeader (chip : BtChip) (efuse_addr : Nat) (pTargetPkt : PgPkt) : Option Nat × BtChip :=
  if efuse_addr ≥ EFUSE_BT_REAL_CONTENT_LEN then (none, chip)
  else
    let pg_header := UInt8.ofNat (((pTargetPkt.offset &&& 0x07) <<< 5) ||| 0x0F)
    match repeat_write efuse_addr pg_header (EFUSE_REPEAT_THRESHOLD_ + 1) 0 chip with
    | (none, chip) => (none, chip)
    | (some (tmp_header, left), chip) =>
        if tmp_header ≠ pg_header then (none, chip)
        else
          let pg_header := UInt8.ofNat (((pTargetPkt.offset &&& 0x78) <<< 1) ||| pTargetPkt.word_en)
          match repeat_write (efuse_addr + 1) pg_header left tmp_header chip with
          | (none, chip) => (none, chip)
          | (some (tmp_header, _), chip) =>
              if tmp_header ≠ pg_header then (none, chip) else (some (efuse_addr + 1), chip)

def hal_EfusePgPacketWrite1ByteHeader (chip : BtChip) (efuse_addr : Nat) (pTargetPkt : PgPkt) : Option Nat × BtChip :=
  let pg_header := UInt8.ofNat (((pTargetPkt.offset <<< 4) &&& 0xf0) ||| pTargetPkt.word_en)
  match repeat_write efuse_addr pg_header (EFUSE_REPEAT_THRESHOLD_ + 1) 0 chip with
  | (none, chip) => (none, chip)
  | (some (tmp_header, _), chip) => if tmp_header ≠ pg_header then (none, chip) else (some efuse_addr, chip)

def hal_EfusePgPacketWriteHeader (chip : BtChip) (efuse_addr : Nat) (pTargetPkt : PgPkt) : Option Nat × BtChip :=
  if pTargetPkt.offset ≥ EFUSE_MAX_SECTION_BASE then hal_EfusePgPacketWrite2ByteHeader chip efuse_addr pTargetPkt
  else hal_EfusePgPacketWrite1ByteHeader chip efuse_addr pTargetPkt

/-- The words that are enabled, with the bits of `badworden` cleared for those that read back
otherwise. -/
def word_writes (word_en : Nat) (data : ByteMap) : List Nat -> Nat -> Nat -> BtChip -> Nat × BtChip
  | [], _, badworden, chip => (badworden, chip)
  | i :: rest, start_addr, badworden, chip =>
      if word_en.testBit i then word_writes word_en data rest start_addr badworden chip
      else
        let chip := rtw_efuse_bt_write chip start_addr (data (2 * i))
        let chip := rtw_efuse_bt_write chip (start_addr + 1) (data (2 * i + 1))
        let low := (rtw_efuse_bt_read chip.cells start_addr).getD 0xFF
        let high := (rtw_efuse_bt_read chip.cells (start_addr + 1)).getD 0xFF
        let badworden :=
          if data (2 * i) ≠ low ∨ data (2 * i + 1) ≠ high then badworden &&& (0xFF - 2 ^ i) else badworden
        word_writes word_en data rest (start_addr + 2) badworden chip

def Hal_EfuseWordEnableDataWrite (chip : BtChip) (efuse_addr word_en : Nat) (data : ByteMap) : Nat × BtChip :=
  word_writes word_en data [0, 1, 2, 3] efuse_addr 0x0F chip

def hal_EfusePgPacketWriteData (chip : BtChip) (efuse_addr : Nat) (pTargetPkt : PgPkt) : Bool × BtChip :=
  let written := Hal_EfuseWordEnableDataWrite chip (efuse_addr + 1) pTargetPkt.word_en pTargetPkt.data
  (written.1 == 0x0F, written.2)

def EfusePgPacketWrite_BT (chip : BtChip) (offset word_en : Nat) (pData : ByteMap) : Bool × BtChip :=
  match hal_BT_EfusePgCheckAvailableAddr chip with
  | (false, chip) => (false, chip)
  | (true, chip) =>
      let targetPkt := hal_EfuseConstructPGPkt offset word_en pData
      match hal_EfusePartialWriteCheck chip with
      | none => (false, chip)
      | some startAddr =>
          match hal_EfusePgPacketWriteHeader chip startAddr targetPkt with
          | (none, chip) => (false, chip)
          | (some startAddr, chip) => hal_EfusePgPacketWriteData chip startAddr targetPkt

/-- The loop over the bytes of a section, from byte `i` of `8 - left`. -/
def fill_section (map data : ByteMap) (addr cnts : Nat) : Nat -> Nat -> Nat -> ByteMap -> Nat × Nat × ByteMap
  | 0, idx, word_en, newdata => (idx, word_en, newdata)
  | left + 1, idx, word_en, newdata =>
      let i := 7 - left
      if idx < cnts then
        if data idx ≠ map (addr + idx) then
          fill_section map data addr cnts left (idx + 1) (word_en &&& (0xFF - 2 ^ (i / 2)))
            (Function.update newdata i (data idx))
        else fill_section map data addr cnts left (idx + 1) word_en newdata
      else (idx, word_en, newdata)

structure WriteState where
  idx : Nat
  offset : Nat
  chip : BtChip

def write_body (map data : ByteMap) (addr cnts : Nat) (state : WriteState) : Iteration WriteState BtChip :=
  if state.idx < cnts then
    let j := (addr + state.idx) % 8
    let (idx, word_en, newdata) :=
      fill_section map data addr cnts (8 - j) state.idx 0xF (fun i => map (state.offset * 8 + i))
    if word_en ≠ 0xF then
      match EfusePgPacketWrite_BT state.chip state.offset word_en newdata with
      | (true, chip) => .more ⟨idx, state.offset + 1, chip⟩
      | (false, chip) => .done chip
    else .more ⟨idx, state.offset + 1, state.chip⟩
  else .done state.chip

def _FAIL : Nat := 0

def _SUCCESS : Nat := 1

/-- The status and the chip.  Whatever became of a packet, the status is the same. -/
def rtw_BT_efuse_map_write (chip : BtChip) (addr cnts : Nat) (data : ByteMap) : Option (Nat × BtChip) :=
  if addr + cnts > 1024 then some (_FAIL, chip)
  else
    (rtw_BT_efuse_map_read chip 0 1024 (fun _ => 0)).bind fun map =>
      (scan (write_body map.pbuf data addr cnts) 1025
        ⟨0, addr / 8, { chip with fakeBTEfuseUsedBytes := map.fakeBTEfuseUsedBytes }⟩).map fun chip => (_SUCCESS, chip)

end BtEfuse
end Rtl8821ce
