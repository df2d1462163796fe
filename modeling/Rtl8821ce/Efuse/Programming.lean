import Rtl8821ce.Efuse.Section

/-!
# Programming the efuse

Logical data are never changed in place: the programming functions append
sections behind the end that the parser has found.  A target map is programmed
with a mask of one bit for each 16-bit word.  A mask byte covers a row of two
blocks, the even one in its high nibble; words that have their value already
are taken out of the mask first.
-/

namespace Rtl8821ce

/-- `struct halmac_pg_efuse_info`; `none` is a `NULL` pointer. -/
structure HalmacPgEfuseInfo where
  efuse_map : Option ByteMap
  efuse_map_size : Nat
  efuse_mask : Option ByteMap
  efuse_mask_size : Nat

def HalmacPgEfuseInfo.map (info : HalmacPgEfuseInfo) : ByteMap := info.efuse_map.getD ByteMap.blank

def HalmacPgEfuseInfo.mask (info : HalmacPgEfuseInfo) : ByteMap := info.efuse_mask.getD ByteMap.blank

def alloc_efuse_map : HalmacM Unit := do
  let adapter <- Program.get
  if adapter.efuse_map.isSome then pure ()
  else do
    pltfm_malloc
    Program.update (fun adapter => { adapter with efuse_map := some ByteMap.blank })

/-- The branch of `read_log_efuse_map_88xx` that makes the cached map valid. -/
def fill_efuse_map : HalmacM Unit := do
  pltfm_malloc
  let local_map <- read_efuse_88xx
  alloc_efuse_map
  Program.update (fun adapter =>
    { adapter with efuse_map := some local_map, efuse_map_valid := true })

/-- Parse the cached map and remember where the log ends. -/
def parse_efuse_map : HalmacM ByteMap := do
  let adapter <- Program.get
  match eeprom_parser_88xx adapter.hw_cfg_info (adapter.efuse_map.getD ByteMap.blank) with
  | none => Program.stop .EEPROM_PARSING_FAIL
  | some final => do
      Program.update (fun adapter => { adapter with efuse_end := final.efuse_idx })
      return final.log_map

def read_log_efuse_map_88xx : HalmacM ByteMap := do
  let adapter <- Program.get
  (if adapter.efuse_map_valid then pure () else fill_efuse_map)
  parse_efuse_map

/-- The mask bit of the word at offset `j` of a row. -/
def clr_bit : Nat -> UInt8
  | 0 => 0x10
  | 2 => 0x20
  | 4 => 0x40
  | 6 => 0x80
  | 8 => 0x01
  | 10 => 0x02
  | 12 => 0x04
  | 14 => 0x08
  | _ => 0x00

/-- Clear the bits of the words that are equal in the row from `i` on. -/
def update_row (map_pg map : ByteMap) (i : Nat) : List Nat -> UInt8 -> UInt8
  | [], mask => mask
  | j :: rest, mask =>
      let map_offset := i + j
      let same := map_pg map_offset == map map_offset && map_pg (map_offset + 1) == map (map_offset + 1)
      update_row map_pg map i rest (if same then mask &&& ~~~ clr_bit j else mask)

/-- The loops of `update_eeprom_mask_88xx`: a row touches its own mask byte. -/
def updated_mask_of (info : HalmacPgEfuseInfo) (map : ByteMap) : ByteMap := fun row =>
  if row < info.efuse_map_size >>> 4 then
    update_row info.map map (row <<< 4) [0, 2, 4, 6, 8, 10, 12, 14] (info.mask row)
  else info.mask row

/-- The mask without the words that have their value already. -/
def update_eeprom_mask_88xx (info : HalmacPgEfuseInfo) : HalmacM ByteMap := do
  pltfm_malloc
  let map <- read_log_efuse_map_88xx
  return updated_mask_of info map

def block_offsets (info : HalmacPgEfuseInfo) : List Nat :=
  (List.range ((info.efuse_map_size + 7) / 8)).map (8 * ·)

/-- The nibble that `check_efuse_enough_88xx` takes for the block at `i`.  It
tests the offset inside the block, which is zero in each iteration. -/
def check_word_en (updated_mask : ByteMap) (i : Nat) : Nat :=
  if (i &&& 7) > 0 then (updated_mask (i >>> 4)).toNat &&& 0x0F
  else (updated_mask (i >>> 4)).toNat >>> 4

/-- The nibble that `program_efuse_88xx` takes for the block at `i`. -/
def pre_word_en (updated_mask : ByteMap) (i : Nat) : Nat :=
  if ((i >>> 3) &&& 1) > 0 then (updated_mask (i >>> 4)).toNat &&& 0x0F
  else (updated_mask (i >>> 4)).toNat >>> 4

def word_cost (enabled : Nat) : List Nat -> Nat
  | [] => 0
  | j :: rest => (if enabled.testBit j then 2 else 0) + word_cost enabled rest

def section_cost (i enabled : Nat) : Nat :=
  if enabled > 0 then
    if i > 0x7f then 2 + word_cost enabled [0, 1, 2, 3] else 1 + word_cost enabled [0, 1, 2, 3]
  else 0

/-- `pg_num` of `check_efuse_enough_88xx`. -/
def pg_num (info : HalmacPgEfuseInfo) (updated_mask : ByteMap) : Nat :=
  ((block_offsets info).map (fun i => section_cost i (check_word_en updated_mask i))).sum

def check_efuse_enough_88xx (info : HalmacPgEfuseInfo) (updated_mask : ByteMap) : HalmacM Unit := do
  let adapter <- Program.get
  Program.require (¬ adapter.hw_cfg_info.efuse_size ≤
    pg_num info updated_mask + PROTECT_EFUSE_SIZE + adapter.efuse_end) .EFUSE_NOT_ENOUGH

/-- Write the enabled words from `efuse_end` on; the answer is the end behind them. -/
def pg_words (info : HalmacPgEfuseInfo) (pre_word_en eeprom_offset : Nat) :
    List Nat -> Nat -> HalmacM Nat
  | [], efuse_end => pure efuse_end
  | i :: rest, efuse_end =>
      if pre_word_en.testBit i then do
        write_hw_efuse_88xx efuse_end (info.map (eeprom_offset + (i <<< 1)))
        write_hw_efuse_88xx (efuse_end + 1) (info.map (eeprom_offset + (i <<< 1) + 1))
        pg_words info pre_word_en eeprom_offset rest (efuse_end + 2)
      else pg_words info pre_word_en eeprom_offset rest efuse_end

def pg_extend_efuse_88xx (info : HalmacPgEfuseInfo) (word_en pre_word_en eeprom_offset : Nat) :
    HalmacM Unit := do
  let adapter <- Program.get
  let blk := eeprom_offset >>> 3
  write_hw_efuse_88xx adapter.efuse_end (ext_hdr blk)
  write_hw_efuse_88xx (adapter.efuse_end + 1) (ext_hdr2 blk word_en)
  let efuse_end <- pg_words info pre_word_en eeprom_offset [0, 1, 2, 3] (adapter.efuse_end + 2)
  Program.update (fun adapter => { adapter with efuse_end := efuse_end })

def proc_pg_efuse_88xx (info : HalmacPgEfuseInfo) (word_en pre_word_en eeprom_offset : Nat) :
    HalmacM Unit := do
  let adapter <- Program.get
  let blk := eeprom_offset >>> 3
  write_hw_efuse_88xx adapter.efuse_end (plain_hdr blk word_en)
  let efuse_end <- pg_words info pre_word_en eeprom_offset [0, 1, 2, 3] (adapter.efuse_end + 1)
  Program.update (fun adapter => { adapter with efuse_end := efuse_end })

/-- One block of `program_efuse_88xx`. -/
def program_block (info : HalmacPgEfuseInfo) (updated_mask : ByteMap) (i : Nat) : HalmacM Unit :=
  let pre_word_en := pre_word_en updated_mask i
  let word_en := pre_word_en ^^^ 0x0F
  if pre_word_en > 0 then
    if i > 0x7f then pg_extend_efuse_88xx info word_en pre_word_en i
    else proc_pg_efuse_88xx info word_en pre_word_en i
  else pure ()

def program_blocks (info : HalmacPgEfuseInfo) (updated_mask : ByteMap) : List Nat -> HalmacM Unit
  | [] => pure ()
  | i :: rest => do
      program_block info updated_mask i
      program_blocks info updated_mask rest

def program_efuse_88xx (info : HalmacPgEfuseInfo) (updated_mask : ByteMap) : HalmacM Unit :=
  program_blocks info updated_mask (block_offsets info)

def proc_pg_efuse_by_map_88xx (info : HalmacPgEfuseInfo) : HalmacM Unit := do
  pltfm_malloc
  let updated_mask <- update_eeprom_mask_88xx info
  check_efuse_enough_88xx info updated_mask
  program_efuse_88xx info updated_mask

/-- The bytes that one logical byte is written with: its whole word, the other
byte as it was. -/
def log_word (map : ByteMap) (offset : Nat) (value : UInt8) : UInt8 × UInt8 :=
  if (offset &&& 1) = 0 then (value, map (offset + 1)) else (map (offset - 1), value)

/-- What `proc_write_log_efuse_88xx` does behind the read of the logical map. -/
def write_log_word (offset : Nat) (value : UInt8) (map : ByteMap) : HalmacM Unit := do
  let adapter <- Program.get
  if map offset ≠ value then
    let efuse_end := adapter.efuse_end
    let blk := offset >>> 3
    let blk_idx := (offset &&& (8 - 1)) >>> 1
    let word_en := (0x01 <<< blk_idx) ^^^ 0x0F
    let word := log_word map offset value
    if offset > 0x7f then do
      Program.require (¬ adapter.hw_cfg_info.efuse_size ≤ 4 + PROTECT_EFUSE_SIZE + efuse_end)
        .EFUSE_NOT_ENOUGH
      write_hw_efuse_88xx efuse_end (ext_hdr blk)
      write_hw_efuse_88xx (efuse_end + 1) (ext_hdr2 blk word_en)
      write_hw_efuse_88xx (efuse_end + 2) word.1
      write_hw_efuse_88xx (efuse_end + 3) word.2
    else do
      Program.require (¬ adapter.hw_cfg_info.efuse_size ≤ 3 + PROTECT_EFUSE_SIZE + efuse_end)
        .EFUSE_NOT_ENOUGH
      write_hw_efuse_88xx efuse_end (plain_hdr blk word_en)
      write_hw_efuse_88xx (efuse_end + 1) word.1
      write_hw_efuse_88xx (efuse_end + 2) word.2
  else pure ()

/-- Write one logical byte, unless it is there already. -/
def proc_write_log_efuse_88xx (offset : Nat) (value : UInt8) : HalmacM Unit := do
  pltfm_malloc
  let map <- read_log_efuse_map_88xx
  write_log_word offset value map

end Rtl8821ce
