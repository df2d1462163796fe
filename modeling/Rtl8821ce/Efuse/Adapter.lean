import Mathlib.Logic.Function.Basic
import Rtl8821ce.Library.Program

/-!
# The efuse part of the HALMAC adapter

The adapter is kept together with the hardware it drives: the efuse cells of
each bank and the answers that the platform still has to give.  Every
allocation, register poll and hardware write takes the answer of its own turn,
so that a run is quantified over everything the outside can do.  A function
returns early with a status code and keeps the state it has reached.
-/

namespace Rtl8821ce

/-- A memory of bytes. -/
abbrev ByteMap := Nat -> UInt8

/-- Memory after `PLTFM_MEMSET(map, 0xFF, size)`. -/
def ByteMap.blank : ByteMap := fun _ => 0xFF

/-- `PROTECT_EFUSE_SIZE`: the cells at the end that are not for logical data. -/
def PROTECT_EFUSE_SIZE : Nat := 96

/-- The sizes of a chip.  Logical addresses fit the two header formats, and a
hardware address has ten bits. -/
structure HwCfgInfo where
  efuse_size : Nat
  eeprom_size : Nat
  bt_efuse_size : Nat
  protect_lt : PROTECT_EFUSE_SIZE + 8 < efuse_size
  efuse_size_le : efuse_size ≤ 1024
  eeprom_size_le : eeprom_size ≤ 1024
  eeprom_even : 2 ∣ eeprom_size

def HwCfgInfo.of8821c : HwCfgInfo where
  efuse_size := 512
  eeprom_size := 512
  bt_efuse_size := 128
  protect_lt := by decide
  efuse_size_le := by decide
  eeprom_size_le := by decide
  eeprom_even := by decide

/-- `efuse_size - PROTECT_EFUSE_SIZE`: where the cells for logical data end. -/
def HwCfgInfo.limit (hw_info : HwCfgInfo) : Nat := hw_info.efuse_size - PROTECT_EFUSE_SIZE

theorem HwCfgInfo.limit_add (hw_info : HwCfgInfo) : hw_info.limit + PROTECT_EFUSE_SIZE = hw_info.efuse_size := by
  have large := hw_info.protect_lt
  unfold limit
  omega

/-- The status codes that the efuse functions return instead of success. -/
inductive HalmacRet
  | EFUSE_SIZE_INCORRECT
  | MALLOC_FAIL
  | EFUSE_R_FAIL
  | EFUSE_W_FAIL
  | NULL_POINTER
  | BUSY_STATE
  | ERROR_STATE
  | EEPROM_PARSING_FAIL
  | EFUSE_NOT_ENOUGH
  | EFUSE_BANK_INCORRECT
  | SWITCH_EFUSE_BANK_FAIL
  | NO_DLFW
  | LDO_FAIL
  | H2C_FAIL
deriving DecidableEq, Repr

/-- `enum halmac_cmd_construct_state`. -/
inductive CmdConstructState
  | IDLE
  | BUSY
  | H2C_SENT
  | CNSTR
  | BUF_CLR
deriving DecidableEq, Repr

/-- `enum halmac_cmd_process_status`. -/
inductive CmdProcessStatus
  | IDLE
  | SENDING
  | RCVD
  | DONE
  | ERROR
deriving DecidableEq, Repr

/-- `enum halmac_dlfw_state`. -/
inductive DlfwState
  | NONE
  | DONE
  | GEN_INFO_SENT
deriving DecidableEq, Repr

/-- `enum halmac_efuse_read_cfg`. -/
inductive EfuseReadCfg
  | AUTO
  | DRV
  | FW
deriving DecidableEq, Repr

def HALMAC_EFUSE_BANK_WIFI : Nat := 0

def HALMAC_EFUSE_BANK_MAX : Nat := 4

/-- How the hardware treats one write: whether the 2.5V supply comes on,
whether the cell takes the byte, whether the flag clears in time, and whether
the supply goes off again. -/
structure WriteAnswer where
  ldo_on : Bool
  stored : Bool
  flag_clears : Bool
  ldo_off : Bool
deriving DecidableEq

/-- The answers of the platform and the hardware, by turn. -/
structure Platform where
  malloc : Nat -> Bool
  bank_switches : Nat -> Bool
  read_completes : Nat -> Bool
  write : Nat -> WriteAnswer
  h2c_pkt_readaddr_set : Nat -> Bool
  h2c_sent : Nat -> Bool

/-- The adapter with its efuse.  `efuse_map` is `none` while the pointer is
`NULL`; `bank` is the bank field of `REG_LDO_EFUSE_CTRL`; `written` is a record
of the writes that the hardware was given, oldest first. -/
structure HalmacAdapter where
  hw_cfg_info : HwCfgInfo
  cmd_cnstr_state : CmdConstructState
  proc_status : CmdProcessStatus
  efuse_map : Option ByteMap
  efuse_map_valid : Bool
  efuse_end : Nat
  efuse_auto_check_en : Bool
  dlfw_state : DlfwState
  phy_efuse_map : Bool
  log_efuse_map : Bool
  bank : Nat
  cells : Nat -> ByteMap
  written : List (Nat × UInt8)
  platform : Platform
  turn : Nat

/-- Functions on the adapter that return a status. -/
abbrev HalmacM (α : Type) : Type := Program HalmacAdapter HalmacRet α

def HalmacAdapter.phy_map (adapter : HalmacAdapter) : ByteMap := adapter.cells adapter.bank

def answer {α : Type} (ask : Platform -> Nat -> α) : HalmacM α :=
  fun adapter => (.ok (ask adapter.platform adapter.turn), { adapter with turn := adapter.turn + 1 })

/-- `PLTFM_MALLOC`, where the caller gives up without memory. -/
def pltfm_malloc : HalmacM Unit := do
  let allocated <- answer Platform.malloc
  Program.require allocated .MALLOC_FAIL

/-- Read the selected bank; the cells are returned whole, of which the caller
keeps its own range. -/
def read_hw_efuse_88xx : HalmacM ByteMap := do
  let completes <- answer Platform.read_completes
  Program.require completes .EFUSE_R_FAIL
  let adapter <- Program.get
  return adapter.phy_map

def efuse_addr (offset : Nat) : Nat := offset &&& 0x3ff

/-- Give a byte to a cell of the selected bank, which takes it or not. -/
def HalmacAdapter.burn (adapter : HalmacAdapter) (offset : Nat) (value : UInt8) (stored : Bool) : HalmacAdapter :=
  { adapter with
    written := adapter.written ++ [(offset, value)]
    cells :=
      if stored then
        Function.update adapter.cells adapter.bank
          (Function.update adapter.phy_map (efuse_addr offset) value)
      else adapter.cells }

/-- Write a byte.  The cached map is stale from here on, whatever happens. -/
def write_hw_efuse_88xx (offset : Nat) (value : UInt8) : HalmacM Unit := do
  Program.update (fun adapter => { adapter with efuse_map_valid := false })
  let hardware <- answer Platform.write
  Program.require hardware.ldo_on .LDO_FAIL
  Program.update (fun adapter => adapter.burn offset value hardware.stored)
  Program.require hardware.flag_clears .EFUSE_W_FAIL
  Program.require hardware.ldo_off .LDO_FAIL
  let adapter <- Program.get
  if adapter.efuse_auto_check_en then do
    let map <- read_hw_efuse_88xx
    Program.require (map (efuse_addr offset) == value) .EFUSE_W_FAIL
  else pure ()

/-- Read from the cached map if it is valid, else from the hardware. -/
def read_efuse_88xx : HalmacM ByteMap := do
  let adapter <- Program.get
  if adapter.efuse_map_valid then return adapter.efuse_map.getD ByteMap.blank
  else read_hw_efuse_88xx

def cnv_efuse_state_88xx (dest_state : CmdConstructState) : HalmacM Unit := do
  let adapter <- Program.get
  let state := adapter.cmd_cnstr_state
  Program.require (state = .IDLE ∨ state = .BUSY ∨ state = .H2C_SENT) .ERROR_STATE
  Program.require (state ≠ dest_state) .ERROR_STATE
  Program.require (¬ (dest_state = .BUSY ∧ state = .H2C_SENT)) .ERROR_STATE
  Program.require (¬ (dest_state = .H2C_SENT ∧ state = .IDLE)) .ERROR_STATE
  Program.update (fun adapter => { adapter with cmd_cnstr_state := dest_state })

/-- Select an efuse bank.  The construct state is `BUSY` from here on. -/
def switch_efuse_bank_88xx (bank : Nat) : HalmacM Unit := do
  cnv_efuse_state_88xx .BUSY
  let adapter <- Program.get
  if bank = adapter.bank then pure ()
  else do
    let switches <- answer Platform.bank_switches
    Program.update (fun adapter => if switches then { adapter with bank := bank &&& 3 } else adapter)
    let adapter <- Program.get
    Program.require (adapter.bank = bank) .SWITCH_EFUSE_BANK_FAIL

end Rtl8821ce
