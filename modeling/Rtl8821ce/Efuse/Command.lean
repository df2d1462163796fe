import Rtl8821ce.Efuse.SpaceCheck

/-!
# The efuse commands

Each entry point checks that no command is going on, advances the construct
state with the bank switch, does its work and returns the state to `IDLE`.  Only
the last step of a call does that: an error in between returns at once, so the
construct state stays where it was and the next command is refused.  The one
exception is the reset after a failed allocation of the cached map.
-/

namespace Rtl8821ce

def RSVD_EFUSE_SIZE : Nat := 16

def RSVD_CS_EFUSE_SIZE : Nat := 24

/-- The checks that each entry point makes of the state machine. -/
def efuse_idle : HalmacM Unit := do
  let adapter <- Program.get
  Program.require (adapter.proc_status ≠ .SENDING) .BUSY_STATE
  Program.require (adapter.cmd_cnstr_state = .IDLE) .ERROR_STATE

/-- The common shape of the entry points that dump no map. -/
def efuse_command {α : Type} (checks : HalmacM Unit) (bank : Nat) (work : HalmacM α) : HalmacM α := do
  checks
  switch_efuse_bank_88xx bank
  let result <- work
  cnv_efuse_state_88xx .IDLE
  return result

/-- The checks of the commands for one byte of the logical map. -/
def check_log (offset : Nat) : HalmacM Unit := do
  let adapter <- Program.get
  Program.require (offset < adapter.hw_cfg_info.eeprom_size) .EFUSE_SIZE_INCORRECT
  efuse_idle

/-- The work of `read_logical_efuse_88xx`. -/
def proc_read_log_efuse (offset : Nat) : HalmacM UInt8 := do
  pltfm_malloc
  let map <- read_log_efuse_map_88xx
  return map offset

/-- One byte of `read_efuse_88xx`. -/
def read_efuse_byte (offset : Nat) : HalmacM UInt8 := do
  let map <- read_efuse_88xx
  return map offset

def read_logical_efuse_88xx (offset : Nat) : HalmacM UInt8 :=
  efuse_command (check_log offset) HALMAC_EFUSE_BANK_WIFI (proc_read_log_efuse offset)

def write_log_efuse_88xx (offset : Nat) (value : UInt8) : HalmacM Unit :=
  efuse_command (check_log offset) HALMAC_EFUSE_BANK_WIFI (proc_write_log_efuse_88xx offset value)

/-- The checks of `pg_efuse_by_map_88xx`. -/
def check_pg_efuse (info : HalmacPgEfuseInfo) : HalmacM Unit := do
  let adapter <- Program.get
  Program.require (info.efuse_map_size = adapter.hw_cfg_info.eeprom_size) .EFUSE_SIZE_INCORRECT
  Program.require (¬ (info.efuse_map_size &&& 0xF) > 0) .EFUSE_SIZE_INCORRECT
  Program.require (info.efuse_mask_size = info.efuse_map_size >>> 4) .EFUSE_SIZE_INCORRECT
  Program.require info.efuse_map.isSome .NULL_POINTER
  Program.require info.efuse_mask.isSome .NULL_POINTER
  efuse_idle

/-- The way to dump the efuse is handed down but not used. -/
def pg_efuse_by_map_88xx (info : HalmacPgEfuseInfo) (_cfg : EfuseReadCfg) : HalmacM Unit :=
  efuse_command (check_pg_efuse info) HALMAC_EFUSE_BANK_WIFI (proc_pg_efuse_by_map_88xx info)

/-- The checks of the commands for one byte of the BT efuse. -/
def check_bt (offset bank : Nat) : HalmacM Unit := do
  efuse_idle
  let adapter <- Program.get
  Program.require (offset < adapter.hw_cfg_info.efuse_size) .EFUSE_SIZE_INCORRECT
  Program.require (¬ (bank > HALMAC_EFUSE_BANK_MAX ∨ bank = HALMAC_EFUSE_BANK_WIFI))
    .EFUSE_BANK_INCORRECT

def read_efuse_bt_88xx (offset bank : Nat) : HalmacM UInt8 :=
  efuse_command (check_bt offset bank) bank (read_efuse_byte offset)

def write_efuse_bt_88xx (offset : Nat) (value : UInt8) (bank : Nat) : HalmacM Unit :=
  efuse_command (check_bt offset bank) bank (write_hw_efuse_88xx offset value)

/-- The checks of `dump_efuse_map_bt_88xx`; the bound of the bank is the strict
one here. -/
def check_dump_bt (bank size : Nat) : HalmacM Unit := do
  let adapter <- Program.get
  Program.require (adapter.hw_cfg_info.bt_efuse_size = size) .EFUSE_SIZE_INCORRECT
  Program.require (¬ (bank ≥ HALMAC_EFUSE_BANK_MAX ∨ bank = HALMAC_EFUSE_BANK_WIFI))
    .EFUSE_BANK_INCORRECT
  efuse_idle

def dump_efuse_map_bt_88xx (bank size : Nat) : HalmacM ByteMap :=
  efuse_command (check_dump_bt bank size) bank read_hw_efuse_88xx

/-! ## The dump commands -/

/-- `reset_ofld_feature_88xx` for the efuse features. -/
def reset_ofld_feature_88xx : HalmacM Unit :=
  Program.update (fun adapter => { adapter with proc_status := .IDLE, cmd_cnstr_state := .IDLE })

/-- Allocate the cached map unless it is there; without memory the state machine
is reset. -/
def alloc_or_reset : HalmacM Unit := do
  let adapter <- Program.get
  if adapter.efuse_map.isSome then pure ()
  else do
    let allocated <- answer Platform.malloc
    if allocated then Program.update (fun adapter => { adapter with efuse_map := some ByteMap.blank })
    else do
      reset_ofld_feature_88xx
      Program.stop .MALLOC_FAIL

def dump_efuse_drv_88xx : HalmacM Unit := do
  alloc_or_reset
  let adapter <- Program.get
  if adapter.efuse_map_valid then pure ()
  else do
    pltfm_malloc
    let map <- read_hw_efuse_88xx
    Program.update (fun adapter => { adapter with efuse_map := some map, efuse_map_valid := true })

def dump_efuse_fw_88xx : HalmacM Unit := do
  alloc_or_reset
  let adapter <- Program.get
  if adapter.efuse_map_valid then pure ()
  else do
    let sent <- answer Platform.h2c_sent
    if sent then pure ()
    else do
      reset_ofld_feature_88xx
      Program.stop .H2C_FAIL

def proc_dump_efuse_88xx (cfg : EfuseReadCfg) : HalmacM Unit := do
  Program.update (fun adapter => { adapter with proc_status := .SENDING })
  cnv_efuse_state_88xx .H2C_SENT
  match cfg with
  | .AUTO => do
      let h2c_init <- answer Platform.h2c_pkt_readaddr_set
      let adapter <- Program.get
      if adapter.dlfw_state = .NONE ∨ h2c_init = false then dump_efuse_drv_88xx else dump_efuse_fw_88xx
  | .FW => dump_efuse_fw_88xx
  | .DRV => dump_efuse_drv_88xx

def halmac_fw_validate : HalmacM Unit := do
  let adapter <- Program.get
  Program.require (adapter.dlfw_state ≠ .NONE) .NO_DLFW

/-- What the two dump commands do with a valid map; the answer is the map that
the event carries. -/
def dump_valid_map (signal : HalmacM ByteMap) : HalmacM (Option ByteMap) := do
  let adapter <- Program.get
  if adapter.efuse_map_valid then do
    Program.update (fun adapter => { adapter with proc_status := .DONE })
    pltfm_malloc
    let map <- signal
    return some map
  else return none

/-- The common shape of the two dump commands; `mark` sets the event flag. -/
def dump_command (cfg : EfuseReadCfg) (mark : HalmacAdapter -> HalmacAdapter) (signal : HalmacM ByteMap) :
    HalmacM (Option ByteMap) := do
  (if cfg = .FW then halmac_fw_validate else pure ())
  efuse_idle
  Program.update (fun adapter => mark { adapter with proc_status := .IDLE })
  switch_efuse_bank_88xx HALMAC_EFUSE_BANK_WIFI
  proc_dump_efuse_88xx cfg
  let map <- dump_valid_map signal
  cnv_efuse_state_88xx .IDLE
  return map

/-- The physical map without the cells that are reserved. -/
def dumped_map (hw_info : HwCfgInfo) (efuse_map : ByteMap) : ByteMap := fun idx =>
  if idx < hw_info.limit ∨ (hw_info.limit + RSVD_CS_EFUSE_SIZE ≤ idx ∧
      idx < hw_info.limit + PROTECT_EFUSE_SIZE - RSVD_EFUSE_SIZE) then efuse_map idx
  else 0xFF

def mark_phy (adapter : HalmacAdapter) : HalmacAdapter := { adapter with phy_efuse_map := true }

def mark_log (adapter : HalmacAdapter) : HalmacAdapter := { adapter with log_efuse_map := true }

def signal_phy : HalmacM ByteMap := do
  let adapter <- Program.get
  Program.update (fun adapter => { adapter with phy_efuse_map := false })
  return dumped_map adapter.hw_cfg_info (adapter.efuse_map.getD ByteMap.blank)

def signal_log : HalmacM ByteMap := do
  let map <- parse_efuse_map
  Program.update (fun adapter => { adapter with log_efuse_map := false })
  return map

def dump_efuse_map_88xx (cfg : EfuseReadCfg) : HalmacM (Option ByteMap) :=
  dump_command cfg mark_phy signal_phy

def dump_log_efuse_map_88xx (cfg : EfuseReadCfg) : HalmacM (Option ByteMap) :=
  dump_command cfg mark_log signal_log

end Rtl8821ce
