import Rtl8821ce.Efuse.Adapter
import Rtl8821ce.Library.Memory
import Rtl8821ce.Library.Tickets

/-!
# Offload commands and the packets that answer them

Commands to the firmware are numbered from one counter of eight bits.  Each
feature has a state with the progress of its command and the number that the
answer must carry.
-/

namespace Rtl8821ce

namespace Offload

/-- The status codes that the functions below return instead of success. -/
inductive HalmacRet
  | NO_DLFW
  | FW_NO_SUPPORT
  | RSVD_PG_OVERFLOW_FAIL
  | BUSY_STATE
  | ERROR_STATE
  | MALLOC_FAIL
  | NULL_POINTER
  | PARA_SENDING
  | ZERO_LEN_RSVD_PACKET
  | DL_RSVD_PAGE_FAIL
  | POLLING_BCN_VALID_FAIL
  | H2C_SPACE_FULL
  | SEND_H2C_FAIL
  | SWITCH_EFUSE_BANK_FAIL
  | GEN_INFO_NOT_SENT
  | CH_SW_SEQ_WRONG
  | CH_SW_NO_BUF
  | EEPROM_PARSING_FAIL
  | C2H_NOT_HANDLED
  | NOT_SUPPORT
deriving DecidableEq, Repr

/-- The features of `enum halmac_feature_id` whose commands are modelled. -/
inductive HalmacFeature
  | CFG_PARA
  | DUMP_PHYSICAL_EFUSE
  | UPDATE_PACKET
  | CHANNEL_SWITCH
  | IQK
  | POWER_TRACKING
  | PSD
deriving DecidableEq, Repr

/-- `SUB_CMD_ID_*` of the feature's command; the answer repeats it. -/
def HalmacFeature.sub_cmd_id : HalmacFeature -> Nat
  | .CHANNEL_SWITCH => 0x02
  | .DUMP_PHYSICAL_EFUSE => 0x03
  | .CFG_PARA => 0x08
  | .UPDATE_PACKET => 0x0C
  | .IQK => 0x0E
  | .POWER_TRACKING => 0x0F
  | .PSD => 0x10

theorem sub_cmd_id_injective : Function.Injective HalmacFeature.sub_cmd_id := by
  intro first second same
  cases first <;> cases second <;> first | rfl | cases same

/-- Commands that are numbered too, but have no state that a packet changes. -/
inductive OtherCommand
  | DOWNLOAD_FLASH
  | GENERAL_INFO
  | PHYDM_INFO
  | FW_SNDING
  | P2PPS
  | BT_COEX
deriving DecidableEq, Repr

def OtherCommand.sub_cmd_id : OtherCommand -> Nat
  | .DOWNLOAD_FLASH => 0x0B
  | .GENERAL_INFO => 0x0D
  | .PHYDM_INFO => 0x11
  | .FW_SNDING => 0x12
  | .P2PPS => 0x24
  | .BT_COEX => 0x60

theorem sub_cmd_id_ne_other (feature : HalmacFeature) (command : OtherCommand) :
    feature.sub_cmd_id ≠ command.sub_cmd_id := by
  cases feature <;> cases command <;> exact fun same => nomatch same

/-- `struct halmac_*_state`: the fields that the features share.  `seq_num` has
sixteen bits, of which the counter uses eight. -/
structure HalmacFeatureState where
  cmd_cnstr_state : CmdConstructState
  proc_status : CmdProcessStatus
  fw_rc : Nat
  seq_num : Nat
deriving DecidableEq

/-- `struct halmac_cfg_param_info`; `buf` says whether there is a buffer. -/
structure CfgParamInfo where
  buf : Bool
  buf_size : UInt32
  avl_buf_size : UInt32
  num : Nat
  full_fifo_mode : Bool
  value_accum : UInt32
  offset_accum : UInt32
deriving DecidableEq

/-- `struct halmac_ch_sw_info`. -/
structure ChSwInfo where
  buf : Bool
  avl_buf_size : Nat
  total_size : Nat
  extra_info_en : Bool
  ch_num : Nat
deriving DecidableEq

/-- The data part of `struct halmac_psd_state`. -/
structure PsdData where
  data_size : Nat
  seg_size : Nat
  data : Option ByteMap

/-- The adapter.  `tickets` is the history of the numbering, of which the code
keeps the counter only; `null_write` records a copy to a null pointer. -/
structure Adapter where
  h2c_seq_num : Nat
  halmac_state : HalmacFeature -> HalmacFeatureState
  cfg_param_info : CfgParamInfo
  ch_sw_info : ChSwInfo
  psd : PsdData
  efuse_map : Option ByteMap
  efuse_map_valid : Bool
  efuse_seg_size : Nat
  phy_efuse_map : Bool
  log_efuse_map : Bool
  null_write : Bool
  tickets : Tickets Nat

/-- What the platform, the hardware and the firmware state answer during one
call. -/
structure Answers where
  fw_validate : Bool
  h2c_version : Nat
  gen_info_sent : Bool
  malloc : UInt32 -> Bool
  malloc_efuse_map : Bool
  malloc_map : Bool
  malloc_size : UInt32
  rsvd_pg_size : UInt32
  txdesc_size : UInt32
  bank_switches : Bool
  dl_rsvd_page : Option HalmacRet
  send_h2c_pkt : Option HalmacRet
  eeprom_parser_ok : Bool

/-- Functions on the adapter that return a status. -/
abbrev HalmacM (α : Type) : Type := Program Adapter HalmacRet α

def Adapter.set (adapter : Adapter) (feature : HalmacFeature)
    (change : HalmacFeatureState -> HalmacFeatureState) : Adapter :=
  { adapter with
    halmac_state :=
      Function.update adapter.halmac_state feature (change (adapter.halmac_state feature)) }

@[simp] theorem halmac_state_set_self (adapter : Adapter) (feature : HalmacFeature)
    (change : HalmacFeatureState -> HalmacFeatureState) :
    (adapter.set feature change).halmac_state feature = change (adapter.halmac_state feature) :=
  Function.update_self feature _ _

theorem halmac_state_set_of_ne (adapter : Adapter) {feature other : HalmacFeature}
    (change : HalmacFeatureState -> HalmacFeatureState) (different : other ≠ feature) :
    (adapter.set feature change).halmac_state other = adapter.halmac_state other :=
  Function.update_of_ne different _ _

def set_proc_status (feature : HalmacFeature) (status : CmdProcessStatus) : HalmacM Unit :=
  Program.update (fun adapter => adapter.set feature ({ · with proc_status := status }))

def set_cmd_cnstr_state (feature : HalmacFeature) (dest_state : CmdConstructState) : HalmacM Unit :=
  Program.update (fun adapter => adapter.set feature ({ · with cmd_cnstr_state := dest_state }))

def check : Option HalmacRet -> HalmacM Unit
  | none => pure ()
  | some code => Program.stop code

/-- A command with the number in its header. -/
structure H2cPkt where
  sub_cmd_id : Nat
  seq_num : Nat
  ticket : Nat

def set_h2c_pkt_hdr_88xx (sub_cmd_id : Nat) : HalmacM H2cPkt := do
  let adapter <- Program.get
  Program.update (fun adapter =>
    { adapter with
      h2c_seq_num := (adapter.h2c_seq_num + 1) % 256
      tickets := adapter.tickets.draw sub_cmd_id })
  return ⟨sub_cmd_id, adapter.h2c_seq_num, adapter.tickets.drawn⟩

/-- The header of the short commands takes a number from the same counter. -/
def set_h2c_header_88xx : HalmacM Unit :=
  Program.update (fun adapter =>
    { adapter with
      h2c_seq_num := (adapter.h2c_seq_num + 1) % 256
      tickets := adapter.tickets.skip })

def send_h2c_pkt_88xx (answers : Answers) (pkt : H2cPkt) : HalmacM Unit := do
  check answers.send_h2c_pkt
  Program.update (fun adapter =>
    { adapter with tickets := adapter.tickets.deliver pkt.sub_cmd_id pkt.ticket })

def reset_ofld_feature_88xx (feature : HalmacFeature) : HalmacM Unit := do
  set_proc_status feature .IDLE
  match feature with
  | .CFG_PARA | .DUMP_PHYSICAL_EFUSE | .CHANNEL_SWITCH => set_cmd_cnstr_state feature .IDLE
  | .UPDATE_PACKET | .IQK | .POWER_TRACKING | .PSD => pure ()

def send_or_reset (answers : Answers) (feature : HalmacFeature) (pkt : H2cPkt) : HalmacM Unit :=
  match answers.send_h2c_pkt with
  | none => send_h2c_pkt_88xx answers pkt
  | some code => do
      reset_ofld_feature_88xx feature
      Program.stop code

/-- Number a command and record the number in the state of its feature. -/
def number_command (feature : HalmacFeature) : HalmacM H2cPkt := do
  let pkt <- set_h2c_pkt_hdr_88xx feature.sub_cmd_id
  Program.update (fun adapter => adapter.set feature ({ · with seq_num := pkt.seq_num }))
  return pkt

/-- A feature whose command is under way takes no other one. -/
def not_sending (feature : HalmacFeature) : HalmacM Unit := do
  let adapter <- Program.get
  Program.require ((adapter.halmac_state feature).proc_status ≠ .SENDING) .BUSY_STATE

/-- The common shape of the commands that only number, record and send. -/
def plain_command (answers : Answers) (feature : HalmacFeature) : HalmacM Unit := do
  Program.require answers.fw_validate .NO_DLFW
  not_sending feature
  set_proc_status feature .SENDING
  let pkt <- number_command feature
  send_or_reset answers feature pkt

def start_iqk_88xx (answers : Answers) : HalmacM Unit := plain_command answers .IQK

def ctrl_pwr_tracking_88xx (answers : Answers) : HalmacM Unit := plain_command answers .POWER_TRACKING

/-- The number goes into the header only: `psd_state.seq_num` is not written. -/
def psd_88xx (answers : Answers) : HalmacM Unit := do
  Program.require answers.fw_validate .NO_DLFW
  not_sending .PSD
  Program.update (fun adapter => { adapter with psd := ⟨0, 0, none⟩ })
  set_proc_status .PSD .SENDING
  let pkt <- set_h2c_pkt_hdr_88xx HalmacFeature.PSD.sub_cmd_id
  send_or_reset answers .PSD pkt

def UPDATE_PKT_RSVDPG_SIZE : Nat := 2048

/-- When the reserved page cannot be loaded, the feature stays in `SENDING`. -/
def update_packet_88xx (answers : Answers) (size : Nat) : HalmacM Unit := do
  Program.require answers.fw_validate .NO_DLFW
  Program.require (4 ≤ answers.h2c_version) .FW_NO_SUPPORT
  Program.require (size ≤ UPDATE_PKT_RSVDPG_SIZE) .RSVD_PG_OVERFLOW_FAIL
  not_sending .UPDATE_PACKET
  set_proc_status .UPDATE_PACKET .SENDING
  check answers.dl_rsvd_page
  let pkt <- number_command .UPDATE_PACKET
  send_or_reset answers .UPDATE_PACKET pkt

/-- Go to another construct state, if the table of the feature allows it. -/
def cnv_state (allowed : CmdConstructState -> CmdConstructState -> Bool) (feature : HalmacFeature)
    (dest_state : CmdConstructState) : HalmacM Unit := do
  let adapter <- Program.get
  Program.require (allowed (adapter.halmac_state feature).cmd_cnstr_state dest_state) .ERROR_STATE
  set_cmd_cnstr_state feature dest_state

/-! ### Parameters -/

def CFG_PARAM_H2C_INFO_SIZE : UInt32 := 12

def CFG_PARAM_RSVDPG_SIZE : UInt32 := 2048

/-- `struct halmac_phy_parameter_info`: the commands with what they add to the
sums, the others by their kind. -/
inductive PhyParameter
  | MAC_W (offset value : UInt32)
  | RF_W (offset rf_path value : UInt32)
  | DELAY
  | END
  | other
deriving DecidableEq

/-- `cnv_cfg_param_state_88xx`. -/
def cnv_cfg_param_allowed (state dest_state : CmdConstructState) : Bool :=
  match state, dest_state with
  | .BUSY, _ | .BUF_CLR, _ => false
  | .CNSTR, .IDLE => false
  | .H2C_SENT, .CNSTR => false
  | .IDLE, .H2C_SENT | .H2C_SENT, .H2C_SENT => false
  | _, _ => true

def free_cfg_param_buf : HalmacM Unit :=
  Program.update (fun adapter =>
    { adapter with cfg_param_info := { adapter.cfg_param_info with buf := false } })

/-- Free the buffer when the program stops with an error. -/
def or_free (program : HalmacM Unit) : HalmacM Unit := fun adapter =>
  match program adapter with
  | (.ok done, next) => (.ok done, next)
  | (.error code, next) => (.error code, (free_cfg_param_buf next).2)

/-- Try a size, then half of it, at most `retries` times. -/
def smart_malloc_88xx (malloc : UInt32 -> Bool) : Nat -> UInt32 -> Option UInt32
  | 0, _ => none
  | retries + 1, size =>
      if malloc size then some size
      else if size >>> 1 = 0 then none
      else smart_malloc_88xx malloc retries (size >>> 1)

def malloc_cfg_param_buf_88xx (answers : Answers) (full_fifo : Bool) : HalmacM Unit := do
  let adapter <- Program.get
  if adapter.cfg_param_info.buf then pure ()
  else do
    let wanted := if full_fifo then answers.malloc_size else CFG_PARAM_RSVDPG_SIZE
    let wanted := if answers.rsvd_pg_size < wanted then answers.rsvd_pg_size else wanted
    match smart_malloc_88xx answers.malloc 5 wanted with
    | none =>
        Program.update (fun adapter =>
          { adapter with cfg_param_info := { adapter.cfg_param_info with buf_size := wanted } })
        Program.stop .MALLOC_FAIL
    | some size =>
        Program.update (fun adapter =>
          { adapter with cfg_param_info := ⟨true, size, size, 0, full_fifo, 0, 0⟩ })

def add_param_buf_88xx (param : PhyParameter) (info : CfgParamInfo) : CfgParamInfo :=
  match param with
  | .MAC_W offset value =>
      { info with value_accum := info.value_accum + value, offset_accum := info.offset_accum + offset }
  | .RF_W offset rf_path value =>
      { info with
        value_accum := info.value_accum + value
        offset_accum := info.offset_accum + (offset + rf_path <<< 8) }
  | .DELAY | .END | .other => info

/-- A parameter other than the end mark takes its place in the buffer. -/
def take_param (param : PhyParameter) (info : CfgParamInfo) : CfgParamInfo :=
  let added := add_param_buf_88xx param info
  if param = .END then added
  else { added with num := added.num + 1, avl_buf_size := added.avl_buf_size - CFG_PARAM_H2C_INFO_SIZE }

/-- The end of `send_cfg_param_h2c_88xx`, on every path. -/
def end_cfg_param_h2c (status : Option HalmacRet) : HalmacM Unit := do
  free_cfg_param_buf
  cnv_state cnv_cfg_param_allowed .CFG_PARA .IDLE
  check status

def send_cfg_param_h2c_88xx (answers : Answers) : HalmacM Unit := do
  cnv_state cnv_cfg_param_allowed .CFG_PARA .H2C_SENT
  set_proc_status .CFG_PARA .SENDING
  match answers.dl_rsvd_page with
  | some code => end_cfg_param_h2c (some code)
  | none => do
      let pkt <- number_command .CFG_PARA
      match answers.send_h2c_pkt with
      | none => do
          send_h2c_pkt_88xx answers pkt
          end_cfg_param_h2c none
      | some code => do
          reset_ofld_feature_88xx .CFG_PARA
          end_cfg_param_h2c (some code)

def proc_cfg_param_88xx (answers : Answers) (param : PhyParameter) (full_fifo : Bool) :
    HalmacM Unit := do
  malloc_cfg_param_buf_88xx answers full_fifo
  or_free (cnv_state cnv_cfg_param_allowed .CFG_PARA .CNSTR)
  Program.update (fun adapter => { adapter with cfg_param_info := take_param param adapter.cfg_param_info })
  let adapter <- Program.get
  let rsvd_size := adapter.cfg_param_info.avl_buf_size - answers.txdesc_size
  if CFG_PARAM_H2C_INFO_SIZE < rsvd_size ∧ param ≠ .END then pure ()
  else if adapter.cfg_param_info.num = 0 then do
    free_cfg_param_buf
    set_proc_status .CFG_PARA .DONE
    reset_ofld_feature_88xx .CFG_PARA
  else do
    or_free (send_cfg_param_h2c_88xx answers)
    Program.require (param = .END) .PARA_SENDING

def cfg_parameter_88xx (answers : Answers) (param : PhyParameter) (full_fifo : Bool) :
    HalmacM Unit := do
  Program.require answers.fw_validate .NO_DLFW
  Program.require (4 ≤ answers.h2c_version) .FW_NO_SUPPORT
  not_sending .CFG_PARA
  let adapter <- Program.get
  let cmd_state := (adapter.halmac_state .CFG_PARA).cmd_cnstr_state
  Program.require (cmd_state = .IDLE ∨ cmd_state = .CNSTR) .BUSY_STATE
  set_proc_status .CFG_PARA .IDLE
  proc_cfg_param_88xx answers param full_fifo

def SCAN_INFO_RSVDPG_SIZE : Nat := 256

/-- `cnv_scan_state_88xx`. -/
def cnv_scan_allowed (state dest_state : CmdConstructState) : Bool :=
  match dest_state, state with
  | .IDLE, .BUF_CLR | .IDLE, .CNSTR => false
  | .BUF_CLR, .H2C_SENT => false
  | .CNSTR, .IDLE | .CNSTR, .H2C_SENT => false
  | .H2C_SENT, .CNSTR | .H2C_SENT, .BUF_CLR => true
  | .H2C_SENT, _ => false
  | _, _ => true

def clear_ch_sw_info : HalmacM Unit :=
  Program.update (fun adapter => { adapter with ch_sw_info := ⟨false, 0, 0, false, 0⟩ })

def clear_ch_info_88xx : HalmacM Unit := do
  let adapter <- Program.get
  Program.require ((adapter.halmac_state .CHANNEL_SWITCH).cmd_cnstr_state ≠ .H2C_SENT) .ERROR_STATE
  cnv_state cnv_scan_allowed .CHANNEL_SWITCH .BUF_CLR
  clear_ch_sw_info

def add_ch_info_88xx (answers : Answers) (extra_info : Bool) : HalmacM Unit := do
  Program.require answers.gen_info_sent .GEN_INFO_NOT_SENT
  let adapter <- Program.get
  let state := (adapter.halmac_state .CHANNEL_SWITCH).cmd_cnstr_state
  Program.require (state = .BUF_CLR ∨ state = .CNSTR) .ERROR_STATE
  (if adapter.ch_sw_info.buf then pure ()
    else do
      Program.require (answers.malloc 256) .NULL_POINTER
      Program.update (fun adapter =>
        { adapter with ch_sw_info := ⟨true, SCAN_INFO_RSVDPG_SIZE, 0, false, 0⟩ }))
  let adapter <- Program.get
  Program.require (adapter.ch_sw_info.extra_info_en = false) .CH_SW_SEQ_WRONG
  Program.require (4 ≤ adapter.ch_sw_info.avl_buf_size) .CH_SW_NO_BUF
  cnv_state cnv_scan_allowed .CHANNEL_SWITCH .CNSTR
  Program.update (fun adapter =>
    let info := adapter.ch_sw_info
    { adapter with
      ch_sw_info := ⟨info.buf, info.avl_buf_size - 4, info.total_size + 4, extra_info, info.ch_num + 1⟩ })

def add_extra_ch_info_88xx (extra_info_size : Nat) (extra_info : Bool) : HalmacM Unit := do
  let adapter <- Program.get
  Program.require adapter.ch_sw_info.buf .CH_SW_SEQ_WRONG
  Program.require adapter.ch_sw_info.extra_info_en .CH_SW_SEQ_WRONG
  Program.require (extra_info_size + 2 ≤ adapter.ch_sw_info.avl_buf_size) .CH_SW_NO_BUF
  Program.require ((adapter.halmac_state .CHANNEL_SWITCH).cmd_cnstr_state = .CNSTR) .ERROR_STATE
  cnv_state cnv_scan_allowed .CHANNEL_SWITCH .CNSTR
  Program.update (fun adapter =>
    let info := adapter.ch_sw_info
    { adapter with
      ch_sw_info :=
        ⟨info.buf, info.avl_buf_size - (2 + extra_info_size), info.total_size + (2 + extra_info_size),
          extra_info, info.ch_num⟩ })

/-- The end of `proc_ctrl_ch_switch_88xx` once the command was numbered. -/
def end_ctrl_ch_switch (status : Option HalmacRet) : HalmacM Unit := do
  clear_ch_sw_info
  cnv_state cnv_scan_allowed .CHANNEL_SWITCH .IDLE
  check status

def proc_ctrl_ch_switch_88xx (answers : Answers) (switch_en : Nat) : HalmacM Unit := do
  cnv_state cnv_scan_allowed .CHANNEL_SWITCH .H2C_SENT
  set_proc_status .CHANNEL_SWITCH .SENDING
  (if switch_en ≠ 0 then check answers.dl_rsvd_page else pure ())
  let pkt <- number_command .CHANNEL_SWITCH
  match answers.send_h2c_pkt with
  | none => do
      send_h2c_pkt_88xx answers pkt
      end_ctrl_ch_switch none
  | some code => do
      reset_ofld_feature_88xx .CHANNEL_SWITCH
      end_ctrl_ch_switch (some code)

/-- Switching off gives up a command that is under way. -/
def ctrl_ch_switch_88xx (answers : Answers) (switch_en : Nat) : HalmacM Unit := do
  Program.require answers.fw_validate .NO_DLFW
  Program.require (4 ≤ answers.h2c_version) .FW_NO_SUPPORT
  (if switch_en = 0 then set_proc_status .CHANNEL_SWITCH .IDLE else pure ())
  let adapter <- Program.get
  let state := adapter.halmac_state .CHANNEL_SWITCH
  Program.require (state.proc_status ≠ .SENDING ∧ state.proc_status ≠ .RCVD) .BUSY_STATE
  Program.require (state.cmd_cnstr_state = (if switch_en = 1 then .CNSTR else .BUF_CLR)) .ERROR_STATE
  proc_ctrl_ch_switch_88xx answers switch_en

/-- `cnv_efuse_state_88xx`. -/
def cnv_efuse_allowed (state dest_state : CmdConstructState) : Bool :=
  match state, dest_state with
  | .CNSTR, _ | .BUF_CLR, _ => false
  | .H2C_SENT, .BUSY => false
  | .IDLE, .H2C_SENT => false
  | _, _ => state ≠ dest_state

def dump_efuse_fw_88xx (answers : Answers) : HalmacM Unit := do
  let pkt <- number_command .DUMP_PHYSICAL_EFUSE
  let adapter <- Program.get
  (if adapter.efuse_map.isSome then pure ()
    else if answers.malloc_efuse_map then
      Program.update (fun adapter => { adapter with efuse_map := some ByteMap.blank })
    else do
      reset_ofld_feature_88xx .DUMP_PHYSICAL_EFUSE
      Program.stop .MALLOC_FAIL)
  if adapter.efuse_map_valid then pure ()
  else send_or_reset answers .DUMP_PHYSICAL_EFUSE pkt

/-- The common shape of the two dump commands with `HALMAC_EFUSE_R_FW`; `mark`
writes the event flag, `parsed` says whether the map to signal could be made. -/
def dump_command (answers : Answers) (mark : Bool -> Adapter -> Adapter) (parsed : Bool) :
    HalmacM Unit := do
  Program.require answers.fw_validate .NO_DLFW
  not_sending .DUMP_PHYSICAL_EFUSE
  let adapter <- Program.get
  Program.require ((adapter.halmac_state .DUMP_PHYSICAL_EFUSE).cmd_cnstr_state = .IDLE) .ERROR_STATE
  set_proc_status .DUMP_PHYSICAL_EFUSE .IDLE
  Program.update (mark true)
  cnv_state cnv_efuse_allowed .DUMP_PHYSICAL_EFUSE .BUSY
  Program.require answers.bank_switches .SWITCH_EFUSE_BANK_FAIL
  set_proc_status .DUMP_PHYSICAL_EFUSE .SENDING
  cnv_state cnv_efuse_allowed .DUMP_PHYSICAL_EFUSE .H2C_SENT
  dump_efuse_fw_88xx answers
  let adapter <- Program.get
  (if adapter.efuse_map_valid then do
      set_proc_status .DUMP_PHYSICAL_EFUSE .DONE
      Program.require answers.malloc_map .MALLOC_FAIL
      Program.require parsed .EEPROM_PARSING_FAIL
      Program.update (mark false)
    else pure ())
  cnv_state cnv_efuse_allowed .DUMP_PHYSICAL_EFUSE .IDLE

def mark_phy (flag : Bool) (adapter : Adapter) : Adapter := { adapter with phy_efuse_map := flag }

def mark_log (flag : Bool) (adapter : Adapter) : Adapter := { adapter with log_efuse_map := flag }

def dump_efuse_map_88xx (answers : Answers) : HalmacM Unit := dump_command answers mark_phy true

def dump_log_efuse_map_88xx (answers : Answers) : HalmacM Unit :=
  dump_command answers mark_log answers.eeprom_parser_ok

def write_hw_efuse_88xx : HalmacM Unit :=
  Program.update (fun adapter => { adapter with efuse_map_valid := false })

def other_command (answers : Answers) (command : OtherCommand) : HalmacM Unit := do
  let pkt <- set_h2c_pkt_hdr_88xx command.sub_cmd_id
  send_h2c_pkt_88xx answers pkt

end Offload

end Rtl8821ce
