import Rtl8821ce.Hal.Offload

/-!
# Packets from the firmware

An acknowledgement or a data packet repeats the number of the command it
answers.  Each handler compares it with the number that the feature recorded,
and drops the packet unless the feature is sending.
-/

namespace Rtl8821ce

namespace Offload

/-- `bits` bits of the little-endian word at `offset`, from bit `shift` on. -/
def LE_BITS_TO_4BYTE (buf : ByteMap) (offset shift bits : Nat) : Nat :=
  ((buf offset).toNat + 0x100 * (buf (offset + 1)).toNat + 0x10000 * (buf (offset + 2)).toNat +
    0x1000000 * (buf (offset + 3)).toNat) / 2 ^ shift % 2 ^ bits

def C2H_HDR_GET_CMD_ID (buf : ByteMap) : Nat := LE_BITS_TO_4BYTE buf 0x00 0 8

def C2H_HDR_GET_C2H_SUB_CMD_ID (buf : ByteMap) : Nat := LE_BITS_TO_4BYTE buf 0x00 16 8

def H2C_ACK_HDR_GET_H2C_RETURN_CODE (buf : ByteMap) : Nat := LE_BITS_TO_4BYTE buf 0x04 0 8

def H2C_ACK_HDR_GET_H2C_CMD_ID (buf : ByteMap) : Nat := LE_BITS_TO_4BYTE buf 0x04 8 8

def H2C_ACK_HDR_GET_H2C_SUB_CMD_ID (buf : ByteMap) : Nat := LE_BITS_TO_4BYTE buf 0x04 16 16

def H2C_ACK_HDR_GET_H2C_SEQ (buf : ByteMap) : Nat := LE_BITS_TO_4BYTE buf 0x08 0 16

def CFG_PARAM_ACK_GET_OFFSET_ACCUMULATION (buf : ByteMap) : Nat := LE_BITS_TO_4BYTE buf 0x0C 0 32

def CFG_PARAM_ACK_GET_VALUE_ACCUMULATION (buf : ByteMap) : Nat := LE_BITS_TO_4BYTE buf 0x10 0 32

def SCAN_STATUS_RPT_GET_H2C_RETURN_CODE (buf : ByteMap) : Nat := LE_BITS_TO_4BYTE buf 0x04 0 8

def SCAN_STATUS_RPT_GET_H2C_SEQ (buf : ByteMap) : Nat := LE_BITS_TO_4BYTE buf 0x04 16 16

/-- The data packets of PSD and of the efuse have one layout. -/
def DATA_GET_SEGMENT_ID (buf : ByteMap) : Nat := LE_BITS_TO_4BYTE buf 0x04 0 7

def DATA_GET_END_SEGMENT (buf : ByteMap) : Nat := LE_BITS_TO_4BYTE buf 0x04 7 1

def DATA_GET_SEGMENT_SIZE (buf : ByteMap) : Nat := LE_BITS_TO_4BYTE buf 0x04 8 8

def DATA_GET_TOTAL_SIZE (buf : ByteMap) : Nat := LE_BITS_TO_4BYTE buf 0x04 16 16

def DATA_GET_H2C_SEQ (buf : ByteMap) : Nat := LE_BITS_TO_4BYTE buf 0x08 0 16

def C2H_DATA_OFFSET_88XX : Nat := 10

def C2H_SUB_CMD_ID_C2H_DBG : Nat := 0x00

def C2H_SUB_CMD_ID_H2C_ACK_HDR : Nat := 0x01

def C2H_SUB_CMD_ID_SCAN_STATUS_RPT : Nat := 0x03

def C2H_SUB_CMD_ID_PSD_DATA : Nat := 0x04

def C2H_SUB_CMD_ID_EFUSE_DATA : Nat := 0x05

def HALMAC_H2C_RETURN_SUCCESS : Nat := 0x00

/-- What the platform answers while a packet is handled. -/
structure C2hAnswers where
  malloc : Bool
  eeprom_parser_ok : Bool

/-- The number is the one that the feature recorded, and the feature is sending. -/
def Expected (feature : HalmacFeature) (seq_num : Nat) (adapter : Adapter) : Prop :=
  seq_num % 256 = (adapter.halmac_state feature).seq_num ∧
    (adapter.halmac_state feature).proc_status = .SENDING

instance (feature : HalmacFeature) (seq_num : Nat) (adapter : Adapter) :
    Decidable (Expected feature seq_num adapter) := inferInstanceAs (Decidable (_ ∧ _))

/-- The two tests that the handlers start with; a packet that fails them is
dropped with success. -/
def when_expected (feature : HalmacFeature) (seq_num : Nat) (handler : HalmacM Unit) : HalmacM Unit := do
  let adapter <- Program.get
  if Expected feature seq_num adapter then handler else pure ()

theorem when_expected_of_expected {feature : HalmacFeature} {seq_num : Nat} (handler : HalmacM Unit)
    {adapter : Adapter} (expected : Expected feature seq_num adapter) :
    when_expected feature seq_num handler adapter = handler adapter := by
  unfold when_expected
  rw [Program.bind_of_ok (Program.get_apply adapter), if_pos expected]

theorem when_expected_of_not {feature : HalmacFeature} {seq_num : Nat} (handler : HalmacM Unit)
    {adapter : Adapter} (unexpected : ¬ Expected feature seq_num adapter) :
    when_expected feature seq_num handler adapter = (.ok (), adapter) := by
  unfold when_expected
  rw [Program.bind_of_ok (Program.get_apply adapter), if_neg unexpected]
  rfl

/-- The return code and the status that comes with it. -/
def record_rc (feature : HalmacFeature) (fw_rc : Nat) (status : CmdProcessStatus) : HalmacM Unit :=
  Program.update (fun adapter => adapter.set feature ({ · with fw_rc := fw_rc, proc_status := status }))

/-- The common shape of the acknowledgements that report success or an error. -/
def get_h2c_ack (feature : HalmacFeature) (accepted : CmdProcessStatus) (buf : ByteMap) : HalmacM Unit :=
  when_expected feature (H2C_ACK_HDR_GET_H2C_SEQ buf)
    (record_rc feature (H2C_ACK_HDR_GET_H2C_RETURN_CODE buf)
      (if H2C_ACK_HDR_GET_H2C_RETURN_CODE buf = HALMAC_H2C_RETURN_SUCCESS then accepted else .ERROR))

def get_h2c_ack_update_pkt_88xx (buf : ByteMap) : HalmacM Unit := get_h2c_ack .UPDATE_PACKET .DONE buf

def get_h2c_ack_iqk_88xx (buf : ByteMap) : HalmacM Unit := get_h2c_ack .IQK .DONE buf

def get_h2c_ack_pwr_trk_88xx (buf : ByteMap) : HalmacM Unit := get_h2c_ack .POWER_TRACKING .DONE buf

def get_h2c_ack_ch_switch_88xx (buf : ByteMap) : HalmacM Unit := get_h2c_ack .CHANNEL_SWITCH .RCVD buf

/-- The firmware must have summed up the parameters that the driver sent. -/
def get_h2c_ack_cfg_param_88xx (buf : ByteMap) : HalmacM Unit :=
  when_expected .CFG_PARA (H2C_ACK_HDR_GET_H2C_SEQ buf) (do
    let adapter <- Program.get
    let fw_rc := H2C_ACK_HDR_GET_H2C_RETURN_CODE buf
    let same :=
      CFG_PARAM_ACK_GET_OFFSET_ACCUMULATION buf = adapter.cfg_param_info.offset_accum.toNat ∧
        CFG_PARAM_ACK_GET_VALUE_ACCUMULATION buf = adapter.cfg_param_info.value_accum.toNat
    record_rc .CFG_PARA fw_rc (if fw_rc = HALMAC_H2C_RETURN_SUCCESS ∧ same then .DONE else .ERROR))

def get_h2c_ack_phy_efuse_88xx (buf : ByteMap) : HalmacM Unit :=
  when_expected .DUMP_PHYSICAL_EFUSE (H2C_ACK_HDR_GET_H2C_SEQ buf)
    (Program.update (fun adapter =>
      adapter.set .DUMP_PHYSICAL_EFUSE ({ · with fw_rc := H2C_ACK_HDR_GET_H2C_RETURN_CODE buf })))

def get_scan_rpt_88xx (buf : ByteMap) : HalmacM Unit :=
  set_proc_status .CHANNEL_SWITCH
    (if SCAN_STATUS_RPT_GET_H2C_RETURN_CODE buf = HALMAC_H2C_RETURN_SUCCESS then .DONE else .ERROR)

def segment (buf : ByteMap) : List UInt8 :=
  Memory.read buf C2H_DATA_OFFSET_88XX (DATA_GET_SEGMENT_SIZE buf)

/-- Copy a segment to its place; a null pointer is recorded. -/
def copy_psd_segment (buf : ByteMap) : HalmacM Unit :=
  Program.update (fun adapter =>
    match adapter.psd.data with
    | none => { adapter with null_write := true }
    | some data =>
        { adapter with
          psd :=
            { adapter.psd with
              data :=
                some (Memory.write data (DATA_GET_SEGMENT_ID buf * adapter.psd.seg_size) (segment buf)) } })

def get_psd_data_88xx (answers : C2hAnswers) (buf : ByteMap) : HalmacM Unit :=
  when_expected .PSD (DATA_GET_H2C_SEQ buf) (do
    Program.update (fun adapter =>
      let data := if adapter.psd.data.isNone && answers.malloc then some ByteMap.blank else adapter.psd.data
      let seg_size :=
        if DATA_GET_SEGMENT_ID buf = 0 then DATA_GET_SEGMENT_SIZE buf else adapter.psd.seg_size
      { adapter with psd := ⟨DATA_GET_TOTAL_SIZE buf, seg_size, data⟩ })
    copy_psd_segment buf
    if DATA_GET_END_SEGMENT buf = 0 then pure () else set_proc_status .PSD .DONE)

def copy_efuse_segment (buf : ByteMap) : HalmacM Unit :=
  Program.update (fun adapter =>
    match adapter.efuse_map with
    | none => { adapter with null_write := true }
    | some map =>
        { adapter with
          efuse_map :=
            some (Memory.write map (DATA_GET_SEGMENT_ID buf * adapter.efuse_seg_size) (segment buf)) })

def signal_efuse (answers : C2hAnswers) : HalmacM Unit := do
  let adapter <- Program.get
  if (adapter.halmac_state .DUMP_PHYSICAL_EFUSE).fw_rc = HALMAC_H2C_RETURN_SUCCESS then do
    set_proc_status .DUMP_PHYSICAL_EFUSE .DONE
    Program.update (fun adapter => { adapter with efuse_map_valid := true, phy_efuse_map := false })
    if adapter.log_efuse_map then do
      Program.require answers.eeprom_parser_ok .EEPROM_PARSING_FAIL
      Program.update (mark_log false)
    else pure ()
  else do
    set_proc_status .DUMP_PHYSICAL_EFUSE .ERROR
    Program.update (fun adapter => { adapter with phy_efuse_map := false, log_efuse_map := false })

/-- Without memory for the logical map the packet is lost, the last one too. -/
def get_efuse_data_88xx (answers : C2hAnswers) (buf : ByteMap) : HalmacM Unit :=
  when_expected .DUMP_PHYSICAL_EFUSE (DATA_GET_H2C_SEQ buf) (do
    Program.update (fun adapter =>
      { adapter with
        efuse_seg_size :=
          if DATA_GET_SEGMENT_ID buf = 0 then DATA_GET_SEGMENT_SIZE buf else adapter.efuse_seg_size })
    Program.require answers.malloc .MALLOC_FAIL
    copy_efuse_segment buf
    if DATA_GET_END_SEGMENT buf = 0 then pure () else signal_efuse answers)

def get_h2c_ack_88xx (buf : ByteMap) : HalmacM Unit :=
  let sub_cmd_id := H2C_ACK_HDR_GET_H2C_SUB_CMD_ID buf % 256
  if H2C_ACK_HDR_GET_H2C_CMD_ID buf ≠ 0xFF then Program.stop .C2H_NOT_HANDLED
  else if sub_cmd_id = HalmacFeature.DUMP_PHYSICAL_EFUSE.sub_cmd_id then get_h2c_ack_phy_efuse_88xx buf
  else if sub_cmd_id = HalmacFeature.CFG_PARA.sub_cmd_id then get_h2c_ack_cfg_param_88xx buf
  else if sub_cmd_id = HalmacFeature.UPDATE_PACKET.sub_cmd_id then get_h2c_ack_update_pkt_88xx buf
  -- `UPDATE_DATAPACK` and `RUN_DATAPACK`
  else if sub_cmd_id = 0x09 ∨ sub_cmd_id = 0x0A then Program.stop .NOT_SUPPORT
  else if sub_cmd_id = HalmacFeature.CHANNEL_SWITCH.sub_cmd_id then get_h2c_ack_ch_switch_88xx buf
  else if sub_cmd_id = HalmacFeature.IQK.sub_cmd_id then get_h2c_ack_iqk_88xx buf
  else if sub_cmd_id = HalmacFeature.POWER_TRACKING.sub_cmd_id then get_h2c_ack_pwr_trk_88xx buf
  else if sub_cmd_id = HalmacFeature.PSD.sub_cmd_id then pure ()
  -- the state of the sounding feature is outside this model
  else if sub_cmd_id = OtherCommand.FW_SNDING.sub_cmd_id then pure ()
  else Program.stop .C2H_NOT_HANDLED

def parse_c2h_pkt_88xx (answers : C2hAnswers) (buf : ByteMap) : HalmacM Unit :=
  let sub_cmd_id := C2H_HDR_GET_C2H_SUB_CMD_ID buf
  if C2H_HDR_GET_CMD_ID buf ≠ 0xFF then Program.stop .C2H_NOT_HANDLED
  else if sub_cmd_id = C2H_SUB_CMD_ID_C2H_DBG then pure ()
  else if sub_cmd_id = C2H_SUB_CMD_ID_H2C_ACK_HDR then get_h2c_ack_88xx buf
  else if sub_cmd_id = C2H_SUB_CMD_ID_SCAN_STATUS_RPT then get_scan_rpt_88xx buf
  else if sub_cmd_id = C2H_SUB_CMD_ID_PSD_DATA then get_psd_data_88xx answers buf
  else if sub_cmd_id = C2H_SUB_CMD_ID_EFUSE_DATA then get_efuse_data_88xx answers buf
  else Program.stop .C2H_NOT_HANDLED

end Offload

end Rtl8821ce
