import Rtl8821ce.Efuse.Parser
import Rtl8821ce.Hal.C2hPackets

/-!
# What the handlers of firmware packets touch

A packet has `size` bytes.  Each read of it and each copy into a buffer is checked;
the first one outside stops the run.  What the handlers do to the adapter is taken
from the handlers themselves.
-/

namespace Rtl8821ce
namespace Offload
namespace C2h

/-- Why a handler does not end well. -/
inductive Fault
  | outside
  | endless
deriving DecidableEq

structure Packet where
  data : ByteMap
  size : Nat

/-- `buf + n`. -/
def Packet.skip (buf : Packet) (n : Nat) : Packet := ⟨fun i => buf.data (n + i), buf.size - n⟩

/-- The adapter; `psd_len` bytes were allocated for `psd_state.data`. -/
structure C2hState where
  adapter : Adapter
  psd_len : Nat

/-- The configuration, and whether each allocation of the call succeeds. -/
structure Host where
  hw_cfg_info : HwCfgInfo
  rxdesc_size : Nat
  malloc : Nat -> Bool

abbrev C2hM (Value : Type) : Type := Program C2hState Fault Value

/-- `none` is `HALMAC_RET_SUCCESS`. -/
abbrev Status : Type := Option HalmacRet

/-! ## Accesses -/

/-- The bytes of the packet before `stop` may be read. -/
def inside (pkt : Packet) (stop : Nat) : C2hM PUnit := Program.require (decide (stop ≤ pkt.size)) .outside

def load (pkt : Packet) (place : Nat) : C2hM UInt8 := do
  inside pkt (place + 1)
  pure (pkt.data place)

/-- A field of the little-endian word at `offset`. -/
def load_field (pkt : Packet) (offset : Nat) (field : ByteMap -> Nat) : C2hM Nat := do
  inside pkt (offset + 4)
  pure (field pkt.data)

/-- Bytes that are held in a buffer; there are none at a null pointer. -/
def held (buffer : Option ByteMap) (len : Nat) : Nat := if buffer.isSome then len else 0

/-- Whether `len` bytes from `start` on are in a buffer. -/
def Fits (start len room : Nat) : Prop := len = 0 ∨ start + len ≤ room

instance (start len room : Nat) : Decidable (Fits start len room) := inferInstanceAs (Decidable (_ ∨ _))

/-- A function on the adapter, with its status as the result. -/
def on_adapter (change : HalmacM Unit) : C2hM Status := fun s =>
  match change s.adapter with
  | (.ok _, adapter) => (.ok none, { s with adapter := adapter })
  | (.error code, adapter) => (.ok (some code), { s with adapter := adapter })

section rules

variable {Value : Type} {pkt : Packet} {s : C2hState}

@[simp] theorem succeeds_inside {stop : Nat} {rest : PUnit -> C2hM Value} :
    (inside pkt stop >>= rest).Succeeds s <-> stop ≤ pkt.size ∧ (rest ⟨⟩).Succeeds s := by
  rw [inside, Program.succeeds_require_bind, decide_eq_true_eq]

@[simp] theorem succeeds_load {place : Nat} {rest : UInt8 -> C2hM Value} :
    (load pkt place >>= rest).Succeeds s <-> place < pkt.size ∧ (rest (pkt.data place)).Succeeds s := by
  rw [load, Program.bind_assoc, succeeds_inside]
  exact Iff.rfl

@[simp] theorem succeeds_load_field {offset : Nat} {field : ByteMap -> Nat} {rest : Nat -> C2hM Value} :
    (load_field pkt offset field >>= rest).Succeeds s <->
      offset + 4 ≤ pkt.size ∧ (rest (field pkt.data)).Succeeds s := by
  rw [load_field, Program.bind_assoc, succeeds_inside]
  exact Iff.rfl

theorem succeeds_on_adapter (change : HalmacM Unit) : (on_adapter change).Succeeds s := by
  unfold Program.Succeeds on_adapter
  split
  · exact ⟨_, rfl⟩
  · exact ⟨_, rfl⟩

end rules

def C2H_DBG_HDR_LEN : UInt8 := 4

def C2H_DBG_CONTENT_MAX_LENGTH : Nat := 228

def C2H_HDR_GET_LEN (buf : ByteMap) : Nat := LE_BITS_TO_4BYTE buf 0x00 24 8

/-- The loop over `i`: the place behind the line that ends the first message, or 0. -/
def first_message_end (buf : Packet) : Nat -> Nat -> C2hM Nat
  | 0, _ => pure 0
  | left + 1, i => do
      let character ← load buf (C2H_DBG_HDR_LEN.toNat + i)
      if character = 0x0A then do
        let behind ← load buf (C2H_DBG_HDR_LEN.toNat + i + 1)
        if behind = 0 ∨ behind = 0xff then pure (C2H_DBG_HDR_LEN.toNat + i + 1)
        else first_message_end buf left (i + 1)
      else first_message_end buf left (i + 1)

/-- Copy a message into a buffer of its own length, write its last byte and print it.
Without memory there is no message. -/
def print_message (host : Host) (turn : Nat) (buf : Packet) (start : Nat) (msg_len : UInt8) : C2hM Bool :=
  if host.malloc turn then do
    inside buf (start + msg_len.toNat)
    -- `*(c2h_buf + msg_len - 1)` and `*(c2h_buf)`
    Program.require (decide (0 < msg_len.toNat)) .outside
    pure true
  else pure false

/-- The loop over the further messages; `next_msg` is a `u8`. -/
def further_messages (host : Host) (buf : Packet) : Nat -> Nat -> UInt8 -> C2hM Status
  | 0, _, _ => Program.stop .endless
  | fuel + 1, turn, next_msg => do
      let character ← load buf next_msg.toNat
      if character = 0 then pure none
      else do
        let cur_msg := next_msg
        let len ← load buf (cur_msg.toNat + 3)
        let msg_len := len - 1
        let next_msg := next_msg + (C2H_DBG_HDR_LEN + msg_len)
        let printed ← print_message host turn buf (cur_msg.toNat + C2H_DBG_HDR_LEN.toNat) msg_len
        if printed then further_messages host buf fuel (turn + 1) next_msg else pure (some .MALLOC_FAIL)

def get_c2h_dbg_88xx (host : Host) (fuel : Nat) (buf : Packet) : C2hM Status := do
  let content_len ← load_field buf 0x00 C2H_HDR_GET_LEN
  if C2H_DBG_CONTENT_MAX_LENGTH < content_len then pure (some .C2H_NOT_HANDLED)
  else do
    let found ← first_message_end buf content_len 0
    let next_msg := UInt8.ofNat found
    let msg_len := next_msg - C2H_DBG_HDR_LEN
    let printed ← print_message host 0 buf C2H_DBG_HDR_LEN.toNat msg_len
    if printed then further_messages host buf fuel 1 next_msg else pure (some .MALLOC_FAIL)

def when_expected (feature : HalmacFeature) (seq_num : Nat) (handler : C2hM Status) : C2hM Status := do
  let s ← Program.get
  if Expected feature seq_num s.adapter then handler else pure none

/-- The acknowledgements read the number, and the return code with it. -/
def load_ack (buf : Packet) (handler : ByteMap -> HalmacM Unit) : C2hM Status := do
  let _ ← load_field buf 0x08 H2C_ACK_HDR_GET_H2C_SEQ
  on_adapter (handler buf.data)

def get_h2c_ack_cfg_param_88xx (buf : Packet) : C2hM Status := do
  let seq_num ← load_field buf 0x08 H2C_ACK_HDR_GET_H2C_SEQ
  when_expected .CFG_PARA seq_num (do
    let _ ← load_field buf 0x0C CFG_PARAM_ACK_GET_OFFSET_ACCUMULATION
    let _ ← load_field buf 0x10 CFG_PARAM_ACK_GET_VALUE_ACCUMULATION
    on_adapter (Offload.get_h2c_ack_cfg_param_88xx buf.data))

def get_h2c_ack_88xx (buf : Packet) : C2hM Status := do
  let _ ← load_field buf 0x04 H2C_ACK_HDR_GET_H2C_RETURN_CODE
  let cmd_id ← load_field buf 0x04 H2C_ACK_HDR_GET_H2C_CMD_ID
  if cmd_id ≠ 0xFF then pure (some .C2H_NOT_HANDLED)
  else do
    let sub_cmd_id ← load_field buf 0x04 H2C_ACK_HDR_GET_H2C_SUB_CMD_ID
    let sub_cmd_id := sub_cmd_id % 256
    if sub_cmd_id = HalmacFeature.DUMP_PHYSICAL_EFUSE.sub_cmd_id then load_ack buf get_h2c_ack_phy_efuse_88xx
    else if sub_cmd_id = HalmacFeature.CFG_PARA.sub_cmd_id then get_h2c_ack_cfg_param_88xx buf
    else if sub_cmd_id = HalmacFeature.UPDATE_PACKET.sub_cmd_id then load_ack buf get_h2c_ack_update_pkt_88xx
    -- `UPDATE_DATAPACK` and `RUN_DATAPACK`
    else if sub_cmd_id = 0x09 ∨ sub_cmd_id = 0x0A then pure (some .NOT_SUPPORT)
    else if sub_cmd_id = HalmacFeature.CHANNEL_SWITCH.sub_cmd_id then load_ack buf get_h2c_ack_ch_switch_88xx
    else if sub_cmd_id = HalmacFeature.IQK.sub_cmd_id then load_ack buf get_h2c_ack_iqk_88xx
    else if sub_cmd_id = HalmacFeature.POWER_TRACKING.sub_cmd_id then load_ack buf get_h2c_ack_pwr_trk_88xx
    else if sub_cmd_id = HalmacFeature.PSD.sub_cmd_id then pure none
    else if sub_cmd_id = OtherCommand.FW_SNDING.sub_cmd_id then load_ack buf (fun _ => pure ())
    else pure (some .C2H_NOT_HANDLED)

def get_scan_rpt_88xx (buf : Packet) : C2hM Status := do
  let _ ← load_field buf 0x04 SCAN_STATUS_RPT_GET_H2C_RETURN_CODE
  on_adapter (Offload.get_scan_rpt_88xx buf.data)

/-- `*(phy_map + efuse_idx)`, where `room` bytes are held. -/
def load_phy_map (phy_map : ByteMap) (room efuse_idx : Nat) : C2hM UInt8 := do
  Program.require (decide (efuse_idx < room)) .outside
  pure (phy_map efuse_idx)

def copy_to_log_map (hw_info : HwCfgInfo) (phy_map : ByteMap) (room eeprom_idx efuse_idx : Nat) : C2hM PUnit := do
  let _ ← load_phy_map phy_map room efuse_idx
  Program.require (decide (eeprom_idx < hw_info.eeprom_size)) .outside

/-- The words of a section, with the index behind it; `none` is a failure. -/
def parse_words (hw_info : HwCfgInfo) (phy_map : ByteMap) (room blk_idx word_en : Nat) :
    List Nat -> Nat -> C2hM (Option Nat)
  | [], efuse_idx => pure (some efuse_idx)
  | i :: rest, efuse_idx =>
      if word_en.testBit i then parse_words hw_info phy_map room blk_idx word_en rest efuse_idx
      else do
        let eeprom_idx := (blk_idx <<< 3) + (i <<< 1)
        if eeprom_idx + 1 > hw_info.eeprom_size then pure none
        else do
          copy_to_log_map hw_info phy_map room eeprom_idx efuse_idx
          if efuse_idx + 1 > hw_info.efuse_size - PROTECT_EFUSE_SIZE - 1 then pure none
          else do
            copy_to_log_map hw_info phy_map room (eeprom_idx + 1) (efuse_idx + 1)
            if efuse_idx + 2 > hw_info.efuse_size - PROTECT_EFUSE_SIZE then pure none
            else parse_words hw_info phy_map room blk_idx word_en rest (efuse_idx + 2)

def parse_section (hw_info : HwCfgInfo) (phy_map : ByteMap) (room blk_idx word_en efuse_idx : Nat) :
    C2hM (Option Nat) :=
  if efuse_idx >= hw_info.efuse_size - PROTECT_EFUSE_SIZE - 1 then pure none
  else parse_words hw_info phy_map room blk_idx word_en [0, 1, 2, 3] efuse_idx

/-- `eeprom_parser_88xx` from an index on; the result says whether it succeeds. -/
def eeprom_parser_reads (hw_info : HwCfgInfo) (phy_map : ByteMap) (room : Nat) : Nat -> Nat -> C2hM Bool
  | 0, _ => Program.stop .endless
  | fuel + 1, efuse_idx => do
      let hdr ← load_phy_map phy_map room efuse_idx
      if is_ext_hdr hdr then do
        let hdr2 ← load_phy_map phy_map room (efuse_idx + 1)
        if hdr2 = 0xff then pure true
        else do
          let next ← parse_section hw_info phy_map room (ext_blk_idx hdr hdr2) (hdr_word_en hdr2) (efuse_idx + 2)
          match next with
          | some next => eeprom_parser_reads hw_info phy_map room fuel next
          | none => pure false
      else if hdr = 0xff then pure true
      else do
        let next ← parse_section hw_info phy_map room (hdr_blk_idx hdr) (hdr_word_en hdr) (efuse_idx + 1)
        match next with
        | some next => eeprom_parser_reads hw_info phy_map room fuel next
        | none => pure false

/-- Copy a segment of the packet to its place in a buffer with `room` bytes. -/
def copy_segment (buf : Packet) (place seg_size room : Nat) : C2hM PUnit := do
  inside buf (C2H_DATA_OFFSET_88XX + seg_size)
  Program.require (decide (Fits place seg_size room)) .outside

/-- The distance of the segments is the size of the segment with number 0. -/
def segment_place (seg_id seg_size state_seg_size : Nat) : Nat :=
  seg_id * (if seg_id = 0 then seg_size else state_seg_size)

/-- `state->data` is allocated with the size in the first packet, and kept. -/
def psd_room (host : Host) (total_size : Nat) (s : C2hState) : Nat :=
  if s.adapter.psd.data.isNone && host.malloc 0 then total_size else held s.adapter.psd.data s.psd_len

def get_psd_data_88xx (host : Host) (buf : Packet) : C2hM Status := do
  let seq_num ← load_field buf 0x08 DATA_GET_H2C_SEQ
  when_expected .PSD seq_num (do
    let total_size ← load_field buf 0x04 DATA_GET_TOTAL_SIZE
    let seg_id ← load_field buf 0x04 DATA_GET_SEGMENT_ID
    let seg_size ← load_field buf 0x04 DATA_GET_SEGMENT_SIZE
    let s ← Program.get
    copy_segment buf (segment_place seg_id seg_size s.adapter.psd.seg_size) seg_size (psd_room host total_size s)
    let _ ← load_field buf 0x04 DATA_GET_END_SEGMENT
    Program.update (fun s => { s with psd_len := psd_room host total_size s })
    on_adapter (Offload.get_psd_data_88xx ⟨host.malloc 0, true⟩ buf.data))

/-- The map is parsed behind the last segment, if someone waits for the logical one. -/
def WantsLogMap (last : Nat) (adapter : Adapter) : Prop :=
  last ≠ 0 ∧ (adapter.halmac_state .DUMP_PHYSICAL_EFUSE).fw_rc = HALMAC_H2C_RETURN_SUCCESS ∧
    adapter.log_efuse_map = true

instance (last : Nat) (adapter : Adapter) : Decidable (WantsLogMap last adapter) :=
  inferInstanceAs (Decidable (_ ∧ _ ∧ _))

def parse_efuse_map (host : Host) (fuel place room : Nat) (buf : Packet) (efuse_map : Option ByteMap) : C2hM Bool :=
  eeprom_parser_reads host.hw_cfg_info (Memory.write (efuse_map.getD ByteMap.blank) place (segment buf.data)) room fuel 0

def get_efuse_data_88xx (host : Host) (fuel : Nat) (buf : Packet) : C2hM Status := do
  let seq_num ← load_field buf 0x08 DATA_GET_H2C_SEQ
  when_expected .DUMP_PHYSICAL_EFUSE seq_num (do
    let seg_id ← load_field buf 0x04 DATA_GET_SEGMENT_ID
    let seg_size ← load_field buf 0x04 DATA_GET_SEGMENT_SIZE
    let s ← Program.get
    let place := segment_place seg_id seg_size s.adapter.efuse_seg_size
    let room := held s.adapter.efuse_map host.hw_cfg_info.efuse_size
    if host.malloc 0 then do
      copy_segment buf place seg_size room
      let last ← load_field buf 0x04 DATA_GET_END_SEGMENT
      if WantsLogMap last s.adapter then do
        let parsed ← parse_efuse_map host fuel place room buf s.adapter.efuse_map
        on_adapter (Offload.get_efuse_data_88xx ⟨true, parsed⟩ buf.data)
      else on_adapter (Offload.get_efuse_data_88xx ⟨true, true⟩ buf.data)
    else on_adapter (Offload.get_efuse_data_88xx ⟨false, true⟩ buf.data))

def parse_c2h_pkt_88xx (host : Host) (fuel : Nat) (buf : Packet) : C2hM Status := do
  let c2h_pkt := buf.skip host.rxdesc_size
  let cmd_id ← load_field c2h_pkt 0x00 C2H_HDR_GET_CMD_ID
  if cmd_id ≠ 0xFF then pure (some .C2H_NOT_HANDLED)
  else do
    let sub_cmd_id ← load_field c2h_pkt 0x00 C2H_HDR_GET_C2H_SUB_CMD_ID
    if sub_cmd_id = C2H_SUB_CMD_ID_C2H_DBG then get_c2h_dbg_88xx host fuel c2h_pkt
    else if sub_cmd_id = C2H_SUB_CMD_ID_H2C_ACK_HDR then get_h2c_ack_88xx c2h_pkt
    else if sub_cmd_id = C2H_SUB_CMD_ID_SCAN_STATUS_RPT then get_scan_rpt_88xx c2h_pkt
    else if sub_cmd_id = C2H_SUB_CMD_ID_PSD_DATA then get_psd_data_88xx host c2h_pkt
    else if sub_cmd_id = C2H_SUB_CMD_ID_EFUSE_DATA then get_efuse_data_88xx host fuel c2h_pkt
    else pure (some .C2H_NOT_HANDLED)

end C2h

end Offload

end Rtl8821ce
