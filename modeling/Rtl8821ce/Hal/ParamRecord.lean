import Rtl8821ce.Hal.C2hPackets
import Rtl8821ce.Library.BitField

/-!
# Records of the parameter command

A parameter takes twelve bytes of a batch: a word with its length, its command and its
address, the value and the mask.  The command has seven bits of the first word, so the end
mark has no record that could be told from another one; it is never counted.
-/

namespace Rtl8821ce

namespace Offload

/-- The register writes of `enum halmac_parameter_cmd`. -/
inductive RegCmd
  | MAC_W8
  | MAC_W16
  | MAC_W32
  | BB_W8
  | BB_W16
  | BB_W32
deriving DecidableEq, Repr

inductive DelayCmd
  | DELAY_US
  | DELAY_MS
deriving DecidableEq, Repr

/-- `struct halmac_phy_parameter_info`: the command and the content it uses. -/
inductive Parameter
  | REG_W (cmd : RegCmd) (value msk : UInt32) (offset : UInt16) (msk_en : UInt8)
  | RF_W (value msk : UInt32) (offset msk_en rf_path : UInt8)
  | DELAY_TIME (cmd : DelayCmd) (delay_time : UInt16)
  | END
deriving DecidableEq, Repr

def RegCmd.cmd_id : RegCmd -> Nat
  | .MAC_W8 => 0x4
  | .MAC_W16 => 0x5
  | .MAC_W32 => 0x6
  | .BB_W8 => 0x8
  | .BB_W16 => 0x9
  | .BB_W32 => 0xA

def DelayCmd.cmd_id : DelayCmd -> Nat
  | .DELAY_US => 0x10
  | .DELAY_MS => 0x11

def Parameter.cmd_id : Parameter -> Nat
  | .REG_W cmd _ _ _ _ => cmd.cmd_id
  | .RF_W _ _ _ _ _ => 0x7
  | .DELAY_TIME cmd _ => cmd.cmd_id
  | .END => 0xFF

def Parameter.accounted : Parameter -> PhyParameter
  | .REG_W _ value _ offset _ => .MAC_W offset.toUInt32 value
  | .RF_W value _ offset _ rf_path => .RF_W offset.toUInt32 rf_path.toUInt32 value
  | .DELAY_TIME _ _ => .DELAY
  | .END => .END

/-! ## The fields -/

def SET_BITS_TO_LE_4BYTE (buf : ByteMap) (offset shift bits value : Nat) : ByteMap :=
  BitField.set buf offset shift bits value

theorem LE_BITS_TO_4BYTE_eq (buf : ByteMap) (offset shift bits : Nat) :
    LE_BITS_TO_4BYTE buf offset shift bits = BitField.get buf offset shift bits := rfl

section

variable (cells : ByteMap) (buf : Nat)

def PARAM_INFO_SET_LEN (value : Nat) : ByteMap := SET_BITS_TO_LE_4BYTE cells (buf + 0x00) 0 8 value

def PARAM_INFO_SET_IO_CMD (value : Nat) : ByteMap := SET_BITS_TO_LE_4BYTE cells (buf + 0x00) 8 7 value

def PARAM_INFO_SET_MSK_EN (value : UInt8) : ByteMap := SET_BITS_TO_LE_4BYTE cells (buf + 0x00) 15 1 value.toNat

def PARAM_INFO_SET_RF_ADDR (value : UInt8) : ByteMap := SET_BITS_TO_LE_4BYTE cells (buf + 0x00) 16 8 value.toNat

def PARAM_INFO_SET_RF_PATH (value : UInt8) : ByteMap := SET_BITS_TO_LE_4BYTE cells (buf + 0x00) 24 8 value.toNat

def PARAM_INFO_SET_IO_ADDR (value : UInt16) : ByteMap := SET_BITS_TO_LE_4BYTE cells (buf + 0x00) 16 16 value.toNat

def PARAM_INFO_SET_DELAY_VAL (value : UInt16) : ByteMap := SET_BITS_TO_LE_4BYTE cells (buf + 0x00) 16 16 value.toNat

def PARAM_INFO_SET_DATA (value : UInt32) : ByteMap := SET_BITS_TO_LE_4BYTE cells (buf + 0x04) 0 32 value.toNat

def PARAM_INFO_SET_MASK (value : UInt32) : ByteMap := SET_BITS_TO_LE_4BYTE cells (buf + 0x08) 0 32 value.toNat

def PARAM_INFO_GET_IO_CMD : Nat := LE_BITS_TO_4BYTE cells (buf + 0x00) 8 7

def PARAM_INFO_GET_MSK_EN : UInt8 := .ofNat (LE_BITS_TO_4BYTE cells (buf + 0x00) 15 1)

def PARAM_INFO_GET_RF_ADDR : UInt8 := .ofNat (LE_BITS_TO_4BYTE cells (buf + 0x00) 16 8)

def PARAM_INFO_GET_RF_PATH : UInt8 := .ofNat (LE_BITS_TO_4BYTE cells (buf + 0x00) 24 8)

def PARAM_INFO_GET_IO_ADDR : UInt16 := .ofNat (LE_BITS_TO_4BYTE cells (buf + 0x00) 16 16)

def PARAM_INFO_GET_DELAY_VAL : UInt16 := .ofNat (LE_BITS_TO_4BYTE cells (buf + 0x00) 16 16)

def PARAM_INFO_GET_DATA : UInt32 := .ofNat (LE_BITS_TO_4BYTE cells (buf + 0x04) 0 32)

def PARAM_INFO_GET_MASK : UInt32 := .ofNat (LE_BITS_TO_4BYTE cells (buf + 0x08) 0 32)

end

/-- `add_param_buf_88xx`: what it writes to the buffer. -/
def Parameter.write (param : Parameter) (cells : ByteMap) (buf : Nat) : ByteMap :=
  let cells := PARAM_INFO_SET_LEN cells buf 12
  let cells := PARAM_INFO_SET_IO_CMD cells buf param.cmd_id
  match param with
  | .REG_W _ value msk offset msk_en =>
      let cells := PARAM_INFO_SET_IO_ADDR cells buf offset
      let cells := PARAM_INFO_SET_DATA cells buf value
      let cells := PARAM_INFO_SET_MASK cells buf msk
      PARAM_INFO_SET_MSK_EN cells buf msk_en
  | .RF_W value msk offset msk_en rf_path =>
      let cells := PARAM_INFO_SET_RF_ADDR cells buf offset
      let cells := PARAM_INFO_SET_RF_PATH cells buf rf_path
      let cells := PARAM_INFO_SET_DATA cells buf value
      let cells := PARAM_INFO_SET_MASK cells buf msk
      PARAM_INFO_SET_MSK_EN cells buf msk_en
  | .DELAY_TIME _ delay_time => PARAM_INFO_SET_DELAY_VAL cells buf delay_time
  | .END => cells

def Parameter.extent : Parameter -> Nat
  | .REG_W _ _ _ _ _ | .RF_W _ _ _ _ _ => 12
  | .DELAY_TIME _ _ | .END => 4

/-! ## Reading them back -/

/-- The parameter of a record, as the layout of the fields tells. -/
def read_parameter (cells : ByteMap) (buf : Nat) : Option Parameter :=
  let reg (cmd : RegCmd) := some (.REG_W cmd (PARAM_INFO_GET_DATA cells buf) (PARAM_INFO_GET_MASK cells buf)
    (PARAM_INFO_GET_IO_ADDR cells buf) (PARAM_INFO_GET_MSK_EN cells buf))
  match PARAM_INFO_GET_IO_CMD cells buf with
  | 0x4 => reg .MAC_W8
  | 0x5 => reg .MAC_W16
  | 0x6 => reg .MAC_W32
  | 0x8 => reg .BB_W8
  | 0x9 => reg .BB_W16
  | 0xA => reg .BB_W32
  | 0x7 => some (.RF_W (PARAM_INFO_GET_DATA cells buf) (PARAM_INFO_GET_MASK cells buf)
      (PARAM_INFO_GET_RF_ADDR cells buf) (PARAM_INFO_GET_MSK_EN cells buf) (PARAM_INFO_GET_RF_PATH cells buf))
  | 0x10 => some (.DELAY_TIME .DELAY_US (PARAM_INFO_GET_DELAY_VAL cells buf))
  | 0x11 => some (.DELAY_TIME .DELAY_MS (PARAM_INFO_GET_DELAY_VAL cells buf))
  | _ => none

def Parameter.FlagFits : Parameter -> Prop
  | .REG_W _ _ _ _ msk_en => msk_en.toNat ≤ 1
  | .RF_W _ _ _ msk_en _ => msk_en.toNat ≤ 1
  | .DELAY_TIME _ _ | .END => True

instance : DecidablePred Parameter.FlagFits
  | .REG_W _ _ _ _ msk_en | .RF_W _ _ _ msk_en _ => inferInstanceAs (Decidable (msk_en.toNat ≤ 1))
  | .DELAY_TIME _ _ | .END => isTrue trivial

/-! Every field reads as it was set: the fields of a word are apart, and so are the words. -/

theorem whole_word (value : UInt32) : UInt32.ofNat (value.toNat % 2 ^ 32) = value := by
  rw [Nat.mod_eq_of_lt value.toNat_lt, UInt32.ofNat_toNat]

theorem whole_half (value : UInt16) : UInt16.ofNat (value.toNat % 2 ^ 16) = value := by
  rw [Nat.mod_eq_of_lt value.toNat_lt, UInt16.ofNat_toNat]

theorem whole_byte (value : UInt8) : UInt8.ofNat (value.toNat % 2 ^ 8) = value := by
  rw [Nat.mod_eq_of_lt value.toNat_lt, UInt8.ofNat_toNat]

theorem whole_flag {value : UInt8} (flag : value.toNat ≤ 1) : UInt8.ofNat (value.toNat % 2 ^ 1) = value := by
  rw [Nat.mod_eq_of_lt (show value.toNat < 2 ^ 1 by omega), UInt8.ofNat_toNat]

section

variable (cells : ByteMap) (buf : Nat)

theorem reg_fields (cmd : RegCmd) (value msk : UInt32) (offset : UInt16) {msk_en : UInt8} (flag : msk_en.toNat ≤ 1) :
    let written := (Parameter.REG_W cmd value msk offset msk_en).write cells buf
    PARAM_INFO_GET_IO_CMD written buf = cmd.cmd_id % 2 ^ 7 ∧ PARAM_INFO_GET_DATA written buf = value ∧
      PARAM_INFO_GET_MASK written buf = msk ∧ PARAM_INFO_GET_IO_ADDR written buf = offset ∧
      PARAM_INFO_GET_MSK_EN written buf = msk_en := by
  dsimp only [Parameter.write, PARAM_INFO_GET_IO_CMD, PARAM_INFO_GET_DATA, PARAM_INFO_GET_MASK, PARAM_INFO_GET_IO_ADDR,
    PARAM_INFO_GET_MSK_EN, PARAM_INFO_SET_LEN, PARAM_INFO_SET_IO_CMD, PARAM_INFO_SET_IO_ADDR, PARAM_INFO_SET_DATA,
    PARAM_INFO_SET_MASK, PARAM_INFO_SET_MSK_EN, SET_BITS_TO_LE_4BYTE]
  simp (disch := omega) only [LE_BITS_TO_4BYTE_eq, BitField.get_set, BitField.get_set_apart, BitField.get_set_elsewhere]
  exact ⟨rfl, whole_word value, whole_word msk, whole_half offset, whole_flag flag⟩

theorem rf_fields (value msk : UInt32) (offset rf_path : UInt8) {msk_en : UInt8} (flag : msk_en.toNat ≤ 1) :
    let written := (Parameter.RF_W value msk offset msk_en rf_path).write cells buf
    PARAM_INFO_GET_IO_CMD written buf = 0x7 ∧ PARAM_INFO_GET_DATA written buf = value ∧
      PARAM_INFO_GET_MASK written buf = msk ∧ PARAM_INFO_GET_RF_ADDR written buf = offset ∧
      PARAM_INFO_GET_MSK_EN written buf = msk_en ∧ PARAM_INFO_GET_RF_PATH written buf = rf_path := by
  dsimp only [Parameter.write, PARAM_INFO_GET_IO_CMD, PARAM_INFO_GET_DATA, PARAM_INFO_GET_MASK, PARAM_INFO_GET_RF_ADDR,
    PARAM_INFO_GET_RF_PATH, PARAM_INFO_GET_MSK_EN, PARAM_INFO_SET_LEN, PARAM_INFO_SET_IO_CMD, PARAM_INFO_SET_RF_ADDR,
    PARAM_INFO_SET_RF_PATH, PARAM_INFO_SET_DATA, PARAM_INFO_SET_MASK, PARAM_INFO_SET_MSK_EN, SET_BITS_TO_LE_4BYTE]
  simp (disch := omega) only [LE_BITS_TO_4BYTE_eq, BitField.get_set, BitField.get_set_apart, BitField.get_set_elsewhere]
  exact ⟨rfl, whole_word value, whole_word msk, whole_byte offset, whole_flag flag, whole_byte rf_path⟩

theorem delay_fields (cmd : DelayCmd) (delay_time : UInt16) :
    let written := (Parameter.DELAY_TIME cmd delay_time).write cells buf
    PARAM_INFO_GET_IO_CMD written buf = cmd.cmd_id % 2 ^ 7 ∧ PARAM_INFO_GET_DELAY_VAL written buf = delay_time := by
  dsimp only [Parameter.write, PARAM_INFO_GET_IO_CMD, PARAM_INFO_GET_DELAY_VAL, PARAM_INFO_SET_LEN,
    PARAM_INFO_SET_IO_CMD, PARAM_INFO_SET_DELAY_VAL, SET_BITS_TO_LE_4BYTE]
  simp (disch := omega) only [LE_BITS_TO_4BYTE_eq, BitField.get_set, BitField.get_set_apart]
  exact ⟨rfl, whole_half delay_time⟩

theorem read_write_parameter {param : Parameter} (flag : param.FlagFits) (counted : param ≠ .END) :
    read_parameter (param.write cells buf) buf = some param := by
  cases param with
  | REG_W cmd value msk offset msk_en =>
      rcases reg_fields cells buf cmd value msk offset flag with ⟨io_cmd, data, mask, addr, en⟩
      unfold read_parameter
      rw [io_cmd, data, mask, addr, en]
      cases cmd <;> rfl
  | RF_W value msk offset msk_en rf_path =>
      rcases rf_fields cells buf value msk offset rf_path flag with ⟨io_cmd, data, mask, addr, en, path⟩
      unfold read_parameter
      rw [io_cmd, data, mask, addr, en, path]
      rfl
  | DELAY_TIME cmd delay_time =>
      rcases delay_fields cells buf cmd delay_time with ⟨io_cmd, val⟩
      unfold read_parameter
      rw [io_cmd, val]
      cases cmd <;> rfl
  | END => exact absurd rfl counted

theorem write_of_outside (param : Parameter) {position : Nat}
    (outside : position < buf ∨ buf + param.extent ≤ position) : param.write cells buf position = cells position := by
  cases param with
  | REG_W | RF_W =>
      dsimp only [Parameter.extent] at outside
      dsimp only [Parameter.write, PARAM_INFO_SET_LEN, PARAM_INFO_SET_IO_CMD, PARAM_INFO_SET_IO_ADDR,
        PARAM_INFO_SET_RF_ADDR, PARAM_INFO_SET_RF_PATH, PARAM_INFO_SET_DATA, PARAM_INFO_SET_MASK,
        PARAM_INFO_SET_MSK_EN, SET_BITS_TO_LE_4BYTE]
      simp (disch := omega) only [BitField.set_of_outside]
  | DELAY_TIME | END =>
      dsimp only [Parameter.extent] at outside
      dsimp only [Parameter.write, PARAM_INFO_SET_LEN, PARAM_INFO_SET_IO_CMD, PARAM_INFO_SET_DELAY_VAL,
        SET_BITS_TO_LE_4BYTE]
      simp (disch := omega) only [BitField.set_of_outside]

end

def cells_of (bytes : List UInt8) : ByteMap := fun i => bytes.getD i 0

def read_parameters : Nat -> List UInt8 -> Option (List Parameter)
  | 0, _ => some []
  | count + 1, bytes => do
      let param <- read_parameter (cells_of bytes) 0
      let rest <- read_parameters count (bytes.drop 12)
      return param :: rest

theorem read_parameter_congr {first second : ByteMap} {here there : Nat}
    (same : ∀ i, i < 12 -> first (here + i) = second (there + i)) :
    read_parameter first here = read_parameter second there := by
  have word : ∀ offset shift bits, offset + 4 ≤ 12 ->
      LE_BITS_TO_4BYTE first (here + offset) shift bits = LE_BITS_TO_4BYTE second (there + offset) shift bits := by
    intro offset shift bits inside
    have cell : ∀ i, i < 4 -> first (here + offset + i) = second (there + offset + i) := by
      intro i below
      rw [Nat.add_assoc, Nat.add_assoc]
      exact same (offset + i) (by omega)
    unfold LE_BITS_TO_4BYTE
    rw [← Nat.add_zero (here + offset), ← Nat.add_zero (there + offset), cell 0 (by decide)]
    rw [Nat.add_zero, Nat.add_zero, cell 1 (by decide), cell 2 (by decide), cell 3 (by decide)]
  unfold read_parameter PARAM_INFO_GET_IO_CMD PARAM_INFO_GET_MSK_EN PARAM_INFO_GET_RF_ADDR PARAM_INFO_GET_RF_PATH
    PARAM_INFO_GET_IO_ADDR PARAM_INFO_GET_DELAY_VAL PARAM_INFO_GET_DATA PARAM_INFO_GET_MASK
  simp only [word 0x00 _ _ (by decide), word 0x04 _ _ (by decide), word 0x08 _ _ (by decide)]

theorem read_parameters_append {count more : Nat} {bytes behind : List UInt8} {params : List Parameter}
    (records : read_parameters count bytes = some params) (length : bytes.length = 12 * count) :
    read_parameters (count + more) (bytes ++ behind) = (read_parameters more behind).map (params ++ ·) := by
  induction count generalizing bytes params with
  | zero =>
      have none_left : bytes = [] := List.length_eq_zero_iff.mp (by omega)
      rw [none_left, Nat.zero_add, List.nil_append, ← Option.some.inj records]
      exact Option.map_id'.symm
  | succ count ih =>
      unfold read_parameters at records
      rcases Option.bind_eq_some_iff.mp records with ⟨param, first, others⟩
      rcases Option.bind_eq_some_iff.mp others with ⟨rest, later, whole⟩
      have shorter : (bytes.drop 12).length = 12 * count := by
        rw [List.length_drop]
        omega
      have front : read_parameter (cells_of (bytes ++ behind)) 0 = some param := by
        rw [← first]
        refine read_parameter_congr (fun i below => ?_)
        unfold cells_of
        rw [List.getD_eq_getElem?_getD, List.getD_eq_getElem?_getD, List.getElem?_append_left (by omega)]
      rw [Nat.add_right_comm, read_parameters, front, List.drop_append_of_le_length (by omega)]
      change (read_parameters (count + more) (bytes.drop 12 ++ behind)).bind (fun rest => some (param :: rest)) = _
      rw [ih later shorter, ← Option.some.inj whole]
      cases read_parameters more behind <;> rfl

end Offload

end Rtl8821ce
