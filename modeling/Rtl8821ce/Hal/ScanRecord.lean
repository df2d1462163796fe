import Rtl8821ce.Hal.ParamRecord
import Rtl8821ce.Library.RecordList

/-!
# Records of the channel-switch list

A channel takes four bytes.  While the last record has its flag set, a record of extra
information follows, with two bytes before its data.  A field keeps as many bits of a value
as it has.
-/

namespace Rtl8821ce

namespace ChSwitch

open Offload (SET_BITS_TO_LE_4BYTE LE_BITS_TO_4BYTE LE_BITS_TO_4BYTE_eq cells_of)

/-- `struct halmac_ch_info`.  The enumerations are words. -/
structure ChInfo where
  action_id : UInt32
  bw : UInt32
  pri_ch_idx : UInt32
  channel : UInt8
  timeout : UInt8
  extra_info : UInt8
deriving DecidableEq

/-- `struct halmac_ch_extra_info` with the bytes its pointer has. -/
structure ChExtraInfo where
  extra_info : UInt8
  extra_action_id : UInt32
  extra_info_size : UInt8
  extra_info_data : List UInt8
  length_eq : extra_info_data.length = extra_info_size.toNat
deriving DecidableEq

section

variable (cells : ByteMap) (buf : Nat)

def CH_INFO_SET_CH (value : UInt8) : ByteMap := SET_BITS_TO_LE_4BYTE cells (buf + 0x00) 0 8 value.toNat

def CH_INFO_SET_PRI_CH_IDX (value : UInt32) : ByteMap := SET_BITS_TO_LE_4BYTE cells (buf + 0x00) 8 4 value.toNat

def CH_INFO_SET_BW (value : UInt32) : ByteMap := SET_BITS_TO_LE_4BYTE cells (buf + 0x00) 12 4 value.toNat

def CH_INFO_SET_TIMEOUT (value : UInt8) : ByteMap := SET_BITS_TO_LE_4BYTE cells (buf + 0x00) 16 8 value.toNat

def CH_INFO_SET_ACTION_ID (value : UInt32) : ByteMap := SET_BITS_TO_LE_4BYTE cells (buf + 0x00) 24 7 value.toNat

def CH_INFO_SET_EXTRA_INFO (value : UInt8) : ByteMap := SET_BITS_TO_LE_4BYTE cells (buf + 0x00) 31 1 value.toNat

def CH_EXTRA_INFO_SET_ID (value : UInt32) : ByteMap := SET_BITS_TO_LE_4BYTE cells (buf + 0x00) 0 7 value.toNat

def CH_EXTRA_INFO_SET_INFO (value : UInt8) : ByteMap := SET_BITS_TO_LE_4BYTE cells (buf + 0x00) 7 1 value.toNat

def CH_EXTRA_INFO_SET_SIZE (value : UInt8) : ByteMap := SET_BITS_TO_LE_4BYTE cells (buf + 0x00) 8 8 value.toNat

def CH_INFO_GET_CH : UInt8 := .ofNat (LE_BITS_TO_4BYTE cells (buf + 0x00) 0 8)

def CH_INFO_GET_PRI_CH_IDX : UInt32 := .ofNat (LE_BITS_TO_4BYTE cells (buf + 0x00) 8 4)

def CH_INFO_GET_BW : UInt32 := .ofNat (LE_BITS_TO_4BYTE cells (buf + 0x00) 12 4)

def CH_INFO_GET_TIMEOUT : UInt8 := .ofNat (LE_BITS_TO_4BYTE cells (buf + 0x00) 16 8)

def CH_INFO_GET_ACTION_ID : UInt32 := .ofNat (LE_BITS_TO_4BYTE cells (buf + 0x00) 24 7)

def CH_INFO_GET_EXTRA_INFO : UInt8 := .ofNat (LE_BITS_TO_4BYTE cells (buf + 0x00) 31 1)

def CH_EXTRA_INFO_GET_ID : UInt32 := .ofNat (LE_BITS_TO_4BYTE cells (buf + 0x00) 0 7)

def CH_EXTRA_INFO_GET_INFO : UInt8 := .ofNat (LE_BITS_TO_4BYTE cells (buf + 0x00) 7 1)

def CH_EXTRA_INFO_GET_SIZE : UInt8 := .ofNat (LE_BITS_TO_4BYTE cells (buf + 0x00) 8 8)

end

/-- The fields that `add_ch_info_88xx` sets. -/
def ChInfo.write (info : ChInfo) (cells : ByteMap) (buf : Nat) : ByteMap :=
  let cells := CH_INFO_SET_CH cells buf info.channel
  let cells := CH_INFO_SET_PRI_CH_IDX cells buf info.pri_ch_idx
  let cells := CH_INFO_SET_BW cells buf info.bw
  let cells := CH_INFO_SET_TIMEOUT cells buf info.timeout
  let cells := CH_INFO_SET_ACTION_ID cells buf info.action_id
  CH_INFO_SET_EXTRA_INFO cells buf info.extra_info

/-- The fields that `add_extra_ch_info_88xx` sets; each is set in a word. -/
def ChExtraInfo.writeFields (info : ChExtraInfo) (cells : ByteMap) (buf : Nat) : ByteMap :=
  let cells := CH_EXTRA_INFO_SET_ID cells buf info.extra_action_id
  let cells := CH_EXTRA_INFO_SET_INFO cells buf info.extra_info
  CH_EXTRA_INFO_SET_SIZE cells buf info.extra_info_size

def ChExtraInfo.write (info : ChExtraInfo) (cells : ByteMap) (buf : Nat) : ByteMap :=
  Memory.write (info.writeFields cells buf) (buf + 2) info.extra_info_data

def ChInfo.stored (info : ChInfo) : ChInfo where
  action_id := .ofNat (info.action_id.toNat % 2 ^ 7)
  bw := .ofNat (info.bw.toNat % 2 ^ 4)
  pri_ch_idx := .ofNat (info.pri_ch_idx.toNat % 2 ^ 4)
  channel := info.channel
  timeout := info.timeout
  extra_info := .ofNat (info.extra_info.toNat % 2 ^ 1)

def ChExtraInfo.stored (info : ChExtraInfo) : ChExtraInfo :=
  { info with
    extra_info := .ofNat (info.extra_info.toNat % 2 ^ 1)
    extra_action_id := .ofNat (info.extra_action_id.toNat % 2 ^ 7) }

/-- Every value fits into its field. -/
structure ChInfo.Fits (info : ChInfo) : Prop where
  action_id : info.action_id.toNat < 2 ^ 7
  bw : info.bw.toNat < 2 ^ 4
  pri_ch_idx : info.pri_ch_idx.toNat < 2 ^ 4
  extra_info : info.extra_info.toNat < 2 ^ 1

structure ChExtraInfo.Fits (info : ChExtraInfo) : Prop where
  extra_info : info.extra_info.toNat < 2 ^ 1
  extra_action_id : info.extra_action_id.toNat < 2 ^ 7

theorem word_kept_iff {value : UInt32} {bits : Nat} : UInt32.ofNat (value.toNat % 2 ^ bits) = value <->
    value.toNat < 2 ^ bits := by
  constructor
  · intro same
    have kept := congrArg UInt32.toNat same
    rw [UInt32.toNat_ofNat'] at kept
    calc value.toNat = value.toNat % 2 ^ bits % 2 ^ 32 := kept.symm
      _ ≤ value.toNat % 2 ^ bits := Nat.mod_le _ _
      _ < 2 ^ bits := Nat.mod_lt _ (Nat.two_pow_pos bits)
  · intro small
    rw [Nat.mod_eq_of_lt small, UInt32.ofNat_toNat]

theorem byte_kept_iff {value : UInt8} {bits : Nat} : UInt8.ofNat (value.toNat % 2 ^ bits) = value <->
    value.toNat < 2 ^ bits := by
  constructor
  · intro same
    have kept := congrArg UInt8.toNat same
    rw [UInt8.toNat_ofNat'] at kept
    calc value.toNat = value.toNat % 2 ^ bits % 2 ^ 8 := kept.symm
      _ ≤ value.toNat % 2 ^ bits := Nat.mod_le _ _
      _ < 2 ^ bits := Nat.mod_lt _ (Nat.two_pow_pos bits)
  · intro small
    rw [Nat.mod_eq_of_lt small, UInt8.ofNat_toNat]

theorem ChInfo.stored_eq_iff {info : ChInfo} : info.stored = info <-> info.Fits := by
  cases info
  unfold ChInfo.stored
  rw [ChInfo.mk.injEq, word_kept_iff, word_kept_iff, word_kept_iff, byte_kept_iff]
  exact ⟨fun ⟨action_id, bw, pri_ch_idx, _, _, extra_info⟩ => ⟨action_id, bw, pri_ch_idx, extra_info⟩,
    fun ⟨action_id, bw, pri_ch_idx, extra_info⟩ => ⟨action_id, bw, pri_ch_idx, rfl, rfl, extra_info⟩⟩

theorem ChExtraInfo.stored_eq_iff {info : ChExtraInfo} : info.stored = info <-> info.Fits := by
  cases info
  unfold ChExtraInfo.stored
  rw [ChExtraInfo.mk.injEq, word_kept_iff, byte_kept_iff]
  exact ⟨fun ⟨extra_info, extra_action_id, _⟩ => ⟨extra_info, extra_action_id⟩,
    fun ⟨extra_info, extra_action_id⟩ => ⟨extra_info, extra_action_id, rfl, rfl⟩⟩

/-! ## Reading the records -/

/-- A record as it is read. -/
inductive Entry
  | channel (info : ChInfo)
  | extra (info : ChExtraInfo)
deriving DecidableEq

def Entry.size : Entry -> Nat
  | .channel _ => 4
  | .extra info => 2 + info.extra_info_size.toNat

def Entry.extra_info : Entry -> UInt8
  | .channel info => info.extra_info
  | .extra info => info.extra_info

def read_ch_info (cells : ByteMap) (buf : Nat) : ChInfo where
  action_id := CH_INFO_GET_ACTION_ID cells buf
  bw := CH_INFO_GET_BW cells buf
  pri_ch_idx := CH_INFO_GET_PRI_CH_IDX cells buf
  channel := CH_INFO_GET_CH cells buf
  timeout := CH_INFO_GET_TIMEOUT cells buf
  extra_info := CH_INFO_GET_EXTRA_INFO cells buf

/-- The extra information at the front, if its data is there. -/
def read_ch_extra_info (bytes : List UInt8) : Option ChExtraInfo :=
  let size := CH_EXTRA_INFO_GET_SIZE (cells_of bytes) 0
  if within : 2 + size.toNat ≤ bytes.length then
    some
      { extra_info := CH_EXTRA_INFO_GET_INFO (cells_of bytes) 0
        extra_action_id := CH_EXTRA_INFO_GET_ID (cells_of bytes) 0
        extra_info_size := size
        extra_info_data := (bytes.drop 2).take size.toNat
        length_eq := by
          rw [List.length_take, List.length_drop]
          omega }
  else none

/-- The record at the front; `pending` says that the last one had its flag set. -/
def read_entry (pending : Bool) (bytes : List UInt8) : Option Entry :=
  if pending then (read_ch_extra_info bytes).map .extra
  else if 4 ≤ bytes.length then some (.channel (read_ch_info (cells_of bytes) 0))
  else none

theorem read_ch_info_write (info : ChInfo) (cells : ByteMap) (buf : Nat) :
    read_ch_info (info.write cells buf) buf = info.stored := by
  unfold read_ch_info ChInfo.stored CH_INFO_GET_ACTION_ID CH_INFO_GET_BW CH_INFO_GET_PRI_CH_IDX CH_INFO_GET_CH
    CH_INFO_GET_TIMEOUT CH_INFO_GET_EXTRA_INFO
  dsimp only [ChInfo.write, CH_INFO_SET_CH, CH_INFO_SET_PRI_CH_IDX, CH_INFO_SET_BW, CH_INFO_SET_TIMEOUT,
    CH_INFO_SET_ACTION_ID, CH_INFO_SET_EXTRA_INFO, SET_BITS_TO_LE_4BYTE]
  simp (disch := omega) only [LE_BITS_TO_4BYTE_eq, BitField.get_set, BitField.get_set_apart]
  rw [Offload.whole_byte, Offload.whole_byte]

theorem ChInfo.write_of_outside (info : ChInfo) (cells : ByteMap) {buf position : Nat}
    (outside : position < buf ∨ buf + 4 ≤ position) : info.write cells buf position = cells position := by
  dsimp only [ChInfo.write, CH_INFO_SET_CH, CH_INFO_SET_PRI_CH_IDX, CH_INFO_SET_BW, CH_INFO_SET_TIMEOUT,
    CH_INFO_SET_ACTION_ID, CH_INFO_SET_EXTRA_INFO, SET_BITS_TO_LE_4BYTE]
  simp (disch := omega) only [BitField.set_of_outside]

theorem ChExtraInfo.write_before (info : ChExtraInfo) (cells : ByteMap) {buf position : Nat} (before : position < buf) :
    info.write cells buf position = cells position := by
  unfold ChExtraInfo.write
  rw [Memory.write_of_outside _ (Or.inl (by omega))]
  dsimp only [ChExtraInfo.writeFields, CH_EXTRA_INFO_SET_ID, CH_EXTRA_INFO_SET_INFO, CH_EXTRA_INFO_SET_SIZE,
    SET_BITS_TO_LE_4BYTE]
  simp (disch := omega) only [BitField.set_of_outside]

theorem ChExtraInfo.fields_write (info : ChExtraInfo) (cells : ByteMap) (buf : Nat) :
    CH_EXTRA_INFO_GET_ID (info.write cells buf) buf = .ofNat (info.extra_action_id.toNat % 2 ^ 7) ∧
      CH_EXTRA_INFO_GET_INFO (info.write cells buf) buf = .ofNat (info.extra_info.toNat % 2 ^ 1) ∧
      CH_EXTRA_INFO_GET_SIZE (info.write cells buf) buf = info.extra_info_size := by
  have same0 : info.write cells buf buf = info.writeFields cells buf buf :=
    Memory.write_of_outside _ (Or.inl (by omega))
  have same1 : info.write cells buf (buf + 1) = info.writeFields cells buf (buf + 1) :=
    Memory.write_of_outside _ (Or.inl (by omega))
  have low {shift bits : Nat} (fits : shift + bits ≤ 16) : BitField.get (info.write cells buf) buf shift bits =
      BitField.get (info.writeFields cells buf) buf shift bits := BitField.get_congr_low fits same0 same1
  unfold CH_EXTRA_INFO_GET_ID CH_EXTRA_INFO_GET_INFO CH_EXTRA_INFO_GET_SIZE
  rw [LE_BITS_TO_4BYTE_eq, LE_BITS_TO_4BYTE_eq, LE_BITS_TO_4BYTE_eq, Nat.add_zero, low (by decide), low (by decide),
    low (by decide)]
  dsimp only [ChExtraInfo.writeFields, CH_EXTRA_INFO_SET_ID, CH_EXTRA_INFO_SET_INFO, CH_EXTRA_INFO_SET_SIZE,
    SET_BITS_TO_LE_4BYTE, Nat.add_zero]
  simp (disch := omega) only [BitField.get_set, BitField.get_set_apart]
  exact ⟨trivial, trivial, Offload.whole_byte _⟩

/-! The front of a memory is read as its bytes are. -/

theorem cells_of_read {memory : ByteMap} {buf length i : Nat} (inside : i < length) :
    cells_of (Memory.read memory buf length) (0 + i) = memory (buf + i) := by
  unfold cells_of
  rw [Nat.zero_add, List.getD_eq_getElem?_getD, Memory.getElem?_read memory inside, Option.getD_some]

theorem cells_of_append {bytes behind : List UInt8} {i : Nat} (inside : i < bytes.length) :
    cells_of (bytes ++ behind) (0 + i) = cells_of bytes (0 + i) := by
  unfold cells_of
  rw [Nat.zero_add, List.getD_eq_getElem?_getD, List.getD_eq_getElem?_getD, List.getElem?_append_left inside]

theorem read_ch_info_congr {first second : ByteMap} {here there : Nat}
    (same : ∀ i, i < 4 -> first (here + i) = second (there + i)) :
    read_ch_info first here = read_ch_info second there := by
  have word {shift bits : Nat} : LE_BITS_TO_4BYTE first here shift bits = LE_BITS_TO_4BYTE second there shift bits :=
    BitField.get_congr same
  unfold read_ch_info CH_INFO_GET_ACTION_ID CH_INFO_GET_BW CH_INFO_GET_PRI_CH_IDX CH_INFO_GET_CH
    CH_INFO_GET_TIMEOUT CH_INFO_GET_EXTRA_INFO
  simp only [Nat.add_zero, word]

theorem extra_fields_congr {first second : ByteMap} {here there : Nat}
    (same : ∀ i, i < 2 -> first (here + i) = second (there + i)) :
    CH_EXTRA_INFO_GET_ID first here = CH_EXTRA_INFO_GET_ID second there ∧
      CH_EXTRA_INFO_GET_INFO first here = CH_EXTRA_INFO_GET_INFO second there ∧
      CH_EXTRA_INFO_GET_SIZE first here = CH_EXTRA_INFO_GET_SIZE second there := by
  have low {shift bits : Nat} (fits : shift + bits ≤ 16) :
      LE_BITS_TO_4BYTE first here shift bits = LE_BITS_TO_4BYTE second there shift bits :=
    BitField.get_congr_low fits (same 0 (by decide)) (same 1 (by decide))
  exact ⟨congrArg UInt32.ofNat (low (by decide)), congrArg UInt8.ofNat (low (by decide)),
    congrArg UInt8.ofNat (low (by decide))⟩

theorem read_ch_extra_info_eq_some {bytes : List UInt8} {info : ChExtraInfo} :
    read_ch_extra_info bytes = some info <->
      2 + (CH_EXTRA_INFO_GET_SIZE (cells_of bytes) 0).toNat ≤ bytes.length ∧
        info.extra_info = CH_EXTRA_INFO_GET_INFO (cells_of bytes) 0 ∧
        info.extra_action_id = CH_EXTRA_INFO_GET_ID (cells_of bytes) 0 ∧
        info.extra_info_size = CH_EXTRA_INFO_GET_SIZE (cells_of bytes) 0 ∧
        info.extra_info_data = (bytes.drop 2).take (CH_EXTRA_INFO_GET_SIZE (cells_of bytes) 0).toNat := by
  cases info
  unfold read_ch_extra_info
  dsimp only
  split
  case isTrue within =>
    rw [Option.some.injEq, ChExtraInfo.mk.injEq]
    constructor
    · rintro ⟨rfl, rfl, rfl, rfl⟩
      exact ⟨within, rfl, rfl, rfl, rfl⟩
    · rintro ⟨_, rfl, rfl, rfl, rfl⟩
      exact ⟨rfl, rfl, rfl, rfl⟩
  case isFalse short => exact ⟨fun impossible => (nomatch impossible), fun both => absurd both.1 short⟩

def layout : RecordList.Layout Bool UInt8 Entry where
  read := read_entry
  size := Entry.size
  next entry := decide (entry.extra_info = 1)
  size_le := by
    intro pending bytes entry read
    unfold read_entry at read
    cases pending with
    | true =>
        rw [if_pos rfl] at read
        rcases Option.map_eq_some_iff.mp read with ⟨info, found, rfl⟩
        have ⟨within, _, _, same_size, _⟩ := read_ch_extra_info_eq_some.mp found
        rw [← same_size] at within
        exact within
    | false =>
        rw [if_neg Bool.false_ne_true] at read
        split at read
        case isTrue within =>
          rw [← Option.some.inj read]
          exact within
        case isFalse short => exact nomatch read
  read_append := by
    intro pending bytes entry behind read
    unfold read_entry at read ⊢
    cases pending with
    | true =>
        rw [if_pos rfl] at read ⊢
        rcases Option.map_eq_some_iff.mp read with ⟨info, found, rfl⟩
        have ⟨within, same_info, same_id, same_size, same_data⟩ := read_ch_extra_info_eq_some.mp found
        have ⟨id_eq, info_eq, size_eq⟩ := @extra_fields_congr (cells_of (bytes ++ behind)) (cells_of bytes) 0 0
          (fun i below => cells_of_append (by omega))
        refine Option.map_eq_some_iff.mpr ⟨info, read_ch_extra_info_eq_some.mpr ?_, rfl⟩
        rw [id_eq, info_eq, size_eq]
        refine ⟨?_, same_info, same_id, same_size, ?_⟩
        · rw [List.length_append]
          omega
        · rw [same_data, List.drop_append_of_le_length (by omega), List.take_append_of_le_length]
          rw [List.length_drop]
          omega
    | false =>
        rw [if_neg Bool.false_ne_true] at read ⊢
        split at read
        case isTrue within =>
          have longer : 4 ≤ (bytes ++ behind).length := by
            rw [List.length_append]
            omega
          rw [if_pos longer, ← Option.some.inj read,
            read_ch_info_congr (fun i below => cells_of_append (Nat.lt_of_lt_of_le below within))]
        case isFalse short => exact nomatch read

/-- What the list has, read record by record from the front. -/
def read_entries (bytes : List UInt8) : Option (List Entry) := layout.readAll bytes.length false bytes

theorem read_entry_channel (info : ChInfo) (cells : ByteMap) (buf : Nat) :
    read_entry false (Memory.read (info.write cells buf) buf 4) = some (.channel info.stored) := by
  unfold read_entry
  rw [if_neg Bool.false_ne_true, Memory.length_read, if_pos (Nat.le_refl 4), read_ch_info_congr (fun i => cells_of_read),
    read_ch_info_write]

theorem read_entry_extra (info : ChExtraInfo) (cells : ByteMap) (buf : Nat) :
    read_entry true (Memory.read (info.write cells buf) buf (2 + info.extra_info_size.toNat)) =
      some (.extra info.stored) := by
  have ⟨id_eq, info_eq, size_eq⟩ := info.fields_write cells buf
  have ⟨same_id, same_info, same_size⟩ := @extra_fields_congr
    (cells_of (Memory.read (info.write cells buf) buf (2 + info.extra_info_size.toNat))) (info.write cells buf) 0 buf
    (fun i below => cells_of_read (by omega))
  unfold read_entry
  rw [if_pos rfl]
  refine Option.map_eq_some_iff.mpr ⟨info.stored, read_ch_extra_info_eq_some.mpr ?_, rfl⟩
  rw [same_id, same_info, same_size, id_eq, info_eq, size_eq, Memory.length_read]
  refine ⟨Nat.le_refl _, rfl, rfl, rfl, ?_⟩
  rw [Memory.read_drop _ _ (Nat.le_add_right 2 _), Nat.add_sub_cancel_left]
  change info.extra_info_data = _
  unfold ChExtraInfo.write
  rw [← info.length_eq, Memory.read_write, List.take_length]

end ChSwitch

end Rtl8821ce
