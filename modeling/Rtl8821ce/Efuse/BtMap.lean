import Rtl8821ce.Efuse.Section

/-!
# The Bluetooth efuse

It holds the same kind of log of sections as the efuse of the driver, in 128 cells for a map of
1024 bytes.  Two functions walk over it: one builds the map, the other counts the used bytes from
where the last count ended.
-/

namespace Rtl8821ce
namespace BtEfuse

open Scanner (Iteration scan Passes)

def EFUSE_BT_REAL_CONTENT_LEN : Nat := 128

def EFUSE_BT_MAP_LEN : Nat := 1024

def EFUSE_BT_MAX_SECTION : Nat := EFUSE_BT_MAP_LEN / 8

def EFUSE_PROTECT_BYTES_BANK : Nat := 16

def AVAILABLE_EFUSE_ADDR (addr : Nat) : Bool := addr < EFUSE_BT_REAL_CONTENT_LEN

def EXT_HEADER (header : UInt8) : Bool := header &&& 0x1F == 0x0F

def ALL_WORDS_DISABLED (wde : UInt8) : Bool := wde &&& 0x0F == 0x0F

def GET_HDR_OFFSET_2_0 (header : UInt8) : Nat := (header.toNat &&& 0xE0) >>> 5

/-- `offset |= ((efuseExtHdr & 0xF0) >> 1)` behind an extended header. -/
def ext_offset (header ext : UInt8) : Nat := GET_HDR_OFFSET_2_0 header ||| ((ext.toNat &&& 0xF0) >>> 1)

def plain_offset (header : UInt8) : Nat := (header.toNat >>> 4) &&& 0x0F

def Efuse_CalculateWordCnts (word_en : Nat) : Nat := ([0, 1, 2, 3].filter (fun i => !word_en.testBit i)).length

/-- The locals of the loop, with the places that it reads in `phyefuse` and writes in `efuseTbl`. -/
structure MapState where
  eFuse_Addr : Nat
  efuseTbl : ByteMap
  reads : List Nat
  writes : List Nat

/-- `phyefuse[eFuse_Addr++]` was read. -/
def MapState.took (state : MapState) : MapState :=
  { state with eFuse_Addr := state.eFuse_Addr + 1, reads := state.eFuse_Addr :: state.reads }

/-- A word was read to `addr` of the map.  What is read behind the cells is whatever is there. -/
def MapState.word (phyefuse : ByteMap) (addr : Nat) (state : MapState) : MapState where
  eFuse_Addr := state.eFuse_Addr + 2
  efuseTbl := Function.update (Function.update state.efuseTbl addr (phyefuse state.eFuse_Addr)) (addr + 1)
    (phyefuse (state.eFuse_Addr + 1))
  reads := (state.eFuse_Addr + 1) :: state.eFuse_Addr :: state.reads
  writes := (addr + 1) :: addr :: state.writes

def read_words (phyefuse : ByteMap) (offset wden : Nat) : List Nat -> MapState -> MapState
  | [], state => state
  | i :: rest, state =>
      if wden.testBit i then read_words phyefuse offset wden rest state
      else read_words phyefuse offset wden rest (state.word phyefuse (offset * 8 + 2 * i))

def read_section (phyefuse : ByteMap) (offset wden : Nat) (state : MapState) : MapState :=
  if offset < EFUSE_BT_MAX_SECTION then read_words phyefuse offset wden [0, 1, 2, 3] state
  else { state with eFuse_Addr := state.eFuse_Addr + Efuse_CalculateWordCnts wden * 2 }

/-- One iteration of the loop of `hal_ReadEFuse_BT_logic_map`. -/
def read_body (phyefuse : ByteMap) (state : MapState) : Iteration MapState MapState :=
  if AVAILABLE_EFUSE_ADDR state.eFuse_Addr then
    let efuseHeader := phyefuse state.eFuse_Addr
    if efuseHeader = 0xFF then .done state.took
    else if EXT_HEADER efuseHeader then
      let efuseExtHdr := phyefuse state.took.eFuse_Addr
      if ALL_WORDS_DISABLED efuseExtHdr then .more state.took.took
      else
        .more (read_section phyefuse (ext_offset efuseHeader efuseExtHdr) (efuseExtHdr.toNat &&& 0x0F)
          state.took.took)
    else .more (read_section phyefuse (plain_offset efuseHeader) (efuseHeader.toNat &&& 0x0F) state.took)
  else .done state

/-- What a call leaves in the buffer of the caller and in `fakeBTEfuseUsedBytes`. -/
structure MapRead where
  pbuf : ByteMap
  fakeBTEfuseUsedBytes : Nat
  reads : List Nat
  writes : List Nat

/-- Every iteration moves forward, so `129` of them suffice; `none` would be a loop without end. -/
def hal_ReadEFuse_BT_logic_map (phyefuse : ByteMap) (_offset _size_byte : Nat) (pbuf : ByteMap)
    (fakeBTEfuseUsedBytes : Nat) : Option MapRead :=
  if _offset + _size_byte > EFUSE_BT_MAP_LEN then some ⟨pbuf, fakeBTEfuseUsedBytes, [], []⟩
  else
    (scan (read_body phyefuse) 129 ⟨0, ByteMap.blank, [], []⟩).map fun state =>
      { pbuf := fun i => if i < _size_byte then state.efuseTbl (_offset + i) else pbuf i
        fakeBTEfuseUsedBytes := state.eFuse_Addr - 1
        reads := state.reads
        writes := state.writes }

/-- `rtw_efuse_bt_access` for one byte: it refuses what does not lie in the cells. -/
def rtw_efuse_bt_read (efuse : ByteMap) (addr : Nat) : Option UInt8 :=
  if addr + 1 > EFUSE_BT_REAL_CONTENT_LEN then none else some (efuse addr)

/-- One iteration of the inner loop of `hal_EfuseGetCurrentSize_BT`.  A refused second byte leaves
the first one in `efuse_data`. -/
def size_body (efuse : ByteMap) (efuse_addr : Nat) : Iteration Nat Nat :=
  if AVAILABLE_EFUSE_ADDR efuse_addr then
    match rtw_efuse_bt_read efuse efuse_addr with
    | none => .done efuse_addr
    | some efuse_data =>
        if efuse_data = 0xFF then .done efuse_addr
        else if EXT_HEADER efuse_data then
          let efuse_data := (rtw_efuse_bt_read efuse (efuse_addr + 1)).getD efuse_data
          if ALL_WORDS_DISABLED efuse_data then .more (efuse_addr + 1 + 1)
          else .more (efuse_addr + 1 + (Efuse_CalculateWordCnts (efuse_data.toNat &&& 0x0F) * 2 + 1))
        else .more (efuse_addr + (Efuse_CalculateWordCnts (efuse_data.toNat &&& 0x0F) * 2 + 1))
  else .done efuse_addr

def hal_EfuseSwitchToBank (bank : Nat) : Bool := bank ≤ 3

/-- The loop over the banks, for so many that are left; the reads take the same cells in each. -/
def size_banks (efuse : ByteMap) (startBank : Nat) : Nat -> Nat -> Nat -> Option (Nat × Nat)
  | 0, bank, efuse_addr => some (bank, efuse_addr)
  | left + 1, bank, efuse_addr =>
      if hal_EfuseSwitchToBank bank then
        match scan (size_body efuse) 129 (if bank = startBank then efuse_addr else 0) with
        | none => none
        | some efuse_addr =>
            if efuse_addr < EFUSE_BT_REAL_CONTENT_LEN - EFUSE_PROTECT_BYTES_BANK then some (bank, efuse_addr)
            else size_banks efuse startBank left (bank + 1) efuse_addr
      else some (bank, efuse_addr)

/-- The count that is stored in `fakeBTEfuseUsedBytes` and returned. -/
def hal_EfuseGetCurrentSize_BT (efuse : ByteMap) (fakeBTEfuseUsedBytes : Nat) : Option Nat :=
  let btusedbytes := fakeBTEfuseUsedBytes % 2 ^ 16
  let startBank := (1 + btusedbytes / EFUSE_BT_REAL_CONTENT_LEN) % 2 ^ 8
  (size_banks efuse startBank (3 - startBank) startBank (btusedbytes % EFUSE_BT_REAL_CONTENT_LEN)).map fun found =>
    ((((found.1 : Int) - 1) * EFUSE_BT_REAL_CONTENT_LEN + found.2) % 2 ^ 16).toNat

def section_size (efuse : ByteMap) (place : Nat) : Nat :=
  if EXT_HEADER (efuse place) then
    if ALL_WORDS_DISABLED (efuse (place + 1)) then 2
    else 2 + Efuse_CalculateWordCnts ((efuse (place + 1)).toNat &&& 0x0F) * 2
  else 1 + Efuse_CalculateWordCnts ((efuse place).toNat &&& 0x0F) * 2

def Step (efuse : ByteMap) (place next : Nat) : Prop :=
  place < EFUSE_BT_REAL_CONTENT_LEN ∧ efuse place ≠ 0xFF ∧ next = place + section_size efuse place

def Header (efuse : ByteMap) : Nat -> Prop := Relation.ReflTransGen (Step efuse) 0

def FirstBlank (efuse : ByteMap) (place : Nat) : Prop :=
  Header efuse place ∧ place < EFUSE_BT_REAL_CONTENT_LEN ∧ efuse place = 0xFF

variable {efuse : ByteMap}

theorem step_unique : Relator.RightUnique (Step efuse) :=
  fun _ _ _ first second => first.2.2.trans second.2.2.symm

theorem Header.connected {first second : Nat} (one : Header efuse first) (two : Header efuse second) :
    Relation.ReflTransGen (Step efuse) first second ∨ Relation.ReflTransGen (Step efuse) second first :=
  Relation.ReflTransGen.total_of_right_unique step_unique one two

theorem reached_of_last {place later : Nat} (last : ∀ next, ¬ Step efuse place next)
    (reached : Relation.ReflTransGen (Step efuse) place later) : later = place := by
  rcases Relation.ReflTransGen.cases_head reached with same | ⟨next, goes, _⟩
  · exact same.symm
  · exact absurd goes (last next)

theorem FirstBlank.last {place : Nat} (blank : FirstBlank efuse place) (next : Nat) : ¬ Step efuse place next :=
  fun goes => goes.2.1 blank.2.2

theorem FirstBlank.unique {first second : Nat} (one : FirstBlank efuse first) (two : FirstBlank efuse second) :
    first = second := by
  rcases one.1.connected two.1 with forward | back
  · exact (reached_of_last one.last forward).symm
  · exact reached_of_last two.last back

theorem Header.not_blank {place : Nat} (header : Header efuse place) (outside : EFUSE_BT_REAL_CONTENT_LEN ≤ place)
    (blank : Nat) : ¬ FirstBlank efuse blank := by
  intro found
  have last : ∀ next, ¬ Step efuse place next := fun next goes => Nat.not_lt.mpr outside goes.1
  have bound := found.2.1
  rcases header.connected found.1 with forward | back
  · exact absurd (reached_of_last last forward) (by omega)
  · exact absurd (reached_of_last found.last back) (by omega)

theorem section_size_pos (efuse : ByteMap) (place : Nat) : 0 < section_size efuse place := by
  unfold section_size
  split_ifs <;> omega

end BtEfuse
end Rtl8821ce
