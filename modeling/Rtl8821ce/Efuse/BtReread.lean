import Rtl8821ce.Efuse.BtPacket

/-!
# Reading the Bluetooth efuse again

What a walk has passed does not depend on the cells behind it, and a section behind it is read as
an overlay of the map.
-/

namespace Rtl8821ce
namespace BtEfuse

open Scanner (scan Passes)

variable {efuseTbl : ByteMap}

variable {efuse other : ByteMap}

theorem read_words_congr {offset wden : Nat} {words : List Nat} (state : MapState)
    (inside : offset < EFUSE_BT_MAX_SECTION) (small : ∀ i ∈ words, i < 4)
    (agree : ∀ place, state.eFuse_Addr ≤ place ->
      place < (read_words efuse offset wden words state).eFuse_Addr -> other place = efuse place) :
    read_words other offset wden words state = read_words efuse offset wden words state := by
  induction words generalizing state with
  | nil => rfl
  | cons i rest ih =>
      have small_rest : ∀ j ∈ rest, j < 4 := fun j member => small j (List.mem_cons_of_mem _ member)
      rw [read_words] at agree ⊢
      rw [read_words]
      by_cases disabled : wden.testBit i = true
      · rw [if_pos disabled] at agree
        rw [if_pos disabled, if_pos disabled]
        exact ih state small_rest agree
      · rw [if_neg disabled] at agree
        rw [if_neg disabled, if_neg disabled]
        have forward := (read_words_extends efuse inside wden small_rest (state.word efuse (offset * 8 + 2 * i))).1.forward
        change state.eFuse_Addr + 2 ≤ _ at forward
        have same : state.word other (offset * 8 + 2 * i) = state.word efuse (offset * 8 + 2 * i) := by
          rw [MapState.word, MapState.word, agree _ (Nat.le_refl _) (by omega), agree _ (Nat.le_succ _) (by omega)]
        rw [same]
        refine ih _ small_rest (fun place above below => agree place ?_ below)
        change state.eFuse_Addr + 2 ≤ place at above
        omega

theorem read_section_congr {offset wden : Nat} (state : MapState) (inside : offset < EFUSE_BT_MAX_SECTION)
    (agree : ∀ place, state.eFuse_Addr ≤ place ->
      place < (read_section efuse offset wden state).eFuse_Addr -> other place = efuse place) :
    read_section other offset wden state = read_section efuse offset wden state := by
  rw [read_section, if_pos inside] at agree ⊢
  rw [read_section, if_pos inside]
  exact read_words_congr state inside (fun _ member => EfuseSection.words_small member) agree

theorem read_body_congr {state next : MapState} (more : read_body efuse state = .more next)
    (agree : ∀ place, place < next.eFuse_Addr -> other place = efuse place) : read_body other state = .more next := by
  by_cases available : state.eFuse_Addr < EFUSE_BT_REAL_CONTENT_LEN
  · by_cases blank : efuse state.eFuse_Addr = 0xFF
    · rw [read_body_blank available blank] at more
      cases more
    · obtain ⟨found, goes, _, addr⟩ := read_body_more available blank
      rw [more, Scanner.Iteration.more.injEq] at goes
      subst goes
      have size := section_size_pos efuse state.eFuse_Addr
      have here := agree state.eFuse_Addr (by omega)
      have inside : AVAILABLE_EFUSE_ADDR state.eFuse_Addr = true := decide_eq_true available
      have second : state.took.eFuse_Addr = state.eFuse_Addr + 1 := rfl
      rw [read_body, if_pos inside] at more ⊢
      dsimp only at more ⊢
      rw [here, if_neg blank]
      rw [if_neg blank] at more
      by_cases ext : EXT_HEADER (efuse state.eFuse_Addr) = true
      · have two : 2 ≤ section_size efuse state.eFuse_Addr := by
          rw [section_size, if_pos ext]
          split <;> omega
        rw [if_pos ext, second] at more ⊢
        rw [agree (state.eFuse_Addr + 1) (by omega)]
        by_cases all : ALL_WORDS_DISABLED (efuse (state.eFuse_Addr + 1)) = true
        · rw [if_pos all] at more ⊢
          exact more
        · rw [if_neg all, Scanner.Iteration.more.injEq] at more
          rw [if_neg all, Scanner.Iteration.more.injEq, ← more]
          refine read_section_congr _ (ext_offset_lt _ _) (fun place _ below => agree place ?_)
          exact more ▸ below
      · rw [if_neg ext, Scanner.Iteration.more.injEq] at more
        rw [if_neg ext, Scanner.Iteration.more.injEq, ← more]
        refine read_section_congr _ (plain_offset_lt _) (fun place _ below => agree place ?_)
        exact more ▸ below
  · rw [read_body_end (Nat.le_of_not_lt available)] at more
    cases more

def ReadTo (efuse : ByteMap) (place : Nat) (efuseTbl : ByteMap) : Prop :=
  ∃ state : MapState, Passes (read_body efuse) ⟨0, ByteMap.blank, [], []⟩ state ∧
    state.eFuse_Addr = place ∧ state.efuseTbl = efuseTbl

theorem passes_congr {start state : MapState} (passes : Passes (read_body efuse) start state)
    (agree : ∀ place, place < state.eFuse_Addr -> other place = efuse place) :
    Passes (read_body other) start state := by
  induction passes with
  | refl => exact Relation.ReflTransGen.refl
  | @tail middle next _ more ih =>
      have forward := read_body_decreases middle next more
      exact (ih (fun place below => agree place (by omega))).tail (read_body_congr more agree)

theorem ReadTo.congr {place : Nat} {efuseTbl : ByteMap} (read : ReadTo efuse place efuseTbl)
    (agree : ∀ earlier, earlier < place -> other earlier = efuse earlier) : ReadTo other place efuseTbl := by
  obtain ⟨state, passes, rfl, rfl⟩ := read
  exact ⟨state, passes_congr passes agree, rfl, rfl⟩

theorem ReadTo.header {place : Nat} (read : ReadTo efuse place efuseTbl) : Header efuse place := by
  obtain ⟨state, passes, rfl, rfl⟩ := read
  exact (walked_passes passes ⟨Relation.ReflTransGen.refl,
    fun _ => iff_of_false List.not_mem_nil (Nat.not_lt_zero _), fun _ member => nomatch member⟩).header

/-- Sizes that leave the parser of the other efuse enough space. -/
def wide_cells : HwCfgInfo where
  efuse_size := 1024
  eeprom_size := 1024
  bt_efuse_size := 128
  protect_lt := by decide
  efuse_size_le := by decide
  eeprom_size_le := by decide
  eeprom_even := by decide

theorem read_words_eq_parse {blk word_en : Nat} {words : List Nat} {state : MapState} {next : ParserState}
    (success : parse_words wide_cells efuse blk word_en words ⟨state.eFuse_Addr, state.efuseTbl⟩ = some next) :
    (read_words efuse blk word_en words state).eFuse_Addr = next.efuse_idx ∧
      (read_words efuse blk word_en words state).efuseTbl = next.log_map := by
  induction words generalizing state with
  | nil =>
      rw [parse_words, Option.some.injEq] at success
      rw [← success]
      exact ⟨rfl, rfl⟩
  | cons i rest ih =>
      rw [read_words]
      rw [parse_words] at success
      by_cases disabled : word_en.testBit i = true
      · rw [if_pos disabled] at success
        rw [if_pos disabled]
        exact ih success
      · have address : (blk <<< 3) + (i <<< 1) = blk * 8 + 2 * i := by
          rw [word_address, Nat.mul_comm]
        rw [if_neg disabled] at success
        rw [if_neg disabled]
        dsimp only at success
        split_ifs at success
        rw [address] at success
        exact @ih (state.word efuse (blk * 8 + 2 * i)) success

theorem read_section_overlay (sec : EfuseSection) {state : MapState}
    (fits : state.eFuse_Addr + (word_bytes sec.enabled sec.data [0, 1, 2, 3]).length ≤ EFUSE_BT_REAL_CONTENT_LEN)
    (holds : HoldsAt efuse state.eFuse_Addr (word_bytes sec.enabled sec.data [0, 1, 2, 3])) :
    (read_section efuse sec.blk sec.word_en state).eFuse_Addr =
        state.eFuse_Addr + (word_bytes sec.enabled sec.data [0, 1, 2, 3]).length ∧
      (read_section efuse sec.blk sec.word_en state).efuseTbl =
        overlay sec.blk sec.enabled sec.data state.efuseTbl := by
  have blk : sec.blk < EFUSE_BT_MAX_SECTION := sec.blk_lt
  have limit : wide_cells.limit = 928 := rfl
  have inside : ∀ i, i < 4 -> sec.enabled.testBit i = true -> 8 * sec.blk + 2 * i < wide_cells.eeprom_size := by
    intro i small _
    have bound := sec.blk_lt
    change 8 * sec.blk + 2 * i < 1024
    omega
  unfold EFUSE_BT_REAL_CONTENT_LEN at fits
  have success := @EfuseSection.parse_section_fits wide_cells efuse sec.blk ⟨state.eFuse_Addr, state.efuseTbl⟩ sec
    holds inside (by rw [limit]; change state.eFuse_Addr + _ ≤ _; omega)
  rw [parse_section] at success
  split_ifs at success
  rw [read_section, if_pos blk]
  exact read_words_eq_parse success

theorem header_fields (header ext : UInt8) :
    plain_offset header = hdr_blk_idx header ∧ ext_offset header ext = ext_blk_idx header ext ∧
      ALL_WORDS_DISABLED ext = (hdr_word_en ext == 15) := by
  have fields : ∀ byte : Fin 256, (byte.val >>> 4) &&& 0x0F = (byte.val &&& 0xF0) >>> 4 ∧
      (byte.val &&& 0xE0) >>> 5 = (byte.val >>> 5) &&& 0x07 ∧
      ((UInt8.ofNat byte.val &&& 0x0F == 0x0F) = (byte.val &&& 0x0F == 15)) := by decide +kernel
  have same : UInt8.ofNat ext.toNat = ext := UInt8.ofNat_toNat
  have one := fields ⟨header.toNat, header.toNat_lt⟩
  have two := (fields ⟨ext.toNat, ext.toNat_lt⟩).2.2
  rw [same] at two
  refine ⟨one.1, ?_, two⟩
  rw [ext_offset, ext_blk_idx, GET_HDR_OFFSET_2_0, one.2.1, Nat.or_comm]

theorem read_body_section (sec : EfuseSection) {state : MapState}
    (fits : state.eFuse_Addr + sec.bytes.length ≤ EFUSE_BT_REAL_CONTENT_LEN)
    (holds : HoldsAt efuse state.eFuse_Addr sec.bytes) :
    ∃ next, read_body efuse state = .more next ∧ next.eFuse_Addr = state.eFuse_Addr + sec.bytes.length ∧
      next.efuseTbl = overlay sec.blk sec.enabled sec.data state.efuseTbl := by
  have words := EfuseSection.two_le_words sec
  have word_en := sec.word_en_lt
  have positive : 0 < sec.bytes.length := by
    rw [sec.length_bytes]
    omega
  have inside : AVAILABLE_EFUSE_ADDR state.eFuse_Addr = true := decide_eq_true (by omega)
  have second : state.took.eFuse_Addr = state.eFuse_Addr + 1 := rfl
  have third : state.took.took.eFuse_Addr = state.eFuse_Addr + 2 := rfl
  rw [EfuseSection.bytes, holdsAt_append] at holds
  rw [read_body, if_pos inside]
  dsimp only
  by_cases low : sec.blk < 16
  · have reads := plain_hdr_reads ⟨sec.blk, low⟩ ⟨sec.word_en, word_en⟩
    have bytes : sec.bytes.length = 1 + (word_bytes sec.enabled sec.data [0, 1, 2, 3]).length := by
      rw [sec.length_bytes, EfuseSection.hdr_bytes, if_pos low]
      rfl
    rw [EfuseSection.hdr_bytes, if_pos low] at holds
    obtain ⟨here, held⟩ := holds
    have header : efuse state.eFuse_Addr = plain_hdr sec.blk sec.word_en := (holdsAt_cons.mp here).1
    have ext : EXT_HEADER (plain_hdr sec.blk sec.word_en) = false := reads.1
    have offset : plain_offset (plain_hdr sec.blk sec.word_en) = sec.blk :=
      (header_fields _ 0).1.trans reads.2.2.1
    have wden : (plain_hdr sec.blk sec.word_en).toNat &&& 0x0F = sec.word_en := reads.2.2.2
    rw [header, if_neg reads.2.1, ext, if_neg Bool.false_ne_true, offset, wden]
    obtain ⟨addr, tbl⟩ := @read_section_overlay efuse sec state.took (by rw [second]; omega) held
    exact ⟨_, rfl, addr.trans (by rw [second, bytes]; omega), tbl⟩
  · have reads := ext_hdr_reads ⟨sec.blk, sec.blk_lt⟩ ⟨sec.word_en, word_en⟩
    have bytes : sec.bytes.length = 2 + (word_bytes sec.enabled sec.data [0, 1, 2, 3]).length := by
      rw [sec.length_bytes, EfuseSection.hdr_bytes, if_neg low]
      rfl
    rw [EfuseSection.hdr_bytes, if_neg low] at holds
    obtain ⟨here, held⟩ := holds
    have header : efuse state.eFuse_Addr = ext_hdr sec.blk := (holdsAt_cons.mp here).1
    have next_header : efuse (state.eFuse_Addr + 1) = ext_hdr2 sec.blk sec.word_en :=
      (holdsAt_cons.mp (holdsAt_cons.mp here).2).1
    have ext : EXT_HEADER (ext_hdr sec.blk) = true := reads.1
    obtain ⟨_, offset, all⟩ := header_fields (ext_hdr sec.blk) (ext_hdr2 sec.blk sec.word_en)
    have wden : (ext_hdr2 sec.blk sec.word_en).toNat &&& 0x0F = sec.word_en := reads.2.2.2
    have some_word : ALL_WORDS_DISABLED (ext_hdr2 sec.blk sec.word_en) = false := by
      rw [all]
      exact beq_false_of_ne (fun same => absurd (wden.symm.trans same) (Nat.ne_of_lt word_en))
    rw [header, if_neg (headers_used sec).2.1, ext, if_pos rfl, second, next_header, some_word,
      if_neg Bool.false_ne_true, offset, reads.2.2.1, wden]
    obtain ⟨addr, tbl⟩ := @read_section_overlay efuse sec state.took.took (by rw [third]; omega) held
    exact ⟨_, rfl, addr.trans (by rw [third, bytes]; omega), tbl⟩

theorem ReadTo.behind {place : Nat} (read : ReadTo efuse place efuseTbl) (sec : EfuseSection)
    (fits : place + sec.bytes.length ≤ EFUSE_BT_REAL_CONTENT_LEN) (holds : HoldsAt efuse place sec.bytes) :
    ReadTo efuse (place + sec.bytes.length) (overlay sec.blk sec.enabled sec.data efuseTbl) := by
  obtain ⟨state, passes, rfl, rfl⟩ := read
  have ⟨next, more, addr, tbl⟩ := read_body_section sec fits holds
  exact ⟨next, passes.tail more, addr, tbl⟩

theorem ReadTo.torn {place : Nat} (read : ReadTo efuse place efuseTbl) (sec : EfuseSection)
    (inside : place < EFUSE_BT_REAL_CONTENT_LEN) (header : efuse place = ext_hdr sec.blk)
    (blank : efuse (place + 1) = 0xFF) : ReadTo efuse (place + 2) efuseTbl := by
  obtain ⟨state, passes, rfl, rfl⟩ := read
  have ext : EXT_HEADER (ext_hdr sec.blk) = true :=
    (ext_hdr_reads ⟨sec.blk, sec.blk_lt⟩ ⟨sec.word_en, sec.word_en_lt⟩).1
  have available : AVAILABLE_EFUSE_ADDR state.eFuse_Addr = true := decide_eq_true inside
  have second : state.took.eFuse_Addr = state.eFuse_Addr + 1 := rfl
  have more : read_body efuse state = .more state.took.took := by
    rw [read_body, if_pos available]
    dsimp only
    rw [header, if_neg (headers_used sec).2.1, ext, if_pos rfl, second, blank]
    rfl
  exact ⟨_, passes.tail more, rfl, rfl⟩

theorem map_read_ends (chip : BtChip) (data : ByteMap) : (rtw_BT_efuse_map_read chip 0 1024 data).isSome = true := by
  have ⟨final, ended, _⟩ := read_scan chip.cells
  rw [rtw_BT_efuse_map_read, hal_ReadEFuse_BT_logic_map, if_neg (by decide), ended]
  rfl

def BtChip.logical (chip : BtChip) : ByteMap :=
  ((rtw_BT_efuse_map_read chip 0 1024 (fun _ => 0)).get (map_read_ends chip (fun _ => 0))).pbuf

theorem map_read_eq {chip : BtChip} {place : Nat} (read : ReadTo chip.cells place efuseTbl)
    (inside : place < EFUSE_BT_REAL_CONTENT_LEN) (blank : chip.cells place = 0xFF) :
    ∃ found : MapRead, rtw_BT_efuse_map_read chip 0 1024 (fun _ => 0) = some found ∧
      found.fakeBTEfuseUsedBytes = place ∧ ∀ address, address < 1024 -> found.pbuf address = efuseTbl address := by
  obtain ⟨state, passes, rfl, rfl⟩ := read
  have enough : 128 - (⟨0, ByteMap.blank, [], []⟩ : MapState).eFuse_Addr < 129 := by decide
  have ended : scan (read_body chip.cells) 129 ⟨0, ByteMap.blank, [], []⟩ = some state.took := by
    rw [@Scanner.scan_passes _ _ (read_body chip.cells) (fun state => 128 - state.eFuse_Addr) read_body_decreases
      _ _ passes 129 enough]
    exact Scanner.scan_done (read_body_blank inside blank) 128
  rw [rtw_BT_efuse_map_read, hal_ReadEFuse_BT_logic_map, if_neg (by decide), ended]
  refine ⟨_, rfl, rfl, fun address small => ?_⟩
  change (if address < 1024 then state.efuseTbl (0 + address) else 0) = _
  rw [if_pos small, Nat.zero_add]

theorem logical_eq {chip : BtChip} {place : Nat} (read : ReadTo chip.cells place efuseTbl)
    (inside : place < EFUSE_BT_REAL_CONTENT_LEN) (blank : chip.cells place = 0xFF) {address : Nat}
    (small : address < 1024) : chip.logical address = efuseTbl address := by
  have ⟨found, ended, _, bytes⟩ := map_read_eq read inside blank
  rw [BtChip.logical, Option.get_of_eq_some _ ended]
  exact bytes address small

end BtEfuse
end Rtl8821ce
