import Rtl8821ce.Efuse.Reparse

/-!
# A log whose last section is torn

The section of one logical byte sets one word.  When only a part of it is
stored, the rest of its cells is blank.  From the complete header on this is a
section with blank data, which the parser reads as such.  The first byte of an
extended header alone is a dangling byte; and if a dangling byte stands before
the section already, the stored part is read as words of another block.
-/

namespace Rtl8821ce

variable {offset : Nat}

def blk_idx (offset : Nat) : Nat := (offset &&& (8 - 1)) >>> 1

theorem blk_idx_eq (offset : Nat) : blk_idx offset = offset % 8 / 2 := by
  rw [blk_idx, Nat.and_two_pow_sub_one_eq_mod offset 3, Nat.shiftRight_eq_div_pow]

def log_section (offset : Nat) (small : offset < 1024) (word : UInt8 × UInt8) : EfuseSection where
  blk := offset >>> 3
  enabled := 0x01 <<< blk_idx offset
  data := fun k => if k % 2 = 0 then word.1 else word.2
  blk_lt := by
    rw [Nat.shiftRight_eq_div_pow]
    omega
  enabled_pos := by
    rw [Nat.shiftLeft_eq, Nat.one_mul]
    exact Nat.two_pow_pos _
  enabled_lt := by
    have finite : ∀ i : Fin 4, 0x01 <<< i.val < 16 := by decide
    rw [blk_idx_eq]
    exact finite ⟨offset % 8 / 2, by omega⟩

theorem log_section_testBit (offset i : Nat) : (0x01 <<< blk_idx offset).testBit i = true <-> i = blk_idx offset := by
  rw [Nat.shiftLeft_eq, Nat.one_mul, Nat.testBit_two_pow]
  rw [decide_eq_true_iff]
  exact eq_comm

theorem log_section_bytes (small : offset < 1024) (word : UInt8 × UInt8) :
    (log_section offset small word).bytes =
      (log_section offset small word).hdr_bytes ++ [word.1, word.2] := by
  have finite : ∀ i : Fin 4, word_bytes (0x01 <<< i.val) (fun k => if k % 2 = 0 then word.1 else word.2)
      [0, 1, 2, 3] = [word.1, word.2] := by
    intro i
    match i with
    | 0 => rfl
    | 1 => rfl
    | 2 => rfl
    | 3 => rfl
  rw [EfuseSection.bytes]
  congr 1
  change word_bytes (0x01 <<< blk_idx offset) _ _ = _
  rw [blk_idx_eq]
  exact finite ⟨offset % 8 / 2, by omega⟩

theorem log_section_hdr_bytes (small : offset < 1024) (word : UInt8 × UInt8) :
    (log_section offset small word).hdr_bytes =
      if offset > 0x7f then
        [ext_hdr (offset >>> 3), ext_hdr2 (offset >>> 3) ((0x01 <<< blk_idx offset) ^^^ 0x0F)]
      else [plain_hdr (offset >>> 3) ((0x01 <<< blk_idx offset) ^^^ 0x0F)] := by
  have block : (log_section offset small word).blk = offset / 8 := Nat.shiftRight_eq_div_pow offset 3
  rw [EfuseSection.hdr_bytes, block]
  by_cases high : offset > 0x7f
  · rw [if_pos high, if_neg (by omega)]
    rw [← Nat.shiftRight_eq_div_pow offset 3]
    rfl
  · rw [if_neg high, if_pos (by omega)]
    rw [← Nat.shiftRight_eq_div_pow offset 3]
    rfl

def hdr_len (offset : Nat) : Nat := if offset > 0x7f then 2 else 1

theorem length_hdr_bytes (small : offset < 1024) (word : UInt8 × UInt8) :
    (log_section offset small word).hdr_bytes.length = hdr_len offset := by
  rw [log_section_hdr_bytes, hdr_len]
  split_ifs <;> rfl

theorem length_log_section (small : offset < 1024) (word : UInt8 × UInt8) :
    (log_section offset small word).bytes.length = hdr_len offset + 2 := by
  rw [log_section_bytes, List.length_append, length_hdr_bytes]
  rfl

theorem overlay_word {blk i : Nat} (small : i < 4) (data log_map : ByteMap) (address : Nat) :
    overlay blk (0x01 <<< i) data log_map address =
      if address / 2 = 4 * blk + i then data (address % 8) else log_map address := by
  have bit : (0x01 <<< i).testBit (address % 8 / 2) = true <-> address % 8 / 2 = i := by
    rw [Nat.shiftLeft_eq, Nat.one_mul, Nat.testBit_two_pow, decide_eq_true_iff]
    exact eq_comm
  rw [overlay]
  refine if_congr ?_ rfl rfl
  rw [bit]
  omega

theorem apply_log_section (small : offset < 1024) (log_map : ByteMap) (value : UInt8) :
    (log_section offset small (log_word log_map offset value)).apply log_map =
      Function.update log_map offset value := by
  have parity : offset &&& 1 = offset % 2 := Nat.and_two_pow_sub_one_eq_mod offset 1
  have block : offset >>> 3 = offset / 8 := Nat.shiftRight_eq_div_pow offset 3
  funext address
  rw [EfuseSection.apply]
  change overlay (offset >>> 3) (0x01 <<< blk_idx offset)
    (fun k => if k % 2 = 0 then (log_word log_map offset value).1 else (log_word log_map offset value).2)
    log_map address = _
  rw [overlay_word (by rw [blk_idx_eq]; omega), blk_idx_eq, block]
  by_cases here : address = offset
  · rw [here, Function.update_self, if_pos (by omega)]
    by_cases even : offset % 2 = 0
    · rw [if_pos (by omega), log_word, parity, if_pos even]
    · rw [if_neg (by omega), log_word, parity, if_neg even]
  · rw [Function.update_of_ne here]
    by_cases word : address / 2 = 4 * (offset / 8) + offset % 8 / 2
    · rw [if_pos word]
      by_cases even : offset % 2 = 0
      · have other : address = offset + 1 := by omega
        rw [if_neg (by omega), log_word, parity, if_pos even, other]
      · have other : address = offset - 1 := by omega
        rw [if_pos (by omega), log_word, parity, if_neg even, other]
    · rw [if_neg word]

/-- The word as it stands when only `stored` bytes of the section are. -/
def torn_word (hdr_len stored : Nat) (word : UInt8 × UInt8) : UInt8 × UInt8 :=
  (if hdr_len + 1 ≤ stored then word.1 else 0xff, if hdr_len + 2 ≤ stored then word.2 else 0xff)

theorem torn_take (hdr : List UInt8) (word : UInt8 × UInt8) (more : Nat) :
    let torn := torn_word hdr.length (hdr.length + more) word
    (hdr ++ [torn.1, torn.2]).take (hdr.length + more) = (hdr ++ [word.1, word.2]).take (hdr.length + more) ∧
      ∀ byte, byte ∈ (hdr ++ [torn.1, torn.2]).drop (hdr.length + more) -> byte = 0xff := by
  simp only [torn_word, List.take_length_add_append, List.drop_length_add_append, Nat.add_le_add_iff_left]
  match more with
  | 0 => exact ⟨rfl, by simp⟩
  | 1 => exact ⟨rfl, by simp⟩
  | more + 2 =>
      rw [if_pos (by omega), if_pos (by omega)]
      exact ⟨rfl, by simp⟩

theorem burn_bytes_blank {start : Nat} {bytes : List UInt8} {map : ByteMap}
    (inside : start + bytes.length ≤ 1024) (blank : ∀ byte ∈ bytes, byte = 0xff)
    (cells : ∀ idx, start ≤ idx -> idx < start + bytes.length -> map idx = 0xff) :
    burn_bytes start bytes map = map := by
  induction bytes generalizing start with
  | nil => rfl
  | cons byte rest ih =>
      rw [List.length_cons] at inside cells
      have same : Function.update map (efuse_addr start) byte = map := by
        rw [efuse_addr_of_lt (by omega), blank byte List.mem_cons_self,
          ← cells start (Nat.le_refl _) (by omega), Function.update_eq_self]
      rw [burn_bytes, same]
      exact ih (by omega) (fun other member => blank other (List.mem_cons_of_mem _ member))
        (fun idx behind below => cells idx (by omega) (by omega))

theorem burn_torn_section {image : ByteMap} {efuse_end stored : Nat} (small : offset < 1024)
    (word : UInt8 × UInt8) (complete : hdr_len offset ≤ stored) (inside : efuse_end + (hdr_len offset + 2) ≤ 1024)
    (blank : ∀ idx, efuse_end ≤ idx -> idx < efuse_end + (hdr_len offset + 2) -> image idx = 0xff) :
    burn_bytes efuse_end ((log_section offset small word).bytes.take stored) image =
      burn_bytes efuse_end (log_section offset small (torn_word (hdr_len offset) stored word)).bytes image := by
  rcases Nat.exists_eq_add_of_le complete with ⟨more, rfl⟩
  have header : (log_section offset small (torn_word (hdr_len offset) (hdr_len offset + more) word)).hdr_bytes =
      (log_section offset small word).hdr_bytes := by
    rw [log_section_hdr_bytes, log_section_hdr_bytes]
  have length := length_hdr_bytes small word
  have torn := torn_take (log_section offset small word).hdr_bytes word more
  rw [length] at torn
  have whole := length_log_section small (torn_word (hdr_len offset) (hdr_len offset + more) word)
  rw [log_section_bytes, header] at whole
  rw [log_section_bytes, log_section_bytes, header, ← torn.1]
  -- the cells behind the stored bytes are blank, and so are the other bytes
  conv_rhs => rw [← List.take_append_drop (hdr_len offset + more)
    ((log_section offset small word).hdr_bytes ++
      [(torn_word (hdr_len offset) (hdr_len offset + more) word).1,
        (torn_word (hdr_len offset) (hdr_len offset + more) word).2])]
  rw [burn_bytes_append]
  symm
  apply burn_bytes_blank
  · rw [List.length_take, List.length_drop, whole]
    omega
  · exact torn.2
  · rw [List.length_take, List.length_drop, whole]
    intro idx behind below
    rw [burn_bytes_other (by rw [List.length_take, whole]; omega) (by rw [List.length_take, whole]; omega)]
    exact blank idx (by omega) (by omega)

/-- Every byte of the logical map outside the two words has its old value. -/
def KeepsOld (hw_info : HwCfgInfo) (old log_map : ByteMap) (offset1 offset2 : Nat) : Prop :=
  ∀ address, address < hw_info.eeprom_size -> address / 2 ≠ offset1 / 2 -> address / 2 ≠ offset2 / 2 ->
    log_map address = old address

/-- What a torn write may spoil: the parse still gives the second value, and the
old bytes outside the two words. -/
def LocalTo (hw_info : HwCfgInfo) (old : ByteMap) (offset1 offset2 : Nat) (value2 : UInt8) (image : ByteMap) : Prop :=
  ∃ reparse, eeprom_parser_88xx hw_info image = some reparse ∧
    reparse.log_map offset2 = value2 ∧ KeepsOld hw_info old reparse.log_map offset1 offset2

/-- The cells after a successful write of one logical byte. -/
def WrittenAs (hw_info : HwCfgInfo) (image : ByteMap) (final : ParserState) (offset : Nat)
    (small : offset < 1024) (value : UInt8) (after : ByteMap) : Prop :=
  (final.log_map offset = value ∧ after = image) ∨
    (final.log_map offset ≠ value ∧ final.efuse_idx + (hdr_len offset + 2) < hw_info.limit ∧
      after = burn_bytes final.efuse_idx
        (log_section offset small (log_word final.log_map offset value)).bytes image)

theorem log_section_inside {hw_info : HwCfgInfo} (small : offset < 1024)
    (inside : offset < hw_info.eeprom_size) (word : UInt8 × UInt8) :
    (log_section offset small word).Inside hw_info := by
  intro i _ bit
  have same := (log_section_testBit offset i).mp bit
  have even := hw_info.eeprom_even
  change 8 * (offset >>> 3) + 2 * i < _
  rw [same, blk_idx_eq, Nat.shiftRight_eq_div_pow]
  omega

theorem keepsOld_update {hw_info : HwCfgInfo} {old log_map : ByteMap} {offset1 offset2 : Nat} (value : UInt8) :
    KeepsOld hw_info old (Function.update log_map offset2 value) offset1 offset2 <->
      KeepsOld hw_info old log_map offset1 offset2 := by
  refine forall_congr' (fun address => imp_congr_right (fun _ => imp_congr_right (fun _ =>
    imp_congr_right (fun other => ?_))))
  have apart : address ≠ offset2 := fun same => other (congrArg (· / 2) same)
  rw [Function.update_of_ne apart]

section

variable {hw_info : HwCfgInfo} {image after old : ByteMap} {final : ParserState} {offset1 offset2 : Nat}
  {value2 : UInt8} {hdr : UInt8} {small2 : offset2 < 1024}

theorem localTo_unchanged (parsed : eeprom_parser_88xx hw_info image = some final)
    (there : final.log_map offset2 = value2) :
    LocalTo hw_info old offset1 offset2 value2 image <-> KeepsOld hw_info old final.log_map offset1 offset2 := by
  constructor
  · intro ⟨reparse, success, _, keeps⟩
    rw [parsed, Option.some.injEq] at success
    rw [success]
    exact keeps
  · intro keeps
    exact ⟨final, parsed, there, keeps⟩

theorem WrittenAs.appended (blank : ∀ idx, final.efuse_idx ≤ idx -> idx < hw_info.efuse_size -> image idx = 0xff)
    (differs : final.log_map offset2 ≠ value2) (written : WrittenAs hw_info image final offset2 small2 value2 after) :
    let sections := [log_section offset2 small2 (log_word final.log_map offset2 value2)]
    final.efuse_idx + (sections_bytes sections).length ≤ hw_info.limit ∧
      AppendedImage hw_info image final.efuse_idx (sections_bytes sections) after := by
  intro sections
  rcases written with ⟨there, _⟩ | ⟨_, room, burned⟩
  · exact absurd there differs
  · have large := hw_info.limit_add
    have cells := hw_info.efuse_size_le
    unfold PROTECT_EFUSE_SIZE at large
    have one : sections_bytes sections =
        (log_section offset2 small2 (log_word final.log_map offset2 value2)).bytes := List.append_nil _
    have length := length_log_section small2 (log_word final.log_map offset2 value2)
    rw [one, length, burned]
    exact ⟨Nat.le_of_lt room, burn_bytes_appended blank (by omega)⟩

theorem EndsBlank.reparse_written (ends : EndsBlank hw_info image final)
    (blank : ∀ idx, final.efuse_idx ≤ idx -> idx < hw_info.efuse_size -> image idx = 0xff)
    (inside2 : offset2 < hw_info.eeprom_size) (written : WrittenAs hw_info image final offset2 small2 value2 after) :
    exists idx, eeprom_parser_88xx hw_info after = some ⟨idx, Function.update final.log_map offset2 value2⟩ := by
  by_cases there : final.log_map offset2 = value2
  · rcases written with ⟨_, same⟩ | ⟨differs, _⟩
    · rw [same, ← there, Function.update_eq_self]
      exact ⟨final.efuse_idx, eeprom_parser_88xx_iff.mpr (Or.inl ends)⟩
    · exact absurd there differs
  · have appends := written.appended blank there
    have reparse := ends.reparse_fits appends.2
      (fun sec member => List.mem_singleton.mp member ▸ log_section_inside small2 inside2 _) appends.1
    change _ = some (ParserState.mk _ ((log_section offset2 small2 _).apply final.log_map)) at reparse
    rw [apply_log_section] at reparse
    exact ⟨_, reparse⟩

/-- Behind a dangling byte a write is read as it was meant if nothing is written, or the byte
is the one of block 0 and so is the offset. -/
theorem EndsDangling.reparse_written (ends : EndsDangling hw_info image hdr final)
    (blank : ∀ idx, final.efuse_idx ≤ idx -> idx < hw_info.efuse_size -> image idx = 0xff)
    (inside2 : offset2 < hw_info.eeprom_size) (written : WrittenAs hw_info image final offset2 small2 value2 after)
    (reads : final.log_map offset2 = value2 ∨ (hdr = 0x0F ∧ offset2 < 8)) :
    exists idx, eeprom_parser_88xx hw_info after = some ⟨idx, Function.update final.log_map offset2 value2⟩ := by
  by_cases there : final.log_map offset2 = value2
  · rcases written with ⟨_, same⟩ | ⟨differs, _⟩
    · rw [same, ← there, Function.update_eq_self]
      exact ⟨final.efuse_idx, eeprom_parser_88xx_iff.mpr (Or.inr ⟨hdr, ends⟩)⟩
    · exact absurd there differs
  · have appends := written.appended blank there
    rcases reads.resolve_left there with ⟨zero, first⟩
    rcases id ends with ⟨_, _, _, _, ext, _⟩
    have block : (log_section offset2 small2 (log_word final.log_map offset2 value2)).blk = offset2 / 8 :=
      Nat.shiftRight_eq_div_pow offset2 3
    have here := ((log_section offset2 small2 (log_word final.log_map offset2 value2)).misread_blk_eq_iff ext).mpr
      ⟨zero, by rw [block]; omega⟩
    have reparse := ends.reparse_fits appends.2
      (by rw [here]; exact log_section_inside small2 inside2 _) (fun _ member => nomatch member) appends.1
    rw [here] at reparse
    change _ = some (ParserState.mk _ ((log_section offset2 small2 _).apply final.log_map)) at reparse
    rw [apply_log_section] at reparse
    exact ⟨_, reparse⟩

theorem EndsDangling.reads_of_written (ends : EndsDangling hw_info image hdr final)
    (blank : ∀ idx, final.efuse_idx ≤ idx -> idx < hw_info.efuse_size -> image idx = 0xff)
    (written : WrittenAs hw_info image final offset2 small2 value2 after) {reparse : ParserState}
    (success : eeprom_parser_88xx hw_info after = some reparse) (value : reparse.log_map offset2 = value2) :
    final.log_map offset2 = value2 ∨ (hdr = 0x0F ∧ offset2 < 8) := by
  by_cases there : final.log_map offset2 = value2
  · exact Or.inl there
  · refine Or.inr ?_
    by_contra reads
    have appends := written.appended blank there
    rcases id ends with ⟨_, _, _, _, ext, _⟩
    have own := (log_section offset2 small2 (log_word final.log_map offset2 value2)).misread_blk_eq_iff ext
    have block : (log_section offset2 small2 (log_word final.log_map offset2 value2)).blk = offset2 / 8 :=
      Nat.shiftRight_eq_div_pow offset2 3
    have elsewhere : ¬ offset2 / 8 =
        (log_section offset2 small2 (log_word final.log_map offset2 value2)).misread_blk hdr := by
      intro same
      have at0 := own.mp (same.symm.trans block.symm)
      exact reads ⟨at0.1, by omega⟩
    rw [(ends.reparse_eq appends.2 success).1] at value
    change overlay _ _ _ _ offset2 = value2 at value
    rw [overlay, if_neg (fun here => elsewhere here.1)] at value
    exact there value

theorem localTo_of_update {idx : Nat}
    (parsed : eeprom_parser_88xx hw_info after = some ⟨idx, Function.update final.log_map offset2 value2⟩) :
    LocalTo hw_info old offset1 offset2 value2 after <-> KeepsOld hw_info old final.log_map offset1 offset2 := by
  rw [localTo_unchanged parsed (Function.update_self _ _ _)]
  exact keepsOld_update value2

theorem EndsBlank.localTo_iff (ends : EndsBlank hw_info image final)
    (blank : ∀ idx, final.efuse_idx ≤ idx -> idx < hw_info.efuse_size -> image idx = 0xff)
    (inside2 : offset2 < hw_info.eeprom_size) (written : WrittenAs hw_info image final offset2 small2 value2 after) :
    LocalTo hw_info old offset1 offset2 value2 after <->
      KeepsOld hw_info old final.log_map offset1 offset2 := by
  rcases ends.reparse_written blank inside2 written with ⟨_, reparse⟩
  exact localTo_of_update reparse

/-- Behind a dangling byte the second write is read as it was meant only if
nothing is written, or the byte is the one of block 0 and so is the offset. -/
theorem EndsDangling.localTo_iff (ends : EndsDangling hw_info image hdr final)
    (blank : ∀ idx, final.efuse_idx ≤ idx -> idx < hw_info.efuse_size -> image idx = 0xff)
    (inside2 : offset2 < hw_info.eeprom_size) (written : WrittenAs hw_info image final offset2 small2 value2 after) :
    LocalTo hw_info old offset1 offset2 value2 after <->
      KeepsOld hw_info old final.log_map offset1 offset2 ∧
        (final.log_map offset2 = value2 ∨ (hdr = 0x0F ∧ offset2 < 8)) := by
  constructor
  · intro local_
    rcases id local_ with ⟨reparse, success, value, _⟩
    have reads := ends.reads_of_written blank written success value
    rcases ends.reparse_written blank inside2 written reads with ⟨_, updated⟩
    exact ⟨(localTo_of_update updated).mp local_, reads⟩
  · intro ⟨keeps, reads⟩
    rcases ends.reparse_written blank inside2 written reads with ⟨_, updated⟩
    exact (localTo_of_update updated).mpr keeps

end

end Rtl8821ce
