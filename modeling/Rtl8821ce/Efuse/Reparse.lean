import Rtl8821ce.Efuse.Append

/-!
# Parsing a log that was appended to

Bytes behind the end of a log leave everything before them as it was, so the
parser comes back to the old end.  From there it reads the appended sections,
unless the old end stands behind a dangling header byte: then the first section
is taken for the words of another block.
-/

namespace Rtl8821ce

/-- Bytes were put behind the end of a log whose other cells are blank. -/
structure AppendedImage (hw_info : HwCfgInfo) (image : ByteMap) (efuse_end : Nat) (bytes : List UInt8)
    (appended : ByteMap) : Prop where
  kept : ∀ idx, idx < efuse_end -> appended idx = image idx
  holds : HoldsAt appended efuse_end bytes
  blank : ∀ idx, efuse_end + bytes.length ≤ idx -> idx < hw_info.efuse_size -> appended idx = 0xff

theorem burn_bytes_appended {hw_info : HwCfgInfo} {image : ByteMap} {efuse_end : Nat} {bytes : List UInt8}
    (blank : ∀ idx, efuse_end ≤ idx -> idx < hw_info.efuse_size -> image idx = 0xff)
    (small : efuse_end + bytes.length ≤ 1024) :
    AppendedImage hw_info image efuse_end bytes (burn_bytes efuse_end bytes image) where
  kept := fun idx below => burn_bytes_other small (Or.inl below)
  holds := burn_bytes_holds image small
  blank := by
    intro idx behind inside
    rw [burn_bytes_other small (Or.inr behind)]
    exact blank idx (by omega) inside

section

variable {hw_info : HwCfgInfo} {image appended : ByteMap} {final reparse : ParserState} {hdr : UInt8}
  {bytes : List UInt8} {sec : EfuseSection} {sections : List EfuseSection}

theorem EndsBlank.unique (ends : EndsBlank hw_info image final)
    (success : eeprom_parser_88xx hw_info image = some reparse) : reparse = final := by
  have both := success.symm.trans (eeprom_parser_88xx_iff.mpr (Or.inl ends))
  rw [Option.some.injEq] at both
  exact both

theorem EndsDangling.unique (ends : EndsDangling hw_info image hdr final)
    (success : eeprom_parser_88xx hw_info image = some reparse) : reparse = final := by
  have both := success.symm.trans (eeprom_parser_88xx_iff.mpr (Or.inr ⟨hdr, ends⟩))
  rw [Option.some.injEq] at both
  exact both

theorem EndsBlank.resume (ends : EndsBlank hw_info image final)
    (appends : AppendedImage hw_info image final.efuse_idx bytes appended) : ParsedTo hw_info appended final :=
  ends.1.congr appends.kept

theorem EndsDangling.resume (ends : EndsDangling hw_info image hdr final)
    (appends : AppendedImage hw_info image final.efuse_idx bytes appended) :
    ∃ idx, ParsedTo hw_info appended ⟨idx, final.log_map⟩ ∧ final.efuse_idx = idx + 1 ∧
      appended idx = hdr ∧ is_ext_hdr hdr = true := by
  rcases ends with ⟨idx, parsed, next, first, ext, _⟩
  refine ⟨idx, parsed.congr (fun other below => appends.kept other ?_), next, ?_, ext⟩
  · change other < idx at below
    omega
  · rw [appends.kept idx (by omega), first]

theorem eeprom_parser_idx_le (success : eeprom_parser_88xx hw_info image = some final) :
    final.efuse_idx ≤ hw_info.limit + 1 := by
  rcases eeprom_parser_88xx_iff.mp success with ends | ⟨hdr, idx, parsed, next, _⟩
  · exact Nat.le_succ_of_le ends.1.idx_le
  · have inside := parsed.idx_le
    change idx ≤ _ at inside
    omega

theorem ParsedTo.endsBlank {start : Nat} {log_map : ByteMap}
    (parsed : ParsedTo hw_info appended ⟨start + bytes.length, log_map⟩)
    (appends : AppendedImage hw_info image start bytes appended) :
    EndsBlank hw_info appended ⟨start + bytes.length, log_map⟩ := by
  have inside := parsed.idx_le
  have large := hw_info.limit_add
  change start + bytes.length ≤ _ at inside
  unfold PROTECT_EFUSE_SIZE at large
  exact ⟨parsed, appends.blank (start + bytes.length) (Nat.le_refl _) (by omega)⟩

theorem ParsedTo.stops {start : Nat} {log_map : ByteMap}
    (parsed : ParsedTo hw_info appended ⟨start + bytes.length, log_map⟩)
    (appends : AppendedImage hw_info image start bytes appended) :
    eeprom_parser_88xx hw_info appended = some ⟨start + bytes.length, log_map⟩ :=
  eeprom_parser_88xx_iff.mpr (Or.inl (parsed.endsBlank appends))

theorem EndsBlank.reparse_fits (ends : EndsBlank hw_info image final)
    (appends : AppendedImage hw_info image final.efuse_idx (sections_bytes sections) appended)
    (inside : ∀ sec ∈ sections, sec.Inside hw_info)
    (fits : final.efuse_idx + (sections_bytes sections).length ≤ hw_info.limit) :
    eeprom_parser_88xx hw_info appended =
      some ⟨final.efuse_idx + (sections_bytes sections).length, apply_sections sections final.log_map⟩ :=
  ((ends.resume appends).sections_fit appends.holds inside fits).stops appends

theorem EndsBlank.reparse_eq (ends : EndsBlank hw_info image final)
    (appends : AppendedImage hw_info image final.efuse_idx (sections_bytes sections) appended)
    (success : eeprom_parser_88xx hw_info appended = some reparse) :
    reparse = ⟨final.efuse_idx + (sections_bytes sections).length, apply_sections sections final.log_map⟩ ∧
      final.efuse_idx + (sections_bytes sections).length ≤ hw_info.limit := by
  have parsed := (ends.resume appends).sections appends.holds success
  have stops := parsed.stops appends
  rw [success, Option.some.injEq] at stops
  exact ⟨stops, parsed.idx_le⟩

theorem EndsDangling.reparse_fits (ends : EndsDangling hw_info image hdr final)
    (appends : AppendedImage hw_info image final.efuse_idx (sections_bytes (sec :: sections)) appended)
    (first : ∀ i, i < 4 -> sec.enabled.testBit i = true ->
      8 * sec.misread_blk hdr + 2 * i < hw_info.eeprom_size)
    (inside : ∀ sec ∈ sections, sec.Inside hw_info)
    (fits : final.efuse_idx + (sections_bytes (sec :: sections)).length ≤ hw_info.limit) :
    eeprom_parser_88xx hw_info appended =
      some ⟨final.efuse_idx + (sections_bytes (sec :: sections)).length,
        apply_sections sections (overlay (sec.misread_blk hdr) sec.enabled sec.data final.log_map)⟩ := by
  rcases ends.resume appends with ⟨idx, parsed, next, cell, ext⟩
  have parts := appends.holds
  rw [sections_bytes_cons, holdsAt_append, next] at parts
  rw [sections_bytes_cons, List.length_append, next, ← Nat.add_assoc] at fits
  have head := parsed.misread_fit sec ext cell parts.1 first (by omega)
  have whole := head.sections_fit parts.2 inside fits
  have same : idx + 1 + sec.bytes.length + (sections_bytes sections).length =
      final.efuse_idx + (sections_bytes (sec :: sections)).length := by
    rw [sections_bytes_cons, List.length_append, next, Nat.add_assoc (idx + 1)]
  rw [same] at whole
  exact whole.stops appends

theorem EndsDangling.passes (ends : EndsDangling hw_info image hdr final)
    (appends : AppendedImage hw_info image final.efuse_idx (sections_bytes (sec :: sections)) appended)
    (success : eeprom_parser_88xx hw_info appended = some reparse) :
    ParsedTo hw_info appended ⟨final.efuse_idx + (sections_bytes (sec :: sections)).length,
      apply_sections sections (overlay (sec.misread_blk hdr) sec.enabled sec.data final.log_map)⟩ := by
  rcases ends.resume appends with ⟨idx, parsed, next, cell, ext⟩
  have parts := appends.holds
  rw [sections_bytes_cons, holdsAt_append, next] at parts
  have head := parsed.misread sec ext cell parts.1 success
  have whole := head.sections parts.2 success
  have same : idx + 1 + sec.bytes.length + (sections_bytes sections).length =
      final.efuse_idx + (sections_bytes (sec :: sections)).length := by
    rw [sections_bytes_cons, List.length_append, next, Nat.add_assoc (idx + 1)]
  rw [same] at whole
  exact whole

theorem EndsDangling.reparse_eq (ends : EndsDangling hw_info image hdr final)
    (appends : AppendedImage hw_info image final.efuse_idx (sections_bytes (sec :: sections)) appended)
    (success : eeprom_parser_88xx hw_info appended = some reparse) :
    reparse = ⟨final.efuse_idx + (sections_bytes (sec :: sections)).length,
        apply_sections sections (overlay (sec.misread_blk hdr) sec.enabled sec.data final.log_map)⟩ ∧
      final.efuse_idx + (sections_bytes (sec :: sections)).length ≤ hw_info.limit := by
  have whole := ends.passes appends success
  have stops := whole.stops appends
  rw [success, Option.some.injEq] at stops
  exact ⟨stops, whole.idx_le⟩

theorem eeprom_parser_unchanged (success : eeprom_parser_88xx hw_info image = some final)
    (appends : AppendedImage hw_info image final.efuse_idx [] appended) :
    eeprom_parser_88xx hw_info appended = some final := by
  have bound := eeprom_parser_idx_le success
  have large := hw_info.limit_add
  unfold PROTECT_EFUSE_SIZE at large
  have cell : appended final.efuse_idx = 0xff := appends.blank _ (Nat.le_refl _) (by omega)
  rcases eeprom_parser_88xx_iff.mp success with ends | ⟨hdr, ends⟩
  · exact eeprom_parser_88xx_iff.mpr (Or.inl ⟨ends.resume appends, cell⟩)
  · rcases ends.resume appends with ⟨idx, parsed, next, first, ext⟩
    rw [next] at cell
    exact eeprom_parser_88xx_iff.mpr (Or.inr ⟨hdr, idx, parsed, next, first, ext, cell⟩)

end

namespace EfuseSection

theorem exists_word (sec : EfuseSection) : ∃ i, i < 4 ∧ sec.enabled.testBit i = true := by
  have finite : ∀ enabled : Fin 16, 0 < enabled.val ->
      ∃ i : Fin 4, enabled.val.testBit i = true := by decide
  rcases finite ⟨sec.enabled, sec.enabled_lt⟩ sec.enabled_pos with ⟨i, bit⟩
  exact ⟨i, i.isLt, bit⟩

/-- Only behind the dangling byte of block 0, block 0 is read as itself. -/
theorem misread_blk_eq_iff {hdr : UInt8} (ext : is_ext_hdr hdr = true) (sec : EfuseSection) :
    sec.misread_blk hdr = sec.blk <-> hdr = 0x0F ∧ sec.blk = 0 := by
  unfold misread_blk
  constructor
  · intro same
    split_ifs at same with low
    · have zero : hdr.toNat / 32 = 0 := by omega
      have header := ext_hdr_of_is_ext ext
      rw [zero] at header
      exact ⟨header, by omega⟩
    · omega
  · intro ⟨header, block⟩
    rw [header, block]
    decide

end EfuseSection

end Rtl8821ce
