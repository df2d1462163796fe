import Rtl8821ce.Efuse.Reparse
import Rtl8821ce.Efuse.UpdatedMask

/-!
# Programming by map, from end to end

A successful `pg_efuse_by_map_88xx` appends the planned sections.  What a later
parse makes of them depends on two things that the code does not look at: the
sections may be longer than the space check has counted, and the old end may
stand behind a dangling header byte.  Exactly when neither matters does the
parse give the masked map, and `efuse_end` its end.
-/

namespace Rtl8821ce

open Program (Keeps Maintains)

variable {log_map : ByteMap} {sec : EfuseSection}

theorem efuse_command_ok {α : Type} {checks : HalmacM Unit} {accepted : HalmacAdapter -> Prop} {bank : Nat}
    {work : HalmacM α} {before after : HalmacAdapter} {result : α}
    (guards : Guards checks (fun state => accepted state ∧ NotStuck state)) (keeps : Keeps HalmacAdapter.states work)
    (success : efuse_command checks bank work before = (.ok result, after)) :
    accepted before ∧ ∃ last,
      work (before.switched bank) = (.ok result, last) ∧ after = { last with cmd_cnstr_state := .IDLE } := by
  rcases Program.bind_eq_ok.mp success with ⟨_, checked, passed, success⟩
  rcases (guards.2 before checked).mp passed with ⟨ready, same⟩
  rcases Program.bind_eq_ok.mp success with ⟨_, switched, ran, success⟩
  rw [same] at ran
  have moved : switched = before.switched bank := by
    by_cases switches : BankSwitches before bank
    · rw [switch_efuse_bank_of_switches ready.2.1 switches, Prod.mk.injEq] at ran
      exact ran.2.symm
    · rcases switch_efuse_bank_of_refused ready.2.1 switches with ⟨code, stuck, failed, _⟩
      rw [failed] at ran
      cases ran
  rw [moved] at success
  rcases Program.bind_eq_ok.mp success with ⟨value, last, worked, success⟩
  have kept := keeps (before.switched bank)
  rw [worked, switched_states, HalmacAdapter.states, Prod.mk.injEq] at kept
  rw [Program.bind_of_ok (cnv_efuse_state_idle (Or.inl kept.1)), Program.pure_apply, Prod.mk.injEq,
    Except.ok.injEq] at success
  refine ⟨ready.1, last, ?_, success.2.symm⟩
  rw [worked, success.1]

theorem switched_onWifi {before : HalmacAdapter} (coherent : Coherent before) :
    OnWifi (before.switched HALMAC_EFUSE_BANK_WIFI) := by
  unfold HalmacAdapter.switched
  split_ifs with same
  · exact ⟨same.symm, coherent⟩
  · exact ⟨rfl, coherent⟩

theorem switched_hardware (before : HalmacAdapter) (bank : Nat) :
    (before.switched bank).hardware =
      (before.hw_cfg_info, bank, before.cells, before.written, before.platform) := by
  unfold HalmacAdapter.switched
  split_ifs with same
  · rw [same]
    rfl
  · rfl

/-- What a successful programming by map has done to the adapter. -/
structure AppendedByMap (info : HalmacPgEfuseInfo) (final : ParserState) (bytes : List UInt8)
    (before after : HalmacAdapter) : Prop where
  checked : info.Checked before.hw_cfg_info
  parsed : eeprom_parser_88xx before.hw_cfg_info before.wifi_map = some final
  written : after.written = before.written ++ numbered final.efuse_idx bytes
  wifi_map : before.platform.Storing -> after.wifi_map = burn_bytes final.efuse_idx bytes before.wifi_map
  efuse_end : after.efuse_end = final.efuse_idx + bytes.length
  room : final.efuse_idx < before.hw_cfg_info.limit

def programmed (info : HalmacPgEfuseInfo) (log_map : ByteMap) : List EfuseSection :=
  planned info (updated_mask_of info log_map)

theorem update_eeprom_mask_ok {info : HalmacPgEfuseInfo} {before after : HalmacAdapter} {mask : ByteMap}
    (onWifi : OnWifi before) (success : update_eeprom_mask_88xx info before = (.ok mask, after)) :
    after.hardware = before.hardware ∧
      ∃ final, eeprom_parser_88xx before.hw_cfg_info before.wifi_map = some final ∧
        mask = updated_mask_of info final.log_map ∧ after.efuse_end = final.efuse_idx := by
  rcases Program.bind_eq_ok.mp success with ⟨_, allocated, ran, success⟩
  have still := pltfm_malloc_onWifi before onWifi
  have kept := pltfm_malloc_keeps hardware_ignores_reads before
  rw [ran] at still kept
  rcases Program.bind_eq_ok.mp success with ⟨map, read, readRan, success⟩
  have readKept := read_log_efuse_map_keeps hardware_ignores_reads allocated
  rw [readRan] at readKept
  rw [Program.pure_apply, Prod.mk.injEq, Except.ok.injEq] at success
  rcases read_log_efuse_map_ok still readRan with ⟨final, parsed, same, efuse_end⟩
  have hw_info : allocated.hw_cfg_info = before.hw_cfg_info := congrArg Prod.fst kept
  have wifi : allocated.wifi_map = before.wifi_map :=
    congrFun (congrArg (fun view => view.2.2.1) kept) HALMAC_EFUSE_BANK_WIFI
  rw [hw_info, wifi] at parsed
  rw [← success.2, ← success.1, same]
  exact ⟨readKept.trans kept, final, parsed, rfl, efuse_end⟩

theorem pg_efuse_by_map_ok {info : HalmacPgEfuseInfo} {cfg : EfuseReadCfg} {before after : HalmacAdapter}
    (coherent : Coherent before) (success : pg_efuse_by_map_88xx info cfg before = (.ok (), after)) :
    ∃ final, AppendedByMap info final (sections_bytes (programmed info final.log_map)) before after := by
  rcases efuse_command_ok (guards_check_pg_efuse info) (proc_pg_efuse_by_map_keeps info) success
    with ⟨checked, last, worked, moved⟩
  have small : info.efuse_map_size ≤ 1024 := checked.map_size.symm ▸ before.hw_cfg_info.eeprom_size_le
  have start := switched_hardware before HALMAC_EFUSE_BANK_WIFI
  rcases Program.bind_eq_ok.mp worked with ⟨_, allocated, ran, worked⟩
  have onWifi := pltfm_malloc_onWifi _ (switched_onWifi coherent)
  have kept := pltfm_malloc_keeps hardware_ignores_reads (before.switched HALMAC_EFUSE_BANK_WIFI)
  rw [ran] at onWifi kept
  rcases Program.bind_eq_ok.mp worked with ⟨mask, masked, maskRan, worked⟩
  rcases update_eeprom_mask_ok onWifi maskRan with ⟨maskKept, final, parsed, mask_eq, efuse_end⟩
  rcases Program.bind_eq_ok.mp worked with ⟨_, enough, enoughRan, programRan⟩
  rw [(check_efuse_enough_room enoughRan).1, mask_eq] at programRan
  have same : masked.hardware = (before.hw_cfg_info, HALMAC_EFUSE_BANK_WIFI, before.cells, before.written,
      before.platform) := maskKept.trans (kept.trans start)
  have asBefore : allocated.hardware = (before.hw_cfg_info, HALMAC_EFUSE_BANK_WIFI, before.cells,
      before.written, before.platform) := kept.trans start
  simp only [HalmacAdapter.hardware, Prod.mk.injEq] at same asBefore
  rw [asBefore.1, HalmacAdapter.wifi_map, asBefore.2.2.1] at parsed
  have room := (check_efuse_enough_room enoughRan).2
  rw [same.1, efuse_end] at room
  refine ⟨final, checked, parsed, ?_, ?_, ?_, by omega⟩
  all_goals
    have programs := program_efuse_programs info small (updated_mask_of info final.log_map) masked
    rw [moved]
  · rcases programs.1 with ⟨_, end_, wrote, appended⟩ | ⟨_, _, _, _, failed, _⟩
    · rw [programRan, Prod.mk.injEq] at wrote
      rw [wrote.2]
      change end_.written = _
      rw [appended.written, same.2.2.2.1, efuse_end]
      rfl
    · rw [programRan] at failed
      cases failed
  · intro storing
    rcases programs.1 with ⟨_, end_, wrote, appended⟩ | ⟨_, _, _, _, failed, _⟩
    · rw [programRan, Prod.mk.injEq] at wrote
      rw [wrote.2]
      change end_.cells HALMAC_EFUSE_BANK_WIFI = _
      rw [appended.cells (same.2.2.2.2.symm ▸ storing), same.2.1, Function.update_self, HalmacAdapter.phy_map,
        same.2.1, same.2.2.1, efuse_end]
      rfl
    · rw [programRan] at failed
      cases failed
  · change last.efuse_end = _
    rw [programs.2 last programRan, efuse_end]
    rfl

/-- What programming by map is for: the parse gives the masked map and ends
where the adapter says, and no cell before the old end was written. -/
structure ProgrammedByMap (info : HalmacPgEfuseInfo) (final : ParserState) (before after : HalmacAdapter) :
    Prop where
  reparsed : ∃ reparse,
    eeprom_parser_88xx before.hw_cfg_info after.wifi_map = some reparse ∧
      reparse.efuse_idx = after.efuse_end ∧
      ∀ address, address < before.hw_cfg_info.eeprom_size ->
        reparse.log_map address = masked_map info final.log_map address
  untouched : ∃ entries, after.written = before.written ++ entries ∧
    ∀ entry ∈ entries, final.efuse_idx ≤ efuse_addr entry.1

/-- The sections fit below the limit, and do not stand behind a dangling header
byte that makes the parser take the first of them for another block. -/
structure Appendable (hw_info : HwCfgInfo) (image : ByteMap) (final : ParserState)
    (sections : List EfuseSection) : Prop where
  fits : final.efuse_idx + (sections_bytes sections).length ≤ hw_info.limit
  firstReads : ∀ hdr, EndsDangling hw_info image hdr final ->
    ∀ sec rest, sections = sec :: rest -> hdr = 0x0F ∧ sec.blk = 0

theorem programmed_word_differs {info : HalmacPgEfuseInfo} (rows : info.efuse_map_size % 16 = 0) (member : sec ∈ programmed info log_map) {i : Nat} (small : i < 4)
    (bit : sec.enabled.testBit i = true) :
    word_enabled info.mask (8 * sec.blk + 2 * i) = true ∧
      ¬ (info.map (8 * sec.blk + 2 * i) = log_map (8 * sec.blk + 2 * i) ∧
        info.map (8 * sec.blk + 2 * i + 1) = log_map (8 * sec.blk + 2 * i + 1)) := by
  have origin := mem_planned member
  rw [origin.2] at bit
  exact (updated_mask_testBit rows log_map origin.1 small).mp bit

theorem misread_first_kept {info : HalmacPgEfuseInfo} {hdr : UInt8}
    {rest : List EfuseSection} (plan : programmed info log_map = sec :: rest)
    (moved : sec.misread_blk hdr ≠ sec.blk) {address : Nat} (block : address / 8 = sec.blk) :
    apply_sections rest (overlay (sec.misread_blk hdr) sec.enabled sec.data log_map) address =
      log_map address := by
  have increasing := planned_increasing info (updated_mask_of info log_map)
  change (programmed info log_map).Pairwise _ at increasing
  rw [plan, List.pairwise_cons] at increasing
  rw [apply_sections_other]
  · rw [overlay, if_neg]
    rintro ⟨same, _⟩
    exact moved (same.symm.trans block)
  · rintro other member ⟨same, _⟩
    have later := increasing.1 other member
    omega

/-- A misread first section leaves a word that is asked for as it was, and so it is not the
word of the masked map. -/
theorem misread_first_wrong {info : HalmacPgEfuseInfo} {hw_info : HwCfgInfo} {hdr : UInt8} {rest : List EfuseSection}
    (size : info.efuse_map_size = hw_info.eeprom_size) (rows : info.efuse_map_size % 16 = 0)
    (plan : programmed info log_map = sec :: rest) (moved : sec.misread_blk hdr ≠ sec.blk)
    (map : ∀ address, address < hw_info.eeprom_size ->
      apply_sections rest (overlay (sec.misread_blk hdr) sec.enabled sec.data log_map) address =
        masked_map info log_map address) : False := by
  rcases sec.exists_word with ⟨i, word, bit⟩
  have member : sec ∈ programmed info log_map := plan ▸ List.mem_cons_self
  have differs := programmed_word_differs rows member word bit
  have origin := (mem_planned member).1
  have kept : ∀ address, address / 8 = sec.blk ->
      word_enabled info.mask address = true -> info.map address = log_map address := by
    intro address block enabled
    have asked := map address (by omega)
    rw [masked_map, if_pos enabled] at asked
    rw [← asked]
    exact misread_first_kept plan moved block
  have second : word_enabled info.mask (8 * sec.blk + 2 * i + 1) = true := by
    rw [word_enabled, show (8 * sec.blk + 2 * i + 1) / 16 = (8 * sec.blk + 2 * i) / 16 by omega,
      show (8 * sec.blk + 2 * i + 1) % 16 / 2 = (8 * sec.blk + 2 * i) % 16 / 2 by omega]
    exact differs.1
  exact differs.2 ⟨kept _ (by omega) differs.1, kept _ (by omega) second⟩

section

variable {info : HalmacPgEfuseInfo} {final : ParserState} {before after : HalmacAdapter}

theorem AppendedByMap.rows {bytes : List UInt8} (ran : AppendedByMap info final bytes before after) :
    info.efuse_map_size % 16 = 0 := by
  have mask := ran.checked.rows
  rw [Nat.and_two_pow_sub_one_eq_mod _ 4] at mask
  omega

theorem ProgrammedByMap.appendable
    (ran : AppendedByMap info final (sections_bytes (programmed info final.log_map)) before after)
    (storing : before.platform.Storing)
    (blank : ∀ idx, final.efuse_idx ≤ idx -> idx < before.hw_cfg_info.efuse_size ->
      before.wifi_map idx = 0xff)
    (correct : ProgrammedByMap info final before after) :
    Appendable before.hw_cfg_info before.wifi_map final (programmed info final.log_map) := by
  have large := before.hw_cfg_info.limit_add
  have cells := before.hw_cfg_info.efuse_size_le
  unfold PROTECT_EFUSE_SIZE at large
  rcases correct.reparsed with ⟨reparse, success, end_, map⟩
  rw [ran.efuse_end] at end_
  have bound := eeprom_parser_idx_le success
  rw [ran.wifi_map storing] at success
  have appended := @burn_bytes_appended _ _ _ (sections_bytes (programmed info final.log_map)) blank
    (by omega)
  refine ⟨?_, ?_⟩
  · rcases eeprom_parser_88xx_iff.mp ran.parsed with ends | ⟨hdr, ends⟩
    · exact (ends.reparse_eq appended success).2
    · cases plan : programmed info final.log_map with
      | nil =>
          exact Nat.le_of_lt ran.room
      | cons sec rest =>
          rw [plan] at appended success
          exact (ends.reparse_eq appended success).2
  · intro hdr ends sec rest plan
    rw [plan] at appended success
    rw [(ends.reparse_eq appended success).1] at map
    rcases ends with ⟨_, _, _, _, ext, _⟩
    rw [← sec.misread_blk_eq_iff ext]
    by_contra moved
    exact misread_first_wrong ran.checked.map_size ran.rows plan moved map

theorem Appendable.programmedByMap
    (ran : AppendedByMap info final (sections_bytes (programmed info final.log_map)) before after)
    (storing : before.platform.Storing)
    (blank : ∀ idx, final.efuse_idx ≤ idx -> idx < before.hw_cfg_info.efuse_size ->
      before.wifi_map idx = 0xff)
    (appendable : Appendable before.hw_cfg_info before.wifi_map final (programmed info final.log_map)) :
    ProgrammedByMap info final before after := by
  have size := ran.checked.map_size
  have small : info.efuse_map_size ≤ 1024 := size.symm ▸ before.hw_cfg_info.eeprom_size_le
  have large := before.hw_cfg_info.limit_add
  have cells := before.hw_cfg_info.efuse_size_le
  unfold PROTECT_EFUSE_SIZE at large
  have fits := appendable.fits
  have inside : ∀ sec ∈ programmed info final.log_map, sec.Inside before.hw_cfg_info :=
    fun sec member => planned_inside size ran.rows member
  have target : ∀ address, address < before.hw_cfg_info.eeprom_size ->
      apply_sections (programmed info final.log_map) final.log_map address =
        masked_map info final.log_map address :=
    fun address below => apply_planned small ran.rows final.log_map (size.symm ▸ below)
  have appended := @burn_bytes_appended _ _ _ (sections_bytes (programmed info final.log_map)) blank
    (by omega)
  refine ⟨?_, ?_⟩
  · have reparse : eeprom_parser_88xx before.hw_cfg_info after.wifi_map =
        some ⟨final.efuse_idx + (sections_bytes (programmed info final.log_map)).length,
          apply_sections (programmed info final.log_map) final.log_map⟩ := by
      rw [ran.wifi_map storing]
      rcases eeprom_parser_88xx_iff.mp ran.parsed with ends | ⟨hdr, ends⟩
      · exact ends.reparse_fits appended inside fits
      · cases plan : programmed info final.log_map with
        | nil =>
            rw [plan] at appended
            exact eeprom_parser_unchanged ran.parsed appended
        | cons sec rest =>
            rcases id ends with ⟨_, _, _, _, ext, _⟩
            have own := (sec.misread_blk_eq_iff ext).mpr (appendable.firstReads hdr ends sec rest plan)
            rw [plan] at appended fits
            rw [ends.reparse_fits appended ?_ ?_ fits, own]
            · rfl
            · rw [own]
              exact inside sec (plan ▸ List.mem_cons_self)
            · exact fun other member => inside other (plan ▸ List.mem_cons_of_mem _ member)
    exact ⟨_, reparse, ran.efuse_end.symm, target⟩
  · refine ⟨_, ran.written, fun entry member => ?_⟩
    have range := mem_numbered member
    rw [efuse_addr_of_lt (by omega)]
    exact range.1

end

/-- Programming by map does what it is for exactly when the programmed sections
can be appended to the log as it is. -/
theorem pg_efuse_by_map_correct_iff {info : HalmacPgEfuseInfo} {cfg : EfuseReadCfg}
    {before after : HalmacAdapter} {final : ParserState} (coherent : Coherent before)
    (storing : before.platform.Storing) (parsed : eeprom_parser_88xx before.hw_cfg_info before.wifi_map = some final)
    (blank : ∀ idx, final.efuse_idx ≤ idx -> idx < before.hw_cfg_info.efuse_size ->
      before.wifi_map idx = 0xff)
    (success : pg_efuse_by_map_88xx info cfg before = (.ok (), after)) :
    ProgrammedByMap info final before after <->
      Appendable before.hw_cfg_info before.wifi_map final (programmed info final.log_map) := by
  rcases pg_efuse_by_map_ok coherent success with ⟨found, ran⟩
  have same : found = final := by
    have both := ran.parsed.symm.trans parsed
    rw [Option.some.injEq] at both
    exact both
  rw [same] at ran
  exact ⟨fun correct => correct.appendable ran storing blank,
    fun appendable => appendable.programmedByMap ran storing blank⟩

/-- A target of zeros whose mask asks for the first word only. -/
def HalmacPgEfuseInfo.firstWord : HalmacPgEfuseInfo where
  efuse_map := some (fun _ => 0x00)
  efuse_map_size := 512
  efuse_mask := some (fun row => if row = 0 then 0x10 else 0x00)
  efuse_mask_size := 32

/-- Programming the first word of a blank efuse. -/
theorem firstWord_programmedByMap :
    ProgrammedByMap .firstWord ⟨0, ByteMap.blank⟩ (HalmacAdapter.blank8821c 0)
      (pg_efuse_by_map_88xx .firstWord .DRV (HalmacAdapter.blank8821c 0)).2 := by
  have coherent : Coherent (HalmacAdapter.blank8821c 0) := fun valid => absurd valid Bool.false_ne_true
  have parsed : eeprom_parser_88xx .of8821c (HalmacAdapter.blank8821c 0).wifi_map =
      some ⟨0, ByteMap.blank⟩ :=
    eeprom_parser_88xx_iff.mpr (Or.inl ⟨Relation.ReflTransGen.refl, rfl⟩)
  have done : (pg_efuse_by_map_88xx .firstWord .DRV (HalmacAdapter.blank8821c 0)).1 = .ok () := by
    decide +kernel
  have success : pg_efuse_by_map_88xx .firstWord .DRV (HalmacAdapter.blank8821c 0) =
      (.ok (), (pg_efuse_by_map_88xx .firstWord .DRV (HalmacAdapter.blank8821c 0)).2) := by
    rw [← done]
  have fits : 0 + (sections_bytes (programmed .firstWord ByteMap.blank)).length ≤ HwCfgInfo.of8821c.limit := by
    decide +kernel
  have appendable : Appendable .of8821c (HalmacAdapter.blank8821c 0).wifi_map ⟨0, ByteMap.blank⟩
      (programmed .firstWord ByteMap.blank) := by
    refine ⟨fits, ?_⟩
    intro hdr ⟨idx, _, impossible, _⟩
    cases impossible
  exact (pg_efuse_by_map_correct_iff coherent Platform.willing_storing parsed (fun _ _ _ => rfl) success).mpr
    appendable

/-- An 8821C whose efuse holds the first byte of an extended header, of a block
that is 1 modulo 8, and is blank otherwise. -/
def HalmacAdapter.dangling8821c : HalmacAdapter :=
  { HalmacAdapter.blank8821c 0 with cells := fun _ => Function.update ByteMap.blank 0 0x2F }

/-- Behind a dangling header byte a successful call leaves the word as it was,
and overwrites the first word of block 1. -/
theorem firstWord_misplaced_behind_dangling :
    ¬ ∀ (info : HalmacPgEfuseInfo) (cfg : EfuseReadCfg) (before after : HalmacAdapter)
      (final : ParserState), Coherent before -> before.platform.Storing ->
        eeprom_parser_88xx before.hw_cfg_info before.wifi_map = some final ->
        (∀ idx, final.efuse_idx ≤ idx -> idx < before.hw_cfg_info.efuse_size ->
          before.wifi_map idx = 0xff) ->
        pg_efuse_by_map_88xx info cfg before = (.ok (), after) -> ProgrammedByMap info final before after := by
  intro correct
  have done : (pg_efuse_by_map_88xx .firstWord .DRV HalmacAdapter.dangling8821c).1 = .ok () := by
    decide +kernel
  have dangling : eeprom_parser_88xx .of8821c HalmacAdapter.dangling8821c.wifi_map =
      some ⟨1, ByteMap.blank⟩ :=
    eeprom_parser_88xx_iff.mpr (Or.inr ⟨0x2F, 0, Relation.ReflTransGen.refl, rfl, rfl, rfl, rfl⟩)
  have blank : ∀ idx, 1 ≤ idx -> idx < 512 -> HalmacAdapter.dangling8821c.wifi_map idx = 0xff :=
    fun idx behind _ => Function.update_of_ne (Nat.ne_of_gt behind) _ _
  have success : pg_efuse_by_map_88xx .firstWord .DRV HalmacAdapter.dangling8821c =
      (.ok (), (pg_efuse_by_map_88xx .firstWord .DRV HalmacAdapter.dangling8821c).2) := by
    rw [← done]
  have coherent : Coherent HalmacAdapter.dangling8821c := fun valid => absurd valid Bool.false_ne_true
  have programmed := correct .firstWord .DRV HalmacAdapter.dangling8821c _ ⟨1, ByteMap.blank⟩
    coherent Platform.willing_storing dangling blank success
  rcases programmed.reparsed with ⟨reparse, found, _, map⟩
  have asked : reparse.log_map 0 = 0x00 := map 0 (by decide)
  have read : (eeprom_parser_88xx .of8821c
      (pg_efuse_by_map_88xx .firstWord .DRV HalmacAdapter.dangling8821c).2.wifi_map).map
        (fun state => state.log_map 0) = some 0xFF := by
    decide +kernel
  have both := (congrArg (Option.map (fun state : ParserState => state.log_map 0)) found).symm.trans read
  rw [Option.map_some, asked] at both
  exact absurd both (by decide)

end Rtl8821ce
