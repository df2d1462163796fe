import Rtl8821ce.Efuse.TornImage
import Rtl8821ce.Efuse.CachedMap

/-!
# A torn write and the write behind it

A write of one logical byte is cut after some of its bytes, and a later write
succeeds.  Whether the damage stays in the two words depends on dangling header
bytes: the one that a cut inside an extended header leaves, and one that the log
may have ended with before.
-/

namespace Rtl8821ce

/-- The cells after a cut write of one logical byte. -/
structure TornAs (hw_info : HwCfgInfo) (image : ByteMap) (final : ParserState) (offset : Nat)
    (small : offset < 1024) (word : UInt8 × UInt8) (stored : Nat) (torn : ByteMap) : Prop where
  most : stored ≤ hdr_len offset + 2
  room : 0 < stored -> final.efuse_idx + (hdr_len offset + 2) < hw_info.limit
  cells : torn = burn_bytes final.efuse_idx ((log_section offset small word).bytes.take stored) image

/-- Behind a log that ends in order, a cut inside the extended header is harmless
only if the later write is nothing, or both headers are of blocks that agree. -/
def CutBehindBlank (final : ParserState) (offset1 stored offset2 : Nat) (value2 : UInt8) : Prop :=
  offset1 > 0x7f -> stored = 1 ->
    final.log_map offset2 = value2 ∨ (offset1 / 8 % 8 = 0 ∧ offset2 < 8)

/-- Behind a log that ends with a dangling byte, a cut before the first byte
leaves the dangling byte to the later write; and a cut behind the header puts
the torn word into another block, which is harmless only if that word is one of
the two or has these bytes already. -/
structure CutBehindDangling (hw_info : HwCfgInfo) (hdr : UInt8) (final : ParserState) (offset1 : Nat)
    (small1 : offset1 < 1024) (word1 : UInt8 × UInt8) (stored offset2 : Nat) (value2 : UInt8) : Prop where
  nothing : stored = 0 -> final.log_map offset2 = value2 ∨ (hdr = 0x0F ∧ offset2 < 8)
  misplaced : hdr_len offset1 ≤ stored -> ∀ address, address < hw_info.eeprom_size ->
    address / 2 = 4 * (log_section offset1 small1 word1).misread_blk hdr + blk_idx offset1 ->
      address / 2 ≠ offset1 / 2 -> address / 2 ≠ offset2 / 2 ->
        (if address % 2 = 0 then (torn_word (hdr_len offset1) stored word1).1
          else (torn_word (hdr_len offset1) stored word1).2) = final.log_map address

section

variable {hw_info : HwCfgInfo} {image torn after : ByteMap} {final final1 : ParserState}
  {offset1 offset2 stored : Nat} {value2 : UInt8} {hdr : UInt8} {small1 : offset1 < 1024}
  {small2 : offset2 < 1024} {word1 : UInt8 × UInt8}

theorem hdr_len_cases (offset : Nat) : (offset > 0x7f ∧ hdr_len offset = 2) ∨
    (¬ offset > 0x7f ∧ hdr_len offset = 1) := by
  unfold hdr_len
  by_cases high : offset > 0x7f
  · exact Or.inl ⟨high, if_pos high⟩
  · exact Or.inr ⟨high, if_neg high⟩

theorem TornAs.appended (cut : TornAs hw_info image final offset1 small1 word1 stored torn)
    (blank : ∀ idx, final.efuse_idx ≤ idx -> idx < hw_info.efuse_size -> image idx = 0xff)
    (complete : hdr_len offset1 ≤ stored) :
    AppendedImage hw_info image final.efuse_idx
      (sections_bytes [log_section offset1 small1 (torn_word (hdr_len offset1) stored word1)]) torn := by
  have header := hdr_len_cases offset1
  have room := cut.room (by omega)
  have large := hw_info.limit_add
  have cells := hw_info.efuse_size_le
  unfold PROTECT_EFUSE_SIZE at large
  have length := length_log_section small1 (torn_word (hdr_len offset1) stored word1)
  have one : sections_bytes [log_section offset1 small1 (torn_word (hdr_len offset1) stored word1)] =
      (log_section offset1 small1 (torn_word (hdr_len offset1) stored word1)).bytes := List.append_nil _
  rw [cut.cells, burn_torn_section small1 word1 complete (by omega)
    (fun idx behind below => blank idx behind (by omega)), one]
  exact burn_bytes_appended blank (by omega)

theorem TornAs.header (cut : TornAs hw_info image final offset1 small1 word1 stored torn)
    (blank : ∀ idx, final.efuse_idx ≤ idx -> idx < hw_info.efuse_size -> image idx = 0xff)
    (high : offset1 > 0x7f) (one : stored = 1) :
    AppendedImage hw_info image final.efuse_idx [ext_hdr (offset1 >>> 3)] torn := by
  have room := cut.room (by omega)
  have large := hw_info.limit_add
  have cells := hw_info.efuse_size_le
  unfold PROTECT_EFUSE_SIZE at large
  have first : (log_section offset1 small1 word1).bytes.take 1 = [ext_hdr (offset1 >>> 3)] := by
    rw [log_section_bytes, log_section_hdr_bytes, if_pos high]
    rfl
  rw [cut.cells, one, first]
  exact burn_bytes_appended blank (by change final.efuse_idx + 1 ≤ _; omega)

theorem TornAs.unchanged (cut : TornAs hw_info image final offset1 small1 word1 stored torn)
    (none : stored = 0) : torn = image := by
  rw [cut.cells, none, List.take_zero]
  rfl

theorem is_ext_hdr_ext_hdr (small1 : offset1 < 1024) : is_ext_hdr (ext_hdr (offset1 >>> 3)) = true := by
  have block : offset1 >>> 3 < 128 := by
    rw [Nat.shiftRight_eq_div_pow]
    omega
  exact (ext_hdr_reads ⟨offset1 >>> 3, block⟩ ⟨0, by decide⟩).1

theorem ext_hdr_eq_iff (small1 : offset1 < 1024) : ext_hdr (offset1 >>> 3) = 0x0F <-> offset1 / 8 % 8 = 0 := by
  have finite : ∀ blk : Fin 128, ext_hdr blk = 0x0F <-> blk.val % 8 = 0 := by decide +kernel
  rw [Nat.shiftRight_eq_div_pow]
  exact finite ⟨offset1 / 8, by omega⟩

theorem keepsOld_refl (hw_info : HwCfgInfo) (old : ByteMap) (offset1 offset2 : Nat) :
    KeepsOld hw_info old old offset1 offset2 := fun _ _ _ _ => rfl

theorem EndsBlank.torn_local_iff (ends : EndsBlank hw_info image final)
    (blank : ∀ idx, final.efuse_idx ≤ idx -> idx < hw_info.efuse_size -> image idx = 0xff)
    (inside1 : offset1 < hw_info.eeprom_size) (inside2 : offset2 < hw_info.eeprom_size)
    (cut : TornAs hw_info image final offset1 small1 word1 stored torn)
    (parsed1 : eeprom_parser_88xx hw_info torn = some final1)
    (written : WrittenAs hw_info torn final1 offset2 small2 value2 after) :
    LocalTo hw_info final.log_map offset1 offset2 value2 after <->
      CutBehindBlank final offset1 stored offset2 value2 := by
  have header := hdr_len_cases offset1
  rcases Nat.lt_or_ge stored (hdr_len offset1) with short | complete
  · by_cases none : stored = 0
    · have same := cut.unchanged none
      have found : final1 = final := ends.unique (same ▸ parsed1)
      rw [same, found] at written
      rw [ends.localTo_iff blank inside2 written]
      exact ⟨fun _ _ one => absurd (none.symm.trans one) (by decide), fun _ => keepsOld_refl _ _ _ _⟩
    · have one : stored = 1 := by omega
      have high : offset1 > 0x7f := by omega
      have appends := cut.header blank high one
      have cells := holdsAt_cons.mp appends.holds
      have room := cut.room (by omega)
      have large := hw_info.limit_add
      unfold PROTECT_EFUSE_SIZE at large
      have dangling : EndsDangling hw_info torn (ext_hdr (offset1 >>> 3)) ⟨final.efuse_idx + 1, final.log_map⟩ :=
        ⟨final.efuse_idx, ends.resume appends, rfl, cells.1, is_ext_hdr_ext_hdr small1,
          appends.blank _ (Nat.le_refl _) (by omega)⟩
      have found := dangling.unique parsed1
      rw [found] at written
      rw [dangling.localTo_iff appends.blank inside2 written, ext_hdr_eq_iff small1]
      exact ⟨fun local_ _ _ => local_.2, fun harmless => ⟨keepsOld_refl _ _ _ _, harmless high one⟩⟩
  · have appends := cut.appended blank complete
    have room := cut.room (by omega)
    have length : (sections_bytes
        [log_section offset1 small1 (torn_word (hdr_len offset1) stored word1)]).length = hdr_len offset1 + 2 := by
      rw [← length_log_section small1 (torn_word (hdr_len offset1) stored word1)]
      exact congrArg List.length (List.append_nil _)
    have whole := (ends.resume appends).sections_fit appends.holds
      (fun sec member => List.mem_singleton.mp member ▸ log_section_inside small1 inside1 _) (by omega)
    have blankEnd := whole.endsBlank appends
    have found := blankEnd.unique parsed1
    rw [found] at written
    rw [blankEnd.localTo_iff appends.blank inside2 written]
    refine ⟨fun _ high one => by omega, fun _ => ?_⟩
    -- the torn section sets its own word only
    intro address _ other1 _
    change overlay (offset1 >>> 3) (0x01 <<< blk_idx offset1) _ final.log_map address = _
    rw [overlay_word (by rw [blk_idx_eq]; omega), if_neg]
    rw [blk_idx_eq, Nat.shiftRight_eq_div_pow]
    omega

theorem EndsDangling.torn_local_iff (ends : EndsDangling hw_info image hdr final)
    (blank : ∀ idx, final.efuse_idx ≤ idx -> idx < hw_info.efuse_size -> image idx = 0xff)
    (inside2 : offset2 < hw_info.eeprom_size) (cut : TornAs hw_info image final offset1 small1 word1 stored torn)
    (parsed1 : eeprom_parser_88xx hw_info torn = some final1)
    (written : WrittenAs hw_info torn final1 offset2 small2 value2 after) :
    LocalTo hw_info final.log_map offset1 offset2 value2 after <->
      CutBehindDangling hw_info hdr final offset1 small1 word1 stored offset2 value2 := by
  have header := hdr_len_cases offset1
  rcases Nat.lt_or_ge stored (hdr_len offset1) with short | complete
  · by_cases none : stored = 0
    · have same := cut.unchanged none
      have found : final1 = final := ends.unique (same ▸ parsed1)
      rw [same, found] at written
      rw [ends.localTo_iff blank inside2 written]
      constructor
      · intro local_
        exact ⟨fun _ => local_.2, fun complete => by omega⟩
      · intro harmless
        exact ⟨keepsOld_refl _ _ _ _, harmless.nothing none⟩
    · have one : stored = 1 := by omega
      have high : offset1 > 0x7f := by omega
      have appends := cut.header blank high one
      have cells := holdsAt_cons.mp appends.holds
      have room := cut.room (by omega)
      rcases ends.resume appends with ⟨idx, parsed, next, first, ext⟩
      -- the stored byte completes the dangling header, and enables no word
      have skip := @body_misread_ext hw_info _ final.log_map _ _
        (log_section offset1 small1 word1) ext first (next ▸ cells.1)
      rw [parse_section_skip (by change idx + 2 + 1 < _; omega), go_on] at skip
      have passed := parsed.step skip
      have end_ : idx + 2 = final.efuse_idx + [ext_hdr (offset1 >>> 3)].length := by
        rw [next]
        rfl
      rw [end_] at passed
      have blankEnd := passed.endsBlank appends
      have found := blankEnd.unique parsed1
      rw [found] at written
      rw [blankEnd.localTo_iff appends.blank inside2 written]
      exact ⟨fun _ => ⟨fun impossible => absurd impossible none, fun complete => by omega⟩,
        fun _ => keepsOld_refl _ _ _ _⟩
  · have appends := cut.appended blank complete
    have passed := ends.passes appends parsed1
    have blankEnd := passed.endsBlank appends
    have found := blankEnd.unique parsed1
    rw [found] at written
    rw [blankEnd.localTo_iff appends.blank inside2 written]
    have map : ∀ address, (apply_sections [] (overlay
          ((log_section offset1 small1 (torn_word (hdr_len offset1) stored word1)).misread_blk hdr)
          (0x01 <<< blk_idx offset1)
          (fun k => if k % 2 = 0 then (torn_word (hdr_len offset1) stored word1).1
            else (torn_word (hdr_len offset1) stored word1).2) final.log_map)) address =
        if address / 2 = 4 * (log_section offset1 small1 word1).misread_blk hdr + blk_idx offset1 then
          (if address % 2 = 0 then (torn_word (hdr_len offset1) stored word1).1
            else (torn_word (hdr_len offset1) stored word1).2)
        else final.log_map address := by
      intro address
      rw [apply_sections_nil, overlay_word (by rw [blk_idx_eq]; omega)]
      refine if_congr Iff.rfl (if_congr ?_ rfl rfl) rfl
      omega
    constructor
    · intro keeps
      refine ⟨fun none => by omega, ?_⟩
      intro _ address inside here other1 other2
      have old := keeps address inside other1 other2
      change apply_sections [] _ address = _ at old
      rw [← old]
      exact ((map address).trans (if_pos here)).symm
    · intro harmless address inside other1 other2
      change apply_sections [] _ address = _
      refine (map address).trans ?_
      by_cases here : address / 2 = 4 * (log_section offset1 small1 word1).misread_blk hdr + blk_idx offset1
      · rw [if_pos here]
        exact harmless.misplaced complete address inside here other1 other2
      · rw [if_neg here]

end

theorem write_log_word_cases {offset : Nat} (small : offset < 1024) (value : UInt8) (map : ByteMap)
    (start : HalmacAdapter) :
    (map offset = value ∧ write_log_word offset value map start = (.ok (), start)) ∨
      (map offset ≠ value ∧ write_log_word offset value map start = (.error .EFUSE_NOT_ENOUGH, start)) ∨
      (map offset ≠ value ∧ start.efuse_end + (hdr_len offset + 2) < start.hw_cfg_info.limit ∧
        AppendsFrom start.efuse_end (log_section offset small (log_word map offset value)).bytes
          (write_log_word offset value map) start) := by
  by_cases there : map offset = value
  · refine Or.inl ⟨there, ?_⟩
    rw [write_log_word, Program.bind_of_ok (Program.get_apply start), if_neg (not_not_intro there)]
    rfl
  · refine Or.inr ?_
    have large := start.hw_cfg_info.limit_add
    unfold PROTECT_EFUSE_SIZE at large
    have bytes := log_section_bytes small (log_word map offset value)
    rw [log_section_hdr_bytes] at bytes
    unfold AppendsFrom
    rw [bytes, write_log_word, Program.bind_of_ok (Program.get_apply start), if_pos there]
    by_cases high : offset > 0x7f
    · simp only [if_pos high]
      by_cases room : start.hw_cfg_info.efuse_size ≤ 4 + PROTECT_EFUSE_SIZE + start.efuse_end
      · exact Or.inl ⟨there, by simp only [room, not_true_eq_false, decide_false]; rfl⟩
      · refine Or.inr ⟨there, ?_, ?_⟩
        · rw [hdr_len, if_pos high]
          unfold PROTECT_EFUSE_SIZE at room
          omega
        · simp only [room, not_false_eq_true, decide_true]
          exact ((write_hw_efuse_appends _ _).bind (fun _ => (write_hw_efuse_appends _ _).bind (fun _ =>
            (write_hw_efuse_appends _ _).bind (fun _ => write_hw_efuse_appends _ _)))) start
    · simp only [if_neg high]
      by_cases room : start.hw_cfg_info.efuse_size ≤ 3 + PROTECT_EFUSE_SIZE + start.efuse_end
      · exact Or.inl ⟨there, by simp only [room, not_true_eq_false, decide_false]; rfl⟩
      · refine Or.inr ⟨there, ?_, ?_⟩
        · rw [hdr_len, if_neg high]
          unfold PROTECT_EFUSE_SIZE at room
          omega
        · simp only [room, not_false_eq_true, decide_true]
          exact ((write_hw_efuse_appends _ _).bind (fun _ => (write_hw_efuse_appends _ _).bind (fun _ =>
            write_hw_efuse_appends _ _))) start

theorem Appended.wifi_map {start : Nat} {tried stored : List UInt8} {before after : HalmacAdapter}
    (appended : Appended start tried stored before after) (wifi : before.bank = HALMAC_EFUSE_BANK_WIFI)
    (storing : before.platform.Storing) : after.wifi_map = burn_bytes start stored before.wifi_map := by
  rw [HalmacAdapter.wifi_map, appended.cells storing, wifi, Function.update_self, HalmacAdapter.phy_map, wifi]
  rfl

theorem read_before_write {offset : Nat} {value : UInt8} {before after : HalmacAdapter}
    {result : Except HalmacRet Unit} {final : ParserState} (onWifi : OnWifi before)
    (parsed : eeprom_parser_88xx before.hw_cfg_info before.wifi_map = some final)
    (ran : proc_write_log_efuse_88xx offset value before = (result, after)) :
    (∃ code, result = .error code ∧ after.hardware = before.hardware) ∨
      ∃ start, OnWifi start ∧ start.hardware = before.hardware ∧
        start.efuse_end = final.efuse_idx ∧
        write_log_word offset value final.log_map start = (result, after) := by
  unfold proc_write_log_efuse_88xx at ran
  have allocKept := pltfm_malloc_keeps hardware_ignores_reads before
  have allocWifi := pltfm_malloc_onWifi before onWifi
  cases allocated : pltfm_malloc before with
  | mk answer middle =>
      rw [allocated] at allocKept allocWifi
      cases answer with
      | error code =>
          rw [Program.bind_of_error allocated, Prod.mk.injEq] at ran
          exact Or.inl ⟨code, ran.1.symm, ran.2 ▸ allocKept⟩
      | ok _ =>
          rw [Program.bind_of_ok allocated] at ran
          have readKept := read_log_efuse_map_keeps hardware_ignores_reads middle
          have readWifi := read_log_efuse_map_onWifi middle allocWifi
          cases read : read_log_efuse_map_88xx middle with
          | mk answer start =>
              rw [read] at readKept readWifi
              cases answer with
              | error code =>
                  rw [Program.bind_of_error read, Prod.mk.injEq] at ran
                  exact Or.inl ⟨code, ran.1.symm, ran.2 ▸ readKept.trans allocKept⟩
              | ok map =>
                  rw [Program.bind_of_ok read] at ran
                  rcases read_log_efuse_map_ok allocWifi read with ⟨found, success, same, end_⟩
                  have config := allocKept
                  simp only [HalmacAdapter.hardware, Prod.mk.injEq] at config
                  rw [config.1, HalmacAdapter.wifi_map, config.2.2.1] at success
                  have final_ : found = final := by
                    have both := success.symm.trans parsed
                    rw [Option.some.injEq] at both
                    exact both
                  rw [final_] at same end_
                  rw [same] at ran
                  exact Or.inr ⟨start, readWifi, readKept.trans allocKept, end_, ran⟩

theorem proc_write_log_efuse_ok {offset : Nat} {value : UInt8} {before after : HalmacAdapter}
    {final : ParserState} (small : offset < 1024) (onWifi : OnWifi before) (storing : before.platform.Storing)
    (parsed : eeprom_parser_88xx before.hw_cfg_info before.wifi_map = some final)
    (success : proc_write_log_efuse_88xx offset value before = (.ok (), after)) :
    WrittenAs before.hw_cfg_info before.wifi_map final offset small value after.wifi_map := by
  rcases read_before_write onWifi parsed success with ⟨_, impossible, _⟩ | ⟨start, wifi, kept, end_, ran⟩
  · cases impossible
  · simp only [HalmacAdapter.hardware, Prod.mk.injEq] at kept
    have cells : start.wifi_map = before.wifi_map := congrFun kept.2.2.1 HALMAC_EFUSE_BANK_WIFI
    rcases write_log_word_cases small value final.log_map start with ⟨there, same⟩ | ⟨_, full⟩ |
      ⟨differs, room, appends⟩
    · rw [same, Prod.mk.injEq] at ran
      exact Or.inl ⟨there, by rw [← ran.2, cells]⟩
    · rw [full] at ran
      cases ran
    · rcases appends with ⟨_, last, wrote, appended⟩ | ⟨_, _, _, _, failed, _⟩
      · rw [ran, Prod.mk.injEq] at wrote
        refine Or.inr ⟨differs, ?_, ?_⟩
        · rw [end_, kept.1] at room
          exact room
        · rw [wrote.2, appended.wifi_map wifi.bank (kept.2.2.2.2.symm ▸ storing), end_, cells]
      · rw [ran] at failed
        cases failed

theorem proc_write_log_efuse_torn {offset : Nat} {value : UInt8} {before after : HalmacAdapter}
    {code : HalmacRet} {final : ParserState} (small : offset < 1024) (onWifi : OnWifi before)
    (storing : before.platform.Storing) (parsed : eeprom_parser_88xx before.hw_cfg_info before.wifi_map = some final)
    (failure : proc_write_log_efuse_88xx offset value before = (.error code, after)) :
    after.hw_cfg_info = before.hw_cfg_info ∧ after.platform = before.platform ∧
      ∃ stored, TornAs before.hw_cfg_info before.wifi_map final offset small
        (log_word final.log_map offset value) stored after.wifi_map := by
  have untouched : after.hardware = before.hardware -> after.hw_cfg_info = before.hw_cfg_info ∧
      after.platform = before.platform ∧ ∃ stored, TornAs before.hw_cfg_info before.wifi_map final
        offset small (log_word final.log_map offset value) stored after.wifi_map := by
    intro kept
    simp only [HalmacAdapter.hardware, Prod.mk.injEq] at kept
    refine ⟨kept.1, kept.2.2.2.2, 0, Nat.zero_le _, fun none => absurd none (Nat.lt_irrefl 0), ?_⟩
    exact congrFun kept.2.2.1 HALMAC_EFUSE_BANK_WIFI
  rcases read_before_write onWifi parsed failure with ⟨_, _, kept⟩ | ⟨start, wifi, kept, end_, ran⟩
  · exact untouched kept
  · rcases write_log_word_cases small value final.log_map start with ⟨_, same⟩ | ⟨_, full⟩ |
      ⟨_, room, appends⟩
    · rw [same] at ran
      cases ran
    · rw [full, Prod.mk.injEq] at ran
      exact untouched (ran.2 ▸ kept)
    · simp only [HalmacAdapter.hardware, Prod.mk.injEq] at kept
      rcases appends with ⟨_, _, wrote, _⟩ | ⟨_, last, tried, stored, failed, least, most, appended⟩
      · rw [ran] at wrote
        cases wrote
      · rw [ran, Prod.mk.injEq] at failed
        rw [length_log_section] at most
        rw [end_, kept.1] at room
        rw [failed.2]
        refine ⟨appended.hw_cfg_info.trans kept.1, appended.platform.trans kept.2.2.2.2, stored, by omega,
          fun _ => room, ?_⟩
        rw [appended.wifi_map wifi.bank (kept.2.2.2.2.symm ▸ storing), end_]
        exact congrArg _ (congrFun kept.2.2.1 HALMAC_EFUSE_BANK_WIFI)

/-- The condition under which a cut write is harmless for the later write. -/
structure HarmlessCut (hw_info : HwCfgInfo) (image : ByteMap) (final : ParserState) (offset1 : Nat)
    (small1 : offset1 < 1024) (value1 : UInt8) (stored offset2 : Nat) (value2 : UInt8) : Prop where
  behindBlank : EndsBlank hw_info image final -> CutBehindBlank final offset1 stored offset2 value2
  behindDangling : ∀ hdr, EndsDangling hw_info image hdr final ->
    CutBehindDangling hw_info hdr final offset1 small1 (log_word final.log_map offset1 value1) stored offset2
      value2

/-- A write is cut and a later one succeeds: the damage stays in the two words
exactly when the cut was harmless, for the number of bytes that it has stored. -/
theorem torn_write_local_iff {before torn after : HalmacAdapter} {final : ParserState}
    {offset1 offset2 : Nat} {value1 value2 : UInt8} {code : HalmacRet} (small1 : offset1 < 1024)
    (inside1 : offset1 < before.hw_cfg_info.eeprom_size) (inside2 : offset2 < before.hw_cfg_info.eeprom_size)
    (onWifi : OnWifi before) (storing : before.platform.Storing)
    (parsed : eeprom_parser_88xx before.hw_cfg_info before.wifi_map = some final)
    (blank : ∀ idx, final.efuse_idx ≤ idx -> idx < before.hw_cfg_info.efuse_size ->
      before.wifi_map idx = 0xff)
    (cut : proc_write_log_efuse_88xx offset1 value1 before = (.error code, torn))
    (later : proc_write_log_efuse_88xx offset2 value2 torn = (.ok (), after)) :
    LocalTo before.hw_cfg_info final.log_map offset1 offset2 value2 after.wifi_map <->
      ∃ stored,
        TornAs before.hw_cfg_info before.wifi_map final offset1 small1 (log_word final.log_map offset1 value1)
          stored torn.wifi_map ∧
        HarmlessCut before.hw_cfg_info before.wifi_map final offset1 small1 value1 stored offset2 value2 := by
  have small2 : offset2 < 1024 := Nat.lt_of_lt_of_le inside2 before.hw_cfg_info.eeprom_size_le
  rcases proc_write_log_efuse_torn small1 onWifi storing parsed cut
    with ⟨hw_info, platform, stored, tornAs⟩
  have tornWifi : OnWifi torn := by
    have still := proc_write_log_efuse_onWifi offset1 value1 before onWifi
    rw [cut] at still
    exact still
  -- the later write has read the torn log
  have reread : ∃ final1, eeprom_parser_88xx before.hw_cfg_info torn.wifi_map = some final1 := by
    unfold proc_write_log_efuse_88xx at later
    rcases Program.bind_eq_ok.mp later with ⟨_, allocated, alloc, later⟩
    have kept := pltfm_malloc_keeps hardware_ignores_reads torn
    have wifi := pltfm_malloc_onWifi torn tornWifi
    rw [alloc] at kept wifi
    rcases Program.bind_eq_ok.mp later with ⟨map, _, read, _⟩
    rcases read_log_efuse_map_ok wifi read with ⟨final1, success, _⟩
    simp only [HalmacAdapter.hardware, Prod.mk.injEq] at kept
    rw [kept.1, hw_info, HalmacAdapter.wifi_map, kept.2.2.1] at success
    exact ⟨final1, success⟩
  rcases reread with ⟨final1, parsed1⟩
  have written := proc_write_log_efuse_ok small2 tornWifi (platform.symm ▸ storing) (hw_info.symm ▸ parsed1) later
  rw [hw_info] at written
  -- whatever number of stored bytes describes the torn cells, the two cases decide
  have decides : ∀ count, TornAs before.hw_cfg_info before.wifi_map final offset1 small1
      (log_word final.log_map offset1 value1) count torn.wifi_map ->
      (LocalTo before.hw_cfg_info final.log_map offset1 offset2 value2 after.wifi_map <->
        HarmlessCut before.hw_cfg_info before.wifi_map final offset1 small1 value1 count offset2 value2) := by
    intro count asTorn
    constructor
    · intro local_
      exact ⟨fun ends => (ends.torn_local_iff blank inside1 inside2 asTorn parsed1 written).mp local_,
        fun hdr ends => (ends.torn_local_iff blank inside2 asTorn parsed1 written).mp local_⟩
    · intro harmless
      rcases eeprom_parser_88xx_iff.mp parsed with ends | ⟨hdr, ends⟩
      · exact (ends.torn_local_iff blank inside1 inside2 asTorn parsed1 written).mpr (harmless.behindBlank ends)
      · exact (ends.torn_local_iff blank inside2 asTorn parsed1 written).mpr (harmless.behindDangling hdr ends)
  constructor
  · intro local_
    exact ⟨stored, tornAs, (decides stored tornAs).mp local_⟩
  · intro ⟨count, asTorn, harmless⟩
    exact (decides count asTorn).mpr harmless

/-- A blank 8821C where the supply stays off at one turn. -/
def HalmacAdapter.failing8821c (turn : Nat) : HalmacAdapter :=
  { HalmacAdapter.blank8821c 0 with
    platform := { Platform.willing with write := fun now => ⟨now != turn, true, true, true⟩ } }

theorem failing8821c_storing (turn : Nat) : (HalmacAdapter.failing8821c turn).platform.Storing :=
  fun _ _ _ _ => rfl

theorem failing8821c_onWifi (turn : Nat) : OnWifi (HalmacAdapter.failing8821c turn) :=
  ⟨rfl, fun valid => absurd valid Bool.false_ne_true⟩

theorem failing8821c_parsed (turn : Nat) :
    eeprom_parser_88xx .of8821c (HalmacAdapter.failing8821c turn).wifi_map = some ⟨0, ByteMap.blank⟩ :=
  eeprom_parser_88xx_iff.mpr (Or.inl ⟨Relation.ReflTransGen.refl, rfl⟩)

/-- A write to block 0 that is cut behind its header, and a write to block 1. -/
theorem torn_write_local_low :
    LocalTo .of8821c ByteMap.blank 0 8 0x00 (proc_write_log_efuse_88xx 8 0x00
      (proc_write_log_efuse_88xx 0 0x00 (HalmacAdapter.failing8821c 5)).2).2.wifi_map := by
  have cut : (proc_write_log_efuse_88xx 0 0x00 (HalmacAdapter.failing8821c 5)).1 = .error .LDO_FAIL := by
    decide +kernel
  have failure : proc_write_log_efuse_88xx 0 0x00 (HalmacAdapter.failing8821c 5) =
      (.error .LDO_FAIL, (proc_write_log_efuse_88xx 0 0x00 (HalmacAdapter.failing8821c 5)).2) := by
    rw [← cut]
  have done : (proc_write_log_efuse_88xx 8 0x00
      (proc_write_log_efuse_88xx 0 0x00 (HalmacAdapter.failing8821c 5)).2).1 = .ok () := by
    decide +kernel
  have success : proc_write_log_efuse_88xx 8 0x00
      (proc_write_log_efuse_88xx 0 0x00 (HalmacAdapter.failing8821c 5)).2 =
        (.ok (), (proc_write_log_efuse_88xx 8 0x00
          (proc_write_log_efuse_88xx 0 0x00 (HalmacAdapter.failing8821c 5)).2).2) := by
    rw [← done]
  have small : 0 < 1024 := by decide
  rcases proc_write_log_efuse_torn small (failing8821c_onWifi 5)
    (failing8821c_storing 5) (failing8821c_parsed 5) failure with ⟨_, _, stored, tornAs⟩
  refine (torn_write_local_iff small (by decide) (by decide) (failing8821c_onWifi 5) (failing8821c_storing 5)
    (failing8821c_parsed 5) (fun _ _ _ => rfl) failure success).mpr ⟨stored, tornAs, ?_, ?_⟩
  · intro _ high
    exact absurd high (by decide)
  · intro hdr ⟨idx, _, impossible, _⟩
    cases impossible

/-- A write to block 17 that is cut inside its header spoils the write to block 1. -/
theorem torn_header_spoils_later_write :
    ¬ ∀ (before torn after : HalmacAdapter) (final : ParserState) (offset1 offset2 : Nat)
      (value1 value2 : UInt8) (code : HalmacRet), offset1 < before.hw_cfg_info.eeprom_size ->
        offset2 < before.hw_cfg_info.eeprom_size -> OnWifi before -> before.platform.Storing ->
        eeprom_parser_88xx before.hw_cfg_info before.wifi_map = some final ->
        (∀ idx, final.efuse_idx ≤ idx -> idx < before.hw_cfg_info.efuse_size ->
          before.wifi_map idx = 0xff) ->
        proc_write_log_efuse_88xx offset1 value1 before = (.error code, torn) ->
        proc_write_log_efuse_88xx offset2 value2 torn = (.ok (), after) ->
        LocalTo before.hw_cfg_info final.log_map offset1 offset2 value2 after.wifi_map := by
  intro local_
  have cut : (proc_write_log_efuse_88xx 0x88 0x00 (HalmacAdapter.failing8821c 5)).1 = .error .LDO_FAIL := by
    decide +kernel
  have failure : proc_write_log_efuse_88xx 0x88 0x00 (HalmacAdapter.failing8821c 5) =
      (.error .LDO_FAIL, (proc_write_log_efuse_88xx 0x88 0x00 (HalmacAdapter.failing8821c 5)).2) := by
    rw [← cut]
  have done : (proc_write_log_efuse_88xx 8 0x00
      (proc_write_log_efuse_88xx 0x88 0x00 (HalmacAdapter.failing8821c 5)).2).1 = .ok () := by
    decide +kernel
  have success : proc_write_log_efuse_88xx 8 0x00
      (proc_write_log_efuse_88xx 0x88 0x00 (HalmacAdapter.failing8821c 5)).2 =
        (.ok (), (proc_write_log_efuse_88xx 8 0x00
          (proc_write_log_efuse_88xx 0x88 0x00 (HalmacAdapter.failing8821c 5)).2).2) := by
    rw [← done]
  rcases local_ (HalmacAdapter.failing8821c 5) _ _ ⟨0, ByteMap.blank⟩ 0x88 8
    0x00 0x00 .LDO_FAIL (by decide) (by decide) (failing8821c_onWifi 5) (failing8821c_storing 5)
    (failing8821c_parsed 5) (fun _ _ _ => rfl) failure success with ⟨reparse, found, value, _⟩
  have read : (eeprom_parser_88xx .of8821c (proc_write_log_efuse_88xx 8 0x00
      (proc_write_log_efuse_88xx 0x88 0x00 (HalmacAdapter.failing8821c 5)).2).2.wifi_map).map
        (fun state => state.log_map 8) = some 0xFF := by
    decide +kernel
  have both := (congrArg (Option.map (fun state : ParserState => state.log_map 8)) found).symm.trans read
  rw [Option.map_some, value] at both
  exact absurd both (by decide)

end Rtl8821ce
