import Rtl8821ce.Efuse.ByMap
import Rtl8821ce.Efuse.TornWrite

/-!
# The write of one logical byte reads back

A successful write is read back by the parser when the log ends in order.  Behind a
dangling header byte it is so only if nothing is written, or the dangling byte is the one
of block 0 and the byte belongs to that block.  A write that finds no room leaves the
efuse alone, and no write reaches the protected cells.
-/

namespace Rtl8821ce

open Program (ErrorsIn bind_of_ok errorsIn_get errorsIn_pure errorsIn_require)

/-! ## Errors of the writes -/

def NotFull (code : HalmacRet) : Prop := code ≠ .EFUSE_NOT_ENOUGH

theorem errorsIn_answer {α : Type} (codes : HalmacRet -> Prop) (ask : Platform -> Nat -> α) :
    ErrorsIn codes (answer ask) :=
  fun _ _ _ failure => nomatch congrArg Prod.fst failure

theorem read_hw_efuse_errors : ErrorsIn NotFull read_hw_efuse_88xx :=
  (errorsIn_answer _ _).bind (fun _ => (errorsIn_require _ nofun).bind (fun _ =>
    (errorsIn_get _).bind (fun _ => errorsIn_pure _ _)))

theorem write_hw_efuse_errors (offset : Nat) (value : UInt8) :
    ErrorsIn NotFull (write_hw_efuse_88xx offset value) := by
  unfold write_hw_efuse_88xx
  refine (Program.errorsIn_update _ _).bind (fun _ => (errorsIn_answer _ _).bind (fun _ => ?_))
  refine (errorsIn_require _ nofun).bind (fun _ => (Program.errorsIn_update _ _).bind (fun _ => ?_))
  refine (errorsIn_require _ nofun).bind (fun _ => (errorsIn_require _ nofun).bind (fun _ => ?_))
  refine (errorsIn_get _).bind (fun _ => Program.errorsIn_ite ?_ (errorsIn_pure _ _))
  exact read_hw_efuse_errors.bind (fun _ => errorsIn_require _ nofun)

theorem write_log_word_not_full {offset : Nat} {value : UInt8} {map : ByteMap} {start after : HalmacAdapter}
    (room : start.efuse_end + (hdr_len offset + 2) < start.hw_cfg_info.limit)
    (ran : write_log_word offset value map start = (.error .EFUSE_NOT_ENOUGH, after)) : False := by
  have large := start.hw_cfg_info.limit_add
  unfold PROTECT_EFUSE_SIZE at large
  unfold write_log_word at ran
  rw [bind_of_ok (Program.get_apply start)] at ran
  by_cases differs : map offset ≠ value
  · rw [if_pos differs] at ran
    by_cases high : offset > 0x7f
    · have fits : ¬ start.hw_cfg_info.efuse_size ≤ 4 + PROTECT_EFUSE_SIZE + start.efuse_end := by
        rw [hdr_len, if_pos high] at room
        unfold PROTECT_EFUSE_SIZE
        omega
      simp only [if_pos high, fits, not_false_eq_true, decide_true, Program.require_true] at ran
      exact ((errorsIn_pure _ _).bind (fun _ => (write_hw_efuse_errors _ _).bind (fun _ =>
        (write_hw_efuse_errors _ _).bind (fun _ => (write_hw_efuse_errors _ _).bind (fun _ =>
          write_hw_efuse_errors _ _))))) _ _ _ ran rfl
    · have fits : ¬ start.hw_cfg_info.efuse_size ≤ 3 + PROTECT_EFUSE_SIZE + start.efuse_end := by
        rw [hdr_len, if_neg high] at room
        unfold PROTECT_EFUSE_SIZE
        omega
      simp only [if_neg high, fits, not_false_eq_true, decide_true, Program.require_true] at ran
      exact ((errorsIn_pure _ _).bind (fun _ => (write_hw_efuse_errors _ _).bind (fun _ =>
        (write_hw_efuse_errors _ _).bind (fun _ => write_hw_efuse_errors _ _)))) _ _ _ ran rfl
  · rw [if_neg differs] at ran
    cases ran

theorem write_log_word_runsThrough {offset : Nat} {value : UInt8} {map : ByteMap} {start : HalmacAdapter}
    (willing : start.Willing) (room : start.efuse_end + (hdr_len offset + 2) < start.hw_cfg_info.limit) :
    exists after, write_log_word offset value map start = (.ok (), after) := by
  have large := start.hw_cfg_info.limit_add
  unfold PROTECT_EFUSE_SIZE at large
  unfold write_log_word
  rw [bind_of_ok (Program.get_apply start)]
  by_cases differs : map offset ≠ value
  · rw [if_pos differs]
    by_cases high : offset > 0x7f
    · have fits : ¬ start.hw_cfg_info.efuse_size ≤ 4 + PROTECT_EFUSE_SIZE + start.efuse_end := by
        rw [hdr_len, if_pos high] at room
        unfold PROTECT_EFUSE_SIZE
        omega
      simp only [if_pos high, fits, not_false_eq_true, decide_true, Program.require_true]
      obtain ⟨_, after, ran, _⟩ := ((Program.runsThrough_pure HalmacAdapter.Willing _).bind (fun _ =>
        (write_hw_efuse_runsThrough _ _).bind (fun _ => (write_hw_efuse_runsThrough _ _).bind (fun _ =>
          (write_hw_efuse_runsThrough _ _).bind (fun _ => write_hw_efuse_runsThrough _ _))))) start willing
      exact ⟨after, ran⟩
    · have fits : ¬ start.hw_cfg_info.efuse_size ≤ 3 + PROTECT_EFUSE_SIZE + start.efuse_end := by
        rw [hdr_len, if_neg high] at room
        unfold PROTECT_EFUSE_SIZE
        omega
      simp only [if_neg high, fits, not_false_eq_true, decide_true, Program.require_true]
      obtain ⟨_, after, ran, _⟩ := ((Program.runsThrough_pure HalmacAdapter.Willing _).bind (fun _ =>
        (write_hw_efuse_runsThrough _ _).bind (fun _ => (write_hw_efuse_runsThrough _ _).bind (fun _ =>
          write_hw_efuse_runsThrough _ _)))) start willing
      exact ⟨after, ran⟩
  · rw [if_neg differs]
    exact ⟨start, rfl⟩

/-- What the write of one logical byte is expected to do. -/
structure LogWriteCorrect (before after : HalmacAdapter) (result : Except HalmacRet Unit) (final : ParserState)
    (offset : Nat) (value : UInt8) : Prop where
  readsBack : result = .ok () -> exists reparse,
    eeprom_parser_88xx before.hw_cfg_info after.wifi_map = some reparse ∧
      ∀ address, address < before.hw_cfg_info.eeprom_size ->
        reparse.log_map address = Function.update final.log_map offset value address
  notEnough : result = .error .EFUSE_NOT_ENOUGH -> after.written = before.written ∧ after.cells = before.cells
  protect : ∀ entry ∈ after.written, entry ∈ before.written ∨ entry.1 < before.hw_cfg_info.limit

section

variable {before after : HalmacAdapter} {result : Except HalmacRet Unit} {final : ParserState} {offset : Nat}
  {value : UInt8}

theorem proc_write_log_efuse_written (small : offset < 1024) (onWifi : OnWifi before)
    (parsed : eeprom_parser_88xx before.hw_cfg_info before.wifi_map = some final)
    (ran : proc_write_log_efuse_88xx offset value before = (result, after)) :
    after.hardware = before.hardware ∨
      result ≠ .error .EFUSE_NOT_ENOUGH ∧ final.efuse_idx + (hdr_len offset + 2) < before.hw_cfg_info.limit ∧
        exists bytes, bytes.length ≤ hdr_len offset + 2 ∧
          after.written = before.written ++ numbered final.efuse_idx bytes := by
  rcases read_before_write onWifi parsed ran with ⟨_, _, kept⟩ | ⟨start, wifi, kept, end_, ran⟩
  · exact Or.inl kept
  · rcases write_log_word_cases small value final.log_map start with ⟨_, same⟩ | ⟨_, full⟩ | ⟨_, room, appends⟩
    · rw [same, Prod.mk.injEq] at ran
      exact Or.inl (ran.2 ▸ kept)
    · rw [full, Prod.mk.injEq] at ran
      exact Or.inl (ran.2 ▸ kept)
    · refine Or.inr ⟨?_, ?_, ?_⟩
      · intro full
        rw [full] at ran
        exact write_log_word_not_full room ran
      · simp only [HalmacAdapter.hardware, Prod.mk.injEq] at kept
        rw [← end_, ← kept.1]
        exact room
      · simp only [HalmacAdapter.hardware, Prod.mk.injEq] at kept
        have length := length_log_section small (log_word final.log_map offset value)
        rcases appends with ⟨_, last, wrote, appended⟩ | ⟨_, last, tried, _, failed, _, most, appended⟩
        · rw [ran, Prod.mk.injEq] at wrote
          refine ⟨_, Nat.le_of_eq length, ?_⟩
          rw [wrote.2, appended.written, kept.2.2.2.1, end_]
        · rw [ran, Prod.mk.injEq] at failed
          have short : ((log_section offset small (log_word final.log_map offset value)).bytes.take tried).length ≤
              hdr_len offset + 2 := by
            rw [List.length_take]
            omega
          refine ⟨_, short, ?_⟩
          rw [failed.2, appended.written, kept.2.2.2.1, end_]

theorem proc_write_log_efuse_guarded (small : offset < 1024) (onWifi : OnWifi before)
    (parsed : eeprom_parser_88xx before.hw_cfg_info before.wifi_map = some final)
    (ran : proc_write_log_efuse_88xx offset value before = (result, after)) :
    (result = .error .EFUSE_NOT_ENOUGH -> after.written = before.written ∧ after.cells = before.cells) ∧
      ∀ entry ∈ after.written, entry ∈ before.written ∨ entry.1 < before.hw_cfg_info.limit := by
  rcases proc_write_log_efuse_written small onWifi parsed ran with kept | ⟨notFull, room, bytes, few, written⟩
  · simp only [HalmacAdapter.hardware, Prod.mk.injEq] at kept
    exact ⟨fun _ => ⟨kept.2.2.2.1, kept.2.2.1⟩, fun entry member => Or.inl (kept.2.2.2.1 ▸ member)⟩
  · refine ⟨fun full => absurd full notFull, fun entry member => ?_⟩
    rw [written] at member
    rcases List.mem_append.mp member with old | new
    · exact Or.inl old
    · have bounds := mem_numbered new
      exact Or.inr (by omega)

end

/-- The adapters whose efuse holds an image, and whose hardware stores what it confirms. -/
structure HoldsImage (hw_info : HwCfgInfo) (image : ByteMap) (before : HalmacAdapter) : Prop where
  hw_cfg_info : before.hw_cfg_info = hw_info
  wifi_map : before.wifi_map = image
  onWifi : OnWifi before
  storing : before.platform.Storing

/-- The byte is there already, or there is no room for it, or the log ends in order, or the
dangling byte at its end is the one of block 0 and so is the offset. -/
def ReadBackWhen (hw_info : HwCfgInfo) (image : ByteMap) (final : ParserState) (offset : Nat) (value : UInt8) : Prop :=
  final.log_map offset = value ∨ hw_info.limit ≤ final.efuse_idx + (hdr_len offset + 2) ∨
    EndsBlank hw_info image final ∨ (EndsDangling hw_info image 0x0F final ∧ offset < 8)

section

variable {hw_info : HwCfgInfo} {image : ByteMap} {final : ParserState} {offset : Nat} {value : UInt8}

def HalmacAdapter.willing (hw_info : HwCfgInfo) (image : ByteMap) : HalmacAdapter :=
  { HalmacAdapter.blank8821c 0 with hw_cfg_info := hw_info, cells := fun _ => image }

theorem HalmacAdapter.willing_holdsImage (hw_info : HwCfgInfo) (image : ByteMap) :
    HoldsImage hw_info image (HalmacAdapter.willing hw_info image) where
  hw_cfg_info := rfl
  wifi_map := rfl
  onWifi := ⟨rfl, fun valid => absurd valid Bool.false_ne_true⟩
  storing := Platform.willing_storing

theorem HalmacAdapter.willing_writes (parsed : eeprom_parser_88xx hw_info image = some final)
    (room : final.efuse_idx + (hdr_len offset + 2) < hw_info.limit) :
    exists after, proc_write_log_efuse_88xx offset value (HalmacAdapter.willing hw_info image) = (.ok (), after) := by
  have read : read_log_efuse_map_88xx { HalmacAdapter.willing hw_info image with turn := 1 } =
      (.ok final.log_map, { HalmacAdapter.willing hw_info image with
        turn := 4, efuse_map := some image, efuse_map_valid := true, efuse_end := final.efuse_idx }) := by
    have map : eeprom_parser_88xx hw_info ((some image).getD ByteMap.blank) = some final := parsed
    simp only [read_log_efuse_map_88xx, fill_efuse_map, alloc_efuse_map, read_efuse_88xx, read_hw_efuse_88xx,
      parse_efuse_map, pltfm_malloc, answer, Program.bind_apply, Program.get_apply, Program.update_apply,
      HalmacAdapter.willing, HalmacAdapter.blank8821c, Platform.willing, Program.require_true, Program.pure_apply,
      HalmacAdapter.phy_map, Option.isSome_none, Bool.false_eq_true, if_false, map]
  obtain ⟨after, wrote⟩ := @write_log_word_runsThrough offset value final.log_map
    { HalmacAdapter.willing hw_info image with
      turn := 4, efuse_map := some image, efuse_map_valid := true, efuse_end := final.efuse_idx } ⟨rfl, rfl⟩ room
  refine ⟨after, ?_⟩
  have allocated : pltfm_malloc (HalmacAdapter.willing hw_info image) =
      (.ok (), { HalmacAdapter.willing hw_info image with turn := 1 }) := rfl
  unfold proc_write_log_efuse_88xx
  rw [bind_of_ok allocated, bind_of_ok read]
  exact wrote

/-- All writes of a byte are correct exactly under the condition. -/
theorem proc_write_log_efuse_correct_iff (inside : offset < hw_info.eeprom_size)
    (parsed : eeprom_parser_88xx hw_info image = some final)
    (blank : ∀ idx, final.efuse_idx ≤ idx -> idx < hw_info.efuse_size -> image idx = 0xff) :
    (∀ before after result, HoldsImage hw_info image before ->
      proc_write_log_efuse_88xx offset value before = (result, after) ->
        LogWriteCorrect before after result final offset value) <->
      ReadBackWhen hw_info image final offset value := by
  have small : offset < 1024 := Nat.lt_of_lt_of_le inside hw_info.eeprom_size_le
  constructor
  · intro correct
    by_cases full : hw_info.limit ≤ final.efuse_idx + (hdr_len offset + 2)
    · exact Or.inr (Or.inl full)
    · obtain ⟨after, success⟩ := @HalmacAdapter.willing_writes _ _ _ offset value parsed (Nat.not_le.mp full)
      have holds := HalmacAdapter.willing_holdsImage hw_info image
      obtain ⟨reparse, reparsed, same⟩ := (correct _ _ _ holds success).readsBack rfl
      have written := proc_write_log_efuse_ok small holds.onWifi holds.storing parsed success
      have read := (same offset inside).trans (Function.update_self _ _ _)
      rcases eeprom_parser_88xx_iff.mp parsed with ends | ⟨hdr, ends⟩
      · exact Or.inr (Or.inr (Or.inl ends))
      · rcases ends.reads_of_written blank written reparsed read with there | ⟨zero, first⟩
        · exact Or.inl there
        · exact Or.inr (Or.inr (Or.inr ⟨zero ▸ ends, first⟩))
  · intro condition before after result holds ran
    obtain ⟨rfl, rfl, onWifi, storing⟩ := holds
    obtain ⟨notEnough, protect⟩ := proc_write_log_efuse_guarded small onWifi parsed ran
    refine ⟨fun success => ?_, notEnough, protect⟩
    rw [success] at ran
    have written := proc_write_log_efuse_ok small onWifi storing parsed ran
    have updated : exists idx, eeprom_parser_88xx before.hw_cfg_info after.wifi_map =
        some ⟨idx, Function.update final.log_map offset value⟩ := by
      have unchanged : final.log_map offset = value -> exists idx,
          eeprom_parser_88xx before.hw_cfg_info after.wifi_map =
            some ⟨idx, Function.update final.log_map offset value⟩ := by
        intro there
        rcases eeprom_parser_88xx_iff.mp parsed with ends | ⟨hdr, ends⟩
        · exact ends.reparse_written blank inside written
        · exact ends.reparse_written blank inside written (Or.inl there)
      rcases condition with there | full | ends | ⟨ends, first⟩
      · exact unchanged there
      · rcases written with ⟨there, _⟩ | ⟨_, room, _⟩
        · exact unchanged there
        · omega
      · exact ends.reparse_written blank inside written
      · exact ends.reparse_written blank inside written (Or.inr ⟨rfl, first⟩)
    obtain ⟨idx, reparsed⟩ := updated
    exact ⟨_, reparsed, fun _ _ => rfl⟩

end

/-- The first byte of a blank 8821C. -/
theorem proc_write_log_efuse_correct_blank :
    LogWriteCorrect (HalmacAdapter.blank8821c 0) (proc_write_log_efuse_88xx 0 0x00 (HalmacAdapter.blank8821c 0)).2
      (proc_write_log_efuse_88xx 0 0x00 (HalmacAdapter.blank8821c 0)).1 ⟨0, ByteMap.blank⟩ 0 0x00 := by
  have ends : EndsBlank .of8821c ByteMap.blank ⟨0, ByteMap.blank⟩ := ⟨Relation.ReflTransGen.refl, rfl⟩
  have holds : HoldsImage .of8821c ByteMap.blank (HalmacAdapter.blank8821c 0) :=
    HalmacAdapter.willing_holdsImage .of8821c ByteMap.blank
  have inside : 0 < HwCfgInfo.of8821c.eeprom_size := by decide
  exact (proc_write_log_efuse_correct_iff inside (eeprom_parser_88xx_iff.mpr (Or.inl ends))
    (fun _ _ _ => rfl)).mpr (Or.inr (Or.inr (Or.inl ends))) _ _ _ holds rfl

/-- Behind a dangling header byte of block 1 a successful write of the first byte is lost. -/
theorem proc_write_log_efuse_lost :
    ¬ ∀ (hw_info : HwCfgInfo) (image : ByteMap) (final : ParserState) (offset : Nat) (value : UInt8)
      (before after : HalmacAdapter) (result : Except HalmacRet Unit), offset < hw_info.eeprom_size ->
        eeprom_parser_88xx hw_info image = some final ->
        (∀ idx, final.efuse_idx ≤ idx -> idx < hw_info.efuse_size -> image idx = 0xff) ->
        HoldsImage hw_info image before -> proc_write_log_efuse_88xx offset value before = (result, after) ->
        LogWriteCorrect before after result final offset value := by
  intro correct
  have done : (proc_write_log_efuse_88xx 0 0x00 HalmacAdapter.dangling8821c).1 = .ok () := by
    decide +kernel
  have dangling : eeprom_parser_88xx .of8821c (Function.update ByteMap.blank 0 0x2F) =
      some ⟨1, ByteMap.blank⟩ :=
    eeprom_parser_88xx_iff.mpr (Or.inr ⟨0x2F, 0, Relation.ReflTransGen.refl, rfl, rfl, rfl, rfl⟩)
  have blank : ∀ idx, 1 ≤ idx -> idx < 512 -> Function.update ByteMap.blank 0 0x2F idx = 0xff :=
    fun idx behind _ => Function.update_of_ne (Nat.ne_of_gt behind) _ _
  have inside : 0 < HwCfgInfo.of8821c.eeprom_size := by decide
  have holds : HoldsImage .of8821c (Function.update ByteMap.blank 0 0x2F) HalmacAdapter.dangling8821c :=
    HalmacAdapter.willing_holdsImage .of8821c _
  rcases (correct _ _ _ 0 0x00 _ _ _ inside dangling blank holds rfl).readsBack done with ⟨reparse, found, map⟩
  have asked : reparse.log_map 0 = 0x00 := map 0 (by decide)
  have read : (eeprom_parser_88xx .of8821c
      (proc_write_log_efuse_88xx 0 0x00 HalmacAdapter.dangling8821c).2.wifi_map).map
        (fun state => state.log_map 0) = some 0xFF := by
    decide +kernel
  have both := (congrArg (Option.map (fun state : ParserState => state.log_map 0)) found).symm.trans read
  rw [Option.map_some, asked] at both
  exact absurd both (by decide)

end Rtl8821ce
