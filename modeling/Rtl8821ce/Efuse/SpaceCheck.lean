import Mathlib.Algebra.BigOperators.Group.List.Basic
import Rtl8821ce.Efuse.Append

/-!
# The space check and the programmer

`check_efuse_enough_88xx` counts the bytes that `program_efuse_88xx` is about to
write, block by block.  Both loops take a nibble of the same mask byte, but the
check tests `eeprom_offset & 7`, which is zero for every block, where the
programmer tests `(eeprom_offset >> 3) & 1`.  So the check counts the high
nibble also for the second block of a row, and its count is right exactly when
this makes no difference in the sum.
-/

namespace Rtl8821ce

theorem length_word_bytes (enabled : Nat) (data : ByteMap) (words : List Nat) :
    (word_bytes enabled data words).length = word_cost enabled words := by
  induction words with
  | nil => rfl
  | cons i rest ih =>
      rw [word_bytes, word_cost]
      by_cases selected : enabled.testBit i = true
      · rw [if_pos selected, if_pos selected, List.length_cons, List.length_cons, ih]
        omega
      · rw [if_neg selected, if_neg selected, ih, Nat.zero_add]

theorem length_block_bytes (info : HalmacPgEfuseInfo) (updated_mask : ByteMap) {i : Nat} (small : i >>> 3 < 128) :
    (block_bytes info updated_mask i).length = section_cost i (pre_word_en updated_mask i) := by
  have shift : i >>> 3 = i / 8 := Nat.shiftRight_eq_div_pow i 3
  unfold block_bytes section_at section_cost
  by_cases enabled : 0 < pre_word_en updated_mask i
  · rw [dif_pos ⟨enabled, small⟩, if_pos enabled, Option.map_some, Option.getD_some,
      EfuseSection.length_bytes, length_word_bytes]
    by_cases high : i > 0x7f
    · have two : ¬ i >>> 3 < 16 := by omega
      rw [if_pos high, EfuseSection.hdr_bytes, if_neg two]
      rfl
    · have one : i >>> 3 < 16 := by omega
      rw [if_neg high, EfuseSection.hdr_bytes, if_pos one]
      rfl
  · rw [dif_neg (fun valid => enabled valid.1), if_neg enabled]
    rfl

/-- The bytes that the programmer writes, counted as the check counts them. -/
def programmed_num (info : HalmacPgEfuseInfo) (updated_mask : ByteMap) : Nat :=
  ((block_offsets info).map (fun i => section_cost i (pre_word_en updated_mask i))).sum

theorem length_planned (info : HalmacPgEfuseInfo) (small : info.efuse_map_size ≤ 1024) (updated_mask : ByteMap) :
    (sections_bytes (planned info updated_mask)).length = programmed_num info updated_mask := by
  rw [planned, ← flatMap_block_bytes, List.length_flatMap, programmed_num]
  congr 1
  apply List.map_congr_left
  intro i member
  exact length_block_bytes info updated_mask (mem_block_offsets small member).2

def Platform.willing : Platform where
  malloc := fun _ => true
  bank_switches := fun _ => true
  read_completes := fun _ => true
  write := fun _ => ⟨true, true, true, true⟩
  h2c_pkt_readaddr_set := fun _ => false
  h2c_sent := fun _ => true

theorem Platform.willing_storing : Platform.willing.Storing := fun _ _ _ _ => rfl

def HalmacAdapter.Willing (adapter : HalmacAdapter) : Prop :=
  adapter.platform = .willing ∧ adapter.efuse_auto_check_en = false

theorem write_hw_efuse_runsThrough (offset : Nat) (value : UInt8) :
    Program.RunsThrough HalmacAdapter.Willing (write_hw_efuse_88xx offset value) := by
  intro before willing
  refine ⟨(), before.afterWrite offset value true (before.turn + 1), ?_, willing⟩
  have hardware : before.platform.write before.turn = ⟨true, true, true, true⟩ := by
    rw [willing.1]
    rfl
  have auto : (before.afterWrite offset value true (before.turn + 1)).efuse_auto_check_en = false := willing.2
  have written : write_hw_efuse_88xx offset value before =
      (if (before.afterWrite offset value true (before.turn + 1)).efuse_auto_check_en then do
          let map <- read_hw_efuse_88xx
          Program.require (map (efuse_addr offset) == value) .EFUSE_W_FAIL
        else pure () : HalmacM Unit) (before.afterWrite offset value true (before.turn + 1)) := by
    simp only [write_hw_efuse_88xx, Program.bind_apply, Program.update_apply, answer, hardware,
      Program.require_true, Program.pure_apply, Program.get_apply]
    rfl
  rw [written, auto]
  rfl

theorem pg_words_runsThrough (info : HalmacPgEfuseInfo) (pre_word_en eeprom_offset : Nat)
    (words : List Nat) (efuse_end : Nat) :
    Program.RunsThrough HalmacAdapter.Willing
      (pg_words info pre_word_en eeprom_offset words efuse_end) := by
  induction words generalizing efuse_end with
  | nil => exact Program.runsThrough_pure _ _
  | cons i rest ih =>
      rw [pg_words]
      by_cases enabled : pre_word_en.testBit i = true
      · rw [if_pos enabled]
        exact (write_hw_efuse_runsThrough _ _).bind (fun _ =>
          (write_hw_efuse_runsThrough _ _).bind (fun _ => ih _))
      · rw [if_neg enabled]
        exact ih efuse_end

theorem program_block_runsThrough (info : HalmacPgEfuseInfo) (updated_mask : ByteMap) (i : Nat) :
    Program.RunsThrough HalmacAdapter.Willing (program_block info updated_mask i) := by
  have moved : ∀ efuse_end, Program.RunsThrough HalmacAdapter.Willing
      (Program.update (fun adapter => { adapter with efuse_end := efuse_end }) : HalmacM Unit) :=
    fun efuse_end => Program.runsThrough_update (fun _ willing => willing)
  refine Program.runsThrough_ite (Program.runsThrough_ite ?_ ?_) (Program.runsThrough_pure _ _)
  · refine (Program.runsThrough_get _).bind (fun before => ?_)
    refine (write_hw_efuse_runsThrough _ _).bind (fun _ => ?_)
    refine (write_hw_efuse_runsThrough _ _).bind (fun _ => ?_)
    exact (pg_words_runsThrough _ _ _ _ _).bind moved
  · refine (Program.runsThrough_get _).bind (fun before => ?_)
    refine (write_hw_efuse_runsThrough _ _).bind (fun _ => ?_)
    exact (pg_words_runsThrough _ _ _ _ _).bind moved

theorem program_efuse_runsThrough (info : HalmacPgEfuseInfo) (updated_mask : ByteMap) :
    Program.RunsThrough HalmacAdapter.Willing (program_efuse_88xx info updated_mask) := by
  unfold program_efuse_88xx
  induction block_offsets info with
  | nil => exact Program.runsThrough_pure _ _
  | cons i rest ih =>
      exact (program_block_runsThrough info updated_mask i).bind (fun _ => ih)

/-- An 8821C adapter with a blank efuse, whose log ends at a given cell. -/
def HalmacAdapter.blank8821c (efuse_end : Nat) : HalmacAdapter where
  hw_cfg_info := .of8821c
  cmd_cnstr_state := .IDLE
  proc_status := .IDLE
  efuse_map := none
  efuse_map_valid := false
  efuse_end := efuse_end
  efuse_auto_check_en := false
  dlfw_state := .NONE
  phy_efuse_map := false
  log_efuse_map := false
  bank := 0
  cells := fun _ => ByteMap.blank
  written := []
  platform := .willing
  turn := 0

theorem HalmacAdapter.blank8821c_willing (efuse_end : Nat) : (blank8821c efuse_end).Willing :=
  ⟨rfl, rfl⟩

/-- The blocks of a row that the mask byte describes in its low nibble. -/
def odd_offsets (info : HalmacPgEfuseInfo) : List Nat :=
  (block_offsets info).filter (fun i => ((i >>> 3) &&& 1) > 0)

/-- Over the second blocks of the rows, the high nibbles of the mask cost as
much as the low ones. -/
def NibblesBalance (info : HalmacPgEfuseInfo) (updated_mask : ByteMap) : Prop :=
  ((odd_offsets info).map (fun i => section_cost i ((updated_mask (i >>> 4)).toNat >>> 4))).sum =
    ((odd_offsets info).map (fun i => section_cost i ((updated_mask (i >>> 4)).toNat &&& 0x0F))).sum

instance (info : HalmacPgEfuseInfo) (updated_mask : ByteMap) :
    Decidable (NibblesBalance info updated_mask) := inferInstanceAs (Decidable (_ = _))

theorem check_word_en_eq {info : HalmacPgEfuseInfo} (small : info.efuse_map_size ≤ 1024)
    (updated_mask : ByteMap) {i : Nat} (member : i ∈ block_offsets info) :
    check_word_en updated_mask i = (updated_mask (i >>> 4)).toNat >>> 4 := by
  have aligned := (mem_block_offsets small member).1
  have inner : ¬ (i &&& 7) > 0 := by
    rw [Nat.and_two_pow_sub_one_eq_mod i 3, aligned]
    exact Nat.lt_irrefl 0
  rw [check_word_en, if_neg inner]

theorem pg_num_eq_iff (info : HalmacPgEfuseInfo) (small : info.efuse_map_size ≤ 1024) (updated_mask : ByteMap) :
    pg_num info updated_mask = programmed_num info updated_mask <-> NibblesBalance info updated_mask := by
  have counted : pg_num info updated_mask = ((block_offsets info).map
      (fun i => section_cost i ((updated_mask (i >>> 4)).toNat >>> 4))).sum := by
    rw [pg_num]
    congr 1
    apply List.map_congr_left
    intro i member
    rw [check_word_en_eq small updated_mask member]
  have split := fun cost : Nat -> Nat =>
    List.sum_map_filter_add_sum_map_filter_not (fun i => ((i >>> 3) &&& 1) > 0) cost (block_offsets info)
  -- the two loops agree on the first block of each row
  have even : (((block_offsets info).filter (fun i => ¬ ((i >>> 3) &&& 1) > 0)).map
        (fun i => section_cost i (pre_word_en updated_mask i))) =
      (((block_offsets info).filter (fun i => ¬ ((i >>> 3) &&& 1) > 0)).map
        (fun i => section_cost i ((updated_mask (i >>> 4)).toNat >>> 4))) := by
    apply List.map_congr_left
    intro i member
    rw [pre_word_en, if_neg (of_decide_eq_true (List.mem_filter.mp member).2)]
  have odd : (odd_offsets info).map (fun i => section_cost i (pre_word_en updated_mask i)) =
      (odd_offsets info).map (fun i => section_cost i ((updated_mask (i >>> 4)).toNat &&& 0x0F)) := by
    apply List.map_congr_left
    intro i member
    rw [pre_word_en, if_pos (of_decide_eq_true (List.mem_filter.mp member).2)]
  rw [counted, programmed_num, ← split, ← split (fun i => section_cost i (pre_word_en updated_mask i)),
    even, Nat.add_right_cancel_iff]
  change _ = ((odd_offsets info).map _).sum <-> _
  rw [odd]
  rfl

/-- What the space check is for: its count is the number of bytes that a
successful run writes, and after it has succeeded no run writes a cell that is
not for logical data. -/
structure SpaceCheckAgrees (info : HalmacPgEfuseInfo) (updated_mask : ByteMap) : Prop where
  counts : ∀ before after : HalmacAdapter,
    program_efuse_88xx info updated_mask before = (.ok (), after) ->
      after.written.length = before.written.length + pg_num info updated_mask
  confines : ∀ before checked after : HalmacAdapter, ∀ result,
    check_efuse_enough_88xx info updated_mask before = (.ok (), checked) ->
      program_efuse_88xx info updated_mask checked = (result, after) ->
        ∀ entry ∈ after.written,
          entry ∈ before.written ∨ entry.1 < before.hw_cfg_info.limit

theorem program_efuse_counts {info : HalmacPgEfuseInfo} (small : info.efuse_map_size ≤ 1024)
    {updated_mask : ByteMap} {before after : HalmacAdapter}
    (success : program_efuse_88xx info updated_mask before = (.ok (), after)) :
    after.written.length = before.written.length + programmed_num info updated_mask := by
  rcases (program_efuse_programs info small updated_mask before).1 with
    ⟨_, final, ran, appended⟩ | ⟨_, _, _, _, failed, _⟩
  · rw [success, Prod.mk.injEq] at ran
    rw [ran.2, appended.written, List.length_append, length_numbered, length_planned info small]
  · rw [success] at failed
    cases failed

theorem program_efuse_range {info : HalmacPgEfuseInfo} (small : info.efuse_map_size ≤ 1024)
    {updated_mask : ByteMap} {before after : HalmacAdapter} {result : Except HalmacRet Unit}
    (ran : program_efuse_88xx info updated_mask before = (result, after)) {entry : Nat × UInt8}
    (member : entry ∈ after.written) :
    entry ∈ before.written ∨
      (before.efuse_end ≤ entry.1 ∧ entry.1 < before.efuse_end + programmed_num info updated_mask) := by
  have whole := length_planned info small updated_mask
  rcases (program_efuse_programs info small updated_mask before).1 with
    ⟨_, final, success, appended⟩ | ⟨_, final, tried, stored, failed, _, most, appended⟩
  · rw [ran, Prod.mk.injEq] at success
    rw [success.2, appended.written] at member
    rcases List.mem_append.mp member with old | new
    · exact Or.inl old
    · have bounds := mem_numbered new
      rw [whole] at bounds
      exact Or.inr bounds
  · rw [ran, Prod.mk.injEq] at failed
    rw [failed.2, appended.written] at member
    rcases List.mem_append.mp member with old | new
    · exact Or.inl old
    · have bounds := mem_numbered new
      rw [List.length_take] at bounds
      exact Or.inr (by omega)

theorem check_efuse_enough_room {info : HalmacPgEfuseInfo} {updated_mask : ByteMap} {before checked : HalmacAdapter}
    (success : check_efuse_enough_88xx info updated_mask before = (.ok (), checked)) :
    checked = before ∧
      before.efuse_end + pg_num info updated_mask < before.hw_cfg_info.limit := by
  rw [check_efuse_enough_88xx, Program.bind_of_ok (Program.get_apply before), Program.require_eq_ok] at success
  have room := of_decide_eq_true success.1
  refine ⟨success.2, ?_⟩
  unfold HwCfgInfo.limit
  omega

/-- The space check agrees with the programmer exactly when the nibbles of the
mask balance. -/
theorem spaceCheckAgrees_iff (info : HalmacPgEfuseInfo) (small : info.efuse_map_size ≤ 1024)
    (updated_mask : ByteMap) : SpaceCheckAgrees info updated_mask <-> NibblesBalance info updated_mask := by
  rw [← pg_num_eq_iff info small]
  constructor
  · intro agrees
    rcases program_efuse_runsThrough info updated_mask
      (HalmacAdapter.blank8821c 0) (HalmacAdapter.blank8821c_willing 0) with ⟨_, after, success, _⟩
    have byCheck := agrees.counts _ _ success
    rw [program_efuse_counts small success] at byCheck
    exact (Nat.add_left_cancel byCheck).symm
  · intro equal
    refine ⟨?_, ?_⟩
    · intro before after success
      rw [program_efuse_counts small success, equal]
    · intro before checked after result enough ran entry member
      rcases check_efuse_enough_room enough with ⟨same, room⟩
      rw [same] at ran
      rcases program_efuse_range small ran member with old | new
      · exact Or.inl old
      · rw [← equal] at new
        exact Or.inr (Nat.lt_trans new.2 room)

/-- A target of zeros whose mask asks for the four words of block 1 only. -/
def HalmacPgEfuseInfo.secondBlock : HalmacPgEfuseInfo where
  efuse_map := some (fun _ => 0x00)
  efuse_map_size := 512
  efuse_mask := some (fun row => if row = 0 then 0x0F else 0x00)
  efuse_mask_size := 32

/-- With one cell left the check counts no byte at all, and the programmer goes
on into the protected cells. -/
theorem program_passes_limit_after_check :
    ¬ SpaceCheckAgrees .secondBlock (updated_mask_of .secondBlock ByteMap.blank) := by
  intro agrees
  have enough : check_efuse_enough_88xx .secondBlock (updated_mask_of .secondBlock ByteMap.blank)
      (HalmacAdapter.blank8821c 415) = (.ok (), HalmacAdapter.blank8821c 415) := by
    rw [check_efuse_enough_88xx, Program.bind_of_ok (Program.get_apply _), Program.require_eq_ok]
    exact ⟨by decide +kernel, rfl⟩
  have passed : (423, 0x00) ∈ (program_efuse_88xx .secondBlock
      (updated_mask_of .secondBlock ByteMap.blank) (HalmacAdapter.blank8821c 415)).2.written := by
    decide +kernel
  rcases agrees.confines _ _ _ _ enough Prod.mk.eta.symm _ passed with old | below
  · cases old
  · exact absurd below (by decide)

/-- A target of zeros whose mask asks for a word in each block. -/
def HalmacPgEfuseInfo.firstWords : HalmacPgEfuseInfo where
  efuse_map := some (fun _ => 0x00)
  efuse_map_size := 512
  efuse_mask := some (fun _ => 0x11)
  efuse_mask_size := 32

theorem spaceCheckAgrees_firstWords : SpaceCheckAgrees .firstWords (updated_mask_of .firstWords ByteMap.blank) :=
  (spaceCheckAgrees_iff .firstWords (by decide) _).mpr (by decide +kernel)

end Rtl8821ce
