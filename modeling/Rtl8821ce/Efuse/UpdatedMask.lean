import Rtl8821ce.Efuse.CachedMap

/-!
# The words that a mask leaves to be programmed

`update_eeprom_mask_88xx` takes the words that have their value already out of
the mask.  The sections planned from what is left turn the logical map into the
target: the masked words have their new value, all others the old one.
-/

namespace Rtl8821ce

/-- Whether a mask asks for the word of an address.  A byte of the mask describes
a row of two blocks, with the first block in its high nibble. -/
def word_enabled (mask : ByteMap) (address : Nat) : Bool :=
  (mask (address / 16)).toNat.testBit ((address % 16 / 2 + 4) % 8)

def masked_map (info : HalmacPgEfuseInfo) (log_map : ByteMap) : ByteMap := fun address =>
  if word_enabled info.mask address then info.map address else log_map address

theorem clr_bit_testBit : ∀ k : Fin 8, ∀ j, j ∈ [0, 2, 4, 6, 8, 10, 12, 14] ->
    ((clr_bit j).toNat.testBit k = true <-> j = 2 * ((k.val + 4) % 8)) := by
  decide

theorem testBit_clear (mask clear : UInt8) {k : Nat} (small : k < 8) :
    (mask &&& ~~~ clear).toNat.testBit k = (mask.toNat.testBit k && !clear.toNat.testBit k) := by
  have bits : ∀ byte : UInt8, byte.toNat.testBit k = byte.toBitVec.getLsbD k :=
    fun byte => BitVec.testBit_toNat byte.toBitVec
  rw [bits, bits, bits, UInt8.toBitVec_and, UInt8.toBitVec_not, BitVec.getLsbD_and, BitVec.getLsbD_not]
  simp only [small, decide_true, Bool.true_and]

theorem update_row_testBit {map_pg map : ByteMap} {start k : Nat} (small : k < 8) {words : List Nat} {mask : UInt8} :
    (update_row map_pg map start words mask).toNat.testBit k = true <->
      mask.toNat.testBit k = true ∧ ∀ j ∈ words, (clr_bit j).toNat.testBit k = true ->
        ¬ (map_pg (start + j) = map (start + j) ∧ map_pg (start + j + 1) = map (start + j + 1)) := by
  induction words generalizing mask with
  | nil => exact ⟨fun bit => ⟨bit, fun _ member => nomatch member⟩, fun bit => bit.1⟩
  | cons j rest ih =>
      rw [update_row, ih]
      simp only [List.forall_mem_cons]
      by_cases same : map_pg (start + j) = map (start + j) ∧ map_pg (start + j + 1) = map (start + j + 1)
      · have taken : (map_pg (start + j) == map (start + j) &&
            map_pg (start + j + 1) == map (start + j + 1)) = true := by
          rw [Bool.and_eq_true, beq_iff_eq, beq_iff_eq]
          exact same
        rw [if_pos taken, testBit_clear mask (clr_bit j) small, Bool.and_eq_true, Bool.not_eq_true']
        constructor
        · intro ⟨⟨bit, other⟩, later⟩
          refine ⟨bit, fun mine => ?_, later⟩
          rw [other] at mine
          cases mine
        · intro ⟨bit, mine, later⟩
          refine ⟨⟨bit, ?_⟩, later⟩
          rw [← Bool.not_eq_true]
          exact fun set => mine set same
      · have kept : ¬ (map_pg (start + j) == map (start + j) &&
            map_pg (start + j + 1) == map (start + j + 1)) = true := by
          rw [Bool.and_eq_true, beq_iff_eq, beq_iff_eq]
          exact same
        rw [if_neg kept]
        exact ⟨fun bits => ⟨bits.1, fun _ => same, bits.2⟩, fun bits => ⟨bits.1, bits.2.2⟩⟩

theorem pre_word_en_testBit (mask : ByteMap) (blk : Nat) {i : Nat} (small : i < 4) :
    (pre_word_en mask (8 * blk)).testBit i =
      (mask (8 * blk / 16)).toNat.testBit (((8 * blk + 2 * i) % 16 / 2 + 4) % 8) := by
  have row : (8 * blk) >>> 4 = 8 * blk / 16 := Nat.shiftRight_eq_div_pow _ 4
  have parity : ((8 * blk) >>> 3) &&& 1 = blk % 2 := by
    rw [Nat.shiftRight_eq_div_pow, Nat.and_two_pow_sub_one_eq_mod _ 1]
    omega
  rw [pre_word_en, row, parity]
  by_cases odd : blk % 2 > 0
  · have bit : ((8 * blk + 2 * i) % 16 / 2 + 4) % 8 = i := by omega
    rw [if_pos odd, bit, Nat.testBit_and]
    have low : Nat.testBit 0x0F i = true := by
      have finite : ∀ i : Fin 4, Nat.testBit 0x0F i = true := by decide
      exact finite ⟨i, small⟩
    rw [low, Bool.and_true]
  · have bit : ((8 * blk + 2 * i) % 16 / 2 + 4) % 8 = 4 + i := by omega
    rw [if_neg odd, bit, Nat.testBit_shiftRight]

theorem updated_mask_testBit {info : HalmacPgEfuseInfo} (rows : info.efuse_map_size % 16 = 0)
    (log_map : ByteMap) {blk i : Nat} (inside : 8 * blk < info.efuse_map_size) (small : i < 4) :
    (pre_word_en (updated_mask_of info log_map) (8 * blk)).testBit i = true <->
      word_enabled info.mask (8 * blk + 2 * i) = true ∧
        ¬ (info.map (8 * blk + 2 * i) = log_map (8 * blk + 2 * i) ∧
          info.map (8 * blk + 2 * i + 1) = log_map (8 * blk + 2 * i + 1)) := by
  have rowInside : 8 * blk / 16 < info.efuse_map_size >>> 4 := by
    rw [Nat.shiftRight_eq_div_pow]
    omega
  have sameRow : (8 * blk + 2 * i) / 16 = 8 * blk / 16 := by omega
  have start : (8 * blk / 16) <<< 4 = 16 * (8 * blk / 16) := by
    rw [Nat.shiftLeft_eq]
    omega
  have bit : ((8 * blk + 2 * i) % 16 / 2 + 4) % 8 < 8 := Nat.mod_lt _ (by decide)
  -- the word of this bit, counted from the start of the row
  have offset : 2 * ((((8 * blk + 2 * i) % 16 / 2 + 4) % 8 + 4) % 8) = (8 * blk + 2 * i) % 16 := by omega
  have listed : (8 * blk + 2 * i) % 16 ∈ [0, 2, 4, 6, 8, 10, 12, 14] := by
    simp only [List.mem_cons, List.not_mem_nil, or_false]
    omega
  have address : 16 * (8 * blk / 16) + (8 * blk + 2 * i) % 16 = 8 * blk + 2 * i := by omega
  rw [pre_word_en_testBit _ _ small, updated_mask_of, if_pos rowInside, update_row_testBit bit, start,
    word_enabled, sameRow]
  refine and_congr_right (fun _ => ?_)
  constructor
  · intro others
    have here := others _ listed ((clr_bit_testBit ⟨_, bit⟩ _ listed).mpr offset.symm)
    rw [address] at here
    exact here
  · intro differs j member mine
    have same := (clr_bit_testBit ⟨_, bit⟩ j member).mp mine
    rw [same, offset, address]
    exact differs

theorem apply_section_list (info : HalmacPgEfuseInfo) (mask log_map : ByteMap) {offsets : List Nat}
    (aligned : ∀ i ∈ offsets, i % 8 = 0 ∧ i >>> 3 < 128) (address : Nat) :
    apply_sections (offsets.filterMap (section_at info mask)) log_map address =
      if 8 * (address / 8) ∈ offsets ∧ (pre_word_en mask (8 * (address / 8))).testBit (address % 8 / 2) then
        info.map address
      else log_map address := by
  induction offsets generalizing log_map with
  | nil =>
      rw [if_neg (fun impossible => List.not_mem_nil impossible.1)]
      rfl
  | cons i rest ih =>
      have here := aligned i List.mem_cons_self
      have shift : i >>> 3 = i / 8 := Nat.shiftRight_eq_div_pow i 3
      have tail := fun map : ByteMap => @ih map
        (fun j member => aligned j (List.mem_cons_of_mem _ member))
      by_cases programmed : 0 < pre_word_en mask i ∧ i >>> 3 < 128
      · rw [List.filterMap_cons, section_at, dif_pos programmed]
        change apply_sections (rest.filterMap _) (overlay (i >>> 3) (pre_word_en mask i)
          (fun k => info.map (i + k)) log_map) address = _
        rw [tail, overlay]
        by_cases later : 8 * (address / 8) ∈ rest ∧
            (pre_word_en mask (8 * (address / 8))).testBit (address % 8 / 2) = true
        · rw [if_pos later, if_pos ⟨List.mem_cons_of_mem _ later.1, later.2⟩]
        · rw [if_neg later]
          by_cases mine : address / 8 = i >>> 3 ∧ (pre_word_en mask i).testBit (address % 8 / 2) = true
          · have block : 8 * (address / 8) = i := by omega
            rw [if_pos mine, if_pos ⟨List.mem_cons.mpr (Or.inl block), block.symm ▸ mine.2⟩]
            congr 1
            omega
          · rw [if_neg mine, if_neg]
            rintro ⟨member, bit⟩
            rcases List.mem_cons.mp member with same | member
            · rw [same] at bit
              exact mine ⟨by omega, bit⟩
            · exact later ⟨member, bit⟩
      · have none : pre_word_en mask i = 0 := Nat.eq_zero_of_not_pos (fun some => programmed ⟨some, here.2⟩)
        rw [List.filterMap_cons, section_at, dif_neg programmed]
        change apply_sections (rest.filterMap _) log_map address = _
        rw [tail]
        refine if_congr ?_ rfl rfl
        rw [List.mem_cons]
        constructor
        · rintro ⟨member, bit⟩
          exact ⟨Or.inr member, bit⟩
        · rintro ⟨member, bit⟩
          rcases member with same | member
          · rw [same, none, Nat.zero_testBit] at bit
            cases bit
          · exact ⟨member, bit⟩

theorem block_mem_block_offsets {info : HalmacPgEfuseInfo} (rows : info.efuse_map_size % 16 = 0)
    {address : Nat} (inside : address < info.efuse_map_size) : 8 * (address / 8) ∈ block_offsets info :=
  List.mem_map.mpr ⟨address / 8, List.mem_range.mpr (by omega), rfl⟩

theorem apply_planned {info : HalmacPgEfuseInfo} (small : info.efuse_map_size ≤ 1024)
    (rows : info.efuse_map_size % 16 = 0) (log_map : ByteMap) {address : Nat}
    (inside : address < info.efuse_map_size) :
    apply_sections (planned info (updated_mask_of info log_map)) log_map address =
      masked_map info log_map address := by
  have word : word_enabled info.mask (8 * (address / 8) + 2 * (address % 8 / 2)) =
      word_enabled info.mask address := by
    have row : (8 * (address / 8) + 2 * (address % 8 / 2)) / 16 = address / 16 := by omega
    have bit : (8 * (address / 8) + 2 * (address % 8 / 2)) % 16 / 2 = address % 16 / 2 := by omega
    rw [word_enabled, word_enabled, row, bit]
  have left := @updated_mask_testBit info rows log_map (address / 8) (address % 8 / 2)
    (by omega) (by omega)
  rw [word] at left
  rw [planned, apply_section_list info _ log_map (fun i member => mem_block_offsets small member), masked_map]
  by_cases enabled : word_enabled info.mask address = true
  · rw [if_pos enabled]
    by_cases same : info.map (8 * (address / 8) + 2 * (address % 8 / 2)) =
          log_map (8 * (address / 8) + 2 * (address % 8 / 2)) ∧
        info.map (8 * (address / 8) + 2 * (address % 8 / 2) + 1) =
          log_map (8 * (address / 8) + 2 * (address % 8 / 2) + 1)
    · rw [if_neg (fun programmed => (left.mp programmed.2).2 same)]
      by_cases even : address % 2 = 0
      · have first : 8 * (address / 8) + 2 * (address % 8 / 2) = address := by omega
        rw [first] at same
        exact same.1.symm
      · have second : 8 * (address / 8) + 2 * (address % 8 / 2) + 1 = address := by omega
        rw [second] at same
        exact same.2.symm
    · rw [if_pos ⟨block_mem_block_offsets rows inside, left.mpr ⟨enabled, same⟩⟩]
  · rw [if_neg enabled, if_neg (fun programmed => enabled (left.mp programmed.2).1)]

theorem section_at_blk {info : HalmacPgEfuseInfo} {mask : ByteMap} {i : Nat} {sec : EfuseSection}
    (found : section_at info mask i = some sec) : sec.blk = i >>> 3 ∧ sec.enabled = pre_word_en mask i := by
  unfold section_at at found
  split_ifs at found
  rw [Option.some.injEq] at found
  rw [← found]
  exact ⟨rfl, rfl⟩

theorem planned_increasing (info : HalmacPgEfuseInfo) (mask : ByteMap) :
    (planned info mask).Pairwise (fun first second => first.blk < second.blk) := by
  have offsets : (block_offsets info).Pairwise (fun first second => first >>> 3 < second >>> 3) := by
    rw [block_offsets, List.pairwise_map]
    refine List.pairwise_lt_range.imp (fun less => ?_)
    rw [Nat.shiftRight_eq_div_pow, Nat.shiftRight_eq_div_pow]
    omega
  rw [planned, List.pairwise_filterMap]
  refine offsets.imp (fun less first firstFound second secondFound => ?_)
  rw [(section_at_blk firstFound).1, (section_at_blk secondFound).1]
  exact less

theorem mem_planned {info : HalmacPgEfuseInfo} {mask : ByteMap} {sec : EfuseSection}
    (member : sec ∈ planned info mask) :
    8 * sec.blk < info.efuse_map_size ∧ sec.enabled = pre_word_en mask (8 * sec.blk) := by
  rcases List.mem_filterMap.mp member with ⟨i, listed, found⟩
  rcases List.mem_map.mp listed with ⟨blk, inside, same⟩
  rw [List.mem_range] at inside
  have block : sec.blk = blk := by
    rw [(section_at_blk found).1, ← same, Nat.shiftRight_eq_div_pow]
    omega
  rw [block]
  refine ⟨by omega, ?_⟩
  rw [(section_at_blk found).2, ← same]

theorem planned_inside {info : HalmacPgEfuseInfo} {hw_info : HwCfgInfo}
    (size : info.efuse_map_size = hw_info.eeprom_size) (rows : info.efuse_map_size % 16 = 0) {mask : ByteMap}
    {sec : EfuseSection} (member : sec ∈ planned info mask) : sec.Inside hw_info := by
  intro i small _
  have inside := (mem_planned member).1
  omega

end Rtl8821ce
