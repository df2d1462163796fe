import Rtl8821ce.Efuse.BtWrite

/-!
# A packet in the Bluetooth efuse

What the cells hold behind the end of the log after a packet was written, and what became of each
of the writes.
-/

namespace Rtl8821ce
namespace BtEfuse

open Function (update_of_ne update_self)

variable {chip : BtChip}

/-- Only the cells of a range were written, with the writes to them that were still to come, and
nothing was counted. -/
structure BtChip.Touches (first past : Nat) (before after : BtChip) : Prop where
  cells : ∀ place, place < first ∨ past ≤ place -> after.cells place = before.cells place
  stores : ∀ place, place < first ∨ past ≤ place -> after.stores place = before.stores place
  written : ∀ place ∈ after.written, place ∈ before.written ∨ place < EFUSE_BT_REAL_CONTENT_LEN
  count : after.fakeBTEfuseUsedBytes = before.fakeBTEfuseUsedBytes

theorem BtChip.Touches.refl (first past : Nat) (chip : BtChip) : BtChip.Touches first past chip chip :=
  ⟨fun _ _ => rfl, fun _ _ => rfl, fun _ member => Or.inl member, rfl⟩

theorem BtChip.Touches.widen {first past wide_first wide_past : Nat} {before after : BtChip}
    (touches : BtChip.Touches first past before after) (low : wide_first ≤ first) (high : past ≤ wide_past) :
    BtChip.Touches wide_first wide_past before after where
  cells := fun place outside => touches.cells place (by omega)
  stores := fun place outside => touches.stores place (by omega)
  written := touches.written
  count := touches.count

theorem BtChip.Touches.trans {first past : Nat} {before middle after : BtChip}
    (one : BtChip.Touches first past before middle) (two : BtChip.Touches first past middle after) :
    BtChip.Touches first past before after where
  cells := fun place outside => (two.cells place outside).trans (one.cells place outside)
  stores := fun place outside => (two.stores place outside).trans (one.stores place outside)
  written := fun place member => (two.written place member).elim (one.written place) Or.inr
  count := two.count.trans one.count

theorem write_touches (chip : BtChip) (addr : Nat) (data : UInt8) :
    chip.Touches addr (addr + 1) (rtw_efuse_bt_write chip addr data) := by
  by_cases outside : addr + 1 > EFUSE_BT_REAL_CONTENT_LEN
  · rw [rtw_efuse_bt_write, if_pos outside]
    exact BtChip.Touches.refl _ _ chip
  · rw [rtw_efuse_bt_write, if_neg outside]
    refine ⟨fun place other => ?_, fun place other => ?_, fun place member => ?_, rfl⟩
    · have different : place ≠ addr := by omega
      change (if chip.stores addr 0 = true then Function.update chip.cells addr data else chip.cells) place = _
      split
      · exact update_of_ne different _ _
      · rfl
    · have different : place ≠ addr := by omega
      exact update_of_ne different _ _
    · rcases List.mem_cons.mp member with same | old
      · exact Or.inr (same ▸ Nat.not_lt.mp outside)
      · exact Or.inl old

theorem write_cell {addr : Nat} (inside : addr < EFUSE_BT_REAL_CONTENT_LEN) (blank : chip.cells addr = 0xFF)
    (data : UInt8) : (rtw_efuse_bt_write chip addr data).cells addr = if chip.stores addr 0 then data else 0xFF := by
  rw [rtw_efuse_bt_write, if_neg (Nat.not_lt.mpr inside)]
  change (if chip.stores addr 0 = true then Function.update chip.cells addr data else chip.cells) addr = _
  by_cases stored : chip.stores addr 0 = true
  · rw [if_pos stored, if_pos stored, update_self]
  · rw [if_neg stored, if_neg stored, blank]

theorem write_next {addr : Nat} (inside : addr < EFUSE_BT_REAL_CONTENT_LEN) (data : UInt8) (n : Nat) :
    (rtw_efuse_bt_write chip addr data).stores addr n = chip.stores addr (n + 1) := by
  rw [rtw_efuse_bt_write, if_neg (Nat.not_lt.mpr inside)]
  change Function.update chip.stores addr _ addr n = _
  rw [update_self]

theorem repeat_write_outcome {efuse_addr : Nat} (inside : efuse_addr < EFUSE_BT_REAL_CONTENT_LEN)
    {pg_header : UInt8} (used : pg_header ≠ 0xFF) (left : Nat) (tmp_header : UInt8) {chip : BtChip}
    (blank : chip.cells efuse_addr = 0xFF) :
    ∃ after : BtChip, chip.Touches efuse_addr (efuse_addr + 1) after ∧
      ((∃ n, n ≤ left ∧ chip.stores efuse_addr n = true ∧
          (∀ m, m < n -> chip.stores efuse_addr m = false) ∧
          repeat_write efuse_addr pg_header left tmp_header chip = (some (pg_header, left - n), after) ∧
          after.cells efuse_addr = pg_header) ∨
        (∀ n, n ≤ left -> chip.stores efuse_addr n = false) ∧
          repeat_write efuse_addr pg_header left tmp_header chip = (none, after) ∧
          after.cells efuse_addr = 0xFF) := by
  induction left generalizing tmp_header chip with
  | zero =>
      have touches := write_touches chip efuse_addr pg_header
      have cell := write_cell inside blank pg_header
      refine ⟨_, touches, ?_⟩
      rw [repeat_write, bt_read_inside inside, Option.getD_some]
      cases stored : chip.stores efuse_addr 0 with
      | true =>
          rw [stored, if_pos rfl] at cell
          rw [cell, if_pos used]
          exact Or.inl ⟨0, Nat.le_refl _, stored, fun m below => absurd below (Nat.not_lt_zero m), rfl, rfl⟩
      | false =>
          rw [stored, if_neg Bool.false_ne_true] at cell
          rw [cell, if_neg (not_not.mpr rfl)]
          exact Or.inr ⟨fun n first => Nat.le_zero.mp first ▸ stored, rfl, rfl⟩
  | succ left ih =>
      have touches := write_touches chip efuse_addr pg_header
      have cell := write_cell inside blank pg_header
      rw [repeat_write, bt_read_inside inside, Option.getD_some]
      cases stored : chip.stores efuse_addr 0 with
      | true =>
          rw [stored, if_pos rfl] at cell
          rw [cell, if_pos used]
          exact ⟨_, touches,
            Or.inl ⟨0, Nat.zero_le _, stored, fun m below => absurd below (Nat.not_lt_zero m), rfl, cell⟩⟩
      | false =>
          rw [stored, if_neg Bool.false_ne_true] at cell
          rw [cell, if_neg (not_not.mpr rfl)]
          have ⟨after, again, outcome⟩ := ih 0xFF cell
          refine ⟨after, touches.trans again, ?_⟩
          rcases outcome with ⟨n, bound, here, earlier, wrote, holds⟩ | ⟨never, failed, still⟩
          · rw [write_next inside] at here
            refine Or.inl ⟨n + 1, Nat.succ_le_succ bound, here, fun m below => ?_, ?_, holds⟩
            · cases m with
              | zero => exact stored
              | succ m => exact (write_next inside pg_header m).symm.trans (earlier m (Nat.lt_of_succ_lt_succ below))
            · rw [Nat.succ_sub_succ]
              exact wrote
          · refine Or.inr ⟨fun n bound => ?_, failed, still⟩
            cases n with
            | zero => exact stored
            | succ n => exact (write_next inside pg_header n).symm.trans (never n (Nat.le_of_succ_le_succ bound))

theorem written_headers :
    (∀ blk : Fin 16, ∀ word_en : Fin 15,
      UInt8.ofNat (((blk.val <<< 4) &&& 0xf0) ||| word_en) = plain_hdr blk word_en) ∧
    (∀ blk : Fin 128, UInt8.ofNat (((blk.val &&& 0x07) <<< 5) ||| 0x0F) = ext_hdr blk) ∧
    (∀ blk : Fin 128, ∀ word_en : Fin 15,
      UInt8.ofNat (((blk.val &&& 0x78) <<< 1) ||| word_en) = ext_hdr2 blk word_en) := by
  decide +kernel

theorem headers_used (sec : EfuseSection) :
    (sec.blk < 16 -> plain_hdr sec.blk sec.word_en ≠ 0xFF) ∧ ext_hdr sec.blk ≠ 0xFF ∧
      ext_hdr2 sec.blk sec.word_en ≠ 0xFF := by
  have word_en := sec.word_en_lt
  refine ⟨fun low => ?_, ?_, ?_⟩
  · exact (plain_hdr_reads ⟨sec.blk, low⟩ ⟨sec.word_en, word_en⟩).2.1
  · exact (ext_hdr_misread ⟨sec.blk, sec.blk_lt⟩ ⟨sec.word_en, word_en⟩).1
  · exact (ext_hdr_reads ⟨sec.blk, sec.blk_lt⟩ ⟨sec.word_en, word_en⟩).2.1

/-- The writes of the header are stored, with four failures at most. -/
def HeaderStored (stores : Nat -> Nat -> Bool) (place : Nat) (sec : EfuseSection) : Prop :=
  if sec.blk < 16 then ∃ n, n ≤ 4 ∧ stores place n = true
  else ∃ n m, n + m ≤ 4 ∧ stores place n = true ∧ stores (place + 1) m = true

/-- What the writer of the header leaves when it fails: nothing, or the first of two bytes. -/
def HeaderTorn (sec : EfuseSection) (place : Nat) (before after : BtChip) : Prop :=
  after.cells = before.cells ∨ after.cells = Function.update before.cells place (ext_hdr sec.blk)

def pkt_of (sec : EfuseSection) : PgPkt := ⟨sec.blk, sec.word_en, sec.data⟩

theorem cells_of_touches {first past : Nat} {before after : BtChip} (touches : before.Touches first past after)
    (same : ∀ place, first ≤ place -> place < past -> after.cells place = before.cells place) :
    after.cells = before.cells := by
  funext place
  by_cases inside : first ≤ place ∧ place < past
  · exact same place inside.1 inside.2
  · exact touches.cells place (by omega)

theorem write_header_outcome (sec : EfuseSection) {place : Nat} {chip : BtChip}
    (inside : place + 1 < EFUSE_BT_REAL_CONTENT_LEN) (blank : chip.cells place = 0xFF)
    (next_blank : chip.cells (place + 1) = 0xFF) :
    ∃ after : BtChip, chip.Touches place (place + sec.hdr_bytes.length) after ∧
      (HeaderStored chip.stores place sec ∧
          hal_EfusePgPacketWriteHeader chip place (pkt_of sec) = (some (place + sec.hdr_bytes.length - 1), after) ∧
          HoldsAt after.cells place sec.hdr_bytes ∨
        ¬ HeaderStored chip.stores place sec ∧
          hal_EfusePgPacketWriteHeader chip place (pkt_of sec) = (none, after) ∧ HeaderTorn sec place chip after) := by
  have ⟨plain, first_byte, second_byte⟩ := written_headers
  have ⟨plain_used, first_used, second_used⟩ := headers_used sec
  have available : place < EFUSE_BT_REAL_CONTENT_LEN := Nat.lt_of_succ_lt inside
  rw [hal_EfusePgPacketWriteHeader, HeaderStored, EfuseSection.hdr_bytes]
  by_cases low : sec.blk < 16
  · have ⟨after, touches, outcome⟩ := @repeat_write_outcome place available _ (plain_used low) 4 0 chip blank
    have header : UInt8.ofNat ((((pkt_of sec).offset <<< 4) &&& 0xf0) ||| (pkt_of sec).word_en) =
        plain_hdr sec.blk sec.word_en := plain ⟨sec.blk, low⟩ ⟨sec.word_en, sec.word_en_lt⟩
    rw [if_neg (Nat.not_le.mpr low : ¬ (pkt_of sec).offset ≥ EFUSE_MAX_SECTION_BASE), if_pos low, if_pos low,
      hal_EfusePgPacketWrite1ByteHeader, header]
    refine ⟨after, touches, ?_⟩
    rcases outcome with ⟨n, bound, stored, _, wrote, holds⟩ | ⟨never, failed, still⟩
    · rw [EFUSE_REPEAT_THRESHOLD_, wrote]
      dsimp only
      rw [if_neg (not_not.mpr rfl)]
      exact Or.inl ⟨⟨n, bound, stored⟩, rfl, holdsAt_cons.mpr ⟨holds, holdsAt_nil _ _⟩⟩
    · rw [EFUSE_REPEAT_THRESHOLD_, failed]
      refine Or.inr ⟨fun ⟨n, bound, stored⟩ => ?_, rfl, Or.inl ?_⟩
      · exact Bool.false_ne_true ((never n bound).symm.trans stored)
      · refine cells_of_touches touches (fun other above below => ?_)
        have same : other = place := by omega
        rw [same, still, blank]
  · have high : EFUSE_MAX_SECTION_BASE ≤ (pkt_of sec).offset := Nat.le_of_not_lt low
    have first_header : UInt8.ofNat ((((pkt_of sec).offset &&& 0x07) <<< 5) ||| 0x0F) = ext_hdr sec.blk :=
      first_byte ⟨sec.blk, sec.blk_lt⟩
    have second_header : UInt8.ofNat ((((pkt_of sec).offset &&& 0x78) <<< 1) ||| (pkt_of sec).word_en) =
        ext_hdr2 sec.blk sec.word_en := second_byte ⟨sec.blk, sec.blk_lt⟩ ⟨sec.word_en, sec.word_en_lt⟩
    have ⟨middle, touches, outcome⟩ := @repeat_write_outcome place available _ first_used 4 0 chip blank
    rw [if_pos high, if_neg low, if_neg low, hal_EfusePgPacketWrite2ByteHeader, if_neg (Nat.not_le.mpr available),
      first_header, second_header, EFUSE_REPEAT_THRESHOLD_]
    dsimp only
    have wide : chip.Touches place (place + 2) middle := touches.widen (Nat.le_refl _) (by omega)
    rcases outcome with ⟨n, bound, stored, earlier, wrote, holds⟩ | ⟨never, failed, still⟩
    · have next_cell : middle.cells (place + 1) = 0xFF :=
        (touches.cells _ (Or.inr (Nat.le_refl _))).trans next_blank
      have next_stores : middle.stores (place + 1) = chip.stores (place + 1) :=
        touches.stores _ (Or.inr (Nat.le_refl _))
      have ⟨after, again, second⟩ :=
        @repeat_write_outcome (place + 1) inside _ second_used (4 - n) (ext_hdr sec.blk) middle next_cell
      have first_kept : after.cells place = ext_hdr sec.blk :=
        (again.cells place (Or.inl (Nat.lt_succ_self _))).trans holds
      refine ⟨after, wide.trans (again.widen (Nat.le_succ _) (Nat.le_refl _)), ?_⟩
      rw [wrote]
      dsimp only
      rw [if_neg (not_not.mpr rfl)]
      rw [next_stores] at second
      rcases second with ⟨m, rest, second_stored, _, wrote_second, second_holds⟩ | ⟨never, failed, still⟩
      · rw [wrote_second]
        dsimp only
        rw [if_neg (not_not.mpr rfl)]
        refine Or.inl ⟨⟨n, m, by omega, stored, second_stored⟩, rfl, ?_⟩
        exact holdsAt_cons.mpr ⟨first_kept, holdsAt_cons.mpr ⟨second_holds, holdsAt_nil _ _⟩⟩
      · rw [failed]
        refine Or.inr ⟨fun ⟨first, second, bound, here, there⟩ => ?_, rfl, Or.inr ?_⟩
        · -- the first byte cannot have been stored any earlier
          have later : n ≤ first := by
            by_contra sooner
            exact Bool.false_ne_true ((earlier first (by omega)).symm.trans here)
          exact Bool.false_ne_true ((never second (by omega)).symm.trans there)
        · funext other
          by_cases same : other = place
          · rw [same, first_kept, update_self]
          · rw [update_of_ne same]
            by_cases second_place : other = place + 1
            · rw [second_place, still, next_blank]
            · rw [again.cells other (by omega), touches.cells other (by omega)]
    · refine ⟨middle, wide, Or.inr ⟨fun ⟨n, m, bound, here, _⟩ => ?_, ?_, Or.inl ?_⟩⟩
      · exact Bool.false_ne_true ((never n (by omega)).symm.trans here)
      · rw [failed]
      · refine cells_of_touches touches (fun other above below => ?_)
        have same : other = place := by omega
        rw [same, still, blank]

/-! ## Words -/

/-- Each byte of the enabled words is stored by its only write, or it is blank anyway. -/
def WordsStored (stores : Nat -> Nat -> Bool) (enabled : Nat) (data : ByteMap) : List Nat -> Nat -> Prop
  | [], _ => True
  | i :: rest, place =>
      if enabled.testBit i then
        (data (2 * i) = 0xFF ∨ stores place 0 = true) ∧ (data (2 * i + 1) = 0xFF ∨ stores (place + 1) 0 = true) ∧
          WordsStored stores enabled data rest (place + 2)
      else WordsStored stores enabled data rest place

/-- Cells that held the words of some data hold the words of the data wanted. -/
def SameWords (enabled : Nat) (kept data : ByteMap) (words : List Nat) : Prop :=
  ∀ i ∈ words, enabled.testBit i = true -> kept (2 * i) = data (2 * i) ∧ kept (2 * i + 1) = data (2 * i + 1)

theorem sameWords_cons {enabled : Nat} {kept data : ByteMap} {i : Nat} {rest : List Nat} :
    SameWords enabled kept data (i :: rest) <->
      (enabled.testBit i = true -> kept (2 * i) = data (2 * i) ∧ kept (2 * i + 1) = data (2 * i + 1)) ∧
        SameWords enabled kept data rest := List.forall_mem_cons

theorem exists_held (cells : ByteMap) (enabled : Nat) {words : List Nat} (distinct : words.Nodup) (place : Nat) :
    ∃ kept : ByteMap, HoldsAt cells place (word_bytes enabled kept words) := by
  induction words generalizing place with
  | nil => exact ⟨cells, holdsAt_nil _ _⟩
  | cons i rest ih =>
      obtain ⟨new, rest_distinct⟩ := List.nodup_cons.mp distinct
      cases selected : enabled.testBit i with
      | false =>
          obtain ⟨kept, holds⟩ := ih rest_distinct place
          refine ⟨kept, ?_⟩
          rw [word_bytes, selected]
          exact holds
      | true =>
          obtain ⟨kept, holds⟩ := ih rest_distinct (place + 2)
          have agree : ∀ words : List Nat, i ∉ words ->
              word_bytes enabled (Function.update (Function.update kept (2 * i) (cells place)) (2 * i + 1)
                (cells (place + 1))) words = word_bytes enabled kept words := by
            intro words
            induction words with
            | nil => exact fun _ => rfl
            | cons j others ih =>
                intro absent
                have different : j ≠ i := fun same => absent (same ▸ List.mem_cons_self)
                have low : 2 * j ≠ 2 * i ∧ 2 * j ≠ 2 * i + 1 := by omega
                have high : 2 * j + 1 ≠ 2 * i ∧ 2 * j + 1 ≠ 2 * i + 1 := by omega
                rw [word_bytes, word_bytes, ih (fun member => absent (List.mem_cons_of_mem _ member)),
                  update_of_ne low.2, update_of_ne low.1, update_of_ne high.2,
                  update_of_ne high.1]
          refine ⟨Function.update (Function.update kept (2 * i) (cells place)) (2 * i + 1) (cells (place + 1)), ?_⟩
          rw [word_bytes, selected, if_pos rfl, agree rest new, holdsAt_cons, holdsAt_cons, update_self,
            update_of_ne (by omega), update_self]
          exact ⟨rfl, rfl, holds⟩

theorem word_writes_bad (word_en : Nat) (data : ByteMap) (words : List Nat) (start badworden : Nat) (chip : BtChip)
    {k : Nat} (bad : badworden.testBit k = false) :
    (word_writes word_en data words start badworden chip).1.testBit k = false := by
  induction words generalizing start badworden chip with
  | nil => exact bad
  | cons i rest ih =>
      rw [word_writes]
      split
      · exact ih _ _ _ bad
      · refine ih _ _ _ ?_
        split
        · rw [Nat.testBit_and, bad, Bool.false_and]
        · exact bad

theorem write_word_outcome {start : Nat} (inside : start + 2 ≤ EFUSE_BT_REAL_CONTENT_LEN) {chip : BtChip}
    (blank : chip.cells start = 0xFF) (next_blank : chip.cells (start + 1) = 0xFF) (low high : UInt8) :
    ∃ after : BtChip, rtw_efuse_bt_write (rtw_efuse_bt_write chip start low) (start + 1) high = after ∧
      chip.Touches start (start + 2) after ∧
      after.cells start = (if chip.stores start 0 then low else 0xFF) ∧
      after.cells (start + 1) = (if chip.stores (start + 1) 0 then high else 0xFF) := by
  have first := write_touches chip start low
  have second := write_touches (rtw_efuse_bt_write chip start low) (start + 1) high
  have first_inside : start < EFUSE_BT_REAL_CONTENT_LEN := by omega
  have next_cell := (first.cells (start + 1) (Or.inr (Nat.le_refl _))).trans next_blank
  have next_stores := first.stores (start + 1) (Or.inr (Nat.le_refl _))
  refine ⟨_, rfl, (first.widen (Nat.le_refl _) (Nat.le_succ _)).trans (second.widen (Nat.le_succ _) (Nat.le_refl _)),
    ?_, ?_⟩
  · rw [second.cells start (Or.inl (Nat.lt_succ_self _)), write_cell first_inside blank]
  · rw [write_cell inside next_cell, next_stores]

theorem kept_iff (stored : Bool) (byte : UInt8) :
    (if stored then byte else 0xFF) = byte <-> byte = 0xFF ∨ stored = true := by
  cases stored with
  | true => exact iff_of_true rfl (Or.inr rfl)
  | false =>
      rw [if_neg Bool.false_ne_true, or_iff_left Bool.false_ne_true]
      exact eq_comm

theorem sameWords_bytes {enabled : Nat} {kept data : ByteMap} {words : List Nat}
    (same : SameWords enabled kept data words) : word_bytes enabled kept words = word_bytes enabled data words := by
  induction words with
  | nil => rfl
  | cons i rest ih =>
      have ⟨here, later⟩ := sameWords_cons.mp same
      rw [word_bytes, word_bytes, ih later]
      cases selected : enabled.testBit i with
      | true => rw [(here selected).1, (here selected).2]
      | false => rfl

theorem length_word_bytes (enabled : Nat) (kept data : ByteMap) (words : List Nat) :
    (word_bytes enabled kept words).length = (word_bytes enabled data words).length := by
  induction words with
  | nil => rfl
  | cons i rest ih =>
      rw [word_bytes, word_bytes]
      split
      · rw [List.length_cons, List.length_cons, List.length_cons, List.length_cons, ih]
      · exact ih

theorem wordsStored_congr {stores other : Nat -> Nat -> Bool} (enabled : Nat) (data : ByteMap) (words : List Nat)
    {place : Nat} (agree : ∀ later, place ≤ later -> other later = stores later) :
    WordsStored other enabled data words place <-> WordsStored stores enabled data words place := by
  induction words generalizing place with
  | nil => exact Iff.rfl
  | cons i rest ih =>
      have agree_rest : ∀ later, place + 2 ≤ later -> other later = stores later :=
        fun later above => agree later (by omega)
      rw [WordsStored, WordsStored, ih agree, ih agree_rest,
        agree place (Nat.le_refl _), agree (place + 1) (Nat.le_succ _)]

theorem word_writes_outcome {word_en enabled : Nat} (data : ByteMap) {words : List Nat} (small : ∀ i ∈ words, i < 4)
    (complement : ∀ i ∈ words, word_en.testBit i = !enabled.testBit i) {start : Nat} (badworden : Nat)
    {chip : BtChip} (fits : start + (word_bytes enabled data words).length ≤ EFUSE_BT_REAL_CONTENT_LEN)
    (blank : ∀ place, start ≤ place -> place < EFUSE_BT_REAL_CONTENT_LEN -> chip.cells place = 0xFF) :
    ∃ after : BtChip, ∃ bad : Nat,
      word_writes word_en data words start badworden chip = (bad, after) ∧
      chip.Touches start (start + (word_bytes enabled data words).length) after ∧
      (∀ kept, HoldsAt after.cells start (word_bytes enabled kept words) ->
        (WordsStored chip.stores enabled data words start <-> SameWords enabled kept data words)) ∧
      (WordsStored chip.stores enabled data words start -> bad = badworden) ∧
      (¬ WordsStored chip.stores enabled data words start -> ∃ k, k < 4 ∧ bad.testBit k = false) := by
  induction words generalizing start badworden chip with
  | nil =>
      exact ⟨chip, badworden, rfl, BtChip.Touches.refl _ _ chip,
        fun kept _ => iff_of_true trivial (fun _ member => absurd member List.not_mem_nil), fun _ => rfl,
        fun torn => absurd trivial torn⟩
  | cons i rest ih =>
      have small_rest : ∀ j ∈ rest, j < 4 := fun j member => small j (List.mem_cons_of_mem _ member)
      have complement_rest : ∀ j ∈ rest, word_en.testBit j = !enabled.testBit j :=
        fun j member => complement j (List.mem_cons_of_mem _ member)
      rw [word_writes, complement i List.mem_cons_self, WordsStored]
      cases selected : enabled.testBit i with
      | false =>
          rw [word_bytes, selected] at fits
          obtain ⟨after, bad, wrote, touches, same, good, torn⟩ :=
            ih small_rest complement_rest badworden fits blank
          refine ⟨after, bad, wrote, ?_, fun kept holds => ?_, good, torn⟩
          · rw [word_bytes, selected]
            exact touches
          · rw [word_bytes, selected] at holds
            rw [sameWords_cons, selected, and_iff_right (absurd · Bool.false_ne_true)]
            exact same kept holds
      | true =>
          have bytes : (word_bytes enabled data (i :: rest)).length = (word_bytes enabled data rest).length + 2 := by
            rw [word_bytes, selected, if_pos rfl, List.length_cons, List.length_cons]
          rw [bytes] at fits ⊢
          have inside : start + 2 ≤ EFUSE_BT_REAL_CONTENT_LEN := by omega
          obtain ⟨middle, wrote_word, touches_word, low, high⟩ := @write_word_outcome start inside chip
            (blank start (Nat.le_refl _) (by omega)) (blank (start + 1) (Nat.le_succ _) (by omega))
            (data (2 * i)) (data (2 * i + 1))
          have blank_rest : ∀ place, start + 2 ≤ place -> place < EFUSE_BT_REAL_CONTENT_LEN ->
              middle.cells place = 0xFF := fun place above below =>
            (touches_word.cells place (Or.inr above)).trans (blank place (by omega) below)
          have stored_iff : (data (2 * i) = 0xFF ∨ chip.stores start 0 = true) ∧
              (data (2 * i + 1) = 0xFF ∨ chip.stores (start + 1) 0 = true) <->
              middle.cells start = data (2 * i) ∧ middle.cells (start + 1) = data (2 * i + 1) := by
            rw [low, high, kept_iff, kept_iff]
          rw [if_neg (by decide), if_pos rfl]
          dsimp only
          rw [wrote_word, bt_read_inside (by omega), bt_read_inside (by omega), Option.getD_some, Option.getD_some]
          generalize worse : (if data (2 * i) ≠ middle.cells start ∨ data (2 * i + 1) ≠ middle.cells (start + 1) then
            badworden &&& (0xFF - 2 ^ i) else badworden) = next_bad
          obtain ⟨after, bad, wrote, touches, same, good, torn⟩ :=
            @ih small_rest complement_rest (start + 2) next_bad middle (by omega) blank_rest
          have first_kept : after.cells start = middle.cells start := touches.cells _ (Or.inl (by omega))
          have second_kept : after.cells (start + 1) = middle.cells (start + 1) := touches.cells _ (Or.inl (by omega))
          have rest_stores : WordsStored middle.stores enabled data rest (start + 2) <->
              WordsStored chip.stores enabled data rest (start + 2) :=
            wordsStored_congr enabled data rest (fun later above => touches_word.stores later (Or.inr above))
          refine ⟨after, bad, wrote, ?_, fun kept holds => ?_, fun all => ?_, fun lost => ?_⟩
          · exact (touches_word.widen (Nat.le_refl _) (by omega)).trans (touches.widen (by omega) (by omega))
          · rw [word_bytes, selected, if_pos rfl, holdsAt_cons, holdsAt_cons, first_kept, second_kept] at holds
            rw [sameWords_cons, selected, ← and_assoc, stored_iff, ← rest_stores, same kept holds.2.2, holds.1, holds.2.1]
            exact and_congr_left' ⟨fun here _ => here, fun all => all rfl⟩
          · rw [← and_assoc, stored_iff, ← rest_stores] at all
            refine (good all.2).trans (worse.symm.trans (if_neg ?_))
            exact fun different => different.elim (absurd all.1.1.symm) (absurd all.1.2.symm)
          · rw [← and_assoc, stored_iff, ← rest_stores] at lost
            by_cases here : middle.cells start = data (2 * i) ∧ middle.cells (start + 1) = data (2 * i + 1)
            · exact torn (fun all => lost ⟨here, all⟩)
            · have bound := small i List.mem_cons_self
              have cleared : next_bad.testBit i = false := by
                have masks : ∀ k : Fin 4, (0xFF - 2 ^ k.val).testBit k.val = false := by decide
                have different : data (2 * i) ≠ middle.cells start ∨ data (2 * i + 1) ≠ middle.cells (start + 1) := by
                  rw [not_and_or] at here
                  exact here.imp Ne.symm Ne.symm
                rw [← worse, if_pos different, Nat.testBit_and, masks ⟨i, bound⟩, Bool.and_false]
              have forgotten := word_writes_bad word_en data rest (start + 2) next_bad middle cleared
              rw [wrote] at forgotten
              exact ⟨i, bound, forgotten⟩

/-- All that has to be stored for a packet whose header comes to a place. -/
def PacketStored (stores : Nat -> Nat -> Bool) (place : Nat) (sec : EfuseSection) : Prop :=
  place < 112 ∧ HeaderStored stores place sec ∧
    WordsStored stores sec.enabled sec.data [0, 1, 2, 3] (place + sec.hdr_bytes.length)

/-- The log ends at a place with only blank cells behind it, and the count starts at one of its
headers. -/
structure BtChip.Ready (chip : BtChip) (place : Nat) : Prop where
  blank : FirstBlank chip.cells place
  tail : ∀ later, place ≤ later -> later < EFUSE_BT_REAL_CONTENT_LEN -> chip.cells later = 0xFF
  counted : Header chip.cells chip.fakeBTEfuseUsedBytes
  counted_inside : chip.fakeBTEfuseUsedBytes < EFUSE_BT_REAL_CONTENT_LEN

/-- What a packet leaves that was not written as a whole: nothing, a part of the header, or the
header before words of which some byte is missing. -/
def Torn (sec : EfuseSection) (place : Nat) (before after : BtChip) : Prop :=
  after.cells = before.cells ∨
    (place < 112 ∧ after.cells = Function.update before.cells place (ext_hdr sec.blk)) ∨
    (place < 112 ∧ ∃ kept : ByteMap,
      HoldsAt after.cells place (sec.hdr_bytes ++ word_bytes sec.enabled kept [0, 1, 2, 3]) ∧
        ¬ SameWords sec.enabled kept sec.data [0, 1, 2, 3])

theorem length_hdr_bytes (sec : EfuseSection) : 1 ≤ sec.hdr_bytes.length ∧ sec.hdr_bytes.length ≤ 2 := by
  rw [EfuseSection.hdr_bytes]
  split
  · exact ⟨Nat.le_refl 1, Nat.le_succ 1⟩
  · exact ⟨Nat.le_succ 1, Nat.le_refl 2⟩

theorem length_words_le (enabled : Nat) (data : ByteMap) (words : List Nat) :
    (word_bytes enabled data words).length ≤ 2 * words.length := by
  induction words with
  | nil => exact Nat.le_refl 0
  | cons i rest ih =>
      rw [word_bytes, List.length_cons]
      split
      · rw [List.length_cons, List.length_cons]
        omega
      · omega

theorem BtChip.Ready.current_size {chip : BtChip} {place : Nat} (ready : chip.Ready place) :
    current_size chip = if place < 112 then place else 256 + place := by
  rw [BtEfuse.current_size, Option.get_of_eq_some]
  exact current_size_blank ready.counted ready.counted_inside ready.blank

theorem write_packet_outcome (sec : EfuseSection) {pData : ByteMap} {chip : BtChip} {place : Nat}
    (ready : chip.Ready place) (packet : hal_EfuseConstructPGPkt sec.blk sec.word_en pData = pkt_of sec) :
    ∃ after : BtChip,
      BtChip.Touches place (place + sec.bytes.length)
        { chip with fakeBTEfuseUsedBytes := BtEfuse.current_size chip } after ∧
      (PacketStored chip.stores place sec ∧
          EfusePgPacketWrite_BT chip sec.blk sec.word_en pData = (true, after) ∧ HoldsAt after.cells place sec.bytes ∨
        ¬ PacketStored chip.stores place sec ∧
          EfusePgPacketWrite_BT chip sec.blk sec.word_en pData = (false, after) ∧ Torn sec place chip after) := by
  have size := ready.current_size
  have limit : EFUSE_BT_REAL_CONTENT_LEN - EFUSE_PROTECT_BYTES_BANK = 112 := rfl
  rw [EfusePgPacketWrite_BT, hal_BT_EfusePgCheckAvailableAddr, PacketStored, limit]
  dsimp only
  rw [packet, size]
  by_cases low : place < 112
  · rw [if_pos low, decide_eq_true low]
    have hdr := length_hdr_bytes sec
    have words : (word_bytes sec.enabled sec.data [0, 1, 2, 3]).length ≤ 8 :=
      length_words_le sec.enabled sec.data [0, 1, 2, 3]
    have bytes : sec.bytes.length = sec.hdr_bytes.length + (word_bytes sec.enabled sec.data [0, 1, 2, 3]).length :=
      List.length_append
    have start : place % 2 ^ 16 % EFUSE_BT_REAL_CONTENT_LEN = place := by
      unfold EFUSE_BT_REAL_CONTENT_LEN
      omega
    have inside : place + 10 < EFUSE_BT_REAL_CONTENT_LEN := by
      unfold EFUSE_BT_REAL_CONTENT_LEN
      omega
    have available : place < EFUSE_BT_REAL_CONTENT_LEN := by omega
    have check : hal_EfusePartialWriteCheck { chip with fakeBTEfuseUsedBytes := place } = some place := by
      rw [hal_EfusePartialWriteCheck]
      dsimp only
      rw [start, if_neg (Nat.not_le.mpr available), bt_read_inside available, ready.blank.2.2]
      rfl
    have blank_from : ∀ first, place ≤ first -> ∀ later, first ≤ later -> later < EFUSE_BT_REAL_CONTENT_LEN ->
        chip.cells later = 0xFF := fun first above later above_first below =>
      ready.tail later (above.trans above_first) below
    have ⟨middle, touches, header⟩ := @write_header_outcome sec place { chip with fakeBTEfuseUsedBytes := place }
      (by omega) ready.blank.2.2 (ready.tail (place + 1) (Nat.le_succ _) (by omega))
    have wide : BtChip.Touches place (place + sec.bytes.length) { chip with fakeBTEfuseUsedBytes := place } middle :=
      touches.widen (Nat.le_refl _) (by omega)
    dsimp only
    rw [check]
    dsimp only
    rcases header with ⟨stored, wrote, holds⟩ | ⟨lost, wrote, torn⟩
    · have start_words : place + sec.hdr_bytes.length - 1 + 1 = place + sec.hdr_bytes.length := by omega
      have blank_middle : ∀ later, place + sec.hdr_bytes.length ≤ later -> later < EFUSE_BT_REAL_CONTENT_LEN ->
          middle.cells later = 0xFF := fun later above below =>
        (touches.cells later (Or.inr above)).trans (blank_from place (Nat.le_refl _) later (by omega) below)
      have ⟨after, bad, wrote_words, again, same, good, torn⟩ := @word_writes_outcome sec.word_en sec.enabled sec.data
        [0, 1, 2, 3] (fun i member => EfuseSection.words_small member)
        (fun i member => sec.word_en_complement (EfuseSection.words_small member)) (place + sec.hdr_bytes.length) 0x0F
        middle (by omega) blank_middle
      have stores_same : WordsStored middle.stores sec.enabled sec.data [0, 1, 2, 3] (place + sec.hdr_bytes.length) <->
          WordsStored chip.stores sec.enabled sec.data [0, 1, 2, 3] (place + sec.hdr_bytes.length) :=
        wordsStored_congr _ _ _ (fun later above => touches.stores later (Or.inr above))
      have holds_after : HoldsAt after.cells place sec.hdr_bytes := fun k below =>
        (again.cells (place + k) (Or.inl (by omega))).trans (holds k below)
      have ⟨kept, held⟩ := exists_held after.cells sec.enabled (by decide : [0, 1, 2, 3].Nodup)
        (place + sec.hdr_bytes.length)
      have all_iff := same kept held
      have data_write : hal_EfusePgPacketWriteData middle (place + sec.hdr_bytes.length - 1) (pkt_of sec) =
          (bad == 0x0F, after) := by
        rw [hal_EfusePgPacketWriteData, Hal_EfuseWordEnableDataWrite, start_words]
        change ((word_writes sec.word_en sec.data _ _ _ _).1 == 0x0F, (word_writes sec.word_en sec.data _ _ _ _).2) = _
        rw [wrote_words]
      rw [stores_same] at all_iff good torn
      refine ⟨after, wide.trans (again.widen (by omega) (by omega)), ?_⟩
      rw [wrote]
      dsimp only
      rw [data_write]
      by_cases all : WordsStored chip.stores sec.enabled sec.data [0, 1, 2, 3] (place + sec.hdr_bytes.length)
      · rw [good all]
        refine Or.inl ⟨⟨low, stored, all⟩, rfl, holdsAt_append.mpr ⟨holds_after, ?_⟩⟩
        rw [← sameWords_bytes (all_iff.mp all)]
        exact held
      · have ⟨k, small, cleared⟩ := torn all
        have unequal : bad ≠ 0x0F := by
          intro whole
          have ones : ∀ k : Fin 4, Nat.testBit 0x0F k.val = true := by decide
          rw [whole, ones ⟨k, small⟩] at cleared
          exact nomatch cleared
        rw [beq_false_of_ne unequal]
        refine Or.inr ⟨fun stored => all stored.2.2, rfl, Or.inr (Or.inr ⟨low, kept, ?_, fun same_words => ?_⟩)⟩
        · exact holdsAt_append.mpr ⟨holds_after, held⟩
        · exact all (all_iff.mpr same_words)
    · rw [wrote]
      exact ⟨middle, wide, Or.inr ⟨fun stored => lost stored.2.1, rfl,
        torn.imp_right (fun part => Or.inl ⟨low, part⟩)⟩⟩
  · have full : ¬ 256 + place < 112 := by omega
    rw [if_neg low, decide_eq_false full]
    exact ⟨_, BtChip.Touches.refl _ _ _, Or.inr ⟨fun stored => low stored.1, rfl, Or.inl rfl⟩⟩

end BtEfuse
end Rtl8821ce
