import Rtl8821ce.Efuse.BtReread

/-!
# The map after it was written

The writer goes over the blocks of a range and appends a section for each block with changed bytes.
The map has the new bytes when all of these sections were stored.  It is told to be successful also
when one was not.
-/

namespace Rtl8821ce
namespace BtEfuse

open Scanner (scan)

variable {offset i : Nat} {sec : EfuseSection} {chip : BtChip}

variable {map data want : ByteMap} {addr cnts : Nat}

def wanted (map data : ByteMap) (addr cnts : Nat) : ByteMap := fun address =>
  if addr ≤ address ∧ address < addr + cnts then data (address - addr) else map address

def differs (map want : ByteMap) (offset k : Nat) : Bool := want (offset * 8 + k) != map (offset * 8 + k)

def word_differs (map want : ByteMap) (offset i : Nat) : Bool :=
  differs map want offset (2 * i) || differs map want offset (2 * i + 1)

def changed_words (map want : ByteMap) (offset : Nat) : Nat :=
  (if word_differs map want offset 0 then 1 else 0) + (if word_differs map want offset 1 then 2 else 0) +
    (if word_differs map want offset 2 then 4 else 0) + (if word_differs map want offset 3 then 8 else 0)

theorem changed_words_bits (map want : ByteMap) (offset : Nat) :
    changed_words map want offset < 16 ∧
      ∀ i, i < 4 -> (changed_words map want offset).testBit i = word_differs map want offset i := by
  have masks : ∀ a b c d : Bool,
      (if a then 1 else 0) + (if b then 2 else 0) + (if c then 4 else 0) + (if d then 8 else 0) < 16 ∧
        ∀ i : Fin 4, ((if a then 1 else 0) + (if b then 2 else 0) + (if c then 4 else 0) +
          (if d then 8 else 0)).testBit i = [a, b, c, d].get i := by decide
  have ⟨bound, bits⟩ := masks (word_differs map want offset 0) (word_differs map want offset 1)
    (word_differs map want offset 2) (word_differs map want offset 3)
  refine ⟨bound, fun i small => ?_⟩
  have bit := bits ⟨i, small⟩
  interval_cases i <;> exact bit

/-- The section for the changed words of a block, if there are any. -/
def section_of (map want : ByteMap) (offset : Nat) : Option EfuseSection :=
  if changed : offset < 128 ∧ 0 < changed_words map want offset then
    some
      { blk := offset
        enabled := changed_words map want offset
        data := fun i =>
          if i < 8 ∧ (changed_words map want offset).testBit (i / 2) = true then want (offset * 8 + i) else 0xFF
        blk_lt := changed.1
        enabled_pos := changed.2
        enabled_lt := (changed_words_bits map want offset).1 }
  else none

def planned (map want : ByteMap) (offset : Nat) : List EfuseSection :=
  (List.range' offset (128 - offset)).filterMap (section_of map want)

def Stored (stores : Nat -> Nat -> Bool) : Nat -> List EfuseSection -> Prop
  | _, [] => True
  | place, sec :: rest => PacketStored stores place sec ∧ Stored stores (place + sec.bytes.length) rest

theorem stored_congr {stores other : Nat -> Nat -> Bool} (sections : List EfuseSection) {place : Nat}
    (agree : ∀ later, place ≤ later -> other later = stores later) :
    Stored other place sections <-> Stored stores place sections := by
  induction sections generalizing place with
  | nil => exact Iff.rfl
  | cons sec rest ih =>
      have packet : PacketStored other place sec <-> PacketStored stores place sec := by
        rw [PacketStored, PacketStored, HeaderStored, HeaderStored, agree place (Nat.le_refl _),
          agree (place + 1) (Nat.le_succ _)]
        exact and_congr_right' (and_congr_right' (wordsStored_congr _ _ _ (fun later above => agree later (by omega))))
      exact and_congr packet (ih (fun later above => agree later (by omega)))

theorem planned_step (inside : offset < 128) :
    planned map want offset = (section_of map want offset).toList ++ planned map want (offset + 1) := by
  have left : 128 - offset = 128 - (offset + 1) + 1 := by omega
  rw [planned, left, List.range'_succ, List.filterMap_cons, planned]
  cases section_of map want offset <;> rfl

theorem section_of_same (same : ∀ k, k < 8 -> differs map want offset k = false) :
    section_of map want offset = none := by
  have words : ∀ i, i < 4 -> word_differs map want offset i = false := by
    intro i small
    rw [word_differs, same _ (by omega), same _ (by omega)]
    rfl
  rw [section_of, dif_neg]
  rw [changed_words, words 0 (by decide), words 1 (by decide), words 2 (by decide), words 3 (by decide)]
  exact fun both => absurd both.2 (by decide)

theorem planned_same (same : ∀ address, offset * 8 ≤ address -> want address = map address) :
    planned map want offset = [] := by
  refine List.filterMap_eq_nil_iff.mpr (fun later member => section_of_same (fun k _ => ?_))
  have bounds := (List.mem_range'_1.mp member).1
  rw [differs, same (later * 8 + k) (by omega)]
  exact bne_self_eq_false _

/-- `word_en` after the bytes below `i`. -/
structure Masked (map want : ByteMap) (offset i word_en : Nat) : Prop where
  bound : word_en < 16
  bits : ∀ w, w < 4 ->
    (word_en.testBit w = true <-> ∀ k, k < i -> k / 2 = w -> differs map want offset k = false)

theorem Masked.same {word_en : Nat} (masked : Masked map want offset i word_en)
    (same : differs map want offset i = false) : Masked map want offset (i + 1) word_en where
  bound := masked.bound
  bits := fun w small => by
    refine (masked.bits w small).trans ⟨fun all k below word => ?_, fun all k below => all k (by omega)⟩
    rcases Nat.lt_succ_iff_lt_or_eq.mp below with earlier | here
    · exact all k earlier word
    · exact here ▸ same

theorem Masked.changed {word_en : Nat} (masked : Masked map want offset i word_en) (inside : i < 8)
    (changed : differs map want offset i = true) :
    Masked map want offset (i + 1) (word_en &&& (0xFF - 2 ^ (i / 2))) where
  bound := Nat.lt_of_le_of_lt Nat.and_le_left masked.bound
  bits := fun w small => by
    have cleared : ∀ m w : Fin 4, (0xFF - 2 ^ m.val).testBit w.val = !decide (m.val = w.val) := by decide
    rw [Nat.testBit_and, cleared ⟨i / 2, by omega⟩ ⟨w, small⟩, Bool.and_eq_true, masked.bits w small, Bool.not_eq_true',
      decide_eq_false_iff_not]
    constructor
    · rintro ⟨all, other⟩ k below word
      rcases Nat.lt_succ_iff_lt_or_eq.mp below with earlier | here
      · exact all k earlier word
      · exact absurd (here ▸ word) other
    · intro all
      refine ⟨fun k below => all k (by omega), fun here => ?_⟩
      rw [all i (Nat.lt_succ_self i) here] at changed
      exact nomatch changed

theorem Masked.all {word_en : Nat} (masked : Masked map want offset i word_en)
    (rest : ∀ k, i ≤ k -> k < 8 -> differs map want offset k = false) :
    word_en = changed_words map want offset ^^^ 0x0F := by
  have ⟨bound, bits⟩ := changed_words_bits map want offset
  have ones : ∀ w : Fin 4, Nat.testBit 0x0F w.val = true := by decide
  have bit : ∀ w, w < 4 -> word_en.testBit w = (changed_words map want offset ^^^ 0x0F).testBit w := by
    intro w small
    rw [Nat.testBit_xor, bits w small, ones ⟨w, small⟩, Bool.xor_true, Bool.eq_iff_iff, masked.bits w small,
      Bool.not_eq_true', word_differs, Bool.or_eq_false_iff]
    constructor
    · intro all
      have low : ∀ k, k < 8 -> k / 2 = w -> differs map want offset k = false := fun k inside word =>
        (Nat.lt_or_ge k i).elim (fun below => all k below word) (fun above => rest k above inside)
      exact ⟨low _ (by omega) (by omega), low _ (by omega) (by omega)⟩
    · rintro ⟨low, high⟩ k _ word
      rcases (by omega : k = 2 * w ∨ k = 2 * w + 1) with even | odd
      · exact even ▸ low
      · exact odd ▸ high
  refine Nat.eq_of_testBit_eq (fun w => ?_)
  by_cases small : w < 4
  · exact bit w small
  · have above : 2 ^ 4 ≤ 2 ^ w := Nat.pow_le_pow_right (by decide) (Nat.le_of_not_lt small)
    have xor_bound : changed_words map want offset ^^^ 0x0F < 2 ^ 4 := Nat.xor_lt_two_pow bound (by decide)
    rw [Nat.testBit_lt_two_pow (Nat.lt_of_lt_of_le masked.bound above),
      Nat.testBit_lt_two_pow (Nat.lt_of_lt_of_le xor_bound above)]

theorem fill_section_outcome {offset left idx word_en : Nat} {newdata : ByteMap} (small : left ≤ 8)
    (place : addr + idx = offset * 8 + (8 - left)) (inside : idx ≤ cnts)
    (masked : Masked map (wanted map data addr cnts) offset (8 - left) word_en) (filled : ∀ k, newdata k =
      if k < 8 - left then wanted map data addr cnts (offset * 8 + k) else map (offset * 8 + k)) :
    ∃ newdata_after : ByteMap,
      fill_section map data addr cnts left idx word_en newdata =
        (min cnts (idx + left), changed_words map (wanted map data addr cnts) offset ^^^ 0x0F, newdata_after) ∧
      ∀ k, k < 8 -> newdata_after k = wanted map data addr cnts (offset * 8 + k) := by
  induction left generalizing idx word_en newdata with
  | zero =>
      refine ⟨newdata, ?_, fun k below => (filled k).trans (if_pos below)⟩
      rw [fill_section, Nat.add_zero, Nat.min_eq_right inside, ← masked.all (fun k above below => absurd above (by omega))]
  | succ left ih =>
      have i : 7 - left = 8 - (left + 1) := by omega
      have next : 8 - left = 8 - (left + 1) + 1 := by omega
      rw [fill_section]
      by_cases more : idx < cnts
      · have here : addr + idx = offset * 8 + (7 - left) := by omega
        have want_here : wanted map data addr cnts (offset * 8 + (7 - left)) = data idx := by
          rw [wanted, ← here, if_pos (by omega), Nat.add_sub_cancel_left]
        have total : min cnts (idx + (left + 1)) = min cnts (idx + 1 + left) := by omega
        rw [if_pos more, total]
        by_cases changed : data idx ≠ map (addr + idx)
        · have different : differs map (wanted map data addr cnts) offset (8 - (left + 1)) = true := by
            rw [← i, differs, want_here, ← here]
            exact bne_iff_ne.mpr changed
          rw [if_pos changed]
          refine ih (by omega) (by omega) (by omega) ?_ (fun k => ?_)
          · rw [next, i]
            exact masked.changed (by omega) different
          · by_cases same : k = 7 - left
            · rw [same, Function.update_self, if_pos (by omega), want_here]
            · rw [Function.update_of_ne same, filled k]
              exact if_congr (by omega) rfl rfl
        · have same_byte := not_not.mp changed
          have same : differs map (wanted map data addr cnts) offset (8 - (left + 1)) = false := by
            rw [← i, differs, want_here, ← here, same_byte]
            exact bne_self_eq_false _
          rw [if_neg changed]
          refine ih (by omega) (by omega) (by omega) ?_ (fun k => ?_)
          · rw [next]
            exact masked.same same
          · by_cases last : k = 7 - left
            · rw [filled k, if_neg (by omega), if_pos (by omega), last, want_here, ← here, same_byte]
            · rw [filled k]
              exact if_congr (by omega) rfl rfl
      · have ended : idx = cnts := by omega
        have beyond : ∀ k, 8 - (left + 1) ≤ k -> wanted map data addr cnts (offset * 8 + k) = map (offset * 8 + k) :=
          fun k above => if_neg (by omega)
        have rest : ∀ k, 8 - (left + 1) ≤ k -> k < 8 ->
            differs map (wanted map data addr cnts) offset k = false := by
          intro k above _
          rw [differs, beyond k above]
          exact bne_self_eq_false _
        rw [if_neg more]
        refine ⟨newdata, ?_, fun k _ => ?_⟩
        · rw [ended, Nat.min_eq_left (Nat.le_add_right _ _), ← masked.all rest]
        · rw [filled k]
          split
          · rfl
          · exact (beyond k (by omega)).symm

theorem section_of_some (found : section_of map want offset = some sec) :
    sec.blk = offset ∧ sec.enabled = changed_words map want offset ∧ sec.data = fun i =>
      if i < 8 ∧ (changed_words map want offset).testBit (i / 2) = true then want (offset * 8 + i) else 0xFF := by
  rw [section_of] at found
  split at found
  · rw [Option.some.injEq] at found
    rw [← found]
    exact ⟨rfl, rfl, rfl⟩
  · exact nomatch found

theorem section_packet (found : section_of map want offset = some sec)
    {newdata : ByteMap} (filled : ∀ k, k < 8 -> newdata k = want (offset * 8 + k)) :
    hal_EfuseConstructPGPkt sec.blk sec.word_en newdata = pkt_of sec := by
  have ⟨_, enabled, data⟩ := section_of_some found
  have same : ∀ i, (if i < 8 ∧ sec.word_en.testBit (i / 2) = false then newdata i else 0xFF) = sec.data i := by
    intro i
    rw [data]
    dsimp only
    by_cases small : i < 8
    · have bit := sec.word_en_complement (by omega : i / 2 < 4)
      rw [enabled] at bit
      refine if_congr (and_congr_right' ?_) (filled i small) rfl
      rw [bit, Bool.not_eq_false']
    · rw [if_neg (fun both => small both.1), if_neg (fun both => small both.1)]
  exact congrArg (PgPkt.mk sec.blk sec.word_en) (funext same)

theorem length_bytes_le (sec : EfuseSection) : 1 ≤ sec.bytes.length ∧ sec.bytes.length ≤ 10 := by
  have hdr := length_hdr_bytes sec
  have words : (word_bytes sec.enabled sec.data [0, 1, 2, 3]).length ≤ 8 :=
    length_words_le sec.enabled sec.data [0, 1, 2, 3]
  rw [sec.length_bytes]
  omega

theorem read_behind (sec : EfuseSection) {chip before after : BtChip} {place : Nat} {tbl kept : ByteMap}
    (ready : chip.Ready place) (same : before.cells = chip.cells)
    (touches : before.Touches place (place + sec.bytes.length) after) (low : place < 112)
    (read : ReadTo chip.cells place tbl)
    (holds : HoldsAt after.cells place (sec.hdr_bytes ++ word_bytes sec.enabled kept [0, 1, 2, 3])) :
    ReadTo after.cells (place + sec.bytes.length) (overlay sec.blk sec.enabled kept tbl) ∧
      (∀ later, place + sec.bytes.length ≤ later -> later < EFUSE_BT_REAL_CONTENT_LEN -> after.cells later = 0xFF) ∧
      place + sec.bytes.length < EFUSE_BT_REAL_CONTENT_LEN := by
  have length := length_bytes_le sec
  have inside : place + sec.bytes.length < EFUSE_BT_REAL_CONTENT_LEN := by
    unfold EFUSE_BT_REAL_CONTENT_LEN
    omega
  have here : ReadTo after.cells place tbl := read.congr fun earlier below =>
    (touches.cells earlier (Or.inl below)).trans (congrFun same earlier)
  have bytes : ({ sec with data := kept } : EfuseSection).bytes.length = sec.bytes.length := by
    rw [EfuseSection.length_bytes, EfuseSection.length_bytes]
    exact congrArg (sec.hdr_bytes.length + ·) (length_word_bytes sec.enabled kept sec.data [0, 1, 2, 3])
  have passed := here.behind { sec with data := kept } (by rw [bytes]; exact Nat.le_of_lt inside) holds
  rw [bytes] at passed
  refine ⟨passed, fun later above below => ?_, inside⟩
  rw [touches.cells later (Or.inr above), same]
  exact ready.tail later (by omega) below

theorem overlay_block {blk enabled : Nat} {kept tbl : ByteMap} {k : Nat} (small : k < 8) :
    overlay blk enabled kept tbl (blk * 8 + k) = if enabled.testBit (k / 2) then kept k else tbl (blk * 8 + k) := by
  have block : (blk * 8 + k) / 8 = blk := by omega
  have byte : (blk * 8 + k) % 8 = k := by omega
  rw [overlay, block, byte]
  exact if_congr (and_iff_right rfl) rfl rfl

theorem overlay_other {blk enabled address : Nat} {kept tbl : ByteMap} (other : address / 8 ≠ blk) :
    overlay blk enabled kept tbl address = tbl address := if_neg (fun both => other both.1)

/-! ## The loop over the blocks -/

/-- The blocks below `offset` are done. -/
structure Progress (map want : ByteMap) (offset place : Nat) (chip : BtChip) : Prop where
  ready : chip.Ready place
  read : ∃ tbl : ByteMap, ReadTo chip.cells place tbl ∧
    ∀ address, address < 1024 -> tbl address = if address < offset * 8 then want address else map address

/-- What a part of the writer keeps. -/
structure BtChip.Keeps (place : Nat) (before after : BtChip) : Prop where
  cells : ∀ earlier, earlier < place -> after.cells earlier = before.cells earlier
  written : ∀ later ∈ after.written, later ∈ before.written ∨ later < EFUSE_BT_REAL_CONTENT_LEN

/-- The map at the end: as wanted, or different in some byte. -/
def EndsAs (want : ByteMap) (stored : Prop) (chip : BtChip) : Prop :=
  ∃ place, ∃ tbl : ByteMap, ReadTo chip.cells place tbl ∧ place < EFUSE_BT_REAL_CONTENT_LEN ∧
    chip.cells place = 0xFF ∧ (stored <-> ∀ address, address < 1024 -> tbl address = want address)

theorem Progress.same_block {place : Nat} (progress : Progress map want offset place chip)
    (same : ∀ k, k < 8 -> want (offset * 8 + k) = map (offset * 8 + k)) :
    Progress map want (offset + 1) place chip := by
  have ⟨tbl, read, bytes⟩ := progress.read
  refine ⟨progress.ready, tbl, read, fun address small => ?_⟩
  rw [bytes address small]
  by_cases block : offset * 8 ≤ address ∧ address < offset * 8 + 8
  · have split : address = offset * 8 + (address - offset * 8) := by omega
    have equal := same (address - offset * 8) (by omega)
    rw [← split] at equal
    rw [if_neg (by omega), if_pos (by omega), equal]
  · exact if_congr (by omega) rfl rfl

theorem Progress.stored_block {place : Nat} {after : BtChip}
    (progress : Progress map want offset place chip) (found : section_of map want offset = some sec)
    (touches : BtChip.Touches place (place + sec.bytes.length) { chip with fakeBTEfuseUsedBytes := place } after)
    (low : place < 112) (holds : HoldsAt after.cells place sec.bytes) :
    Progress map want (offset + 1) (place + sec.bytes.length) after := by
  have ⟨blk, enabled, data⟩ := section_of_some found
  have ⟨_, bits⟩ := changed_words_bits map want offset
  have ⟨tbl, read, bytes⟩ := progress.read
  have ⟨passed, tail, inside⟩ := @read_behind sec chip { chip with fakeBTEfuseUsedBytes := place }
    after place tbl sec.data progress.ready rfl touches low read holds
  have here : ReadTo after.cells place tbl := read.congr fun earlier below => touches.cells earlier (Or.inl below)
  refine ⟨⟨⟨passed.header, inside, tail _ (Nat.le_refl _) inside⟩, tail, ?_, ?_⟩, _, passed, fun address small => ?_⟩
  · rw [touches.count]
    exact here.header
  · rw [touches.count]
    exact progress.ready.blank.2.1
  · by_cases block : address / 8 = offset
    · have split : offset * 8 + address % 8 = address := by omega
      have byte : address % 8 < 8 := Nat.mod_lt _ (by decide)
      have current : address < (offset + 1) * 8 ∧ ¬ address < offset * 8 := by omega
      rw [if_pos current.1]
      by_cases selected : (changed_words map want offset).testBit (address % 8 / 2) = true
      · rw [overlay, if_pos ⟨block.trans blk.symm, enabled.symm ▸ selected⟩, data]
        dsimp only
        rw [if_pos ⟨byte, selected⟩, split]
      · have same := Bool.eq_false_iff.mpr selected
        rw [bits _ (by omega), word_differs, Bool.or_eq_false_iff] at same
        have unchanged : differs map want offset (address % 8) = false := by
          rcases (by omega : address % 8 = 2 * (address % 8 / 2) ∨ address % 8 = 2 * (address % 8 / 2) + 1) with even | odd
          · exact even ▸ same.1
          · exact odd ▸ same.2
        rw [differs, split] at unchanged
        rw [overlay, if_neg (fun both => selected (enabled ▸ both.2)), bytes address small, if_neg current.2]
        exact (bne_eq_false_iff_eq.mp unchanged).symm
    · rw [overlay_other (blk ▸ block), bytes address small]
      exact if_congr (by omega) rfl rfl

theorem section_of_differs (found : section_of map want offset = some sec) :
    ∃ k, k < 8 ∧ want (offset * 8 + k) ≠ map (offset * 8 + k) := by
  by_contra none_differs
  have same : ∀ k, k < 8 -> differs map want offset k = false := by
    intro k small
    by_contra changed
    exact none_differs ⟨k, small, bne_iff_ne.mp (Bool.not_eq_false _ ▸ changed)⟩
  rw [section_of_same same] at found
  exact nomatch found

theorem section_of_none (none_planned : section_of map want offset = none) (inside : offset < 128) :
    changed_words map want offset = 0 ∧ ∀ k, k < 8 -> want (offset * 8 + k) = map (offset * 8 + k) := by
  have ⟨_, bits⟩ := changed_words_bits map want offset
  have zero : changed_words map want offset = 0 := by
    rw [section_of] at none_planned
    split at none_planned
    · exact nomatch none_planned
    · next empty => exact Nat.eq_zero_of_not_pos (fun positive => empty ⟨inside, positive⟩)
  refine ⟨zero, fun k small => ?_⟩
  have word := bits (k / 2) (by omega)
  rw [zero, Nat.zero_testBit, word_differs] at word
  have ⟨low, high⟩ := Bool.or_eq_false_iff.mp word.symm
  rcases (by omega : k = 2 * (k / 2) ∨ k = 2 * (k / 2) + 1) with even | odd
  · rw [← even] at low
    exact bne_eq_false_iff_eq.mp low
  · rw [← odd] at high
    exact bne_eq_false_iff_eq.mp high

theorem Progress.torn_block {offset place : Nat} {chip before after : BtChip} {sec : EfuseSection}
    (progress : Progress map want offset place chip) (found : section_of map want offset = some sec)
    (same : before.cells = chip.cells) (touches : before.Touches place (place + sec.bytes.length) after)
    (torn : Torn sec place chip after) : EndsAs want False after := by
  have ⟨blk, enabled, data⟩ := section_of_some found
  have block := sec.blk_lt
  have ⟨tbl, read, bytes⟩ := progress.read
  have ⟨k, small, changed⟩ := section_of_differs found
  have left : tbl (offset * 8 + k) ≠ want (offset * 8 + k) := by
    rw [bytes _ (by omega), if_neg (by omega)]
    exact changed.symm
  have wrong : ∀ found : ByteMap, found (offset * 8 + k) = tbl (offset * 8 + k) ->
      (False <-> ∀ address, address < 1024 -> found address = want address) := by
    intro found equal
    exact iff_of_false id (fun all => left (equal ▸ all (offset * 8 + k) (by omega)))
  rcases torn with untouched | ⟨low, header⟩ | ⟨low, kept, holds, missing⟩
  · rw [EndsAs, untouched]
    exact ⟨place, tbl, read, progress.ready.blank.2.1, progress.ready.blank.2.2, wrong tbl rfl⟩
  · have inside : place + 2 < EFUSE_BT_REAL_CONTENT_LEN := by
      unfold EFUSE_BT_REAL_CONTENT_LEN
      omega
    have other : ∀ later, later ≠ place -> after.cells later = chip.cells later := by
      intro later different
      rw [header, Function.update_of_ne different]
    have here : ReadTo after.cells place tbl := read.congr fun earlier below => other earlier (Nat.ne_of_lt below)
    have first : after.cells place = ext_hdr sec.blk := by
      rw [header, Function.update_self]
    have tail := progress.ready.tail
    refine ⟨place + 2, tbl, here.torn sec (by omega) first ?_, inside, ?_, wrong tbl rfl⟩
    · rw [other _ (by omega), tail _ (by omega) (by omega)]
    · rw [other _ (by omega), tail _ (by omega) inside]
  · have ⟨passed, tail, inside⟩ := read_behind sec progress.ready same touches low read holds
    refine ⟨_, _, passed, inside, tail _ (Nat.le_refl _) inside, iff_of_false id (fun all => missing ?_)⟩
    intro i member bit
    have word := EfuseSection.words_small member
    have byte : ∀ k, k < 8 -> k / 2 = i -> kept k = sec.data k := by
      intro k small half
      have same := all (sec.blk * 8 + k) (by omega)
      rw [overlay_block small, half, if_pos bit] at same
      rw [same, data, blk]
      dsimp only
      rw [if_pos ⟨small, enabled ▸ half.symm ▸ bit⟩]
    exact ⟨byte _ (by omega) (by omega), byte _ (by omega) (by omega)⟩

theorem EndsAs.congr {stored other : Prop} {chip : BtChip} (ends : EndsAs want stored chip) (same : stored <-> other) :
    EndsAs want other chip := by
  rwa [EndsAs, ← same]

theorem BtChip.Touches.keeps {first past place count : Nat} {before after : BtChip}
    (touches : BtChip.Touches first past { before with fakeBTEfuseUsedBytes := count } after) (above : place ≤ first) :
    before.Keeps place after :=
  ⟨fun earlier below => touches.cells earlier (Or.inl (by omega)), touches.written⟩

theorem BtChip.Keeps.trans {place later : Nat} {before middle after : BtChip} (one : before.Keeps place middle)
    (two : middle.Keeps later after) (above : place ≤ later) : before.Keeps place after where
  cells := fun earlier below => (two.cells earlier (by omega)).trans (one.cells earlier below)
  written := fun cell member => (two.written cell member).elim (one.written cell) Or.inr

theorem write_loop_done {place fuel : Nat} (progress : Progress map (wanted map data addr cnts) offset place chip)
    (ended : ¬ min cnts (offset * 8 - addr) < cnts) :
    ∃ after : BtChip,
      scan (write_body map data addr cnts) (fuel + 1) ⟨min cnts (offset * 8 - addr), offset, chip⟩ = some after ∧
      chip.Keeps place after ∧
      EndsAs (wanted map data addr cnts)
        (Stored chip.stores place (planned map (wanted map data addr cnts) offset)) after := by
  have ⟨tbl, read, bytes⟩ := progress.read
  have beyond : ∀ address, offset * 8 ≤ address -> wanted map data addr cnts address = map address :=
    fun address above => if_neg (by omega)
  have done : write_body map data addr cnts ⟨min cnts (offset * 8 - addr), offset, chip⟩ = .done chip := by
    rw [write_body]
    exact if_neg ended
  refine ⟨chip, Scanner.scan_done done fuel, ⟨fun _ _ => rfl, fun _ member => Or.inl member⟩, place, tbl, read,
    progress.ready.blank.2.1, progress.ready.blank.2.2, ?_⟩
  rw [planned_same beyond]
  refine iff_of_true trivial (fun address small => ?_)
  rw [bytes address small]
  split
  · rfl
  · exact (beyond address (by omega)).symm

theorem write_body_block {offset idx : Nat} (inside : idx < cnts) (here : idx = offset * 8 - addr)
    (begun : addr / 8 ≤ offset) :
    ∃ newdata : ByteMap,
      fill_section map data addr cnts (8 - (addr + idx) % 8) idx 0xF (fun i => map (offset * 8 + i)) =
        (min cnts ((offset + 1) * 8 - addr), changed_words map (wanted map data addr cnts) offset ^^^ 0x0F, newdata) ∧
      ∀ k, k < 8 -> newdata k = wanted map data addr cnts (offset * 8 + k) := by
  have first : addr + idx = offset * 8 + (addr + idx) % 8 := by omega
  have before : ∀ k, k < (addr + idx) % 8 -> wanted map data addr cnts (offset * 8 + k) = map (offset * 8 + k) :=
    fun k below => if_neg (by omega)
  have total : min cnts (idx + (8 - (addr + idx) % 8)) = min cnts ((offset + 1) * 8 - addr) := by omega
  have count : 8 - (8 - (addr + idx) % 8) = (addr + idx) % 8 := by omega
  have masked : Masked map (wanted map data addr cnts) offset (8 - (8 - (addr + idx) % 8)) 0xF := by
    refine ⟨by decide, fun w small => iff_of_true ?_ (fun k below _ => ?_)⟩
    · have ones : ∀ w : Fin 4, Nat.testBit 0xF w.val = true := by decide
      exact ones ⟨w, small⟩
    · rw [differs, before k (count ▸ below)]
      exact bne_self_eq_false _
  have ⟨newdata, filled, bytes⟩ := @fill_section_outcome map data addr cnts offset (8 - (addr + idx) % 8) idx 0xF
    (fun i => map (offset * 8 + i)) (by omega) (by omega) (by omega) masked (fun k => by
      split
      · exact (before k (by omega)).symm
      · rfl)
  exact ⟨newdata, total ▸ filled, bytes⟩

theorem write_loop (bound : addr + cnts ≤ 1024) (left : Nat) {offset place fuel : Nat} {chip : BtChip}
    (enough : 128 - offset ≤ left) (fuel_enough : left < fuel) (begun : addr / 8 ≤ offset)
    (progress : Progress map (wanted map data addr cnts) offset place chip) :
    ∃ after : BtChip,
      scan (write_body map data addr cnts) fuel ⟨min cnts (offset * 8 - addr), offset, chip⟩ = some after ∧
      chip.Keeps place after ∧
      EndsAs (wanted map data addr cnts)
        (Stored chip.stores place (planned map (wanted map data addr cnts) offset)) after := by
  induction left generalizing offset place fuel chip with
  | zero =>
      have ended : ¬ min cnts (offset * 8 - addr) < cnts := by omega
      rw [← Nat.succ_pred_eq_of_pos fuel_enough]
      exact write_loop_done progress ended
  | succ left ih =>
      obtain ⟨fuel, rfl⟩ : ∃ rest, fuel = rest + 1 := ⟨fuel - 1, by omega⟩
      by_cases more : min cnts (offset * 8 - addr) < cnts
      · have inside : offset < 128 := by omega
        have idx : min cnts (offset * 8 - addr) = offset * 8 - addr := by omega
        obtain ⟨newdata, filled, bytes⟩ := @write_body_block map data addr cnts offset _ (idx ▸ more) rfl begun
        have next := fun {place : Nat} {chip : BtChip} => @ih (offset + 1) place fuel chip (by omega)
          (by omega) (by omega)
        rw [planned_step inside]
        cases found : section_of map (wanted map data addr cnts) offset with
        | none =>
            obtain ⟨words, same⟩ := section_of_none found inside
            rw [words] at filled
            have body : write_body map data addr cnts ⟨min cnts (offset * 8 - addr), offset, chip⟩ =
                .more ⟨min cnts ((offset + 1) * 8 - addr), offset + 1, chip⟩ := by
              rw [write_body]
              dsimp only
              rw [if_pos more, idx, filled]
              rfl
            obtain ⟨after, ended, keeps, ends⟩ := next (progress.same_block same)
            exact ⟨after, (Scanner.scan_more body fuel).trans ended, keeps, ends⟩
        | some sec =>
            obtain ⟨blk, enabled, _⟩ := section_of_some found
            have word_en : changed_words map (wanted map data addr cnts) offset ^^^ 0x0F = sec.word_en := by
              rw [EfuseSection.word_en, enabled]
            have some_word : sec.word_en ≠ 0xF := Nat.ne_of_lt sec.word_en_lt
            have size := progress.ready.current_size
            have body : ∀ written next_chip,
                EfusePgPacketWrite_BT chip sec.blk sec.word_en newdata = (written, next_chip) ->
                write_body map data addr cnts ⟨min cnts (offset * 8 - addr), offset, chip⟩ =
                  if written then .more ⟨min cnts ((offset + 1) * 8 - addr), offset + 1, next_chip⟩
                  else .done next_chip := by
              intro written next_chip wrote
              rw [write_body]
              dsimp only
              rw [if_pos more, idx, filled, word_en]
              dsimp only
              rw [if_pos some_word, ← blk, wrote]
              cases written <;> rfl
            obtain ⟨middle, touches, outcome⟩ :=
              write_packet_outcome sec progress.ready (section_packet found bytes)
            rcases outcome with ⟨stored, wrote, holds⟩ | ⟨lost, wrote, torn⟩
            · rw [size, if_pos stored.1] at touches
              have body := (body _ _ wrote).trans (if_pos rfl)
              obtain ⟨after, ended, keeps, ends⟩ := next (progress.stored_block found touches stored.1 holds)
              have packets := stored_congr (planned map (wanted map data addr cnts) (offset + 1))
                (fun later above => touches.stores later (Or.inr above))
              refine ⟨after, (Scanner.scan_more body fuel).trans ended,
                (touches.keeps (Nat.le_refl _)).trans keeps (Nat.le_add_right _ _), ends.congr (packets.trans ?_)⟩
              exact (and_iff_right stored).symm
            · have body := (body _ _ wrote).trans (if_neg Bool.false_ne_true)
              refine ⟨middle, Scanner.scan_done body fuel, touches.keeps (Nat.le_refl _), ?_⟩
              have ends := @Progress.torn_block map _ offset place chip
                { chip with fakeBTEfuseUsedBytes := current_size chip } middle sec progress found rfl touches torn
              exact ends.congr (iff_of_false id (fun all => lost all.1))
      · exact write_loop_done progress more

/-- When the writer is successful, the map is the one that was asked for, no cell that was
programmed has changed, and all physical writes went to the cells. -/
def ReadsBack (chip : BtChip) (addr cnts : Nat) (data : ByteMap) : Prop :=
  ∃ ret, ∃ after : BtChip, rtw_BT_efuse_map_write chip addr cnts data = some (ret, after) ∧
    (ret = _SUCCESS ->
      (∀ address, address < 1024 -> after.logical address = wanted chip.logical data addr cnts address) ∧
      (∀ place, place < EFUSE_BT_REAL_CONTENT_LEN -> chip.cells place ≠ 0xFF ->
        after.cells place = chip.cells place) ∧
      ∀ place ∈ after.written, place ∈ chip.written ∨ place < EFUSE_BT_REAL_CONTENT_LEN)

/-- The log of the efuse ends below the protected cells and the cells behind are blank. -/
structure BlankTail (cells : ByteMap) (place : Nat) : Prop where
  blank : FirstBlank cells place
  low : place < 112
  tail : ∀ later, place ≤ later -> later < EFUSE_BT_REAL_CONTENT_LEN -> cells later = 0xFF

theorem readTo_blank {cells : ByteMap} {place : Nat} (blank : FirstBlank cells place) :
    ∃ tbl : ByteMap, ReadTo cells place tbl := by
  have ⟨final, ended, _, _, outcome⟩ := read_scan cells
  have ⟨last, passes, done⟩ := Scanner.passes_of_scan ended
  have header : Header cells last.eFuse_Addr := ReadTo.header ⟨last, passes, rfl, rfl⟩
  by_cases available : last.eFuse_Addr < EFUSE_BT_REAL_CONTENT_LEN
  · by_cases here : cells last.eFuse_Addr = 0xFF
    · have same : FirstBlank cells last.eFuse_Addr := ⟨header, available, here⟩
      exact ⟨last.efuseTbl, last, passes, same.unique blank, rfl⟩
    · have ⟨next, goes, _⟩ := read_body_more available here
      rw [goes] at done
      exact nomatch done
  · exact absurd blank (header.not_blank (Nat.le_of_not_lt available) place)

theorem map_write_iff {chip : BtChip} {place addr cnts : Nat} (image : BlankTail chip.cells place)
    (inside : addr + cnts ≤ 1024) (data : ByteMap) :
    ReadsBack chip addr cnts data <->
      Stored chip.stores place (planned chip.logical (wanted chip.logical data addr cnts) (addr / 8)) := by
  obtain ⟨tbl, read⟩ := readTo_blank image.blank
  obtain ⟨found, map_read, used, bytes⟩ := map_read_eq read image.blank.2.1 image.blank.2.2
  have logical : chip.logical = found.pbuf := by
    rw [BtChip.logical, Option.get_of_eq_some _ map_read]
  have ready : BtChip.Ready { chip with fakeBTEfuseUsedBytes := place } place :=
    ⟨image.blank, image.tail, image.blank.1, image.blank.2.1⟩
  have progress : Progress found.pbuf (wanted found.pbuf data addr cnts) (addr / 8) place
      { chip with fakeBTEfuseUsedBytes := place } := by
    refine ⟨ready, tbl, read, fun address small => ?_⟩
    rw [← bytes address small]
    split
    · exact (if_neg (by omega)).symm
    · rfl
  have start : min cnts (addr / 8 * 8 - addr) = 0 := by omega
  obtain ⟨after, ended, keeps, end_place, end_tbl, end_read, end_inside, end_blank, stored_iff⟩ :=
    @write_loop found.pbuf data addr cnts inside 128 (addr / 8) place 1025 { chip with fakeBTEfuseUsedBytes := place }
      (by omega) (by decide) (Nat.le_refl _) progress
  have wrote : rtw_BT_efuse_map_write chip addr cnts data = some (_SUCCESS, after) := by
    rw [rtw_BT_efuse_map_write, if_neg (Nat.not_lt.mpr inside), map_read, Option.bind_some, used]
    rw [start] at ended
    rw [ended]
    rfl
  rw [logical, stored_iff]
  constructor
  · rintro ⟨ret, other, result, promised⟩ address small
    rw [wrote, Option.some.injEq, Prod.mk.injEq] at result
    obtain ⟨rfl, rfl⟩ := result
    rw [← logical_eq end_read end_inside end_blank small, (promised rfl).1 address small, logical]
  · intro all
    refine ⟨_SUCCESS, after, wrote, fun _ => ⟨fun address small => ?_, fun earlier inside used => ?_, keeps.written⟩⟩
    · rw [logical_eq end_read end_inside end_blank small, all address small, logical]
    · have below : earlier < place := by
        by_contra above
        exact used (image.tail earlier (Nat.le_of_not_lt above) inside)
      exact keeps.cells earlier below

def blank_chip (stores : Nat -> Nat -> Bool) : BtChip := ⟨ByteMap.blank, stores, 0, []⟩

theorem blank_chip_tail (stores : Nat -> Nat -> Bool) : BlankTail (blank_chip stores).cells 0 :=
  ⟨⟨Relation.ReflTransGen.refl, by decide, rfl⟩, by decide, fun _ _ _ => rfl⟩

theorem map_write_iff_blank :
    ReadsBack (blank_chip (fun _ _ => true)) 0 1 (fun _ => 0x12) <->
      Stored (fun _ _ => true) 0 (planned (blank_chip (fun _ _ => true)).logical
        (wanted (blank_chip (fun _ _ => true)).logical (fun _ => 0x12) 0 1) 0) :=
  map_write_iff (blank_chip_tail (fun _ _ => true)) (by decide) (fun _ => 0x12)

/-- A chip that stores nothing: the writer is as successful. -/
theorem failed_write_succeeds : ¬ ReadsBack (blank_chip (fun _ _ => false)) 0 1 (fun _ => 0x12) := by
  rintro ⟨ret, after, result, promised⟩
  have run : (rtw_BT_efuse_map_write (blank_chip (fun _ _ => false)) 0 1 (fun _ => 0x12)).map
      (fun found => (found.1, found.2.logical 0)) = some (_SUCCESS, 0xFF) := by decide +kernel
  rw [result, Option.map_some, Option.some.injEq, Prod.mk.injEq] at run
  have wrong := (promised run.1).1 0 (by decide)
  rw [run.2] at wrong
  exact absurd wrong (by decide)

end BtEfuse
end Rtl8821ce
