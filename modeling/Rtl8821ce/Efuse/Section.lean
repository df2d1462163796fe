import Mathlib.Tactic.IntervalCases
import Rtl8821ce.Efuse.Parser

/-!
# Sections and how the parser reads them

A section names a block, the words of the block that it sets, and their bytes.
Its encoding is what the programming functions write; the parser reads it back
as an overlay of the logical map.  Appended behind a dangling header byte, an
encoding is read as something else: its first byte is taken for the second
byte of that header.
-/

namespace Rtl8821ce

open Scanner (Iteration)

variable {idx blk i : Nat} {log_map : ByteMap} {hw_info : HwCfgInfo} {final : ParserState} {hdr : UInt8}

/-- A section for at least one word of a block. -/
structure EfuseSection where
  blk : Nat
  enabled : Nat
  data : ByteMap
  blk_lt : blk < 128
  enabled_pos : 0 < enabled
  enabled_lt : enabled < 16

def EfuseSection.word_en (sec : EfuseSection) : Nat := sec.enabled ^^^ 0x0F

/-- `(u8)((blk << 4) + word_en)`: the header of a block below 16. -/
def plain_hdr (blk word_en : Nat) : UInt8 := UInt8.ofNat ((blk <<< 4) + word_en)

/-- `(((blk & 0x07) << 5) & 0xE0) | 0x0F`: the first byte of an extended header. -/
def ext_hdr (blk : Nat) : UInt8 := UInt8.ofNat ((((blk &&& 0x07) <<< 5) &&& 0xE0) ||| 0x0F)

/-- `(u8)(((blk & 0x78) << 1) + word_en)`: the second byte of an extended header. -/
def ext_hdr2 (blk word_en : Nat) : UInt8 := UInt8.ofNat (((blk &&& 0x78) <<< 1) + word_en)

/-- The bytes of the enabled words among the given ones. -/
def word_bytes (enabled : Nat) (data : ByteMap) : List Nat -> List UInt8
  | [] => []
  | i :: rest =>
      if enabled.testBit i then data (2 * i) :: data (2 * i + 1) :: word_bytes enabled data rest
      else word_bytes enabled data rest

namespace EfuseSection

def hdr_bytes (sec : EfuseSection) : List UInt8 :=
  if sec.blk < 16 then [plain_hdr sec.blk sec.word_en]
  else [ext_hdr sec.blk, ext_hdr2 sec.blk sec.word_en]

def bytes (sec : EfuseSection) : List UInt8 :=
  sec.hdr_bytes ++ word_bytes sec.enabled sec.data [0, 1, 2, 3]

end EfuseSection

def overlay (blk enabled : Nat) (data log_map : ByteMap) : ByteMap := fun address =>
  if address / 8 = blk ∧ enabled.testBit (address % 8 / 2) then data (address % 8) else log_map address

def EfuseSection.apply (sec : EfuseSection) (log_map : ByteMap) : ByteMap :=
  overlay sec.blk sec.enabled sec.data log_map

def HoldsAt (phy_map : ByteMap) (idx : Nat) (bytes : List UInt8) : Prop :=
  ∀ (k : Nat) (inside : k < bytes.length), phy_map (idx + k) = bytes.get ⟨k, inside⟩

theorem holdsAt_nil (phy_map : ByteMap) (idx : Nat) : HoldsAt phy_map idx [] := by
  intro k inside
  exact absurd inside (Nat.not_lt_zero k)

theorem holdsAt_cons {phy_map : ByteMap} {byte : UInt8} {rest : List UInt8} :
    HoldsAt phy_map idx (byte :: rest) <-> phy_map idx = byte ∧ HoldsAt phy_map (idx + 1) rest := by
  constructor
  · intro holds
    refine ⟨holds 0 (Nat.zero_lt_succ _), ?_⟩
    intro k inside
    have shifted := holds (k + 1) (Nat.succ_lt_succ inside)
    rw [Nat.add_assoc, Nat.add_comm 1 k]
    exact shifted
  · intro ⟨first, holds⟩ k inside
    cases k with
    | zero => exact first
    | succ k =>
        have shifted := holds k (Nat.lt_of_succ_lt_succ inside)
        rw [Nat.add_assoc, Nat.add_comm 1 k] at shifted
        exact shifted

theorem holdsAt_append {phy_map : ByteMap} {first second : List UInt8} :
    HoldsAt phy_map idx (first ++ second) <->
      HoldsAt phy_map idx first ∧ HoldsAt phy_map (idx + first.length) second := by
  induction first generalizing idx with
  | nil => exact ⟨fun holds => ⟨holdsAt_nil _ _, holds⟩, fun holds => holds.2⟩
  | cons byte rest ih =>
      rw [List.cons_append, holdsAt_cons, holdsAt_cons, ih, List.length_cons,
        Nat.add_assoc idx 1, Nat.add_comm 1 rest.length, and_assoc]

section Headers

theorem plain_hdr_reads : ∀ blk : Fin 16, ∀ word_en : Fin 15,
    is_ext_hdr (plain_hdr blk word_en) = false ∧ plain_hdr blk word_en ≠ 0xff ∧
      hdr_blk_idx (plain_hdr blk word_en) = blk ∧ hdr_word_en (plain_hdr blk word_en) = word_en := by
  decide +kernel

theorem ext_hdr_reads : ∀ blk : Fin 128, ∀ word_en : Fin 15,
    is_ext_hdr (ext_hdr blk) = true ∧ ext_hdr2 blk word_en ≠ 0xff ∧
      ext_blk_idx (ext_hdr blk) (ext_hdr2 blk word_en) = blk ∧
      hdr_word_en (ext_hdr2 blk word_en) = word_en := by
  decide +kernel

/-- Behind a dangling header byte, a one-byte header moves to another block,
which depends on the three bits of the dangling byte. -/
theorem plain_hdr_misread : ∀ hdr : Fin 8, ∀ blk : Fin 16, ∀ word_en : Fin 15,
    ext_blk_idx (ext_hdr hdr) (plain_hdr blk word_en) = 8 * blk.val + hdr.val := by
  decide +kernel

/-- Behind a dangling header byte, the first byte of an extended header enables
no word, and the second byte is read as a header of one byte. -/
theorem ext_hdr_misread : ∀ blk : Fin 128, ∀ word_en : Fin 15,
    ext_hdr blk ≠ 0xff ∧ hdr_word_en (ext_hdr blk) = 15 ∧
      is_ext_hdr (ext_hdr2 blk word_en) = false ∧
      hdr_blk_idx (ext_hdr2 blk word_en) = blk.val / 8 := by
  decide +kernel

theorem is_ext_hdr_eq : ∀ hdr : Fin 256,
    is_ext_hdr (UInt8.ofNat hdr) = true -> UInt8.ofNat hdr = ext_hdr (hdr.val / 32) := by
  decide +kernel

end Headers

/-! ## Reading the words -/

theorem word_address (blk i : Nat) : (blk <<< 3) + (i <<< 1) = 8 * blk + 2 * i := by
  rw [Nat.shiftLeft_eq, Nat.shiftLeft_eq]
  omega

theorem update_word {data : ByteMap} (bound : i < 4) {low high : UInt8}
    (isLow : low = data (2 * i)) (isHigh : high = data (2 * i + 1)) (address : Nat) :
    Function.update (Function.update log_map (8 * blk + 2 * i) low) (8 * blk + 2 * i + 1) high address =
      if address / 8 = blk ∧ address % 8 / 2 = i then data (address % 8) else log_map address := by
  by_cases second : address = 8 * blk + 2 * i + 1
  · have parts : (address / 8 = blk ∧ address % 8 / 2 = i) ∧ address % 8 = 2 * i + 1 := by omega
    rw [if_pos parts.1, parts.2, second, Function.update_self, isHigh]
  · rw [Function.update_of_ne second]
    by_cases first : address = 8 * blk + 2 * i
    · have parts : (address / 8 = blk ∧ address % 8 / 2 = i) ∧ address % 8 = 2 * i := by omega
      rw [if_pos parts.1, parts.2, first, Function.update_self, isLow]
    · rw [Function.update_of_ne first, if_neg (by omega)]

theorem parse_words_overlay {phy_map data : ByteMap} {word_en enabled : Nat}
    {words : List Nat} {state next : ParserState} (small : ∀ i ∈ words, i < 4)
    (complement : ∀ i ∈ words, word_en.testBit i = !enabled.testBit i)
    (holds : HoldsAt phy_map state.efuse_idx (word_bytes enabled data words))
    (success : parse_words hw_info phy_map blk word_en words state = some next) :
    next.efuse_idx = state.efuse_idx + (word_bytes enabled data words).length ∧
      ∀ address, next.log_map address =
        if address / 8 = blk ∧ address % 8 / 2 ∈ words ∧ enabled.testBit (address % 8 / 2) then
          data (address % 8)
        else state.log_map address := by
  induction words generalizing state with
  | nil =>
      rw [parse_words, Option.some.injEq] at success
      rw [← success]
      refine ⟨rfl, ?_⟩
      intro address
      rw [if_neg (fun impossible => List.not_mem_nil impossible.2.1)]
  | cons i rest ih =>
      have smallRest : ∀ j ∈ rest, j < 4 := fun j member => small j (List.mem_cons_of_mem _ member)
      have complementRest : ∀ j ∈ rest, word_en.testBit j = !enabled.testBit j :=
        fun j member => complement j (List.mem_cons_of_mem _ member)
      have bound := small i List.mem_cons_self
      simp only [parse_words, complement i List.mem_cons_self, word_address] at success
      rw [word_bytes] at holds ⊢
      cases selected : enabled.testBit i with
      | false =>
          simp only [selected, Bool.not_false, if_true] at success
          simp only [selected, Bool.false_eq_true, if_false] at holds ⊢
          rcases ih smallRest complementRest holds success with ⟨index, log⟩
          refine ⟨index, ?_⟩
          intro address
          rw [log address]
          refine if_congr ?_ rfl rfl
          rw [List.mem_cons]
          constructor
          · rintro ⟨block, member, bit⟩
            exact ⟨block, Or.inr member, bit⟩
          · rintro ⟨block, member, bit⟩
            rcases member with same | member
            · rw [same, selected] at bit
              cases bit
            · exact ⟨block, member, bit⟩
      | true =>
          simp only [selected, Bool.not_true, Bool.false_eq_true, if_false] at success
          simp only [selected, if_true] at holds ⊢
          rw [holdsAt_cons, holdsAt_cons] at holds
          split_ifs at success
          rcases @ih ⟨state.efuse_idx + 2, _⟩ smallRest complementRest
            holds.2.2 success with ⟨index, log⟩
          refine ⟨?_, ?_⟩
          · rw [index, List.length_cons, List.length_cons]
            change state.efuse_idx + 2 + _ = _
            omega
          · intro address
            rw [log address]
            by_cases member : address / 8 = blk ∧ address % 8 / 2 ∈ rest ∧ enabled.testBit (address % 8 / 2)
            · rw [if_pos member, if_pos ⟨member.1, List.mem_cons_of_mem _ member.2.1, member.2.2⟩]
            · rw [if_neg member]
              change Function.update (Function.update _ _ _) _ _ address = _
              rw [update_word bound holds.1 holds.2.1]
              by_cases here : address / 8 = blk ∧ address % 8 / 2 = i
              · rw [if_pos here, if_pos ⟨here.1, List.mem_cons.mpr (Or.inl here.2), here.2.symm ▸ selected⟩]
              · rw [if_neg here, if_neg]
                rintro ⟨block, listed, bit⟩
                rcases List.mem_cons.mp listed with same | later
                · exact here ⟨block, same⟩
                · exact member ⟨block, later, bit⟩

theorem parse_words_fits {hw_info : HwCfgInfo} {phy_map data : ByteMap} {blk word_en enabled : Nat}
    {words : List Nat} {state : ParserState} (complement : ∀ i ∈ words, word_en.testBit i = !enabled.testBit i)
    (inside : ∀ i ∈ words, enabled.testBit i = true -> 8 * blk + 2 * i < hw_info.eeprom_size)
    (fits : state.efuse_idx + (word_bytes enabled data words).length ≤ hw_info.limit) :
    ∃ next, parse_words hw_info phy_map blk word_en words state = some next := by
  induction words generalizing state with
  | nil => exact ⟨state, rfl⟩
  | cons i rest ih =>
      have complementRest : ∀ j ∈ rest, word_en.testBit j = !enabled.testBit j :=
        fun j member => complement j (List.mem_cons_of_mem _ member)
      have insideRest : ∀ j ∈ rest, enabled.testBit j = true ->
          8 * blk + 2 * j < hw_info.eeprom_size := fun j member => inside j (List.mem_cons_of_mem _ member)
      simp only [parse_words, complement i List.mem_cons_self, word_address]
      rw [word_bytes] at fits
      cases selected : enabled.testBit i with
      | false =>
          simp only [selected, Bool.false_eq_true, if_false] at fits
          simp only [Bool.not_false, if_true]
          exact ih complementRest insideRest fits
      | true =>
          have address := inside i List.mem_cons_self selected
          simp only [selected, if_true, List.length_cons] at fits
          simp only [Bool.not_true, Bool.false_eq_true, if_false]
          unfold HwCfgInfo.limit at *
          rw [if_neg (by omega), if_neg (by omega), if_neg (by omega)]
          exact @ih ⟨state.efuse_idx + 2, _⟩ complementRest insideRest
            (by change state.efuse_idx + 2 + _ ≤ _; omega)

namespace EfuseSection

/-- The address of each word that the section sets lies in the logical map. -/
def Inside (hw_info : HwCfgInfo) (sec : EfuseSection) : Prop :=
  ∀ i, i < 4 -> sec.enabled.testBit i = true -> 8 * sec.blk + 2 * i < hw_info.eeprom_size

theorem word_en_lt (sec : EfuseSection) : sec.word_en < 15 := by
  have finite : ∀ enabled : Fin 16, 0 < enabled.val -> enabled.val ^^^ 0x0F < 15 := by decide
  exact finite ⟨sec.enabled, sec.enabled_lt⟩ sec.enabled_pos

theorem word_en_complement (sec : EfuseSection) (small : i < 4) : sec.word_en.testBit i = !sec.enabled.testBit i := by
  have finite : ∀ (enabled : Fin 16) (i : Fin 4),
      (enabled.val ^^^ 0x0F).testBit i = !enabled.val.testBit i := by decide
  exact finite ⟨sec.enabled, sec.enabled_lt⟩ ⟨i, small⟩

theorem words_small (member : i ∈ [0, 1, 2, 3]) : i < 4 := by
  simp only [List.mem_cons, List.not_mem_nil, or_false] at member
  omega

theorem mem_words (small : i < 4) : i ∈ [0, 1, 2, 3] := by
  simp only [List.mem_cons, List.not_mem_nil, or_false]
  omega

theorem two_le_words (sec : EfuseSection) : 2 ≤ (word_bytes sec.enabled sec.data [0, 1, 2, 3]).length := by
  have finite : ∀ enabled : Fin 16, 0 < enabled.val ->
      enabled.val.testBit 0 = true ∨ enabled.val.testBit 1 = true ∨ enabled.val.testBit 2 = true ∨
        enabled.val.testBit 3 = true := by decide
  have some := finite ⟨sec.enabled, sec.enabled_lt⟩ sec.enabled_pos
  simp only [word_bytes]
  split_ifs <;> simp_all

theorem parse_section_overlay {phy_map : ByteMap} {state next : ParserState} (sec : EfuseSection)
    (holds : HoldsAt phy_map state.efuse_idx (word_bytes sec.enabled sec.data [0, 1, 2, 3]))
    (success : parse_section hw_info phy_map blk sec.word_en state = some next) :
    next = ⟨state.efuse_idx + (word_bytes sec.enabled sec.data [0, 1, 2, 3]).length,
      overlay blk sec.enabled sec.data state.log_map⟩ := by
  unfold parse_section at success
  split_ifs at success
  rcases parse_words_overlay (fun i member => words_small member)
    (fun i member => sec.word_en_complement (words_small member)) holds success with ⟨index, log⟩
  have maps : next.log_map = overlay blk sec.enabled sec.data state.log_map := by
    funext address
    rw [log address, overlay]
    refine if_congr ?_ rfl rfl
    constructor
    · intro ⟨block, _, bit⟩
      exact ⟨block, bit⟩
    · intro ⟨block, bit⟩
      exact ⟨block, mem_words (by omega), bit⟩
  rw [← index, ← maps]

theorem parse_section_fits {hw_info : HwCfgInfo} {phy_map : ByteMap} {blk : Nat} {state : ParserState}
    (sec : EfuseSection) (holds : HoldsAt phy_map state.efuse_idx (word_bytes sec.enabled sec.data [0, 1, 2, 3]))
    (inside : ∀ i, i < 4 -> sec.enabled.testBit i = true -> 8 * blk + 2 * i < hw_info.eeprom_size)
    (fits : state.efuse_idx + (word_bytes sec.enabled sec.data [0, 1, 2, 3]).length ≤ hw_info.limit) :
    parse_section hw_info phy_map blk sec.word_en state =
      some ⟨state.efuse_idx + (word_bytes sec.enabled sec.data [0, 1, 2, 3]).length,
        overlay blk sec.enabled sec.data state.log_map⟩ := by
  have words := sec.two_le_words
  rcases @parse_words_fits hw_info phy_map _ _ _ _ _ state
    (fun i member => sec.word_en_complement (words_small member))
    (fun i member => inside i (words_small member)) fits with ⟨next, success⟩
  have room : ¬ state.efuse_idx >= hw_info.efuse_size - PROTECT_EFUSE_SIZE - 1 := by
    unfold HwCfgInfo.limit at fits
    omega
  have whole : parse_section hw_info phy_map blk sec.word_en state = some next := by
    rw [parse_section, if_neg room]
    exact success
  rw [whole, sec.parse_section_overlay holds whole]

theorem body_eq {hw_info : HwCfgInfo} {phy_map log_map : ByteMap} {idx : Nat} (sec : EfuseSection)
    (holds : HoldsAt phy_map idx sec.bytes) :
    eeprom_parser_body hw_info phy_map ⟨idx, log_map⟩ =
      go_on (parse_section hw_info phy_map sec.blk sec.word_en ⟨idx + sec.hdr_bytes.length, log_map⟩) := by
  have words := sec.word_en_lt
  unfold bytes at holds
  rw [holdsAt_append] at holds
  by_cases low : sec.blk < 16
  · have reads := plain_hdr_reads ⟨sec.blk, low⟩ ⟨sec.word_en, words⟩
    have one : sec.hdr_bytes = [plain_hdr sec.blk sec.word_en] := if_pos low
    rw [one, holdsAt_cons] at holds
    simp only [eeprom_parser_body, holds.1.1, one, List.length_singleton, reads.1, if_neg reads.2.1,
      reads.2.2.1, reads.2.2.2, Bool.false_eq_true, if_false]
  · have reads := ext_hdr_reads ⟨sec.blk, sec.blk_lt⟩ ⟨sec.word_en, words⟩
    have two : sec.hdr_bytes = [ext_hdr sec.blk, ext_hdr2 sec.blk sec.word_en] := if_neg low
    rw [two, holdsAt_cons, holdsAt_cons] at holds
    simp only [eeprom_parser_body, holds.1.1, holds.1.2.1, two, reads.1, if_neg reads.2.1, reads.2.2.1,
      reads.2.2.2, if_true]
    rfl

theorem length_bytes (sec : EfuseSection) : sec.bytes.length =
    sec.hdr_bytes.length + (word_bytes sec.enabled sec.data [0, 1, 2, 3]).length :=
  List.length_append

theorem body_more {phy_map : ByteMap} {next : ParserState}
    (sec : EfuseSection) (holds : HoldsAt phy_map idx sec.bytes)
    (more : eeprom_parser_body hw_info phy_map ⟨idx, log_map⟩ = .more next) :
    next = ⟨idx + sec.bytes.length, sec.apply log_map⟩ := by
  rw [sec.body_eq holds] at more
  unfold bytes at holds
  rw [holdsAt_append] at holds
  cases outcome : parse_section hw_info phy_map sec.blk sec.word_en
      ⟨idx + sec.hdr_bytes.length, log_map⟩ with
  | none =>
      rw [outcome] at more
      cases more
  | some found =>
      rw [outcome, go_on, Iteration.more.injEq] at more
      rw [← more, sec.parse_section_overlay holds.2 outcome, sec.length_bytes, Nat.add_assoc]
      rfl

theorem body_fits {hw_info : HwCfgInfo} {phy_map log_map : ByteMap} {idx : Nat} (sec : EfuseSection)
    (holds : HoldsAt phy_map idx sec.bytes) (inside : sec.Inside hw_info)
    (fits : idx + sec.bytes.length ≤ hw_info.limit) :
    eeprom_parser_body hw_info phy_map ⟨idx, log_map⟩ =
      .more ⟨idx + sec.bytes.length, sec.apply log_map⟩ := by
  have parts := holds
  unfold bytes at parts
  rw [holdsAt_append] at parts
  rw [sec.length_bytes] at fits
  rw [sec.body_eq holds, sec.parse_section_fits parts.2 inside (by
    change idx + sec.hdr_bytes.length + _ ≤ _
    omega), go_on, sec.length_bytes, Nat.add_assoc]
  rfl

theorem parsed {phy_map : ByteMap} (sec : EfuseSection) (parsed : ParsedTo hw_info phy_map ⟨idx, log_map⟩)
    (holds : HoldsAt phy_map idx sec.bytes) (success : eeprom_parser_88xx hw_info phy_map = some final) :
    ParsedTo hw_info phy_map ⟨idx + sec.bytes.length, sec.apply log_map⟩ := by
  have body := @body_eq hw_info _ log_map _ sec holds
  rcases parsed.of_go_on body success with ⟨next, outcome, later⟩
  rw [outcome, go_on] at body
  rw [← sec.body_more holds body]
  exact later

/-- The block that the parser takes a section for when a dangling header byte
stands before it. -/
def misread_blk (hdr : UInt8) (sec : EfuseSection) : Nat :=
  if sec.blk < 16 then 8 * sec.blk + hdr.toNat / 32 else sec.blk / 8

end EfuseSection

def sections_bytes (sections : List EfuseSection) : List UInt8 :=
  sections.flatMap EfuseSection.bytes

def apply_sections (sections : List EfuseSection) (log_map : ByteMap) : ByteMap :=
  sections.foldl (fun map sec => sec.apply map) log_map

theorem apply_sections_nil (log_map : ByteMap) : apply_sections [] log_map = log_map := rfl

theorem sections_bytes_cons (sec : EfuseSection) (rest : List EfuseSection) :
    sections_bytes (sec :: rest) = sec.bytes ++ sections_bytes rest := List.flatMap_cons

theorem ParsedTo.sections {phy_map : ByteMap} {sections : List EfuseSection} (parsed : ParsedTo hw_info phy_map ⟨idx, log_map⟩)
    (holds : HoldsAt phy_map idx (sections_bytes sections))
    (success : eeprom_parser_88xx hw_info phy_map = some final) :
    ParsedTo hw_info phy_map
      ⟨idx + (sections_bytes sections).length, apply_sections sections log_map⟩ := by
  induction sections generalizing idx log_map with
  | nil => exact parsed
  | cons sec rest ih =>
      rw [sections_bytes_cons, holdsAt_append] at holds
      rw [sections_bytes_cons, List.length_append, ← Nat.add_assoc]
      exact ih (sec.parsed parsed holds.1 success) holds.2

theorem ParsedTo.sections_fit {phy_map : ByteMap}
    {sections : List EfuseSection} (parsed : ParsedTo hw_info phy_map ⟨idx, log_map⟩)
    (holds : HoldsAt phy_map idx (sections_bytes sections)) (inside : ∀ sec ∈ sections, sec.Inside hw_info)
    (fits : idx + (sections_bytes sections).length ≤ hw_info.limit) :
    ParsedTo hw_info phy_map
      ⟨idx + (sections_bytes sections).length, apply_sections sections log_map⟩ := by
  induction sections generalizing idx log_map with
  | nil => exact parsed
  | cons sec rest ih =>
      rw [sections_bytes_cons, holdsAt_append] at holds
      rw [sections_bytes_cons, List.length_append, ← Nat.add_assoc] at fits ⊢
      have first := @EfuseSection.body_fits hw_info _ log_map _ sec holds.1 (inside sec List.mem_cons_self) (by omega)
      exact ih (parsed.step first) holds.2
        (fun other member => inside other (List.mem_cons_of_mem _ member)) fits

theorem apply_sections_other {sections : List EfuseSection} {address : Nat} (other : ∀ sec ∈ sections,
      ¬ (address / 8 = sec.blk ∧ sec.enabled.testBit (address % 8 / 2) = true)) :
    apply_sections sections log_map address = log_map address := by
  induction sections generalizing log_map with
  | nil => rfl
  | cons sec rest ih =>
      have tail := @ih (sec.apply log_map)
        (fun later member => other later (List.mem_cons_of_mem _ member))
      have head := other sec List.mem_cons_self
      change apply_sections rest (sec.apply log_map) address = _
      rw [tail, EfuseSection.apply, overlay, if_neg head]

theorem ext_hdr_of_is_ext (ext : is_ext_hdr hdr = true) : hdr = ext_hdr (hdr.toNat / 32) := by
  have finite := is_ext_hdr_eq ⟨hdr.toNat, hdr.toNat_lt⟩
  rw [UInt8.ofNat_toNat] at finite
  exact finite ext

theorem parse_words_skip {phy_map : ByteMap} {word_en : Nat}
    {words : List Nat} {state : ParserState} (disabled : ∀ i ∈ words, word_en.testBit i = true) :
    parse_words hw_info phy_map blk word_en words state = some state := by
  induction words with
  | nil => rfl
  | cons i rest ih =>
      rw [parse_words, if_pos (disabled i List.mem_cons_self)]
      exact ih (fun j member => disabled j (List.mem_cons_of_mem _ member))

theorem parse_section_skip {hw_info : HwCfgInfo} {phy_map : ByteMap} {blk : Nat} {state : ParserState}
    (room : state.efuse_idx + 1 < hw_info.limit) : parse_section hw_info phy_map blk 15 state = some state := by
  have left : ¬ state.efuse_idx >= hw_info.efuse_size - PROTECT_EFUSE_SIZE - 1 := by
    unfold HwCfgInfo.limit at room
    omega
  rw [parse_section, if_neg left]
  exact parse_words_skip (by decide)

theorem body_misread_plain {hw_info : HwCfgInfo} {phy_map log_map : ByteMap} {idx : Nat} {hdr : UInt8}
    (sec : EfuseSection) (ext : is_ext_hdr hdr = true) (first : phy_map idx = hdr)
    (low : sec.blk < 16) (second : phy_map (idx + 1) = plain_hdr sec.blk sec.word_en) :
    eeprom_parser_body hw_info phy_map ⟨idx, log_map⟩ =
      go_on (parse_section hw_info phy_map (sec.misread_blk hdr) sec.word_en ⟨idx + 2, log_map⟩) := by
  have reads := plain_hdr_reads ⟨sec.blk, low⟩ ⟨sec.word_en, sec.word_en_lt⟩
  have high : hdr.toNat / 32 < 8 := by
    have byte := hdr.toNat_lt
    omega
  have moved := plain_hdr_misread ⟨hdr.toNat / 32, high⟩ ⟨sec.blk, low⟩ ⟨sec.word_en, sec.word_en_lt⟩
  rw [← ext_hdr_of_is_ext ext] at moved
  simp only [eeprom_parser_body, first, ext, second, if_true, if_neg reads.2.1, moved, reads.2.2.2,
    EfuseSection.misread_blk, if_pos low]

theorem body_misread_ext {hw_info : HwCfgInfo} {phy_map log_map : ByteMap} {idx : Nat} {hdr : UInt8}
    (sec : EfuseSection) (ext : is_ext_hdr hdr = true) (first : phy_map idx = hdr)
    (second : phy_map (idx + 1) = ext_hdr sec.blk) :
    eeprom_parser_body hw_info phy_map ⟨idx, log_map⟩ =
      go_on (parse_section hw_info phy_map (ext_blk_idx hdr (ext_hdr sec.blk)) 15
        ⟨idx + 2, log_map⟩) := by
  have reads := ext_hdr_misread ⟨sec.blk, sec.blk_lt⟩ ⟨sec.word_en, sec.word_en_lt⟩
  simp only [eeprom_parser_body, first, ext, second, if_true, if_neg reads.1, reads.2.1]

theorem body_misread_ext2 {hw_info : HwCfgInfo} {phy_map log_map : ByteMap} {idx : Nat} {hdr : UInt8}
    (sec : EfuseSection) (high : ¬ sec.blk < 16) (cell : phy_map idx = ext_hdr2 sec.blk sec.word_en) :
    eeprom_parser_body hw_info phy_map ⟨idx, log_map⟩ =
      go_on (parse_section hw_info phy_map (sec.misread_blk hdr) sec.word_en ⟨idx + 1, log_map⟩) := by
  have reads := ext_hdr_misread ⟨sec.blk, sec.blk_lt⟩ ⟨sec.word_en, sec.word_en_lt⟩
  have own := ext_hdr_reads ⟨sec.blk, sec.blk_lt⟩ ⟨sec.word_en, sec.word_en_lt⟩
  simp only [eeprom_parser_body, cell, reads.2.2.1, Bool.false_eq_true, if_false, if_neg own.2.1,
    reads.2.2.2, own.2.2.2, EfuseSection.misread_blk, if_neg high]

theorem ParsedTo.misread {phy_map : ByteMap} (sec : EfuseSection) (parsed : ParsedTo hw_info phy_map ⟨idx, log_map⟩)
    (ext : is_ext_hdr hdr = true) (first : phy_map idx = hdr) (holds : HoldsAt phy_map (idx + 1) sec.bytes)
    (success : eeprom_parser_88xx hw_info phy_map = some final) :
    ParsedTo hw_info phy_map ⟨idx + 1 + sec.bytes.length,
      overlay (sec.misread_blk hdr) sec.enabled sec.data log_map⟩ := by
  rw [sec.length_bytes]
  unfold EfuseSection.bytes at holds
  rw [holdsAt_append] at holds
  by_cases low : sec.blk < 16
  · have one : sec.hdr_bytes = [plain_hdr sec.blk sec.word_en] := if_pos low
    rw [one, holdsAt_cons] at holds
    rcases parsed.of_go_on (body_misread_plain sec ext first low holds.1.1) success with ⟨next, outcome, later⟩
    rw [sec.parse_section_overlay holds.2 outcome] at later
    rw [one, List.length_singleton, ← Nat.add_assoc]
    exact later
  · have two : sec.hdr_bytes = [ext_hdr sec.blk, ext_hdr2 sec.blk sec.word_en] := if_neg low
    rw [two, holdsAt_cons, holdsAt_cons] at holds
    rcases parsed.of_go_on (body_misread_ext sec ext first holds.1.1) success with ⟨skipped, outcome, later⟩
    have still := @parse_section_skip _ phy_map (ext_blk_idx hdr (ext_hdr sec.blk)) _
      (parse_section_idx outcome).2.2
    rw [outcome, Option.some.injEq] at still
    rw [still] at later
    rcases later.of_go_on (@body_misread_ext2 hw_info _ _ _ hdr sec low holds.1.2.1) success with ⟨next, read, last⟩
    rw [sec.parse_section_overlay holds.2 read] at last
    have same : idx + 2 + 1 + (word_bytes sec.enabled sec.data [0, 1, 2, 3]).length =
        idx + 1 + (sec.hdr_bytes.length + (word_bytes sec.enabled sec.data [0, 1, 2, 3]).length) := by
      rw [two, List.length_cons, List.length_singleton]
      omega
    rw [← same]
    exact last

/-- The section behind a dangling byte is taken for the words of another block
whenever those exist and the section fits. -/
theorem ParsedTo.misread_fit {phy_map : ByteMap}
    (sec : EfuseSection) (parsed : ParsedTo hw_info phy_map ⟨idx, log_map⟩)
    (ext : is_ext_hdr hdr = true) (first : phy_map idx = hdr) (holds : HoldsAt phy_map (idx + 1) sec.bytes)
    (inside : ∀ i, i < 4 -> sec.enabled.testBit i = true ->
      8 * sec.misread_blk hdr + 2 * i < hw_info.eeprom_size)
    (fits : idx + 1 + sec.bytes.length ≤ hw_info.limit) :
    ParsedTo hw_info phy_map ⟨idx + 1 + sec.bytes.length,
      overlay (sec.misread_blk hdr) sec.enabled sec.data log_map⟩ := by
  have words := sec.two_le_words
  rw [sec.length_bytes] at fits ⊢
  unfold EfuseSection.bytes at holds
  rw [holdsAt_append] at holds
  by_cases low : sec.blk < 16
  · have one : sec.hdr_bytes = [plain_hdr sec.blk sec.word_en] := if_pos low
    rw [one, holdsAt_cons] at holds
    rw [one, List.length_singleton] at fits ⊢
    have body := @body_misread_plain hw_info _ log_map _ _ sec ext first low holds.1.1
    rw [sec.parse_section_fits holds.2 inside (by change idx + 2 + _ ≤ _; omega), go_on] at body
    rw [← Nat.add_assoc]
    exact parsed.step body
  · have two : sec.hdr_bytes = [ext_hdr sec.blk, ext_hdr2 sec.blk sec.word_en] := if_neg low
    rw [two, holdsAt_cons, holdsAt_cons] at holds
    rw [two, List.length_cons, List.length_singleton] at fits ⊢
    have skip := @body_misread_ext hw_info _ log_map _ _ sec ext first holds.1.1
    rw [parse_section_skip (by change idx + 2 + 1 < _; omega), go_on] at skip
    have body := @body_misread_ext2 hw_info _ log_map _ hdr sec low holds.1.2.1
    rw [sec.parse_section_fits holds.2 inside (by change idx + 2 + 1 + _ ≤ _; omega), go_on] at body
    have same : idx + 2 + 1 + (word_bytes sec.enabled sec.data [0, 1, 2, 3]).length =
        idx + 1 + (1 + 1 + (word_bytes sec.enabled sec.data [0, 1, 2, 3]).length) := by omega
    rw [← same]
    exact (parsed.step skip).step body

end Rtl8821ce
