import Rtl8821ce.Efuse.Adapter
import Rtl8821ce.Library.Scanner

/-!
# The logical map in the physical efuse

The physical efuse is a log of sections.  A section has a header with a block
number and a nibble of disabled words, followed by two bytes for each enabled
word of the eight-byte block; later sections override earlier ones.  Blocks
from 16 on need a second header byte, which the low five bits `0x0f` of the
first announce.  The first byte `0xff` ends the log.

`eeprom_parser_88xx` replays the log.  It also stops at an announced second
header byte that reads `0xff`, and then the end of the log is that byte: the
first header byte stays dangling before it.
-/

namespace Rtl8821ce

open Scanner (Iteration scan Passes)

variable {hw_info : HwCfgInfo} {final : ParserState}

/-- Where the parser is, and the logical map so far. -/
structure ParserState where
  efuse_idx : Nat
  log_map : ByteMap

/-- The words of one section: `i` runs over the words that are left.  `none`
stands for `EEPROM_PARSING_FAIL`. -/
def parse_words (hw_info : HwCfgInfo) (phy_map : ByteMap) (blk_idx word_en : Nat) :
    List Nat -> ParserState -> Option ParserState
  | [], state => some state
  | i :: rest, state =>
      -- `valid` is the complement of bit `i` of `word_en`
      if word_en.testBit i then parse_words hw_info phy_map blk_idx word_en rest state
      else
        let eeprom_idx := (blk_idx <<< 3) + (i <<< 1)
        if eeprom_idx + 1 > hw_info.eeprom_size then none
        else
          let efuse_idx := state.efuse_idx
          let log_map := Function.update state.log_map eeprom_idx (phy_map efuse_idx)
          if efuse_idx + 1 > hw_info.efuse_size - PROTECT_EFUSE_SIZE - 1 then none
          else
            let log_map := Function.update log_map (eeprom_idx + 1) (phy_map (efuse_idx + 1))
            if efuse_idx + 2 > hw_info.efuse_size - PROTECT_EFUSE_SIZE then none
            else
              parse_words hw_info phy_map blk_idx word_en rest ⟨efuse_idx + 2, log_map⟩

/-- What follows a complete header: the space check and the words. -/
def parse_section (hw_info : HwCfgInfo) (phy_map : ByteMap) (blk_idx word_en : Nat)
    (state : ParserState) : Option ParserState :=
  if state.efuse_idx >= hw_info.efuse_size - PROTECT_EFUSE_SIZE - 1 then none
  else parse_words hw_info phy_map blk_idx word_en [0, 1, 2, 3] state

/-- Go on behind a section, or end the loop with a failure. -/
def go_on : Option ParserState -> Iteration ParserState (Option ParserState)
  | some state => .more state
  | none => .done none

/-- The first header byte that announces a second one. -/
def is_ext_hdr (hdr : UInt8) : Bool := hdr &&& 0x1f == 0x0f

/-- The block and the disabled words of an extended header. -/
def ext_blk_idx (hdr hdr2 : UInt8) : Nat :=
  ((hdr2.toNat &&& 0xF0) >>> 1) ||| ((hdr.toNat >>> 5) &&& 0x07)

def hdr_word_en (hdr : UInt8) : Nat := hdr.toNat &&& 0x0F

def hdr_blk_idx (hdr : UInt8) : Nat := (hdr.toNat &&& 0xF0) >>> 4

/-- One iteration of the loop of `eeprom_parser_88xx`. -/
def eeprom_parser_body (hw_info : HwCfgInfo) (phy_map : ByteMap) (state : ParserState) :
    Iteration ParserState (Option ParserState) :=
  let hdr := phy_map state.efuse_idx
  if is_ext_hdr hdr then
    let efuse_idx := state.efuse_idx + 1
    let hdr2 := phy_map efuse_idx
    if hdr2 = 0xff then .done (some ⟨efuse_idx, state.log_map⟩)
    else
      go_on (parse_section hw_info phy_map (ext_blk_idx hdr hdr2) (hdr_word_en hdr2)
        ⟨efuse_idx + 1, state.log_map⟩)
  else if hdr = 0xff then .done (some state)
  else
    go_on (parse_section hw_info phy_map (hdr_blk_idx hdr) (hdr_word_en hdr)
      ⟨state.efuse_idx + 1, state.log_map⟩)

/-- The parser: the logical map and the end of the log, or a failure.  The
index grows in each iteration and is checked, so `efuse_size` of them suffice. -/
def eeprom_parser_88xx (hw_info : HwCfgInfo) (phy_map : ByteMap) : Option ParserState :=
  (scan (eeprom_parser_body hw_info phy_map) hw_info.efuse_size ⟨0, ByteMap.blank⟩).getD none

theorem parse_words_idx {phy_map : ByteMap} {blk_idx word_en : Nat} {words : List Nat} {state next : ParserState}
    (success : parse_words hw_info phy_map blk_idx word_en words state = some next) :
    state.efuse_idx ≤ next.efuse_idx ∧
      (next.efuse_idx = state.efuse_idx ∨ next.efuse_idx ≤ hw_info.limit) := by
  induction words generalizing state with
  | nil =>
      rw [parse_words, Option.some.injEq] at success
      rw [success]
      exact ⟨Nat.le_refl _, Or.inl rfl⟩
  | cons i rest ih =>
      simp only [parse_words] at success
      split_ifs at success
      · exact ih success
      · have tail := ih success
        unfold HwCfgInfo.limit at *
        change state.efuse_idx + 2 ≤ _ ∧ _ at tail
        refine ⟨by omega, Or.inr ?_⟩
        rcases tail.2 with same | inside
        · change _ = state.efuse_idx + 2 at same
          omega
        · exact inside

theorem parse_section_idx {phy_map : ByteMap} {blk_idx word_en : Nat} {state next : ParserState}
    (success : parse_section hw_info phy_map blk_idx word_en state = some next) :
    state.efuse_idx ≤ next.efuse_idx ∧ next.efuse_idx ≤ hw_info.limit ∧
      state.efuse_idx + 1 < hw_info.limit := by
  unfold parse_section at success
  split_ifs at success with full
  have bounds := parse_words_idx success
  unfold HwCfgInfo.limit at *
  omega

theorem eeprom_parser_body_more {phy_map : ByteMap} {state next : ParserState}
    (more : eeprom_parser_body hw_info phy_map state = .more next) :
    (is_ext_hdr (phy_map state.efuse_idx) = true ∧ phy_map (state.efuse_idx + 1) ≠ 0xff ∧
        parse_section hw_info phy_map
          (ext_blk_idx (phy_map state.efuse_idx) (phy_map (state.efuse_idx + 1)))
          (hdr_word_en (phy_map (state.efuse_idx + 1))) ⟨state.efuse_idx + 2, state.log_map⟩ = some next) ∨
      (is_ext_hdr (phy_map state.efuse_idx) = false ∧ phy_map state.efuse_idx ≠ 0xff ∧
        parse_section hw_info phy_map (hdr_blk_idx (phy_map state.efuse_idx))
          (hdr_word_en (phy_map state.efuse_idx)) ⟨state.efuse_idx + 1, state.log_map⟩ = some next) := by
  have inner : ∀ outcome : Option ParserState, go_on outcome = .more next -> outcome = some next := by
    intro outcome same
    cases outcome with
    | none => cases same
    | some found =>
        rw [go_on, Iteration.more.injEq] at same
        rw [same]
  simp only [eeprom_parser_body] at more
  split_ifs at more with ext blank plain
  · exact Or.inl ⟨ext, blank, inner _ more⟩
  · exact Or.inr ⟨Bool.eq_false_iff.mpr ext, plain, inner _ more⟩

theorem eeprom_parser_body_idx {phy_map : ByteMap} {state next : ParserState}
    (more : eeprom_parser_body hw_info phy_map state = .more next) :
    state.efuse_idx < next.efuse_idx ∧ next.efuse_idx ≤ hw_info.limit := by
  rcases eeprom_parser_body_more more with ⟨_, _, section_⟩ | ⟨_, _, section_⟩ <;>
    · have bounds := parse_section_idx section_
      change state.efuse_idx + _ ≤ _ ∧ _ at bounds
      omega

/-- What is left up to the limit; an iteration that goes on makes it smaller. -/
def ParserState.left (hw_info : HwCfgInfo) (state : ParserState) : Nat :=
  hw_info.limit + 1 - state.efuse_idx

theorem left_decreases {hw_info : HwCfgInfo} {phy_map : ByteMap} (state next : ParserState)
    (more : eeprom_parser_body hw_info phy_map state = .more next) : next.left hw_info < state.left hw_info := by
  have bounds := eeprom_parser_body_idx more
  unfold ParserState.left
  omega

theorem left_lt_efuse_size (hw_info : HwCfgInfo) (state : ParserState) : state.left hw_info < hw_info.efuse_size := by
  have large := hw_info.limit_add
  unfold ParserState.left PROTECT_EFUSE_SIZE at *
  omega

/-! ## Where the parser ends -/

/-- The parser has passed the whole log and stands at the given state. -/
def ParsedTo (hw_info : HwCfgInfo) (phy_map : ByteMap) (state : ParserState) : Prop :=
  Passes (eeprom_parser_body hw_info phy_map) ⟨0, ByteMap.blank⟩ state

theorem ParsedTo.eeprom_parser_eq {phy_map : ByteMap} {state : ParserState}
    (parsed : ParsedTo hw_info phy_map state) :
    eeprom_parser_88xx hw_info phy_map =
      (scan (eeprom_parser_body hw_info phy_map) hw_info.efuse_size state).getD none := by
  unfold eeprom_parser_88xx
  rw [Scanner.scan_passes (ParserState.left hw_info) left_decreases parsed (left_lt_efuse_size _ _)]

theorem ParsedTo.step {phy_map : ByteMap} {state next : ParserState} (parsed : ParsedTo hw_info phy_map state)
    (more : eeprom_parser_body hw_info phy_map state = .more next) : ParsedTo hw_info phy_map next :=
  Relation.ReflTransGen.tail parsed more

theorem ParsedTo.done {phy_map : ByteMap} {state : ParserState}
    {outcome : Option ParserState} (parsed : ParsedTo hw_info phy_map state)
    (done : eeprom_parser_body hw_info phy_map state = .done outcome) :
    eeprom_parser_88xx hw_info phy_map = outcome := by
  have enough := left_lt_efuse_size hw_info state
  rw [parsed.eeprom_parser_eq, ← Nat.succ_pred_eq_of_pos (Nat.lt_of_le_of_lt (Nat.zero_le _) enough),
    Scanner.scan_done done, Option.getD_some]

theorem ParsedTo.of_go_on {phy_map : ByteMap} {state : ParserState}
    {outcome : Option ParserState} (parsed : ParsedTo hw_info phy_map state)
    (body : eeprom_parser_body hw_info phy_map state = go_on outcome)
    (success : eeprom_parser_88xx hw_info phy_map = some final) :
    ∃ next, outcome = some next ∧ ParsedTo hw_info phy_map next := by
  cases outcome with
  | none =>
      rw [parsed.done body] at success
      cases success
  | some next => exact ⟨next, rfl, parsed.step body⟩

theorem ParsedTo.idx_le {phy_map : ByteMap} {state : ParserState}
    (parsed : ParsedTo hw_info phy_map state) : state.efuse_idx ≤ hw_info.limit := by
  cases parsed with
  | refl => exact Nat.zero_le _
  | tail _ more => exact (eeprom_parser_body_idx more).2

/-- The parser stops at a blank cell where a header could stand. -/
def EndsBlank (hw_info : HwCfgInfo) (phy_map : ByteMap) (final : ParserState) : Prop :=
  ParsedTo hw_info phy_map final ∧ phy_map final.efuse_idx = 0xff

/-- The parser stops at a blank cell behind the first byte `hdr` of an extended
header. -/
def EndsDangling (hw_info : HwCfgInfo) (phy_map : ByteMap) (hdr : UInt8) (final : ParserState) : Prop :=
  ∃ efuse_idx,
    ParsedTo hw_info phy_map ⟨efuse_idx, final.log_map⟩ ∧ final.efuse_idx = efuse_idx + 1 ∧
      phy_map efuse_idx = hdr ∧ is_ext_hdr hdr = true ∧ phy_map (efuse_idx + 1) = 0xff

theorem is_ext_hdr_ff : is_ext_hdr 0xff = false := by decide

theorem eeprom_parser_body_done {phy_map : ByteMap} {state : ParserState}
    (done : eeprom_parser_body hw_info phy_map state = .done (some final)) :
    (final = state ∧ phy_map state.efuse_idx = 0xff) ∨
      (final = ⟨state.efuse_idx + 1, state.log_map⟩ ∧ is_ext_hdr (phy_map state.efuse_idx) = true ∧
        phy_map (state.efuse_idx + 1) = 0xff) := by
  have inner : ∀ outcome : Option ParserState, go_on outcome ≠ .done (some final) := by
    intro outcome same
    cases outcome <;> cases same
  simp only [eeprom_parser_body] at done
  split_ifs at done with ext blank plain
  · rw [Iteration.done.injEq, Option.some.injEq] at done
    exact Or.inr ⟨done.symm, ext, blank⟩
  · exact absurd done (inner _)
  · rw [Iteration.done.injEq, Option.some.injEq] at done
    exact Or.inl ⟨done.symm, plain⟩
  · exact absurd done (inner _)

theorem eeprom_parser_88xx_iff {phy_map : ByteMap} :
    eeprom_parser_88xx hw_info phy_map = some final <->
      EndsBlank hw_info phy_map final ∨ ∃ hdr, EndsDangling hw_info phy_map hdr final := by
  constructor
  · intro success
    rcases Scanner.exists_scan (ParserState.left hw_info)
      (@left_decreases hw_info phy_map) (left_lt_efuse_size hw_info ⟨0, ByteMap.blank⟩)
      with ⟨outcome, result⟩
    have found : outcome = some final := by
      unfold eeprom_parser_88xx at success
      rw [result, Option.getD_some] at success
      exact success
    rcases Scanner.passes_of_scan result with ⟨later, passes, done⟩
    rw [found] at done
    rcases eeprom_parser_body_done done with ⟨same, cell⟩ | ⟨same, ext, cell⟩
    · rw [same]
      exact Or.inl ⟨passes, cell⟩
    · rw [same]
      exact Or.inr ⟨_, later.efuse_idx, passes, rfl, rfl, ext, cell⟩
  · intro ends
    rcases ends with ⟨parsed, cell⟩ | ⟨hdr, efuse_idx, parsed, idx, first, ext, cell⟩
    · apply parsed.done
      simp only [eeprom_parser_body, cell, is_ext_hdr_ff, Bool.false_eq_true, if_false, if_true]
    · apply parsed.done
      rw [← idx] at cell
      simp only [eeprom_parser_body, first, ext, if_true, ← idx, cell]

theorem parse_words_congr {phy_map other : ByteMap} {blk_idx word_en : Nat}
    {words : List Nat} {state next : ParserState}
    (success : parse_words hw_info phy_map blk_idx word_en words state = some next)
    (agree : ∀ idx, idx < next.efuse_idx -> other idx = phy_map idx) :
    parse_words hw_info other blk_idx word_en words state = some next := by
  induction words generalizing state with
  | nil => exact success
  | cons i rest ih =>
      simp only [parse_words] at success ⊢
      split_ifs at success with disabled outside first second
      · rw [if_pos disabled]
        exact ih success
      · have passed := (parse_words_idx success).1
        change state.efuse_idx + 2 ≤ _ at passed
        rw [if_neg disabled, if_neg outside, if_neg first, if_neg second, agree _ (by omega), agree _ (by omega)]
        exact ih success

theorem parse_section_congr {phy_map other : ByteMap} {blk_idx word_en : Nat} {state next : ParserState}
    (success : parse_section hw_info phy_map blk_idx word_en state = some next)
    (agree : ∀ idx, idx < next.efuse_idx -> other idx = phy_map idx) :
    parse_section hw_info other blk_idx word_en state = some next := by
  unfold parse_section at success ⊢
  split_ifs at success with full
  rw [if_neg full]
  exact parse_words_congr success agree

theorem eeprom_parser_body_congr {phy_map other : ByteMap}
    {state next : ParserState} (more : eeprom_parser_body hw_info phy_map state = .more next)
    (agree : ∀ idx, idx < next.efuse_idx -> other idx = phy_map idx) :
    eeprom_parser_body hw_info other state = .more next := by
  have forward := (eeprom_parser_body_idx more).1
  rcases eeprom_parser_body_more more with ⟨ext, blank, success⟩ | ⟨plain, blank, success⟩
  · have bounds := parse_section_idx success
    change state.efuse_idx + 2 ≤ _ ∧ _ at bounds
    simp only [eeprom_parser_body, agree _ forward, agree (state.efuse_idx + 1) (by omega), ext, blank,
      if_true, if_false, parse_section_congr success agree, go_on]
  · simp only [eeprom_parser_body, agree _ forward, plain, blank, Bool.false_eq_true, if_false,
      parse_section_congr success agree, go_on]

/-- What is written behind a state does not change how the parser came there. -/
theorem ParsedTo.congr {hw_info : HwCfgInfo} {phy_map other : ByteMap} {state : ParserState}
    (parsed : ParsedTo hw_info phy_map state) (agree : ∀ idx, idx < state.efuse_idx -> other idx = phy_map idx) :
    ParsedTo hw_info other state := by
  unfold ParsedTo Passes at parsed
  induction parsed with
  | refl => exact Relation.ReflTransGen.refl
  | tail before more ih =>
      have forward := (eeprom_parser_body_idx more).1
      refine (ih ?_).tail (eeprom_parser_body_congr more agree)
      intro idx below
      exact agree idx (by omega)

end Rtl8821ce
