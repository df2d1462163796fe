import Rtl8821ce.Efuse.BtMap

/-!
# How far the walks over the Bluetooth efuse go

Both walks visit the headers in turn.  The first reads each cell of a section, also behind the end
of its buffer; the second starts again at the first cell when it thinks that a bank is full.
-/

namespace Rtl8821ce
namespace BtEfuse

open Scanner (Iteration scan Passes)

variable {phyefuse : ByteMap}

variable {efuse : ByteMap}

/-! ## The walk that builds the map -/

/-- What a part of the loop adds: it moves forward and reads the cells that it passes. -/
structure MapState.Extends (state next : MapState) : Prop where
  forward : state.eFuse_Addr ≤ next.eFuse_Addr
  reads : ∀ index, index ∈ next.reads <->
    index ∈ state.reads ∨ (state.eFuse_Addr ≤ index ∧ index < next.eFuse_Addr)
  writes : ∀ index ∈ next.writes, index ∈ state.writes ∨ index < EFUSE_BT_MAP_LEN

theorem MapState.Extends.refl (state : MapState) : state.Extends state where
  forward := Nat.le_refl _
  reads := fun index => by
    have empty : ¬ (state.eFuse_Addr ≤ index ∧ index < state.eFuse_Addr) := by omega
    exact (or_iff_left empty).symm
  writes := fun _ member => Or.inl member

theorem MapState.Extends.trans {state middle next : MapState} (one : state.Extends middle)
    (two : middle.Extends next) : state.Extends next where
  forward := one.forward.trans two.forward
  reads := fun index => by
    have first := one.forward
    have second := two.forward
    rw [two.reads, one.reads, or_assoc]
    refine or_congr_right ?_
    omega
  writes := fun index member => (two.writes index member).elim (one.writes index) Or.inr

theorem took_extends (state : MapState) : state.Extends state.took where
  forward := Nat.le_succ _
  reads := fun index => by
    change index ∈ state.eFuse_Addr :: state.reads <-> _ ∨ (_ ≤ index ∧ index < state.eFuse_Addr + 1)
    rw [List.mem_cons, or_comm]
    refine or_congr_right ?_
    omega
  writes := fun _ member => Or.inl member

theorem word_extends (phyefuse : ByteMap) {addr : Nat} (inside : addr + 1 < EFUSE_BT_MAP_LEN) (state : MapState) :
    state.Extends (state.word phyefuse addr) where
  forward := Nat.le_add_right _ _
  reads := fun index => by
    change index ∈ (state.eFuse_Addr + 1) :: state.eFuse_Addr :: state.reads <->
      _ ∨ (_ ≤ index ∧ index < state.eFuse_Addr + 2)
    have places : index = state.eFuse_Addr + 1 ∨ index = state.eFuse_Addr <->
        state.eFuse_Addr ≤ index ∧ index < state.eFuse_Addr + 2 := by omega
    rw [List.mem_cons, List.mem_cons, ← or_assoc, places, or_comm]
  writes := fun index member => by
    rcases List.mem_cons.mp member with high | member
    · exact Or.inr (high ▸ inside)
    · rcases List.mem_cons.mp member with low | old
      · exact Or.inr (low ▸ Nat.lt_of_succ_lt inside)
      · exact Or.inl old

theorem read_words_extends (phyefuse : ByteMap) {offset : Nat} (inside : offset < EFUSE_BT_MAX_SECTION)
    (wden : Nat) {words : List Nat} (small : ∀ i ∈ words, i < 4) (state : MapState) :
    state.Extends (read_words phyefuse offset wden words state) ∧
      (read_words phyefuse offset wden words state).eFuse_Addr =
        state.eFuse_Addr + (words.filter (fun i => !wden.testBit i)).length * 2 := by
  induction words generalizing state with
  | nil => exact ⟨MapState.Extends.refl state, rfl⟩
  | cons i rest ih =>
      have small_rest : ∀ j ∈ rest, j < 4 := fun j member => small j (List.mem_cons_of_mem _ member)
      rw [read_words, List.filter_cons]
      cases disabled : wden.testBit i with
      | true => exact ih small_rest state
      | false =>
          have bound := small i List.mem_cons_self
          have address : offset * 8 + 2 * i + 1 < EFUSE_BT_MAP_LEN := by
            unfold EFUSE_BT_MAX_SECTION EFUSE_BT_MAP_LEN at *
            omega
          have ⟨extends_rest, addr⟩ := ih small_rest (state.word phyefuse (offset * 8 + 2 * i))
          refine ⟨(word_extends phyefuse address state).trans extends_rest, addr.trans ?_⟩
          change state.eFuse_Addr + 2 + _ = state.eFuse_Addr + (i :: _).length * 2
          rw [List.length_cons]
          omega

theorem ext_offset_lt (header ext : UInt8) : ext_offset header ext < EFUSE_BT_MAX_SECTION := by
  have low : GET_HDR_OFFSET_2_0 header < 2 ^ 7 := by
    have masked : header.toNat &&& 0xE0 ≤ 0xE0 := Nat.and_le_right
    rw [GET_HDR_OFFSET_2_0, Nat.shiftRight_eq_div_pow]
    omega
  have high : (ext.toNat &&& 0xF0) >>> 1 < 2 ^ 7 := by
    have masked : ext.toNat &&& 0xF0 ≤ 0xF0 := Nat.and_le_right
    rw [Nat.shiftRight_eq_div_pow]
    omega
  exact Nat.or_lt_two_pow low high

theorem plain_offset_lt (header : UInt8) : plain_offset header < EFUSE_BT_MAX_SECTION :=
  Nat.lt_of_le_of_lt Nat.and_le_right (by decide : 0x0F < EFUSE_BT_MAX_SECTION)

theorem read_section_extends (phyefuse : ByteMap) {offset : Nat} (inside : offset < EFUSE_BT_MAX_SECTION)
    (wden : Nat) (state : MapState) :
    state.Extends (read_section phyefuse offset wden state) ∧
      (read_section phyefuse offset wden state).eFuse_Addr =
        state.eFuse_Addr + Efuse_CalculateWordCnts wden * 2 := by
  rw [read_section, if_pos inside]
  exact read_words_extends phyefuse inside wden (fun _ member => EfuseSection.words_small member) state

theorem read_body_more {state : MapState}
    (available : state.eFuse_Addr < EFUSE_BT_REAL_CONTENT_LEN) (used : phyefuse state.eFuse_Addr ≠ 0xFF) :
    ∃ next, read_body phyefuse state = .more next ∧ state.Extends next ∧
      next.eFuse_Addr = state.eFuse_Addr + section_size phyefuse state.eFuse_Addr := by
  have one := took_extends state
  have two := one.trans (took_extends state.took)
  have inside : AVAILABLE_EFUSE_ADDR state.eFuse_Addr = true := decide_eq_true available
  have second : state.took.eFuse_Addr = state.eFuse_Addr + 1 := rfl
  rw [read_body, if_pos inside, section_size]
  dsimp only
  rw [if_neg used, second]
  by_cases ext : EXT_HEADER (phyefuse state.eFuse_Addr) = true
  · rw [if_pos ext, if_pos ext]
    by_cases all : ALL_WORDS_DISABLED (phyefuse (state.eFuse_Addr + 1)) = true
    · rw [if_pos all, if_pos all]
      exact ⟨_, rfl, two, rfl⟩
    · rw [if_neg all, if_neg all]
      have ⟨words, addr⟩ := read_section_extends phyefuse
        (ext_offset_lt (phyefuse state.eFuse_Addr) (phyefuse (state.eFuse_Addr + 1)))
        ((phyefuse (state.eFuse_Addr + 1)).toNat &&& 0x0F) state.took.took
      refine ⟨_, rfl, two.trans words, addr.trans ?_⟩
      change state.eFuse_Addr + 1 + 1 + _ = _
      omega
  · rw [if_neg ext, if_neg ext]
    have ⟨words, addr⟩ := read_section_extends phyefuse (plain_offset_lt (phyefuse state.eFuse_Addr))
      ((phyefuse state.eFuse_Addr).toNat &&& 0x0F) state.took
    refine ⟨_, rfl, one.trans words, addr.trans ?_⟩
    change state.eFuse_Addr + 1 + _ = _
    omega

theorem read_body_blank {state : MapState}
    (available : state.eFuse_Addr < EFUSE_BT_REAL_CONTENT_LEN) (blank : phyefuse state.eFuse_Addr = 0xFF) :
    read_body phyefuse state = .done state.took := by
  have inside : AVAILABLE_EFUSE_ADDR state.eFuse_Addr = true := decide_eq_true available
  rw [read_body, if_pos inside]
  dsimp only
  rw [if_pos blank]

theorem read_body_end {state : MapState}
    (ended : EFUSE_BT_REAL_CONTENT_LEN ≤ state.eFuse_Addr) : read_body phyefuse state = .done state := by
  have outside : ¬ AVAILABLE_EFUSE_ADDR state.eFuse_Addr = true :=
    fun inside => Nat.not_lt.mpr ended (of_decide_eq_true inside)
  rw [read_body, if_neg outside]

theorem read_body_decreases (state next : MapState)
    (more : read_body phyefuse state = .more next) : 128 - next.eFuse_Addr < 128 - state.eFuse_Addr := by
  by_cases available : state.eFuse_Addr < EFUSE_BT_REAL_CONTENT_LEN
  · by_cases blank : phyefuse state.eFuse_Addr = 0xFF
    · rw [read_body_blank available blank] at more
      exact nomatch more
    · have ⟨found, goes, _, addr⟩ := read_body_more available blank
      rw [more, Iteration.more.injEq] at goes
      have size := section_size_pos phyefuse state.eFuse_Addr
      unfold EFUSE_BT_REAL_CONTENT_LEN at available
      rw [goes, addr]
      omega
  · rw [read_body_end (Nat.le_of_not_lt available)] at more
    exact nomatch more

/-- The loop stands at a header and has read all cells before it. -/
structure MapState.Walked (phyefuse : ByteMap) (state : MapState) : Prop where
  header : Header phyefuse state.eFuse_Addr
  reads : ∀ index, index ∈ state.reads <-> index < state.eFuse_Addr
  writes : ∀ index ∈ state.writes, index < EFUSE_BT_MAP_LEN

theorem walked_step {state next : MapState} (walked : state.Walked phyefuse)
    (more : read_body phyefuse state = .more next) : next.Walked phyefuse := by
  by_cases available : state.eFuse_Addr < EFUSE_BT_REAL_CONTENT_LEN
  · by_cases blank : phyefuse state.eFuse_Addr = 0xFF
    · rw [read_body_blank available blank] at more
      exact nomatch more
    · have ⟨found, goes, extended, addr⟩ := read_body_more available blank
      rw [more, Iteration.more.injEq] at goes
      subst goes
      refine ⟨walked.header.tail ⟨available, blank, addr⟩, fun index => ?_, fun index member => ?_⟩
      · have forward := extended.forward
        rw [extended.reads, walked.reads]
        omega
      · exact (extended.writes index member).elim (walked.writes index) id
  · rw [read_body_end (Nat.le_of_not_lt available)] at more
    exact nomatch more

theorem walked_passes {state later : MapState} (passes : Passes (read_body phyefuse) state later)
    (walked : state.Walked phyefuse) : later.Walked phyefuse := by
  induction passes with
  | refl => exact walked
  | tail _ more ih => exact walked_step ih more

theorem read_scan (phyefuse : ByteMap) :
    ∃ final, scan (read_body phyefuse) 129 ⟨0, ByteMap.blank, [], []⟩ = some final ∧
      (∀ index ∈ final.writes, index < EFUSE_BT_MAP_LEN) ∧
      (∀ index, index ∈ final.reads <-> index < final.eFuse_Addr) ∧
      (FirstBlank phyefuse (final.eFuse_Addr - 1) ∧ 0 < final.eFuse_Addr ∨
        EFUSE_BT_REAL_CONTENT_LEN ≤ final.eFuse_Addr ∧ ∀ blank, ¬ FirstBlank phyefuse blank) := by
  have enough : 128 - (⟨0, ByteMap.blank, [], []⟩ : MapState).eFuse_Addr < 129 := by decide
  have ⟨final, ended⟩ := @Scanner.exists_scan _ _ (read_body phyefuse) (fun state => 128 - state.eFuse_Addr)
    read_body_decreases _ _ enough
  have ⟨last, passes, done⟩ := Scanner.passes_of_scan ended
  have start : (⟨0, ByteMap.blank, [], []⟩ : MapState).Walked phyefuse :=
    ⟨Relation.ReflTransGen.refl, fun _ => iff_of_false List.not_mem_nil (Nat.not_lt_zero _),
      fun _ member => nomatch member⟩
  have walked := walked_passes passes start
  refine ⟨final, ended, ?_⟩
  by_cases available : last.eFuse_Addr < EFUSE_BT_REAL_CONTENT_LEN
  · by_cases blank : phyefuse last.eFuse_Addr = 0xFF
    · rw [read_body_blank available blank, Iteration.done.injEq] at done
      subst done
      have one := took_extends last
      refine ⟨fun index member => (one.writes index member).elim (walked.writes index) id, fun index => ?_,
        Or.inl ⟨⟨walked.header, available, blank⟩, Nat.succ_pos _⟩⟩
      have forward := one.forward
      rw [one.reads, walked.reads]
      omega
    · have ⟨next, goes, _⟩ := read_body_more available blank
      rw [goes] at done
      exact nomatch done
  · have outside := Nat.le_of_not_lt available
    rw [read_body_end outside, Iteration.done.injEq] at done
    subst done
    exact ⟨walked.writes, walked.reads, Or.inr ⟨outside, walked.header.not_blank outside⟩⟩

theorem size_body_end {efuse_addr : Nat} (ended : EFUSE_BT_REAL_CONTENT_LEN ≤ efuse_addr) :
    size_body efuse efuse_addr = .done efuse_addr := by
  have outside : ¬ AVAILABLE_EFUSE_ADDR efuse_addr = true :=
    fun inside => Nat.not_lt.mpr ended (of_decide_eq_true inside)
  rw [size_body, if_neg outside]

theorem bt_read_inside {addr : Nat} (inside : addr < EFUSE_BT_REAL_CONTENT_LEN) :
    rtw_efuse_bt_read efuse addr = some (efuse addr) := if_neg (Nat.not_lt.mpr inside)

theorem size_body_blank {efuse_addr : Nat} (available : efuse_addr < EFUSE_BT_REAL_CONTENT_LEN)
    (blank : efuse efuse_addr = 0xFF) : size_body efuse efuse_addr = .done efuse_addr := by
  have inside : AVAILABLE_EFUSE_ADDR efuse_addr = true := decide_eq_true available
  rw [size_body, if_pos inside, bt_read_inside available]
  exact if_pos blank

theorem size_body_more {efuse_addr : Nat} (available : efuse_addr < EFUSE_BT_REAL_CONTENT_LEN)
    (used : efuse efuse_addr ≠ 0xFF) :
    ∃ next, size_body efuse efuse_addr = .more next ∧ efuse_addr < next ∧
      (next = efuse_addr + section_size efuse efuse_addr ∨
        EFUSE_BT_REAL_CONTENT_LEN ≤ next ∧
          EFUSE_BT_REAL_CONTENT_LEN ≤ efuse_addr + section_size efuse efuse_addr) := by
  have inside : AVAILABLE_EFUSE_ADDR efuse_addr = true := decide_eq_true available
  rw [size_body, if_pos inside, bt_read_inside available]
  dsimp only
  rw [if_neg used, section_size]
  by_cases ext : EXT_HEADER (efuse efuse_addr) = true
  · rw [if_pos ext, if_pos ext]
    by_cases second : efuse_addr + 1 < EFUSE_BT_REAL_CONTENT_LEN
    · rw [bt_read_inside second, Option.getD_some]
      by_cases all : ALL_WORDS_DISABLED (efuse (efuse_addr + 1)) = true
      · rw [if_pos all, if_pos all]
        exact ⟨_, rfl, by omega, Or.inl rfl⟩
      · rw [if_neg all, if_neg all]
        exact ⟨_, rfl, by omega, Or.inl (by omega)⟩
    · have behind : EFUSE_BT_REAL_CONTENT_LEN ≤ efuse_addr + 1 := Nat.le_of_not_lt second
      split_ifs
      · exact ⟨_, rfl, by omega, Or.inr (by omega)⟩
      · exact ⟨_, rfl, by omega, Or.inr (by omega)⟩
      · exact ⟨_, rfl, by omega, Or.inr (by omega)⟩
      · exact ⟨_, rfl, by omega, Or.inr (by omega)⟩
  · rw [if_neg ext, if_neg ext]
    exact ⟨_, rfl, by omega, Or.inl (by omega)⟩

theorem size_body_decreases (efuse_addr next : Nat) (more : size_body efuse efuse_addr = .more next) :
    128 - next < 128 - efuse_addr := by
  by_cases available : efuse_addr < EFUSE_BT_REAL_CONTENT_LEN
  · by_cases blank : efuse efuse_addr = 0xFF
    · rw [size_body_blank available blank] at more
      exact nomatch more
    · have ⟨found, goes, forward, _⟩ := size_body_more available blank
      rw [more, Iteration.more.injEq] at goes
      unfold EFUSE_BT_REAL_CONTENT_LEN at available
      omega
  · rw [size_body_end (Nat.le_of_not_lt available)] at more
    exact nomatch more

/-- The loop stands at a header, or the headers end behind the cells. -/
def Counted (efuse : ByteMap) (efuse_addr : Nat) : Prop :=
  Header efuse efuse_addr ∨
    EFUSE_BT_REAL_CONTENT_LEN ≤ efuse_addr ∧ ∀ blank, ¬ FirstBlank efuse blank

theorem counted_passes {start later : Nat} (passes : Passes (size_body efuse) start later)
    (counted : Counted efuse start) : Counted efuse later := by
  induction passes with
  | refl => exact counted
  | @tail middle next _ more ih =>
      by_cases available : middle < EFUSE_BT_REAL_CONTENT_LEN
      · have header : Header efuse middle := ih.resolve_right (fun ended => Nat.not_lt.mpr ended.1 available)
        by_cases blank : efuse middle = 0xFF
        · rw [size_body_blank available blank] at more
          exact nomatch more
        · have ⟨found, goes, _, place⟩ := size_body_more available blank
          rw [more, Iteration.more.injEq] at goes
          have following := header.tail ⟨available, blank, rfl⟩
          rcases place with same | ⟨outside, behind⟩
          · exact Or.inl (goes ▸ same ▸ following)
          · exact Or.inr ⟨goes ▸ outside, Header.not_blank following behind⟩
      · rw [size_body_end (Nat.le_of_not_lt available)] at more
        exact nomatch more

theorem size_scan {start : Nat} (header : Header efuse start) :
    ∃ final, scan (size_body efuse) 129 start = some final ∧
      (FirstBlank efuse final ∨ EFUSE_BT_REAL_CONTENT_LEN ≤ final ∧ ∀ blank, ¬ FirstBlank efuse blank) := by
  have enough : 128 - start < 129 := by omega
  have ⟨final, ended⟩ := @Scanner.exists_scan _ _ (size_body efuse) (fun efuse_addr => 128 - efuse_addr)
    size_body_decreases _ _ enough
  have ⟨last, passes, done⟩ := Scanner.passes_of_scan ended
  have counted := counted_passes passes (Or.inl header)
  refine ⟨final, ended, ?_⟩
  by_cases available : last < EFUSE_BT_REAL_CONTENT_LEN
  · have here := counted.resolve_right (fun outside => Nat.not_lt.mpr outside.1 available)
    by_cases blank : efuse last = 0xFF
    · rw [size_body_blank available blank, Iteration.done.injEq] at done
      exact Or.inl (done ▸ ⟨here, available, blank⟩)
    · have ⟨next, goes, _⟩ := size_body_more available blank
      rw [goes] at done
      exact nomatch done
  · have outside := Nat.le_of_not_lt available
    rw [size_body_end outside, Iteration.done.injEq] at done
    refine Or.inr (done ▸ ⟨outside, ?_⟩)
    exact counted.elim (fun here => here.not_blank outside) And.right

/-- A count that starts at a header: what is below the protected cells is found, and a bank that
seems full is left for another one, where the walk begins again. -/
theorem current_size_eq {start first second : Nat} (inside : start < EFUSE_BT_REAL_CONTENT_LEN)
    (from_start : scan (size_body efuse) 129 start = some first)
    (from_zero : scan (size_body efuse) 129 0 = some second) :
    hal_EfuseGetCurrentSize_BT efuse start =
      some (if first < 112 then first % 2 ^ 16
        else if second < 112 then (128 + second) % 2 ^ 16 else (256 + second) % 2 ^ 16) := by
  unfold EFUSE_BT_REAL_CONTENT_LEN at inside
  have used : start % 2 ^ 16 = start := Nat.mod_eq_of_lt (by omega)
  have bank : (1 + start / EFUSE_BT_REAL_CONTENT_LEN) % 2 ^ 8 = 1 := by
    rw [EFUSE_BT_REAL_CONTENT_LEN, Nat.div_eq_of_lt inside]
    rfl
  have place : start % EFUSE_BT_REAL_CONTENT_LEN = start := Nat.mod_eq_of_lt inside
  have limit : EFUSE_BT_REAL_CONTENT_LEN - EFUSE_PROTECT_BYTES_BANK = 112 := rfl
  rw [hal_EfuseGetCurrentSize_BT, used, bank, place]
  change Option.map _ (size_banks efuse 1 2 1 start) = _
  rw [size_banks, if_pos (by decide : hal_EfuseSwitchToBank 1 = true), if_pos rfl, from_start]
  dsimp only
  rw [limit]
  have count : ∀ (bank : Nat) (addr : Nat),
      ((((bank + 1 : Nat) : Int) - 1) * (EFUSE_BT_REAL_CONTENT_LEN : Nat) + (addr : Int)) % 2 ^ 16 =
        ((bank * 128 + addr) % 2 ^ 16 : Nat) := by
    intro bank addr
    unfold EFUSE_BT_REAL_CONTENT_LEN
    omega
  by_cases low : first < 112
  · rw [if_pos low, if_pos low, Option.map_some]
    exact congrArg (fun used : Int => some used.toNat) ((count 0 first).trans (by rw [Nat.zero_mul, Nat.zero_add]))
  · rw [if_neg low, if_neg low]
    rw [size_banks, if_pos (by decide : hal_EfuseSwitchToBank 2 = true), if_neg (by decide), from_zero]
    dsimp only
    rw [limit]
    by_cases again : second < 112
    · rw [if_pos again, if_pos again, Option.map_some]
      exact congrArg (fun used : Int => some used.toNat) (count 1 second)
    · rw [if_neg again, if_neg again, size_banks, Option.map_some]
      exact congrArg (fun used : Int => some used.toNat) (count 2 second)

theorem current_size_blank {start place : Nat} (header : Header efuse start)
    (inside : start < EFUSE_BT_REAL_CONTENT_LEN) (blank : FirstBlank efuse place) :
    hal_EfuseGetCurrentSize_BT efuse start = some (if place < 112 then place else 256 + place) := by
  have found : ∀ {from_ : Nat}, Header efuse from_ -> scan (size_body efuse) 129 from_ = some place := by
    intro from_ here
    have ⟨final, ended, outcome⟩ := size_scan here
    rcases outcome with same | ⟨_, none_blank⟩
    · exact same.unique blank ▸ ended
    · exact absurd blank (none_blank place)
  have bound := blank.2.1
  unfold EFUSE_BT_REAL_CONTENT_LEN at bound
  rw [current_size_eq inside (found header) (found Relation.ReflTransGen.refl)]
  by_cases low : place < 112
  · rw [if_pos low, if_pos low, Nat.mod_eq_of_lt (by omega)]
  · rw [if_neg low, if_neg low, if_neg low, Nat.mod_eq_of_lt (by omega)]

theorem current_size_ends (efuse : ByteMap) (fakeBTEfuseUsedBytes : Nat) :
    ∃ used, hal_EfuseGetCurrentSize_BT efuse fakeBTEfuseUsedBytes = some used := by
  have banks : ∀ startBank left bank efuse_addr,
      ∃ found, size_banks efuse startBank left bank efuse_addr = some found := by
    intro startBank left
    induction left with
    | zero => exact fun bank efuse_addr => ⟨(bank, efuse_addr), rfl⟩
    | succ left ih =>
        intro bank efuse_addr
        have enough : 128 - (if bank = startBank then efuse_addr else 0) < 129 := by omega
        have ⟨final, ended⟩ := @Scanner.exists_scan _ _ (size_body efuse) (fun efuse_addr => 128 - efuse_addr)
          size_body_decreases _ _ enough
        rw [size_banks, ended]
        dsimp only
        split_ifs
        · exact ⟨_, rfl⟩
        · exact ih _ _
        · exact ⟨_, rfl⟩
  rw [hal_EfuseGetCurrentSize_BT]
  generalize (1 + fakeBTEfuseUsedBytes % 2 ^ 16 / EFUSE_BT_REAL_CONTENT_LEN) % 2 ^ 8 = startBank
  have ⟨found, ended⟩ := banks startBank (3 - startBank) startBank
    (fakeBTEfuseUsedBytes % 2 ^ 16 % EFUSE_BT_REAL_CONTENT_LEN)
  exact ⟨_, congrArg (Option.map _) ended⟩

/-- What a fresh driver can do: build the map, with a range that lies in it, or count. -/
inductive Call
  | read_map (_offset _size_byte : Nat) (inside : _offset + _size_byte ≤ EFUSE_BT_MAP_LEN)
  | current_size

/-- `fakeBTEfuseUsedBytes`, the accesses of the calls to their buffers and the counts they stored. -/
structure Trace where
  fakeBTEfuseUsedBytes : Nat
  reads : List Nat
  writes : List Nat
  stored : List Nat

def Call.run (efuse : ByteMap) (trace : Trace) : Call -> Option Trace
  | .read_map _offset _size_byte _ =>
      (hal_ReadEFuse_BT_logic_map efuse _offset _size_byte ByteMap.blank trace.fakeBTEfuseUsedBytes).map fun read =>
        { fakeBTEfuseUsedBytes := read.fakeBTEfuseUsedBytes
          reads := read.reads ++ trace.reads
          writes := read.writes ++ trace.writes
          stored := read.fakeBTEfuseUsedBytes :: trace.stored }
  | .current_size =>
      (hal_EfuseGetCurrentSize_BT efuse trace.fakeBTEfuseUsedBytes).map fun used =>
        { trace with fakeBTEfuseUsedBytes := used, stored := used :: trace.stored }

/-- The calls one after the other; `none` if one of them does not end. -/
def run_calls (efuse : ByteMap) : List Call -> Trace -> Option Trace
  | [], trace => some trace
  | call :: rest, trace => (call.run efuse trace).bind (run_calls efuse rest)

/-- The count is the place of the first blank header, or the whole efuse when there is none. -/
def RightCount (efuse : ByteMap) (used : Nat) : Prop :=
  FirstBlank efuse used ∨ (∀ blank, ¬ FirstBlank efuse blank) ∧ EFUSE_BT_REAL_CONTENT_LEN ≤ used

/-- All calls end, stay inside of the buffers and store one count, the right one. -/
def Robust (efuse : ByteMap) : Prop :=
  ∀ calls, ∃ trace, run_calls efuse calls ⟨0, [], [], []⟩ = some trace ∧
    (∀ index ∈ trace.reads, index < EFUSE_BT_REAL_CONTENT_LEN) ∧
    (∀ index ∈ trace.writes, index < EFUSE_BT_MAP_LEN) ∧
    ∃ used, RightCount efuse used ∧ ∀ stored ∈ trace.stored, stored = used

theorem read_map_run (efuse : ByteMap) (trace : Trace) {_offset _size_byte : Nat}
    (inside : _offset + _size_byte ≤ EFUSE_BT_MAP_LEN) :
    ∃ final : MapState, (Call.read_map _offset _size_byte inside).run efuse trace =
        some ⟨final.eFuse_Addr - 1, final.reads ++ trace.reads, final.writes ++ trace.writes,
          (final.eFuse_Addr - 1) :: trace.stored⟩ ∧
      (∀ index ∈ final.writes, index < EFUSE_BT_MAP_LEN) ∧
      (∀ index, index ∈ final.reads <-> index < final.eFuse_Addr) ∧
      (FirstBlank efuse (final.eFuse_Addr - 1) ∧ 0 < final.eFuse_Addr ∨
        EFUSE_BT_REAL_CONTENT_LEN ≤ final.eFuse_Addr ∧ ∀ blank, ¬ FirstBlank efuse blank) := by
  have ⟨final, ended, outcome⟩ := read_scan efuse
  refine ⟨final, ?_, outcome⟩
  rw [Call.run, hal_ReadEFuse_BT_logic_map, if_neg (Nat.not_lt.mpr inside), ended]
  rfl

/-- What the calls keep when the first blank header is not at the end. -/
structure Trace.Kept (place : Nat) (trace : Trace) : Prop where
  used : trace.fakeBTEfuseUsedBytes = 0 ∨ trace.fakeBTEfuseUsedBytes = place
  reads : ∀ index ∈ trace.reads, index < EFUSE_BT_REAL_CONTENT_LEN
  writes : ∀ index ∈ trace.writes, index < EFUSE_BT_MAP_LEN
  stored : ∀ stored ∈ trace.stored, stored = place

theorem kept_call {place : Nat} (blank : FirstBlank efuse place) (low : place < 112) {trace : Trace}
    (kept : trace.Kept place) (call : Call) : ∃ next, call.run efuse trace = some next ∧ next.Kept place := by
  cases call with
  | read_map _offset _size_byte inside =>
      have ⟨final, ran, writes, reads, outcome⟩ := read_map_run efuse trace inside
      rcases outcome with ⟨found, positive⟩ | ⟨_, none_blank⟩
      · have same := found.unique blank
        refine ⟨_, ran, Or.inr same, fun index member => ?_, fun index member => ?_, fun stored member => ?_⟩
        · rcases List.mem_append.mp member with new | old
          · have below := (reads index).mp new
            unfold EFUSE_BT_REAL_CONTENT_LEN
            omega
          · exact kept.reads index old
        · exact (List.mem_append.mp member).elim (writes index) (kept.writes index)
        · exact (List.mem_cons.mp member).elim (fun new => new.trans same) (kept.stored stored)
      · exact absurd blank (none_blank place)
  | current_size =>
      have header : Header efuse trace.fakeBTEfuseUsedBytes := by
        rcases kept.used with zero | same
        · exact zero ▸ Relation.ReflTransGen.refl
        · exact same ▸ blank.1
      have inside : trace.fakeBTEfuseUsedBytes < EFUSE_BT_REAL_CONTENT_LEN := by
        rcases kept.used with zero | same
        · exact zero ▸ (by decide)
        · exact same ▸ blank.2.1
      have counted := current_size_blank header inside blank
      rw [if_pos low] at counted
      refine ⟨_, congrArg (Option.map _) counted, Or.inr rfl, kept.reads, kept.writes, fun stored member => ?_⟩
      exact (List.mem_cons.mp member).elim id (kept.stored stored)

theorem kept_run {place : Nat} (blank : FirstBlank efuse place) (low : place < 112) (calls : List Call)
    {trace : Trace} (kept : trace.Kept place) :
    ∃ final, run_calls efuse calls trace = some final ∧ final.Kept place := by
  induction calls generalizing trace with
  | nil => exact ⟨trace, rfl, kept⟩
  | cons call rest ih =>
      have ⟨next, ran, kept_next⟩ := kept_call blank low kept call
      have ⟨final, rest_ran, kept_final⟩ := ih kept_next
      exact ⟨final, (congrArg (Option.bind · (run_calls efuse rest)) ran).trans rest_ran, kept_final⟩

theorem Robust.blank (robust : Robust efuse) : ∃ place, FirstBlank efuse place := by
  have ⟨final, ran, _, reads, outcome⟩ :=
    @read_map_run efuse ⟨0, [], [], []⟩ 0 EFUSE_BT_MAP_LEN (Nat.le_refl _)
  rcases outcome with ⟨found, _⟩ | ⟨outside, none_blank⟩
  · exact ⟨_, found⟩
  · have ⟨trace, ended, inside, _, used, right, stored⟩ := robust [.read_map 0 EFUSE_BT_MAP_LEN (Nat.le_refl _)]
    rw [run_calls, ran, Option.bind_some, run_calls, Option.some.injEq] at ended
    subst ended
    have count : final.eFuse_Addr - 1 = used := stored _ List.mem_cons_self
    rcases right with blank | ⟨_, full⟩
    · exact ⟨used, blank⟩
    · -- the count is the last cell but the walk has read behind it
      have read : EFUSE_BT_REAL_CONTENT_LEN ∈ final.reads := by
        unfold EFUSE_BT_REAL_CONTENT_LEN at *
        exact (reads _).mpr (by omega)
      exact absurd (inside _ (List.mem_append_left _ read)) (Nat.lt_irrefl _)

theorem Robust.low (robust : Robust efuse) {place : Nat} (blank : FirstBlank efuse place) : place < 112 := by
  have ⟨final, ran, _, _, outcome⟩ :=
    @read_map_run efuse ⟨0, [], [], []⟩ 0 EFUSE_BT_MAP_LEN (Nat.le_refl _)
  rcases outcome with ⟨found, _⟩ | ⟨_, none_blank⟩
  · have same := found.unique blank
    have counted := current_size_blank blank.1 blank.2.1 blank
    have ⟨trace, ended, _, _, used, _, stored⟩ :=
      robust [.read_map 0 EFUSE_BT_MAP_LEN (Nat.le_refl _), .current_size]
    rw [run_calls, ran, Option.bind_some, run_calls, same, Call.run, counted, Option.map_some, Option.bind_some,
      run_calls, Option.some.injEq] at ended
    subst ended
    have first : place = used := stored _ (List.mem_cons_of_mem _ List.mem_cons_self)
    have second := stored _ List.mem_cons_self
    by_contra high
    rw [if_neg high, ← first] at second
    omega
  · exact absurd blank (none_blank place)

theorem bt_efuse_robust_iff (efuse : ByteMap) : Robust efuse <-> ∃ place, FirstBlank efuse place ∧ place < 112 := by
  constructor
  · intro robust
    have ⟨place, blank⟩ := robust.blank
    exact ⟨place, blank, robust.low blank⟩
  · rintro ⟨place, blank, low⟩ calls
    have start : (⟨0, [], [], []⟩ : Trace).Kept place :=
      ⟨Or.inl rfl, fun _ member => (nomatch member), fun _ member => (nomatch member),
        fun _ member => (nomatch member)⟩
    have ⟨trace, ran, kept⟩ := kept_run blank low calls start
    exact ⟨trace, ran, kept.reads, kept.writes, place, Or.inl blank, kept.stored⟩

/-- Cells that are all zero, with zeros behind them: fifteen sections of nine cells. -/
theorem zero_cells_not_robust : ¬ Robust (fun _ => 0) := by
  intro robust
  have ⟨trace, ran, inside, _⟩ := robust [.read_map 0 EFUSE_BT_MAP_LEN (Nat.le_refl _)]
  have read : (run_calls (fun _ => 0) [.read_map 0 EFUSE_BT_MAP_LEN (Nat.le_refl _)] ⟨0, [], [], []⟩).elim false
      (fun trace => decide (EFUSE_BT_REAL_CONTENT_LEN ∈ trace.reads)) = true := by decide +kernel
  rw [ran] at read
  exact absurd (inside _ (of_decide_eq_true read)) (Nat.lt_irrefl _)

end BtEfuse
end Rtl8821ce
