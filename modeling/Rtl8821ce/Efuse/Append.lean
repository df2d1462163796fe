import Rtl8821ce.Efuse.Programming

/-!
# What the programming functions append

Each programming function gives the hardware a list of bytes for consecutive
cells, and stops at the first write that fails.  `Appends` says so for every
outcome: after success all bytes are stored, after an error a prefix of them.
The spec of each function is composed from those of its parts.
-/

namespace Rtl8821ce

variable {before : HalmacAdapter} {i : Nat}

def numbered : Nat -> List UInt8 -> List (Nat × UInt8)
  | _, [] => []
  | start, byte :: rest => (start, byte) :: numbered (start + 1) rest

def burn_bytes : Nat -> List UInt8 -> ByteMap -> ByteMap
  | _, [], map => map
  | start, byte :: rest, map => burn_bytes (start + 1) rest (Function.update map (efuse_addr start) byte)

theorem numbered_append (start : Nat) (first second : List UInt8) :
    numbered start (first ++ second) = numbered start first ++ numbered (start + first.length) second := by
  induction first generalizing start with
  | nil => rfl
  | cons byte rest ih =>
      rw [List.cons_append, numbered, numbered, ih, List.cons_append, List.length_cons,
        Nat.add_assoc, Nat.add_comm 1]

theorem burn_bytes_append (start : Nat) (first second : List UInt8) (map : ByteMap) :
    burn_bytes start (first ++ second) map =
      burn_bytes (start + first.length) second (burn_bytes start first map) := by
  induction first generalizing start map with
  | nil => rfl
  | cons byte rest ih =>
      rw [List.cons_append, burn_bytes, burn_bytes, ih, List.length_cons, Nat.add_assoc, Nat.add_comm 1]

theorem length_numbered (start : Nat) (bytes : List UInt8) : (numbered start bytes).length = bytes.length := by
  induction bytes generalizing start with
  | nil => rfl
  | cons byte rest ih =>
      rw [numbered, List.length_cons, List.length_cons, ih]

theorem mem_numbered {start : Nat} {bytes : List UInt8} {entry : Nat × UInt8}
    (member : entry ∈ numbered start bytes) : start ≤ entry.1 ∧ entry.1 < start + bytes.length := by
  induction bytes generalizing start with
  | nil => cases member
  | cons byte rest ih =>
      rw [List.length_cons]
      rcases List.mem_cons.mp member with first | later
      · rw [first]
        exact ⟨Nat.le_refl _, by omega⟩
      · have bounds := ih later
        omega

theorem efuse_addr_of_lt {offset : Nat} (small : offset < 1024) : efuse_addr offset = offset := by
  unfold efuse_addr
  rw [Nat.and_two_pow_sub_one_eq_mod offset 10]
  exact Nat.mod_eq_of_lt small

theorem burn_bytes_other {start idx : Nat} {bytes : List UInt8} {map : ByteMap}
    (inside : start + bytes.length ≤ 1024) (outside : idx < start ∨ start + bytes.length ≤ idx) :
    burn_bytes start bytes map idx = map idx := by
  induction bytes generalizing start map with
  | nil => rfl
  | cons byte rest ih =>
      rw [List.length_cons] at inside outside
      rw [burn_bytes, ih (by omega) (by omega), efuse_addr_of_lt (by omega), Function.update_of_ne (by omega)]

theorem burn_bytes_holds {start : Nat} {bytes : List UInt8} (map : ByteMap)
    (inside : start + bytes.length ≤ 1024) : HoldsAt (burn_bytes start bytes map) start bytes := by
  induction bytes generalizing start map with
  | nil => exact holdsAt_nil _ _
  | cons byte rest ih =>
      rw [List.length_cons] at inside
      rw [holdsAt_cons]
      refine ⟨?_, ih _ (by omega)⟩
      rw [burn_bytes, burn_bytes_other (by omega) (Or.inl (Nat.lt_succ_self _)),
        efuse_addr_of_lt (by omega), Function.update_self]

/-! ## The effect of a list of writes -/

def Platform.Storing (platform : Platform) : Prop :=
  ∀ turn, (platform.write turn).ldo_on = true -> (platform.write turn).flag_clears = true ->
    (platform.write turn).ldo_off = true -> (platform.write turn).stored = true

/-- The bytes `tried` were given to the cells from `start` on.  Of these the
bytes `stored` are in the cells, if the hardware stores what it confirms.  Any
attempt makes the cached map stale. -/
structure Appended (start : Nat) (tried stored : List UInt8) (before after : HalmacAdapter) : Prop where
  written : after.written = before.written ++ numbered start tried
  cells : before.platform.Storing ->
    after.cells = Function.update before.cells before.bank (burn_bytes start stored before.phy_map)
  bank : after.bank = before.bank
  hw_cfg_info : after.hw_cfg_info = before.hw_cfg_info
  platform : after.platform = before.platform
  valid : after.efuse_map_valid = true -> stored = [] ∧ before.efuse_map_valid = true
  efuse_map : after.efuse_map = before.efuse_map

theorem Appended.phy_map {start : Nat} {tried stored : List UInt8} {after : HalmacAdapter}
    (appended : Appended start tried stored before after) (storing : before.platform.Storing) :
    after.phy_map = burn_bytes start stored before.phy_map := by
  unfold HalmacAdapter.phy_map
  rw [appended.bank, appended.cells storing, Function.update_self]
  rfl

theorem Appended.refl (start : Nat) (adapter : HalmacAdapter) : Appended start [] [] adapter adapter where
  written := (List.append_nil _).symm
  cells := fun _ => (Function.update_eq_self _ _).symm
  bank := rfl
  hw_cfg_info := rfl
  platform := rfl
  valid := fun valid => ⟨rfl, valid⟩
  efuse_map := rfl

theorem Appended.trans {start : Nat} {first tried stored : List UInt8} {before middle after : HalmacAdapter}
    (head : Appended start first first before middle)
    (tail : Appended (start + first.length) tried stored middle after) :
    Appended start (first ++ tried) (first ++ stored) before after where
  written := by rw [tail.written, head.written, numbered_append, List.append_assoc]
  cells := by
    intro storing
    rw [tail.cells (head.platform.symm ▸ storing), head.bank, head.cells storing, head.phy_map storing,
      Function.update_idem, burn_bytes_append]
  bank := tail.bank.trans head.bank
  hw_cfg_info := tail.hw_cfg_info.trans head.hw_cfg_info
  platform := tail.platform.trans head.platform
  valid := by
    intro valid
    rcases tail.valid valid with ⟨none, still⟩
    rcases head.valid still with ⟨nothing, before⟩
    rw [none, nothing]
    exact ⟨rfl, before⟩
  efuse_map := tail.efuse_map.trans head.efuse_map

/-- From this state the program appends the bytes, or a prefix and an error. -/
def AppendsFrom {α : Type} (start : Nat) (bytes : List UInt8) (program : HalmacM α) (before : HalmacAdapter) : Prop :=
  (∃ value, ∃ after,
    program before = (.ok value, after) ∧ Appended start bytes bytes before after) ∨
  (∃ code after tried, ∃ stored,
    program before = (.error code, after) ∧ stored ≤ tried ∧ tried ≤ bytes.length ∧
      Appended start (bytes.take tried) (bytes.take stored) before after)

def Appends {α : Type} (start : Nat) (bytes : List UInt8) (program : HalmacM α) : Prop :=
  ∀ before, AppendsFrom start bytes program before

theorem appends_pure {α : Type} (start : Nat) (value : α) : Appends start [] (pure value : HalmacM α) :=
  fun before => Or.inl ⟨value, before, rfl, Appended.refl start before⟩

theorem AppendsFrom.bind {α β : Type} {start : Nat} {first second : List UInt8} {head : HalmacM α}
    {tail : α -> HalmacM β} {before : HalmacAdapter} (headAppends : AppendsFrom start first head before)
    (tailAppends : ∀ value middle, head before = (.ok value, middle) ->
      AppendsFrom (start + first.length) second (tail value) middle) :
    AppendsFrom start (first ++ second) (head >>= tail) before := by
  rcases headAppends with ⟨value, middle, ran, appended⟩ |
    ⟨code, after, tried, stored, ran, least, most, appended⟩
  · rcases tailAppends value middle ran with ⟨result, after, last, more⟩ |
      ⟨code, after, tried, stored, last, least, most, more⟩
    · exact Or.inl ⟨result, after, by rw [Program.bind_of_ok ran, last], appended.trans more⟩
    · refine Or.inr ⟨code, after, first.length + tried, first.length + stored, ?_, by omega, ?_, ?_⟩
      · rw [Program.bind_of_ok ran, last]
      · rw [List.length_append]
        omega
      · rw [List.take_length_add_append, List.take_length_add_append]
        exact appended.trans more
  · refine Or.inr ⟨code, after, tried, stored, Program.bind_of_error ran, least, ?_, ?_⟩
    · rw [List.length_append]
      omega
    · rw [List.take_append_of_le_length most, List.take_append_of_le_length (by omega)]
      exact appended

theorem Appends.bind {α β : Type} {start : Nat} {first second : List UInt8} {head : HalmacM α}
    {tail : α -> HalmacM β} (headAppends : Appends start first head)
    (tailAppends : ∀ value, Appends (start + first.length) second (tail value)) :
    Appends start (first ++ second) (head >>= tail) :=
  fun before => (headAppends before).bind (fun value middle _ => tailAppends value middle)

theorem read_hw_efuse_of_true {adapter : HalmacAdapter}
    (completes : adapter.platform.read_completes adapter.turn = true) :
    read_hw_efuse_88xx adapter = (.ok adapter.phy_map, { adapter with turn := adapter.turn + 1 }) := by
  simp only [read_hw_efuse_88xx, Program.bind_apply, answer, completes, Program.require_true,
    Program.pure_apply, Program.get_apply]
  rfl

theorem read_hw_efuse_of_false {adapter : HalmacAdapter}
    (fails : adapter.platform.read_completes adapter.turn = false) :
    read_hw_efuse_88xx adapter = (.error .EFUSE_R_FAIL, { adapter with turn := adapter.turn + 1 }) := by
  simp only [read_hw_efuse_88xx, Program.bind_apply, answer, fails, Program.require_false, Program.stop_apply]

/-- The adapter after a byte was given to the hardware, at a later turn. -/
def HalmacAdapter.afterWrite (before : HalmacAdapter) (offset : Nat) (value : UInt8) (stored : Bool)
    (turn : Nat) : HalmacAdapter :=
  { HalmacAdapter.burn { before with efuse_map_valid := false } offset value stored with turn := turn }

theorem afterWrite_appended (before : HalmacAdapter) (offset : Nat) (value : UInt8) (stored : Bool) (turn : Nat) :
    Appended offset [value] (if stored then [value] else []) before
      (before.afterWrite offset value stored turn) where
  written := rfl
  cells := by
    intro _
    cases stored with
    | true => rfl
    | false => exact (Function.update_eq_self _ _).symm
  bank := rfl
  hw_cfg_info := rfl
  platform := rfl
  valid := fun impossible => nomatch impossible
  efuse_map := rfl

theorem appendsFrom_of_refused {α : Type} {program : HalmacM α}
    {offset : Nat} {value : UInt8} (code : HalmacRet) (stored : Bool) (turn : Nat)
    (ran : program before = (.error code, before.afterWrite offset value stored turn)) :
    AppendsFrom offset [value] program before := by
  have given := afterWrite_appended before offset value
  cases stored with
  | true => exact Or.inr ⟨code, _, 1, 1, ran, Nat.le_refl _, Nat.le_refl _, given true turn⟩
  | false => exact Or.inr ⟨code, _, 1, 0, ran, Nat.zero_le _, Nat.le_refl _, given false turn⟩

theorem confirmed_appended {stored : Bool}
    (hardware : before.platform.write before.turn = ⟨true, stored, true, true⟩) (offset : Nat)
    (value : UInt8) (turn : Nat) :
    Appended offset [value] [value] before (before.afterWrite offset value stored turn) := by
  have same := afterWrite_appended before offset value stored turn
  refine ⟨same.written, ?_, same.bank, same.hw_cfg_info, same.platform,
    (fun impossible => nomatch impossible), same.efuse_map⟩
  intro storing
  have stores : stored = true := by
    have answers := storing before.turn
    rw [hardware] at answers
    exact answers rfl rfl rfl
  rw [stores] at same ⊢
  exact same.cells storing

theorem write_hw_efuse_of_confirmed {stored : Bool}
    (hardware : before.platform.write before.turn = ⟨true, stored, true, true⟩) (offset : Nat)
    (value : UInt8) : AppendsFrom offset [value] (write_hw_efuse_88xx offset value) before := by
  have confirmed := confirmed_appended hardware offset value
  have written : write_hw_efuse_88xx offset value before =
      (if before.efuse_auto_check_en then do
          let map <- read_hw_efuse_88xx
          Program.require (map (efuse_addr offset) == value) .EFUSE_W_FAIL
        else pure () : HalmacM Unit)
        (before.afterWrite offset value stored (before.turn + 1)) := by
    simp only [write_hw_efuse_88xx, Program.bind_apply, Program.update_apply, answer, hardware,
      Program.require_true, Program.pure_apply, Program.get_apply]
    rfl
  cases auto : before.efuse_auto_check_en with
  | false =>
      simp only [auto, Bool.false_eq_true, if_false, Program.pure_apply] at written
      exact Or.inl ⟨(), _, written, confirmed _⟩
  | true =>
      simp only [auto, if_true] at written
      cases read : before.platform.read_completes (before.turn + 1) with
      | false =>
          apply appendsFrom_of_refused .EFUSE_R_FAIL stored (before.turn + 2)
          rw [written, Program.bind_of_error (read_hw_efuse_of_false read)]
          rfl
      | true =>
          rw [Program.bind_of_ok (read_hw_efuse_of_true read)] at written
          cases same : (before.afterWrite offset value stored (before.turn + 1)).phy_map
              (efuse_addr offset) == value with
          | false =>
              apply appendsFrom_of_refused .EFUSE_W_FAIL stored (before.turn + 2)
              rw [written, same]
              rfl
          | true =>
              refine Or.inl ⟨(), before.afterWrite offset value stored (before.turn + 2), ?_, confirmed _⟩
              rw [written, same]
              rfl

theorem write_hw_efuse_appends (offset : Nat) (value : UInt8) :
    Appends offset [value] (write_hw_efuse_88xx offset value) := by
  intro before
  cases hardware : before.platform.write before.turn with
  | mk ldo_on stored flag_clears ldo_off =>
      cases ldo_on with
      | false =>
          refine Or.inr ⟨.LDO_FAIL, { before with efuse_map_valid := false, turn := before.turn + 1 }, 0, 0,
            ?_, Nat.le_refl _, Nat.zero_le _, ?_⟩
          · simp only [write_hw_efuse_88xx, Program.bind_apply, Program.update_apply, answer, hardware,
              Program.require_false, Program.stop_apply]
          · exact ⟨(List.append_nil _).symm, fun _ => (Function.update_eq_self _ _).symm, rfl, rfl, rfl,
              (fun impossible => nomatch impossible), rfl⟩
      | true =>
          cases flag_clears with
          | false =>
              apply appendsFrom_of_refused .EFUSE_W_FAIL stored (before.turn + 1)
              simp only [write_hw_efuse_88xx, Program.bind_apply, Program.update_apply, answer, hardware,
                Program.require_true, Program.pure_apply, Program.require_false, Program.stop_apply]
              rfl
          | true =>
              cases ldo_off with
              | false =>
                  apply appendsFrom_of_refused .LDO_FAIL stored (before.turn + 1)
                  simp only [write_hw_efuse_88xx, Program.bind_apply, Program.update_apply, answer,
                    hardware, Program.require_true, Program.pure_apply, Program.require_false,
                    Program.stop_apply]
                  rfl
              | true => exact write_hw_efuse_of_confirmed hardware offset value

/-! ## Sections of a target map -/

theorem pre_word_en_lt (updated_mask : ByteMap) (i : Nat) : pre_word_en updated_mask i < 16 := by
  have byte := (updated_mask (i >>> 4)).toNat_lt
  unfold pre_word_en
  split_ifs
  · exact Nat.lt_of_le_of_lt Nat.and_le_right (by decide)
  · rw [Nat.shiftRight_eq_div_pow]
    omega

/-- The section that the block at `i` is programmed with, if any. -/
def section_at (info : HalmacPgEfuseInfo) (updated_mask : ByteMap) (i : Nat) : Option EfuseSection :=
  if valid : 0 < pre_word_en updated_mask i ∧ i >>> 3 < 128 then
    some {
      blk := i >>> 3
      enabled := pre_word_en updated_mask i
      data := fun k => info.map (i + k)
      blk_lt := valid.2
      enabled_pos := valid.1
      enabled_lt := pre_word_en_lt updated_mask i }
  else none

/-- The bytes that the block at `i` is programmed with. -/
def block_bytes (info : HalmacPgEfuseInfo) (updated_mask : ByteMap) (i : Nat) : List UInt8 :=
  ((section_at info updated_mask i).map EfuseSection.bytes).getD []

/-- All sections that a mask asks for, in the order of their blocks. -/
def planned (info : HalmacPgEfuseInfo) (updated_mask : ByteMap) : List EfuseSection :=
  (block_offsets info).filterMap (section_at info updated_mask)

theorem mem_block_offsets {info : HalmacPgEfuseInfo} (small : info.efuse_map_size ≤ 1024)
    (member : i ∈ block_offsets info) : i % 8 = 0 ∧ i >>> 3 < 128 := by
  unfold block_offsets at member
  rcases List.mem_map.mp member with ⟨blk, inside, same⟩
  rw [List.mem_range] at inside
  rw [← same, Nat.shiftRight_eq_div_pow]
  omega

theorem pg_words_appends (info : HalmacPgEfuseInfo) (pre_word_en eeprom_offset : Nat) (words : List Nat)
    (efuse_end : Nat) :
    Appends efuse_end (word_bytes pre_word_en (fun k => info.map (eeprom_offset + k)) words)
      (pg_words info pre_word_en eeprom_offset words efuse_end) := by
  induction words generalizing efuse_end with
  | nil => exact appends_pure efuse_end efuse_end
  | cons i rest ih =>
      have double : i <<< 1 = 2 * i := by
        rw [Nat.shiftLeft_eq]
        omega
      rw [word_bytes, pg_words, double]
      by_cases enabled : pre_word_en.testBit i = true
      · rw [if_pos enabled, if_pos enabled]
        exact (write_hw_efuse_appends _ _).bind (fun _ =>
          (write_hw_efuse_appends _ _).bind (fun _ => ih (efuse_end + 2)))
      · rw [if_neg enabled, if_neg enabled]
        exact ih efuse_end

theorem pg_words_value {info : HalmacPgEfuseInfo} {pre_word_en eeprom_offset : Nat} {words : List Nat}
    {efuse_end value : Nat} {after : HalmacAdapter}
    (success : pg_words info pre_word_en eeprom_offset words efuse_end before = (.ok value, after)) :
    value = efuse_end +
      (word_bytes pre_word_en (fun k => info.map (eeprom_offset + k)) words).length := by
  induction words generalizing efuse_end before with
  | nil =>
      rw [pg_words, Program.pure_apply, Prod.mk.injEq, Except.ok.injEq] at success
      exact success.1.symm
  | cons i rest ih =>
      rw [pg_words] at success
      rw [word_bytes]
      by_cases enabled : pre_word_en.testBit i = true
      · rw [if_pos enabled] at success ⊢
        rcases Program.bind_eq_ok.mp success with ⟨_, _, _, success⟩
        rcases Program.bind_eq_ok.mp success with ⟨_, _, _, success⟩
        rw [ih success, List.length_cons, List.length_cons]
        omega
      · rw [if_neg enabled] at success ⊢
        exact ih success

/-- The program appends the bytes at `efuse_end` and moves it behind them. -/
def Programs (bytes : List UInt8) (program : HalmacM Unit) (before : HalmacAdapter) : Prop :=
  AppendsFrom before.efuse_end bytes program before ∧
    ∀ after, program before = (.ok (), after) -> after.efuse_end = before.efuse_end + bytes.length

theorem Programs.congr {bytes : List UInt8} {program other : HalmacM Unit} {before : HalmacAdapter}
    (same : program before = other before) (programs : Programs bytes other before) :
    Programs bytes program before := by
  unfold Programs AppendsFrom at *
  rw [same]
  exact programs

theorem programs_pure (before : HalmacAdapter) : Programs [] (pure () : HalmacM Unit) before := by
  refine ⟨Or.inl ⟨(), before, rfl, Appended.refl _ _⟩, ?_⟩
  intro after success
  rw [Program.pure_apply, Prod.mk.injEq] at success
  rw [← success.2]
  rfl

theorem AppendsFrom.update_end {start : Nat} {bytes : List UInt8} {program : HalmacM Nat} (appends : AppendsFrom start bytes program before) :
    AppendsFrom start bytes (do
      let efuse_end <- program
      Program.update (fun adapter => { adapter with efuse_end := efuse_end })) before := by
  rcases appends with ⟨value, after, ran, appended⟩ | ⟨code, after, tried, stored, ran, bounds⟩
  · refine Or.inl ⟨⟨⟩, { after with efuse_end := value }, ?_, ?_⟩
    · rw [Program.bind_of_ok ran]
      rfl
    · exact ⟨appended.written, appended.cells, appended.bank, appended.hw_cfg_info, appended.platform,
        appended.valid, appended.efuse_map⟩
  · exact Or.inr ⟨code, after, tried, stored, Program.bind_of_error ran, bounds⟩

theorem programs_section {info : HalmacPgEfuseInfo} {pre_word_en : Nat} {header : List UInt8} {head : HalmacM Unit}
    (headAppends : Appends before.efuse_end header head) :
    Programs (header ++ word_bytes pre_word_en (fun k => info.map (i + k)) [0, 1, 2, 3])
      (do
        head
        let efuse_end <- pg_words info pre_word_en i [0, 1, 2, 3] (before.efuse_end + header.length)
        Program.update (fun adapter => { adapter with efuse_end := efuse_end })) before := by
  refine ⟨(headAppends before).bind (fun _ middle _ => ?_), ?_⟩
  · exact AppendsFrom.update_end (pg_words_appends info pre_word_en i _ _ middle)
  · intro after success
    rcases Program.bind_eq_ok.mp success with ⟨_, middle, _, success⟩
    rcases Program.bind_eq_ok.mp success with ⟨value, later, words, success⟩
    rw [Program.update_apply, Prod.mk.injEq] at success
    rw [← success.2, List.length_append, ← Nat.add_assoc]
    exact pg_words_value words

theorem pg_extend_efuse_programs (info : HalmacPgEfuseInfo) (word_en pre_word_en i : Nat) (before : HalmacAdapter) :
    Programs ([ext_hdr (i >>> 3), ext_hdr2 (i >>> 3) word_en] ++
      word_bytes pre_word_en (fun k => info.map (i + k)) [0, 1, 2, 3])
      (pg_extend_efuse_88xx info word_en pre_word_en i) before := by
  have head : Appends before.efuse_end ([ext_hdr (i >>> 3)] ++ [ext_hdr2 (i >>> 3) word_en])
      (write_hw_efuse_88xx before.efuse_end (ext_hdr (i >>> 3)) >>= fun _ =>
        write_hw_efuse_88xx (before.efuse_end + 1) (ext_hdr2 (i >>> 3) word_en)) :=
    (write_hw_efuse_appends _ _).bind (fun _ => write_hw_efuse_appends _ _)
  refine (programs_section head).congr ?_
  rw [Program.bind_assoc]
  rfl

theorem proc_pg_efuse_programs (info : HalmacPgEfuseInfo) (word_en pre_word_en i : Nat) (before : HalmacAdapter) :
    Programs ([plain_hdr (i >>> 3) word_en] ++
      word_bytes pre_word_en (fun k => info.map (i + k)) [0, 1, 2, 3])
      (proc_pg_efuse_88xx info word_en pre_word_en i) before := by
  have head : Appends before.efuse_end [plain_hdr (i >>> 3) word_en]
      (write_hw_efuse_88xx before.efuse_end (plain_hdr (i >>> 3) word_en)) :=
    write_hw_efuse_appends _ _
  apply (programs_section head).congr
  rw [proc_pg_efuse_88xx, Program.bind_of_ok (Program.get_apply before)]
  rfl

theorem program_block_programs (info : HalmacPgEfuseInfo) (updated_mask : ByteMap)
    (aligned : i % 8 = 0) (small : i >>> 3 < 128) (before : HalmacAdapter) :
    Programs (block_bytes info updated_mask i) (program_block info updated_mask i) before := by
  have shift : i >>> 3 = i / 8 := Nat.shiftRight_eq_div_pow i 3
  simp only [program_block, block_bytes, section_at]
  by_cases enabled : 0 < pre_word_en updated_mask i
  · rw [dif_pos ⟨enabled, small⟩, if_pos enabled, Option.map_some, Option.getD_some]
    by_cases high : i > 0x7f
    · have two : ¬ i >>> 3 < 16 := by omega
      simp only [if_pos high, EfuseSection.bytes, EfuseSection.hdr_bytes, if_neg two]
      exact pg_extend_efuse_programs info _ _ i before
    · have one : i >>> 3 < 16 := by omega
      simp only [if_neg high, EfuseSection.bytes, EfuseSection.hdr_bytes, if_pos one]
      exact proc_pg_efuse_programs info _ _ i before
  · rw [dif_neg (fun valid => enabled valid.1), if_neg enabled]
    exact programs_pure before

theorem program_blocks_programs (info : HalmacPgEfuseInfo) (updated_mask : ByteMap) {offsets : List Nat}
    (aligned : ∀ i ∈ offsets, i % 8 = 0 ∧ i >>> 3 < 128) (before : HalmacAdapter) :
    Programs (offsets.flatMap (block_bytes info updated_mask)) (program_blocks info updated_mask offsets)
      before := by
  induction offsets generalizing before with
  | nil => exact programs_pure before
  | cons i rest ih =>
      have here := aligned i List.mem_cons_self
      have head := program_block_programs info updated_mask here.1 here.2 before
      have tail := ih (fun j member => aligned j (List.mem_cons_of_mem _ member))
      rw [List.flatMap_cons]
      refine ⟨head.1.bind (fun _ middle ran => ?_), ?_⟩
      · rw [← head.2 middle ran]
        exact (tail middle).1
      · intro after success
        rcases Program.bind_eq_ok.mp success with ⟨_, middle, ran, success⟩
        rw [(tail middle).2 after success, head.2 middle ran, List.length_append, Nat.add_assoc]

theorem flatMap_block_bytes (info : HalmacPgEfuseInfo) (updated_mask : ByteMap) (offsets : List Nat) :
    offsets.flatMap (block_bytes info updated_mask) =
      sections_bytes (offsets.filterMap (section_at info updated_mask)) := by
  induction offsets with
  | nil => rfl
  | cons i rest ih =>
      rw [List.flatMap_cons, ih, block_bytes, List.filterMap_cons]
      cases section_at info updated_mask i with
      | none => rfl
      | some sec => rw [sections_bytes_cons, Option.map_some, Option.getD_some]

/-- `program_efuse_88xx` writes the planned sections from the end on. -/
theorem program_efuse_programs (info : HalmacPgEfuseInfo) (small : info.efuse_map_size ≤ 1024)
    (updated_mask : ByteMap) (before : HalmacAdapter) :
    Programs (sections_bytes (planned info updated_mask)) (program_efuse_88xx info updated_mask) before := by
  have programs := program_blocks_programs info updated_mask
    (fun i member => mem_block_offsets small member) before
  rw [flatMap_block_bytes] at programs
  exact programs

end Rtl8821ce
