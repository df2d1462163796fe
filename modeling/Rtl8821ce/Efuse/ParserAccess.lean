import Rtl8821ce.Efuse.Section
import Rtl8821ce.Library.Triple

/-!
# What the efuse parser reads and writes

`eeprom_parser_88xx` again, for any sizes and with every access to its two maps.  Whatever
the efuse contains, the loop ends and no access leaves the maps.  The efuse is larger than
its protected part, so that the unsigned differences of the source do not wrap around.
-/

namespace Rtl8821ce
namespace Access

open Program (Triple triple_get triple_ite triple_pure triple_update)

/-- The variables of the parser, and the accesses so far. -/
structure ParserRun where
  efuse_idx : Nat
  log_map : ByteMap
  efuse_end : Nat
  reads : List Nat
  writes : List Nat

abbrev ParserM (α : Type) : Type := Program ParserRun HalmacRet α

section Model

variable (efuse_size eeprom_size : Nat) (phy_map : ByteMap)

/-- `*(phy_map + efuse_idx)` -/
def read_phy_map : ParserM UInt8 := do
  let run <- Program.get
  Program.update (fun run => { run with reads := run.reads ++ [run.efuse_idx] })
  return phy_map run.efuse_idx

/-- `*(log_map + eeprom_idx) = value8` -/
def write_log_map (eeprom_idx : Nat) (value8 : UInt8) : ParserM Unit :=
  Program.update (fun run => { run with
    log_map := Function.update run.log_map eeprom_idx value8, writes := run.writes ++ [eeprom_idx] })

/-- `efuse_idx++` -/
def next_idx : ParserM Unit := Program.update (fun run => { run with efuse_idx := run.efuse_idx + 1 })

def require_idx (condition : Nat -> Bool) : ParserM Unit := do
  let run <- Program.get
  Program.require (condition run.efuse_idx) .EEPROM_PARSING_FAIL

def parse_word (blk_idx i : Nat) : ParserM Unit := do
  let eeprom_idx := (blk_idx <<< 3) + (i <<< 1)
  Program.require (¬ eeprom_idx + 1 > eeprom_size) .EEPROM_PARSING_FAIL
  let value8 <- read_phy_map phy_map
  write_log_map eeprom_idx value8
  next_idx
  require_idx (fun efuse_idx => ¬ efuse_idx > efuse_size - PROTECT_EFUSE_SIZE - 1)
  let value8 <- read_phy_map phy_map
  write_log_map (eeprom_idx + 1) value8
  next_idx
  require_idx (fun efuse_idx => ¬ efuse_idx > efuse_size - PROTECT_EFUSE_SIZE)

def parse_words (blk_idx word_en : Nat) : List Nat -> ParserM Unit
  | [] => pure ()
  | i :: rest =>
      -- `valid` is the complement of bit `i` of `word_en`
      if word_en.testBit i then parse_words blk_idx word_en rest
      else do
        parse_word efuse_size eeprom_size phy_map blk_idx i
        parse_words blk_idx word_en rest

def parse_section (blk_idx word_en : Nat) : ParserM Unit := do
  next_idx
  require_idx (fun efuse_idx => ¬ efuse_idx >= efuse_size - PROTECT_EFUSE_SIZE - 1)
  parse_words efuse_size eeprom_size phy_map blk_idx word_en [0, 1, 2, 3]

/-- One iteration; `true` is a `break`. -/
def eeprom_parser_body : ParserM Bool := do
  let hdr <- read_phy_map phy_map
  if is_ext_hdr hdr then do
    next_idx
    let hdr2 <- read_phy_map phy_map
    if hdr2 = 0xff then return true
    else do
      parse_section efuse_size eeprom_size phy_map (ext_blk_idx hdr hdr2) (hdr_word_en hdr2)
      return false
  else if hdr = 0xff then return true
  else do
    parse_section efuse_size eeprom_size phy_map (hdr_blk_idx hdr) (hdr_word_en hdr)
    return false

/-- The loop for a number of iterations; `false` says that it has not ended. -/
def eeprom_parser_loop : Nat -> ParserM Bool
  | 0 => return false
  | fuel + 1 => do
      let ended <- eeprom_parser_body efuse_size eeprom_size phy_map
      if ended then return true else eeprom_parser_loop fuel

/-- `PLTFM_MEMSET(log_map, 0xFF, eeprom_size)`, the loop, and `efuse_end = efuse_idx`. -/
def eeprom_parser_88xx (fuel : Nat) : ParserM Bool := do
  Program.update (fun run => { run with
    efuse_idx := 0, log_map := ByteMap.blank, writes := run.writes ++ List.range eeprom_size })
  let ended <- eeprom_parser_loop efuse_size eeprom_size phy_map fuel
  if ended then do
    Program.update (fun run => { run with efuse_end := run.efuse_idx })
    return true
  else return false

end Model

/-! ## Every access is inside -/

/-- The accesses so far, and where the index is. -/
structure Between (efuse_size eeprom_size low high : Nat) (run : ParserRun) : Prop where
  reads : ∀ idx ∈ run.reads, idx < efuse_size
  writes : ∀ idx ∈ run.writes, idx < eeprom_size
  low : low ≤ run.efuse_idx
  high : run.efuse_idx ≤ high

section

variable {efuse_size eeprom_size : Nat} {phy_map : ByteMap} {low high : Nat}

def Failed (efuse_size eeprom_size : Nat) (run : ParserRun) : Prop :=
  (∀ idx ∈ run.reads, idx < efuse_size) ∧ ∀ idx ∈ run.writes, idx < eeprom_size

theorem Between.failed {run : ParserRun} (between : Between efuse_size eeprom_size low high run) :
    Failed efuse_size eeprom_size run := ⟨between.reads, between.writes⟩

theorem read_phy_map_triple (inside : high < efuse_size) :
    Triple (Between efuse_size eeprom_size low high) (read_phy_map phy_map)
      (fun _ => Between efuse_size eeprom_size low high) (Failed efuse_size eeprom_size) := by
  refine Triple.bind (triple_get (fun run between => between)) (fun _ => ?_)
  refine Triple.bind (triple_update (fun run between => ?_))
    (fun _ => triple_pure (fun run between => between))
  refine ⟨fun idx member => ?_, between.writes, between.low, between.high⟩
  rcases List.mem_append.mp member with old | new
  · exact between.reads idx old
  · have here := between.high
    rw [List.mem_singleton.mp new]
    omega

theorem write_log_map_triple {eeprom_idx : Nat} (inside : eeprom_idx < eeprom_size) (value8 : UInt8) :
    Triple (Between efuse_size eeprom_size low high) (write_log_map eeprom_idx value8)
      (fun _ => Between efuse_size eeprom_size low high) (Failed efuse_size eeprom_size) := by
  refine triple_update (fun run between => ?_)
  refine ⟨between.reads, fun idx member => ?_, between.low, between.high⟩
  rcases List.mem_append.mp member with old | new
  · exact between.writes idx old
  · rw [List.mem_singleton.mp new]
    exact inside

theorem next_idx_triple :
    Triple (Between efuse_size eeprom_size low high) next_idx
      (fun _ => Between efuse_size eeprom_size (low + 1) (high + 1)) (Failed efuse_size eeprom_size) :=
  triple_update (fun _ between => ⟨between.reads, between.writes, Nat.succ_le_succ between.low,
    Nat.succ_le_succ between.high⟩)

theorem require_idx_triple {condition : Nat -> Bool} {sharper : Nat}
    (sharp : ∀ efuse_idx, condition efuse_idx = true -> efuse_idx ≤ sharper) :
    Triple (Between efuse_size eeprom_size low high) (require_idx condition)
      (fun _ => Between efuse_size eeprom_size low sharper) (Failed efuse_size eeprom_size) := by
  have get : Triple (Between efuse_size eeprom_size low high) (Program.get : ParserM ParserRun)
      (fun seen run => run = seen ∧ Between efuse_size eeprom_size low high run) (Failed efuse_size eeprom_size) :=
    triple_get (fun run between => ⟨rfl, between⟩)
  refine get.bind (fun seen => ?_)
  refine Program.triple_require (fun holds run between => ?_) (fun _ run between => between.2.failed)
  refine ⟨between.2.reads, between.2.writes, between.2.low, ?_⟩
  rw [between.1]
  exact sharp seen.efuse_idx holds

theorem Between.weaken {lower higher : Nat} {run : ParserRun} (between : Between efuse_size eeprom_size low high run)
    (below : lower ≤ low) (above : high ≤ higher) : Between efuse_size eeprom_size lower higher run :=
  ⟨between.reads, between.writes, Nat.le_trans below between.low, Nat.le_trans between.high above⟩

theorem parse_word_triple (protect : PROTECT_EFUSE_SIZE + 8 < efuse_size) (even : 2 ∣ eeprom_size) (blk_idx i : Nat) :
    Triple (Between efuse_size eeprom_size low (efuse_size - PROTECT_EFUSE_SIZE))
      (parse_word efuse_size eeprom_size phy_map blk_idx i)
      (fun _ => Between efuse_size eeprom_size low (efuse_size - PROTECT_EFUSE_SIZE))
      (Failed efuse_size eeprom_size) := by
  unfold parse_word
  dsimp only
  rw [word_address]
  refine Program.triple_require_bind (fun fits => ?_) (fun _ between => between.failed)
  have both : 8 * blk_idx + 2 * i + 1 < eeprom_size := by
    have bound := of_decide_eq_true fits
    omega
  have first (efuse_idx : Nat) (holds : decide ¬efuse_idx > efuse_size - PROTECT_EFUSE_SIZE - 1) :
      efuse_idx ≤ efuse_size - PROTECT_EFUSE_SIZE - 1 := Nat.not_lt.mp (of_decide_eq_true holds)
  have second (efuse_idx : Nat) (holds : decide ¬efuse_idx > efuse_size - PROTECT_EFUSE_SIZE) :
      efuse_idx ≤ efuse_size - PROTECT_EFUSE_SIZE := Nat.not_lt.mp (of_decide_eq_true holds)
  unfold PROTECT_EFUSE_SIZE at protect first second ⊢
  refine (read_phy_map_triple (by omega)).bind (fun _ => ?_)
  refine (write_log_map_triple (Nat.lt_of_succ_lt both) _).bind (fun _ => next_idx_triple.bind (fun _ => ?_))
  refine (require_idx_triple first).bind (fun _ => (read_phy_map_triple (by omega)).bind (fun _ => ?_))
  refine (write_log_map_triple both _).bind (fun _ => next_idx_triple.bind (fun _ => ?_))
  exact (require_idx_triple second).weaken (fun _ between => between)
    (fun _ _ between => between.weaken (by omega) (Nat.le_refl _))

theorem parse_words_triple (protect : PROTECT_EFUSE_SIZE + 8 < efuse_size) (even : 2 ∣ eeprom_size)
    (blk_idx word_en : Nat) (words : List Nat) :
    Triple (Between efuse_size eeprom_size low (efuse_size - PROTECT_EFUSE_SIZE))
      (parse_words efuse_size eeprom_size phy_map blk_idx word_en words)
      (fun _ => Between efuse_size eeprom_size low (efuse_size - PROTECT_EFUSE_SIZE))
      (Failed efuse_size eeprom_size) := by
  induction words with
  | nil => exact triple_pure (fun _ between => between)
  | cons i rest ih =>
      rw [parse_words]
      exact triple_ite (fun _ => ih)
        (fun _ => (parse_word_triple protect even blk_idx i).bind (fun _ => ih))

theorem parse_section_triple (protect : PROTECT_EFUSE_SIZE + 8 < efuse_size) (even : 2 ∣ eeprom_size)
    (blk_idx word_en : Nat) :
    Triple (Between efuse_size eeprom_size low high)
      (parse_section efuse_size eeprom_size phy_map blk_idx word_en)
      (fun _ => Between efuse_size eeprom_size (low + 1) (efuse_size - PROTECT_EFUSE_SIZE))
      (Failed efuse_size eeprom_size) := by
  have room (efuse_idx : Nat) (holds : decide ¬efuse_idx >= efuse_size - PROTECT_EFUSE_SIZE - 1) :
      efuse_idx ≤ efuse_size - PROTECT_EFUSE_SIZE := by
    have below := of_decide_eq_true holds
    omega
  exact next_idx_triple.bind (fun _ => (require_idx_triple room).bind
    (fun _ => parse_words_triple protect even blk_idx word_en _))

/-- Behind an iteration: one cell behind the limit at most after a `break`, or further in the log. -/
def AfterBody (efuse_size eeprom_size low : Nat) (ended : Bool) : ParserRun -> Prop :=
  if ended then Between efuse_size eeprom_size low (efuse_size - PROTECT_EFUSE_SIZE + 1)
  else Between efuse_size eeprom_size (low + 1) (efuse_size - PROTECT_EFUSE_SIZE)

theorem eeprom_parser_body_triple (protect : PROTECT_EFUSE_SIZE + 8 < efuse_size) (even : 2 ∣ eeprom_size) :
    Triple (Between efuse_size eeprom_size low (efuse_size - PROTECT_EFUSE_SIZE))
      (eeprom_parser_body efuse_size eeprom_size phy_map) (AfterBody efuse_size eeprom_size low)
      (Failed efuse_size eeprom_size) := by
  have inside : efuse_size - PROTECT_EFUSE_SIZE + 1 < efuse_size := by
    unfold PROTECT_EFUSE_SIZE at protect ⊢
    omega
  unfold eeprom_parser_body
  refine (read_phy_map_triple (Nat.lt_of_succ_lt inside)).bind (fun hdr => ?_)
  refine triple_ite (fun _ => ?_) (fun _ => triple_ite (fun _ => ?_) (fun _ => ?_))
  · refine next_idx_triple.bind (fun _ => (read_phy_map_triple inside).bind (fun hdr2 => ?_))
    refine triple_ite (fun _ => ?_) (fun _ => ?_)
    · exact triple_pure (fun _ between => between.weaken (Nat.le_succ low) (Nat.le_refl _))
    · exact (parse_section_triple protect even _ _).bind (fun _ => triple_pure
        (fun _ between => between.weaken (Nat.le_succ _) (Nat.le_refl _)))
  · exact triple_pure (fun _ between => between.weaken (Nat.le_refl _) (Nat.le_succ _))
  · exact (parse_section_triple protect even _ _).bind (fun _ => triple_pure (fun _ between => between))

theorem eeprom_parser_loop_triple (protect : PROTECT_EFUSE_SIZE + 8 < efuse_size) (even : 2 ∣ eeprom_size) {fuel : Nat}
    (enough : efuse_size - PROTECT_EFUSE_SIZE < low + fuel) :
    Triple (Between efuse_size eeprom_size low (efuse_size - PROTECT_EFUSE_SIZE))
      (eeprom_parser_loop efuse_size eeprom_size phy_map fuel)
      (fun ended run => ended = true ∧
        Between efuse_size eeprom_size 0 (efuse_size - PROTECT_EFUSE_SIZE + 1) run)
      (Failed efuse_size eeprom_size) := by
  induction fuel generalizing low with
  | zero =>
      refine triple_pure (fun run between => ?_)
      have bounds := Nat.le_trans between.low between.high
      omega
  | succ fuel ih =>
      refine (eeprom_parser_body_triple protect even).bind (fun ended => ?_)
      cases ended with
      | true => exact triple_pure (fun _ between => ⟨rfl, between.weaken (Nat.zero_le _) (Nat.le_refl _)⟩)
      | false => exact ih (by omega)

end

/-- The parser ends, and stays inside its two maps. -/
structure ParserSafe (efuse_size eeprom_size : Nat) (ran : Except HalmacRet Bool × ParserRun) : Prop where
  ends : ran.1 ≠ .ok false
  reads : ∀ idx ∈ ran.2.reads, idx < efuse_size
  writes : ∀ idx ∈ ran.2.writes, idx < eeprom_size
  efuse_end : ran.1 = .ok true -> ran.2.efuse_end ≤ efuse_size - PROTECT_EFUSE_SIZE + 1

theorem eeprom_parser_safe {efuse_size eeprom_size fuel : Nat} (protect : PROTECT_EFUSE_SIZE + 8 < efuse_size)
    (even : 2 ∣ eeprom_size) (phy_map : ByteMap) (enough : efuse_size ≤ fuel) (efuse_idx efuse_end : Nat)
    (log_map : ByteMap) :
    ParserSafe efuse_size eeprom_size
      (eeprom_parser_88xx efuse_size eeprom_size phy_map fuel ⟨efuse_idx, log_map, efuse_end, [], []⟩) := by
  have start : Triple (fun run => run.reads = [] ∧ run.writes = [])
      (Program.update (fun run : ParserRun => { run with
        efuse_idx := 0, log_map := ByteMap.blank, writes := run.writes ++ List.range eeprom_size }) : ParserM Unit)
      (fun _ => Between efuse_size eeprom_size 0 (efuse_size - PROTECT_EFUSE_SIZE))
      (Failed efuse_size eeprom_size) := by
    refine triple_update (fun run fresh => ⟨fun idx member => ?_, fun idx member => ?_, Nat.le_refl 0, Nat.zero_le _⟩)
    · rw [fresh.1] at member
      exact absurd member List.not_mem_nil
    · rw [fresh.2, List.nil_append] at member
      exact List.mem_range.mp member
  have whole : Triple (fun run => run.reads = [] ∧ run.writes = []) (eeprom_parser_88xx efuse_size eeprom_size phy_map fuel)
      (fun ended run => ended = true ∧ Failed efuse_size eeprom_size run ∧
        run.efuse_end ≤ efuse_size - PROTECT_EFUSE_SIZE + 1) (Failed efuse_size eeprom_size) := by
    refine start.bind (fun _ => (eeprom_parser_loop_triple protect even ?_).bind (fun ended => ?_))
    · unfold PROTECT_EFUSE_SIZE at protect ⊢
      omega
    · cases ended with
      | true =>
          exact Triple.bind (triple_update (fun _ behind => ⟨behind.2.failed, behind.2.high⟩))
            (fun _ => triple_pure (fun _ behind => ⟨rfl, behind⟩))
      | false => exact fun _ impossible => nomatch impossible.1
  obtain ⟨succeeds, stops⟩ := whole ⟨efuse_idx, log_map, efuse_end, [], []⟩ ⟨rfl, rfl⟩
  cases ran : eeprom_parser_88xx efuse_size eeprom_size phy_map fuel ⟨efuse_idx, log_map, efuse_end, [], []⟩ with
  | mk answer run =>
      cases answer with
      | ok ended =>
          obtain ⟨rfl, accesses, efuse_end⟩ := succeeds ended run ran
          exact ⟨nofun, accesses.1, accesses.2, fun _ => efuse_end⟩
      | error code =>
          obtain ⟨reads, writes⟩ := stops code run ran
          exact ⟨nofun, reads, writes, nofun⟩

/-- An 8821C where every cell announces a second header byte. -/
theorem eeprom_parser_safe_ext :
    ParserSafe 512 512 (eeprom_parser_88xx 512 512 (fun _ => 0x0F) 512 ⟨0, ByteMap.blank, 0, [], []⟩) :=
  eeprom_parser_safe (by decide) (by decide) (fun _ => 0x0F) (Nat.le_refl 512) 0 0 ByteMap.blank

section

variable {hw_info : HwCfgInfo} {phy_map : ByteMap}

end

end Access
end Rtl8821ce
