import Rtl8821ce.Efuse.Command

/-!
# When an efuse command leaves the state machine ready

The work of a command leaves the construct state and the process status alone,
whatever its outcome.  So a call that starts idle ends idle exactly when its own
checks refuse it, or when both the bank switch and the work succeed.
-/

namespace Rtl8821ce

open Program (Keeps RunsThrough bind_of_error bind_of_ok error_of_not_succeeds get_bind_eq_ok keeps_get
  keeps_ite keeps_pure keeps_require keeps_update require_bind_eq_ok require_eq_ok succeeds_iff)

variable {before : HalmacAdapter} {bank : Nat}

def NotStuck (adapter : HalmacAdapter) : Prop :=
  adapter.cmd_cnstr_state = .IDLE ∧ adapter.proc_status ≠ .SENDING

instance (adapter : HalmacAdapter) : Decidable (NotStuck adapter) := inferInstanceAs (Decidable (_ ∧ _))

def HalmacAdapter.states (adapter : HalmacAdapter) : CmdConstructState × CmdProcessStatus :=
  (adapter.cmd_cnstr_state, adapter.proc_status)

/-- The turn, the cached map and the end of the log are not in the view. -/
def IgnoresReads {View : Type} (view : HalmacAdapter -> View) : Prop :=
  ∀ (adapter : HalmacAdapter) turn valid map efuse_end, view { adapter with
    turn := turn, efuse_map_valid := valid, efuse_map := map, efuse_end := efuse_end } = view adapter

theorem states_ignore_reads : IgnoresReads HalmacAdapter.states := fun _ _ _ _ _ => rfl

section reads

variable {View : Type} {view : HalmacAdapter -> View} (reads : IgnoresReads view)
include reads

theorem answer_keeps {α : Type} (ask : Platform -> Nat -> α) : Keeps view (answer ask) :=
  fun adapter => reads adapter _ adapter.efuse_map_valid adapter.efuse_map adapter.efuse_end

theorem pltfm_malloc_keeps : Keeps view pltfm_malloc :=
  (answer_keeps reads _).bind (fun _ => keeps_require _ _ _)

theorem read_hw_efuse_keeps : Keeps view read_hw_efuse_88xx :=
  (answer_keeps reads _).bind (fun _ => (keeps_require _ _ _).bind (fun _ =>
    (keeps_get _).bind (fun _ => keeps_pure _ _)))

theorem read_efuse_keeps : Keeps view read_efuse_88xx :=
  (keeps_get _).bind (fun _ => keeps_ite (keeps_pure _ _) (read_hw_efuse_keeps reads))

theorem alloc_efuse_map_keeps : Keeps view alloc_efuse_map :=
  (keeps_get _).bind (fun _ => keeps_ite (keeps_pure _ _) ((pltfm_malloc_keeps reads).bind (fun _ =>
    keeps_update (fun adapter => reads adapter adapter.turn adapter.efuse_map_valid _ adapter.efuse_end))))

theorem fill_efuse_map_keeps : Keeps view fill_efuse_map :=
  (pltfm_malloc_keeps reads).bind (fun _ => (read_efuse_keeps reads).bind (fun _ =>
    (alloc_efuse_map_keeps reads).bind (fun _ =>
      keeps_update (fun adapter => reads adapter adapter.turn _ _ adapter.efuse_end))))

theorem parse_efuse_map_keeps : Keeps view parse_efuse_map := by
  refine (keeps_get _).bind (fun adapter => ?_)
  cases eeprom_parser_88xx adapter.hw_cfg_info (adapter.efuse_map.getD ByteMap.blank) with
  | none => exact Program.keeps_stop _ _
  | some final =>
      refine Keeps.bind (keeps_update (fun adapter => ?_)) (fun _ => keeps_pure _ _)
      exact reads adapter adapter.turn adapter.efuse_map_valid adapter.efuse_map _

theorem read_log_efuse_map_keeps : Keeps view read_log_efuse_map_88xx :=
  (keeps_get _).bind (fun _ => Keeps.bind (keeps_ite (keeps_pure _ _) (fill_efuse_map_keeps reads))
    (fun _ => parse_efuse_map_keeps reads))

end reads

theorem write_hw_efuse_keeps (offset : Nat) (value : UInt8) :
    Keeps HalmacAdapter.states (write_hw_efuse_88xx offset value) := by
  refine Keeps.bind (keeps_update (fun _ => rfl)) (fun _ => (answer_keeps states_ignore_reads _).bind (fun _ => ?_))
  refine (keeps_require _ _ _).bind (fun _ => ?_)
  refine Keeps.bind (keeps_update (fun _ => rfl)) (fun _ => ?_)
  refine (keeps_require _ _ _).bind (fun _ => ?_)
  refine (keeps_require _ _ _).bind (fun _ => ?_)
  refine (keeps_get _).bind (fun _ => keeps_ite ?_ (keeps_pure _ _))
  exact (read_hw_efuse_keeps states_ignore_reads).bind (fun _ => keeps_require _ _ _)

theorem proc_write_log_efuse_keeps (offset : Nat) (value : UInt8) :
    Keeps HalmacAdapter.states (proc_write_log_efuse_88xx offset value) := by
  refine (pltfm_malloc_keeps states_ignore_reads).bind (fun _ => (read_log_efuse_map_keeps states_ignore_reads).bind (fun map => ?_))
  refine (keeps_get _).bind (fun _ => ?_)
  refine keeps_ite (keeps_ite ?_ ?_) (keeps_pure _ _)
  · exact (keeps_require _ _ _).bind (fun _ => (write_hw_efuse_keeps _ _).bind (fun _ =>
      (write_hw_efuse_keeps _ _).bind (fun _ => (write_hw_efuse_keeps _ _).bind (fun _ =>
        write_hw_efuse_keeps _ _))))
  · exact (keeps_require _ _ _).bind (fun _ => (write_hw_efuse_keeps _ _).bind (fun _ =>
      (write_hw_efuse_keeps _ _).bind (fun _ => write_hw_efuse_keeps _ _)))

theorem pg_words_keeps (info : HalmacPgEfuseInfo) (pre_word_en eeprom_offset : Nat) (words : List Nat)
    (efuse_end : Nat) : Keeps HalmacAdapter.states (pg_words info pre_word_en eeprom_offset words efuse_end) := by
  induction words generalizing efuse_end with
  | nil => exact keeps_pure _ _
  | cons i rest ih =>
      refine keeps_ite ?_ (ih efuse_end)
      exact (write_hw_efuse_keeps _ _).bind (fun _ => (write_hw_efuse_keeps _ _).bind (fun _ =>
        ih _))

theorem program_block_keeps (info : HalmacPgEfuseInfo) (updated_mask : ByteMap) (i : Nat) :
    Keeps HalmacAdapter.states (program_block info updated_mask i) := by
  refine keeps_ite (keeps_ite ?_ ?_) (keeps_pure _ _)
  · refine (keeps_get _).bind (fun _ => (write_hw_efuse_keeps _ _).bind (fun _ => ?_))
    refine (write_hw_efuse_keeps _ _).bind (fun _ => (pg_words_keeps _ _ _ _ _).bind (fun _ => ?_))
    exact keeps_update (fun _ => rfl)
  · refine (keeps_get _).bind (fun _ => (write_hw_efuse_keeps _ _).bind (fun _ => ?_))
    exact (pg_words_keeps _ _ _ _ _).bind (fun _ => keeps_update (fun _ => rfl))

theorem proc_pg_efuse_by_map_keeps (info : HalmacPgEfuseInfo) :
    Keeps HalmacAdapter.states (proc_pg_efuse_by_map_88xx info) := by
  have blocks : ∀ updated_mask offsets,
      Keeps HalmacAdapter.states (program_blocks info updated_mask offsets) := by
    intro updated_mask offsets
    induction offsets with
    | nil => exact keeps_pure _ _
    | cons i rest ih =>
        exact (program_block_keeps info updated_mask i).bind (fun _ => ih)
  have mask : Keeps HalmacAdapter.states (update_eeprom_mask_88xx info) :=
    (pltfm_malloc_keeps states_ignore_reads).bind (fun _ => (read_log_efuse_map_keeps states_ignore_reads).bind (fun _ => keeps_pure _ _))
  refine (pltfm_malloc_keeps states_ignore_reads).bind (fun _ => mask.bind (fun updated_mask => Keeps.bind ?_ (fun _ => ?_)))
  · exact (keeps_get _).bind (fun _ => keeps_require _ _ _)
  · exact blocks updated_mask (block_offsets info)

/-! ## The bank switch -/

/-- The bank register holds the bank already, or takes it. -/
def BankSwitches (before : HalmacAdapter) (bank : Nat) : Prop :=
  bank = before.bank ∨ (bank < HALMAC_EFUSE_BANK_MAX ∧ before.platform.bank_switches before.turn = true)

instance (before : HalmacAdapter) (bank : Nat) : Decidable (BankSwitches before bank) :=
  inferInstanceAs (Decidable (_ ∨ _))

/-- The adapter behind a bank switch that takes effect. -/
def HalmacAdapter.switched (before : HalmacAdapter) (bank : Nat) : HalmacAdapter :=
  if bank = before.bank then { before with cmd_cnstr_state := .BUSY }
  else { before with cmd_cnstr_state := .BUSY, bank := bank, turn := before.turn + 1 }

theorem switched_states (before : HalmacAdapter) (bank : Nat) :
    (before.switched bank).states = (.BUSY, before.proc_status) := by
  unfold HalmacAdapter.switched
  split_ifs <;> rfl

theorem cnv_efuse_state_busy (idle : before.cmd_cnstr_state = .IDLE) :
    cnv_efuse_state_88xx .BUSY before = (.ok (), { before with cmd_cnstr_state := .BUSY }) := by
  rw [cnv_efuse_state_88xx, bind_of_ok (Program.get_apply before), idle]
  rfl

theorem cnv_efuse_state_h2c_sent (busy : before.cmd_cnstr_state = .BUSY) :
    cnv_efuse_state_88xx .H2C_SENT before = (.ok (), { before with cmd_cnstr_state := .H2C_SENT }) := by
  rw [cnv_efuse_state_88xx, bind_of_ok (Program.get_apply before), busy]
  rfl

theorem cnv_efuse_state_idle (going : before.cmd_cnstr_state = .BUSY ∨ before.cmd_cnstr_state = .H2C_SENT) :
    cnv_efuse_state_88xx .IDLE before = (.ok (), { before with cmd_cnstr_state := .IDLE }) := by
  rw [cnv_efuse_state_88xx, bind_of_ok (Program.get_apply before)]
  rcases going with busy | sent
  · rw [busy]
    rfl
  · rw [sent]
    rfl

theorem bank_and_three : bank &&& 3 = bank <-> bank < HALMAC_EFUSE_BANK_MAX := by
  rw [Nat.and_two_pow_sub_one_eq_mod bank 2]
  unfold HALMAC_EFUSE_BANK_MAX
  omega

theorem switch_efuse_bank_of_switches (idle : before.cmd_cnstr_state = .IDLE) (switches : BankSwitches before bank) :
    switch_efuse_bank_88xx bank before = (.ok (), before.switched bank) := by
  rw [switch_efuse_bank_88xx, bind_of_ok (cnv_efuse_state_busy idle), bind_of_ok (Program.get_apply _)]
  by_cases same : bank = before.bank
  · rw [if_pos same, HalmacAdapter.switched, if_pos same]
    rfl
  · rcases switches with here | ⟨small, takes⟩
    · exact absurd here same
    · rw [if_neg same, HalmacAdapter.switched, if_neg same]
      simp only [answer, Program.bind_apply, Program.update_apply, takes, if_true, Program.get_apply,
        bank_and_three.mpr small, decide_true, Program.require_true, Program.pure_apply]

theorem switch_efuse_bank_of_refused (idle : before.cmd_cnstr_state = .IDLE) (refused : ¬ BankSwitches before bank) :
    ∃ code, ∃ after,
      switch_efuse_bank_88xx bank before = (.error code, after) ∧ after.cmd_cnstr_state = .BUSY := by
  have other : ¬ bank = before.bank := fun same => refused (Or.inl same)
  rw [switch_efuse_bank_88xx, bind_of_ok (cnv_efuse_state_busy idle),
    bind_of_ok (Program.get_apply _), if_neg other]
  cases takes : before.platform.bank_switches before.turn with
  | false =>
      have still : ¬ before.bank = bank := fun same => other same.symm
      simp only [answer, Program.bind_apply, Program.update_apply, takes, Bool.false_eq_true, if_false,
        Program.get_apply, still, decide_false, Program.require_false, Program.stop_apply]
      exact ⟨_, _, rfl, rfl⟩
  | true =>
      have large : ¬ bank &&& 3 = bank := fun small =>
        refused (Or.inr ⟨bank_and_three.mp small, takes⟩)
      simp only [answer, Program.bind_apply, Program.update_apply, takes, if_true, Program.get_apply, large,
        decide_false, Program.require_false, Program.stop_apply]
      exact ⟨_, _, rfl, rfl⟩

/-- A guard leaves the adapter as it is and succeeds under the condition. -/
def Guards (checks : HalmacM Unit) (condition : HalmacAdapter -> Prop) : Prop :=
  Keeps id checks ∧ ∀ before after, checks before = (.ok (), after) <-> condition before ∧ after = before

theorem guards_efuse_idle : Guards efuse_idle NotStuck := by
  refine ⟨(keeps_get _).bind (fun _ => (keeps_require _ _ _).bind (fun _ =>
    keeps_require _ _ _)), ?_⟩
  intro before after
  rw [efuse_idle, get_bind_eq_ok, require_bind_eq_ok, require_eq_ok,
    decide_eq_true_iff, decide_eq_true_iff, NotStuck, ← and_assoc,
    and_comm (a := before.cmd_cnstr_state = .IDLE)]

theorem guards_check_log (offset : Nat) :
    Guards (check_log offset) (fun before => offset < before.hw_cfg_info.eeprom_size ∧ NotStuck before) := by
  refine ⟨(keeps_get _).bind (fun _ => (keeps_require _ _ _).bind (fun _ =>
    guards_efuse_idle.1)), ?_⟩
  intro before after
  rw [check_log, get_bind_eq_ok, require_bind_eq_ok, guards_efuse_idle.2, decide_eq_true_iff, and_assoc]

/-- The sizes and pointers that `pg_efuse_by_map_88xx` asks for. -/
structure HalmacPgEfuseInfo.Checked (info : HalmacPgEfuseInfo) (hw_info : HwCfgInfo) : Prop where
  map_size : info.efuse_map_size = hw_info.eeprom_size
  rows : ¬ (info.efuse_map_size &&& 0xF) > 0
  mask_size : info.efuse_mask_size = info.efuse_map_size >>> 4
  has_map : info.efuse_map.isSome = true
  has_mask : info.efuse_mask.isSome = true

theorem guards_check_pg_efuse (info : HalmacPgEfuseInfo) :
    Guards (check_pg_efuse info) (fun before => info.Checked before.hw_cfg_info ∧ NotStuck before) := by
  constructor
  · refine (keeps_get _).bind (fun _ => (keeps_require _ _ _).bind (fun _ => ?_))
    refine (keeps_require _ _ _).bind (fun _ => (keeps_require _ _ _).bind (fun _ => ?_))
    exact (keeps_require _ _ _).bind (fun _ => (keeps_require _ _ _).bind (fun _ =>
      guards_efuse_idle.1))
  · intro before after
    rw [check_pg_efuse, get_bind_eq_ok, require_bind_eq_ok, require_bind_eq_ok,
      require_bind_eq_ok, require_bind_eq_ok, require_bind_eq_ok,
      guards_efuse_idle.2, decide_eq_true_iff, decide_eq_true_iff, decide_eq_true_iff]
    constructor
    · intro ⟨map_size, rows, mask_size, has_map, has_mask, ready, same⟩
      exact ⟨⟨⟨map_size, rows, mask_size, has_map, has_mask⟩, ready⟩, same⟩
    · intro ⟨⟨checked, ready⟩, same⟩
      exact ⟨checked.map_size, checked.rows, checked.mask_size, checked.has_map, checked.has_mask, ready, same⟩

theorem guards_check_bt (offset bank : Nat) :
    Guards (check_bt offset bank) (fun before => (offset < before.hw_cfg_info.efuse_size ∧
      bank ≤ HALMAC_EFUSE_BANK_MAX ∧ bank ≠ HALMAC_EFUSE_BANK_WIFI) ∧ NotStuck before) := by
  constructor
  · exact guards_efuse_idle.1.bind (fun _ => (keeps_get _).bind (fun _ =>
      (keeps_require _ _ _).bind (fun _ => keeps_require _ _ _)))
  · intro before after
    rw [check_bt, Program.bind_eq_ok]
    constructor
    · intro ⟨_, middle, ready, rest⟩
      rcases (guards_efuse_idle.2 _ _).mp ready with ⟨notStuck, same⟩
      rw [same, get_bind_eq_ok, require_bind_eq_ok, require_eq_ok,
        decide_eq_true_iff, decide_eq_true_iff, not_or, Nat.not_lt] at rest
      exact ⟨⟨⟨rest.1, rest.2.1⟩, notStuck⟩, rest.2.2⟩
    · intro ⟨⟨⟨inside, known⟩, notStuck⟩, same⟩
      refine ⟨(), before, (guards_efuse_idle.2 _ _).mpr ⟨notStuck, rfl⟩, ?_⟩
      rw [get_bind_eq_ok, require_bind_eq_ok, require_eq_ok,
        decide_eq_true_iff, decide_eq_true_iff, not_or, Nat.not_lt]
      exact ⟨inside, known, same⟩

theorem guards_check_dump_bt (bank size : Nat) :
    Guards (check_dump_bt bank size) (fun before => (before.hw_cfg_info.bt_efuse_size = size ∧
      bank < HALMAC_EFUSE_BANK_MAX ∧ bank ≠ HALMAC_EFUSE_BANK_WIFI) ∧ NotStuck before) := by
  constructor
  · exact (keeps_get _).bind (fun _ => (keeps_require _ _ _).bind (fun _ =>
      (keeps_require _ _ _).bind (fun _ => guards_efuse_idle.1)))
  · intro before after
    rw [check_dump_bt, get_bind_eq_ok, require_bind_eq_ok, require_bind_eq_ok,
      guards_efuse_idle.2, decide_eq_true_iff, decide_eq_true_iff, not_or, ge_iff_le, Nat.not_le]
    constructor
    · intro ⟨size, known, ready, same⟩
      exact ⟨⟨⟨size, known⟩, ready⟩, same⟩
    · intro ⟨⟨⟨size, known⟩, ready⟩, same⟩
      exact ⟨size, known, ready, same⟩

/-- A command that is accepted ends ready exactly when the bank switches and the
work succeeds; one that is not accepted leaves everything as it is. -/
theorem efuse_command_notStuck {α : Type} {checks : HalmacM Unit} {accepted : HalmacAdapter -> Prop} {work : HalmacM α}
    (guards : Guards checks (fun state => accepted state ∧ NotStuck state))
    (keeps : Keeps HalmacAdapter.states work) (idle : before.cmd_cnstr_state = .IDLE) :
    NotStuck (efuse_command checks bank work before).2 <->
      before.proc_status ≠ .SENDING ∧
        (accepted before -> BankSwitches before bank ∧ work.Succeeds (before.switched bank)) := by
  by_cases ready : accepted before ∧ NotStuck before
  · have passed := (guards.2 before before).mpr ⟨ready, rfl⟩
    rw [efuse_command, bind_of_ok passed]
    by_cases switches : BankSwitches before bank
    · rw [bind_of_ok (switch_efuse_bank_of_switches idle switches)]
      have kept := keeps (before.switched bank)
      rw [switched_states] at kept
      by_cases works : work.Succeeds (before.switched bank)
      · rcases succeeds_iff.mp works with ⟨value, after, ran⟩
        rw [ran, HalmacAdapter.states, Prod.mk.injEq] at kept
        rw [bind_of_ok ran, bind_of_ok (cnv_efuse_state_idle (Or.inl kept.1))]
        refine ⟨fun _ => ⟨ready.2.2, fun _ => ⟨switches, works⟩⟩, fun _ => ⟨rfl, ?_⟩⟩
        change after.proc_status ≠ .SENDING
        rw [kept.2]
        exact ready.2.2
      · rcases error_of_not_succeeds works with ⟨code, after, failed⟩
        rw [failed, HalmacAdapter.states, Prod.mk.injEq] at kept
        rw [bind_of_error failed, NotStuck, kept.1]
        exact ⟨fun stuck => (nomatch stuck.1), fun completes => absurd (completes.2 ready.1).2 works⟩
    · rcases switch_efuse_bank_of_refused idle switches with ⟨code, after, failed, busy⟩
      rw [bind_of_error failed, NotStuck, busy]
      exact ⟨fun stuck => (nomatch stuck.1), fun completes => absurd (completes.2 ready.1).1 switches⟩
  · have refused : ¬ checks.Succeeds before := by
      intro success
      rcases succeeds_iff.mp success with ⟨_, after, ran⟩
      exact ready ((guards.2 before after).mp ran).1
    rcases error_of_not_succeeds refused with ⟨code, after, failed⟩
    have same := guards.1 before
    rw [failed] at same
    change after = before at same
    rw [efuse_command, bind_of_error failed, same]
    constructor
    · intro notStuck
      exact ⟨notStuck.2, fun isAccepted => absurd ⟨isAccepted, notStuck⟩ ready⟩
    · intro ⟨notSending, _⟩
      exact ⟨idle, notSending⟩

/-- The dump goes through the driver, not through the firmware. -/
def DriverMode (cfg : EfuseReadCfg) (before : HalmacAdapter) : Prop :=
  cfg = .DRV ∨ (cfg = .AUTO ∧
    (before.dlfw_state = .NONE ∨ ∀ turn, before.platform.h2c_pkt_readaddr_set turn = false))

/-- The adapter when `dump_efuse_drv_88xx` is called. -/
def HalmacAdapter.dump_start (before : HalmacAdapter) (cfg : EfuseReadCfg) : HalmacAdapter :=
  let switched := before.switched HALMAC_EFUSE_BANK_WIFI
  { switched with
    proc_status := .SENDING
    cmd_cnstr_state := .H2C_SENT
    turn := switched.turn + if cfg = .AUTO then 1 else 0 }

/-- The cached map is not there and cannot be allocated. -/
def AdapterMapRefused (start : HalmacAdapter) : Prop :=
  start.efuse_map = none ∧ start.platform.malloc start.turn = false

def MarksEvent (mark : HalmacAdapter -> HalmacAdapter) : Prop :=
  ∀ adapter, mark adapter =
    { adapter with
      phy_efuse_map := (mark adapter).phy_efuse_map, log_efuse_map := (mark adapter).log_efuse_map }

theorem proc_dump_efuse_of_driver {cfg : EfuseReadCfg} (driver : DriverMode cfg before) :
    proc_dump_efuse_88xx cfg (before.switched HALMAC_EFUSE_BANK_WIFI) =
      dump_efuse_drv_88xx (before.dump_start cfg) := by
  have busy : ({ before.switched HALMAC_EFUSE_BANK_WIFI with proc_status := .SENDING } :
      HalmacAdapter).cmd_cnstr_state = .BUSY := congrArg Prod.fst (switched_states before _)
  rcases driver with rfl | ⟨rfl, mode⟩
  · simp only [proc_dump_efuse_88xx]
    rw [bind_of_ok (Program.update_apply _ _), bind_of_ok (cnv_efuse_state_h2c_sent busy)]
    rfl
  · simp only [proc_dump_efuse_88xx]
    rw [bind_of_ok (Program.update_apply _ _), bind_of_ok (cnv_efuse_state_h2c_sent busy)]
    have known : (before.switched HALMAC_EFUSE_BANK_WIFI).dlfw_state = before.dlfw_state ∧
        (before.switched HALMAC_EFUSE_BANK_WIFI).platform = before.platform := by
      unfold HalmacAdapter.switched
      split_ifs <;> exact ⟨rfl, rfl⟩
    simp only [Program.bind_apply, answer, Program.get_apply]
    rw [if_pos ?_]
    · rfl
    · rw [known.1, known.2]
      exact mode.imp_right (fun unset => unset _)

theorem dump_efuse_drv_reset {start : HalmacAdapter} (refused : AdapterMapRefused start) :
    dump_efuse_drv_88xx start = (.error .MALLOC_FAIL,
      { start with turn := start.turn + 1, proc_status := .IDLE, cmd_cnstr_state := .IDLE }) := by
  have alloc : alloc_or_reset start = (.error .MALLOC_FAIL,
      { start with turn := start.turn + 1, proc_status := .IDLE, cmd_cnstr_state := .IDLE }) := by
    have missing : start.efuse_map.isSome = false := by
      rw [refused.1]
      rfl
    rw [alloc_or_reset, bind_of_ok (Program.get_apply start), missing]
    simp only [Bool.false_eq_true, if_false, Program.bind_apply, answer, refused.2]
    rfl
  rw [dump_efuse_drv_88xx, bind_of_error alloc]

theorem dump_efuse_drv_kept {start : HalmacAdapter} (served : ¬ AdapterMapRefused start) :
    (dump_efuse_drv_88xx start).2.states = start.states ∧
      ∀ after, dump_efuse_drv_88xx start = (.ok (), after) -> after.efuse_map_valid = true := by
  have alloc : ∃ middle, alloc_or_reset start = (.ok (), middle) ∧ middle.states = start.states := by
    rw [alloc_or_reset, bind_of_ok (Program.get_apply start)]
    cases map : start.efuse_map with
    | some efuse_map => exact ⟨start, rfl, rfl⟩
    | none =>
        have allocates : start.platform.malloc start.turn = true := by
          rw [← Bool.not_eq_false]
          exact fun fails => served ⟨map, fails⟩
        simp only [Option.isSome_none, Bool.false_eq_true, if_false, Program.bind_apply, answer, allocates,
          if_true, Program.update_apply]
        exact ⟨_, rfl, rfl⟩
  rcases alloc with ⟨middle, ran, states⟩
  rw [dump_efuse_drv_88xx, bind_of_ok ran, bind_of_ok (Program.get_apply middle)]
  cases valid : middle.efuse_map_valid with
  | true =>
      refine ⟨states, ?_⟩
      intro after same
      rw [if_pos rfl, Program.pure_apply, Prod.mk.injEq] at same
      rw [← same.2, valid]
  | false =>
      rw [if_neg Bool.false_ne_true]
      constructor
      · refine Eq.trans ?_ states
        refine (pltfm_malloc_keeps states_ignore_reads).bind (fun _ =>
          (read_hw_efuse_keeps states_ignore_reads).bind (fun map => ?_)) middle
        exact keeps_update (fun _ => rfl)
      · intro after success
        rcases Program.bind_eq_ok.mp success with ⟨_, _, _, success⟩
        rcases Program.bind_eq_ok.mp success with ⟨map, last, _, success⟩
        rw [Program.update_apply, Prod.mk.injEq] at success
        rw [← success.2]

theorem dump_valid_map_done {signal : HalmacM ByteMap} (keeps : Keeps HalmacAdapter.states signal)
    {start : HalmacAdapter} (valid : start.efuse_map_valid = true) :
    (dump_valid_map signal start).2.states = (start.cmd_cnstr_state, .DONE) := by
  rw [dump_valid_map, bind_of_ok (Program.get_apply start), if_pos valid, bind_of_ok (Program.update_apply _ _)]
  exact ((pltfm_malloc_keeps states_ignore_reads).bind (fun _ => keeps.bind (fun _ => keeps_pure _ _))) _

/-- The adapter that a dump command hands to the bank switch. -/
def HalmacAdapter.marked (before : HalmacAdapter) (mark : HalmacAdapter -> HalmacAdapter) : HalmacAdapter :=
  mark { before with proc_status := .IDLE }

/-- A dump through the driver ends ready exactly when the bank switches and then
either everything succeeds or the cached map is refused at once. -/
theorem dump_command_notStuck {cfg : EfuseReadCfg} {mark : HalmacAdapter -> HalmacAdapter}
    {signal : HalmacM ByteMap} (marks : MarksEvent mark)
    (keeps : Keeps HalmacAdapter.states signal) (driver : DriverMode cfg before)
    (idle : before.cmd_cnstr_state = .IDLE) :
    NotStuck (dump_command cfg mark signal before).2 <->
      before.proc_status ≠ .SENDING ∧ BankSwitches (before.marked mark) HALMAC_EFUSE_BANK_WIFI ∧
        (AdapterMapRefused ((before.marked mark).dump_start cfg) ∨
          (do dump_efuse_drv_88xx; dump_valid_map signal : HalmacM (Option ByteMap)).Succeeds
            ((before.marked mark).dump_start cfg)) := by
  have same := marks { before with proc_status := .IDLE }
  have notFirmware : ¬ cfg = .FW := by
    rcases driver with rfl | ⟨rfl, _⟩ <;> decide
  rw [dump_command, if_neg notFirmware, bind_of_ok (Program.pure_apply () before)]
  by_cases sending : before.proc_status = .SENDING
  · have refused : ¬ efuse_idle.Succeeds before := by
      intro success
      rcases succeeds_iff.mp success with ⟨_, after, ran⟩
      exact ((guards_efuse_idle.2 before after).mp ran).1.2 sending
    rcases error_of_not_succeeds refused with ⟨code, after, failed⟩
    have kept := guards_efuse_idle.1 before
    rw [failed] at kept
    change after = before at kept
    rw [bind_of_error failed, kept]
    exact ⟨fun notStuck => absurd sending notStuck.2, fun completes => absurd sending completes.1⟩
  · have ready := (guards_efuse_idle.2 before before).mpr ⟨⟨idle, sending⟩, rfl⟩
    have markedIdle : (before.marked mark).cmd_cnstr_state = .IDLE := by
      rw [HalmacAdapter.marked, same]
      exact idle
    have markedDriver : DriverMode cfg (before.marked mark) := by
      rw [HalmacAdapter.marked, same]
      exact driver
    rw [bind_of_ok ready, bind_of_ok (Program.update_apply _ before)]
    change NotStuck ((switch_efuse_bank_88xx HALMAC_EFUSE_BANK_WIFI >>= _) (before.marked mark)).2 <-> _
    by_cases switches : BankSwitches (before.marked mark) HALMAC_EFUSE_BANK_WIFI
    · rw [bind_of_ok (switch_efuse_bank_of_switches markedIdle switches), Program.bind_apply,
        proc_dump_efuse_of_driver markedDriver]
      have sent : ((before.marked mark).dump_start cfg).cmd_cnstr_state = .H2C_SENT := rfl
      generalize (before.marked mark).dump_start cfg = start at sent ⊢
      by_cases refused : AdapterMapRefused start
      · rw [dump_efuse_drv_reset refused]
        exact ⟨fun _ => ⟨sending, switches, Or.inl refused⟩, fun _ => ⟨rfl, fun impossible => nomatch impossible⟩⟩
      · rcases dump_efuse_drv_kept refused with ⟨states, validates⟩
        cases dumped : dump_efuse_drv_88xx start with
        | mk result after =>
            rw [dumped, HalmacAdapter.states, HalmacAdapter.states, Prod.mk.injEq, sent] at states
            cases result with
            | error code =>
                refine ⟨fun notStuck => ?_, fun completes => ?_⟩
                · have impossible := states.1.symm.trans notStuck.1
                  cases impossible
                · rcases completes.2.2 with reset | ⟨map, success⟩
                  · exact absurd reset refused
                  · rw [bind_of_error dumped] at success
                    cases success
            | ok value =>
                have done := dump_valid_map_done keeps (validates after dumped)
                have whole := @Program.bind_of_ok _ _ _ _ _ (fun _ => dump_valid_map signal) _ _ _ dumped
                change NotStuck ((dump_valid_map signal >>= _) after).2 <-> _
                by_cases works : (dump_valid_map signal).Succeeds after
                · rcases succeeds_iff.mp works with ⟨map, last, ran⟩
                  rw [ran, HalmacAdapter.states, Prod.mk.injEq, states.1] at done
                  rw [bind_of_ok ran, bind_of_ok (cnv_efuse_state_idle (Or.inr done.1))]
                  refine ⟨fun _ => ⟨sending, switches, Or.inr ⟨map, ?_⟩⟩, fun _ => ⟨rfl, ?_⟩⟩
                  · rw [whole, ran]
                  · change last.proc_status ≠ .SENDING
                    rw [done.2]
                    decide
                · rcases error_of_not_succeeds works with ⟨code, last, failed⟩
                  rw [failed, HalmacAdapter.states, Prod.mk.injEq, states.1] at done
                  rw [bind_of_error failed]
                  refine ⟨fun notStuck => ?_, fun completes => ?_⟩
                  · have impossible := done.1.symm.trans notStuck.1
                    cases impossible
                  · rcases completes.2.2 with reset | ⟨map, success⟩
                    · exact absurd reset refused
                    · rw [whole, failed] at success
                      cases success
    · rcases switch_efuse_bank_of_refused markedIdle switches with ⟨code, after, failed, busy⟩
      rw [bind_of_error failed, NotStuck, busy]
      exact ⟨fun stuck => (nomatch stuck.1), fun completes => absurd completes.2.1 switches⟩

/-- A call of one of the entry points. -/
inductive EfuseCommand
  | dump_efuse_map (cfg : EfuseReadCfg)
  | dump_log_efuse_map (cfg : EfuseReadCfg)
  | read_logical_efuse (offset : Nat)
  | write_log_efuse (offset : Nat) (value : UInt8)
  | pg_efuse_by_map (info : HalmacPgEfuseInfo) (cfg : EfuseReadCfg)
  | read_efuse_bt (offset bank : Nat)
  | write_efuse_bt (offset : Nat) (value : UInt8) (bank : Nat)
  | dump_efuse_map_bt (bank size : Nat)

namespace EfuseCommand

def after : EfuseCommand -> HalmacAdapter -> HalmacAdapter
  | dump_efuse_map cfg, before => (dump_efuse_map_88xx cfg before).2
  | dump_log_efuse_map cfg, before => (dump_log_efuse_map_88xx cfg before).2
  | read_logical_efuse offset, before => (read_logical_efuse_88xx offset before).2
  | write_log_efuse offset value, before => (write_log_efuse_88xx offset value before).2
  | pg_efuse_by_map info cfg, before => (pg_efuse_by_map_88xx info cfg before).2
  | read_efuse_bt offset bank, before => (read_efuse_bt_88xx offset bank before).2
  | write_efuse_bt offset value bank, before => (write_efuse_bt_88xx offset value bank before).2
  | dump_efuse_map_bt bank size, before => (dump_efuse_map_bt_88xx bank size before).2

def Driver : EfuseCommand -> HalmacAdapter -> Prop
  | dump_efuse_map cfg, before => DriverMode cfg before
  | dump_log_efuse_map cfg, before => DriverMode cfg before
  | _, _ => True

/-- The bank switches, and the work behind the switch succeeds. -/
def Works {α : Type} (bank : Nat) (work : HalmacM α) (before : HalmacAdapter) : Prop :=
  BankSwitches before bank ∧ work.Succeeds (before.switched bank)

/-- The bank switches, and the dump either succeeds or has no memory for the
cached map. -/
def Dumps (cfg : EfuseReadCfg) (marked : HalmacAdapter) (signal : HalmacM ByteMap) : Prop :=
  BankSwitches marked HALMAC_EFUSE_BANK_WIFI ∧
    (AdapterMapRefused (marked.dump_start cfg) ∨
      (do dump_efuse_drv_88xx; dump_valid_map signal : HalmacM (Option ByteMap)).Succeeds
        (marked.dump_start cfg))

/-- The call does not take an early return behind the bank switch: its arguments
are refused before, or the platform serves the switch and the work. -/
def Completes (before : HalmacAdapter) : EfuseCommand -> Prop
  | dump_efuse_map cfg => Dumps cfg (before.marked mark_phy) signal_phy
  | dump_log_efuse_map cfg => Dumps cfg (before.marked mark_log) signal_log
  | read_logical_efuse offset =>
      offset < before.hw_cfg_info.eeprom_size ->
        Works HALMAC_EFUSE_BANK_WIFI (proc_read_log_efuse offset) before
  | write_log_efuse offset value =>
      offset < before.hw_cfg_info.eeprom_size ->
        Works HALMAC_EFUSE_BANK_WIFI (proc_write_log_efuse_88xx offset value) before
  | pg_efuse_by_map info _ =>
      info.Checked before.hw_cfg_info ->
        Works HALMAC_EFUSE_BANK_WIFI (proc_pg_efuse_by_map_88xx info) before
  | read_efuse_bt offset bank =>
      offset < before.hw_cfg_info.efuse_size ∧ bank ≤ HALMAC_EFUSE_BANK_MAX ∧ bank ≠ HALMAC_EFUSE_BANK_WIFI ->
        Works bank (read_efuse_byte offset) before
  | write_efuse_bt offset value bank =>
      offset < before.hw_cfg_info.efuse_size ∧ bank ≤ HALMAC_EFUSE_BANK_MAX ∧ bank ≠ HALMAC_EFUSE_BANK_WIFI ->
        Works bank (write_hw_efuse_88xx offset value) before
  | dump_efuse_map_bt bank size =>
      before.hw_cfg_info.bt_efuse_size = size ∧ bank < HALMAC_EFUSE_BANK_MAX ∧ bank ≠ HALMAC_EFUSE_BANK_WIFI ->
        Works bank read_hw_efuse_88xx before

end EfuseCommand

theorem marksEvent_phy : MarksEvent mark_phy := fun _ => rfl

theorem marksEvent_log : MarksEvent mark_log := fun _ => rfl

theorem signal_phy_keeps : Keeps HalmacAdapter.states signal_phy :=
  (keeps_get _).bind (fun _ =>
    Keeps.bind (keeps_update (fun _ => rfl)) (fun _ => keeps_pure _ _))

theorem signal_log_keeps : Keeps HalmacAdapter.states signal_log :=
  (parse_efuse_map_keeps states_ignore_reads).bind (fun _ =>
    Keeps.bind (keeps_update (fun _ => rfl)) (fun _ => keeps_pure _ _))

/-- A call that starts idle leaves the state machine ready exactly when no event
was awaited and the call takes no early return behind its bank switch. -/
theorem efuse_command_notStuck_iff (command : EfuseCommand) (before : HalmacAdapter)
    (idle : before.cmd_cnstr_state = .IDLE) (driver : command.Driver before) :
    NotStuck (command.after before) <->
      before.proc_status ≠ .SENDING ∧ command.Completes before := by
  cases command with
  | dump_efuse_map cfg => exact dump_command_notStuck marksEvent_phy signal_phy_keeps driver idle
  | dump_log_efuse_map cfg => exact dump_command_notStuck marksEvent_log signal_log_keeps driver idle
  | read_logical_efuse offset =>
      refine efuse_command_notStuck (guards_check_log offset) ?_ idle
      exact (pltfm_malloc_keeps states_ignore_reads).bind (fun _ => (read_log_efuse_map_keeps states_ignore_reads).bind (fun _ => keeps_pure _ _))
  | write_log_efuse offset value =>
      exact efuse_command_notStuck (guards_check_log offset) (proc_write_log_efuse_keeps offset value) idle
  | pg_efuse_by_map info cfg =>
      exact efuse_command_notStuck (guards_check_pg_efuse info) (proc_pg_efuse_by_map_keeps info) idle
  | read_efuse_bt offset bank =>
      refine efuse_command_notStuck (guards_check_bt offset bank) ?_ idle
      exact (read_efuse_keeps states_ignore_reads).bind (fun _ => keeps_pure _ _)
  | write_efuse_bt offset value bank =>
      exact efuse_command_notStuck (guards_check_bt offset bank) (write_hw_efuse_keeps offset value) idle
  | dump_efuse_map_bt bank size =>
      exact efuse_command_notStuck (guards_check_dump_bt bank size) (read_hw_efuse_keeps states_ignore_reads) idle

/-- A read of a blank efuse leaves the state machine ready. -/
theorem read_logical_efuse_notStuck_blank :
    NotStuck ((EfuseCommand.read_logical_efuse 0).after (HalmacAdapter.blank8821c 0)) :=
  (efuse_command_notStuck_iff (.read_logical_efuse 0) (HalmacAdapter.blank8821c 0) rfl trivial).mpr
    ⟨by decide, fun _ => ⟨Or.inl rfl, 0xFF, by decide +kernel⟩⟩

/-- Without memory for the logical map, the same read leaves the state machine
`BUSY`. -/
theorem read_logical_efuse_stuck_without_memory :
    ¬ ∀ (command : EfuseCommand) (before : HalmacAdapter), before.cmd_cnstr_state = .IDLE ->
      command.Driver before -> NotStuck (command.after before) := by
  intro ready
  have notStuck := ready (.read_logical_efuse 0)
    { HalmacAdapter.blank8821c 0 with platform := { Platform.willing with malloc := fun _ => false } }
    rfl trivial
  exact absurd notStuck.1 (by decide)

end Rtl8821ce
