import Rtl8821ce.Efuse.NotStuck
import Rtl8821ce.Library.Run

/-!
# The cached map

The adapter keeps a copy of the WiFi bank, with a flag that says whether the
copy is valid.  Each write clears the flag and each read of the whole bank sets
it, so a valid copy always equals the bank.  On that invariant rests what
`read_log_efuse_map_88xx` returns: the logical map of the bank, and its end.
-/

namespace Rtl8821ce

open Program (Keeps Maintains bind_of_ok get_bind_eq_ok keeps_get keeps_ite keeps_pure keeps_require
  keeps_update maintains_get maintains_ite maintains_pure maintains_require maintains_stop maintains_update)

def HalmacAdapter.wifi_map (adapter : HalmacAdapter) : ByteMap := adapter.cells HALMAC_EFUSE_BANK_WIFI

def Coherent (adapter : HalmacAdapter) : Prop :=
  adapter.efuse_map_valid = true -> adapter.efuse_map = some adapter.wifi_map

/-- The WiFi bank is selected, and the cached map is coherent with it. -/
structure OnWifi (adapter : HalmacAdapter) : Prop where
  bank : adapter.bank = HALMAC_EFUSE_BANK_WIFI
  coherent : Coherent adapter

def HalmacAdapter.hardware (adapter : HalmacAdapter) :
    HwCfgInfo × Nat × (Nat -> ByteMap) × List (Nat × UInt8) × Platform :=
  (adapter.hw_cfg_info, adapter.bank, adapter.cells, adapter.written, adapter.platform)

theorem read_hw_efuse_ok {before after : HalmacAdapter} {map : ByteMap}
    (success : read_hw_efuse_88xx before = (.ok map, after)) : map = before.phy_map := by
  cases completes : before.platform.read_completes before.turn with
  | true =>
      rw [read_hw_efuse_of_true completes, Prod.mk.injEq, Except.ok.injEq] at success
      exact success.1.symm
  | false =>
      rw [read_hw_efuse_of_false completes] at success
      cases success

theorem hardware_ignores_reads : IgnoresReads HalmacAdapter.hardware := fun _ _ _ _ _ => rfl

theorem OnWifi.turn {before : HalmacAdapter} (onWifi : OnWifi before) (turn : Nat) :
    OnWifi { before with turn := turn } := ⟨onWifi.bank, onWifi.coherent⟩

theorem pltfm_malloc_onWifi : Maintains OnWifi pltfm_malloc :=
  @Maintains.bind _ _ _ _ _ (answer Platform.malloc) _ (fun _ onWifi => onWifi.turn _)
    (fun _ => maintains_require _ _ _)

theorem read_hw_efuse_onWifi : Maintains OnWifi read_hw_efuse_88xx :=
  @Maintains.bind _ _ _ _ _ (answer Platform.read_completes) _ (fun _ onWifi => onWifi.turn _)
    (fun _ => (maintains_require _ _ _).bind (fun _ =>
      (maintains_get _).bind (fun _ => maintains_pure _ _)))

theorem read_efuse_onWifi : Maintains OnWifi read_efuse_88xx :=
  (maintains_get _).bind (fun _ =>
    maintains_ite (maintains_pure _ _) read_hw_efuse_onWifi)

theorem read_efuse_ok {before after : HalmacAdapter} {map : ByteMap} (onWifi : OnWifi before)
    (success : read_efuse_88xx before = (.ok map, after)) : map = before.wifi_map := by
  rw [read_efuse_88xx, get_bind_eq_ok] at success
  cases valid : before.efuse_map_valid with
  | true =>
      rw [if_pos valid, Program.pure_apply, Prod.mk.injEq, Except.ok.injEq, onWifi.coherent valid] at success
      exact success.1.symm
  | false =>
      rw [if_neg (Bool.not_eq_true _ ▸ valid)] at success
      rw [read_hw_efuse_ok success, HalmacAdapter.phy_map, onWifi.bank]
      rfl

theorem alloc_efuse_map_onWifi : Maintains OnWifi alloc_efuse_map := by
  intro before onWifi
  rw [alloc_efuse_map, bind_of_ok (Program.get_apply before)]
  cases map : before.efuse_map with
  | some efuse_map => exact onWifi
  | none =>
      have stale : before.efuse_map_valid = false := by
        rw [← Bool.not_eq_true]
        intro valid
        rw [onWifi.coherent valid] at map
        cases map
      simp only [Option.isSome_none, Bool.false_eq_true, if_false]
      refine @Maintains.bind _ _ _ _ (fun adapter => OnWifi adapter ∧ adapter.efuse_map_valid = false)
        _ _ ?_ (fun _ => ?_) before ⟨onWifi, stale⟩ |>.1
      · exact @Maintains.bind _ _ _ _ _ (answer Platform.malloc) _ (fun _ holds => ⟨holds.1.turn _, holds.2⟩)
          (fun _ => maintains_require _ _ _)
      · exact maintains_update (fun _ holds =>
          ⟨⟨holds.1.bank, fun valid => absurd (holds.2.symm.trans valid) Bool.false_ne_true⟩, holds.2⟩)

theorem fill_efuse_map_onWifi : Maintains OnWifi fill_efuse_map := by
  refine pltfm_malloc_onWifi.bind (fun _ => read_efuse_onWifi.bind_of ?_)
  intro state map next onWifi ran still
  have kept := read_efuse_keeps hardware_ignores_reads state
  rw [ran] at kept
  have same : map = next.wifi_map := by
    rw [read_efuse_ok onWifi ran]
    exact congrFun (congrArg (fun view => view.2.2.1) kept.symm) HALMAC_EFUSE_BANK_WIFI
  refine @Maintains.bind _ _ _ _ (fun adapter => OnWifi adapter ∧ adapter.wifi_map = map) _ _ ?_ (fun _ => ?_)
    next ⟨still, same.symm⟩ |>.1
  · intro adapter holds
    refine ⟨alloc_efuse_map_onWifi adapter holds.1, ?_⟩
    have later := alloc_efuse_map_keeps hardware_ignores_reads adapter
    exact (congrFun (congrArg (fun view => view.2.2.1) later) HALMAC_EFUSE_BANK_WIFI).trans holds.2
  · exact maintains_update (fun adapter holds =>
      ⟨⟨holds.1.bank, fun _ => congrArg some holds.2.symm⟩, holds.2⟩)

theorem parse_efuse_map_onWifi : Maintains OnWifi parse_efuse_map := by
  refine (maintains_get _).bind (fun adapter => ?_)
  cases eeprom_parser_88xx adapter.hw_cfg_info (adapter.efuse_map.getD ByteMap.blank) with
  | none => exact maintains_stop _ _
  | some final =>
      exact Maintains.bind (maintains_update (fun _ onWifi => ⟨onWifi.bank, onWifi.coherent⟩))
        (fun _ => maintains_pure _ _)

theorem read_log_efuse_map_onWifi : Maintains OnWifi read_log_efuse_map_88xx :=
  (maintains_get _).bind (fun _ =>
    Maintains.bind (maintains_ite (maintains_pure _ _) fill_efuse_map_onWifi)
      (fun _ => parse_efuse_map_onWifi))

theorem fill_efuse_map_valid {before after : HalmacAdapter}
    (success : fill_efuse_map before = (.ok (), after)) : after.efuse_map_valid = true := by
  rcases Program.bind_eq_ok.mp success with ⟨_, _, _, success⟩
  rcases Program.bind_eq_ok.mp success with ⟨_, _, _, success⟩
  rcases Program.bind_eq_ok.mp success with ⟨_, _, _, success⟩
  rw [Program.update_apply, Prod.mk.injEq] at success
  rw [← success.2]

theorem read_log_efuse_map_ok {before after : HalmacAdapter} {map : ByteMap} (onWifi : OnWifi before)
    (success : read_log_efuse_map_88xx before = (.ok map, after)) :
    ∃ final, eeprom_parser_88xx before.hw_cfg_info before.wifi_map = some final ∧
      map = final.log_map ∧ after.efuse_end = final.efuse_idx := by
  rw [read_log_efuse_map_88xx, get_bind_eq_ok] at success
  rcases Program.bind_eq_ok.mp success with ⟨_, middle, filled, parsed⟩
  have found : middle.hardware = before.hardware ∧ OnWifi middle ∧ middle.efuse_map_valid = true := by
    cases valid : before.efuse_map_valid with
    | true =>
        rw [if_pos valid, Program.pure_apply, Prod.mk.injEq] at filled
        rw [← filled.2]
        exact ⟨rfl, onWifi, valid⟩
    | false =>
        rw [if_neg (Bool.not_eq_true _ ▸ valid)] at filled
        have kept := fill_efuse_map_keeps hardware_ignores_reads before
        have still := fill_efuse_map_onWifi before onWifi
        rw [filled] at kept still
        exact ⟨kept, still, fill_efuse_map_valid filled⟩
  have hw_info : middle.hw_cfg_info = before.hw_cfg_info := congrArg Prod.fst found.1
  have wifi : middle.wifi_map = before.wifi_map :=
    congrFun (congrArg (fun view => view.2.2.1) found.1) HALMAC_EFUSE_BANK_WIFI
  rw [parse_efuse_map, get_bind_eq_ok, found.2.1.coherent found.2.2, hw_info, Option.getD_some, wifi] at parsed
  cases outcome : eeprom_parser_88xx before.hw_cfg_info before.wifi_map with
  | none =>
      rw [outcome] at parsed
      cases parsed
  | some final =>
      rw [outcome] at parsed
      change (Except.ok final.log_map, ({ middle with efuse_end := final.efuse_idx } : HalmacAdapter)) = _ at parsed
      rw [Prod.mk.injEq, Except.ok.injEq] at parsed
      exact ⟨final, rfl, parsed.1.symm, by rw [← parsed.2]⟩

/-! ## Every command keeps the cached map coherent -/

theorem write_hw_efuse_stale (offset : Nat) (value : UInt8) (before : HalmacAdapter) :
    (write_hw_efuse_88xx offset value before).2.efuse_map_valid = false ∧
      (write_hw_efuse_88xx offset value before).2.bank = before.bank := by
  have rest : Keeps (fun adapter => (adapter.efuse_map_valid, adapter.bank)) (do
        let hardware <- answer Platform.write
        Program.require hardware.ldo_on .LDO_FAIL
        Program.update (fun adapter => adapter.burn offset value hardware.stored)
        Program.require hardware.flag_clears .EFUSE_W_FAIL
        Program.require hardware.ldo_off .LDO_FAIL
        let adapter <- Program.get
        if adapter.efuse_auto_check_en then do
          let map <- read_hw_efuse_88xx
          Program.require (map (efuse_addr offset) == value) .EFUSE_W_FAIL
        else pure () : HalmacM Unit) := by
    refine Keeps.bind (fun _ => rfl) (fun hardware => (keeps_require _ _ _).bind (fun _ => ?_))
    refine Keeps.bind (keeps_update (fun _ => rfl)) (fun _ => ?_)
    refine (keeps_require _ _ _).bind (fun _ => (keeps_require _ _ _).bind (fun _ => ?_))
    refine (keeps_get _).bind (fun _ => keeps_ite ?_ (keeps_pure _ _))
    refine Keeps.bind (Keeps.bind (fun _ => rfl) (fun _ => (keeps_require _ _ _).bind (fun _ =>
      (keeps_get _).bind (fun _ => keeps_pure _ _)))) (fun _ => keeps_require _ _ _)
  have kept := rest { before with efuse_map_valid := false }
  rw [Prod.mk.injEq] at kept
  exact kept

theorem coherent_of_stale {adapter : HalmacAdapter} (stale : adapter.efuse_map_valid = false) :
    Coherent adapter := fun valid => absurd (stale.symm.trans valid) Bool.false_ne_true

theorem write_hw_efuse_onWifi (offset : Nat) (value : UInt8) :
    Maintains OnWifi (write_hw_efuse_88xx offset value) := by
  intro before onWifi
  rcases write_hw_efuse_stale offset value before with ⟨stale, bank⟩
  exact ⟨bank.trans onWifi.bank, coherent_of_stale stale⟩

theorem proc_write_log_efuse_onWifi (offset : Nat) (value : UInt8) :
    Maintains OnWifi (proc_write_log_efuse_88xx offset value) := by
  refine pltfm_malloc_onWifi.bind (fun _ => read_log_efuse_map_onWifi.bind (fun map => ?_))
  refine (maintains_get _).bind (fun _ => ?_)
  refine maintains_ite (maintains_ite ?_ ?_) (maintains_pure _ _)
  · exact (maintains_require _ _ _).bind (fun _ => (write_hw_efuse_onWifi _ _).bind (fun _ =>
      (write_hw_efuse_onWifi _ _).bind (fun _ => (write_hw_efuse_onWifi _ _).bind (fun _ =>
        write_hw_efuse_onWifi _ _))))
  · exact (maintains_require _ _ _).bind (fun _ => (write_hw_efuse_onWifi _ _).bind (fun _ =>
      (write_hw_efuse_onWifi _ _).bind (fun _ => write_hw_efuse_onWifi _ _)))

theorem end_onWifi (efuse_end : Nat) : Maintains OnWifi
    (Program.update (fun adapter => { adapter with efuse_end := efuse_end }) : HalmacM Unit) :=
  maintains_update (fun _ onWifi => ⟨onWifi.bank, onWifi.coherent⟩)

theorem program_block_onWifi (info : HalmacPgEfuseInfo) (updated_mask : ByteMap) (i : Nat) :
    Maintains OnWifi (program_block info updated_mask i) := by
  have words : ∀ pre_word_en listed efuse_end,
      Maintains OnWifi (pg_words info pre_word_en i listed efuse_end) := by
    intro pre_word_en listed
    induction listed with
    | nil => exact fun _ => maintains_pure _ _
    | cons word rest ih =>
        intro efuse_end
        refine maintains_ite ?_ (ih efuse_end)
        exact (write_hw_efuse_onWifi _ _).bind (fun _ => (write_hw_efuse_onWifi _ _).bind (fun _ =>
          ih _))
  refine maintains_ite (maintains_ite ?_ ?_) (maintains_pure _ _)
  · refine (maintains_get _).bind (fun _ => (write_hw_efuse_onWifi _ _).bind (fun _ => ?_))
    exact (write_hw_efuse_onWifi _ _).bind (fun _ => (words _ _ _).bind end_onWifi)
  · refine (maintains_get _).bind (fun _ => (write_hw_efuse_onWifi _ _).bind (fun _ => ?_))
    exact (words _ _ _).bind end_onWifi

theorem proc_pg_efuse_by_map_onWifi (info : HalmacPgEfuseInfo) :
    Maintains OnWifi (proc_pg_efuse_by_map_88xx info) := by
  have blocks : ∀ updated_mask offsets, Maintains OnWifi (program_blocks info updated_mask offsets) := by
    intro updated_mask offsets
    induction offsets with
    | nil => exact maintains_pure _ _
    | cons i rest ih =>
        exact (program_block_onWifi info updated_mask i).bind (fun _ => ih)
  have mask : Maintains OnWifi (update_eeprom_mask_88xx info) :=
    pltfm_malloc_onWifi.bind (fun _ => read_log_efuse_map_onWifi.bind (fun _ => maintains_pure _ _))
  refine pltfm_malloc_onWifi.bind (fun _ => mask.bind (fun updated_mask => Maintains.bind ?_ (fun _ => ?_)))
  · exact (maintains_get _).bind (fun _ => maintains_require _ _ _)
  · exact blocks updated_mask (block_offsets info)

def HalmacAdapter.cached (adapter : HalmacAdapter) : Bool × Option ByteMap × ByteMap :=
  (adapter.efuse_map_valid, adapter.efuse_map, adapter.wifi_map)

theorem Coherent.congr {before after : HalmacAdapter} (same : after.cached = before.cached)
    (coherent : Coherent before) : Coherent after := by
  simp only [HalmacAdapter.cached, Prod.mk.injEq] at same
  unfold Coherent
  rw [same.1, same.2.1, same.2.2]
  exact coherent

theorem cnv_efuse_state_cached (dest_state : CmdConstructState) :
    Keeps HalmacAdapter.cached (cnv_efuse_state_88xx dest_state) :=
  (keeps_get _).bind (fun _ => (keeps_require _ _ _).bind (fun _ =>
    (keeps_require _ _ _).bind (fun _ => (keeps_require _ _ _).bind (fun _ =>
      (keeps_require _ _ _).bind (fun _ => keeps_update (fun _ => rfl))))))

theorem switch_efuse_bank_cached (bank : Nat) : Keeps HalmacAdapter.cached (switch_efuse_bank_88xx bank) := by
  refine (cnv_efuse_state_cached _).bind (fun _ => (keeps_get _).bind (fun _ => ?_))
  refine keeps_ite (keeps_pure _ _) ?_
  refine Keeps.bind (fun _ => rfl) (fun switches => Keeps.bind (keeps_update ?_) (fun _ =>
    (keeps_get _).bind (fun _ => keeps_require _ _ _)))
  intro adapter
  cases switches <;> rfl

theorem switch_efuse_bank_ok {bank : Nat} {before after : HalmacAdapter}
    (success : switch_efuse_bank_88xx bank before = (.ok (), after)) : after.bank = bank := by
  rcases Program.bind_eq_ok.mp success with ⟨_, middle, _, success⟩
  rw [get_bind_eq_ok] at success
  by_cases same : bank = middle.bank
  · rw [if_pos same, Program.pure_apply, Prod.mk.injEq] at success
    rw [← success.2]
    exact same.symm
  · rw [if_neg same] at success
    rcases Program.bind_eq_ok.mp success with ⟨_, _, _, success⟩
    rcases Program.bind_eq_ok.mp success with ⟨_, last, _, success⟩
    rw [get_bind_eq_ok, Program.require_eq_ok, decide_eq_true_iff] at success
    rw [success.2]
    exact success.1

theorem efuse_command_coherent {α : Type} {checks : HalmacM Unit} {bank : Nat} {work : HalmacM α}
    (guards : Keeps id checks) (maintains : ∀ state, state.bank = bank -> Coherent state -> Coherent (work state).2) :
    Maintains Coherent (efuse_command checks bank work) := by
  have guarded : Maintains Coherent checks := by
    intro state coherent
    have same := guards state
    change (checks state).2 = state at same
    rw [same]
    exact coherent
  have switched : Maintains Coherent (switch_efuse_bank_88xx bank) :=
    fun state coherent => coherent.congr (switch_efuse_bank_cached bank state)
  refine guarded.bind (fun _ => switched.bind_of (fun state _ next coherent ran still => ?_))
  have finished := fun (last : HalmacAdapter) (value : α) (coherent : Coherent last) =>
    (@Maintains.bind _ _ _ _ Coherent _ _
      (fun state coherent => coherent.congr (cnv_efuse_state_cached .IDLE state))
      (fun _ => maintains_pure _ value)) last coherent
  have worked := maintains next (switch_efuse_bank_ok ran) still
  rw [Program.bind_apply]
  cases outcome : work next with
  | mk result last =>
      rw [outcome] at worked
      cases result with
      | ok value => exact finished last value worked
      | error code => exact worked

theorem alloc_or_reset_onWifi : Maintains OnWifi alloc_or_reset := by
  intro before onWifi
  rw [alloc_or_reset, bind_of_ok (Program.get_apply before)]
  cases map : before.efuse_map with
  | some efuse_map => exact onWifi
  | none =>
      have stale : before.efuse_map_valid = false := by
        rw [← Bool.not_eq_true]
        intro valid
        rw [onWifi.coherent valid] at map
        cases map
      cases allocated : before.platform.malloc before.turn <;>
        simp only [Option.isSome_none, Bool.false_eq_true, if_false, Program.bind_apply, answer, allocated,
          if_true, Program.update_apply, reset_ofld_feature_88xx, Program.stop_apply] <;>
        exact ⟨onWifi.bank, coherent_of_stale stale⟩

theorem dump_efuse_drv_onWifi : Maintains OnWifi dump_efuse_drv_88xx := by
  refine alloc_or_reset_onWifi.bind (fun _ => (maintains_get _).bind (fun _ => ?_))
  refine maintains_ite (maintains_pure _ _) ?_
  refine pltfm_malloc_onWifi.bind (fun _ => read_hw_efuse_onWifi.bind_of ?_)
  intro state map next onWifi ran still
  have kept := read_hw_efuse_keeps hardware_ignores_reads state
  rw [ran] at kept
  refine ⟨still.bank, fun _ => congrArg some ?_⟩
  change map = next.wifi_map
  rw [read_hw_efuse_ok ran, HalmacAdapter.phy_map, onWifi.bank]
  exact congrFun (congrArg (fun view => view.2.2.1) kept.symm) HALMAC_EFUSE_BANK_WIFI

theorem dump_efuse_fw_onWifi : Maintains OnWifi dump_efuse_fw_88xx := by
  refine alloc_or_reset_onWifi.bind (fun _ => (maintains_get _).bind (fun _ => ?_))
  refine maintains_ite (maintains_pure _ _) ?_
  refine @Maintains.bind _ _ _ _ _ (answer Platform.h2c_sent) _ (fun _ onWifi => onWifi.turn _) (fun sent => ?_)
  cases sent with
  | true => exact maintains_pure _ _
  | false =>
      exact Maintains.bind (maintains_update (fun _ onWifi => ⟨onWifi.bank, onWifi.coherent⟩))
        (fun _ => maintains_stop _ _)

theorem dump_command_coherent {cfg : EfuseReadCfg} {mark : HalmacAdapter -> HalmacAdapter}
    {signal : HalmacM ByteMap} (marks : MarksEvent mark) (maintains : Maintains OnWifi signal) :
    Maintains Coherent (dump_command cfg mark signal) := by
  have conv : ∀ dest_state, Maintains OnWifi (cnv_efuse_state_88xx dest_state) := by
    intro dest_state
    refine (maintains_get _).bind (fun _ => (maintains_require _ _ _).bind (fun _ => ?_))
    refine (maintains_require _ _ _).bind (fun _ => (maintains_require _ _ _).bind (fun _ => ?_))
    exact (maintains_require _ _ _).bind (fun _ =>
      maintains_update (fun _ onWifi => ⟨onWifi.bank, onWifi.coherent⟩))
  have proc : Maintains OnWifi (proc_dump_efuse_88xx cfg) := by
    refine Maintains.bind (maintains_update (fun _ onWifi => ⟨onWifi.bank, onWifi.coherent⟩))
      (fun _ => (conv _).bind (fun _ => ?_))
    cases cfg with
    | AUTO =>
        exact @Maintains.bind _ _ _ _ _ (answer Platform.h2c_pkt_readaddr_set) _ (fun _ onWifi => onWifi.turn _)
          (fun _ => (maintains_get _).bind (fun _ =>
            maintains_ite dump_efuse_drv_onWifi dump_efuse_fw_onWifi))
    | DRV => exact dump_efuse_drv_onWifi
    | FW => exact dump_efuse_fw_onWifi
  have valid : Maintains OnWifi (dump_valid_map signal) := by
    refine (maintains_get _).bind (fun _ => maintains_ite ?_ (maintains_pure _ _))
    refine Maintains.bind (maintains_update (fun _ onWifi => ⟨onWifi.bank, onWifi.coherent⟩))
      (fun _ => pltfm_malloc_onWifi.bind (fun _ => maintains.bind (fun _ => maintains_pure _ _)))
  refine Maintains.bind (maintains_ite ?_ (maintains_pure _ _)) (fun _ => ?_)
  · exact (maintains_get _).bind (fun _ => maintains_require _ _ _)
  refine Maintains.bind ?_ (fun _ => Maintains.bind (maintains_update ?_) (fun _ => ?_))
  · exact (maintains_get _).bind (fun _ => (maintains_require _ _ _).bind (fun _ =>
      maintains_require _ _ _))
  · intro adapter coherent
    rw [marks { adapter with proc_status := .IDLE }]
    exact coherent
  refine Maintains.bind_of (fun state coherent => coherent.congr (switch_efuse_bank_cached _ state)) ?_
  intro state _ next coherent ran still
  have rest : Maintains OnWifi (do
      proc_dump_efuse_88xx cfg
      let map <- dump_valid_map signal
      cnv_efuse_state_88xx .IDLE
      return map : HalmacM (Option ByteMap)) :=
    proc.bind (fun _ => valid.bind (fun _ => (conv _).bind (fun _ => maintains_pure _ _)))
  exact (rest next ⟨switch_efuse_bank_ok ran, still⟩).coherent

theorem after_coherent (adapter : HalmacAdapter) (command : EfuseCommand) (coherent : Coherent adapter) :
    Coherent (command.after adapter) := by
  have ready : ∀ {α : Type} {work : HalmacM α}, Maintains OnWifi work ->
      ∀ state : HalmacAdapter, state.bank = HALMAC_EFUSE_BANK_WIFI -> Coherent state ->
        Coherent (work state).2 :=
    fun maintains state bank coherent => (maintains state ⟨bank, coherent⟩).coherent
  cases command with
  | dump_efuse_map cfg =>
      refine dump_command_coherent marksEvent_phy ?_ adapter coherent
      exact (maintains_get _).bind (fun _ => Maintains.bind
        (maintains_update (fun _ onWifi => ⟨onWifi.bank, onWifi.coherent⟩))
        (fun _ => maintains_pure _ _))
  | dump_log_efuse_map cfg =>
      refine dump_command_coherent marksEvent_log ?_ adapter coherent
      exact parse_efuse_map_onWifi.bind (fun _ => Maintains.bind
        (maintains_update (fun _ onWifi => ⟨onWifi.bank, onWifi.coherent⟩))
        (fun _ => maintains_pure _ _))
  | read_logical_efuse offset =>
      refine efuse_command_coherent (guards_check_log offset).1 (ready ?_) adapter coherent
      exact pltfm_malloc_onWifi.bind (fun _ => read_log_efuse_map_onWifi.bind (fun _ =>
        maintains_pure _ _))
  | write_log_efuse offset value =>
      exact efuse_command_coherent (guards_check_log offset).1 (ready (proc_write_log_efuse_onWifi offset value))
        adapter coherent
  | pg_efuse_by_map info cfg =>
      exact efuse_command_coherent (guards_check_pg_efuse info).1 (ready (proc_pg_efuse_by_map_onWifi info))
        adapter coherent
  | read_efuse_bt offset bank =>
      refine efuse_command_coherent (guards_check_bt offset bank).1 (fun state _ coherent => ?_) adapter coherent
      refine coherent.congr (Keeps.bind ?_ (fun _ => keeps_pure _ _) state)
      refine (keeps_get _).bind (fun _ => keeps_ite (keeps_pure _ _) ?_)
      exact Keeps.bind (fun _ => rfl) (fun _ => (keeps_require _ _ _).bind (fun _ =>
        (keeps_get _).bind (fun _ => keeps_pure _ _)))
  | write_efuse_bt offset value bank =>
      exact efuse_command_coherent (guards_check_bt offset bank).1
        (fun state _ _ => coherent_of_stale (write_hw_efuse_stale offset value state).1) adapter coherent
  | dump_efuse_map_bt bank size =>
      refine efuse_command_coherent (guards_check_dump_bt bank size).1 (fun state _ coherent => ?_) adapter coherent
      refine coherent.congr (Keeps.bind (fun _ => rfl) (fun _ => ?_) state)
      exact (keeps_require _ _ _).bind (fun _ => (keeps_get _).bind (fun _ =>
        keeps_pure _ _))

/-- In every run of commands the cached map stays coherent. -/
theorem run_coherent (commands : List EfuseCommand) {before : HalmacAdapter} (coherent : Coherent before) :
    Coherent (Run.execute (fun adapter command => EfuseCommand.after command adapter) before commands) :=
  (Run.guarded_of_forall _ (fun _ => True) before commands (fun _ _ => trivial)).invariant
    (fun adapter command _ => after_coherent adapter command) coherent

/-- A read, which fills the copy, and a write behind it. -/
theorem run_coherent_written :
    Coherent (Run.execute (fun adapter command => EfuseCommand.after command adapter) (.blank8821c 0)
      [.read_logical_efuse 0, .write_log_efuse 0 7]) :=
  run_coherent _ (fun valid => absurd valid Bool.false_ne_true)

end Rtl8821ce
