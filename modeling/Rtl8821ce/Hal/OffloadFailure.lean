import Rtl8821ce.Hal.OffloadMatching

/-!
# Offload commands that fail

A command that could not be sent should leave its feature as if it had never been
asked.  The paths behind a failed transfer of the command do that; those behind a
failed download of the reserved page leave the feature waiting for an answer.
-/

namespace Rtl8821ce

namespace Offload

open Program (bind_of_error bind_of_ok)

variable {code : HalmacRet} {switch_en : Nat} {param : PhyParameter} {full_fifo : Bool}

/-- A request to one of the features. -/
inductive Request
  | cfg_parameter (param : PhyParameter) (full_fifo : Bool)
  | update_packet (size : Nat)
  | clear_ch_info
  | add_ch_info (extra_info : Bool)
  | ctrl_ch_switch (switch_en : Nat)
  | start_iqk
  | ctrl_pwr_tracking
  | psd

def Request.feature : Request -> HalmacFeature
  | .cfg_parameter _ _ => .CFG_PARA
  | .update_packet _ => .UPDATE_PACKET
  | .clear_ch_info | .add_ch_info _ | .ctrl_ch_switch _ => .CHANNEL_SWITCH
  | .start_iqk => .IQK
  | .ctrl_pwr_tracking => .POWER_TRACKING
  | .psd => .PSD

def Request.run (answers : Answers) : Request -> HalmacM Unit
  | .cfg_parameter param full_fifo => cfg_parameter_88xx answers param full_fifo
  | .update_packet size => update_packet_88xx answers size
  | .clear_ch_info => clear_ch_info_88xx
  | .add_ch_info extra_info => add_ch_info_88xx answers extra_info
  | .ctrl_ch_switch switch_en => ctrl_ch_switch_88xx answers switch_en
  | .start_iqk => start_iqk_88xx answers
  | .ctrl_pwr_tracking => ctrl_pwr_tracking_88xx answers
  | .psd => psd_88xx answers

/-- The tests of a request that do not look at the state of the feature. -/
def Request.Validated (answers : Answers) : Request -> Prop
  | .cfg_parameter _ _ | .ctrl_ch_switch _ => answers.fw_validate = true ∧ 4 ≤ answers.h2c_version
  | .update_packet size =>
      answers.fw_validate = true ∧ 4 ≤ answers.h2c_version ∧ size ≤ UPDATE_PKT_RSVDPG_SIZE
  | .clear_ch_info => True
  | .add_ch_info _ => answers.gen_info_sent = true
  | .start_iqk | .ctrl_pwr_tracking | .psd => answers.fw_validate = true

/-- Neither an answer nor a report of the firmware is waited for. -/
def Settled (state : HalmacFeatureState) : Prop := state.proc_status ≠ .SENDING ∧ state.proc_status ≠ .RCVD

instance (state : HalmacFeatureState) : Decidable (Settled state) := inferInstanceAs (Decidable (_ ∧ _))

/-- The tests of the state; the others fail with `BUSY_STATE` or `ERROR_STATE`. -/
def Request.StateAccepts (adapter : Adapter) (request : Request) : Prop :=
  let state := adapter.halmac_state request.feature
  match request with
  | .cfg_parameter _ _ =>
      state.proc_status ≠ .SENDING ∧ (state.cmd_cnstr_state = .IDLE ∨ state.cmd_cnstr_state = .CNSTR)
  | .clear_ch_info => state.cmd_cnstr_state ≠ .H2C_SENT
  | .add_ch_info _ => state.cmd_cnstr_state = .BUF_CLR ∨ state.cmd_cnstr_state = .CNSTR
  | .ctrl_ch_switch switch_en =>
      (switch_en ≠ 0 -> Settled state) ∧ state.cmd_cnstr_state = (if switch_en = 1 then .CNSTR else .BUF_CLR)
  | .update_packet _ | .start_iqk | .ctrl_pwr_tracking | .psd => state.proc_status ≠ .SENDING

def Request.Accepts (answers : Answers) (adapter : Adapter) (request : Request) : Prop :=
  request.Validated answers ∧ request.StateAccepts adapter

/-- The codes that `dl_rsvd_page_88xx` and `send_h2c_pkt_88xx` return. -/
structure Answers.Real (answers : Answers) : Prop where
  download : ∀ code, answers.dl_rsvd_page = some code ->
    code = .ZERO_LEN_RSVD_PACKET ∨ code = .BUSY_STATE ∨ code = .DL_RSVD_PAGE_FAIL ∨ code = .POLLING_BCN_VALID_FAIL
  send : ∀ code, answers.send_h2c_pkt = some code -> code = .H2C_SPACE_FULL ∨ code = .SEND_H2C_FAIL

/-- A later call, when no other download is under way. -/
structure Answers.Later (answers : Answers) : Prop where
  real : answers.Real
  page_free : answers.dl_rsvd_page ≠ some .BUSY_STATE

/-! ## What a failed request has to leave -/

def Refused (answer : Except HalmacRet Unit) : Prop := answer = .error .BUSY_STATE ∨ answer = .error .ERROR_STATE

def add_channels (answers : Answers) : List Bool -> HalmacM Unit
  | [] => pure ()
  | extra_info :: rest => do
      add_ch_info_88xx answers extra_info
      add_channels answers rest

/-- The same request again; a channel switch starts with its list, and switching off
with an empty one. -/
def Request.Again (answers : Answers) (program : HalmacM Unit) : Request -> Prop
  | .ctrl_ch_switch switch_en =>
      ∃ channels : List Bool, (switch_en = 1 <-> channels ≠ []) ∧
        program = (do
          clear_ch_info_88xx
          add_channels answers channels
          ctrl_ch_switch_88xx answers switch_en)
  | request => program = request.run answers

def Request.CanStart (after : Adapter) (request : Request) : Prop :=
  match request.feature with
  | .CFG_PARA => (after.halmac_state .CFG_PARA).cmd_cnstr_state = .IDLE
  | .CHANNEL_SWITCH => clear_ch_info_88xx.Succeeds after
  | _ => True

/-- The buffer of the feature is gone, or it is the one from before, of the same size. -/
def Request.BufferKept (before after : Adapter) (request : Request) : Prop :=
  match request.feature with
  | .CFG_PARA =>
      after.cfg_param_info.buf = false ∨
        (after.cfg_param_info.buf = before.cfg_param_info.buf ∧
          after.cfg_param_info.buf_size = before.cfg_param_info.buf_size)
  | .CHANNEL_SWITCH => after.ch_sw_info.buf = false ∨ after.ch_sw_info = before.ch_sw_info
  | .PSD => after.psd.data = none ∨ after.psd = before.psd
  | _ => True

/-- The feature can be used after a request that failed. -/
structure Usable (request : Request) (before after : Adapter) : Prop where
  settled : Settled (after.halmac_state request.feature)
  can_start : request.CanStart after
  buffer : request.BufferKept before after
  again : ∀ answers program, answers.Later -> request.Again answers program -> ¬ Refused (program after).1

/-- Whenever the request fails, the feature can be used.  A batch of parameters that is
under way is no failure. -/
def LeavesUsable (answers : Answers) (request : Request) (before : Adapter) : Prop :=
  ∀ code after, request.run answers before = (.error code, after) -> code ≠ .PARA_SENDING ->
    Usable request before after

/-- What `malloc_cfg_param_buf_88xx` makes of the buffer. -/
def prepared (answers : Answers) (full_fifo : Bool) (info : CfgParamInfo) : Option CfgParamInfo :=
  if info.buf then some info
  else
    let wanted := if full_fifo then answers.malloc_size else CFG_PARAM_RSVDPG_SIZE
    let wanted := if answers.rsvd_pg_size < wanted then answers.rsvd_pg_size else wanted
    (smart_malloc_88xx answers.malloc 5 wanted).map fun size => ⟨true, size, size, 0, full_fifo, 0, 0⟩

/-- The parameter completes a batch: it is the end mark, or there is no place for
another one, and there is something to send. -/
def CompletesBatch (answers : Answers) (param : PhyParameter) (info : CfgParamInfo) : Prop :=
  ¬ (CFG_PARAM_H2C_INFO_SIZE < (take_param param info).avl_buf_size - answers.txdesc_size ∧ param ≠ .END) ∧
    (take_param param info).num ≠ 0

def RoomForChannel (answers : Answers) (info : ChSwInfo) : Prop :=
  if info.buf then info.extra_info_en = false ∧ 4 ≤ info.avl_buf_size else answers.malloc 256 = true

def Request.FailsWell (answers : Answers) (adapter : Adapter) : Request -> Prop
  | .cfg_parameter param full_fifo =>
      match prepared answers full_fifo adapter.cfg_param_info with
      | none => (adapter.halmac_state .CFG_PARA).cmd_cnstr_state = .IDLE
      | some info => CompletesBatch answers param info -> answers.dl_rsvd_page = none
  | .update_packet _ => answers.dl_rsvd_page = none
  | .ctrl_ch_switch switch_en => switch_en = 0 ∨ answers.dl_rsvd_page = none
  | .add_ch_info _ =>
      Settled (adapter.halmac_state .CHANNEL_SWITCH) ∨ RoomForChannel answers adapter.ch_sw_info
  | .clear_ch_info | .start_iqk | .ctrl_pwr_tracking | .psd => True

section refusals

variable {adapter : Adapter}

theorem not_refused_ok {value : Unit} : ¬ Refused (.ok value) := by
  rintro (same | same) <;> cases same

theorem not_refused_error (busy : code ≠ .BUSY_STATE) (wrong : code ≠ .ERROR_STATE) : ¬ Refused (.error code) := by
  rintro (same | same)
  · exact busy (Except.error.inj same)
  · exact wrong (Except.error.inj same)

theorem not_refused_require {condition : Bool} {rest : Unit -> HalmacM Unit}
    (stopped : condition = false -> ¬ Refused (.error code)) (goes : condition = true -> ¬ Refused (rest () adapter).1) :
    ¬ Refused ((Program.require condition code >>= rest) adapter).1 := by
  cases holds : condition with
  | false => exact stopped holds
  | true => exact goes holds

theorem not_refused_bind {first : HalmacM Unit} {rest : Unit -> HalmacM Unit} (head : ¬ Refused (first adapter).1)
    (tail : ∀ next, first adapter = (.ok (), next) -> ¬ Refused (rest () next).1) :
    ¬ Refused ((first >>= rest) adapter).1 := by
  rw [Program.bind_apply]
  cases outcome : first adapter with
  | mk answer next =>
      cases answer with
      | ok value => exact tail next outcome
      | error code =>
          rw [outcome] at head
          exact head

end refusals

/-! ## Commands without a download -/

theorem require_bind_of {condition : Bool} (holds : condition = true) (code : HalmacRet) (rest : Unit -> HalmacM Unit)
    (adapter : Adapter) : (Program.require condition code >>= rest) adapter = rest () adapter := by
  rw [holds]
  rfl

theorem check_none_bind (rest : Unit -> HalmacM Unit) (adapter : Adapter) :
    (check none >>= rest) adapter = rest () adapter := rfl

theorem not_sending_bind_of {feature : HalmacFeature} {adapter : Adapter}
    (free : (adapter.halmac_state feature).proc_status ≠ .SENDING) (rest : Unit -> HalmacM Unit) :
    (not_sending feature >>= rest) adapter = rest () adapter := by
  unfold not_sending
  rw [Program.bind_assoc, bind_of_ok (Program.get_apply adapter), require_bind_of (decide_eq_true free)]

theorem reset_ofld_feature_state (feature : HalmacFeature) (adapter : Adapter) :
    ∃ next, reset_ofld_feature_88xx feature adapter = (.ok (), next) ∧
      (next.halmac_state feature).proc_status = .IDLE ∧
      (feature = .CFG_PARA ∨ feature = .CHANNEL_SWITCH ->
        (next.halmac_state feature).cmd_cnstr_state = .IDLE) ∧
      (next.psd = adapter.psd ∧ next.cfg_param_info = adapter.cfg_param_info ∧
        next.ch_sw_info = adapter.ch_sw_info) := by
  cases feature <;> refine ⟨_, rfl, ?_, ?_, rfl, rfl, rfl⟩ <;>
    simp [halmac_state_set_self]

theorem send_or_reset_outcome (answers : Answers) (feature : HalmacFeature) (pkt : H2cPkt) (adapter : Adapter) :
    match answers.send_h2c_pkt with
    | none => (send_or_reset answers feature pkt adapter).1 = .ok ()
    | some code =>
        ∃ next, send_or_reset answers feature pkt adapter = (.error code, next) ∧
          (next.halmac_state feature).proc_status = .IDLE ∧ next.psd = adapter.psd := by
  unfold send_or_reset
  cases sent : answers.send_h2c_pkt with
  | none =>
      dsimp only
      unfold send_h2c_pkt_88xx
      rw [sent]
      rfl
  | some code =>
      dsimp only
      rcases reset_ofld_feature_state feature adapter with ⟨next, ran, idle, _, same, _⟩
      exact ⟨next, by rw [bind_of_ok ran]; rfl, idle, same⟩

theorem Answers.Real.send_not_refused {answers : Answers} (real : answers.Real)
    (failed : answers.send_h2c_pkt = some code) : ¬ Refused (.error code) := by
  rcases real.send code failed with rfl | rfl <;> exact not_refused_error nofun nofun

theorem Answers.Later.download_not_refused {answers : Answers} (later : answers.Later)
    (failed : answers.dl_rsvd_page = some code) : ¬ Refused (.error code) := by
  rcases later.real.download code failed with rfl | rfl | rfl | rfl
  · exact not_refused_error nofun nofun
  · exact absurd failed later.page_free
  · exact not_refused_error nofun nofun
  · exact not_refused_error nofun nofun

theorem send_or_reset_not_refused {answers : Answers} (real : answers.Real) (feature : HalmacFeature) (pkt : H2cPkt)
    (adapter : Adapter) : ¬ Refused (send_or_reset answers feature pkt adapter).1 := by
  have outcome := send_or_reset_outcome answers feature pkt adapter
  cases sent : answers.send_h2c_pkt with
  | none =>
      rw [sent] at outcome
      exact outcome ▸ not_refused_ok
  | some code =>
      rw [sent] at outcome
      rcases outcome with ⟨next, ran, _⟩
      rw [ran]
      exact real.send_not_refused sent

theorem state_of_send_error {answers : Answers} {feature : HalmacFeature} {pkt : H2cPkt} {adapter next : Adapter} (failed : send_or_reset answers feature pkt adapter = (.error code, next)) :
    (next.halmac_state feature).proc_status = .IDLE ∧ next.psd = adapter.psd := by
  have outcome := send_or_reset_outcome answers feature pkt adapter
  cases sent : answers.send_h2c_pkt with
  | none =>
      rw [sent, failed] at outcome
      cases outcome
  | some other =>
      rw [sent] at outcome
      rcases outcome with ⟨after, ran, idle, same⟩
      rw [failed] at ran
      have stays : next = after := congrArg Prod.snd ran
      rw [stays]
      exact ⟨idle, same⟩

theorem number_command_ok (feature : HalmacFeature) (adapter : Adapter) :
    ∃ pkt next, number_command feature adapter = (.ok pkt, next) ∧
      (∀ other, (next.halmac_state other).proc_status = (adapter.halmac_state other).proc_status ∧
        (next.halmac_state other).cmd_cnstr_state = (adapter.halmac_state other).cmd_cnstr_state) ∧
      next.psd = adapter.psd ∧ next.cfg_param_info = adapter.cfg_param_info ∧
        next.ch_sw_info = adapter.ch_sw_info := by
  refine ⟨_, _, rfl, fun other => ?_, rfl, rfl, rfl⟩
  by_cases same : other = feature
  · subst same
    rw [halmac_state_set_self]
    exact ⟨rfl, rfl⟩
  · rw [halmac_state_set_of_ne _ _ same]
    exact ⟨rfl, rfl⟩

section plain

variable {answers : Answers} {adapter : Adapter}

theorem plain_command_sends {feature : HalmacFeature} (validated : answers.fw_validate = true)
    (free : (adapter.halmac_state feature).proc_status ≠ .SENDING) :
    ∃ pkt next, plain_command answers feature adapter = send_or_reset answers feature pkt next := by
  rcases number_command_ok feature (adapter.set feature ({ · with proc_status := .SENDING })) with ⟨pkt, next, numbered, _⟩
  refine ⟨pkt, next, ?_⟩
  unfold plain_command set_proc_status
  rw [require_bind_of validated, not_sending_bind_of free, bind_of_ok (Program.update_apply _ adapter),
    bind_of_ok numbered]

theorem psd_sends (validated : answers.fw_validate = true)
    (free : (adapter.halmac_state .PSD).proc_status ≠ .SENDING) :
    ∃ pkt, ∃ next,
      psd_88xx answers adapter = send_or_reset answers .PSD pkt next ∧ next.psd.data = none := by
  unfold psd_88xx
  rw [require_bind_of validated, not_sending_bind_of free]
  exact ⟨_, _, rfl, rfl⟩

theorem plain_command_not_refused (real : answers.Real) {feature : HalmacFeature}
    (free : (adapter.halmac_state feature).proc_status ≠ .SENDING) :
    ¬ Refused (plain_command answers feature adapter).1 := by
  by_cases validated : answers.fw_validate = true
  · rcases plain_command_sends validated free with ⟨pkt, next, sends⟩
    exact sends ▸ send_or_reset_not_refused real _ _ _
  · unfold plain_command
    rw [Bool.eq_false_iff.mpr validated]
    exact not_refused_error nofun nofun

theorem psd_not_refused (real : answers.Real) (free : (adapter.halmac_state .PSD).proc_status ≠ .SENDING) :
    ¬ Refused (psd_88xx answers adapter).1 := by
  by_cases validated : answers.fw_validate = true
  · rcases psd_sends validated free with ⟨pkt, next, sends, _⟩
    exact sends ▸ send_or_reset_not_refused real _ _ _
  · unfold psd_88xx
    rw [Bool.eq_false_iff.mpr validated]
    exact not_refused_error nofun nofun

theorem idle_settled {state : HalmacFeatureState} (idle : state.proc_status = .IDLE) : Settled state := by
  unfold Settled
  rw [idle]
  exact ⟨nofun, nofun⟩

theorem not_sending_of_idle {state : HalmacFeatureState} (idle : state.proc_status = .IDLE) :
    state.proc_status ≠ .SENDING := (idle_settled idle).1

theorem plain_command_idle {feature : HalmacFeature} {next : Adapter}
    (validated : answers.fw_validate = true) (free : (adapter.halmac_state feature).proc_status ≠ .SENDING)
    (ran : plain_command answers feature adapter = (.error code, next)) :
    (next.halmac_state feature).proc_status = .IDLE := by
  rcases plain_command_sends validated free with ⟨pkt, sent, sends⟩
  exact (state_of_send_error (sends.symm.trans ran)).1

theorem start_iqk_usable (accepted : Request.start_iqk.Accepts answers adapter) :
    LeavesUsable answers .start_iqk adapter := by
  intro code next ran _
  have idle := plain_command_idle accepted.1 accepted.2 ran
  exact ⟨idle_settled idle, True.intro, True.intro,
    fun other program later same => by
      rw [show program = start_iqk_88xx other from same]
      exact plain_command_not_refused later.real (not_sending_of_idle idle)⟩

theorem ctrl_pwr_tracking_usable (accepted : Request.ctrl_pwr_tracking.Accepts answers adapter) :
    LeavesUsable answers .ctrl_pwr_tracking adapter := by
  intro code next ran _
  have idle := plain_command_idle accepted.1 accepted.2 ran
  exact ⟨idle_settled idle, True.intro, True.intro,
    fun other program later same => by
      rw [show program = ctrl_pwr_tracking_88xx other from same]
      exact plain_command_not_refused later.real (not_sending_of_idle idle)⟩

theorem psd_usable (accepted : Request.psd.Accepts answers adapter) : LeavesUsable answers .psd adapter := by
  intro code next ran _
  rcases psd_sends accepted.1 accepted.2 with ⟨pkt, sent, sends, freed⟩
  have left := state_of_send_error (sends.symm.trans ran)
  exact ⟨idle_settled left.1, True.intro, Or.inl (left.2 ▸ freed),
    fun other program later same => by
      rw [show program = psd_88xx other from same]
      exact psd_not_refused later.real (not_sending_of_idle left.1)⟩

end plain

section update

variable {answers : Answers} {adapter : Adapter} {size : Nat}

theorem update_packet_sends (validated : (Request.update_packet size).Validated answers)
    (free : (adapter.halmac_state .UPDATE_PACKET).proc_status ≠ .SENDING) (loaded : answers.dl_rsvd_page = none) :
    ∃ pkt, ∃ next,
      update_packet_88xx answers size adapter = send_or_reset answers .UPDATE_PACKET pkt next := by
  rcases number_command_ok .UPDATE_PACKET (adapter.set .UPDATE_PACKET ({ · with proc_status := .SENDING }))
    with ⟨pkt, next, numbered, _⟩
  refine ⟨pkt, next, ?_⟩
  unfold update_packet_88xx set_proc_status
  rw [require_bind_of validated.1, require_bind_of (decide_eq_true validated.2.1),
    require_bind_of (decide_eq_true validated.2.2), not_sending_bind_of free,
    bind_of_ok (Program.update_apply _ adapter), loaded, check_none_bind, bind_of_ok numbered]

theorem update_packet_unloaded (validated : (Request.update_packet size).Validated answers)
    (free : (adapter.halmac_state .UPDATE_PACKET).proc_status ≠ .SENDING) {code : HalmacRet}
    (failed : answers.dl_rsvd_page = some code) :
    update_packet_88xx answers size adapter =
      (.error code, adapter.set .UPDATE_PACKET ({ · with proc_status := .SENDING })) := by
  unfold update_packet_88xx
  rw [require_bind_of validated.1, require_bind_of (decide_eq_true validated.2.1),
    require_bind_of (decide_eq_true validated.2.2), not_sending_bind_of free, failed]
  rfl

theorem update_packet_not_refused (later : answers.Later)
    (free : (adapter.halmac_state .UPDATE_PACKET).proc_status ≠ .SENDING) :
    ¬ Refused (update_packet_88xx answers size adapter).1 := by
  by_cases validated : (Request.update_packet size).Validated answers
  · cases loaded : answers.dl_rsvd_page with
    | none =>
        rcases update_packet_sends validated free loaded with ⟨pkt, next, sends⟩
        exact sends ▸ send_or_reset_not_refused later.real _ _ _
    | some code =>
        rw [update_packet_unloaded validated free loaded]
        exact later.download_not_refused loaded
  · unfold update_packet_88xx
    refine not_refused_require (fun _ => not_refused_error nofun nofun) (fun first => ?_)
    refine not_refused_require (fun _ => not_refused_error nofun nofun) (fun second => ?_)
    refine not_refused_require (fun _ => not_refused_error nofun nofun) (fun third => ?_)
    exact absurd ⟨first, of_decide_eq_true second, of_decide_eq_true third⟩ validated

theorem update_packet_usable_iff (real : answers.Real) (accepted : (Request.update_packet size).Accepts answers adapter) :
    LeavesUsable answers (.update_packet size) adapter <-> (Request.update_packet size).FailsWell answers adapter := by
  constructor
  · intro usable
    cases loaded : answers.dl_rsvd_page with
    | none => exact loaded
    | some code =>
        have kind : code ≠ .PARA_SENDING := by
          rcases real.download code loaded with rfl | rfl | rfl | rfl <;> nofun
        have left := usable code _ (update_packet_unloaded accepted.1 accepted.2 loaded) kind
        have settled := left.settled.1
        rw [show Request.feature (.update_packet size) = .UPDATE_PACKET from rfl, halmac_state_set_self] at settled
        exact absurd rfl settled
  · intro loaded code next ran _
    rcases update_packet_sends accepted.1 accepted.2 loaded with ⟨pkt, sent, sends⟩
    have idle := (state_of_send_error (sends.symm.trans ran)).1
    exact ⟨idle_settled idle, True.intro, True.intro,
      fun other program later same => by
        rw [show program = update_packet_88xx other size from same]
        exact update_packet_not_refused later (not_sending_of_idle idle)⟩

end update

theorem cnv_state_ok {allowed : CmdConstructState -> CmdConstructState -> Bool} {feature : HalmacFeature}
    {dest_state : CmdConstructState} {adapter : Adapter}
    (allows : allowed (adapter.halmac_state feature).cmd_cnstr_state dest_state = true) :
    ∃ next, cnv_state allowed feature dest_state adapter = (.ok (), next) ∧
      (next.halmac_state feature).cmd_cnstr_state = dest_state ∧
      (next.halmac_state feature).proc_status = (adapter.halmac_state feature).proc_status ∧
      next.cfg_param_info = adapter.cfg_param_info ∧ next.ch_sw_info = adapter.ch_sw_info := by
  unfold cnv_state
  rw [bind_of_ok (Program.get_apply adapter), require_bind_of allows]
  refine ⟨_, rfl, ?_, ?_, rfl, rfl⟩ <;> rw [halmac_state_set_self]

section scan

variable {answers : Answers} {adapter : Adapter}

theorem clear_ch_info_ok (idle : (adapter.halmac_state .CHANNEL_SWITCH).cmd_cnstr_state ≠ .H2C_SENT) :
    ∃ next, clear_ch_info_88xx adapter = (.ok (), next) ∧
      (next.halmac_state .CHANNEL_SWITCH).cmd_cnstr_state = .BUF_CLR ∧
      (next.halmac_state .CHANNEL_SWITCH).proc_status = (adapter.halmac_state .CHANNEL_SWITCH).proc_status := by
  have allows : cnv_scan_allowed (adapter.halmac_state .CHANNEL_SWITCH).cmd_cnstr_state .BUF_CLR = true := by
    cases state : (adapter.halmac_state .CHANNEL_SWITCH).cmd_cnstr_state with
    | H2C_SENT => exact absurd state idle
    | IDLE | BUSY | CNSTR | BUF_CLR => rfl
  unfold clear_ch_info_88xx
  rcases cnv_state_ok allows with ⟨next, ran, cleared, proc, _⟩
  rw [bind_of_ok (Program.get_apply adapter), require_bind_of (decide_eq_true idle), bind_of_ok ran]
  exact ⟨_, rfl, cleared, proc⟩

theorem clear_ch_info_succeeds_iff :
    clear_ch_info_88xx.Succeeds adapter <-> (adapter.halmac_state .CHANNEL_SWITCH).cmd_cnstr_state ≠ .H2C_SENT := by
  constructor
  · intro success
    unfold clear_ch_info_88xx at success
    rw [Program.succeeds_get_bind, Program.succeeds_require_bind, decide_eq_true_eq] at success
    exact success.1
  · intro idle
    rcases clear_ch_info_ok idle with ⟨next, ran, _⟩
    exact Program.succeeds_iff.mpr ⟨(), next, ran⟩

theorem add_ch_info_outcome {extra_info : Bool}
    (building : (adapter.halmac_state .CHANNEL_SWITCH).cmd_cnstr_state = .BUF_CLR ∨
      (adapter.halmac_state .CHANNEL_SWITCH).cmd_cnstr_state = .CNSTR) :
    (∃ code, add_ch_info_88xx answers extra_info adapter = (.error code, adapter) ∧
        ¬ Refused (.error code) ∧ code ≠ .PARA_SENDING ∧
        ¬ (answers.gen_info_sent = true ∧ RoomForChannel answers adapter.ch_sw_info)) ∨
      (∃ next, add_ch_info_88xx answers extra_info adapter = (.ok (), next) ∧
        (next.halmac_state .CHANNEL_SWITCH).cmd_cnstr_state = .CNSTR ∧
        (next.halmac_state .CHANNEL_SWITCH).proc_status = (adapter.halmac_state .CHANNEL_SWITCH).proc_status ∧
        (answers.gen_info_sent = true ∧ RoomForChannel answers adapter.ch_sw_info)) := by
  have added : ∀ before : Adapter, before.halmac_state = adapter.halmac_state ->
      ∃ next,
        (cnv_state cnv_scan_allowed .CHANNEL_SWITCH .CNSTR >>= fun _ =>
          Program.update (fun adapter =>
            let info := adapter.ch_sw_info
            { adapter with
              ch_sw_info := ⟨info.buf, info.avl_buf_size - 4, info.total_size + 4, extra_info, info.ch_num + 1⟩ })) before =
          ((.ok () : Except HalmacRet Unit), next) ∧
        (next.halmac_state .CHANNEL_SWITCH).cmd_cnstr_state = .CNSTR ∧
        (next.halmac_state .CHANNEL_SWITCH).proc_status = (adapter.halmac_state .CHANNEL_SWITCH).proc_status := by
    intro before same
    have allows : cnv_scan_allowed (before.halmac_state .CHANNEL_SWITCH).cmd_cnstr_state .CNSTR = true := by
      rw [same]
      rcases building with state | state <;> rw [state] <;> rfl
    rcases cnv_state_ok allows with ⟨next, ran, constructing, proc, _⟩
    rw [bind_of_ok ran]
    exact ⟨_, rfl, constructing, proc.trans (by rw [same])⟩
  unfold add_ch_info_88xx RoomForChannel
  cases sent : answers.gen_info_sent with
  | false => exact Or.inl ⟨.GEN_INFO_NOT_SENT, rfl, not_refused_error nofun nofun, nofun, fun both => nomatch both.1⟩
  | true =>
      rw [require_bind_of rfl, bind_of_ok (Program.get_apply adapter)]
      dsimp only
      rw [require_bind_of (decide_eq_true building)]
      cases buf : adapter.ch_sw_info.buf with
      | true =>
          rw [if_pos rfl, if_pos rfl, bind_of_ok (Program.pure_apply () adapter),
            bind_of_ok (Program.get_apply adapter)]
          cases extra : adapter.ch_sw_info.extra_info_en with
          | true =>
              exact Or.inl ⟨.CH_SW_SEQ_WRONG, rfl, not_refused_error nofun nofun, nofun, fun both => nomatch both.2.1⟩
          | false =>
              rw [require_bind_of (decide_eq_true rfl)]
              by_cases room : 4 ≤ adapter.ch_sw_info.avl_buf_size
              · rw [require_bind_of (decide_eq_true room)]
                rcases added adapter rfl with ⟨next, ran, left⟩
                exact Or.inr ⟨next, ran, left.1, left.2, rfl, rfl, room⟩
              · rw [decide_eq_false room]
                exact Or.inl ⟨.CH_SW_NO_BUF, rfl, not_refused_error nofun nofun, nofun, fun both => room both.2.2⟩
      | false =>
          rw [if_neg Bool.false_ne_true, if_neg Bool.false_ne_true]
          cases granted : answers.malloc 256 with
          | false => exact Or.inl ⟨.NULL_POINTER, rfl, not_refused_error nofun nofun, nofun, fun both => nomatch both.2⟩
          | true =>
              rcases added { adapter with ch_sw_info := ⟨true, SCAN_INFO_RSVDPG_SIZE, 0, false, 0⟩ } rfl
                with ⟨next, ran, left⟩
              exact Or.inr ⟨next, ran, left.1, left.2, rfl, rfl⟩

theorem add_ch_info_usable_iff {extra_info : Bool} (accepted : (Request.add_ch_info extra_info).Accepts answers adapter) :
    LeavesUsable answers (.add_ch_info extra_info) adapter <->
      (Request.add_ch_info extra_info).FailsWell answers adapter := by
  have building : (adapter.halmac_state .CHANNEL_SWITCH).cmd_cnstr_state = .BUF_CLR ∨
      (adapter.halmac_state .CHANNEL_SWITCH).cmd_cnstr_state = .CNSTR := accepted.2
  rcases @add_ch_info_outcome answers adapter extra_info building with
    ⟨code, ran, unrefused, kind, full⟩ | ⟨next, ran, _, _, room⟩
  · constructor
    · intro usable
      exact Or.inl (usable code adapter ran kind).settled
    · intro well other next again _
      rcases well with settled | room
      · rw [show next = adapter from (congrArg Prod.snd (again.symm.trans ran))]
        have ready : (adapter.halmac_state .CHANNEL_SWITCH).cmd_cnstr_state ≠ .H2C_SENT := by
          rcases building with state | state <;> rw [state] <;> nofun
        refine ⟨settled, clear_ch_info_succeeds_iff.mpr ready, Or.inr rfl, fun later program _ same => ?_⟩
        rw [show program = add_ch_info_88xx later extra_info from same]
        rcases @add_ch_info_outcome later adapter extra_info building with ⟨code, ran, unrefused, _⟩ | ⟨next, ran, _⟩
        · exact ran ▸ unrefused
        · exact ran ▸ not_refused_ok
      · exact absurd ⟨accepted.1, room⟩ full
  · exact ⟨fun _ => Or.inr room.2, fun _ code after again _ => nomatch congrArg Prod.fst (again.symm.trans ran)⟩

theorem clear_ch_info_usable (accepted : Request.clear_ch_info.Accepts answers adapter) :
    LeavesUsable answers .clear_ch_info adapter := by
  intro code next ran _
  rcases clear_ch_info_ok accepted.2 with ⟨cleared, done, _⟩
  exact nomatch congrArg Prod.fst (ran.symm.trans done)

theorem end_ctrl_ch_switch_outcome (status : Option HalmacRet)
    (past : (adapter.halmac_state .CHANNEL_SWITCH).cmd_cnstr_state = .H2C_SENT ∨
      (adapter.halmac_state .CHANNEL_SWITCH).cmd_cnstr_state = .IDLE) :
    ∃ next, end_ctrl_ch_switch status adapter = (match status with
        | none => .ok ()
        | some code => .error code, next) ∧
      (next.halmac_state .CHANNEL_SWITCH).cmd_cnstr_state = .IDLE ∧
      (next.halmac_state .CHANNEL_SWITCH).proc_status = (adapter.halmac_state .CHANNEL_SWITCH).proc_status ∧
      next.ch_sw_info.buf = false := by
  have allows : cnv_scan_allowed
      (({ adapter with ch_sw_info := ⟨false, 0, 0, false, 0⟩ } : Adapter).halmac_state .CHANNEL_SWITCH).cmd_cnstr_state
      .IDLE = true := by
    rcases past with state | state <;> rw [show ({ adapter with ch_sw_info := ⟨false, 0, 0, false, 0⟩ } : Adapter).halmac_state
      = adapter.halmac_state from rfl, state] <;> rfl
  rcases cnv_state_ok allows with ⟨next, ran, idle, proc, _, list⟩
  refine ⟨next, ?_, idle, proc, congrArg ChSwInfo.buf list⟩
  unfold end_ctrl_ch_switch clear_ch_sw_info
  rw [bind_of_ok (Program.update_apply _ adapter), bind_of_ok ran]
  cases status with
  | none => rfl
  | some code => rfl

theorem proc_ctrl_ch_switch_outcome {switch_en : Nat}
    (listed : (adapter.halmac_state .CHANNEL_SWITCH).cmd_cnstr_state = .CNSTR ∨
      (adapter.halmac_state .CHANNEL_SWITCH).cmd_cnstr_state = .BUF_CLR) :
    (∃ code next, proc_ctrl_ch_switch_88xx answers switch_en adapter = (.error code, next) ∧
        switch_en ≠ 0 ∧ answers.dl_rsvd_page = some code ∧
        (next.halmac_state .CHANNEL_SWITCH).proc_status = .SENDING) ∨
      (switch_en = 0 ∨ answers.dl_rsvd_page = none) ∧
        match answers.send_h2c_pkt with
        | none => (proc_ctrl_ch_switch_88xx answers switch_en adapter).1 = .ok ()
        | some code =>
            ∃ next, proc_ctrl_ch_switch_88xx answers switch_en adapter = (.error code, next) ∧
              (next.halmac_state .CHANNEL_SWITCH).proc_status = .IDLE ∧
              (next.halmac_state .CHANNEL_SWITCH).cmd_cnstr_state = .IDLE ∧ next.ch_sw_info.buf = false := by
  have allows : cnv_scan_allowed (adapter.halmac_state .CHANNEL_SWITCH).cmd_cnstr_state .H2C_SENT = true := by
    rcases listed with state | state <;> rw [state] <;> rfl
  rcases cnv_state_ok allows with ⟨under_way, ran, sent_state, _⟩
  have started : ∀ rest : Unit -> HalmacM Unit,
      (cnv_state cnv_scan_allowed .CHANNEL_SWITCH .H2C_SENT >>= fun _ =>
        set_proc_status .CHANNEL_SWITCH .SENDING >>= rest) adapter =
        rest () (under_way.set .CHANNEL_SWITCH ({ · with proc_status := .SENDING })) := by
    intro rest
    rw [bind_of_ok ran]
    rfl
  -- behind the download
  have behind : match answers.send_h2c_pkt with
      | none =>
          ((number_command .CHANNEL_SWITCH >>= fun pkt =>
            match answers.send_h2c_pkt with
            | none => send_h2c_pkt_88xx answers pkt >>= fun _ => end_ctrl_ch_switch none
            | some code => reset_ofld_feature_88xx .CHANNEL_SWITCH >>= fun _ => end_ctrl_ch_switch (some code))
            (under_way.set .CHANNEL_SWITCH ({ · with proc_status := .SENDING }))).1 = .ok ()
      | some code =>
          ∃ next,
            (number_command .CHANNEL_SWITCH >>= fun pkt =>
              match answers.send_h2c_pkt with
              | none => send_h2c_pkt_88xx answers pkt >>= fun _ => end_ctrl_ch_switch none
              | some code => reset_ofld_feature_88xx .CHANNEL_SWITCH >>= fun _ => end_ctrl_ch_switch (some code))
              (under_way.set .CHANNEL_SWITCH ({ · with proc_status := .SENDING })) = (.error code, next) ∧
            (next.halmac_state .CHANNEL_SWITCH).proc_status = .IDLE ∧
            (next.halmac_state .CHANNEL_SWITCH).cmd_cnstr_state = .IDLE ∧ next.ch_sw_info.buf = false := by
    rcases number_command_ok .CHANNEL_SWITCH (under_way.set .CHANNEL_SWITCH ({ · with proc_status := .SENDING }))
      with ⟨pkt, numbered, counted, states, _⟩
    have still : (numbered.halmac_state .CHANNEL_SWITCH).cmd_cnstr_state = .H2C_SENT :=
      (states .CHANNEL_SWITCH).2.trans (by rw [halmac_state_set_self]; exact sent_state)
    cases sent : answers.send_h2c_pkt with
    | none =>
        dsimp only
        rw [bind_of_ok counted]
        unfold send_h2c_pkt_88xx
        rw [sent]
        rcases end_ctrl_ch_switch_outcome none (Or.inl (show
          (({ numbered with tickets := numbered.tickets.deliver pkt.sub_cmd_id pkt.ticket } : Adapter).halmac_state
            .CHANNEL_SWITCH).cmd_cnstr_state = .H2C_SENT from still)) with ⟨next, ended, _⟩
        exact congrArg Prod.fst ended
    | some code =>
        dsimp only
        rcases reset_ofld_feature_state .CHANNEL_SWITCH numbered with ⟨reset, done, idle, construct, _⟩
        rcases end_ctrl_ch_switch_outcome (some code) (Or.inr (construct (Or.inr rfl))) with ⟨next, ended, last, proc, freed⟩
        refine ⟨next, ?_, proc.trans idle, last, freed⟩
        rw [bind_of_ok counted, bind_of_ok done]
        exact ended
  unfold proc_ctrl_ch_switch_88xx
  rw [started]
  by_cases on : switch_en = 0
  · rw [if_neg (not_not.mpr on)]
    exact Or.inr ⟨Or.inl on, behind⟩
  · rw [if_pos on]
    cases loaded : answers.dl_rsvd_page with
    | none => exact Or.inr ⟨Or.inr rfl, behind⟩
    | some code =>
        refine Or.inl ⟨code, _, rfl, on, rfl, ?_⟩
        exact congrArg HalmacFeatureState.proc_status (halmac_state_set_self under_way _ _)

theorem ctrl_ch_switch_starts (validated : (Request.ctrl_ch_switch switch_en).Validated answers)
    (accepted : (Request.ctrl_ch_switch switch_en).StateAccepts adapter) :
    ∃ next, ctrl_ch_switch_88xx answers switch_en adapter = proc_ctrl_ch_switch_88xx answers switch_en next ∧
      ((next.halmac_state .CHANNEL_SWITCH).cmd_cnstr_state = .CNSTR ∨
        (next.halmac_state .CHANNEL_SWITCH).cmd_cnstr_state = .BUF_CLR) := by
  have either : ∀ next : Adapter,
      (next.halmac_state .CHANNEL_SWITCH).cmd_cnstr_state = (adapter.halmac_state .CHANNEL_SWITCH).cmd_cnstr_state ->
        (next.halmac_state .CHANNEL_SWITCH).cmd_cnstr_state = (if switch_en = 1 then .CNSTR else .BUF_CLR) ∧
          ((next.halmac_state .CHANNEL_SWITCH).cmd_cnstr_state = .CNSTR ∨
            (next.halmac_state .CHANNEL_SWITCH).cmd_cnstr_state = .BUF_CLR) := by
    intro next same
    have kind : (next.halmac_state .CHANNEL_SWITCH).cmd_cnstr_state = (if switch_en = 1 then .CNSTR else .BUF_CLR) :=
      same.trans accepted.2
    refine ⟨kind, ?_⟩
    by_cases one : switch_en = 1
    · exact Or.inl (kind.trans (if_pos one))
    · exact Or.inr (kind.trans (if_neg one))
  unfold ctrl_ch_switch_88xx
  rw [require_bind_of validated.1, require_bind_of (decide_eq_true validated.2)]
  by_cases off : switch_en = 0
  · have kind := either (adapter.set .CHANNEL_SWITCH ({ · with proc_status := .IDLE })) (by rw [halmac_state_set_self])
    have settled : Settled ((adapter.set .CHANNEL_SWITCH ({ · with proc_status := .IDLE })).halmac_state .CHANNEL_SWITCH) :=
      idle_settled (by rw [halmac_state_set_self])
    refine ⟨adapter.set .CHANNEL_SWITCH ({ · with proc_status := .IDLE }), ?_, kind.2⟩
    rw [if_pos off]
    unfold set_proc_status
    rw [bind_of_ok (Program.update_apply _ adapter), bind_of_ok (Program.get_apply _)]
    exact (require_bind_of (decide_eq_true settled) _ _ _).trans (require_bind_of (decide_eq_true kind.1) _ _ _)
  · have settled : Settled (adapter.halmac_state .CHANNEL_SWITCH) := accepted.1 off
    refine ⟨adapter, ?_, (either adapter rfl).2⟩
    rw [if_neg off, bind_of_ok (Program.pure_apply () adapter), bind_of_ok (Program.get_apply _)]
    exact (require_bind_of (decide_eq_true settled) _ _ _).trans
      (require_bind_of (decide_eq_true (either adapter rfl).1) _ _ _)

theorem ctrl_ch_switch_not_refused (later : answers.Later)
    (accepted : (Request.ctrl_ch_switch switch_en).StateAccepts adapter) :
    ¬ Refused (ctrl_ch_switch_88xx answers switch_en adapter).1 := by
  by_cases validated : (Request.ctrl_ch_switch switch_en).Validated answers
  · rcases ctrl_ch_switch_starts validated accepted with ⟨next, starts, listed⟩
    rw [starts]
    rcases proc_ctrl_ch_switch_outcome listed with ⟨code, left, ran, _, loaded, _⟩ | ⟨_, outcome⟩
    · exact ran ▸ later.download_not_refused loaded
    · cases sent : answers.send_h2c_pkt with
      | none =>
          rw [sent] at outcome
          exact outcome ▸ not_refused_ok
      | some code =>
          rw [sent] at outcome
          rcases outcome with ⟨left, ran, _⟩
          exact ran ▸ later.real.send_not_refused sent
  · unfold ctrl_ch_switch_88xx
    refine not_refused_require (fun _ => not_refused_error nofun nofun) (fun first => ?_)
    refine not_refused_require (fun _ => not_refused_error nofun nofun) (fun second => ?_)
    exact absurd ⟨first, of_decide_eq_true second⟩ validated

theorem add_channels_outcome {channels : List Bool}
    (building : (adapter.halmac_state .CHANNEL_SWITCH).cmd_cnstr_state = .BUF_CLR ∨
      (adapter.halmac_state .CHANNEL_SWITCH).cmd_cnstr_state = .CNSTR) :
    ¬ Refused (add_channels answers channels adapter).1 ∧
      ∀ next, add_channels answers channels adapter = (.ok (), next) ->
        (next.halmac_state .CHANNEL_SWITCH).proc_status = (adapter.halmac_state .CHANNEL_SWITCH).proc_status ∧
          (next.halmac_state .CHANNEL_SWITCH).cmd_cnstr_state =
            (if channels = [] then (adapter.halmac_state .CHANNEL_SWITCH).cmd_cnstr_state else .CNSTR) := by
  induction channels generalizing adapter with
  | nil =>
      refine ⟨not_refused_ok, fun next ran => ?_⟩
      rw [show next = adapter from (congrArg Prod.snd ran).symm, if_pos rfl]
      exact ⟨rfl, rfl⟩
  | cons extra_info rest ih =>
      unfold add_channels
      rcases @add_ch_info_outcome answers adapter extra_info building with
        ⟨code, ran, unrefused, _⟩ | ⟨added, ran, constructing, proc, _⟩
      · rw [bind_of_error ran]
        exact ⟨unrefused, fun next impossible => nomatch congrArg Prod.fst impossible⟩
      · rw [bind_of_ok ran]
        have tail := @ih added (Or.inr constructing)
        refine ⟨tail.1, fun next onward => ?_⟩
        rcases tail.2 next onward with ⟨same, state⟩
        refine ⟨same.trans proc, ?_⟩
        rw [if_neg (List.cons_ne_nil _ _), state]
        split
        · exact constructing
        · rfl

theorem switch_again_not_refused (later : answers.Later) (settled : Settled (adapter.halmac_state .CHANNEL_SWITCH))
    (ready : (adapter.halmac_state .CHANNEL_SWITCH).cmd_cnstr_state ≠ .H2C_SENT) {channels : List Bool}
    (listed : switch_en = 1 <-> channels ≠ []) :
    ¬ Refused ((do
      clear_ch_info_88xx
      add_channels answers channels
      ctrl_ch_switch_88xx answers switch_en : HalmacM Unit) adapter).1 := by
  rcases clear_ch_info_ok ready with ⟨cleared, ran, buf_clr, proc⟩
  rw [bind_of_ok ran]
  have adding := @add_channels_outcome answers cleared channels (Or.inl buf_clr)
  refine not_refused_bind adding.1 (fun next onward => ctrl_ch_switch_not_refused later ?_)
  rcases adding.2 next onward with ⟨same, state⟩
  refine ⟨fun _ => ?_, ?_⟩
  · change Settled (next.halmac_state .CHANNEL_SWITCH)
    unfold Settled at *
    rw [same, proc]
    exact settled
  · change (next.halmac_state .CHANNEL_SWITCH).cmd_cnstr_state = _
    rw [state, buf_clr]
    by_cases one : switch_en = 1
    · rw [if_pos one, if_neg (listed.mp one)]
    · rw [if_neg one, if_pos (not_not.mp (fun some_ => one (listed.mpr some_)))]

theorem ctrl_ch_switch_usable_iff (real : answers.Real)
    (accepted : (Request.ctrl_ch_switch switch_en).Accepts answers adapter) :
    LeavesUsable answers (.ctrl_ch_switch switch_en) adapter <->
      (Request.ctrl_ch_switch switch_en).FailsWell answers adapter := by
  rcases ctrl_ch_switch_starts accepted.1 accepted.2 with ⟨next, starts, listed⟩
  rcases @proc_ctrl_ch_switch_outcome answers next switch_en listed with ⟨code, left, ran, on, loaded, sending⟩ | ⟨well, outcome⟩
  · refine ⟨fun usable => ?_, fun well => ?_⟩
    · have kind : code ≠ .PARA_SENDING := by
        rcases real.download code loaded with rfl | rfl | rfl | rfl <;> nofun
      exact absurd sending (usable code left (starts.trans ran) kind).settled.1
    · rcases well with off | none_
      · exact absurd off on
      · rw [loaded] at none_
        cases none_
  · refine ⟨fun _ => well, fun _ code after failed _ => ?_⟩
    have ran : proc_ctrl_ch_switch_88xx answers switch_en next = (.error code, after) := starts.symm.trans failed
    cases sent : answers.send_h2c_pkt with
    | none =>
        rw [sent, ran] at outcome
        cases outcome
    | some other =>
        rw [sent] at outcome
        rcases outcome with ⟨left, same, idle, construct, freed⟩
        have stays : after = left := congrArg Prod.snd (ran.symm.trans same)
        rw [stays]
        have ready : (left.halmac_state .CHANNEL_SWITCH).cmd_cnstr_state ≠ .H2C_SENT := by
          rw [construct]
          nofun
        refine ⟨idle_settled idle, clear_ch_info_succeeds_iff.mpr ready, Or.inl freed, fun others program later again => ?_⟩
        rcases again with ⟨channels, listed, rfl⟩
        exact switch_again_not_refused later (idle_settled idle) ready listed

end scan

/-! ## Parameters -/

section params

variable {answers : Answers} {adapter : Adapter}

theorem malloc_cfg_param_buf_outcome (full_fifo : Bool) :
    match prepared answers full_fifo adapter.cfg_param_info with
    | none =>
        ∃ next, malloc_cfg_param_buf_88xx answers full_fifo adapter = (.error .MALLOC_FAIL, next) ∧
          next.halmac_state = adapter.halmac_state ∧ next.cfg_param_info.buf = false
    | some info =>
        malloc_cfg_param_buf_88xx answers full_fifo adapter = (.ok (), { adapter with cfg_param_info := info }) := by
  unfold prepared malloc_cfg_param_buf_88xx
  rw [bind_of_ok (Program.get_apply adapter)]
  cases buf : adapter.cfg_param_info.buf with
  | true => rfl
  | false =>
      rw [if_neg Bool.false_ne_true, if_neg Bool.false_ne_true]
      dsimp only
      generalize (if answers.rsvd_pg_size < (if full_fifo = true then answers.malloc_size else CFG_PARAM_RSVDPG_SIZE)
        then answers.rsvd_pg_size else if full_fifo = true then answers.malloc_size else CFG_PARAM_RSVDPG_SIZE) = wanted
      cases smart_malloc_88xx answers.malloc 5 wanted with
      | none => exact ⟨_, rfl, rfl, buf⟩
      | some size => rfl

theorem or_free_of_ok {program : HalmacM Unit} {next : Adapter} (ran : program adapter = (.ok (), next)) :
    or_free program adapter = (.ok (), next) := by
  unfold or_free
  rw [ran]

theorem or_free_of_error {program : HalmacM Unit} {next : Adapter} (ran : program adapter = (.error code, next)) :
    or_free program adapter =
      (.error code, { next with cfg_param_info := { next.cfg_param_info with buf := false } }) := by
  unfold or_free
  rw [ran]
  rfl

theorem end_cfg_param_h2c_outcome (status : Option HalmacRet)
    (past : (adapter.halmac_state .CFG_PARA).cmd_cnstr_state = .H2C_SENT ∨
      (adapter.halmac_state .CFG_PARA).cmd_cnstr_state = .IDLE) :
    ∃ next, end_cfg_param_h2c status adapter = (match status with
        | none => .ok ()
        | some code => .error code, next) ∧
      (next.halmac_state .CFG_PARA).cmd_cnstr_state = .IDLE ∧
      (next.halmac_state .CFG_PARA).proc_status = (adapter.halmac_state .CFG_PARA).proc_status ∧
      next.cfg_param_info = { adapter.cfg_param_info with buf := false } := by
  have allows : cnv_cfg_param_allowed
      (({ adapter with cfg_param_info := { adapter.cfg_param_info with buf := false } } : Adapter).halmac_state
        .CFG_PARA).cmd_cnstr_state .IDLE = true := by
    rcases past with state | state <;>
      rw [show ({ adapter with cfg_param_info := { adapter.cfg_param_info with buf := false } } : Adapter).halmac_state =
        adapter.halmac_state from rfl, state] <;> rfl
  rcases cnv_state_ok allows with ⟨next, ran, idle, proc, freed, _⟩
  refine ⟨next, ?_, idle, proc, freed⟩
  unfold end_cfg_param_h2c free_cfg_param_buf
  rw [bind_of_ok (Program.update_apply _ adapter), bind_of_ok ran]
  cases status with
  | none => rfl
  | some code => rfl

theorem send_cfg_param_h2c_outcome (constructing : (adapter.halmac_state .CFG_PARA).cmd_cnstr_state = .CNSTR) :
    match answers.dl_rsvd_page with
    | some code =>
        ∃ next, send_cfg_param_h2c_88xx answers adapter = (.error code, next) ∧
          (next.halmac_state .CFG_PARA).proc_status = .SENDING
    | none =>
        match answers.send_h2c_pkt with
        | none => ∃ next, send_cfg_param_h2c_88xx answers adapter = (.ok (), next)
        | some code =>
            ∃ next, send_cfg_param_h2c_88xx answers adapter = (.error code, next) ∧
              (next.halmac_state .CFG_PARA).proc_status = .IDLE ∧
              (next.halmac_state .CFG_PARA).cmd_cnstr_state = .IDLE := by
  have allows : cnv_cfg_param_allowed (adapter.halmac_state .CFG_PARA).cmd_cnstr_state .H2C_SENT = true := by
    rw [constructing]
    rfl
  rcases cnv_state_ok allows with ⟨under_way, ran, sent_state, _⟩
  have waiting : ((under_way.set .CFG_PARA ({ · with proc_status := .SENDING })).halmac_state .CFG_PARA).cmd_cnstr_state =
      .H2C_SENT := by
    rw [halmac_state_set_self]
    exact sent_state
  unfold send_cfg_param_h2c_88xx set_proc_status
  rw [bind_of_ok ran, bind_of_ok (Program.update_apply _ under_way)]
  cases loaded : answers.dl_rsvd_page with
  | some code =>
      dsimp only
      rcases end_cfg_param_h2c_outcome (some code) (Or.inl waiting) with ⟨next, ended, _, proc, _⟩
      exact ⟨next, ended, proc.trans (by rw [halmac_state_set_self])⟩
  | none =>
      dsimp only
      rcases number_command_ok .CFG_PARA (under_way.set .CFG_PARA ({ · with proc_status := .SENDING }))
        with ⟨pkt, numbered, counted, states, _⟩
      rw [bind_of_ok counted]
      cases sent : answers.send_h2c_pkt with
      | none =>
          dsimp only
          unfold send_h2c_pkt_88xx
          rw [sent]
          rcases end_cfg_param_h2c_outcome none (Or.inl (show
            (({ numbered with tickets := numbered.tickets.deliver pkt.sub_cmd_id pkt.ticket } : Adapter).halmac_state
              .CFG_PARA).cmd_cnstr_state = .H2C_SENT from (states .CFG_PARA).2.trans waiting)) with ⟨next, ended, _⟩
          exact ⟨next, ended⟩
      | some code =>
          dsimp only
          rcases reset_ofld_feature_state .CFG_PARA numbered with ⟨reset, done, idle, construct, _⟩
          rcases end_cfg_param_h2c_outcome (some code) (Or.inr (construct (Or.inl rfl))) with ⟨next, ended, last, proc, _⟩
          rw [bind_of_ok done]
          exact ⟨next, ended, proc.trans idle, last⟩

/-- How the handling of a parameter ends, once there is a buffer. -/
structure ParamOutcome (answers : Answers) (param : PhyParameter) (info : CfgParamInfo)
    (outcome : Except HalmacRet Unit × Adapter) : Prop where
  kept : ¬ CompletesBatch answers param info -> outcome.1 = .ok ()
  unloaded : CompletesBatch answers param info -> ∀ code, answers.dl_rsvd_page = some code ->
    outcome.1 = .error code ∧ (outcome.2.halmac_state .CFG_PARA).proc_status = .SENDING
  unsent : CompletesBatch answers param info -> answers.dl_rsvd_page = none -> ∀ code,
    answers.send_h2c_pkt = some code ->
      outcome.1 = .error code ∧ (outcome.2.halmac_state .CFG_PARA).proc_status = .IDLE ∧
        (outcome.2.halmac_state .CFG_PARA).cmd_cnstr_state = .IDLE ∧ outcome.2.cfg_param_info.buf = false
  sent : CompletesBatch answers param info -> answers.dl_rsvd_page = none -> answers.send_h2c_pkt = none ->
    outcome.1 = .ok () ∨ outcome.1 = .error .PARA_SENDING

theorem proc_cfg_param_outcome {param : PhyParameter} {full_fifo : Bool} {info : CfgParamInfo}
    (building : (adapter.halmac_state .CFG_PARA).cmd_cnstr_state = .IDLE ∨
      (adapter.halmac_state .CFG_PARA).cmd_cnstr_state = .CNSTR)
    (buffered : prepared answers full_fifo adapter.cfg_param_info = some info) :
    ParamOutcome answers param info (proc_cfg_param_88xx answers param full_fifo adapter) := by
  have mallocs := @malloc_cfg_param_buf_outcome answers adapter full_fifo
  rw [buffered] at mallocs
  have allows : cnv_cfg_param_allowed
      (({ adapter with cfg_param_info := info } : Adapter).halmac_state .CFG_PARA).cmd_cnstr_state .CNSTR = true := by
    rcases building with state | state <;>
      rw [show ({ adapter with cfg_param_info := info } : Adapter).halmac_state = adapter.halmac_state from rfl, state] <;>
      rfl
  rcases cnv_state_ok allows with ⟨next, ran, constructing, _, same, _⟩
  unfold proc_cfg_param_88xx
  rw [bind_of_ok mallocs, bind_of_ok (or_free_of_ok ran), bind_of_ok (Program.update_apply _ next),
    bind_of_ok (Program.get_apply _)]
  dsimp only
  rw [same]
  have known : ({ adapter with cfg_param_info := info } : Adapter).cfg_param_info = info := rfl
  rw [known]
  by_cases room : CFG_PARAM_H2C_INFO_SIZE < (take_param param info).avl_buf_size - answers.txdesc_size ∧ param ≠ .END
  · rw [if_pos room]
    have waits : ¬ CompletesBatch answers param info := fun completes => completes.1 room
    exact ⟨fun _ => rfl, fun is => absurd is waits, fun is => absurd is waits, fun is => absurd is waits⟩
  · rw [if_neg room]
    by_cases empty : (take_param param info).num = 0
    · rw [if_pos empty]
      have waits : ¬ CompletesBatch answers param info := fun completes => completes.2 empty
      exact ⟨fun _ => rfl, fun is => absurd is waits, fun is => absurd is waits, fun is => absurd is waits⟩
    · rw [if_neg empty]
      have completes : CompletesBatch answers param info := ⟨room, empty⟩
      have sends := @send_cfg_param_h2c_outcome answers { next with cfg_param_info := take_param param info } constructing
      refine ⟨fun waits => absurd completes waits, fun _ code loaded => ?_, fun _ loaded code unsent => ?_,
        fun _ loaded sent => ?_⟩
      · rw [loaded] at sends
        rcases sends with ⟨left, ended, sending⟩
        rw [bind_of_error (or_free_of_error ended)]
        exact ⟨rfl, sending⟩
      · rw [loaded, unsent] at sends
        rcases sends with ⟨left, ended, idle, construct⟩
        rw [bind_of_error (or_free_of_error ended)]
        exact ⟨rfl, idle, construct, rfl⟩
      · rw [loaded, sent] at sends
        rcases sends with ⟨left, ended⟩
        rw [bind_of_ok (or_free_of_ok ended)]
        by_cases last : param = .END
        · rw [decide_eq_true last]
          exact Or.inl rfl
        · rw [decide_eq_false last]
          exact Or.inr rfl

theorem cfg_parameter_starts (validated : (Request.cfg_parameter param full_fifo).Validated answers)
    (accepted : (Request.cfg_parameter param full_fifo).StateAccepts adapter) :
    cfg_parameter_88xx answers param full_fifo adapter =
      proc_cfg_param_88xx answers param full_fifo (adapter.set .CFG_PARA ({ · with proc_status := .IDLE })) := by
  have free : (adapter.halmac_state .CFG_PARA).proc_status ≠ .SENDING := accepted.1
  unfold cfg_parameter_88xx
  rw [require_bind_of validated.1, require_bind_of (decide_eq_true validated.2), not_sending_bind_of free,
    bind_of_ok (Program.get_apply adapter)]
  exact require_bind_of (decide_eq_true accepted.2) _ _ _

theorem proc_cfg_param_unbuffered {param : PhyParameter} {full_fifo : Bool}
    (unbuffered : prepared answers full_fifo adapter.cfg_param_info = none) :
    ∃ next, proc_cfg_param_88xx answers param full_fifo adapter = (.error .MALLOC_FAIL, next) ∧
      next.halmac_state = adapter.halmac_state ∧ next.cfg_param_info.buf = false := by
  have mallocs := @malloc_cfg_param_buf_outcome answers adapter full_fifo
  rw [unbuffered] at mallocs
  rcases mallocs with ⟨next, failed, same, none_⟩
  refine ⟨next, ?_, same, none_⟩
  unfold proc_cfg_param_88xx
  exact bind_of_error failed

theorem cfg_parameter_not_refused (later : answers.Later)
    (accepted : (Request.cfg_parameter param full_fifo).StateAccepts adapter) :
    ¬ Refused (cfg_parameter_88xx answers param full_fifo adapter).1 := by
  by_cases validated : (Request.cfg_parameter param full_fifo).Validated answers
  · rw [cfg_parameter_starts validated accepted]
    cases buffered : prepared answers full_fifo
        (adapter.set .CFG_PARA ({ · with proc_status := .IDLE })).cfg_param_info with
    | none =>
        rcases @proc_cfg_param_unbuffered answers _ param _ buffered with ⟨next, ran, _⟩
        exact ran ▸ not_refused_error nofun nofun
    | some info =>
        have building : ((adapter.set .CFG_PARA ({ · with proc_status := .IDLE })).halmac_state .CFG_PARA).cmd_cnstr_state =
              .IDLE ∨
            ((adapter.set .CFG_PARA ({ · with proc_status := .IDLE })).halmac_state .CFG_PARA).cmd_cnstr_state = .CNSTR := by
          rw [halmac_state_set_self]
          exact accepted.2
        have outcome := @proc_cfg_param_outcome answers _ param full_fifo info building buffered
        by_cases completes : CompletesBatch answers param info
        · cases loaded : answers.dl_rsvd_page with
          | some code => exact (outcome.unloaded completes code loaded).1 ▸ later.download_not_refused loaded
          | none =>
              cases sent : answers.send_h2c_pkt with
              | some code => exact (outcome.unsent completes loaded code sent).1 ▸ later.real.send_not_refused sent
              | none =>
                  rcases outcome.sent completes loaded sent with fine | sending
                  · exact fine ▸ not_refused_ok
                  · exact sending ▸ not_refused_error nofun nofun
        · exact outcome.kept completes ▸ not_refused_ok
  · unfold cfg_parameter_88xx
    refine not_refused_require (fun _ => not_refused_error nofun nofun) (fun first => ?_)
    refine not_refused_require (fun _ => not_refused_error nofun nofun) (fun second => ?_)
    exact absurd ⟨first, of_decide_eq_true second⟩ validated

theorem cfg_parameter_usable_iff (real : answers.Real)
    (accepted : (Request.cfg_parameter param full_fifo).Accepts answers adapter) :
    LeavesUsable answers (.cfg_parameter param full_fifo) adapter <->
      (Request.cfg_parameter param full_fifo).FailsWell answers adapter := by
  have starts := cfg_parameter_starts accepted.1 accepted.2
  have info_same : (adapter.set .CFG_PARA ({ · with proc_status := .IDLE })).cfg_param_info = adapter.cfg_param_info := rfl
  -- what is left to show for an error that leaves both states idle and no buffer
  have usable_of : ∀ after : Adapter, (after.halmac_state .CFG_PARA).proc_status = .IDLE ->
      (after.halmac_state .CFG_PARA).cmd_cnstr_state = .IDLE -> after.cfg_param_info.buf = false ->
      Usable (.cfg_parameter param full_fifo) adapter after := by
    intro after idle construct freed
    refine ⟨idle_settled idle, construct, Or.inl freed, fun others program later again => ?_⟩
    rw [show program = cfg_parameter_88xx others param full_fifo from again]
    exact cfg_parameter_not_refused later ⟨not_sending_of_idle idle, Or.inl construct⟩
  change _ <->
    (match prepared answers full_fifo adapter.cfg_param_info with
      | none => (adapter.halmac_state .CFG_PARA).cmd_cnstr_state = .IDLE
      | some info => CompletesBatch answers param info -> answers.dl_rsvd_page = none)
  cases buffered : prepared answers full_fifo adapter.cfg_param_info with
  | none =>
      rcases @proc_cfg_param_unbuffered answers (adapter.set .CFG_PARA ({ · with proc_status := .IDLE })) param full_fifo
        buffered with ⟨left, ran, same, none_⟩
      have states : left.halmac_state .CFG_PARA =
          { adapter.halmac_state .CFG_PARA with proc_status := .IDLE } := by
        rw [same, halmac_state_set_self]
      constructor
      · intro usable
        have start : (left.halmac_state .CFG_PARA).cmd_cnstr_state = .IDLE :=
          (usable .MALLOC_FAIL left (starts.trans ran) nofun).can_start
        rw [states] at start
        exact start
      · intro idle code after failed _
        rw [show after = left from congrArg Prod.snd (failed.symm.trans (starts.trans ran))]
        exact usable_of left (by rw [states]) (by rw [states]; exact idle) none_
  | some info =>
      have building : ((adapter.set .CFG_PARA ({ · with proc_status := .IDLE })).halmac_state .CFG_PARA).cmd_cnstr_state =
            .IDLE ∨
          ((adapter.set .CFG_PARA ({ · with proc_status := .IDLE })).halmac_state .CFG_PARA).cmd_cnstr_state = .CNSTR := by
        rw [halmac_state_set_self]
        exact accepted.2.2
      have outcome := @proc_cfg_param_outcome answers _ param full_fifo info building (info_same ▸ buffered)
      rw [← starts] at outcome
      constructor
      · intro usable completes
        cases loaded : answers.dl_rsvd_page with
        | none => rfl
        | some code =>
            have kind : code ≠ .PARA_SENDING := by
              rcases real.download code loaded with rfl | rfl | rfl | rfl <;> nofun
            have failed := outcome.unloaded completes code loaded
            exact absurd failed.2 (usable code _ (Prod.ext failed.1 rfl) kind).settled.1
      · intro well code after failed kind
        rw [show (cfg_parameter_88xx answers param full_fifo adapter) = (.error code, after) from failed] at outcome
        by_cases completes : CompletesBatch answers param info
        · have loaded := well completes
          cases sent : answers.send_h2c_pkt with
          | none =>
              rcases outcome.sent completes loaded sent with fine | sending
              · cases fine
              · exact absurd (Except.error.inj sending) kind
          | some other =>
              rcases outcome.unsent completes loaded other sent with ⟨_, idle, construct, freed⟩
              exact usable_of after idle construct freed
        · cases outcome.kept completes

end params

/-- An accepted request leaves its feature usable whenever it fails, exactly under these
conditions. -/
theorem failed_request_usable_iff (answers : Answers) (real : answers.Real) (request : Request) (adapter : Adapter)
    (accepted : request.Accepts answers adapter) :
    LeavesUsable answers request adapter <-> request.FailsWell answers adapter := by
  cases request with
  | cfg_parameter param full_fifo => exact cfg_parameter_usable_iff real accepted
  | update_packet size => exact update_packet_usable_iff real accepted
  | clear_ch_info => exact iff_of_true (clear_ch_info_usable accepted) True.intro
  | add_ch_info extra_info => exact add_ch_info_usable_iff accepted
  | ctrl_ch_switch switch_en => exact ctrl_ch_switch_usable_iff real accepted
  | start_iqk => exact iff_of_true (start_iqk_usable accepted) True.intro
  | ctrl_pwr_tracking => exact iff_of_true (ctrl_pwr_tracking_usable accepted) True.intro
  | psd => exact iff_of_true (psd_usable accepted) True.intro

theorem Answers.granted_real : Answers.granted.Real := ⟨nofun, nofun⟩

def Answers.unloaded : Answers := { Answers.granted with dl_rsvd_page := some .DL_RSVD_PAGE_FAIL }

theorem failed_request_usable_iff_update :
    LeavesUsable Answers.granted (.update_packet 100) Adapter.init <->
      (Request.update_packet 100).FailsWell Answers.granted Adapter.init :=
  failed_request_usable_iff Answers.granted Answers.granted_real (.update_packet 100) Adapter.init
    ⟨⟨rfl, by decide, by decide⟩, not_sending_of_idle rfl⟩

/-- After one failed download a packet can never be updated again. -/
theorem update_packet_stuck :
    (Request.update_packet 100).Accepts Answers.unloaded Adapter.init ∧
      (update_packet_88xx Answers.unloaded 100 Adapter.init).1 = .error .DL_RSVD_PAGE_FAIL ∧
      (update_packet_88xx Answers.granted 100 (update_packet_88xx Answers.unloaded 100 Adapter.init).2).1 =
        .error .BUSY_STATE ∧
      ¬ LeavesUsable Answers.unloaded (.update_packet 100) Adapter.init := by
  have accepted : (Request.update_packet 100).Accepts Answers.unloaded Adapter.init :=
    ⟨⟨rfl, by decide, by decide⟩, not_sending_of_idle rfl⟩
  have ran := @update_packet_unloaded Answers.unloaded Adapter.init 100 accepted.1 accepted.2 _ rfl
  refine ⟨accepted, congrArg Prod.fst ran, by rw [ran]; rfl, fun usable => ?_⟩
  have settled := (usable _ _ ran nofun).settled.1
  rw [show Request.feature (.update_packet 100) = .UPDATE_PACKET from rfl, halmac_state_set_self] at settled
  exact settled rfl

end Offload

end Rtl8821ce
