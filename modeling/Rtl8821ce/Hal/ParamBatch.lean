import Rtl8821ce.Hal.OffloadFailure
import Rtl8821ce.Hal.ParamRecord

/-!
# Batches of parameters

The parameters are collected in a buffer and sent in batches.  The state is the adapter
with the bytes of the buffer, the batches that were sent and the sums that were compared
with the firmware's.
-/

namespace Rtl8821ce

namespace Offload

open Program (bind_of_ok)

variable {first second : Batching}

/-- A batch as it was sent: the page it was downloaded to, its bytes and its command. -/
structure Batch where
  pg_addr : UInt16
  bytes : List UInt8
  h2c_buf : ByteMap

/-- The adapter and the buffer.  `outside` records a write behind the end of the buffer;
`compared` has the sums that an acknowledgement was compared with, oldest first. -/
structure Batching where
  adapter : Adapter
  cells : ByteMap
  buf_wptr : Nat
  outside : Bool
  batches : List Batch
  compared : List (UInt32 × UInt32)

/-- `struct halmac_txff_allocation`: where the pages of the batches are. -/
structure TxffAllocation where
  rsvd_h2c_info_addr : UInt16
  rsvd_boundary : UInt16

namespace Batching

abbrev BatchingM (α : Type) : Type := Program Batching HalmacRet α

def onAdapter {α : Type} (program : HalmacM α) : BatchingM α :=
  Program.onPart Batching.adapter (fun adapter state => { state with adapter }) program

def CFG_PARAM_GET_NUM (h2c_pkt : ByteMap) : Nat := LE_BITS_TO_4BYTE h2c_pkt 0x08 0 16

def CFG_PARAM_SET_NUM (h2c_pkt : ByteMap) (value : Nat) : ByteMap := SET_BITS_TO_LE_4BYTE h2c_pkt 0x08 0 16 value

def CFG_PARAM_SET_INIT_CASE (h2c_pkt : ByteMap) (value : Nat) : ByteMap :=
  SET_BITS_TO_LE_4BYTE h2c_pkt 0x08 16 1 value

def CFG_PARAM_SET_LOC (h2c_pkt : ByteMap) (value : Nat) : ByteMap := SET_BITS_TO_LE_4BYTE h2c_pkt 0x08 24 8 value

/-- `PLTFM_MEMSET` of a new buffer. -/
def cleared (state : Batching) : Batching :=
  { state with
    cells := Memory.write state.cells 0 (List.replicate state.adapter.cfg_param_info.buf_size.toNat 0)
    buf_wptr := 0 }

def malloc_cfg_param_buf_88xx (answers : Answers) (full_fifo : Bool) : BatchingM Unit := do
  let adapter <- onAdapter Program.get
  onAdapter (Offload.malloc_cfg_param_buf_88xx answers full_fifo)
  Program.update (fun state => if adapter.cfg_param_info.buf then state else state.cleared)

def add_param_buf_88xx (param : Parameter) (state : Batching) : Batching :=
  { state with
    cells := param.write state.cells state.buf_wptr
    outside := state.outside || decide (state.adapter.cfg_param_info.buf_size.toNat < state.buf_wptr + param.extent) }

def take_param (param : Parameter) (state : Batching) : Batching :=
  let state := add_param_buf_88xx param state
  { state with
    adapter :=
      { state.adapter with cfg_param_info := Offload.take_param param.accounted state.adapter.cfg_param_info }
    buf_wptr := if param = .END then state.buf_wptr else state.buf_wptr + CFG_PARAM_H2C_INFO_SIZE.toNat }

def gen_cfg_param_h2c_88xx (txff_alloc : TxffAllocation) (info : CfgParamInfo) (buff : ByteMap) : ByteMap :=
  let buff := CFG_PARAM_SET_NUM buff info.num
  if info.full_fifo_mode then CFG_PARAM_SET_LOC (CFG_PARAM_SET_INIT_CASE buff 0x1) 0
  else
    CFG_PARAM_SET_LOC (CFG_PARAM_SET_INIT_CASE buff 0x0)
      (txff_alloc.rsvd_h2c_info_addr - txff_alloc.rsvd_boundary).toNat

/-- The batch of the buffer; its size is computed with 32 bits. -/
def batch (txff_alloc : TxffAllocation) (state : Batching) : Batch where
  pg_addr := if state.adapter.cfg_param_info.full_fifo_mode then 0 else txff_alloc.rsvd_h2c_info_addr
  bytes := Memory.read state.cells 0
    (UInt32.ofNat state.adapter.cfg_param_info.num * CFG_PARAM_H2C_INFO_SIZE).toNat
  h2c_buf := gen_cfg_param_h2c_88xx txff_alloc state.adapter.cfg_param_info (fun _ => 0)

def send_cfg_param_h2c_88xx (txff_alloc : TxffAllocation) (answers : Answers) : BatchingM Unit := do
  onAdapter (cnv_state cnv_cfg_param_allowed .CFG_PARA .H2C_SENT)
  onAdapter (set_proc_status .CFG_PARA .SENDING)
  match answers.dl_rsvd_page with
  | some code => onAdapter (end_cfg_param_h2c (some code))
  | none => do
      let pkt <- onAdapter (number_command .CFG_PARA)
      match answers.send_h2c_pkt with
      | none => do
          onAdapter (send_h2c_pkt_88xx answers pkt)
          Program.update (fun state => { state with batches := state.batches ++ [state.batch txff_alloc] })
          onAdapter (end_cfg_param_h2c none)
      | some code => do
          onAdapter (reset_ofld_feature_88xx .CFG_PARA)
          onAdapter (end_cfg_param_h2c (some code))

/-- Free the buffer when the program stops with an error. -/
def or_free (program : BatchingM Unit) : BatchingM Unit := fun state =>
  match program state with
  | (.ok done, next) => (.ok done, next)
  | (.error code, next) => (.error code, (onAdapter free_cfg_param_buf next).2)

def proc_cfg_param_88xx (txff_alloc : TxffAllocation) (answers : Answers) (param : Parameter) (full_fifo : Bool) :
    BatchingM Unit := do
  malloc_cfg_param_buf_88xx answers full_fifo
  or_free (onAdapter (cnv_state cnv_cfg_param_allowed .CFG_PARA .CNSTR))
  Program.update (take_param param)
  let adapter <- onAdapter Program.get
  let rsvd_size := adapter.cfg_param_info.avl_buf_size - answers.txdesc_size
  if CFG_PARAM_H2C_INFO_SIZE < rsvd_size ∧ param ≠ .END then pure ()
  else if adapter.cfg_param_info.num = 0 then do
    onAdapter free_cfg_param_buf
    onAdapter (set_proc_status .CFG_PARA .DONE)
    onAdapter (reset_ofld_feature_88xx .CFG_PARA)
  else do
    or_free (send_cfg_param_h2c_88xx txff_alloc answers)
    onAdapter (Program.require (param = .END) .PARA_SENDING)

def cfg_parameter_88xx (txff_alloc : TxffAllocation) (answers : Answers) (param : Parameter) (full_fifo : Bool) :
    BatchingM Unit := do
  onAdapter (Program.require answers.fw_validate .NO_DLFW)
  onAdapter (Program.require (4 ≤ answers.h2c_version) .FW_NO_SUPPORT)
  onAdapter (not_sending .CFG_PARA)
  let adapter <- onAdapter Program.get
  let cmd_state := (adapter.halmac_state .CFG_PARA).cmd_cnstr_state
  onAdapter (Program.require (cmd_state = .IDLE ∨ cmd_state = .CNSTR) .BUSY_STATE)
  onAdapter (set_proc_status .CFG_PARA .IDLE)
  proc_cfg_param_88xx txff_alloc answers param full_fifo

/-- The sums are compared when the packet has the number that is waited for. -/
def get_h2c_ack_cfg_param_88xx (buf : ByteMap) : BatchingM Unit := do
  Program.update (fun state =>
    if Expected .CFG_PARA (H2C_ACK_HDR_GET_H2C_SEQ buf) state.adapter then
      let info := state.adapter.cfg_param_info
      { state with compared := state.compared ++ [(info.offset_accum, info.value_accum)] }
    else state)
  onAdapter (Offload.get_h2c_ack_cfg_param_88xx buf)

theorem onAdapter_get (state : Batching) : onAdapter Program.get state = (.ok state.adapter, state) := rfl

/-! ## A call that succeeds -/

def allocated (info : CfgParamInfo) (state : Batching) : Batching :=
  let fresh := { state with adapter := { state.adapter with cfg_param_info := info } }
  if state.adapter.cfg_param_info.buf then fresh else fresh.cleared

/-- There is space for the next record and the descriptor, as the code computes it. -/
def RoomLeft (answers : Answers) (param : Parameter) (state : Batching) : Prop :=
  CFG_PARAM_H2C_INFO_SIZE < state.adapter.cfg_param_info.avl_buf_size - answers.txdesc_size ∧ param ≠ .END

/-- The call goes as far as it is sent. -/
structure Granted (answers : Answers) : Prop where
  fw_validate : answers.fw_validate = true
  h2c_version : 4 ≤ answers.h2c_version
  dl_rsvd_page : answers.dl_rsvd_page = none
  send_h2c_pkt : answers.send_h2c_pkt = none

/-- All but the states of the features. -/
structure SameBuffer (first second : Batching) : Prop where
  cells : first.cells = second.cells
  buf_wptr : first.buf_wptr = second.buf_wptr
  outside : first.outside = second.outside
  compared : first.compared = second.compared
  batches : first.batches = second.batches
  info : first.adapter.cfg_param_info = second.adapter.cfg_param_info

theorem SameBuffer.take_param (same : SameBuffer first second) (param : Parameter) :
    SameBuffer (take_param param first) (take_param param second) := by
  constructor
  · exact congrArg₂ param.write same.cells same.buf_wptr
  · exact congrArg (fun buf_wptr => if param = .END then buf_wptr else buf_wptr + CFG_PARAM_H2C_INFO_SIZE.toNat)
      same.buf_wptr
  · change (first.outside || _) = (second.outside || _)
    rw [same.outside, same.buf_wptr, same.info]
  · exact same.compared
  · exact same.batches
  · exact congrArg (Offload.take_param param.accounted) same.info

theorem SameBuffer.batch (same : SameBuffer first second) (txff_alloc : TxffAllocation) :
    first.batch txff_alloc = second.batch txff_alloc := by
  unfold Batching.batch
  rw [same.cells, same.info]

/-- What a call leaves, once the parameter was taken. -/
structure Leaves (taken next : Batching) (batches : List Batch) (buf : Bool) (cmd_cnstr_state : CmdConstructState)
    (proc_status : CmdProcessStatus) : Prop where
  cells : next.cells = taken.cells
  buf_wptr : next.buf_wptr = taken.buf_wptr
  outside : next.outside = taken.outside
  compared : next.compared = taken.compared
  batches : next.batches = batches
  info : next.adapter.cfg_param_info = { taken.adapter.cfg_param_info with buf }
  cmd_cnstr_state : (next.adapter.halmac_state .CFG_PARA).cmd_cnstr_state = cmd_cnstr_state
  proc_status : (next.adapter.halmac_state .CFG_PARA).proc_status = proc_status

theorem Leaves.of_same {next : Batching} {batches : List Batch} {buf : Bool}
    {cmd_cnstr_state : CmdConstructState} {proc_status : CmdProcessStatus}
    (leaves : Leaves first next batches buf cmd_cnstr_state proc_status) (same : SameBuffer first second) :
    Leaves second next batches buf cmd_cnstr_state proc_status where
  cells := leaves.cells.trans same.cells
  buf_wptr := leaves.buf_wptr.trans same.buf_wptr
  outside := leaves.outside.trans same.outside
  compared := leaves.compared.trans same.compared
  batches := leaves.batches
  info := leaves.info.trans (congrArg ({ · with buf }) same.info)
  cmd_cnstr_state := leaves.cmd_cnstr_state
  proc_status := leaves.proc_status

section outcome

variable {txff_alloc : TxffAllocation} {answers : Answers} {param : Parameter} {full_fifo : Bool} {state : Batching}
  {info : CfgParamInfo}

theorem onAdapter_of {α : Type} {program : HalmacM α} {answer : Except HalmacRet α} {next : Adapter}
    (ran : program state.adapter = (answer, next)) : onAdapter program state = (answer, { state with adapter := next }) :=
  Program.onPart_of ran

theorem require_ok {condition : Bool} (holds : condition = true) (code : HalmacRet) (adapter : Adapter) :
    (Program.require condition code : HalmacM Unit) adapter = (.ok (), adapter) := by
  rw [holds]
  rfl

theorem not_sending_ok {feature : HalmacFeature} {adapter : Adapter}
    (free : (adapter.halmac_state feature).proc_status ≠ .SENDING) :
    not_sending feature adapter = (.ok (), adapter) := by
  unfold not_sending
  rw [bind_of_ok (Program.get_apply adapter)]
  exact require_ok (decide_eq_true free) _ _

theorem or_free_of_ok {program : BatchingM Unit} {next : Batching} (ran : program state = (.ok (), next)) :
    or_free program state = (.ok (), next) := by
  unfold or_free
  rw [ran]

theorem take_param_buf (param : PhyParameter) (info : CfgParamInfo) : (Offload.take_param param info).buf = info.buf := by
  cases param <;> rfl

theorem buf_of_prepared (buffered : prepared answers full_fifo state.adapter.cfg_param_info = some info) :
    info.buf = true := by
  unfold prepared at buffered
  cases held : state.adapter.cfg_param_info.buf with
  | true =>
      rw [held, if_pos rfl] at buffered
      exact Option.some.inj buffered ▸ held
  | false =>
      rw [held, if_neg Bool.false_ne_true] at buffered
      rcases Option.map_eq_some_iff.mp buffered with ⟨size, _, same⟩
      exact same ▸ rfl

theorem malloc_cfg_param_buf_ok (buffered : prepared answers full_fifo state.adapter.cfg_param_info = some info) :
    malloc_cfg_param_buf_88xx answers full_fifo state = (.ok (), state.allocated info) := by
  have ran := @malloc_cfg_param_buf_outcome answers state.adapter full_fifo
  rw [buffered] at ran
  unfold malloc_cfg_param_buf_88xx
  rw [bind_of_ok (onAdapter_get state), bind_of_ok (onAdapter_of ran)]
  unfold allocated
  cases held : state.adapter.cfg_param_info.buf <;> rfl

theorem send_cfg_param_h2c_leaves (granted : Granted answers)
    (constructing : (state.adapter.halmac_state .CFG_PARA).cmd_cnstr_state = .CNSTR) :
    ∃ next, send_cfg_param_h2c_88xx txff_alloc answers state = (.ok (), next) ∧
      Leaves state next (state.batches ++ [state.batch txff_alloc]) false .IDLE .SENDING := by
  have allows : cnv_cfg_param_allowed (state.adapter.halmac_state .CFG_PARA).cmd_cnstr_state .H2C_SENT = true := by
    rw [constructing]
    rfl
  rcases cnv_state_ok allows with ⟨under_way, ran, sent_state, _, same_info, _⟩
  rcases number_command_ok .CFG_PARA (under_way.set .CFG_PARA ({ · with proc_status := .SENDING }))
    with ⟨pkt, numbered, counted, states, _, kept_info, _⟩
  have sent : send_h2c_pkt_88xx answers pkt numbered =
      (.ok (), { numbered with tickets := numbered.tickets.deliver pkt.sub_cmd_id pkt.ticket }) := by
    unfold send_h2c_pkt_88xx
    rw [granted.send_h2c_pkt]
    rfl
  have waiting : (numbered.halmac_state .CFG_PARA).cmd_cnstr_state = .H2C_SENT := by
    rw [(states .CFG_PARA).2, halmac_state_set_self]
    exact sent_state
  have busy : (numbered.halmac_state .CFG_PARA).proc_status = .SENDING := by
    rw [(states .CFG_PARA).1, halmac_state_set_self]
  rcases @end_cfg_param_h2c_outcome { numbered with tickets := numbered.tickets.deliver pkt.sub_cmd_id pkt.ticket } none
    (Or.inl waiting) with ⟨last, ended, idle, proc, freed⟩
  have info : numbered.cfg_param_info = state.adapter.cfg_param_info := kept_info.trans same_info
  have recorded : ({ state with adapter := { numbered with tickets := numbered.tickets.deliver pkt.sub_cmd_id pkt.ticket } } :
      Batching).batch txff_alloc = state.batch txff_alloc := by
    unfold batch
    dsimp only
    rw [info]
  refine ⟨{ state with adapter := last, batches := state.batches ++ [state.batch txff_alloc] }, ?_, ?_⟩
  · unfold send_cfg_param_h2c_88xx set_proc_status
    rw [bind_of_ok (onAdapter_of ran), bind_of_ok (onAdapter_of (Program.update_apply _ under_way)),
      granted.dl_rsvd_page, granted.send_h2c_pkt]
    dsimp only
    rw [bind_of_ok (onAdapter_of counted)]
    rw [bind_of_ok (onAdapter_of sent), bind_of_ok (Program.update_apply _ _)]
    dsimp only
    rw [recorded]
    exact onAdapter_of ended
  · exact ⟨rfl, rfl, rfl, rfl, rfl, by rw [freed]; exact congrArg ({ · with buf := false }) info, idle, proc.trans busy⟩

/-- The three ends of a call: it waits for more, there was nothing to send, or a batch is
sent. -/
structure CallOutcome (txff_alloc : TxffAllocation) (answers : Answers) (param : Parameter) (taken next : Batching) :
    Prop where
  kept : RoomLeft answers param taken -> Leaves taken next taken.batches true .CNSTR .IDLE
  empty : ¬ RoomLeft answers param taken -> taken.adapter.cfg_param_info.num = 0 ->
    Leaves taken next taken.batches false .IDLE .IDLE
  sent : ¬ RoomLeft answers param taken -> taken.adapter.cfg_param_info.num ≠ 0 ->
    Leaves taken next (taken.batches ++ [taken.batch txff_alloc]) false .IDLE .SENDING

theorem CallOutcome.of_same {next : Batching} (outcome : CallOutcome txff_alloc answers param first next)
    (same : SameBuffer first second) : CallOutcome txff_alloc answers param second next := by
  rcases outcome with ⟨kept, empty, sent⟩
  unfold RoomLeft at *
  rw [same.info, same.batches] at kept
  rw [same.info, same.batches] at empty
  rw [same.info, same.batches, same.batch] at sent
  exact ⟨fun room => (kept room).of_same same, fun full none_taken => (empty full none_taken).of_same same,
    fun full some_taken => (sent full some_taken).of_same same⟩

theorem proc_cfg_param_outcome (granted : Granted answers)
    (building : (state.adapter.halmac_state .CFG_PARA).cmd_cnstr_state = .IDLE ∨
      (state.adapter.halmac_state .CFG_PARA).cmd_cnstr_state = .CNSTR)
    (idle : (state.adapter.halmac_state .CFG_PARA).proc_status = .IDLE)
    (buffered : prepared answers full_fifo state.adapter.cfg_param_info = some info) :
    CallOutcome txff_alloc answers param (take_param param (state.allocated info))
      (proc_cfg_param_88xx txff_alloc answers param full_fifo state).2 := by
  have states : (state.allocated info).adapter.halmac_state = state.adapter.halmac_state := by
    unfold allocated
    cases held : state.adapter.cfg_param_info.buf <;> rfl
  have has_info : (state.allocated info).adapter.cfg_param_info = info := by
    unfold allocated
    cases held : state.adapter.cfg_param_info.buf <;> rfl
  have allows : cnv_cfg_param_allowed ((state.allocated info).adapter.halmac_state .CFG_PARA).cmd_cnstr_state .CNSTR =
      true := by
    rw [states]
    rcases building with known | known <;> rw [known] <;> rfl
  rcases cnv_state_ok allows with ⟨under_way, ran, constructing, proc, same_info, _⟩
  rw [states, idle] at proc
  rcases (⟨_, rfl⟩ : ∃ under : Batching, under = { state.allocated info with adapter := under_way })
    with ⟨under, is_under⟩
  have converted : onAdapter (cnv_state cnv_cfg_param_allowed .CFG_PARA .CNSTR) (state.allocated info) = (.ok (), under) :=
    is_under ▸ onAdapter_of ran
  have same : SameBuffer (take_param param under) (take_param param (state.allocated info)) :=
    SameBuffer.take_param (is_under ▸ ⟨rfl, rfl, rfl, rfl, rfl, same_info⟩) param
  have held : (take_param param under).adapter.cfg_param_info.buf = true := by
    rw [same.info]
    change (Offload.take_param param.accounted (state.allocated info).adapter.cfg_param_info).buf = true
    rw [has_info]
    exact (take_param_buf param.accounted info).trans (buf_of_prepared buffered)
  have now_constructing : ((take_param param under).adapter.halmac_state .CFG_PARA).cmd_cnstr_state = .CNSTR :=
    is_under ▸ constructing
  have now_idle : ((take_param param under).adapter.halmac_state .CFG_PARA).proc_status = .IDLE := is_under ▸ proc
  refine CallOutcome.of_same ?_ same
  unfold proc_cfg_param_88xx
  rw [bind_of_ok (malloc_cfg_param_buf_ok buffered), bind_of_ok (or_free_of_ok converted),
    bind_of_ok (Program.update_apply _ _), bind_of_ok (onAdapter_get _)]
  generalize take_param param under = taken at held now_constructing now_idle ⊢
  constructor <;> unfold RoomLeft
  · intro room
    rw [if_pos room]
    exact ⟨rfl, rfl, rfl, rfl, rfl, congrArg (fun buf => { taken.adapter.cfg_param_info with buf }) held,
      now_constructing, now_idle⟩
  · intro full none_taken
    rw [if_neg full, if_pos none_taken]
    rcases reset_ofld_feature_state .CFG_PARA ((free_cfg_param_buf taken.adapter).2.set .CFG_PARA
      ({ · with proc_status := .DONE })) with ⟨next, reset, proc_idle, cmd_idle, _, freed, _⟩
    have ended : (onAdapter free_cfg_param_buf >>= fun _ => onAdapter (set_proc_status .CFG_PARA .DONE) >>= fun _ =>
        onAdapter (reset_ofld_feature_88xx .CFG_PARA)) taken = (.ok (), { taken with adapter := next }) :=
      @onAdapter_of { taken with adapter := _ } _ _ _ _ reset
    rw [ended]
    exact ⟨rfl, rfl, rfl, rfl, rfl, freed, cmd_idle (Or.inl rfl), proc_idle⟩
  · intro full some_taken
    rw [if_neg full, if_neg some_taken]
    rcases @send_cfg_param_h2c_leaves txff_alloc answers taken granted now_constructing with ⟨next, sent, leaves⟩
    rw [bind_of_ok (or_free_of_ok sent)]
    cases decide (param = .END) <;> exact leaves

theorem SameBuffer.allocated (same : SameBuffer first second) (info : CfgParamInfo) :
    SameBuffer (first.allocated info) (second.allocated info) := by
  unfold Batching.allocated
  rw [same.info]
  cases second.adapter.cfg_param_info.buf with
  | true => exact ⟨same.cells, same.buf_wptr, same.outside, same.compared, same.batches, rfl⟩
  | false =>
      exact ⟨congrArg (Memory.write · 0 (List.replicate info.buf_size.toNat 0)) same.cells, rfl, same.outside,
        same.compared, same.batches, rfl⟩

/-- A call in a state that accepts it. -/
theorem cfg_parameter_outcome (granted : Granted answers)
    (free : (state.adapter.halmac_state .CFG_PARA).proc_status ≠ .SENDING)
    (building : (state.adapter.halmac_state .CFG_PARA).cmd_cnstr_state = .IDLE ∨
      (state.adapter.halmac_state .CFG_PARA).cmd_cnstr_state = .CNSTR)
    (buffered : prepared answers full_fifo state.adapter.cfg_param_info = some info) :
    CallOutcome txff_alloc answers param (take_param param (state.allocated info))
      (cfg_parameter_88xx txff_alloc answers param full_fifo state).2 := by
  rcases (⟨_, rfl⟩ : ∃ idle : Batching,
    idle = { state with adapter := state.adapter.set .CFG_PARA ({ · with proc_status := .IDLE }) }) with ⟨idle, is_idle⟩
  have same : SameBuffer idle state := is_idle ▸ ⟨rfl, rfl, rfl, rfl, rfl, rfl⟩
  have reaches : cfg_parameter_88xx txff_alloc answers param full_fifo state =
      proc_cfg_param_88xx txff_alloc answers param full_fifo idle := by
    unfold cfg_parameter_88xx
    rw [bind_of_ok (onAdapter_of (require_ok granted.fw_validate _ _)),
      bind_of_ok (onAdapter_of (require_ok (decide_eq_true granted.h2c_version) _ _)),
      bind_of_ok (onAdapter_of (not_sending_ok free)), bind_of_ok (onAdapter_get _)]
    dsimp only
    rw [bind_of_ok (onAdapter_of (require_ok (decide_eq_true building) _ _))]
    rw [is_idle]
    exact bind_of_ok (onAdapter_of (Program.update_apply _ state.adapter))
  have reset : (idle.adapter.halmac_state .CFG_PARA) = { state.adapter.halmac_state .CFG_PARA with proc_status := .IDLE } := by
    rw [is_idle]
    exact halmac_state_set_self state.adapter .CFG_PARA ({ · with proc_status := .IDLE })
  rw [reaches]
  refine (proc_cfg_param_outcome granted ?_ ?_ (same.info ▸ buffered)).of_same ((same.allocated info).take_param param)
  · rw [reset]
    exact building
  · rw [reset]

end outcome

end Batching

end Offload

end Rtl8821ce
