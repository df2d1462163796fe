import Rtl8821ce.Hal.ParamBatch
import Mathlib.Data.List.Forall2
import Mathlib.Data.UInt

/-!
# Runs of the parameter command

Parameters are given one by one, and the answer to a batch is waited for before the next
one is begun.  What was given is in the batches that were sent and, behind them, in the
buffer.  The free space is compared without a sign, so a buffer that has no space for one
record and the descriptor is never full.
-/

namespace Rtl8821ce

namespace Offload

namespace Batching

def TX_DESC_SIZE_88XX : UInt32 := 48

/-- A parameter is given, or an acknowledgement arrives. -/
inductive ParamOperation
  | give (answers : Answers) (param : Parameter) (full_fifo : Bool)
  | ack (buf : ByteMap)

def ParamOperation.program (txff_alloc : TxffAllocation) : ParamOperation -> BatchingM Unit
  | .give answers param full_fifo => cfg_parameter_88xx txff_alloc answers param full_fifo
  | .ack buf => get_h2c_ack_cfg_param_88xx buf

def param_step (txff_alloc : TxffAllocation) (state : Batching) (operation : ParamOperation) : Batching :=
  (operation.program txff_alloc state).2

/-- The parameters in the order they are given, with the end marks. -/
def ParamOperation.params : ParamOperation -> List Parameter
  | .give _ param _ => [param]
  | .ack _ => []

def given (operations : List ParamOperation) : List Parameter := operations.flatMap ParamOperation.params

def counted (params : List Parameter) : List Parameter := params.filter (· ≠ .END)

def ahead : List ParamOperation -> Nat
  | [] => 0
  | .give _ .END _ :: _ => 0
  | .give _ _ _ :: rest => ahead rest + 1
  | .ack _ :: rest => ahead rest

/-- Nothing fails, and the last batch has been answered. -/
def Proper (state : Batching) : ParamOperation -> Prop
  | .give answers _ full_fifo =>
      Granted answers ∧ answers.txdesc_size = TX_DESC_SIZE_88XX ∧
        (state.adapter.halmac_state .CFG_PARA).proc_status ≠ .SENDING ∧
        (prepared answers full_fifo state.adapter.cfg_param_info).isSome
  | .ack _ => True

/-- The buffer has space for a record and the descriptor, and no more records than can be
announced, or for all that is left to the end mark. -/
def Fits (buf_size left : Nat) : Prop :=
  if 60 ≤ buf_size then buf_size ≤ 48 + 12 * 65536 ∨ left ≤ 65535 else 12 * left + 4 ≤ buf_size

instance (buf_size left : Nat) : Decidable (Fits buf_size left) := inferInstanceAs (Decidable (ite _ _ _))

/-- The flag of the parameter is 0 or 1, and a new buffer fits. -/
def Meets (state : Batching) (left : Nat) : ParamOperation -> Prop
  | .give answers param full_fifo =>
      param.FlagFits ∧ (state.adapter.cfg_param_info.buf = false ->
        ∀ info, prepared answers full_fifo state.adapter.cfg_param_info = some info -> Fits info.buf_size.toNat left)
  | .ack _ => True

def AllMeet (txff_alloc : TxffAllocation) : Batching -> List ParamOperation -> Prop
  | _, [] => True
  | state, operation :: rest =>
      Meets state (ahead (operation :: rest)) operation ∧ AllMeet txff_alloc (param_step txff_alloc state operation) rest

def offset_part : Parameter -> UInt32
  | .REG_W _ _ _ offset _ => offset.toUInt32
  | .RF_W _ _ offset _ rf_path => offset.toUInt32 + rf_path.toUInt32 <<< 8
  | .DELAY_TIME _ _ | .END => 0

def value_part : Parameter -> UInt32
  | .REG_W _ value _ _ _ | .RF_W value _ _ _ _ => value
  | .DELAY_TIME _ _ | .END => 0

def sums (params : List Parameter) : UInt32 × UInt32 :=
  ((params.map offset_part).sum, (params.map value_part).sum)

/-- These parameters, and no others, have been sent: nothing was written outside the
buffer, the batches decode to them, each batch announces its records, and each sum that was
compared is that of its batch. -/
structure Delivered (params : List Parameter) (state : Batching) : Prop where
  inside : state.outside = false
  decoded : read_parameters params.length (state.batches.flatMap Batch.bytes) = some params
  whole : (state.batches.flatMap Batch.bytes).length = 12 * params.length
  announced : ∀ batch ∈ state.batches, batch.bytes.length = 12 * CFG_PARAM_GET_NUM batch.h2c_buf
  compared : ∀ (i : Nat) compared, state.compared[i]? = some compared ->
    ∃ batch : Batch, ∃ part : List Parameter, state.batches[i]? = some batch ∧
      read_parameters (CFG_PARAM_GET_NUM batch.h2c_buf) batch.bytes = some part ∧ compared = sums part

/-- Nothing has been given. -/
structure Idle (state : Batching) : Prop where
  inside : state.outside = false
  batches : state.batches = []
  compared : state.compared = []
  buf : state.adapter.cfg_param_info.buf = false
  cmd_cnstr_state : (state.adapter.halmac_state .CFG_PARA).cmd_cnstr_state = .IDLE
  proc_status : (state.adapter.halmac_state .CFG_PARA).proc_status ≠ .SENDING

/-- A batch with these parameters. -/
structure Carries (batch : Batch) (part : List Parameter) : Prop where
  length : batch.bytes.length = 12 * part.length
  records : read_parameters part.length batch.bytes = some part
  announced : CFG_PARAM_GET_NUM batch.h2c_buf = part.length

/-- There is space for the parameters that are waited for: in a buffer that is cut the
number can be announced, and another has space for all that is left. -/
def Space (buf_size pending left : Nat) : Prop :=
  if 60 ≤ buf_size then
    (pending = 0 ∨ 12 * pending + 60 < buf_size) ∧ (buf_size ≤ 48 + 12 * 65536 ∨ pending + left ≤ 65535)
  else 12 * (pending + left) + 4 ≤ buf_size

/-- The buffer has the records of these parameters, and the counts and the sums are theirs. -/
structure Buffered (state : Batching) (pending : List Parameter) : Prop where
  num : state.adapter.cfg_param_info.num = pending.length
  buf_wptr : state.buf_wptr = 12 * pending.length
  avl_buf_size :
    state.adapter.cfg_param_info.avl_buf_size.toNat + 12 * pending.length = state.adapter.cfg_param_info.buf_size.toNat
  records : read_parameters pending.length (Memory.read state.cells 0 (12 * pending.length)) = some pending
  sums : (state.adapter.cfg_param_info.offset_accum, state.adapter.cfg_param_info.value_accum) = sums pending

/-- The batches carry these lists of parameters, and the buffer has what comes behind them.  While
an answer is waited for, the sums are those of the last batch. -/
structure Sound (state : Batching) (parts : List (List Parameter)) (pending : List Parameter) (left : Nat) : Prop where
  inside : state.outside = false
  carried : List.Forall₂ Carries state.batches parts
  building : (state.adapter.halmac_state .CFG_PARA).cmd_cnstr_state = .IDLE ∨
    (state.adapter.halmac_state .CFG_PARA).cmd_cnstr_state = .CNSTR
  empty : state.adapter.cfg_param_info.buf = false -> pending = []
  buffered : state.adapter.cfg_param_info.buf = true ->
    Buffered state pending ∧ Space state.adapter.cfg_param_info.buf_size.toNat pending.length left
  settled : (state.adapter.halmac_state .CFG_PARA).proc_status ≠ .SENDING -> state.compared = parts.map sums
  waiting : (state.adapter.halmac_state .CFG_PARA).proc_status = .SENDING ->
    state.adapter.cfg_param_info.buf = false ∧ ∃ earlier, ∃ last,
      parts = earlier ++ [last] ∧ state.compared = earlier.map sums ∧
        (state.adapter.cfg_param_info.offset_accum, state.adapter.cfg_param_info.value_accum) = sums last

section record

variable {state : Batching} {pending : List Parameter} {param : Parameter} {left : Nat}

theorem sums_append (first second : List Parameter) :
    sums (first ++ second) = ((sums first).1 + (sums second).1, (sums first).2 + (sums second).2) := by
  unfold sums
  rw [List.map_append, List.map_append, List.sum_append, List.sum_append]

theorem sums_single (param : Parameter) : sums [param] = (offset_part param, value_part param) := by
  unfold sums
  rw [List.map_singleton, List.map_singleton, List.sum_singleton, List.sum_singleton]

theorem read_parameters_write {cells : ByteMap}
    (records : read_parameters pending.length (Memory.read cells 0 (12 * pending.length)) = some pending)
    (flag : param.FlagFits) (counts : param ≠ .END) :
    read_parameters (pending.length + 1)
      (Memory.read (param.write cells (12 * pending.length)) 0 (12 * (pending.length + 1))) = some (pending ++ [param]) := by
  have before : Memory.read (param.write cells (12 * pending.length)) 0 (12 * pending.length) =
      Memory.read cells 0 (12 * pending.length) :=
    Memory.read_congr (fun i below => write_of_outside _ _ param (Or.inl (by omega)))
  have behind : read_parameter (cells_of (Memory.read (param.write cells (12 * pending.length)) (12 * pending.length) 12)) 0 =
      some param := by
    refine Eq.trans (read_parameter_congr (fun i below => ?_)) (read_write_parameter cells (12 * pending.length) flag counts)
    unfold cells_of
    rw [Nat.zero_add, List.getD_eq_getElem?_getD, Memory.getElem?_read _ below]
    rfl
  have last : read_parameters 1 (Memory.read (param.write cells (12 * pending.length)) (12 * pending.length) 12) =
      some [param] := by
    unfold read_parameters
    rw [behind]
    rfl
  rw [Nat.mul_add, Nat.mul_one, Memory.read_add, before, Nat.zero_add,
    read_parameters_append records (Memory.length_read _ _ _), last]
  rfl

theorem take_param_counts (counts : param ≠ .END) (info : CfgParamInfo) :
    Offload.take_param param.accounted info =
      { info with
        value_accum := info.value_accum + value_part param
        offset_accum := info.offset_accum + offset_part param
        num := info.num + 1
        avl_buf_size := info.avl_buf_size - CFG_PARAM_H2C_INFO_SIZE } := by
  cases param with
  | REG_W | RF_W => rfl
  | DELAY_TIME cmd delay_time =>
      change ({ info with num := info.num + 1, avl_buf_size := info.avl_buf_size - CFG_PARAM_H2C_INFO_SIZE } : CfgParamInfo) = _
      rw [show value_part (.DELAY_TIME cmd delay_time) = 0 from rfl, show offset_part (.DELAY_TIME cmd delay_time) = 0 from rfl,
        UInt32.add_zero, UInt32.add_zero]
  | END => exact absurd rfl counts

theorem Buffered.take_param (buffered : Buffered state pending) (flag : param.FlagFits) (counts : param ≠ .END)
    (room : 12 ≤ state.adapter.cfg_param_info.avl_buf_size.toNat) :
    Buffered (take_param param state) (pending ++ [param]) := by
  have info : (Batching.take_param param state).adapter.cfg_param_info = _ :=
    take_param_counts counts state.adapter.cfg_param_info
  have length : (pending ++ [param]).length = pending.length + 1 := by
    rw [List.length_append, List.length_singleton]
  have smaller : (state.adapter.cfg_param_info.avl_buf_size - CFG_PARAM_H2C_INFO_SIZE).toNat =
      state.adapter.cfg_param_info.avl_buf_size.toNat - 12 :=
    UInt32.toNat_sub_of_le _ _ (UInt32.le_iff_toNat_le.mpr room)
  have size := buffered.avl_buf_size
  constructor
  · rw [info, length, buffered.num]
  · rw [length]
    change (if param = .END then state.buf_wptr else state.buf_wptr + 12) = _
    rw [if_neg counts, buffered.buf_wptr, Nat.mul_add]
  · rw [info, length, smaller]
    dsimp only
    omega
  · rw [length]
    change read_parameters _ (Memory.read (param.write state.cells state.buf_wptr) 0 _) = _
    rw [buffered.buf_wptr]
    exact read_parameters_write buffered.records flag counts
  · rw [info, sums_append, sums_single, ← buffered.sums]

theorem Buffered.take_end (buffered : Buffered state pending) : Buffered (Batching.take_param .END state) pending := by
  refine ⟨buffered.num, buffered.buf_wptr, buffered.avl_buf_size, ?_, buffered.sums⟩
  rw [← buffered.records]
  refine congrArg (read_parameters pending.length) (Memory.read_congr (fun i below => ?_))
  refine write_of_outside _ _ .END (Or.inl ?_)
  rw [buffered.buf_wptr]
  omega

theorem Buffered.inside (buffered : Buffered state pending) (inside : state.outside = false) (param : Parameter)
    (room : 12 * pending.length + param.extent ≤ state.adapter.cfg_param_info.buf_size.toNat) :
    (Batching.take_param param state).outside = false := by
  change (state.outside || decide (state.adapter.cfg_param_info.buf_size.toNat < state.buf_wptr + param.extent)) = false
  rw [inside, buffered.buf_wptr, Bool.false_or]
  exact decide_eq_false (Nat.not_lt.mpr room)

theorem announces (txff_alloc : TxffAllocation) (info : CfgParamInfo) (buff : ByteMap) :
    CFG_PARAM_GET_NUM (gen_cfg_param_h2c_88xx txff_alloc info buff) = info.num % 2 ^ 16 := by
  unfold gen_cfg_param_h2c_88xx CFG_PARAM_GET_NUM CFG_PARAM_SET_NUM CFG_PARAM_SET_INIT_CASE CFG_PARAM_SET_LOC
    SET_BITS_TO_LE_4BYTE
  cases info.full_fifo_mode <;>
    simp (disch := omega) only [LE_BITS_TO_4BYTE_eq, BitField.get_set, BitField.get_set_apart, if_true,
      Bool.false_eq_true, if_false]

theorem Buffered.carries (buffered : Buffered state pending) (few : pending.length ≤ 65535) (txff_alloc : TxffAllocation) :
    Carries (state.batch txff_alloc) pending := by
  have size : (UInt32.ofNat state.adapter.cfg_param_info.num * CFG_PARAM_H2C_INFO_SIZE).toNat = 12 * pending.length := by
    rw [buffered.num, UInt32.toNat_mul, UInt32.toNat_ofNat']
    change pending.length % 2 ^ 32 * 12 % 2 ^ 32 = 12 * pending.length
    omega
  have bytes : (state.batch txff_alloc).bytes = Memory.read state.cells 0 (12 * pending.length) := by
    rw [← size]
    rfl
  refine ⟨?_, ?_, ?_⟩
  · rw [bytes, Memory.length_read]
  · rw [bytes, buffered.records]
  · change CFG_PARAM_GET_NUM (gen_cfg_param_h2c_88xx txff_alloc state.adapter.cfg_param_info (fun _ => 0)) = _
    rw [announces, buffered.num]
    exact Nat.mod_eq_of_lt (by omega)

end record

section call

variable {txff_alloc : TxffAllocation} {answers : Answers} {full_fifo : Bool} {param : Parameter}
  {state taken next : Batching} {info : CfgParamInfo} {parts : List (List Parameter)} {pending : List Parameter} {left : Nat}

theorem Idle.sound (idle : Idle state) (left : Nat) : Sound state [] [] left where
  inside := idle.inside
  carried := idle.batches ▸ .nil
  building := Or.inl idle.cmd_cnstr_state
  empty := fun _ => rfl
  buffered := fun held => absurd (held.symm.trans idle.buf) nofun
  settled := fun _ => idle.compared
  waiting := fun sending => absurd sending idle.proc_status

theorem Sound.allocated (sound : Sound state parts pending left)
    (prepares : prepared answers full_fifo state.adapter.cfg_param_info = some info)
    (fits : state.adapter.cfg_param_info.buf = false -> Fits info.buf_size.toNat left) :
    Buffered (state.allocated info) pending ∧ Space info.buf_size.toNat pending.length left ∧
      (state.allocated info).adapter.cfg_param_info = info := by
  cases held : state.adapter.cfg_param_info.buf with
  | true =>
      have same : state.adapter.cfg_param_info = info := by
        unfold prepared at prepares
        rw [if_pos held] at prepares
        exact Option.some.inj prepares
      have unchanged : state.allocated info = state := by
        unfold Batching.allocated
        rw [held, if_pos rfl, ← same]
      rw [unchanged]
      exact ⟨(sound.buffered held).1, same ▸ (sound.buffered held).2, same⟩
  | false =>
      have none_pending : pending = [] := sound.empty held
      unfold prepared at prepares
      rw [held, if_neg Bool.false_ne_true] at prepares
      rcases Option.map_eq_some_iff.mp prepares with ⟨size, _, made⟩
      have fit := fits held
      subst made none_pending
      unfold Batching.allocated
      rw [held, if_neg Bool.false_ne_true]
      refine ⟨⟨rfl, rfl, rfl, rfl, rfl⟩, ?_, rfl⟩
      unfold Space
      unfold Fits at fit
      simp only [List.length_nil, Nat.zero_add, true_or, true_and]
      exact fit

theorem Buffered.of_leaves {batches : List Batch} {buf : Bool} {cmd_cnstr_state : CmdConstructState}
    {proc_status : CmdProcessStatus} (buffered : Buffered taken pending)
    (leaves : Leaves taken next batches buf cmd_cnstr_state proc_status) : Buffered next pending := by
  rcases buffered with ⟨num, buf_wptr, avl_buf_size, records, sums⟩
  constructor
  · rw [leaves.info]
    exact num
  · rw [leaves.buf_wptr, buf_wptr]
  · rw [leaves.info]
    exact avl_buf_size
  · rw [leaves.cells, records]
  · rw [leaves.info]
    exact sums

/-- What a call has found before the parameter is taken, and after it. -/
structure Ready (taken : Batching) (parts : List (List Parameter)) (pending : List Parameter) : Prop where
  inside : taken.outside = false
  carried : List.Forall₂ Carries taken.batches parts
  compared : taken.compared = parts.map sums
  buffered : Buffered taken pending

theorem Ready.kept (ready : Ready taken parts pending)
    (space : Space taken.adapter.cfg_param_info.buf_size.toNat pending.length left)
    (leaves : Leaves taken next taken.batches true .CNSTR .IDLE) : Sound next parts pending left where
  inside := leaves.outside.trans ready.inside
  carried := leaves.batches ▸ ready.carried
  building := Or.inr leaves.cmd_cnstr_state
  empty := fun freed => absurd ((congrArg CfgParamInfo.buf leaves.info).symm.trans freed) nofun
  buffered := fun _ => ⟨ready.buffered.of_leaves leaves, by rw [leaves.info]; exact space⟩
  settled := fun _ => leaves.compared.trans ready.compared
  waiting := fun sending => absurd (leaves.proc_status.symm.trans sending) nofun

theorem Ready.empty (ready : Ready taken parts []) (leaves : Leaves taken next taken.batches false .IDLE .IDLE) :
    Sound next parts [] left where
  inside := leaves.outside.trans ready.inside
  carried := leaves.batches ▸ ready.carried
  building := Or.inl leaves.cmd_cnstr_state
  empty := fun _ => rfl
  buffered := fun held => absurd ((congrArg CfgParamInfo.buf leaves.info).symm.trans held) nofun
  settled := fun _ => leaves.compared.trans ready.compared
  waiting := fun sending => absurd (leaves.proc_status.symm.trans sending) nofun

theorem Ready.sent (ready : Ready taken parts pending) (few : pending.length ≤ 65535)
    (leaves : Leaves taken next (taken.batches ++ [taken.batch txff_alloc]) false .IDLE .SENDING) :
    Sound next (parts ++ [pending]) [] left where
  inside := leaves.outside.trans ready.inside
  carried := leaves.batches ▸ List.rel_append ready.carried (.cons (ready.buffered.carries few txff_alloc) .nil)
  building := Or.inl leaves.cmd_cnstr_state
  empty := fun _ => rfl
  buffered := fun held => absurd ((congrArg CfgParamInfo.buf leaves.info).symm.trans held) nofun
  settled := fun settled => absurd leaves.proc_status settled
  waiting := fun _ => ⟨congrArg CfgParamInfo.buf leaves.info, parts, pending, rfl, leaves.compared.trans ready.compared,
    (ready.buffered.of_leaves leaves).sums⟩

theorem allocated_same (state : Batching) (info : CfgParamInfo) :
    (state.allocated info).outside = state.outside ∧ (state.allocated info).batches = state.batches ∧
      (state.allocated info).compared = state.compared := by
  unfold Batching.allocated
  cases state.adapter.cfg_param_info.buf <;> exact ⟨rfl, rfl, rfl⟩

theorem Sound.ready (sound : Sound state parts pending left)
    (free : (state.adapter.halmac_state .CFG_PARA).proc_status ≠ .SENDING) {taken_pending : List Parameter}
    (buffered : Buffered (state.allocated info) pending)
    (room : 12 * pending.length + param.extent ≤ (state.allocated info).adapter.cfg_param_info.buf_size.toNat)
    (takes : Buffered (take_param param (state.allocated info)) taken_pending) :
    Ready (take_param param (state.allocated info)) parts taken_pending := by
  rcases allocated_same state info with ⟨outside, batches, compared⟩
  refine ⟨buffered.inside (outside.trans sound.inside) param room, ?_, ?_, takes⟩
  · exact (show (take_param param (state.allocated info)).batches = state.batches from batches) ▸ sound.carried
  · exact (show (take_param param (state.allocated info)).compared = state.compared from compared).trans
      (sound.settled free)

theorem Sound.give_end (sound : Sound state parts pending left) (granted : Granted answers)
    (free : (state.adapter.halmac_state .CFG_PARA).proc_status ≠ .SENDING)
    (prepares : prepared answers full_fifo state.adapter.cfg_param_info = some info)
    (fits : state.adapter.cfg_param_info.buf = false -> Fits info.buf_size.toNat left) (later : Nat) :
    ∃ now : List (List Parameter),
      Sound (cfg_parameter_88xx txff_alloc answers .END full_fifo state).2 now [] later ∧
        now.flatten = parts.flatten ++ pending := by
  rcases sound.allocated prepares fits with ⟨buffered, space, has_info⟩
  have outcome := @cfg_parameter_outcome txff_alloc answers .END full_fifo state info granted free sound.building prepares
  have bounds : 12 * pending.length + 4 ≤ info.buf_size.toNat ∧ pending.length ≤ 65535 := by
    unfold Space at space
    split_ifs at space <;> omega
  have ready : Ready (take_param .END (state.allocated info)) parts pending :=
    sound.ready free buffered (has_info.symm ▸ bounds.1) buffered.take_end
  have full : ¬ RoomLeft answers .END (take_param .END (state.allocated info)) := fun room => room.2 rfl
  by_cases none_pending : pending = []
  · subst none_pending
    have none_taken : (take_param .END (state.allocated info)).adapter.cfg_param_info.num = 0 := buffered.num
    exact ⟨parts, ready.empty (outcome.empty full none_taken), (List.append_nil _).symm⟩
  · have some_taken : (take_param .END (state.allocated info)).adapter.cfg_param_info.num ≠ 0 := by
      rw [show (take_param .END (state.allocated info)).adapter.cfg_param_info.num = pending.length from buffered.num]
      exact fun none_left => none_pending (List.length_eq_zero_iff.mp none_left)
    refine ⟨parts ++ [pending], ready.sent bounds.2 (outcome.sent full some_taken), ?_⟩
    rw [List.flatten_append, List.flatten_singleton]

theorem Sound.give_param (sound : Sound state parts pending (left + 1)) (granted : Granted answers)
    (descriptor : answers.txdesc_size = TX_DESC_SIZE_88XX)
    (free : (state.adapter.halmac_state .CFG_PARA).proc_status ≠ .SENDING)
    (prepares : prepared answers full_fifo state.adapter.cfg_param_info = some info)
    (fits : state.adapter.cfg_param_info.buf = false -> Fits info.buf_size.toNat (left + 1))
    (flag : param.FlagFits) (counts : param ≠ .END) :
    ∃ now : List (List Parameter), ∃ behind : List Parameter,
      Sound (cfg_parameter_88xx txff_alloc answers param full_fifo state).2 now behind left ∧
        now.flatten ++ behind = parts.flatten ++ pending ++ [param] := by
  rcases sound.allocated prepares fits with ⟨buffered, space, has_info⟩
  have outcome := @cfg_parameter_outcome txff_alloc answers param full_fifo state info granted free sound.building prepares
  have size := buffered.avl_buf_size
  rw [has_info] at size
  have bounds : 12 ≤ info.avl_buf_size.toNat ∧ 12 * pending.length + 12 ≤ info.buf_size.toNat ∧ pending.length < 65535 := by
    unfold Space at space
    split_ifs at space <;> omega
  have extent : param.extent ≤ 12 := by
    cases param <;> exact Nat.le_of_ble_eq_true rfl
  have takes := buffered.take_param flag counts (has_info.symm ▸ bounds.1)
  have ready := sound.ready free buffered (show 12 * pending.length + param.extent ≤ _ by rw [has_info]; omega) takes
  have length : (pending ++ [param]).length = pending.length + 1 := by
    rw [List.length_append, List.length_singleton]
  have taken_size : (take_param param (state.allocated info)).adapter.cfg_param_info.buf_size = info.buf_size :=
    (congrArg CfgParamInfo.buf_size (take_param_counts counts (state.allocated info).adapter.cfg_param_info)).trans
      (show (state.allocated info).adapter.cfg_param_info.buf_size = info.buf_size by rw [has_info])
  have taken_avl := takes.avl_buf_size
  rw [taken_size, length] at taken_avl
  by_cases room : RoomLeft answers param (take_param param (state.allocated info))
  · refine ⟨parts, pending ++ [param], ready.kept ?_ (outcome.kept room), (List.append_assoc _ _ _).symm⟩
    rw [taken_size, length]
    unfold Space at space ⊢
    split_ifs at space ⊢ with cut
    · -- The descriptor fits, so the difference is what it says.
      have more := UInt32.lt_iff_toNat_lt.mp room.1
      rw [descriptor, UInt32.toNat_sub_of_le _ _ (UInt32.le_iff_toNat_le.mpr (show 48 ≤ _ by omega))] at more
      change 12 < _ - 48 at more
      omega
    · omega
  · refine ⟨parts ++ [pending ++ [param]], [], ready.sent ?_ (outcome.sent room ?_), ?_⟩
    · omega
    · rw [takes.num, length]
      omega
    · rw [List.flatten_append, List.flatten_singleton, List.append_nil, List.append_assoc]

theorem get_h2c_ack_cfg_param_ends {buf : ByteMap} {adapter : Adapter}
    (expected : Expected .CFG_PARA (H2C_ACK_HDR_GET_H2C_SEQ buf) adapter) :
    ∃ answered, Offload.get_h2c_ack_cfg_param_88xx buf adapter = (.ok (), answered) ∧
      answered.cfg_param_info = adapter.cfg_param_info ∧
      (answered.halmac_state .CFG_PARA).proc_status ≠ .SENDING ∧
      (answered.halmac_state .CFG_PARA).cmd_cnstr_state = (adapter.halmac_state .CFG_PARA).cmd_cnstr_state := by
  unfold Offload.get_h2c_ack_cfg_param_88xx
  rw [when_expected_of_expected _ expected]
  refine ⟨_, rfl, rfl, ?_, ?_⟩
  · rw [halmac_state_set_self]
    dsimp only
    split <;> exact nofun
  · rw [halmac_state_set_self]

/-- The packet that is waited for ends the wait, and its sums are compared with those of the
last batch; any other packet is dropped. -/
theorem Sound.ack (sound : Sound state parts pending left) (buf : ByteMap) :
    Sound (get_h2c_ack_cfg_param_88xx buf state).2 parts pending left := by
  unfold get_h2c_ack_cfg_param_88xx
  rw [Program.bind_of_ok (Program.update_apply _ state)]
  by_cases expected : Expected .CFG_PARA (H2C_ACK_HDR_GET_H2C_SEQ buf) state.adapter
  · rw [if_pos expected]
    rcases sound.waiting expected.2 with ⟨freed, earlier, last, sent, compared, accumulated⟩
    rcases get_h2c_ack_cfg_param_ends expected with ⟨answered, ran, same_info, ended, same_state⟩
    dsimp only
    rw [@onAdapter_of { state with
      compared := state.compared ++ [(state.adapter.cfg_param_info.offset_accum, state.adapter.cfg_param_info.value_accum)] }
      _ _ _ _ ran]
    have now_freed : answered.cfg_param_info.buf = false := same_info ▸ freed
    refine ⟨sound.inside, sound.carried, same_state ▸ sound.building, fun _ => sound.empty freed,
      fun held => absurd (held.symm.trans now_freed) nofun, fun _ => ?_, fun sending => absurd sending ended⟩
    change state.compared ++ [_] = _
    rw [compared, accumulated, sent, List.map_append, List.map_singleton]
  · rw [if_neg expected]
    have dropped : Offload.get_h2c_ack_cfg_param_88xx buf state.adapter = (.ok (), state.adapter) :=
      when_expected_of_not _ expected
    rw [onAdapter_of dropped]
    exact sound

end call

/-! ## Runs -/

section run

variable {txff_alloc : TxffAllocation} {state : Batching} {parts : List (List Parameter)} {pending : List Parameter}
  {left : Nat}

theorem counted_append (first second : List Parameter) : counted (first ++ second) = counted first ++ counted second :=
  List.filter_append ..

theorem counted_single {param : Parameter} (counts : param ≠ .END) : counted [param] = [param] := by
  unfold counted
  exact List.filter_eq_self.mpr (fun other member => decide_eq_true (List.mem_singleton.mp member ▸ counts))

/-- What is behind is all that was left when no parameter is given, and nothing when an end
mark is the last. -/
structure Behind (params pending behind : List Parameter) : Prop where
  none_given : params = [] -> behind = pending
  ended : params.getLast? = some .END -> behind = []

theorem Behind.cons {first params pending middle behind : List Parameter} (head : Behind first pending middle)
    (tail : Behind params middle behind) : Behind (first ++ params) pending behind := by
  constructor
  · intro none_given
    rcases List.append_eq_nil_iff.mp none_given with ⟨no_first, no_more⟩
    rw [tail.none_given no_more, head.none_given no_first]
  · intro ended
    cases none_left : params with
    | nil =>
        rw [none_left, List.append_nil] at ended
        rw [tail.none_given none_left, head.ended ended]
    | cons next rest =>
        rw [List.getLast?_append_of_ne_nil _ (by rw [none_left]; exact List.cons_ne_nil _ _)] at ended
        exact tail.ended ended

theorem Sound.step {operation : ParamOperation} {rest : List ParamOperation}
    (sound : Sound state parts pending (ahead (operation :: rest))) (proper : Proper state operation)
    (meets : Meets state (ahead (operation :: rest)) operation) :
    ∃ now : List (List Parameter), ∃ behind : List Parameter,
      Sound (param_step txff_alloc state operation) now behind (ahead rest) ∧
        now.flatten ++ behind = parts.flatten ++ pending ++ counted operation.params ∧
        Behind operation.params pending behind := by
  cases operation with
  | ack buf =>
      exact ⟨parts, pending, sound.ack buf, (List.append_nil _).symm, fun _ => rfl, nofun⟩
  | give answers param full_fifo =>
      rcases proper with ⟨granted, descriptor, free, prepares⟩
      rcases meets with ⟨flag, fits⟩
      rcases Option.isSome_iff_exists.mp prepares with ⟨info, prepared_info⟩
      by_cases last : param = .END
      · subst last
        rcases @Sound.give_end txff_alloc _ _ _ _ _ _ _ sound granted free prepared_info
          (fun fresh => fits fresh info prepared_info) (ahead rest) with ⟨now, still, same⟩
        exact ⟨now, [], still, by rw [List.append_nil, same]; exact (List.append_nil _).symm, nofun, fun _ => rfl⟩
      · have further : ahead (.give answers param full_fifo :: rest) = ahead rest + 1 := by
          cases param <;> first | rfl | exact absurd rfl last
        rw [further] at sound fits
        rcases @Sound.give_param txff_alloc _ _ _ _ _ _ _ _ sound granted descriptor free prepared_info
          (fun fresh => fits fresh info prepared_info) flag last with ⟨now, behind, still, same⟩
        refine ⟨now, behind, still, ?_, nofun, fun ended => absurd (Option.some.inj ended) last⟩
        rw [same]
        exact congrArg (parts.flatten ++ pending ++ ·) (counted_single last).symm

theorem Sound.run {operations : List ParamOperation} (sound : Sound state parts pending (ahead operations))
    (proper : Run.Guarded (param_step txff_alloc) Proper state operations) (meet : AllMeet txff_alloc state operations) :
    ∃ now : List (List Parameter), ∃ behind : List Parameter,
      Sound (Run.execute (param_step txff_alloc) state operations) now behind 0 ∧
        now.flatten ++ behind = parts.flatten ++ pending ++ counted (given operations) ∧
        Behind (given operations) pending behind := by
  induction operations generalizing state parts pending with
  | nil => exact ⟨parts, pending, sound, (List.append_nil _).symm, fun _ => rfl, nofun⟩
  | cons operation rest ih =>
      rcases sound.step proper.1 meet.1 with ⟨middle, between, still, same, left_behind⟩
      rcases ih still proper.2 meet.2 with ⟨now, behind, last, all, ends⟩
      refine ⟨now, behind, last, ?_, left_behind.cons ends⟩
      rw [all, same, List.append_assoc _ (counted operation.params), ← counted_append]
      rfl

theorem decoded_of_carried {batches : List Batch} (carried : List.Forall₂ Carries batches parts) :
    read_parameters parts.flatten.length (batches.flatMap Batch.bytes) = some parts.flatten ∧
      (batches.flatMap Batch.bytes).length = 12 * parts.flatten.length := by
  induction carried with
  | nil => exact ⟨rfl, rfl⟩
  | @cons batch part batches parts carries _ ih =>
      rcases ih with ⟨decoded, whole⟩
      rw [List.flatMap_cons, List.flatten_cons, List.length_append, List.length_append, whole, carries.length,
        read_parameters_append carries.records carries.length, decoded]
      exact ⟨rfl, by omega⟩

theorem Sound.compared_prefix (sound : Sound state parts pending left) : state.compared <+: parts.map sums := by
  by_cases sending : (state.adapter.halmac_state .CFG_PARA).proc_status = .SENDING
  · rcases sound.waiting sending with ⟨_, earlier, last, sent, compared, _⟩
    rw [sent, compared, List.map_append]
    exact List.prefix_append _ _
  · exact (sound.settled sending).symm ▸ List.prefix_rfl

theorem carried_at {batches : List Batch} (carried : List.Forall₂ Carries batches parts) {i : Nat}
    (inside : i < parts.length) : ∃ batch, batches[i]? = some batch ∧ Carries batch parts[i] := by
  have within : i < batches.length := carried.length_eq ▸ inside
  exact ⟨batches[i], List.getElem?_eq_getElem within, carried.get within inside⟩

theorem Sound.delivered (sound : Sound state parts pending left) : Delivered parts.flatten state := by
  rcases decoded_of_carried sound.carried with ⟨decoded, whole⟩
  refine ⟨sound.inside, decoded, whole, fun batch member => ?_, fun i compared found => ?_⟩
  · rcases List.getElem_of_mem member with ⟨i, within, same⟩
    have inside : i < parts.length := sound.carried.length_eq ▸ within
    rcases carried_at sound.carried inside with ⟨other, found, carries⟩
    rw [List.getElem?_eq_getElem within, same] at found
    rw [Option.some.inj found, carries.announced, carries.length]
  · have mapped : (parts.map sums)[i]? = some compared := by
      rcases List.getElem?_eq_some_iff.mp found with ⟨within, same⟩
      rw [← same, List.prefix_iff_getElem?.mp sound.compared_prefix i within]
    rcases List.getElem?_eq_some_iff.mp mapped with ⟨within, same⟩
    have inside : i < parts.length := by
      rw [List.length_map] at within
      exact within
    rcases carried_at sound.carried inside with ⟨batch, there, carries⟩
    refine ⟨batch, parts[i], there, ?_, ?_⟩
    · rw [carries.announced]
      exact carries.records
    · rw [← same, List.getElem_map]

end run

/-- In every run in which nothing fails, the flags are 0 or 1 and every new buffer fits, the
parameters are sent as they were given: in each state those of the batches, and all of them
behind an end mark. -/
theorem cfg_parameter_delivers (txff_alloc : TxffAllocation) {start : Batching} (idle : Idle start)
    (operations : List ParamOperation)
    (proper : Run.Guarded (param_step txff_alloc) Proper start operations) (meet : AllMeet txff_alloc start operations) :
    (∃ sent : List Parameter, sent <+: counted (given operations) ∧
      Delivered sent (Run.execute (param_step txff_alloc) start operations)) ∧
    ((given operations).getLast? = some .END ->
      Delivered (counted (given operations)) (Run.execute (param_step txff_alloc) start operations)) := by
  rcases (idle.sound (ahead operations)).run proper meet with ⟨now, behind, sound, all, ends⟩
  rw [List.flatten_nil, List.nil_append, List.nil_append] at all
  refine ⟨⟨now.flatten, all ▸ List.prefix_append _ _, sound.delivered⟩, fun ended => ?_⟩
  rw [ends.ended ended, List.append_nil] at all
  exact all ▸ sound.delivered

def init : Batching := ⟨Adapter.init, fun _ => 0, 0, false, [], []⟩

theorem idle_init : Idle init := ⟨rfl, rfl, rfl, rfl, rfl, nofun⟩

/-- A buffer of 2048 bytes has space for a register and a delay. -/
theorem cfg_parameter_delivers_two :
    Delivered [.REG_W .MAC_W8 0x12 0xFF 0x100 1, .DELAY_TIME .DELAY_US 5]
      (Run.execute (param_step ⟨0x40, 0x20⟩) init
        [.give .granted (.REG_W .MAC_W8 0x12 0xFF 0x100 1) false, .give .granted (.DELAY_TIME .DELAY_US 5) false,
          .give .granted .END false]) := by
  have granted : Granted .granted := ⟨rfl, by decide, rfl, rfl⟩
  refine (cfg_parameter_delivers ⟨0x40, 0x20⟩ idle_init
    [.give .granted (.REG_W .MAC_W8 0x12 0xFF 0x100 1) false, .give .granted (.DELAY_TIME .DELAY_US 5) false,
      .give .granted .END false]
    ⟨⟨granted, rfl, by decide, rfl⟩, ⟨granted, rfl, by decide, rfl⟩, ⟨granted, rfl, by decide, rfl⟩, trivial⟩
    ⟨⟨by decide, fun _ info same => ?_⟩, ⟨trivial, fun fresh => ?_⟩, ⟨trivial, fun fresh => ?_⟩, trivial⟩).2 rfl
  · exact Option.some.inj same ▸ by decide
  · cases fresh
  · cases fresh

def short_of_memory : Answers := { Answers.granted with rsvd_pg_size := 512, malloc := fun size => decide (size ≤ 32) }

/-- A buffer of 32 bytes has less than a descriptor and a record: the difference is a large
number, nothing is sent, and the third record is written behind the end. -/
theorem cfg_parameter_writes_outside :
    ¬ ∀ txff_alloc start operations, Idle start -> Run.Guarded (param_step txff_alloc) Proper start operations ->
      (∀ param ∈ given operations, param.FlagFits) -> (given operations).getLast? = some .END ->
        Delivered (counted (given operations)) (Run.execute (param_step txff_alloc) start operations) := by
  intro claim
  have granted : Granted short_of_memory := ⟨rfl, by decide, rfl, rfl⟩
  let reg : Parameter := .REG_W .MAC_W8 0x12 0xFF 0x100 1
  have accepted (state : Batching) (free : (state.adapter.halmac_state .CFG_PARA).proc_status ≠ .SENDING)
      (buffered : (prepared short_of_memory false state.adapter.cfg_param_info).isSome) (param : Parameter) :
      Proper state (.give short_of_memory param false) := ⟨granted, rfl, free, buffered⟩
  have delivered := claim ⟨0x40, 0x20⟩ init
    [.give short_of_memory reg false, .give short_of_memory reg false, .give short_of_memory reg false,
      .give short_of_memory .END false] idle_init
    ⟨accepted _ (by decide) (by decide) _, accepted _ (by decide +kernel) (by decide +kernel) _,
      accepted _ (by decide +kernel) (by decide +kernel) _, accepted _ (by decide +kernel) (by decide +kernel) _, trivial⟩
    (by decide) rfl
  exact absurd delivered.inside (by decide +kernel)

end Batching

end Offload

end Rtl8821ce
