import Rtl8821ce.Hal.C2hPackets
import Rtl8821ce.Hal.OffloadNumbering
import Rtl8821ce.Library.Run

/-!
# Answers reach the feature that waits for them

Each feature has recorded the number of its latest command.  An answer that is
at most 256 commands old is therefore expected by its own feature only, and only
if it answers the latest command of that feature.
-/

namespace Rtl8821ce

namespace Offload

open Program (bind_of_ok keeps_get keeps_ite keeps_pure keeps_require keeps_stop keeps_update)

variable {handler : HalmacM Unit} {buf : ByteMap} {adapter : Adapter} {ticket : Nat} {answers : C2hAnswers}

/-- The data of a feature besides the shared fields. -/
inductive OwnData
  | none
  | cfg_param (info : CfgParamInfo)
  | scan (info : ChSwInfo)
  | psd (data : PsdData)
  | efuse (map : Option ByteMap) (valid : Bool) (seg_size : Nat) (phy log : Bool)

def Adapter.own_data (adapter : Adapter) : HalmacFeature -> OwnData
  | .CFG_PARA => .cfg_param adapter.cfg_param_info
  | .CHANNEL_SWITCH => .scan adapter.ch_sw_info
  | .PSD => .psd adapter.psd
  | .DUMP_PHYSICAL_EFUSE =>
      .efuse adapter.efuse_map adapter.efuse_map_valid adapter.efuse_seg_size adapter.phy_efuse_map
        adapter.log_efuse_map
  | .UPDATE_PACKET | .IQK | .POWER_TRACKING => .none

def part (feature : HalmacFeature) (adapter : Adapter) : HalmacFeatureState × OwnData :=
  (adapter.halmac_state feature, adapter.own_data feature)

def numbering (adapter : Adapter) : Nat × Tickets Nat × (HalmacFeature -> Nat) × Bool :=
  (adapter.h2c_seq_num, adapter.tickets, fun feature => (adapter.halmac_state feature).seq_num,
    adapter.efuse_map.isSome)

theorem own_data_set (adapter : Adapter) (feature other : HalmacFeature)
    (change : HalmacFeatureState -> HalmacFeatureState) :
    (adapter.set feature change).own_data other = adapter.own_data other := by
  cases other <;> rfl

theorem numbering_set (feature : HalmacFeature) (change : HalmacFeatureState -> HalmacFeatureState)
    (same : ∀ state, (change state).seq_num = state.seq_num) (adapter : Adapter) :
    numbering (adapter.set feature change) = numbering adapter :=
  congrArg (fun numbers => (adapter.h2c_seq_num, adapter.tickets, numbers, adapter.efuse_map.isSome))
    (funext (fun other => seq_num_set same adapter feature other))

theorem keeps_part_set {feature other : HalmacFeature} (change : HalmacFeatureState -> HalmacFeatureState)
    (different : other ≠ feature) :
    Program.Keeps (part other)
      (Program.update (fun adapter => adapter.set feature change) : HalmacM Unit) :=
  keeps_update (fun adapter =>
    Prod.ext (halmac_state_set_of_ne adapter change different) (own_data_set adapter feature other change))

theorem keeps_numbering_set_proc_status (feature : HalmacFeature) (status : CmdProcessStatus) :
    Program.Keeps numbering (set_proc_status feature status) :=
  keeps_update (numbering_set feature _ (fun _ => rfl))

theorem keeps_part_set_proc_status {feature other : HalmacFeature} (status : CmdProcessStatus)
    (different : other ≠ feature) : Program.Keeps (part other) (set_proc_status feature status) :=
  keeps_part_set _ different

/-! ## The handlers -/

variable {γ : Type}

theorem keeps_when_expected {view : Adapter -> γ} {feature : HalmacFeature} {seq_num : Nat} (kept : Program.Keeps view handler) :
    Program.Keeps view (when_expected feature seq_num handler) :=
  (keeps_get view).bind (fun _ => keeps_ite kept (keeps_pure view ()))

/-- The handler of an acknowledgement, by the feature whose command it answers. -/
def ack_handler (buf : ByteMap) : HalmacFeature -> HalmacM Unit
  | .CFG_PARA => get_h2c_ack_cfg_param_88xx buf
  | .DUMP_PHYSICAL_EFUSE => get_h2c_ack_phy_efuse_88xx buf
  | .UPDATE_PACKET => get_h2c_ack_update_pkt_88xx buf
  | .CHANNEL_SWITCH => get_h2c_ack_ch_switch_88xx buf
  | .IQK => get_h2c_ack_iqk_88xx buf
  | .POWER_TRACKING => get_h2c_ack_pwr_trk_88xx buf
  | .PSD => pure ()

theorem get_h2c_ack_88xx_eq {feature : HalmacFeature} (offload : H2C_ACK_HDR_GET_H2C_CMD_ID buf = 0xFF)
    (own : H2C_ACK_HDR_GET_H2C_SUB_CMD_ID buf % 256 = feature.sub_cmd_id) :
    get_h2c_ack_88xx buf = ack_handler buf feature := by
  unfold get_h2c_ack_88xx
  dsimp only
  rw [if_neg (not_not_intro offload), own]
  cases feature <;> rfl

theorem get_h2c_ack_88xx_of_other (other : ∀ feature : HalmacFeature,
      H2C_ACK_HDR_GET_H2C_SUB_CMD_ID buf % 256 ≠ feature.sub_cmd_id) :
    ∃ outcome, get_h2c_ack_88xx buf = fun adapter => (outcome, adapter) := by
  unfold get_h2c_ack_88xx
  simp only [if_neg (other _)]
  split_ifs
  all_goals exact ⟨_, rfl⟩

/-- A handler that a feature calls its own: it leaves the other features alone,
drops packets that are not expected, and `concluding` packets end the sending. -/
structure OwnHandler (feature : HalmacFeature) (seq_num : Nat) (concluding : Adapter -> Prop)
    (handler : HalmacM Unit) : Prop where
  others : ∀ other, other ≠ feature -> Program.Keeps (part other) handler
  drops : ∀ adapter, ¬ Expected feature seq_num adapter -> (handler adapter).2 = adapter
  leaves : ∀ adapter, Expected feature seq_num adapter -> concluding adapter ->
    ((handler adapter).2.halmac_state feature).proc_status ≠ .SENDING

theorem OwnHandler.of_when_expected {feature : HalmacFeature} {seq_num : Nat} {concluding : Adapter -> Prop}
    (others : ∀ other, other ≠ feature -> Program.Keeps (part other) handler)
    (leaves : ∀ adapter, Expected feature seq_num adapter -> concluding adapter ->
      ((handler adapter).2.halmac_state feature).proc_status ≠ .SENDING) :
    OwnHandler feature seq_num concluding (when_expected feature seq_num handler) where
  others := fun other different => keeps_when_expected (others other different)
  drops := fun _ unexpected => by rw [when_expected_of_not handler unexpected]
  leaves := by
    intro adapter expected concluded
    rw [when_expected_of_expected handler expected]
    exact leaves adapter expected concluded

theorem record_rc_proc_status (feature : HalmacFeature) (fw_rc : Nat) (status : CmdProcessStatus)
    (adapter : Adapter) : ((record_rc feature fw_rc status adapter).2.halmac_state feature).proc_status = status := by
  rw [record_rc, Program.update_apply, halmac_state_set_self]

theorem set_proc_status_proc_status (feature : HalmacFeature) (status : CmdProcessStatus) (adapter : Adapter) :
    ((set_proc_status feature status adapter).2.halmac_state feature).proc_status = status := by
  rw [set_proc_status, Program.update_apply, halmac_state_set_self]

theorem own_get_h2c_ack (feature : HalmacFeature) {accepted : CmdProcessStatus}
    (ends : accepted ≠ .SENDING) (buf : ByteMap) :
    OwnHandler feature (H2C_ACK_HDR_GET_H2C_SEQ buf) (fun _ => True)
      (get_h2c_ack feature accepted buf) := by
  refine OwnHandler.of_when_expected (fun other different => keeps_part_set _ different) ?_
  intro adapter _ _
  rw [record_rc_proc_status]
  split
  case isTrue success => exact ends
  case isFalse failure => exact CmdProcessStatus.noConfusion

theorem own_get_h2c_ack_cfg_param (buf : ByteMap) :
    OwnHandler .CFG_PARA (H2C_ACK_HDR_GET_H2C_SEQ buf) (fun _ => True)
      (get_h2c_ack_cfg_param_88xx buf) := by
  refine OwnHandler.of_when_expected (fun other different => ?_) ?_
  · exact (keeps_get _).bind (fun _ => keeps_part_set _ different)
  · intro adapter _ _
    rw [bind_of_ok (Program.get_apply adapter), record_rc_proc_status]
    split
    case isTrue success => exact CmdProcessStatus.noConfusion
    case isFalse failure => exact CmdProcessStatus.noConfusion

/-- Which acknowledgements end the sending: those of PSD and efuse are followed
by data. -/
def AckConcludes : HalmacFeature -> Prop
  | .PSD | .DUMP_PHYSICAL_EFUSE => False
  | _ => True

theorem own_ack_handler (feature : HalmacFeature) (buf : ByteMap) :
    OwnHandler feature (H2C_ACK_HDR_GET_H2C_SEQ buf) (fun _ => AckConcludes feature)
      (ack_handler buf feature) := by
  cases feature with
  | CFG_PARA => exact own_get_h2c_ack_cfg_param buf
  | DUMP_PHYSICAL_EFUSE =>
      exact OwnHandler.of_when_expected (fun other different => keeps_part_set _ different)
        (fun _ _ concluded => concluded.elim)
  | UPDATE_PACKET => exact own_get_h2c_ack .UPDATE_PACKET CmdProcessStatus.noConfusion buf
  | CHANNEL_SWITCH => exact own_get_h2c_ack .CHANNEL_SWITCH CmdProcessStatus.noConfusion buf
  | IQK => exact own_get_h2c_ack .IQK CmdProcessStatus.noConfusion buf
  | POWER_TRACKING => exact own_get_h2c_ack .POWER_TRACKING CmdProcessStatus.noConfusion buf
  | PSD =>
      exact ⟨fun other _ => keeps_pure _ (), fun _ _ => rfl, fun _ _ concluded => concluded.elim⟩

theorem own_data_copy_psd_segment (buf : ByteMap) {other : HalmacFeature} (different : other ≠ .PSD) :
    Program.Keeps (part other) (copy_psd_segment buf) := by
  refine keeps_update (fun adapter => ?_)
  cases adapter.psd.data <;> cases other <;> first | rfl | exact absurd rfl different

theorem own_get_psd_data (answers : C2hAnswers) (buf : ByteMap) :
    OwnHandler .PSD (DATA_GET_H2C_SEQ buf) (fun _ => DATA_GET_END_SEGMENT buf ≠ 0)
      (get_psd_data_88xx answers buf) := by
  refine OwnHandler.of_when_expected (fun other different => ?_) ?_
  · have stored : ∀ change : Adapter -> PsdData,
        Program.Keeps (part other)
          (Program.update (fun adapter => { adapter with psd := change adapter }) : HalmacM Unit) := by
      intro change
      refine keeps_update (fun adapter => ?_)
      cases other <;> first | rfl | exact absurd rfl different
    refine (stored _).bind (fun _ => (own_data_copy_psd_segment buf different).bind (fun _ => ?_))
    exact keeps_ite (keeps_pure _ ()) (keeps_part_set_proc_status .DONE different)
  · intro adapter _ last
    rw [bind_of_ok (Program.update_apply _ adapter), copy_psd_segment,
      bind_of_ok (Program.update_apply _ _), if_neg last, set_proc_status_proc_status]
    exact CmdProcessStatus.noConfusion

theorem keeps_part_copy_efuse_segment (buf : ByteMap) {other : HalmacFeature}
    (different : other ≠ .DUMP_PHYSICAL_EFUSE) : Program.Keeps (part other) (copy_efuse_segment buf) := by
  refine keeps_update (fun adapter => ?_)
  cases adapter.efuse_map <;> cases other <;> first | rfl | exact absurd rfl different

theorem keeps_part_signal_efuse (answers : C2hAnswers) {other : HalmacFeature}
    (different : other ≠ .DUMP_PHYSICAL_EFUSE) : Program.Keeps (part other) (signal_efuse answers) := by
  have flags : ∀ valid phy log : Adapter -> Bool,
      Program.Keeps (part other)
        (Program.update (fun adapter =>
          { adapter with
            efuse_map_valid := valid adapter
            phy_efuse_map := phy adapter
            log_efuse_map := log adapter }) : HalmacM Unit) := by
    intro valid phy log
    refine keeps_update (fun adapter => ?_)
    cases other <;> first | rfl | exact absurd rfl different
  refine (keeps_get _).bind (fun adapter => keeps_ite ?_ ?_)
  · refine (keeps_part_set_proc_status .DONE different).bind (fun _ => ?_)
    refine (flags (fun _ => true) (fun _ => false) Adapter.log_efuse_map).bind (fun _ => ?_)
    refine keeps_ite ((keeps_require _ _ _).bind (fun _ => ?_)) (keeps_pure _ ())
    exact flags Adapter.efuse_map_valid Adapter.phy_efuse_map (fun _ => false)
  · exact (keeps_part_set_proc_status .ERROR different).bind
      (fun _ => flags Adapter.efuse_map_valid (fun _ => false) (fun _ => false))

theorem signal_efuse_proc_status (answers : C2hAnswers) (adapter : Adapter) :
    ((signal_efuse answers adapter).2.halmac_state .DUMP_PHYSICAL_EFUSE).proc_status ≠ .SENDING := by
  unfold signal_efuse
  rw [bind_of_ok (Program.get_apply adapter)]
  split
  case isTrue success =>
    rw [set_proc_status, bind_of_ok (Program.update_apply _ adapter), bind_of_ok (Program.update_apply _ _)]
    have kept : Program.Keeps (fun adapter => adapter.halmac_state .DUMP_PHYSICAL_EFUSE)
        (if adapter.log_efuse_map then do
            Program.require answers.eeprom_parser_ok .EEPROM_PARSING_FAIL
            Program.update (mark_log false)
          else pure () : HalmacM Unit) :=
      keeps_ite
        ((keeps_require _ _ _).bind (fun _ => keeps_update (fun _ => rfl)))
        (keeps_pure _ ())
    rw [congrArg HalmacFeatureState.proc_status (kept _)]
    dsimp only
    rw [halmac_state_set_self]
    exact CmdProcessStatus.noConfusion
  case isFalse failure =>
    rw [set_proc_status, bind_of_ok (Program.update_apply _ adapter), Program.update_apply]
    dsimp only
    rw [halmac_state_set_self]
    exact CmdProcessStatus.noConfusion

theorem own_get_efuse_data (answers : C2hAnswers) (buf : ByteMap) :
    OwnHandler .DUMP_PHYSICAL_EFUSE (DATA_GET_H2C_SEQ buf)
      (fun _ => DATA_GET_END_SEGMENT buf ≠ 0 ∧ answers.malloc = true)
      (get_efuse_data_88xx answers buf) := by
  refine OwnHandler.of_when_expected (fun other different => ?_) ?_
  · refine Program.Keeps.bind (keeps_update (fun adapter => ?_)) (fun _ => ?_)
    · cases other <;> first | rfl | exact absurd rfl different
    · refine (keeps_require _ _ _).bind (fun _ => ?_)
      refine (keeps_part_copy_efuse_segment buf different).bind (fun _ => ?_)
      exact keeps_ite (keeps_pure _ ()) (keeps_part_signal_efuse answers different)
  · intro adapter _ concluded
    rw [bind_of_ok (Program.update_apply _ adapter), concluded.2, Program.require_true,
      bind_of_ok (Program.pure_apply _ _), copy_efuse_segment,
      bind_of_ok (Program.update_apply _ _), if_neg concluded.1]
    exact signal_efuse_proc_status answers _

theorem keeps_ack_handler {view : Adapter -> γ}
    (kept : ∀ (feature : HalmacFeature) (change : HalmacFeatureState -> HalmacFeatureState),
      (∀ state, (change state).seq_num = state.seq_num) ->
      ∀ adapter : Adapter, view (adapter.set feature change) = view adapter)
    (buf : ByteMap) (feature : HalmacFeature) : Program.Keeps view (ack_handler buf feature) := by
  have written : ∀ change : HalmacFeatureState -> HalmacFeatureState,
      (∀ state, (change state).seq_num = state.seq_num) ->
      Program.Keeps view (Program.update (fun adapter => adapter.set feature change) : HalmacM Unit) :=
    fun change same => keeps_update (kept feature change same)
  cases feature with
  | CFG_PARA =>
      exact keeps_when_expected
        ((keeps_get _).bind (fun _ => written _ (fun _ => rfl)))
  | DUMP_PHYSICAL_EFUSE => exact keeps_when_expected (written _ (fun _ => rfl))
  | UPDATE_PACKET => exact keeps_when_expected (written _ (fun _ => rfl))
  | CHANNEL_SWITCH => exact keeps_when_expected (written _ (fun _ => rfl))
  | IQK => exact keeps_when_expected (written _ (fun _ => rfl))
  | POWER_TRACKING => exact keeps_when_expected (written _ (fun _ => rfl))
  | PSD => exact keeps_pure _ ()

theorem keeps_get_h2c_ack {view : Adapter -> γ}
    (kept : ∀ (feature : HalmacFeature) (change : HalmacFeatureState -> HalmacFeatureState),
      (∀ state, (change state).seq_num = state.seq_num) ->
      ∀ adapter : Adapter, view (adapter.set feature change) = view adapter)
    (buf : ByteMap) : Program.Keeps view (get_h2c_ack_88xx buf) := by
  by_cases offload : H2C_ACK_HDR_GET_H2C_CMD_ID buf = 0xFF
  · by_cases own : ∃ feature : HalmacFeature,
        H2C_ACK_HDR_GET_H2C_SUB_CMD_ID buf % 256 = feature.sub_cmd_id
    · rcases own with ⟨feature, same⟩
      rw [get_h2c_ack_88xx_eq offload same]
      exact keeps_ack_handler kept buf feature
    · rcases get_h2c_ack_88xx_of_other (not_exists.mp own) with ⟨outcome, unchanged⟩
      rw [unchanged]
      exact fun _ => rfl
  · unfold get_h2c_ack_88xx
    rw [if_pos offload]
    exact keeps_stop _ _

theorem keeps_numbering_get_psd_data (answers : C2hAnswers) (buf : ByteMap) :
    Program.Keeps numbering (get_psd_data_88xx answers buf) := by
  refine keeps_when_expected (Program.Keeps.bind (keeps_update ?_) (fun _ => ?_))
  · exact fun _ => rfl
  refine Program.Keeps.bind (keeps_update (fun adapter => ?_)) (fun _ => ?_)
  · cases adapter.psd.data <;> rfl
  · exact keeps_ite (keeps_pure _ ()) (keeps_numbering_set_proc_status .PSD .DONE)

theorem keeps_numbering_get_efuse_data (answers : C2hAnswers) (buf : ByteMap) :
    Program.Keeps numbering (get_efuse_data_88xx answers buf) := by
  refine keeps_when_expected (Program.Keeps.bind (keeps_update ?_) (fun _ => ?_))
  · exact fun _ => rfl
  refine (keeps_require _ _ _).bind (fun _ => ?_)
  refine Program.Keeps.bind (keeps_update (fun adapter => ?_)) (fun _ => ?_)
  · cases present : adapter.efuse_map <;> simp only [numbering, present, Option.isSome]
  · refine keeps_ite (keeps_pure _ ())
      ((keeps_get _).bind (fun adapter => keeps_ite ?_ ?_))
    · refine (keeps_numbering_set_proc_status _ .DONE).bind (fun _ => ?_)
      refine Program.Keeps.bind (keeps_update ?_) (fun _ => ?_)
      · exact fun _ => rfl
      exact keeps_ite
        ((keeps_require _ _ _).bind (fun _ => keeps_update (fun _ => rfl)))
        (keeps_pure _ ())
    · exact (keeps_numbering_set_proc_status _ .ERROR).bind
        (fun _ => keeps_update (fun _ => rfl))

theorem keeps_numbering_parse_c2h_pkt (answers : C2hAnswers) (buf : ByteMap) :
    Program.Keeps numbering (parse_c2h_pkt_88xx answers buf) := by
  unfold parse_c2h_pkt_88xx
  refine keeps_ite (keeps_stop _ _) ?_
  refine keeps_ite (keeps_pure _ _) ?_
  refine keeps_ite (keeps_get_h2c_ack numbering_set buf) ?_
  refine keeps_ite (keeps_numbering_set_proc_status _ _) ?_
  refine keeps_ite (keeps_numbering_get_psd_data answers buf) ?_
  exact keeps_ite (keeps_numbering_get_efuse_data answers buf) (keeps_stop _ _)

/-- A packet that repeats the command and the number of a delivered command: an
acknowledgement, or a report or data of its feature. -/
def AnswerTo (sub_cmd_id ticket : Nat) (buf : ByteMap) : Prop :=
  C2H_HDR_GET_CMD_ID buf = 0xFF ∧
    ((C2H_HDR_GET_C2H_SUB_CMD_ID buf = C2H_SUB_CMD_ID_H2C_ACK_HDR ∧
        H2C_ACK_HDR_GET_H2C_CMD_ID buf = 0xFF ∧ H2C_ACK_HDR_GET_H2C_SUB_CMD_ID buf % 256 = sub_cmd_id ∧
        H2C_ACK_HDR_GET_H2C_SEQ buf = ticket % 256) ∨
      (C2H_HDR_GET_C2H_SUB_CMD_ID buf = C2H_SUB_CMD_ID_SCAN_STATUS_RPT ∧
        sub_cmd_id = HalmacFeature.CHANNEL_SWITCH.sub_cmd_id ∧
        SCAN_STATUS_RPT_GET_H2C_SEQ buf = ticket % 256) ∨
      (C2H_HDR_GET_C2H_SUB_CMD_ID buf = C2H_SUB_CMD_ID_PSD_DATA ∧
        sub_cmd_id = HalmacFeature.PSD.sub_cmd_id ∧ DATA_GET_H2C_SEQ buf = ticket % 256) ∨
      (C2H_HDR_GET_C2H_SUB_CMD_ID buf = C2H_SUB_CMD_ID_EFUSE_DATA ∧
        sub_cmd_id = HalmacFeature.DUMP_PHYSICAL_EFUSE.sub_cmd_id ∧
        DATA_GET_H2C_SEQ buf = ticket % 256))

/-- An answer to a delivered command, with fewer than 256 commands in between. -/
structure Timely (adapter : Adapter) (sub_cmd_id ticket : Nat) (buf : ByteMap) : Prop where
  delivered : (sub_cmd_id, ticket) ∈ adapter.tickets.delivered
  answer : AnswerTo sub_cmd_id ticket buf
  window : adapter.tickets.drawn ≤ ticket + 256

/-- A packet of a kind that answers no offload command. -/
def Unsolicited (buf : ByteMap) : Prop :=
  C2H_HDR_GET_CMD_ID buf = 0xFF ->
    C2H_HDR_GET_C2H_SUB_CMD_ID buf ≠ C2H_SUB_CMD_ID_H2C_ACK_HDR ∧
      C2H_HDR_GET_C2H_SUB_CMD_ID buf ≠ C2H_SUB_CMD_ID_SCAN_STATUS_RPT ∧
      C2H_HDR_GET_C2H_SUB_CMD_ID buf ≠ C2H_SUB_CMD_ID_PSD_DATA ∧
      C2H_HDR_GET_C2H_SUB_CMD_ID buf ≠ C2H_SUB_CMD_ID_EFUSE_DATA

/-- The packet that ends the wait: any answer, but for PSD and the efuse the data
with the end flag. -/
def Concludes (buf : ByteMap) : HalmacFeature -> Prop
  | .PSD =>
      C2H_HDR_GET_C2H_SUB_CMD_ID buf = C2H_SUB_CMD_ID_PSD_DATA ∧ DATA_GET_END_SEGMENT buf ≠ 0
  | .DUMP_PHYSICAL_EFUSE =>
      C2H_HDR_GET_C2H_SUB_CMD_ID buf = C2H_SUB_CMD_ID_EFUSE_DATA ∧ DATA_GET_END_SEGMENT buf ≠ 0
  | _ => True

/-- Handling the packet matches it with the right feature. -/
structure Matched (answers : C2hAnswers) (buf : ByteMap) (adapter : Adapter) : Prop where
  intact : (parse_c2h_pkt_88xx answers buf adapter).2.null_write = false
  leaves : ∀ (feature : HalmacFeature) ticket,
    Timely adapter feature.sub_cmd_id ticket buf ->
      adapter.tickets.latest feature.sub_cmd_id = some ticket ->
      (adapter.halmac_state feature).proc_status = .SENDING -> Concludes buf feature ->
      ((parse_c2h_pkt_88xx answers buf adapter).2.halmac_state feature).proc_status ≠ .SENDING
  others : ∀ sub_cmd_id ticket, Timely adapter sub_cmd_id ticket buf ->
    ∀ feature : HalmacFeature,
      feature.sub_cmd_id ≠ sub_cmd_id ∨ adapter.tickets.latest feature.sub_cmd_id ≠ some ticket ->
      part feature (parse_c2h_pkt_88xx answers buf adapter).2 = part feature adapter

/-- The condition on a packet: a scan report carries the recorded number, and the
memory that the data handlers ask for is there. -/
structure PacketCondition (answers : C2hAnswers) (buf : ByteMap) (adapter : Adapter) : Prop where
  scan : C2H_HDR_GET_CMD_ID buf = 0xFF ->
    C2H_HDR_GET_C2H_SUB_CMD_ID buf = C2H_SUB_CMD_ID_SCAN_STATUS_RPT ->
    SCAN_STATUS_RPT_GET_H2C_SEQ buf = (adapter.halmac_state .CHANNEL_SWITCH).seq_num
  psd : C2H_HDR_GET_CMD_ID buf = 0xFF ->
    C2H_HDR_GET_C2H_SUB_CMD_ID buf = C2H_SUB_CMD_ID_PSD_DATA ->
    Expected .PSD (DATA_GET_H2C_SEQ buf) adapter -> adapter.psd.data = none -> answers.malloc = true
  efuse : C2H_HDR_GET_CMD_ID buf = 0xFF ->
    C2H_HDR_GET_C2H_SUB_CMD_ID buf = C2H_SUB_CMD_ID_EFUSE_DATA ->
    Expected .DUMP_PHYSICAL_EFUSE (DATA_GET_H2C_SEQ buf) adapter ->
    DATA_GET_END_SEGMENT buf ≠ 0 -> answers.malloc = true

theorem parse_h2c_ack (answers : C2hAnswers) (offload : C2H_HDR_GET_CMD_ID buf = 0xFF)
    (kind : C2H_HDR_GET_C2H_SUB_CMD_ID buf = C2H_SUB_CMD_ID_H2C_ACK_HDR) :
    parse_c2h_pkt_88xx answers buf = get_h2c_ack_88xx buf := by
  unfold parse_c2h_pkt_88xx
  rw [if_neg (not_not_intro offload), kind]
  rfl

theorem parse_scan_rpt (answers : C2hAnswers) (offload : C2H_HDR_GET_CMD_ID buf = 0xFF)
    (kind : C2H_HDR_GET_C2H_SUB_CMD_ID buf = C2H_SUB_CMD_ID_SCAN_STATUS_RPT) :
    parse_c2h_pkt_88xx answers buf = get_scan_rpt_88xx buf := by
  unfold parse_c2h_pkt_88xx
  rw [if_neg (not_not_intro offload), kind]
  rfl

theorem parse_psd_data (answers : C2hAnswers) (offload : C2H_HDR_GET_CMD_ID buf = 0xFF)
    (kind : C2H_HDR_GET_C2H_SUB_CMD_ID buf = C2H_SUB_CMD_ID_PSD_DATA) :
    parse_c2h_pkt_88xx answers buf = get_psd_data_88xx answers buf := by
  unfold parse_c2h_pkt_88xx
  rw [if_neg (not_not_intro offload), kind]
  rfl

theorem parse_efuse_data (answers : C2hAnswers) (offload : C2H_HDR_GET_CMD_ID buf = 0xFF)
    (kind : C2H_HDR_GET_C2H_SUB_CMD_ID buf = C2H_SUB_CMD_ID_EFUSE_DATA) :
    parse_c2h_pkt_88xx answers buf = get_efuse_data_88xx answers buf := by
  unfold parse_c2h_pkt_88xx
  rw [if_neg (not_not_intro offload), kind]
  rfl

theorem parse_unsolicited (answers : C2hAnswers) (unsolicited : Unsolicited buf) :
    ∃ outcome, parse_c2h_pkt_88xx answers buf = fun adapter => (outcome, adapter) := by
  unfold parse_c2h_pkt_88xx
  by_cases offload : C2H_HDR_GET_CMD_ID buf = 0xFF
  · rcases unsolicited offload with ⟨ack, scan, psd, efuse⟩
    rw [if_neg (not_not_intro offload), if_neg ack, if_neg scan, if_neg psd, if_neg efuse]
    split
    case isTrue debug => exact ⟨_, rfl⟩
    case isFalse unknown => exact ⟨_, rfl⟩
  · rw [if_pos offload]
    exact ⟨_, rfl⟩

/-! ## A packet is handled by the feature it is for -/

theorem Numbered.unexpected (numbered : Numbered adapter) {feature : HalmacFeature} (timely : Timely adapter feature.sub_cmd_id ticket buf)
    (stale : adapter.tickets.latest feature.sub_cmd_id ≠ some ticket) :
    ticket % 256 ≠ (adapter.halmac_state feature).seq_num := by
  rcases numbered.ordered.known _ _ timely.delivered with ⟨last, latest, _⟩
  rw [numbered.recorded feature last latest]
  refine numbered.ordered.stale_ne timely.delivered latest (fun same => ?_) timely.window
  exact stale (by rw [latest, same])

theorem OwnHandler.others_kept {feature : HalmacFeature} {concluding : Adapter -> Prop} (own : OwnHandler feature (ticket % 256) concluding handler) (numbered : Numbered adapter)
    (timely : Timely adapter feature.sub_cmd_id ticket buf) {other : HalmacFeature}
    (apart : other.sub_cmd_id ≠ feature.sub_cmd_id ∨
      adapter.tickets.latest other.sub_cmd_id ≠ some ticket) :
    part other (handler adapter).2 = part other adapter := by
  by_cases same : other = feature
  · subst same
    have stale := apart.resolve_left (fun different => different rfl)
    rw [own.drops adapter]
    intro expected
    exact numbered.unexpected timely stale ((Nat.mod_mod ticket 256).symm.trans expected.1)
  · exact own.others other same adapter

theorem Numbered.expected (numbered : Numbered adapter) {feature : HalmacFeature} (latest : adapter.tickets.latest feature.sub_cmd_id = some ticket)
    (sending : (adapter.halmac_state feature).proc_status = .SENDING) : Expected feature (ticket % 256) adapter := by
  refine ⟨?_, sending⟩
  rw [Nat.mod_mod, numbered.recorded feature ticket latest]

theorem keeps_null_write_get_h2c_ack (buf : ByteMap) : Program.Keeps Adapter.null_write (get_h2c_ack_88xx buf) :=
  keeps_get_h2c_ack (fun _ _ _ _ => rfl) buf

theorem matched_ack (answers : C2hAnswers) (numbered : Numbered adapter) (header : C2H_HDR_GET_CMD_ID buf = 0xFF)
    (kind : C2H_HDR_GET_C2H_SUB_CMD_ID buf = C2H_SUB_CMD_ID_H2C_ACK_HDR) : Matched answers buf adapter := by
  have command : ∀ {sub_cmd_id ticket : Nat}, AnswerTo sub_cmd_id ticket buf ->
      H2C_ACK_HDR_GET_H2C_CMD_ID buf = 0xFF ∧ H2C_ACK_HDR_GET_H2C_SUB_CMD_ID buf % 256 = sub_cmd_id ∧
        H2C_ACK_HDR_GET_H2C_SEQ buf = ticket % 256 := by
    intro sub_cmd_id ticket answer
    rcases answer.2 with ack | report | data | data
    · exact ack.2
    · exact nomatch kind.symm.trans report.1
    · exact nomatch kind.symm.trans data.1
    · exact nomatch kind.symm.trans data.1
  refine ⟨?_, ?_, ?_⟩
  · rw [parse_h2c_ack answers header kind, keeps_null_write_get_h2c_ack buf adapter]
    exact numbered.intact
  · intro feature ticket timely latest sending concludes
    rcases command timely.answer with ⟨offload, own, number⟩
    rw [parse_h2c_ack answers header kind, get_h2c_ack_88xx_eq offload own]
    have handler := own_ack_handler feature buf
    rw [number] at handler
    refine handler.leaves adapter (numbered.expected latest sending) ?_
    cases feature <;> first | exact trivial | exact nomatch kind.symm.trans concludes.1
  · intro sub_cmd_id ticket timely other apart
    rcases command timely.answer with ⟨offload, own, number⟩
    rw [parse_h2c_ack answers header kind]
    by_cases known : ∃ feature : HalmacFeature,
        H2C_ACK_HDR_GET_H2C_SUB_CMD_ID buf % 256 = feature.sub_cmd_id
    · rcases known with ⟨feature, same⟩
      have handler := own_ack_handler feature buf
      rw [number] at handler
      rw [get_h2c_ack_88xx_eq offload same]
      rw [← own, same] at timely apart
      exact handler.others_kept numbered timely apart
    · rcases get_h2c_ack_88xx_of_other (not_exists.mp known) with ⟨outcome, unchanged⟩
      rw [unchanged]

theorem matched_scan_rpt (answers : C2hAnswers) (numbered : Numbered adapter) (header : C2H_HDR_GET_CMD_ID buf = 0xFF)
    (kind : C2H_HDR_GET_C2H_SUB_CMD_ID buf = C2H_SUB_CMD_ID_SCAN_STATUS_RPT)
    (current : SCAN_STATUS_RPT_GET_H2C_SEQ buf = (adapter.halmac_state .CHANNEL_SWITCH).seq_num) :
    Matched answers buf adapter := by
  have report : ∀ {sub_cmd_id ticket : Nat}, AnswerTo sub_cmd_id ticket buf ->
      sub_cmd_id = HalmacFeature.CHANNEL_SWITCH.sub_cmd_id ∧
        SCAN_STATUS_RPT_GET_H2C_SEQ buf = ticket % 256 := by
    intro sub_cmd_id ticket answer
    rcases answer.2 with ack | report | data | data
    · exact nomatch kind.symm.trans ack.1
    · exact report.2
    · exact nomatch kind.symm.trans data.1
    · exact nomatch kind.symm.trans data.1
  refine ⟨?_, ?_, ?_⟩
  · rw [parse_scan_rpt answers header kind]
    exact numbered.intact
  · intro feature ticket timely latest sending concludes
    rw [parse_scan_rpt answers header kind, sub_cmd_id_injective (report timely.answer).1,
      get_scan_rpt_88xx, set_proc_status_proc_status]
    split
    case isTrue success => exact CmdProcessStatus.noConfusion
    case isFalse failure => exact CmdProcessStatus.noConfusion
  · intro sub_cmd_id ticket timely other apart
    rcases report timely.answer with ⟨rfl, number⟩
    rw [parse_scan_rpt answers header kind]
    by_cases same : other = .CHANNEL_SWITCH
    · subst same
      have stale := apart.resolve_left (fun different => different rfl)
      exact absurd (number.symm.trans current) (numbered.unexpected timely stale)
    · exact keeps_part_set_proc_status _ same adapter

theorem null_write_get_psd_data (answers : C2hAnswers) (buf : ByteMap) (intact : adapter.null_write = false)
    (granted : Expected .PSD (DATA_GET_H2C_SEQ buf) adapter -> adapter.psd.data = none ->
      answers.malloc = true) : (get_psd_data_88xx answers buf adapter).2.null_write = false := by
  by_cases expected : Expected .PSD (DATA_GET_H2C_SEQ buf) adapter
  · have ends : Program.Keeps Adapter.null_write
        (if DATA_GET_END_SEGMENT buf = 0 then pure () else set_proc_status .PSD .DONE : HalmacM Unit) :=
      keeps_ite (keeps_pure _ ()) (keeps_update (fun _ => rfl))
    unfold get_psd_data_88xx copy_psd_segment
    rw [when_expected_of_expected _ expected, bind_of_ok (Program.update_apply _ _),
      bind_of_ok (Program.update_apply _ _), ends]
    cases present : adapter.psd.data with
    | none =>
        simp only [Option.isNone_none, granted expected present, Bool.and_self, if_pos]
        exact intact
    | some data => exact intact
  · rw [get_psd_data_88xx, when_expected_of_not _ expected]
    exact intact

theorem null_write_signal_efuse (answers : C2hAnswers) : Program.Keeps Adapter.null_write (signal_efuse answers) := by
  refine (keeps_get _).bind (fun _ => keeps_ite ?_ ?_)
  · refine Program.Keeps.bind (keeps_update (fun _ => rfl)) (fun _ => ?_)
    refine Program.Keeps.bind (keeps_update ?_) (fun _ => ?_)
    · exact fun _ => rfl
    exact keeps_ite
      ((keeps_require _ _ _).bind (fun _ => keeps_update (fun _ => rfl)))
      (keeps_pure _ ())
  · refine Program.Keeps.bind (keeps_update (fun _ => rfl)) (fun _ => keeps_update ?_)
    exact fun _ => rfl

theorem null_write_get_efuse_data (answers : C2hAnswers) (buf : ByteMap)
    (intact : adapter.null_write = false) (mapped : adapter.efuse_map.isSome = true) :
    (get_efuse_data_88xx answers buf adapter).2.null_write = false := by
  by_cases expected : Expected .DUMP_PHYSICAL_EFUSE (DATA_GET_H2C_SEQ buf) adapter
  · have ends : Program.Keeps Adapter.null_write
        (if DATA_GET_END_SEGMENT buf = 0 then pure () else signal_efuse answers : HalmacM Unit) :=
      keeps_ite (keeps_pure _ ()) (null_write_signal_efuse answers)
    unfold get_efuse_data_88xx copy_efuse_segment
    rw [when_expected_of_expected _ expected, bind_of_ok (Program.update_apply _ _)]
    cases answers.malloc with
    | false => exact intact
    | true =>
        rw [Program.require_true, bind_of_ok (Program.pure_apply _ _), bind_of_ok (Program.update_apply _ _), ends]
        rcases Option.isSome_iff_exists.mp mapped with ⟨map, present⟩
        rw [present]
        exact intact
  · rw [get_efuse_data_88xx, when_expected_of_not _ expected]
    exact intact

theorem matched_psd_data (numbered : Numbered adapter) (header : C2H_HDR_GET_CMD_ID buf = 0xFF)
    (kind : C2H_HDR_GET_C2H_SUB_CMD_ID buf = C2H_SUB_CMD_ID_PSD_DATA)
    (granted : Expected .PSD (DATA_GET_H2C_SEQ buf) adapter -> adapter.psd.data = none ->
      answers.malloc = true) : Matched answers buf adapter := by
  have data : ∀ {sub_cmd_id ticket : Nat}, AnswerTo sub_cmd_id ticket buf ->
      sub_cmd_id = HalmacFeature.PSD.sub_cmd_id ∧ DATA_GET_H2C_SEQ buf = ticket % 256 := by
    intro sub_cmd_id ticket answer
    rcases answer.2 with ack | report | data | data
    · exact nomatch kind.symm.trans ack.1
    · exact nomatch kind.symm.trans report.1
    · exact data.2
    · exact nomatch kind.symm.trans data.1
  have handler := own_get_psd_data answers buf
  refine ⟨?_, ?_, ?_⟩
  · rw [parse_psd_data answers header kind]
    exact null_write_get_psd_data answers buf numbered.intact granted
  · intro feature ticket timely latest sending concludes
    rcases data timely.answer with ⟨own, number⟩
    rcases sub_cmd_id_injective own with rfl
    rw [number] at handler
    rw [parse_psd_data answers header kind]
    exact handler.leaves adapter (numbered.expected latest sending) concludes.2
  · intro sub_cmd_id ticket timely other apart
    rcases data timely.answer with ⟨rfl, number⟩
    rw [number] at handler
    rw [parse_psd_data answers header kind]
    exact handler.others_kept numbered timely apart

theorem matched_efuse_data (numbered : Numbered adapter) (header : C2H_HDR_GET_CMD_ID buf = 0xFF)
    (kind : C2H_HDR_GET_C2H_SUB_CMD_ID buf = C2H_SUB_CMD_ID_EFUSE_DATA) (mapped : adapter.efuse_map.isSome = true)
    (granted : Expected .DUMP_PHYSICAL_EFUSE (DATA_GET_H2C_SEQ buf) adapter ->
      DATA_GET_END_SEGMENT buf ≠ 0 -> answers.malloc = true) : Matched answers buf adapter := by
  have data : ∀ {sub_cmd_id ticket : Nat}, AnswerTo sub_cmd_id ticket buf ->
      sub_cmd_id = HalmacFeature.DUMP_PHYSICAL_EFUSE.sub_cmd_id ∧
        DATA_GET_H2C_SEQ buf = ticket % 256 := by
    intro sub_cmd_id ticket answer
    rcases answer.2 with ack | report | data | data
    · exact nomatch kind.symm.trans ack.1
    · exact nomatch kind.symm.trans report.1
    · exact nomatch kind.symm.trans data.1
    · exact data.2
  have handler := own_get_efuse_data answers buf
  refine ⟨?_, ?_, ?_⟩
  · rw [parse_efuse_data answers header kind]
    exact null_write_get_efuse_data answers buf numbered.intact mapped
  · intro feature ticket timely latest sending concludes
    rcases data timely.answer with ⟨own, number⟩
    rcases sub_cmd_id_injective own with rfl
    have expected := numbered.expected latest sending
    rw [number] at handler granted
    rw [parse_efuse_data answers header kind]
    exact handler.leaves adapter expected ⟨concludes.2, granted expected concludes.2⟩
  · intro sub_cmd_id ticket timely other apart
    rcases data timely.answer with ⟨rfl, number⟩
    rw [number] at handler
    rw [parse_efuse_data answers header kind]
    exact handler.others_kept numbered timely apart

def FirmwareSends (buf : ByteMap) (adapter : Adapter) : Prop :=
  Unsolicited buf ∨
    ∃ sub_cmd_id ticket, Timely adapter sub_cmd_id ticket buf

theorem matched_unsolicited (answers : C2hAnswers)
    (numbered : Numbered adapter) (unsolicited : Unsolicited buf) : Matched answers buf adapter := by
  rcases parse_unsolicited answers unsolicited with ⟨outcome, unchanged⟩
  have answer : ∀ {sub_cmd_id ticket : Nat}, ¬ AnswerTo sub_cmd_id ticket buf := by
    intro sub_cmd_id ticket answer
    rcases unsolicited answer.1 with ⟨ack, scan, psd, efuse⟩
    rcases answer.2 with same | same | same | same
    · exact ack same.1
    · exact scan same.1
    · exact psd same.1
    · exact efuse same.1
  refine ⟨?_, fun _ _ timely => absurd timely.answer answer, fun _ _ timely => absurd timely.answer answer⟩
  rw [unchanged]
  exact numbered.intact

theorem Numbered.matched (numbered : Numbered adapter) (sends : FirmwareSends buf adapter)
    (condition : PacketCondition answers buf adapter) : Matched answers buf adapter := by
  rcases sends with unsolicited | ⟨sub_cmd_id, ticket, timely⟩
  · exact matched_unsolicited answers numbered unsolicited
  · have header := timely.answer.1
    rcases timely.answer.2 with ack | report | data | data
    · exact matched_ack answers numbered header ack.1
    · exact matched_scan_rpt answers numbered header report.1 (condition.scan header report.1)
    · exact matched_psd_data numbered header data.1 (condition.psd header data.1)
    · have sent := timely.delivered
      rw [data.2.1] at sent
      exact matched_efuse_data numbered header data.1 (numbered.mapped ticket sent)
        (condition.efuse header data.1)

theorem Numbered.parse (numbered : Numbered adapter) (sends : FirmwareSends buf adapter)
    (condition : PacketCondition answers buf adapter) : Numbered (parse_c2h_pkt_88xx answers buf adapter).2 := by
  have kept := keeps_numbering_parse_c2h_pkt answers buf adapter
  rcases Prod.mk.inj kept with ⟨counter, rest⟩
  rcases Prod.mk.inj rest with ⟨tickets, rest⟩
  rcases Prod.mk.inj rest with ⟨recorded, mapped⟩
  refine numbered.congr counter tickets (congrFun recorded) (fun present => mapped.trans present) ?_
  rw [numbered.intact]
  exact (numbered.matched sends condition).intact

/-- The calls of the driver and the packets of the firmware. -/
inductive Operation
  | cfg_parameter (answers : Answers) (param : PhyParameter) (full_fifo : Bool)
  | update_packet (answers : Answers) (size : Nat)
  | clear_ch_info
  | add_ch_info (answers : Answers) (extra_info : Bool)
  | add_extra_ch_info (extra_info_size : Nat) (extra_info : Bool)
  | ctrl_ch_switch (answers : Answers) (switch_en : Nat)
  | start_iqk (answers : Answers)
  | ctrl_pwr_tracking (answers : Answers)
  | psd (answers : Answers)
  | dump_efuse_map (answers : Answers)
  | dump_log_efuse_map (answers : Answers)
  | write_hw_efuse
  | reset_feature (feature : HalmacFeature)
  | other (answers : Answers) (command : OtherCommand)
  | h2c_header
  | c2h (answers : C2hAnswers) (buf : ByteMap)

def Operation.program : Operation -> HalmacM Unit
  | .cfg_parameter answers param full_fifo => cfg_parameter_88xx answers param full_fifo
  | .update_packet answers size => update_packet_88xx answers size
  | .clear_ch_info => clear_ch_info_88xx
  | .add_ch_info answers extra_info => add_ch_info_88xx answers extra_info
  | .add_extra_ch_info extra_info_size extra_info => add_extra_ch_info_88xx extra_info_size extra_info
  | .ctrl_ch_switch answers switch_en => ctrl_ch_switch_88xx answers switch_en
  | .start_iqk answers => start_iqk_88xx answers
  | .ctrl_pwr_tracking answers => ctrl_pwr_tracking_88xx answers
  | .psd answers => psd_88xx answers
  | .dump_efuse_map answers => dump_efuse_map_88xx answers
  | .dump_log_efuse_map answers => dump_log_efuse_map_88xx answers
  | .write_hw_efuse => write_hw_efuse_88xx
  | .reset_feature feature => reset_ofld_feature_88xx feature
  | .other answers command => other_command answers command
  | .h2c_header => set_h2c_header_88xx
  | .c2h answers buf => parse_c2h_pkt_88xx answers buf

def offload_step (adapter : Adapter) (operation : Operation) : Adapter :=
  (operation.program adapter).2

/-- The firmware sends only answers to delivered commands, in time. -/
def FirmwareAnswers (adapter : Adapter) : Operation -> Prop
  | .c2h _ buf => FirmwareSends buf adapter
  | _ => True

def OffloadCondition (adapter : Adapter) : Operation -> Prop
  | .psd answers => PsdNumbered answers adapter
  | .c2h answers buf => PacketCondition answers buf adapter
  | _ => True

def PacketMatched (adapter : Adapter) : Operation -> Prop
  | .c2h answers buf => Matched answers buf adapter
  | _ => True

theorem Numbered.step (numbered : Numbered adapter) {operation : Operation}
    (firmware : FirmwareAnswers adapter operation) (condition : OffloadCondition adapter operation) :
    Numbered (offload_step adapter operation) := by
  have marked : ∀ flag (state : Adapter), Numbered state ->
      Numbered (mark_phy flag state) ∧ Numbered (mark_log flag state) :=
    fun _ _ holds =>
      ⟨holds.congr rfl rfl (fun _ => rfl) id rfl, holds.congr rfl rfl (fun _ => rfl) id rfl⟩
  cases operation with
  | cfg_parameter answers param full_fifo =>
      exact maintains_cfg_parameter answers param full_fifo adapter numbered
  | update_packet answers size => exact maintains_update_packet answers size adapter numbered
  | clear_ch_info => exact maintains_clear_ch_info adapter numbered
  | add_ch_info answers extra_info => exact maintains_add_ch_info answers extra_info adapter numbered
  | add_extra_ch_info extra_info_size extra_info =>
      exact maintains_add_extra_ch_info extra_info_size extra_info adapter numbered
  | ctrl_ch_switch answers switch_en => exact maintains_ctrl_ch_switch answers switch_en adapter numbered
  | start_iqk answers => exact maintains_plain_command answers HalmacFeature.noConfusion adapter numbered
  | ctrl_pwr_tracking answers =>
      exact maintains_plain_command answers HalmacFeature.noConfusion adapter numbered
  | psd answers => exact numbered.psd condition
  | dump_efuse_map answers =>
      exact maintains_dump_command answers (fun flag state holds => (marked flag state holds).1) _
        adapter numbered
  | dump_log_efuse_map answers =>
      exact maintains_dump_command answers (fun flag state holds => (marked flag state holds).2) _
        adapter numbered
  | write_hw_efuse => exact numbered.congr rfl rfl (fun _ => rfl) id rfl
  | reset_feature feature => exact maintains_reset_ofld_feature feature adapter numbered
  | other answers command => exact numbered.other_command answers command
  | h2c_header => exact numbered.h2c_header
  | c2h answers buf => exact numbered.parse firmware condition

/-- After `init_adapter_param_88xx`. -/
def Adapter.init : Adapter where
  h2c_seq_num := 0
  halmac_state := fun _ => ⟨.IDLE, .IDLE, 0, 0⟩
  cfg_param_info := ⟨false, 0, 0, 0, false, 0, 0⟩
  ch_sw_info := ⟨false, 0, 0, false, 0⟩
  psd := ⟨0, 0, none⟩
  efuse_map := none
  efuse_map_valid := false
  efuse_seg_size := 0
  phy_efuse_map := false
  log_efuse_map := false
  null_write := false
  tickets := Tickets.initial

theorem numbered_init : Numbered Adapter.init where
  ordered := Tickets.ordered_initial
  counter := rfl
  recorded := fun _ _ latest => nomatch latest
  mapped := fun _ sent => nomatch sent
  intact := rfl

/-- In every run in which PSD commands happen to get the recorded number, scan
reports carry the recorded number and the data handlers get their memory, each
packet ends the wait of the feature whose latest command it answers, and changes
no other feature. -/
theorem offload_answers_matched (operations : List Operation)
    (firmware : Run.Guarded offload_step FirmwareAnswers Adapter.init operations)
    (condition : Run.Guarded offload_step OffloadCondition Adapter.init operations) :
    Run.Guarded offload_step PacketMatched Adapter.init operations := by
  refine (firmware.and condition).of_invariant ?_ ?_ numbered_init
  · exact fun adapter operation guard numbered => numbered.step guard.1 guard.2
  · intro adapter operation guard numbered
    cases operation with
    | c2h answers buf => exact numbered.matched guard.1 guard.2
    | _ => trivial

def Answers.granted : Answers where
  fw_validate := true
  h2c_version := 4
  gen_info_sent := true
  malloc := fun _ => true
  malloc_efuse_map := true
  malloc_map := true
  malloc_size := 2048
  rsvd_pg_size := 2048
  txdesc_size := 48
  bank_switches := true
  dl_rsvd_page := none
  send_h2c_pkt := none
  eeprom_parser_ok := true

/-- The only segment of PSD data, for the command with a number. -/
def psd_answer (seq_num : UInt8) : ByteMap := fun offset =>
  [0xFF, 0, 0x04, 0, 0x80, 0, 0, 0, seq_num].getD offset 0

/-- A PSD command alone gets the number 0, and its data end the wait. -/
theorem offload_answers_matched_psd_first :
    Run.Guarded offload_step PacketMatched Adapter.init
      [.psd .granted, .c2h ⟨true, true⟩ (psd_answer 0)] := by
  have timely : Timely (offload_step Adapter.init (.psd .granted)) 0x10 0 (psd_answer 0) :=
    ⟨List.mem_singleton.mpr rfl, ⟨by decide, by decide⟩, by decide⟩
  refine offload_answers_matched _ ⟨trivial, .inr ⟨0x10, 0, timely⟩, trivial⟩ ⟨fun _ _ => rfl, ?_, trivial⟩
  exact ⟨fun _ kind => absurd kind (by decide), fun _ _ _ _ => rfl, fun _ kind => absurd kind (by decide)⟩

/-- After a calibration the PSD command has the number 1, which is not recorded:
its data are dropped and it stays in `SENDING`. -/
theorem psd_answer_dropped :
    ¬ ∀ operations, Run.Guarded offload_step FirmwareAnswers Adapter.init operations ->
      Run.Guarded offload_step PacketMatched Adapter.init operations := by
  intro claim
  have timely : Timely (offload_step (offload_step Adapter.init (.start_iqk .granted)) (.psd .granted))
      0x10 1 (psd_answer 1) :=
    ⟨List.mem_cons_self, ⟨by decide, by decide⟩, by decide⟩
  have matched := claim [.start_iqk .granted, .psd .granted, .c2h ⟨true, true⟩ (psd_answer 1)]
    ⟨trivial, trivial, .inr ⟨0x10, 1, timely⟩, trivial⟩
  exact matched.2.2.1.leaves .PSD 1 timely (by decide) (by decide) ⟨by decide, by decide⟩ (by decide)

end Offload

end Rtl8821ce
