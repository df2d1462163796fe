import Rtl8821ce.Hal.Offload

/-!
# The numbering of the offload commands

The counter is the number of commands modulo 256, and each feature has recorded
the number of its latest command.  Every command keeps this, except that a PSD
command must happen to get the number that is recorded already.
-/

namespace Rtl8821ce

namespace Offload

open Program (Maintains bind_of_ok holds_bind maintains_get maintains_ite maintains_pure maintains_require
  maintains_stop maintains_update)

variable {adapter : Adapter} {pkt : H2cPkt}

theorem seq_num_set {change : HalmacFeatureState -> HalmacFeatureState}
    (same : ∀ state, (change state).seq_num = state.seq_num) (adapter : Adapter) (feature other : HalmacFeature) :
    ((adapter.set feature change).halmac_state other).seq_num =
      (adapter.halmac_state other).seq_num := by
  by_cases own : other = feature
  · subst own
    rw [halmac_state_set_self, same]
  · rw [halmac_state_set_of_ne adapter change own]

/-! ## The invariant of the numbering -/

/-- The counter and the recorded numbers agree with the history, an efuse command
was sent with a map to fill, and nothing was written through a null pointer. -/
structure Numbered (adapter : Adapter) : Prop where
  ordered : adapter.tickets.Ordered
  counter : adapter.h2c_seq_num = adapter.tickets.drawn % 256
  recorded : ∀ (feature : HalmacFeature) ticket,
    adapter.tickets.latest feature.sub_cmd_id = some ticket ->
      (adapter.halmac_state feature).seq_num = ticket % 256
  mapped : ∀ ticket,
    (HalmacFeature.DUMP_PHYSICAL_EFUSE.sub_cmd_id, ticket) ∈ adapter.tickets.delivered ->
      adapter.efuse_map.isSome = true
  intact : adapter.null_write = false

theorem Numbered.congr {before after : Adapter} (numbered : Numbered before)
    (counter : after.h2c_seq_num = before.h2c_seq_num) (tickets : after.tickets = before.tickets)
    (recorded : ∀ feature, (after.halmac_state feature).seq_num =
      (before.halmac_state feature).seq_num)
    (mapped : before.efuse_map.isSome = true -> after.efuse_map.isSome = true)
    (intact : after.null_write = before.null_write) : Numbered after where
  ordered := tickets ▸ numbered.ordered
  counter := by rw [counter, tickets, numbered.counter]
  recorded := fun feature ticket last => by
    rw [recorded, numbered.recorded feature ticket (by rw [← tickets]; exact last)]
  mapped := fun ticket sent => mapped (numbered.mapped ticket (by rw [← tickets]; exact sent))
  intact := intact.trans numbered.intact

theorem Numbered.set (numbered : Numbered adapter) (feature : HalmacFeature)
    {change : HalmacFeatureState -> HalmacFeatureState}
    (same : ∀ state, (change state).seq_num = state.seq_num) : Numbered (adapter.set feature change) :=
  numbered.congr rfl rfl (seq_num_set same adapter feature) id rfl

theorem maintains_set_proc_status (feature : HalmacFeature) (status : CmdProcessStatus) :
    Maintains Numbered (set_proc_status feature status) :=
  maintains_update (fun _ numbered => numbered.set feature (fun _ => rfl))

theorem maintains_set_cmd_cnstr_state (feature : HalmacFeature) (dest_state : CmdConstructState) :
    Maintains Numbered (set_cmd_cnstr_state feature dest_state) :=
  maintains_update (fun _ numbered => numbered.set feature (fun _ => rfl))

theorem maintains_reset_ofld_feature (feature : HalmacFeature) :
    Maintains Numbered (reset_ofld_feature_88xx feature) := by
  refine (maintains_set_proc_status feature .IDLE).bind (fun _ => ?_)
  cases feature <;> first | exact maintains_set_cmd_cnstr_state _ _ | exact maintains_pure _ ()

theorem maintains_check (status : Option HalmacRet) : Maintains Numbered (check status) := by
  cases status with
  | none => exact maintains_pure _ ()
  | some code => exact maintains_stop _ code

theorem maintains_not_sending (feature : HalmacFeature) : Maintains Numbered (not_sending feature) :=
  (maintains_get _).bind (fun _ => maintains_require _ _ _)

theorem maintains_cnv_state (allowed : CmdConstructState -> CmdConstructState -> Bool)
    (feature : HalmacFeature) (dest_state : CmdConstructState) :
    Maintains Numbered (cnv_state allowed feature dest_state) :=
  (maintains_get _).bind (fun _ => (maintains_require _ _ _).bind
    (fun _ => maintains_set_cmd_cnstr_state feature dest_state))

/-- A command that can be sent: it has the latest number of its kind. -/
structure Ready (pkt : H2cPkt) (adapter : Adapter) : Prop where
  numbered : Numbered adapter
  latest : adapter.tickets.latest pkt.sub_cmd_id = some pkt.ticket

theorem ready_of_draw {before after : Adapter} (numbered : Numbered before) {sub_cmd_id : Nat}
    (counter : after.h2c_seq_num = (before.h2c_seq_num + 1) % 256)
    (tickets : after.tickets = before.tickets.draw sub_cmd_id)
    (own : ∀ feature : HalmacFeature, feature.sub_cmd_id = sub_cmd_id ->
      (after.halmac_state feature).seq_num = before.h2c_seq_num)
    (others : ∀ feature : HalmacFeature, feature.sub_cmd_id ≠ sub_cmd_id ->
      (after.halmac_state feature).seq_num = (before.halmac_state feature).seq_num)
    (map : after.efuse_map = before.efuse_map) (intact : after.null_write = before.null_write) :
    Ready ⟨sub_cmd_id, before.h2c_seq_num, before.tickets.drawn⟩ after where
  latest := by rw [tickets]; exact Tickets.latest_draw_self _ _
  numbered := {
    ordered := by rw [tickets]; exact numbered.ordered.draw sub_cmd_id
    counter := by
      rw [counter, tickets, numbered.counter]
      exact Nat.mod_add_mod _ _ _
    recorded := by
      intro feature ticket last
      rw [tickets] at last
      by_cases same : feature.sub_cmd_id = sub_cmd_id
      · rw [same, Tickets.latest_draw_self] at last
        rw [own feature same, numbered.counter, Option.some.inj last]
      · rw [Tickets.latest_draw_of_ne _ same] at last
        rw [others feature same]
        exact numbered.recorded feature ticket last
    mapped := fun ticket sent => by
      rw [map]
      exact numbered.mapped ticket (by rw [tickets] at sent; exact sent)
    intact := intact.trans numbered.intact }

theorem set_h2c_pkt_hdr_88xx_apply (sub_cmd_id : Nat) (adapter : Adapter) :
    set_h2c_pkt_hdr_88xx sub_cmd_id adapter =
      (.ok ⟨sub_cmd_id, adapter.h2c_seq_num, adapter.tickets.drawn⟩,
        { adapter with
          h2c_seq_num := (adapter.h2c_seq_num + 1) % 256
          tickets := adapter.tickets.draw sub_cmd_id }) := rfl

theorem number_command_apply (feature : HalmacFeature) (adapter : Adapter) :
    number_command feature adapter =
      (.ok ⟨feature.sub_cmd_id, adapter.h2c_seq_num, adapter.tickets.drawn⟩,
        { adapter.set feature ({ · with seq_num := adapter.h2c_seq_num }) with
          h2c_seq_num := (adapter.h2c_seq_num + 1) % 256
          tickets := adapter.tickets.draw feature.sub_cmd_id }) := rfl

theorem ready_number_command (feature : HalmacFeature) (numbered : Numbered adapter) :
    Ready ⟨feature.sub_cmd_id, adapter.h2c_seq_num, adapter.tickets.drawn⟩
      (number_command feature adapter).2 := by
  rw [number_command_apply]
  refine ready_of_draw numbered rfl rfl ?_ ?_ rfl rfl
  · intro own same
    rw [sub_cmd_id_injective same]
    exact congrArg HalmacFeatureState.seq_num
      (halmac_state_set_self adapter feature ({ · with seq_num := adapter.h2c_seq_num }))
  · intro other different
    have apart : other ≠ feature := fun same => different (congrArg HalmacFeature.sub_cmd_id same)
    exact congrArg HalmacFeatureState.seq_num
      (halmac_state_set_of_ne adapter ({ · with seq_num := adapter.h2c_seq_num }) apart)

theorem maintains_numbered_command {feature : HalmacFeature} {rest : H2cPkt -> HalmacM Unit}
    (tail : ∀ pkt state, pkt.sub_cmd_id = feature.sub_cmd_id -> Ready pkt state ->
      Numbered (rest pkt state).2) :
    Maintains Numbered (number_command feature >>= rest) := by
  intro adapter numbered
  rw [bind_of_ok (number_command_apply feature adapter)]
  exact tail _ _ rfl (ready_number_command feature numbered)

theorem Ready.deliver (ready : Ready pkt adapter)
    (mapped : pkt.sub_cmd_id = HalmacFeature.DUMP_PHYSICAL_EFUSE.sub_cmd_id ->
      adapter.efuse_map.isSome = true) :
    Numbered { adapter with tickets := adapter.tickets.deliver pkt.sub_cmd_id pkt.ticket } where
  ordered := ready.numbered.ordered.deliver ready.latest
  counter := ready.numbered.counter
  recorded := ready.numbered.recorded
  mapped := by
    intro ticket sent
    rcases List.mem_cons.mp sent with same | before
    · exact mapped (congrArg Prod.fst same).symm
    · exact ready.numbered.mapped ticket before
  intact := ready.numbered.intact

theorem Ready.send_h2c_pkt (ready : Ready pkt adapter) (answers : Answers)
    (mapped : pkt.sub_cmd_id = HalmacFeature.DUMP_PHYSICAL_EFUSE.sub_cmd_id ->
      adapter.efuse_map.isSome = true) :
    Numbered (send_h2c_pkt_88xx answers pkt adapter).2 := by
  unfold send_h2c_pkt_88xx
  cases answers.send_h2c_pkt with
  | none => exact ready.deliver mapped
  | some code => exact ready.numbered

theorem Ready.send_or_reset (ready : Ready pkt adapter) (answers : Answers) (feature : HalmacFeature)
    (mapped : pkt.sub_cmd_id = HalmacFeature.DUMP_PHYSICAL_EFUSE.sub_cmd_id ->
      adapter.efuse_map.isSome = true) :
    Numbered (send_or_reset answers feature pkt adapter).2 := by
  unfold Offload.send_or_reset
  cases refused : answers.send_h2c_pkt with
  | none => exact ready.send_h2c_pkt answers mapped
  | some code =>
    exact ((maintains_reset_ofld_feature feature).bind (fun _ => maintains_stop _ code))
      adapter ready.numbered

/-! ## The commands keep the invariant -/

theorem maintains_plain_command (answers : Answers) {feature : HalmacFeature}
    (other : feature ≠ .DUMP_PHYSICAL_EFUSE) : Maintains Numbered (plain_command answers feature) := by
  refine (maintains_require _ _ _).bind (fun _ => (maintains_not_sending feature).bind (fun _ => ?_))
  refine (maintains_set_proc_status feature .SENDING).bind (fun _ => maintains_numbered_command ?_)
  intro pkt state own ready
  exact ready.send_or_reset answers feature
    (fun same => absurd (sub_cmd_id_injective (own.symm.trans same)) other)

theorem maintains_update_packet (answers : Answers) (size : Nat) :
    Maintains Numbered (update_packet_88xx answers size) := by
  refine (maintains_require _ _ _).bind (fun _ => (maintains_require _ _ _).bind (fun _ => ?_))
  refine (maintains_require _ _ _).bind (fun _ => (maintains_not_sending _).bind (fun _ => ?_))
  refine (maintains_set_proc_status _ .SENDING).bind (fun _ => (maintains_check _).bind (fun _ => ?_))
  refine maintains_numbered_command (fun pkt state own ready => ?_)
  exact ready.send_or_reset answers _ (fun same => nomatch own.symm.trans same)

/-- The condition under which the number of a PSD command is the recorded one. -/
def PsdNumbered (answers : Answers) (adapter : Adapter) : Prop :=
  answers.fw_validate = true -> (adapter.halmac_state .PSD).proc_status ≠ .SENDING ->
    adapter.h2c_seq_num = (adapter.halmac_state .PSD).seq_num

theorem Numbered.psd (numbered : Numbered adapter) {answers : Answers}
    (condition : PsdNumbered answers adapter) : Numbered (psd_88xx answers adapter).2 := by
  unfold psd_88xx not_sending
  cases valid : answers.fw_validate with
  | false => exact numbered
  | true =>
      by_cases idle : (adapter.halmac_state .PSD).proc_status = .SENDING
      · rw [Program.require_true, bind_of_ok (Program.pure_apply _ _), Program.bind_assoc,
          bind_of_ok (Program.get_apply _), decide_eq_false (not_not_intro idle)]
        exact numbered
      · rw [Program.require_true, bind_of_ok (Program.pure_apply _ _), Program.bind_assoc,
          bind_of_ok (Program.get_apply _), decide_eq_true idle, Program.require_true,
          bind_of_ok (Program.pure_apply _ _), bind_of_ok (Program.update_apply _ _),
          set_proc_status, bind_of_ok (Program.update_apply _ _),
          bind_of_ok (set_h2c_pkt_hdr_88xx_apply _ _)]
        have kept : ∀ other : HalmacFeature,
            ((({ adapter with psd := ⟨0, 0, none⟩ } : Adapter).set .PSD
              ({ · with proc_status := .SENDING })).halmac_state other).seq_num =
                (adapter.halmac_state other).seq_num :=
          fun other => @seq_num_set ({ · with proc_status := .SENDING }) (fun _ => rfl) _ .PSD other
        refine Ready.send_or_reset (ready_of_draw numbered ?_ ?_ ?_ ?_ ?_ ?_) answers .PSD ?_
        · rfl
        · rfl
        · intro own same
          rw [sub_cmd_id_injective same, condition valid idle]
          exact kept .PSD
        · exact fun other _ => kept other
        · rfl
        · rfl
        · intro same
          change HalmacFeature.PSD.sub_cmd_id = HalmacFeature.DUMP_PHYSICAL_EFUSE.sub_cmd_id at same
          exact nomatch sub_cmd_id_injective same

theorem maintains_clear_ch_sw_info : Maintains Numbered clear_ch_sw_info :=
  maintains_update (fun _ numbered => numbered.congr rfl rfl (fun _ => rfl) id rfl)

theorem maintains_clear_ch_info : Maintains Numbered clear_ch_info_88xx :=
  (maintains_get _).bind (fun _ => (maintains_require _ _ _).bind
    (fun _ => (maintains_cnv_state _ _ _).bind (fun _ => maintains_clear_ch_sw_info)))

theorem maintains_ch_sw_info (change : Adapter -> ChSwInfo) :
    Maintains Numbered
      (Program.update (fun adapter => { adapter with ch_sw_info := change adapter }) : HalmacM Unit) :=
  maintains_update (fun _ numbered => numbered.congr rfl rfl (fun _ => rfl) id rfl)

theorem maintains_add_ch_info (answers : Answers) (extra_info : Bool) :
    Maintains Numbered (add_ch_info_88xx answers extra_info) := by
  refine (maintains_require _ _ _).bind (fun _ => (maintains_get _).bind (fun adapter => ?_))
  refine (maintains_require _ _ _).bind (fun _ => Maintains.bind ?_ (fun _ => ?_))
  · exact maintains_ite (maintains_pure _ ())
      ((maintains_require _ _ _).bind (fun _ => maintains_ch_sw_info _))
  · refine (maintains_get _).bind (fun _ => (maintains_require _ _ _).bind (fun _ => ?_))
    refine (maintains_require _ _ _).bind (fun _ => (maintains_cnv_state _ _ _).bind (fun _ => ?_))
    exact maintains_ch_sw_info _

theorem maintains_add_extra_ch_info (extra_info_size : Nat) (extra_info : Bool) :
    Maintains Numbered (add_extra_ch_info_88xx extra_info_size extra_info) := by
  refine (maintains_get _).bind (fun _ => (maintains_require _ _ _).bind (fun _ => ?_))
  refine (maintains_require _ _ _).bind (fun _ => (maintains_require _ _ _).bind (fun _ => ?_))
  refine (maintains_require _ _ _).bind (fun _ => (maintains_cnv_state _ _ _).bind (fun _ => ?_))
  exact maintains_ch_sw_info _

theorem maintains_end_ctrl_ch_switch (status : Option HalmacRet) : Maintains Numbered (end_ctrl_ch_switch status) :=
  maintains_clear_ch_sw_info.bind
    (fun _ => (maintains_cnv_state _ _ _).bind (fun _ => maintains_check status))

theorem maintains_ctrl_ch_switch (answers : Answers) (switch_en : Nat) :
    Maintains Numbered (ctrl_ch_switch_88xx answers switch_en) := by
  refine (maintains_require _ _ _).bind (fun _ => (maintains_require _ _ _).bind (fun _ => ?_))
  refine (maintains_ite (maintains_set_proc_status _ .IDLE) (maintains_pure _ ())).bind
    (fun _ => (maintains_get _).bind (fun _ => ?_))
  refine (maintains_require _ _ _).bind (fun _ => (maintains_require _ _ _).bind (fun _ => ?_))
  refine (maintains_cnv_state _ _ _).bind (fun _ => (maintains_set_proc_status _ .SENDING).bind (fun _ => ?_))
  refine (maintains_ite (maintains_check _) (maintains_pure _ ())).bind
    (fun _ => maintains_numbered_command (fun pkt state own ready => ?_))
  cases refused : answers.send_h2c_pkt with
  | none =>
      exact holds_bind (ready.send_h2c_pkt answers (fun same => nomatch own.symm.trans same))
        (fun _ => maintains_end_ctrl_ch_switch none)
  | some code =>
      exact ((maintains_reset_ofld_feature _).bind (fun _ => maintains_end_ctrl_ch_switch (some code)))
        state ready.numbered

theorem maintains_cfg_param_info (change : Adapter -> CfgParamInfo) :
    Maintains Numbered
      (Program.update (fun adapter => { adapter with cfg_param_info := change adapter }) : HalmacM Unit) :=
  maintains_update (fun _ numbered => numbered.congr rfl rfl (fun _ => rfl) id rfl)

theorem maintains_or_free {program : HalmacM Unit} (kept : Maintains Numbered program) :
    Maintains Numbered (or_free program) := by
  intro adapter numbered
  have still := kept adapter numbered
  unfold or_free
  cases outcome : program adapter with
  | mk answer next =>
      rw [outcome] at still
      cases answer with
      | ok done => exact still
      | error code =>
          have freed := maintains_cfg_param_info
            (fun adapter => { adapter.cfg_param_info with buf := false }) next still
          exact freed

theorem maintains_end_cfg_param_h2c (status : Option HalmacRet) : Maintains Numbered (end_cfg_param_h2c status) :=
  (maintains_cfg_param_info _).bind
    (fun _ => (maintains_cnv_state _ _ _).bind (fun _ => maintains_check status))

theorem maintains_send_cfg_param_h2c (answers : Answers) : Maintains Numbered (send_cfg_param_h2c_88xx answers) := by
  refine (maintains_cnv_state _ _ _).bind (fun _ => (maintains_set_proc_status _ .SENDING).bind (fun _ => ?_))
  cases loaded : answers.dl_rsvd_page with
  | some code => exact maintains_end_cfg_param_h2c (some code)
  | none =>
      refine maintains_numbered_command (fun pkt state own ready => ?_)
      cases refused : answers.send_h2c_pkt with
      | none =>
          exact holds_bind (ready.send_h2c_pkt answers (fun same => nomatch own.symm.trans same))
            (fun _ => maintains_end_cfg_param_h2c none)
      | some code =>
          exact ((maintains_reset_ofld_feature _).bind (fun _ => maintains_end_cfg_param_h2c (some code)))
            state ready.numbered

theorem maintains_malloc_cfg_param_buf (answers : Answers) (full_fifo : Bool) :
    Maintains Numbered (malloc_cfg_param_buf_88xx answers full_fifo) := by
  refine (maintains_get _).bind (fun adapter => ?_)
  refine maintains_ite (maintains_pure _ ()) ?_
  dsimp only
  split
  case h_1 missing =>
    exact (maintains_cfg_param_info _).bind (fun _ => maintains_stop _ _)
  case h_2 size granted => exact maintains_cfg_param_info _

theorem maintains_cfg_parameter (answers : Answers) (param : PhyParameter) (full_fifo : Bool) :
    Maintains Numbered (cfg_parameter_88xx answers param full_fifo) := by
  refine (maintains_require _ _ _).bind (fun _ => (maintains_require _ _ _).bind (fun _ => ?_))
  refine (maintains_not_sending _).bind (fun _ => (maintains_get _).bind (fun _ => ?_))
  refine (maintains_require _ _ _).bind (fun _ => (maintains_set_proc_status _ .IDLE).bind (fun _ => ?_))
  refine (maintains_malloc_cfg_param_buf answers full_fifo).bind (fun _ => ?_)
  refine (maintains_or_free (maintains_cnv_state _ _ _)).bind (fun _ => ?_)
  refine (maintains_cfg_param_info _).bind (fun _ => (maintains_get _).bind (fun _ => ?_))
  refine maintains_ite (maintains_pure _ ()) (maintains_ite ?_ ?_)
  · exact (maintains_cfg_param_info _).bind (fun _ => (maintains_set_proc_status _ .DONE).bind
      (fun _ => maintains_reset_ofld_feature _))
  · exact (maintains_or_free (maintains_send_cfg_param_h2c answers)).bind
      (fun _ => maintains_require _ _ _)

theorem maintains_dump_efuse_fw (answers : Answers) : Maintains Numbered (dump_efuse_fw_88xx answers) := by
  refine maintains_numbered_command (fun pkt state _ ready => ?_)
  rw [bind_of_ok (Program.get_apply state)]
  have finish : ∀ found : Adapter, Ready pkt found -> found.efuse_map.isSome = true ->
      Numbered ((if state.efuse_map_valid then pure ()
        else send_or_reset answers .DUMP_PHYSICAL_EFUSE pkt : HalmacM Unit) found).2 := by
    intro found ready mapped
    split
    case isTrue valid => exact ready.numbered
    case isFalse stale => exact ready.send_or_reset answers _ (fun _ => mapped)
  by_cases mapped : state.efuse_map.isSome = true
  · rw [if_pos mapped, bind_of_ok (Program.pure_apply _ _)]
    exact finish state ready mapped
  · rw [if_neg mapped]
    cases granted : answers.malloc_efuse_map with
    | true =>
        rw [if_pos rfl, bind_of_ok (Program.update_apply _ _)]
        refine finish _ ⟨?_, ready.latest⟩ rfl
        exact ready.numbered.congr rfl rfl (fun _ => rfl) (fun _ => rfl) rfl
    | false =>
        have stopped : (do
            reset_ofld_feature_88xx .DUMP_PHYSICAL_EFUSE
            Program.stop .MALLOC_FAIL : HalmacM Unit) state =
              (.error .MALLOC_FAIL, (reset_ofld_feature_88xx .DUMP_PHYSICAL_EFUSE state).2) := rfl
        rw [if_neg Bool.false_ne_true, Program.bind_of_error stopped]
        exact maintains_reset_ofld_feature .DUMP_PHYSICAL_EFUSE state ready.numbered

theorem maintains_dump_command (answers : Answers) {mark : Bool -> Adapter -> Adapter}
    (marks : ∀ flag adapter, Numbered adapter -> Numbered (mark flag adapter)) (parsed : Bool) :
    Maintains Numbered (dump_command answers mark parsed) := by
  refine (maintains_require _ _ _).bind (fun _ => (maintains_not_sending _).bind (fun _ => ?_))
  refine (maintains_get _).bind (fun _ => (maintains_require _ _ _).bind (fun _ => ?_))
  refine (maintains_set_proc_status _ .IDLE).bind (fun _ => ?_)
  refine (maintains_update (marks true)).bind (fun _ => (maintains_cnv_state _ _ _).bind (fun _ => ?_))
  refine (maintains_require _ _ _).bind (fun _ => (maintains_set_proc_status _ .SENDING).bind (fun _ => ?_))
  refine (maintains_cnv_state _ _ _).bind (fun _ => (maintains_dump_efuse_fw answers).bind (fun _ => ?_))
  refine (maintains_get _).bind (fun _ => ?_)
  refine (maintains_ite ?_ (maintains_pure _ ())).bind (fun _ => maintains_cnv_state _ _ _)
  refine (maintains_set_proc_status _ .DONE).bind (fun _ => (maintains_require _ _ _).bind (fun _ => ?_))
  exact (maintains_require _ _ _).bind (fun _ => maintains_update (marks false))

theorem Numbered.other_command (numbered : Numbered adapter) (answers : Answers)
    (command : OtherCommand) : Numbered (other_command answers command adapter).2 := by
  have ready : Ready ⟨command.sub_cmd_id, adapter.h2c_seq_num, adapter.tickets.drawn⟩
      (set_h2c_pkt_hdr_88xx command.sub_cmd_id adapter).2 :=
    ready_of_draw numbered rfl rfl (fun own same => absurd same (sub_cmd_id_ne_other own command))
      (fun _ _ => rfl) rfl rfl
  exact ready.send_h2c_pkt answers (fun same => absurd same.symm (sub_cmd_id_ne_other _ command))

theorem Numbered.h2c_header (numbered : Numbered adapter) : Numbered (set_h2c_header_88xx adapter).2 where
  ordered := numbered.ordered.skip
  counter := by
    show (adapter.h2c_seq_num + 1) % 256 = (adapter.tickets.drawn + 1) % 256
    rw [numbered.counter]
    exact Nat.mod_add_mod _ _ _
  recorded := numbered.recorded
  mapped := numbered.mapped
  intact := numbered.intact

end Offload

end Rtl8821ce
