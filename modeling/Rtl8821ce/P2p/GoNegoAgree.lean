import Rtl8821ce.Library.Run
import Rtl8821ce.P2p.GoNegoHandlers

/-!
# The two ends of a negotiation agree

At most one frame is in the air.  What it says, and what the two ends hold, is an invariant
of the exchange; when both ends are at the end, it says which of them is the group owner.
-/

namespace Rtl8821ce
namespace GoNego

open P2p

variable {s : Exchange} {sender : WifidirectInfo}

/-! ## Responses of any sender -/

def has_go_intent (p2p_ie : P2pIe) : Bool := (p2p_attr_content p2p_ie P2P_ATTR_GO_INTENT).isSome

/-- A response has a WPS element, and just one of its P2P elements has a GO Intent. -/
structure NegoFrame.WellFormed (frame : NegoFrame) : Prop where
  wps : frame.wps_devicepassword_id ≠ none
  go_intent : frame.p2p_ies.countP has_go_intent = 1

/-- The result says whether the negotiation has ended well. -/
def Truthful (info : WifidirectInfo) (result : UInt8) : Prop :=
  result = P2P_STATUS_SUCCESS <-> info.p2p_state = .GONEGO_OK

theorem fail_no_common_ch_ne : P2P_STATUS_FAIL_NO_COMMON_CH ≠ P2P_STATUS_SUCCESS := by decide

theorem fail_both_gointent_ne : P2P_STATUS_FAIL_BOTH_GOINTENT_15 ≠ P2P_STATUS_SUCCESS := by decide

theorem truthful_of_failed {info : WifidirectInfo} {result : UInt8} (failed : result ≠ P2P_STATUS_SUCCESS)
    (state : info.p2p_state ≠ .GONEGO_OK) : Truthful info result := iff_of_false failed state

theorem core_state {info info' : WifidirectInfo} (same : info'.core = info.core) :
    info'.p2p_state = info.p2p_state := congrArg Core.p2p_state same

theorem check_ch_list_truthful (d : Device) (p2p_ie : P2pIe) (ch_content : List UInt8)
    (info : WifidirectInfo) (result : UInt8) :
    let pass := check_ch_list d p2p_ie ch_content info result
    (pass.stop = true ∧ Truthful pass.info pass.result) ∨
      (pass.stop = false ∧ pass.info.p2p_state = info.p2p_state ∧ pass.result = result) := by
  rcases check_ch_list_cases d p2p_ie ch_content info result with failed | ⟨channel, passed, -, -⟩
  · rw [failed]
    exact Or.inl ⟨rfl, truthful_of_failed fail_no_common_ch_ne nofun⟩
  · rw [passed]
    exact Or.inr ⟨rfl, rfl, rfl⟩

theorem resp_attributes_truthful (d : Device) (p2p_ie : P2pIe) (info : WifidirectInfo) (result : UInt8) :
    let decided := resp_go_intent d p2p_ie (intended_if_addr p2p_ie info) result
    let pass := resp_attributes d p2p_ie info result
    (pass.stop = true ∧ Truthful pass.info pass.result) ∨
      (pass.stop = false ∧ pass.info.p2p_state = decided.1.p2p_state ∧ pass.result = decided.2) := by
  intro decided pass
  have channel := core_state (peer_operating_channel_core p2p_ie decided.1)
  cases listed : p2p_attr_content p2p_ie P2P_ATTR_CH_LIST with
  | none =>
      have pass_eq : pass =
          ⟨peer_group_id p2p_ie (peer_operating_channel p2p_ie decided.1), decided.2, false⟩ := by
        simp only [pass, resp_attributes, listed, decided]
      rw [pass_eq]
      exact Or.inr ⟨rfl, (core_state (peer_group_id_core p2p_ie _)).trans channel, rfl⟩
  | some ch_content =>
      let checked := check_ch_list d p2p_ie ch_content
        { peer_operating_channel p2p_ie decided.1 with channel_list_attr := ch_content } decided.2
      have pass_eq : pass =
          if checked.stop then checked
          else { checked with info := peer_group_id p2p_ie checked.info } := by
        simp only [pass, resp_attributes, listed, checked, decided]
      rcases check_ch_list_truthful d p2p_ie ch_content
          { peer_operating_channel p2p_ie decided.1 with channel_list_attr := ch_content } decided.2 with
        ⟨stop, truthful⟩ | ⟨stop, state, same⟩
      · rw [pass_eq, if_pos stop]
        exact Or.inl ⟨stop, truthful⟩
      · rw [pass_eq, if_neg (Bool.eq_false_iff.mp stop)]
        exact Or.inr
          ⟨stop, ((core_state (peer_group_id_core p2p_ie _)).trans state).trans channel, same⟩

theorem resp_round_truthful (d : Device) (p2p_ie : P2pIe) (info : WifidirectInfo) (result : UInt8) :
    let decided := resp_go_intent d p2p_ie (intended_if_addr p2p_ie info) result
    let pass := resp_round d p2p_ie info result
    (pass.stop = true ∧ Truthful pass.info pass.result) ∨
      (pass.stop = false ∧ pass.info.p2p_state = decided.1.p2p_state ∧ pass.result = decided.2) := by
  unfold resp_round
  cases read : status_of p2p_ie with
  | none => exact resp_attributes_truthful d p2p_ie info result
  | some status =>
      dsimp only
      by_cases success : status = P2P_STATUS_SUCCESS
      · rw [if_pos success]
        exact resp_attributes_truthful d p2p_ie info result
      · rw [if_neg success]
        refine Or.inl ⟨rfl, truthful_of_failed success ?_⟩
        dsimp only
        split <;> exact nofun

theorem resp_go_intent_absent (d : Device) {p2p_ie : P2pIe} (absent : has_go_intent p2p_ie = false)
    (info : WifidirectInfo) (result : UInt8) : resp_go_intent d p2p_ie info result = (info, result) := by
  have none : p2p_attr_content p2p_ie P2P_ATTR_GO_INTENT = none := Option.not_isSome_iff_eq_none.mp
    (by rw [← has_go_intent, absent]; exact Bool.false_ne_true)
  rw [resp_go_intent, none]

theorem resp_go_intent_truthful (d : Device) {p2p_ie : P2pIe} (present : has_go_intent p2p_ie = true)
    (info : WifidirectInfo) :
    Truthful (resp_go_intent d p2p_ie info P2P_STATUS_SUCCESS).1
      (resp_go_intent d p2p_ie info P2P_STATUS_SUCCESS).2 := by
  obtain ⟨content, attr⟩ := Option.isSome_iff_exists.mp present
  simp only [resp_go_intent, attr]
  split
  · exact truthful_of_failed fail_both_gointent_ne (by rintro ⟨⟩)
  · exact iff_of_true rfl (core_state (store_group_id_core d _))

theorem over_ies_truthful (d : Device) (p2p_ies : List P2pIe) (info : WifidirectInfo) (result : UInt8)
    (absent : p2p_ies.countP has_go_intent = 0) (truthful : Truthful info result) :
    Truthful (over_ies (resp_round d) p2p_ies info result).1
      (over_ies (resp_round d) p2p_ies info result).2 := by
  induction p2p_ies generalizing info result with
  | nil => exact truthful
  | cons p2p_ie rest ih =>
      have none := List.countP_eq_zero.mp absent
      have here : has_go_intent p2p_ie = false := Bool.eq_false_iff.mpr (none p2p_ie List.mem_cons_self)
      have later : rest.countP has_go_intent = 0 :=
        List.countP_eq_zero.mpr fun ie member => none ie (List.mem_cons_of_mem _ member)
      have round := resp_round_truthful d p2p_ie info result
      rw [resp_go_intent_absent d here] at round
      simp only [over_ies]
      rcases round with ⟨stop, done⟩ | ⟨stop, state, same⟩
      · simp only [stop, if_true]
        exact done
      · simp only [stop, Bool.false_eq_true, if_false]
        refine ih _ _ later ?_
        have kept := core_state (intended_if_addr_core p2p_ie info)
        rw [Truthful, state, same, kept]
        exact truthful

theorem over_ies_truthful_of_one (d : Device) (p2p_ies : List P2pIe) (info : WifidirectInfo)
    (one : p2p_ies.countP has_go_intent = 1) :
    Truthful (over_ies (resp_round d) p2p_ies info P2P_STATUS_SUCCESS).1
      (over_ies (resp_round d) p2p_ies info P2P_STATUS_SUCCESS).2 := by
  induction p2p_ies generalizing info with
  | nil => exact absurd one (by decide)
  | cons p2p_ie rest ih =>
      have round := resp_round_truthful d p2p_ie info P2P_STATUS_SUCCESS
      rw [List.countP_cons] at one
      simp only [over_ies]
      by_cases here : has_go_intent p2p_ie = true
      · rw [if_pos here] at one
        rcases round with ⟨stop, done⟩ | ⟨stop, state, same⟩
        · simp only [stop, if_true]
          exact done
        · simp only [stop, Bool.false_eq_true, if_false]
          refine over_ies_truthful d rest _ _ (Nat.succ.inj one) ?_
          rw [Truthful, state, same]
          exact resp_go_intent_truthful d here _
      · rw [if_neg here] at one
        rw [resp_go_intent_absent d (Bool.eq_false_iff.mpr here)] at round
        rcases round with ⟨stop, done⟩ | ⟨stop, state, same⟩
        · simp only [stop, if_true]
          exact done
        · simp only [stop, Bool.false_eq_true, if_false, same]
          exact ih _ one

theorem process_resp_truthful (d : Device) {frame : NegoFrame} (well_formed : frame.WellFormed)
    (info : WifidirectInfo) :
    (process_p2p_group_negotation_resp d frame info).2 = P2P_STATUS_SUCCESS <->
      (process_p2p_group_negotation_resp d frame info).1.p2p_state = .GONEGO_OK := by
  have some_ie : frame.p2p_ies ≠ [] := by
    intro empty
    have one := well_formed.go_intent
    rw [empty] at one
    exact absurd one (by decide)
  rw [process_p2p_group_negotation_resp, if_neg well_formed.wps, if_neg some_ie]
  exact over_ies_truthful_of_one d frame.p2p_ies info well_formed.go_intent

theorem core_benable {info info' : WifidirectInfo} (same : info'.core = info.core) :
    info'.benable = info.benable := congrArg Core.benable same

theorem resp_round_benable (d : Device) (p2p_ie : P2pIe) (info : WifidirectInfo) (result : UInt8) :
    (resp_round d p2p_ie info result).info.benable = info.benable := by
  have intent (info : WifidirectInfo) :
      (resp_go_intent d p2p_ie info result).1.benable = info.benable := by
    unfold resp_go_intent
    split
    · rfl
    next content _ =>
      dsimp only
      split
      · rfl
      · have stored := core_benable (store_group_id_core d
          { info with
            peer_intent := attr_u8 content, role := role_of_intents d (attr_u8 content),
            p2p_state := .GONEGO_OK, pre_p2p_state := .GONEGO_OK })
        exact stored
  have attributes : (resp_attributes d p2p_ie info result).info.benable = info.benable := by
    have decided := (core_benable (peer_operating_channel_core p2p_ie _)).trans
      ((intent (intended_if_addr p2p_ie info)).trans (core_benable (intended_if_addr_core p2p_ie info)))
    unfold resp_attributes
    cases listed : p2p_attr_content p2p_ie P2P_ATTR_CH_LIST with
    | none => exact (core_benable (peer_group_id_core p2p_ie _)).trans decided
    | some ch_content =>
        dsimp only
        rcases check_ch_list_cases d p2p_ie ch_content
            { peer_operating_channel p2p_ie (resp_go_intent d p2p_ie (intended_if_addr p2p_ie info) result).1 with
              channel_list_attr := ch_content }
            (resp_go_intent d p2p_ie (intended_if_addr p2p_ie info) result).2 with
          failed | ⟨channel, passed, -, -⟩
        · rw [failed]
          exact decided
        · rw [passed]
          exact (core_benable (peer_group_id_core p2p_ie _)).trans decided
  unfold resp_round
  split
  · split
    · exact attributes
    · rfl
  · exact attributes

theorem over_ies_benable (d : Device) (p2p_ies : List P2pIe) (info : WifidirectInfo) (result : UInt8) :
    (over_ies (resp_round d) p2p_ies info result).1.benable = info.benable := by
  induction p2p_ies generalizing info result with
  | nil => rfl
  | cons p2p_ie rest ih =>
      have round := resp_round_benable d p2p_ie info result
      simp only [over_ies]
      split
      · exact round
      · exact (ih _ _).trans round

theorem process_resp_benable (d : Device) (frame : NegoFrame) (info : WifidirectInfo) :
    (process_p2p_group_negotation_resp d frame info).1.benable = info.benable := by
  let checked : WifidirectInfo × UInt8 :=
    if frame.wps_devicepassword_id = none then
      ({ info with p2p_state := .GONEGO_FAIL }, P2P_STATUS_FAIL_INCOMPATIBLE_PARAM)
    else (info, P2P_STATUS_SUCCESS)
  have kept : checked.1.benable = info.benable := by
    simp only [checked]
    split <;> rfl
  by_cases empty : frame.p2p_ies = []
  · rw [process_p2p_group_negotation_resp, if_pos empty]
    exact kept
  · rw [process_p2p_group_negotation_resp, if_neg empty]
    exact (over_ies_benable d frame.p2p_ies checked.1 checked.2).trans kept

section Exchanges

variable (a b : Device) (tie : Bool)

theorem before_request_not_ok {info : WifidirectInfo} (fresh : info.core.NotOk) :
    (before_request info).core.NotOk := by
  have state : info.p2p_state ≠ .GONEGO_OK := fresh.state
  have pre_state : info.pre_p2p_state ≠ .GONEGO_OK := fresh.pre_state
  unfold before_request
  constructor
  · simp only [WifidirectInfo.core]
    split_ifs <;> simp_all
  · simp only [WifidirectInfo.core]
    split_ifs <;> simp_all

theorem on_action_req {d : Device} {frame : NegoFrame} (kind : frame.oui_subtype = .P2P_GO_NEGO_REQ)
    {info : WifidirectInfo} (busy : ¬(info.p2p_state = .NONE ∨ info.p2p_state = .IDLE)) :
    exists left, on_action_public_p2p d frame info =
        (left, some (issue_p2p_GO_response d frame
          (process_p2p_group_negotation_req d frame (before_request info)).2 left)) ∧
      left.core = (process_p2p_group_negotation_req d frame (before_request info)).1.core := by
  let done := process_p2p_group_negotation_req d frame (before_request info)
  refine ⟨{ set_config_method (frame.wps_devicepassword_id.getD 0) done.1 with
    negotiation_dialog_token := frame.dialog_token }, ?_, set_config_method_core _ _⟩
  simp only [on_action_public_p2p, if_neg busy, kind, done]

theorem on_action_resp {d : Device} {frame : NegoFrame} (kind : frame.oui_subtype = .P2P_GO_NEGO_RESP)
    {info : WifidirectInfo} (busy : ¬(info.p2p_state = .NONE ∨ info.p2p_state = .IDLE))
    (ing : info.p2p_state = .GONEGO_ING) :
    exists started left, started.core = { info.core with benable := false } ∧
      on_action_public_p2p d frame info =
        (left, some (issue_p2p_GO_confirm d (process_p2p_group_negotation_resp d frame started).2
          (process_p2p_group_negotation_resp d frame started).1)) ∧
      left.core = (process_p2p_group_negotation_resp d frame started).1.core := by
  let started : WifidirectInfo := { info with benable := false }
  refine ⟨started, { (process_p2p_group_negotation_resp d frame started).1 with
    negotiation_dialog_token := 1 }, rfl, ?_, rfl⟩
  simp only [on_action_public_p2p, if_neg busy, kind, if_pos ing, started]

theorem on_action_request (sender info : WifidirectInfo) (fresh : info.core.NotOk) :
    let done := on_action_public_p2p b (issue_p2p_GO_request a tie sender) info
    done.1.core.NotOk ∧ ∀ frame, done.2 = some frame -> exists status responder,
      frame = issue_p2p_GO_response b (issue_p2p_GO_request a tie sender) status responder ∧
        (status = P2P_STATUS_SUCCESS ->
          responder.peer_intent = request_intent a tie ∧ done.1.core.Ready a b tie) := by
  intro done
  by_cases idle : info.p2p_state = .NONE ∨ info.p2p_state = .IDLE
  · have done_eq : done = (info, none) := if_pos idle
    rw [done_eq]
    exact ⟨fresh, nofun⟩
  · have considered := process_req_request a b tie sender (before_request info)
    obtain ⟨left, done_eq, left_core⟩ :=
      @on_action_req b (issue_p2p_GO_request a tie sender) rfl _ idle
    simp only [done, done_eq]
    constructor
    · rw [left_core]
      refine ⟨considered.state, ?_⟩
      rw [considered.pre_state]
      exact (before_request_not_ok fresh).pre_state
    · intro frame answered
      refine ⟨_, left, (Option.some.inj answered).symm, fun success => ?_⟩
      have ready : left.core.Ready a b tie := by
        rw [left_core]
        exact considered.ready success
      exact ⟨ready.peer_intent, ready⟩

theorem on_action_response (request : NegoFrame) (status : UInt8) (sender info : WifidirectInfo)
    (fresh : info.core.NotOk) (waiting : info.core.benable = false)
    (ready : status = P2P_STATUS_SUCCESS -> sender.peer_intent = request_intent a tie ∧ ¬both_insist a b) :
    let done := on_action_public_p2p a (issue_p2p_GO_response b request status sender) info
    done.1.core.benable = false ∧ (status ≠ P2P_STATUS_SUCCESS -> done.1.core.NotOk) ∧
      ∀ frame, done.2 = some frame -> exists result requester,
        frame = issue_p2p_GO_confirm a result requester ∧
          (result = P2P_STATUS_SUCCESS ->
            status = P2P_STATUS_SUCCESS ∧ done.1.core.Agreed a b (requester_owner a b tie)) := by
  intro done
  by_cases idle : info.p2p_state = .NONE ∨ info.p2p_state = .IDLE
  · have done_eq : done = (info, none) := if_pos idle
    rw [done_eq]
    exact ⟨waiting, fun _ => fresh, nofun⟩
  by_cases ing : info.p2p_state = .GONEGO_ING
  · obtain ⟨started, left, started_core, done_eq, left_core⟩ :=
      @on_action_resp a (issue_p2p_GO_response b request status sender) rfl _ idle ing
    have started_fresh : started.core.NotOk := by
      rw [started_core]
      exact ⟨fresh.state, fresh.pre_state⟩
    simp only [done, done_eq, left_core]
    refine ⟨?_, fun refused => ?_, fun frame confirmed => ?_⟩
    · exact (process_resp_benable a _ started).trans (congrArg Core.benable started_core)
    · exact (process_resp_refused a b refused request sender started started_fresh).1
    · refine ⟨_, _, (Option.some.inj confirmed).symm, fun success => ?_⟩
      by_cases accepted : status = P2P_STATUS_SUCCESS
      · refine ⟨accepted, ?_⟩
        subst accepted
        exact process_resp_accepted a b tie request sender started (ready rfl).1 (ready rfl).2 success
      · exact absurd success
          (process_resp_refused a b accepted request sender started started_fresh).2
  · have done_eq : done = (info, none) := by
      simp only [done, on_action_public_p2p, if_neg idle, issue_p2p_GO_response, if_neg ing]
    rw [done_eq]
    exact ⟨waiting, fun _ => fresh, nofun⟩

theorem on_action_confirm (status : UInt8) (sender info : WifidirectInfo) (fresh : info.core.NotOk) :
    let done := on_action_public_p2p b (issue_p2p_GO_confirm a status sender) info
    done.2 = none ∧ (done.1.core.NotOk ∨ status = P2P_STATUS_SUCCESS ∧
      (info.core.Ready a b tie -> done.1.core.Agreed a b (!requester_owner a b tie))) := by
  intro done
  by_cases idle : info.p2p_state = .NONE ∨ info.p2p_state = .IDLE
  · have done_eq : done = (info, none) := if_pos idle
    rw [done_eq]
    exact ⟨rfl, Or.inl fresh⟩
  have done_eq : done =
      ((process_p2p_group_negotation_confirm b (issue_p2p_GO_confirm a status sender) info).1, none) :=
    if_neg idle
  rw [done_eq]
  refine ⟨rfl, ?_⟩
  by_cases accepted : status = P2P_STATUS_SUCCESS
  · subst accepted
    exact Or.inr ⟨rfl, process_confirm_accepted a b tie sender info⟩
  · exact Or.inl (process_confirm_refused a b accepted sender info fresh)

/-! ## The frame in the air -/

def NegoFrame.Refusal (frame : NegoFrame) : Prop :=
  frame.oui_subtype = .P2P_GO_NEGO_RESP ∧
    exists p2p_ie status, p2p_ie ∈ frame.p2p_ies ∧ status_of p2p_ie = some status ∧
      status ≠ P2P_STATUS_SUCCESS

/-- Both insist, or there is no common channel, or the responder has refused. -/
def Hopeless (sent : List NegoFrame) : Prop :=
  both_insist a b ∨ a.channel_set.Disjoint b.channel_set ∨ exists frame, frame ∈ sent ∧ frame.Refusal

/-- What goes with a frame that was not delivered yet. -/
inductive InFlight (s : Exchange) (frame : NegoFrame) : Prop
  | request (sender : WifidirectInfo) (built : frame = issue_p2p_GO_request a tie sender)
      (requester : s.requester.core.NotOk) (responder : s.responder.core.NotOk)
      (unanswered : ∀ other ∈ s.sent, other.oui_subtype ≠ .P2P_GO_NEGO_RESP)
  | response (request : NegoFrame) (status : UInt8) (sender : WifidirectInfo)
      (built : frame = issue_p2p_GO_response b request status sender)
      (requester : s.requester.core.NotOk) (responder : s.responder.core.NotOk)
      (only : ∀ other ∈ s.sent, other.oui_subtype = .P2P_GO_NEGO_RESP -> other = frame)
      (ready : status = P2P_STATUS_SUCCESS ->
        sender.peer_intent = request_intent a tie ∧ s.responder.core.Ready a b tie)
  | confirm (result : UInt8) (sender : WifidirectInfo)
      (built : frame = issue_p2p_GO_confirm a result sender) (responder : s.responder.core.NotOk)
      (ready : result = P2P_STATUS_SUCCESS ->
        s.requester.core.Agreed a b (requester_owner a b tie) ∧ s.responder.core.Ready a b tie)

/-- The invariant of the exchange. -/
structure Negotiating (s : Exchange) : Prop where
  alone : s.air.length ≤ 1
  frame : ∀ frame ∈ s.air, InFlight a b tie s frame
  waiting : s.requester.core.benable = true ->
    s.requester.core.NotOk ∧ s.responder.core.NotOk ∧ s.air = [] ∧ s.sent = []
  requester_ok : ¬s.requester.core.NotOk -> ¬Hopeless a b s.sent
  responder_ok : ¬s.responder.core.NotOk ->
    s.requester.core.Agreed a b (requester_owner a b tie) ∧
      s.responder.core.Agreed a b (!requester_owner a b tie)

theorem Core.Agreed.not_fresh {a b : Device} {owner : Bool} {c : Core} (agreed : c.Agreed a b owner) :
    ¬c.NotOk := fun fresh => fresh.state agreed.state

/-- What a device does by itself keeps what it has agreed to. -/
structure Quiet (old new : Core) : Prop where
  fresh : old.NotOk -> new.NotOk
  agreed : ∀ owner, old.Agreed a b owner -> new.Agreed a b owner
  ready : old.Ready a b tie -> new.Ready a b tie
  benable : new.benable = old.benable

theorem quiet_of_core {old new : WifidirectInfo} (same : new.core = old.core) : Quiet a b tie old.core new.core := by
  rw [same]
  exact ⟨id, fun _ => id, id, rfl⟩

theorem restore_p2p_state_handler_quiet (info : WifidirectInfo) :
    Quiet a b tie info.core (restore_p2p_state_handler info).core := by
  unfold restore_p2p_state_handler
  by_cases off : info.p2p_state = .NONE
  · rw [if_pos off]
    exact quiet_of_core a b tie rfl
  · rw [if_neg off]
    by_cases busy : info.p2p_state = .GONEGO_ING ∨ info.p2p_state = .GONEGO_FAIL
    · rw [if_pos busy]
      refine ⟨fun fresh => ⟨fresh.pre_state, fresh.pre_state⟩, fun owner agreed => ?_,
        fun ready => ⟨ready.peer_intent, ready.insist, ready.common, ready.channel⟩, rfl⟩
      have state : info.p2p_state = .GONEGO_OK := agreed.state
      rw [state] at busy
      exact absurd busy (by decide)
    · rw [if_neg busy]
      exact ⟨fun fresh => ⟨fresh.pre_state, fresh.pre_state⟩,
        fun owner agreed => ⟨agreed.pre_state, agreed.pre_state, agreed.role, agreed.channel⟩,
        fun ready => ⟨ready.peer_intent, ready.insist, ready.common, ready.channel⟩, rfl⟩

variable {a b tie}

theorem Negotiating.quiet (negotiating : Negotiating a b tie s)
    {requester responder : WifidirectInfo} (one : Quiet a b tie s.requester.core requester.core)
    (other : Quiet a b tie s.responder.core responder.core) :
    Negotiating a b tie { s with requester, responder } := by
  refine {
    alone := negotiating.alone
    frame := fun frame member => ?_
    waiting := fun benable => ?_
    requester_ok := fun ended => negotiating.requester_ok (fun fresh => ended (one.fresh fresh))
    responder_ok := fun ended => ?_ }
  · cases negotiating.frame frame member with
    | request sender built first second unanswered =>
        exact .request sender built (one.fresh first) (other.fresh second) unanswered
    | response request status sender built first second only ready =>
        exact .response request status sender built (one.fresh first) (other.fresh second) only
          (fun success => (ready success).imp_right other.ready)
    | confirm result sender built second ready =>
        exact .confirm result sender built (other.fresh second)
          (fun success => (ready success).imp (one.agreed _) other.ready)
  · have before := negotiating.waiting (one.benable ▸ benable)
    exact ⟨one.fresh before.1, other.fresh before.2.1, before.2.2⟩
  · have before := negotiating.responder_ok (fun fresh => ended (other.fresh fresh))
    exact before.imp (one.agreed _) (other.agreed _)

theorem Negotiating.lose (negotiating : Negotiating a b tie s) (place : Nat) :
    Negotiating a b tie { s with air := s.air.eraseIdx place } := by
  have fewer : (s.air.eraseIdx place).length ≤ s.air.length := (List.eraseIdx_sublist _ _).length_le
  refine {
    alone := Nat.le_trans fewer negotiating.alone
    frame := fun frame member => ?_
    waiting := fun benable => ?_
    requester_ok := negotiating.requester_ok
    responder_ok := negotiating.responder_ok }
  · cases negotiating.frame frame ((List.eraseIdx_sublist _ _).subset member) with
    | request sender built first second unanswered => exact .request sender built first second unanswered
    | response request status sender built first second only ready =>
        exact .response request status sender built first second only ready
    | confirm result sender built second ready => exact .confirm result sender built second ready
  · have before := negotiating.waiting benable
    refine ⟨before.1, before.2.1, ?_, before.2.2.2⟩
    show s.air.eraseIdx place = []
    rw [before.2.2.1]
    rfl

theorem Negotiating.air_eq (negotiating : Negotiating a b tie s) {place : Nat}
    {frame : NegoFrame} (found : s.air[place]? = some frame) : s.air.eraseIdx place = [] := by
  obtain ⟨inside, -⟩ := List.getElem?_eq_some_iff.mp found
  have alone := negotiating.alone
  have left := List.length_eraseIdx_of_lt inside
  exact List.eq_nil_of_length_eq_zero (by omega)

theorem Negotiating.receive_request (requester : s.requester.core.NotOk) (responder : s.responder.core.NotOk)
    (settled : s.requester.core.benable = false)
    (unanswered : ∀ other ∈ s.sent, other.oui_subtype ≠ .P2P_GO_NEGO_RESP) :
    Negotiating a b tie
      ({ s with air := [] }.receive a b (issue_p2p_GO_request a tie sender)) := by
  let done := on_action_public_p2p b (issue_p2p_GO_request a tie sender) s.responder
  obtain ⟨fresh, answers⟩ := on_action_request a b tie sender s.responder responder
  have received : { s with air := [] }.receive a b (issue_p2p_GO_request a tie sender) =
      { s with responder := done.1, air := done.2.toList, sent := s.sent ++ done.2.toList } := rfl
  rw [received]
  refine {
    alone := Option.length_toList_le
    frame := fun frame member => ?_
    waiting := fun benable => absurd (settled.symm.trans benable) Bool.false_ne_true
    requester_ok := fun ended => absurd requester ended
    responder_ok := fun ended => absurd fresh ended }
  have answered : done.2 = some frame := Option.mem_toList.mp member
  obtain ⟨status, responder', built, ready⟩ := answers frame answered
  refine .response _ status responder' built requester fresh (fun other sent response => ?_) ready
  rcases List.mem_append.mp sent with earlier | now
  · exact absurd response (unanswered other earlier)
  · exact Option.some.inj ((Option.mem_toList.mp now).symm.trans answered)

theorem Negotiating.receive_response {request : NegoFrame} {status : UInt8} (requester : s.requester.core.NotOk) (responder : s.responder.core.NotOk)
    (settled : s.requester.core.benable = false) (only : ∀ other ∈ s.sent, other.oui_subtype = .P2P_GO_NEGO_RESP ->
      other = issue_p2p_GO_response b request status sender)
    (ready : status = P2P_STATUS_SUCCESS ->
      sender.peer_intent = request_intent a tie ∧ s.responder.core.Ready a b tie) :
    Negotiating a b tie
      ({ s with air := [] }.receive a b (issue_p2p_GO_response b request status sender)) := by
  let done := on_action_public_p2p a (issue_p2p_GO_response b request status sender) s.requester
  obtain ⟨still, refused, confirms⟩ := on_action_response a b tie request status sender s.requester
    requester settled (fun success => (ready success).imp_right Core.Ready.insist)
  have received : { s with air := [] }.receive a b (issue_p2p_GO_response b request status sender) =
      { s with requester := done.1, air := done.2.toList, sent := s.sent ++ done.2.toList } := rfl
  rw [received]
  refine {
    alone := Option.length_toList_le
    frame := fun frame member => ?_
    waiting := fun benable => absurd (still.symm.trans benable) Bool.false_ne_true
    requester_ok := fun ended hopeless => ?_
    responder_ok := fun ended => absurd responder ended }
  · obtain ⟨result, requester', built, agreed⟩ := confirms frame (Option.mem_toList.mp member)
    exact .confirm result requester' built responder
      (fun success => ⟨(agreed success).2, (ready (agreed success).1).2⟩)
  · have success : status = P2P_STATUS_SUCCESS := by
      by_contra failed
      exact ended (refused failed)
    have accepted := (ready success).2
    rcases hopeless with both | disjoint | ⟨other, sent, response, p2p_ie, status', member, read, failed⟩
    · exact accepted.insist both
    · exact accepted.common disjoint
    · rcases List.mem_append.mp sent with earlier | now
      · have same := only other earlier response
        rw [same] at member
        have ie_eq : p2p_ie = response_ie b status sender := List.mem_singleton.mp member
        rw [ie_eq] at read
        exact failed ((Option.some.inj read).symm.trans success)
      · obtain ⟨result, requester', built, -⟩ := confirms other (Option.mem_toList.mp now)
        rw [built] at response
        exact nomatch response

theorem Negotiating.receive_confirm {result : UInt8} (requester_ok : ¬s.requester.core.NotOk -> ¬Hopeless a b s.sent)
    (responder : s.responder.core.NotOk) (settled : s.requester.core.benable = false)
    (ready : result = P2P_STATUS_SUCCESS ->
      s.requester.core.Agreed a b (requester_owner a b tie) ∧ s.responder.core.Ready a b tie) :
    Negotiating a b tie
      ({ s with air := [] }.receive a b (issue_p2p_GO_confirm a result sender)) := by
  let done := on_action_public_p2p b (issue_p2p_GO_confirm a result sender) s.responder
  obtain ⟨silent, ended⟩ := on_action_confirm a b tie result sender s.responder responder
  have received : { s with air := [] }.receive a b (issue_p2p_GO_confirm a result sender) =
      { s with responder := done.1, air := done.2.toList, sent := s.sent ++ done.2.toList } := rfl
  have quiet : done.2 = none := silent
  rw [received, quiet]
  simp only [Option.toList_none, List.append_nil]
  refine {
    alone := Nat.zero_le 1
    frame := fun frame member => absurd member List.not_mem_nil
    waiting := fun benable => absurd (settled.symm.trans benable) Bool.false_ne_true
    requester_ok := requester_ok
    responder_ok := fun finished => ?_ }
  rcases ended with fresh | ⟨success, agreed⟩
  · exact absurd fresh finished
  · exact ⟨(ready success).1, agreed (ready success).2⟩

theorem step_negotiating (negotiating : Negotiating a b tie s) (operation : Operation) :
    Negotiating a b tie (step a b tie s operation) := by
  cases operation with
  | probe_response =>
      by_cases ready : s.requester.p2p_state = .GONEGO_ING ∧ s.requester.benable = true
      · obtain ⟨requester, responder, air, sent⟩ := negotiating.waiting ready.2
        have heard : OnProbeRsp a tie s.requester =
            ({ s.requester with benable := false, negotiation_dialog_token := 1 },
              some (issue_p2p_GO_request a tie
                { s.requester with benable := false, negotiation_dialog_token := 1 })) := if_pos ready
        simp only [step, heard, Exchange.send, air, sent, Option.toList_some, List.nil_append]
        refine {
          alone := Nat.le_refl 1
          frame := fun frame member => ?_
          waiting := fun benable => absurd benable Bool.false_ne_true
          requester_ok := fun ended => absurd ⟨requester.state, requester.pre_state⟩ ended
          responder_ok := fun ended => absurd responder ended }
        refine .request _ (List.mem_singleton.mp member) ⟨requester.state, requester.pre_state⟩ responder ?_
        intro other sent
        rw [List.mem_singleton.mp sent]
        exact nofun
      · have deaf : OnProbeRsp a tie s.requester = (s.requester, none) := if_neg ready
        simp only [step, deaf, Exchange.send, Option.toList_none, List.append_nil]
        exact negotiating
  | deliver place =>
      simp only [step]
      split
      next frame found =>
        have member : frame ∈ s.air := List.mem_of_getElem? found
        have settled : s.requester.core.benable = false := by
          by_contra benable
          have air := (negotiating.waiting (Bool.not_eq_false _ |>.mp benable)).2.2.1
          rw [air] at member
          exact absurd member List.not_mem_nil
        rw [negotiating.air_eq found]
        cases negotiating.frame frame member with
        | request sender built requester responder unanswered =>
            rw [built]
            exact Negotiating.receive_request requester responder settled unanswered
        | response request status sender built requester responder only ready =>
            rw [built] at only ⊢
            exact Negotiating.receive_response requester responder settled only ready
        | confirm result sender built responder ready =>
            rw [built]
            exact Negotiating.receive_confirm negotiating.requester_ok responder settled ready
      next => exact negotiating
  | lose place => exact negotiating.lose place
  | restore_requester =>
      exact negotiating.quiet (restore_p2p_state_handler_quiet a b tie _) (quiet_of_core a b tie rfl)
  | restore_responder =>
      exact negotiating.quiet (quiet_of_core a b tie rfl) (restore_p2p_state_handler_quiet a b tie _)
  | wps_info_requester info =>
      exact negotiating.quiet (quiet_of_core a b tie rfl) (quiet_of_core a b tie rfl)
  | wps_info_responder info =>
      exact negotiating.quiet (quiet_of_core a b tie rfl) (quiet_of_core a b tie rfl)

/-- The user of the requester has asked for a negotiation, and none has ended well yet. -/
structure Exchange.Fresh (s : Exchange) : Prop where
  connecting : s.requester.p2p_state = .GONEGO_ING
  pre_state : s.requester.pre_p2p_state ≠ .GONEGO_OK
  responder_state : s.responder.p2p_state ≠ .GONEGO_OK
  responder_pre_state : s.responder.pre_p2p_state ≠ .GONEGO_OK
  air : s.air = []
  sent : s.sent = []

theorem Exchange.Fresh.negotiating (fresh : s.Fresh) : Negotiating a b tie s := by
  have state : s.requester.core.p2p_state ≠ .GONEGO_OK := by
    rw [show s.requester.core.p2p_state = .GONEGO_ING from fresh.connecting]
    exact nofun
  have requester : s.requester.core.NotOk := ⟨state, fresh.pre_state⟩
  have responder : s.responder.core.NotOk := ⟨fresh.responder_state, fresh.responder_pre_state⟩
  refine {
    alone := ?_
    frame := fun frame member => ?_
    waiting := fun _ => ⟨requester, responder, fresh.air, fresh.sent⟩
    requester_ok := fun ended => absurd requester ended
    responder_ok := fun ended => absurd responder ended }
  · rw [fresh.air]
    exact Nat.zero_le 1
  · rw [fresh.air] at member
    exact absurd member List.not_mem_nil

theorem run_negotiating {start : Exchange} (fresh : start.Fresh) (operations : List Operation) :
    Negotiating a b tie (Run.execute (step a b tie) start operations) := by
  have preserved (s : Exchange) (operation : Operation) (_ : True) (negotiating : Negotiating a b tie s) :
      Negotiating a b tie (step a b tie s operation) := step_negotiating negotiating operation
  exact Run.Guarded.invariant preserved
    (Run.guarded_of_forall (step a b tie) (fun _ => True) start operations (fun _ _ => trivial))
    fresh.negotiating

def OwnerOnCommon (a b : Device) (s : Exchange) : Prop :=
  (s.requester.role = .GO ->
      s.requester.operating_channel ∈ a.channel_set ∧ s.requester.operating_channel ∈ b.channel_set) ∧
    (s.responder.role = .GO ->
      s.responder.operating_channel ∈ a.channel_set ∧ s.responder.operating_channel ∈ b.channel_set)

/-- The ends of a negotiation agree on the group owner and on the channel, a hopeless
negotiation does not end well at either end, and the result of a response is truthful. -/
theorem go_negotiation_agrees (a b : Device) (tie : Bool) (start : Exchange) (fresh : start.Fresh)
    (operations : List Operation) :
    let s := Run.execute (step a b tie) start operations
    (s.requester.p2p_state = .GONEGO_OK ∧ s.responder.p2p_state = .GONEGO_OK ->
      (if rtw_p2p_nego_intent_compare (request_intent a tie) (response_intent b (request_intent a tie))
        then s.requester.role = .GO ∧ s.responder.role = .CLIENT
        else s.requester.role = .CLIENT ∧ s.responder.role = .GO) ∧
      OwnerOnCommon a b s) ∧
    (Hopeless a b s.sent ->
      s.requester.p2p_state ≠ .GONEGO_OK ∧ s.responder.p2p_state ≠ .GONEGO_OK) ∧
    ∀ (d : Device) (frame : NegoFrame) (info : WifidirectInfo), frame.WellFormed ->
      ((process_p2p_group_negotation_resp d frame info).2 = P2P_STATUS_SUCCESS <->
        (process_p2p_group_negotation_resp d frame info).1.p2p_state = .GONEGO_OK) := by
  intro s
  have negotiating : Negotiating a b tie s := run_negotiating fresh operations
  have responder_agreed (ended : s.responder.p2p_state = .GONEGO_OK) :=
    negotiating.responder_ok (fun fresh => fresh.state ended)
  refine ⟨fun ended => ?_, fun hopeless => ⟨fun ended => ?_, fun ended => ?_⟩,
    fun d frame info well_formed => process_resp_truthful d well_formed info⟩
  · obtain ⟨one, other⟩ := responder_agreed ended.2
    have first : s.requester.role = role_of_owner (requester_owner a b tie) := one.role
    have second : s.responder.role = role_of_owner (!requester_owner a b tie) := other.role
    refine ⟨?_, fun owner => one.channel ?_, fun owner => other.channel ?_⟩
    · change if requester_owner a b tie = true then _ else _
      rw [first, second]
      cases requester_owner a b tie <;> exact ⟨rfl, rfl⟩
    · rw [first] at owner
      cases here : requester_owner a b tie with
      | false => exact absurd owner (by rw [here]; exact nofun)
      | true => rfl
    · rw [second] at owner
      cases here : requester_owner a b tie with
      | false => rfl
      | true => exact absurd owner (by rw [here]; exact nofun)
  · exact negotiating.requester_ok (fun fresh => fresh.state ended) hopeless
  · have one := (responder_agreed ended).1
    exact negotiating.requester_ok one.not_fresh hopeless

def listening (operating_channel : UInt8) : WifidirectInfo where
  role := .DEVICE
  p2p_state := .LISTEN
  pre_p2p_state := .LISTEN
  peer_intent := 0
  operating_channel
  peer_operating_ch := 0
  ui_got_wps_info := .GOT_WPSINFO_PBC
  benable := false
  peer_ch := 0
  p2p_peer_interface_addr := List.replicate 6 0
  channel_list_attr := []
  go_device_addr := List.replicate 6 0
  ssid := List.replicate 33 0
  config_method := "000"
  negotiation_dialog_token := 1

def connecting : Exchange where
  requester := { listening 11 with p2p_state := .GONEGO_ING, benable := true }
  responder := listening 36
  air := []
  sent := []

/-- Equal intents: the responder has the tie breaker and leaves channel 36. -/
theorem go_negotiation_agrees_tie :
    let s := Run.execute (step (device_on [1, 6, 11]) (device_on [6, 11, 36]) false) connecting
      [.probe_response, .deliver 0, .deliver 0, .deliver 0]
    (s.requester.p2p_state = .GONEGO_OK ∧ s.responder.p2p_state = .GONEGO_OK) ∧
      s.responder.operating_channel = 11 ∧ s.requester.role = .CLIENT ∧ s.responder.role = .GO := by
  have fresh : connecting.Fresh := ⟨rfl, nofun, nofun, nofun, rfl, rfl⟩
  have agrees := go_negotiation_agrees (device_on [1, 6, 11]) (device_on [6, 11, 36]) false connecting
    fresh [.probe_response, .deliver 0, .deliver 0, .deliver 0]
  exact ⟨by decide +kernel, by decide +kernel, (agrees.1 (by decide +kernel)).1⟩

end Exchanges

end GoNego
end Rtl8821ce
