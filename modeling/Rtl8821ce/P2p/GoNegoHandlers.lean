import Rtl8821ce.P2p.CommonChannels

/-!
# What the handlers of the negotiation leave

The channels that an end puts into a frame are read back by the other end, the three
comparisons of the intents are one, and for the frames of this driver each handler has one
result: what it leaves in the state of the device.
-/

namespace Rtl8821ce
namespace GoNego

open P2p

theorem mem_ch_inclusion {channel_set peers : List UInt8} {temp : Nat} {ch : UInt8}
    (member : ch ∈ ch_inclusion channel_set peers temp) : ch ∈ channel_set ∧ ch ∈ peers := by
  induction peers generalizing temp with
  | nil => exact absurd member List.not_mem_nil
  | cons peer rest ih =>
      simp only [ch_inclusion] at member
      split at member
      next j found =>
        rcases List.mem_cons.mp member with same | later
        · have hit := List.findIdx?_eq_some_iff_getElem.mp found
          obtain ⟨inside, equal, -⟩ := hit
          have equal := beq_iff_eq.mp equal
          refine ⟨?_, same ▸ List.mem_cons_self⟩
          rw [same, ← equal]
          exact List.mem_of_mem_drop (List.getElem_mem inside)
        · exact (ih later).imp_right (List.mem_cons_of_mem _)
      next missed =>
        exact (ih member).imp_right (List.mem_cons_of_mem _)

theorem length_channel_entries_le (d : Device) (maps : List OperClassMap) :
    (channel_entries ((maps.map (init_reg_class d)).filter fun reg => !reg.channel.isEmpty)).length ≤
      (maps.map fun o => 2 + o.chans.length).sum := by
  induction maps with
  | nil => exact Nat.le_refl 0
  | cons o rest ih =>
      have kept : (init_reg_class d o).channel.length ≤ o.chans.length := List.length_filter_le _ _
      rw [List.map_cons, List.map_cons, List.sum_cons, List.filter_cons]
      split
      · rw [channel_entries_cons]
        simp only [List.length_cons, List.length_append]
        omega
      · omega

theorem length_channel_list (d : Device) : (channel_entries d.channel_list).length ≤ 54 := by
  unfold Device.channel_list
  split
  · show 3 ≤ 54
    omega
  · exact length_channel_entries_le d op_class

def Device.offered (d : Device) : List UInt8 := d.channel_list.flatMap (·.channel)

theorem get_peer_ch_list_offered (d : Device) :
    rtw_p2p_get_peer_ch_list (ch_list_content d.channel_list) = d.offered := by
  have bound := length_channel_list d
  have wide := length_channels_le d.channel_list
  have few : (d.channel_list.flatMap (·.channel)).length < 256 := by omega
  refine (get_peer_ch_list_heard rfl d.channel_list few).trans ?_
  rw [heard_of_short (by omega)]
  rfl

theorem mem_channel_set_of_offered {d : Device} {ch : UInt8} (member : ch ∈ d.offered) : ch ∈ d.channel_set := by
  unfold Device.offered Device.channel_list at member
  split at member
  next one =>
    have linked : d.mi_linked = true := (Bool.and_eq_true_iff.mp one).1
    rw [List.flatMap_singleton] at member
    rw [List.mem_singleton.mp member]
    exact d.union_chan_mem linked
  next =>
    obtain ⟨reg, kept, inside⟩ := List.mem_flatMap.mp member
    obtain ⟨o, -, rfl⟩ := List.mem_map.mp (List.mem_filter.mp kept).1
    have found := (List.mem_filter.mp inside).2
    simp only [Bool.and_eq_true] at found
    have found := List.contains_iff_mem.mp found.1.1
    exact (List.takeWhile_prefix _).subset found

theorem mem_of_inclusioned {d peer : Device} {ch : UInt8}
    (member : ch ∈ ch_list_inclusioned d (ch_list_content peer.channel_list)) :
    ch ∈ d.channel_set ∧ ch ∈ peer.channel_set := by
  rw [ch_list_inclusioned, get_peer_ch_list_offered] at member
  exact (mem_ch_inclusion member).imp_right mem_channel_set_of_offered

theorem check_ch_list_cases (d : Device) (p2p_ie : P2pIe) (ch_content : List UInt8)
    (info : WifidirectInfo) (result : UInt8) :
    check_ch_list d p2p_ie ch_content info result =
        ⟨{ info with p2p_state := .GONEGO_FAIL }, P2P_STATUS_FAIL_NO_COMMON_CH, true⟩ ∨
      ∃ channel, check_ch_list d p2p_ie ch_content info result =
          ⟨{ info with operating_channel := channel }, result, false⟩ ∧
        ch_list_inclusioned d ch_content ≠ [] ∧
        (info.role = .GO -> channel ∈ ch_list_inclusioned d ch_content) := by
  unfold check_ch_list
  by_cases empty : ch_list_inclusioned d ch_content = []
  · exact Or.inl (if_pos empty)
  · simp only [if_neg empty]
    by_cases moved : info.role = .GO ∧
        rtw_p2p_is_channel_list_ok info.operating_channel (ch_list_inclusioned d ch_content) = false
    · simp only [if_pos moved]
      by_cases one : d.one_channel = true
      · exact Or.inl (if_pos one)
      · simp only [if_neg one]
        refine Or.inr ?_
        split
        next peer_ok => exact ⟨_, rfl, empty, fun _ => List.contains_iff_mem.mp peer_ok⟩
        next =>
          refine ⟨_, rfl, empty, fun _ => ?_⟩
          cases inclusioned : ch_list_inclusioned d ch_content with
          | nil => exact absurd inclusioned empty
          | cons first rest => exact List.mem_cons_self
    · simp only [if_neg moved]
      refine Or.inr ⟨info.operating_channel, rfl, empty, fun owner => ?_⟩
      have kept := fun not_ok => moved ⟨owner, not_ok⟩
      exact List.contains_iff_mem.mp (Bool.not_eq_false _ |>.mp kept)

theorem intent_byte (intent : UInt8) (small : intent ≤ P2P_MAX_INTENT) (tie : Bool) :
    (((intent <<< 1) &&& 0xFE) ||| (if tie then (1 : UInt8) else 0)) >>> (1 : UInt8) = intent ∧
      (((intent <<< 1) &&& 0xFE) ||| (if tie then (1 : UInt8) else 0)) &&& (1 : UInt8) = (if tie then (1 : UInt8) else 0) ∧
      (intent <<< (1 : UInt8)) &&& (0xFE : UInt8) = intent <<< (1 : UInt8) := by
  have all : ∀ (n : Fin 16) (tie : Bool),
      (((UInt8.ofNat n <<< 1) &&& 0xFE) ||| (if tie then (1 : UInt8) else 0)) >>> (1 : UInt8) = UInt8.ofNat n ∧
        (((UInt8.ofNat n <<< 1) &&& 0xFE) ||| (if tie then (1 : UInt8) else 0)) &&& (1 : UInt8) = (if tie then (1 : UInt8) else 0) ∧
        (UInt8.ofNat n <<< (1 : UInt8)) &&& (0xFE : UInt8) = UInt8.ofNat n <<< (1 : UInt8) := by
    decide
  have bound : intent.toNat < 16 := Nat.lt_succ_of_le (UInt8.le_iff_toNat_le.mp small)
  have same : intent = UInt8.ofNat (⟨intent.toNat, bound⟩ : Fin 16) := UInt8.ofNat_toNat.symm
  rw [same]
  exact all ⟨intent.toNat, bound⟩ tie

section Intents

variable (a b : Device) (tie : Bool)

theorem request_intent_shift : request_intent a tie >>> 1 = a.intent :=
  (intent_byte a.intent a.intent_le tie).1

theorem request_intent_tie : request_intent a tie &&& (1 : UInt8) = if tie then 1 else 0 :=
  (intent_byte a.intent a.intent_le tie).2.1

theorem response_intent_eq : response_intent b (request_intent a tie) = request_intent b !tie := by
  have plain := (intent_byte b.intent b.intent_le tie).2.2
  unfold response_intent
  rw [request_intent_tie]
  unfold request_intent
  rw [plain]
  cases tie <;> simp

/-- The requester is the group owner by the two intent bytes. -/
def requester_owner : Bool :=
  rtw_p2p_nego_intent_compare (request_intent a tie) (response_intent b (request_intent a tie))

theorem requester_owner_eq :
    requester_owner a b tie = if a.intent = b.intent then tie else decide (b.intent < a.intent) := by
  rw [requester_owner, rtw_p2p_nego_intent_compare, response_intent_eq, request_intent_shift,
    request_intent_shift, request_intent_tie]
  cases tie <;> rfl

def role_of_owner (owner : Bool) : P2P_ROLE := if owner then .GO else .CLIENT

theorem role_of_intents_request_intent :
    role_of_intents b (request_intent a tie) = role_of_owner (!requester_owner a b tie) := by
  rw [requester_owner_eq, role_of_intents, request_intent_shift, request_intent_tie]
  by_cases same : b.intent = a.intent
  · rw [if_pos same, if_pos same.symm]
    cases tie <;> rfl
  · rw [if_neg same, if_neg (Ne.symm same)]
    by_cases less : a.intent < b.intent
    · rw [if_pos less, decide_eq_false (UInt8.lt_asymm less)]
      rfl
    · have greater : b.intent < a.intent := UInt8.lt_of_le_of_ne (UInt8.not_lt.mp less) same
      rw [if_neg less, decide_eq_true greater]
      rfl

theorem role_of_intents_response_intent :
    role_of_intents a (response_intent b (request_intent a tie)) =
      role_of_owner (requester_owner a b tie) := by
  rw [response_intent_eq, role_of_intents_request_intent b a, requester_owner_eq, requester_owner_eq]
  by_cases same : b.intent = a.intent
  · rw [if_pos same, if_pos same.symm, Bool.not_not]
  · rw [if_neg same, if_neg (Ne.symm same)]
    by_cases less : a.intent < b.intent
    · rw [decide_eq_true less, decide_eq_false (UInt8.lt_asymm less)]
      rfl
    · have greater : b.intent < a.intent := UInt8.lt_of_le_of_ne (UInt8.not_lt.mp less) same
      rw [decide_eq_false less, decide_eq_true greater]
      rfl

theorem confirm_role_eq (peer_intent : UInt8) : confirm_role b peer_intent = role_of_intents b peer_intent := by
  unfold confirm_role role_of_intents
  by_cases same : b.intent = peer_intent >>> 1
  · rw [if_neg (same ▸ UInt8.lt_irrefl _), if_neg (same ▸ UInt8.lt_irrefl _), if_pos same]
  · rw [if_neg same]
    by_cases less : peer_intent >>> 1 < b.intent
    · rw [if_pos less, if_pos less]
    · have greater : b.intent < peer_intent >>> 1 := UInt8.lt_of_le_of_ne (UInt8.not_lt.mp less) same
      rw [if_neg less, if_neg less, if_pos greater]

def both_insist : Prop := a.intent = P2P_MAX_INTENT ∧ b.intent = P2P_MAX_INTENT

theorem both_max_intent_request_intent : both_max_intent b (request_intent a tie) <-> both_insist a b := by
  rw [both_max_intent, request_intent_shift, both_insist]
  constructor
  · intro both
    exact ⟨both.1 ▸ both.2, both.2⟩
  · intro both
    exact ⟨both.2.trans both.1.symm, both.2⟩

theorem both_max_intent_response_intent :
    both_max_intent a (response_intent b (request_intent a tie)) <-> both_insist a b := by
  rw [response_intent_eq, both_max_intent_request_intent b a]
  exact And.comm

end Intents

/-! ## What a device holds of the negotiation -/

/-- The fields that decide how the negotiation ends. -/
structure Core where
  role : P2P_ROLE
  p2p_state : P2P_STATE
  pre_p2p_state : P2P_STATE
  peer_intent : UInt8
  operating_channel : UInt8
  benable : Bool

def WifidirectInfo.core (info : WifidirectInfo) : Core where
  role := info.role
  p2p_state := info.p2p_state
  pre_p2p_state := info.pre_p2p_state
  peer_intent := info.peer_intent
  operating_channel := info.operating_channel
  benable := info.benable

section Untouched

variable (d : Device) (p2p_ie : P2pIe) (info : WifidirectInfo)

@[simp] theorem store_group_id_core : (store_group_id d info).core = info.core := by
  unfold store_group_id
  split <;> rfl

@[simp] theorem intended_if_addr_core : (intended_if_addr p2p_ie info).core = info.core := by
  unfold intended_if_addr
  split <;> rfl

@[simp] theorem peer_group_id_core : (peer_group_id p2p_ie info).core = info.core := by
  unfold peer_group_id
  split <;> rfl

@[simp] theorem req_listen_ch_core : (req_listen_ch p2p_ie info).core = info.core := by
  unfold req_listen_ch
  split
  · split <;> rfl
  · rfl

@[simp] theorem peer_operating_channel_core : (peer_operating_channel p2p_ie info).core = info.core := by
  unfold peer_operating_channel
  split <;> rfl

@[simp] theorem set_config_method_core (wps_devicepassword_id : UInt16) :
    (set_config_method wps_devicepassword_id info).core = info.core := by
  unfold set_config_method
  split <;> rfl

end Untouched

/-- No negotiation has ended well, and none is remembered. -/
structure Core.NotOk (c : Core) : Prop where
  state : c.p2p_state ≠ .GONEGO_OK
  pre_state : c.pre_p2p_state ≠ .GONEGO_OK

/-- The negotiation ended well, and this end is the group owner or the client. -/
structure Core.Agreed (a b : Device) (owner : Bool) (c : Core) : Prop where
  state : c.p2p_state = .GONEGO_OK
  pre_state : c.pre_p2p_state = .GONEGO_OK
  role : c.role = role_of_owner owner
  channel : owner = true ->
    c.operating_channel ∈ a.channel_set ∧ c.operating_channel ∈ b.channel_set

/-- The responder has accepted the request of `a`. -/
structure Core.Ready (a b : Device) (tie : Bool) (c : Core) : Prop where
  peer_intent : c.peer_intent = request_intent a tie
  insist : ¬both_insist a b
  common : ¬a.channel_set.Disjoint b.channel_set
  channel : requester_owner a b tie = false ->
    c.operating_channel ∈ a.channel_set ∧ c.operating_channel ∈ b.channel_set

theorem check_ch_list_core (d peer : Device) (p2p_ie : P2pIe) (info : WifidirectInfo) (result : UInt8) :
    let pass := check_ch_list d p2p_ie (ch_list_content peer.channel_list) info result
    (pass.info.core = { info.core with p2p_state := .GONEGO_FAIL } ∧
        pass.result = P2P_STATUS_FAIL_NO_COMMON_CH ∧ pass.stop = true) ∨
      ∃ channel, pass.info.core = { info.core with operating_channel := channel } ∧
        pass.result = result ∧ pass.stop = false ∧ ¬d.channel_set.Disjoint peer.channel_set ∧
        (info.role = .GO -> channel ∈ d.channel_set ∧ channel ∈ peer.channel_set) := by
  rcases check_ch_list_cases d p2p_ie (ch_list_content peer.channel_list) info result with
    failed | ⟨channel, passed, some_common, chosen⟩
  · refine Or.inl ?_
    rw [failed]
    exact ⟨rfl, rfl, rfl⟩
  · refine Or.inr ⟨channel, ?_⟩
    rw [passed]
    refine ⟨rfl, rfl, rfl, fun disjoint => ?_, fun owner => mem_of_inclusioned (chosen owner)⟩
    obtain ⟨ch, member⟩ := List.exists_mem_of_ne_nil _ some_common
    exact disjoint (mem_of_inclusioned member).1 (mem_of_inclusioned member).2

theorem req_go_intent_core (d : Device) {p2p_ie : P2pIe} {peer_intent : UInt8}
    (attr : p2p_attr_content p2p_ie P2P_ATTR_GO_INTENT = some [peer_intent]) (info : WifidirectInfo)
    (result : UInt8) :
    (both_max_intent d peer_intent ∧ (req_go_intent d p2p_ie info result).2 = P2P_STATUS_FAIL_BOTH_GOINTENT_15 ∧
        (req_go_intent d p2p_ie info result).1.core =
          { info.core with peer_intent, role := .DEVICE }) ∨
      (¬both_max_intent d peer_intent ∧ (req_go_intent d p2p_ie info result).2 = result ∧
        (req_go_intent d p2p_ie info result).1.core =
          { info.core with peer_intent, role := role_of_intents d peer_intent }) := by
  simp only [req_go_intent, attr, attr_u8, List.getD_cons_zero]
  by_cases both : both_max_intent d peer_intent
  · exact Or.inl ⟨both, by rw [if_pos both], by rw [if_pos both]; rfl⟩
  · refine Or.inr ⟨both, by rw [if_neg both], ?_⟩
    rw [if_neg both, store_group_id_core]
    rfl

theorem resp_go_intent_core (d : Device) {p2p_ie : P2pIe} {peer_intent : UInt8}
    (attr : p2p_attr_content p2p_ie P2P_ATTR_GO_INTENT = some [peer_intent])
    (insist : ¬both_max_intent d peer_intent) (info : WifidirectInfo) (result : UInt8) :
    (resp_go_intent d p2p_ie info result).2 = result ∧
      (resp_go_intent d p2p_ie info result).1.core =
        { info.core with
          peer_intent, role := role_of_intents d peer_intent, p2p_state := .GONEGO_OK,
          pre_p2p_state := .GONEGO_OK } := by
  have unfolded : resp_go_intent d p2p_ie info result = (store_group_id d
      { info with
        peer_intent, role := role_of_intents d peer_intent, p2p_state := .GONEGO_OK,
        pre_p2p_state := .GONEGO_OK }, result) := by
    simp only [resp_go_intent, attr, attr_u8, List.getD_cons_zero, if_neg insist]
  rw [unfolded]
  exact ⟨rfl, store_group_id_core d _⟩

section Handlers

variable (a b : Device) (tie : Bool)

/-- The request was looked at: the state is not a success, and an answer of success means
that the responder is ready. -/
structure Considered (info info' : WifidirectInfo) (result : UInt8) : Prop where
  state : info'.core.p2p_state ≠ .GONEGO_OK
  pre_state : info'.core.pre_p2p_state = info.core.pre_p2p_state
  ready : result = P2P_STATUS_SUCCESS -> info'.core.Ready a b tie

theorem req_round_request (sender info : WifidirectInfo) :
    let pass := req_round b (request_ie a tie sender) info P2P_STATUS_SUCCESS
    Considered a b tie info pass.info pass.result := by
  intro pass
  let decided := req_go_intent b (request_ie a tie sender) { info with p2p_state := .GONEGO_ING }
    P2P_STATUS_SUCCESS
  let left := intended_if_addr (request_ie a tie sender)
    (req_listen_ch (request_ie a tie sender) decided.1)
  have pass_eq : pass = check_ch_list b (request_ie a tie sender) (ch_list_content a.channel_list)
      left decided.2 := rfl
  have left_core : left.core = decided.1.core := by simp only [left, intended_if_addr_core, req_listen_ch_core]
  have left_role : left.role = decided.1.core.role := congrArg Core.role left_core
  have intent := @req_go_intent_core b (request_ie a tie sender) (request_intent a tie) rfl
    { info with p2p_state := .GONEGO_ING } P2P_STATUS_SUCCESS
  rw [pass_eq]
  rcases check_ch_list_core b a (request_ie a tie sender) left decided.2 with
    ⟨core, result, -⟩ | ⟨channel, core, result, -, common, chosen⟩
  · rw [left_core] at core
    refine ⟨by rw [core]; exact nofun, ?_, fun success => ?_⟩
    · rcases intent with ⟨-, -, decided_core⟩ | ⟨-, -, decided_core⟩ <;> rw [core, decided_core] <;> rfl
    · rw [result] at success
      exact absurd success (by decide)
  · rw [left_core] at core
    rw [left_role] at chosen
    rcases intent with ⟨both, status, decided_core⟩ | ⟨insist, status, decided_core⟩
    · rw [decided_core] at core
      refine ⟨by rw [core]; exact nofun, by rw [core]; rfl, fun success => ?_⟩
      rw [result, status] at success
      exact absurd success (by decide)
    · rw [decided_core] at core chosen
      refine ⟨by rw [core]; exact nofun, by rw [core]; rfl, fun _ => ?_⟩
      rw [core]
      refine ⟨rfl, fun both => insist ((both_max_intent_request_intent a b tie).mpr both), ?_, fun owner => ?_⟩
      · exact fun disjoint => common (fun ch one other => disjoint other one)
      · have here : role_of_intents b (request_intent a tie) = .GO := by
          rw [role_of_intents_request_intent, owner]
          rfl
        exact (chosen here).symm

theorem process_req_single {frame : NegoFrame} {wps_devicepassword_id : UInt16} {p2p_ie : P2pIe}
    (wps : frame.wps_devicepassword_id = some wps_devicepassword_id) (single : frame.p2p_ies = [p2p_ie])
    (info : WifidirectInfo) :
    process_p2p_group_negotation_req b frame info =
      let pass := req_round b p2p_ie (set_config_method wps_devicepassword_id info) P2P_STATUS_SUCCESS
      if pass.info.ui_got_wps_info = .NO_WPSINFO then
        ({ pass.info with p2p_state := .TX_INFOR_NOREADY }, P2P_STATUS_FAIL_INFO_UNAVAILABLE)
      else (pass.info, pass.result) := by
  have walked (started : WifidirectInfo) : over_ies (req_round b) [p2p_ie] started P2P_STATUS_SUCCESS =
      ((req_round b p2p_ie started P2P_STATUS_SUCCESS).info,
        (req_round b p2p_ie started P2P_STATUS_SUCCESS).result) := by
    rw [over_ies]
    split <;> rfl
  simp only [process_p2p_group_negotation_req, wps, single, walked, if_neg (List.cons_ne_nil _ _)]

theorem process_req_request (sender info : WifidirectInfo) :
    let done := process_p2p_group_negotation_req b (issue_p2p_GO_request a tie sender) info
    Considered a b tie info done.1 done.2 := by
  intro done
  let method := (issue_p2p_GO_request a tie sender).wps_devicepassword_id.getD 0
  have started_core : (set_config_method method info).core = info.core := set_config_method_core _ _
  have round := req_round_request a b tie sender (set_config_method method info)
  have done_eq := @process_req_single b (issue_p2p_GO_request a tie sender) method _ rfl rfl info
  have unavailable : P2P_STATUS_FAIL_INFO_UNAVAILABLE ≠ P2P_STATUS_SUCCESS := by decide
  simp only [done, done_eq]
  generalize req_round b (request_ie a tie sender) (set_config_method method info) P2P_STATUS_SUCCESS =
    pass at round ⊢
  split
  · refine ⟨nofun, ?_, fun success => absurd success unavailable⟩
    rw [← started_core, ← round.pre_state]
    rfl
  · exact ⟨round.state, started_core ▸ round.pre_state, round.ready⟩

theorem process_resp_response (frame : NegoFrame) (status : UInt8) (sender info : WifidirectInfo) :
    process_p2p_group_negotation_resp a (issue_p2p_GO_response b frame status sender) info =
      over_ies (resp_round a) [response_ie b status sender] info P2P_STATUS_SUCCESS := rfl

theorem process_resp_refused {status : UInt8} (refused : status ≠ P2P_STATUS_SUCCESS) (frame : NegoFrame)
    (sender info : WifidirectInfo) (fresh : info.core.NotOk) :
    let done := process_p2p_group_negotation_resp a (issue_p2p_GO_response b frame status sender) info
    done.1.core.NotOk ∧ done.2 ≠ P2P_STATUS_SUCCESS := by
  intro done
  have round : resp_round a (response_ie b status sender) info P2P_STATUS_SUCCESS =
      ⟨{ info with
          role := .DEVICE
          p2p_state :=
            if status = P2P_STATUS_FAIL_INFO_UNAVAILABLE then .RX_INFOR_NOREADY else .GONEGO_FAIL },
        status, true⟩ := by
    have read : status_of (response_ie b status sender) = some status := rfl
    simp only [resp_round, read, if_neg refused]
  have done_eq : done = over_ies (resp_round a) [response_ie b status sender] info P2P_STATUS_SUCCESS :=
    process_resp_response a b frame status sender info
  rw [done_eq, over_ies, round]
  refine ⟨⟨?_, fresh.pre_state⟩, refused⟩
  by_cases not_ready : status = P2P_STATUS_FAIL_INFO_UNAVAILABLE
  · simp [WifidirectInfo.core, not_ready]
  · simp [WifidirectInfo.core, not_ready]

theorem process_resp_accepted (frame : NegoFrame) (sender info : WifidirectInfo)
    (heard : sender.peer_intent = request_intent a tie) (insist : ¬both_insist a b) :
    let done := process_p2p_group_negotation_resp a (issue_p2p_GO_response b frame P2P_STATUS_SUCCESS sender) info
    done.2 = P2P_STATUS_SUCCESS -> done.1.core.Agreed a b (requester_owner a b tie) := by
  intro done success
  let ie := response_ie b P2P_STATUS_SUCCESS sender
  let decided := resp_go_intent a ie (intended_if_addr ie info) P2P_STATUS_SUCCESS
  let left : WifidirectInfo :=
    { peer_operating_channel ie decided.1 with channel_list_attr := ch_list_content b.channel_list }
  let pass := check_ch_list a ie (ch_list_content b.channel_list) left decided.2
  have read : status_of ie = some P2P_STATUS_SUCCESS := rfl
  have round : resp_round a ie info P2P_STATUS_SUCCESS =
      if pass.stop then pass else { pass with info := peer_group_id ie pass.info } := by
    simp only [resp_round, read, if_true]
    rfl
  have done_eq : done = over_ies (resp_round a) [ie] info P2P_STATUS_SUCCESS :=
    process_resp_response a b frame P2P_STATUS_SUCCESS sender info
  have attr : p2p_attr_content ie P2P_ATTR_GO_INTENT = some [response_intent b (request_intent a tie)] := by
    rw [← heard]
    rfl
  have not_both : ¬both_max_intent a (response_intent b (request_intent a tie)) :=
    fun both => insist ((both_max_intent_response_intent a b tie).mp both)
  have intent := resp_go_intent_core a attr not_both (intended_if_addr ie info) P2P_STATUS_SUCCESS
  have left_core : left.core = decided.1.core := peer_operating_channel_core ie decided.1
  rw [done_eq, over_ies, round] at success ⊢
  rcases check_ch_list_core a b ie left decided.2 with
    ⟨core, result, stop⟩ | ⟨channel, core, result, stop, common, chosen⟩
  · simp only [pass, stop, if_true] at success
    rw [result] at success
    exact absurd success (by decide)
  · simp only [pass, stop, Bool.false_eq_true, if_false, over_ies, peer_group_id_core]
    rw [core, left_core, intent.2]
    have role := role_of_intents_response_intent a b tie
    refine ⟨rfl, rfl, role, fun owner => chosen ?_⟩
    have left_role : left.role = decided.1.core.role := congrArg Core.role left_core
    rw [left_role, intent.2]
    exact role.trans (by rw [owner]; rfl)

theorem process_confirm_refused {status : UInt8} (refused : status ≠ P2P_STATUS_SUCCESS)
    (sender info : WifidirectInfo) (fresh : info.core.NotOk) :
    (process_p2p_group_negotation_confirm b (issue_p2p_GO_confirm a status sender) info).1.core.NotOk := by
  have read : status_of (confirm_ie a status sender) = some status := rfl
  have done_eq : process_p2p_group_negotation_confirm b (issue_p2p_GO_confirm a status sender) info =
      over_ies (confirm_round b) [confirm_ie a status sender] info P2P_STATUS_SUCCESS := rfl
  rw [done_eq, over_ies, confirm_round]
  simp only [read, if_neg refused]
  exact ⟨nofun, fresh.pre_state⟩

theorem process_confirm_accepted (sender info : WifidirectInfo) (ready : info.core.Ready a b tie) :
    (process_p2p_group_negotation_confirm b (issue_p2p_GO_confirm a P2P_STATUS_SUCCESS sender) info).1.core.Agreed
      a b (!requester_owner a b tie) := by
  have read : status_of (confirm_ie a P2P_STATUS_SUCCESS sender) = some P2P_STATUS_SUCCESS := rfl
  have done_eq : process_p2p_group_negotation_confirm b (issue_p2p_GO_confirm a P2P_STATUS_SUCCESS sender) info =
      over_ies (confirm_round b) [confirm_ie a P2P_STATUS_SUCCESS sender] info P2P_STATUS_SUCCESS := rfl
  have heard : info.peer_intent = request_intent a tie := ready.peer_intent
  rw [done_eq, over_ies, confirm_round]
  simp only [read, if_true, Bool.false_eq_true, if_false, over_ies, peer_operating_channel_core, peer_group_id_core]
  refine ⟨rfl, rfl, ?_, fun owner => ready.channel (Bool.not_eq_true' _ |>.mp owner)⟩
  show confirm_role b info.peer_intent = _
  rw [confirm_role_eq, heard, role_of_intents_request_intent]

end Handlers
end GoNego
end Rtl8821ce
