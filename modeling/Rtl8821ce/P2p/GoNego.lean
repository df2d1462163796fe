import Mathlib.Data.List.FinRange
import Rtl8821ce.P2p.ChannelList

/-!
# Group owner negotiation

Two devices exchange a request, a response and a confirm frame and decide which one
becomes the group owner.  Frames are taken at the level of their attributes.  The fields
of `wifidirect_info` and the attributes that no function here looks at are left out.
-/

namespace Rtl8821ce
namespace GoNego

open P2p

inductive P2P_ROLE
  | DISABLE
  | DEVICE
  | CLIENT
  | GO
deriving DecidableEq

inductive P2P_STATE
  | NONE
  | IDLE
  | LISTEN
  | SCAN
  | FIND_PHASE_LISTEN
  | FIND_PHASE_SEARCH
  | TX_PROVISION_DIS_REQ
  | RX_PROVISION_DIS_RSP
  | RX_PROVISION_DIS_REQ
  | GONEGO_ING
  | GONEGO_OK
  | GONEGO_FAIL
  | RECV_INVITE_REQ_MATCH
  | PROVISIONING_ING
  | PROVISIONING_DONE
  | TX_INVITE_REQ
  | RX_INVITE_RESP_OK
  | RECV_INVITE_REQ_DISMATCH
  | RECV_INVITE_REQ_GO
  | RECV_INVITE_REQ_JOIN
  | RX_INVITE_RESP_FAIL
  | RX_INFOR_NOREADY
  | TX_INFOR_NOREADY
deriving DecidableEq

inductive P2P_WPSINFO
  | NO_WPSINFO
  | GOT_WPSINFO_PEER_DISPLAY_PIN
  | GOT_WPSINFO_SELF_DISPLAY_PIN
  | GOT_WPSINFO_PBC
deriving DecidableEq

def P2P_STATUS_SUCCESS : UInt8 := 0x00
def P2P_STATUS_FAIL_INFO_UNAVAILABLE : UInt8 := 0x01
def P2P_STATUS_FAIL_INCOMPATIBLE_PARAM : UInt8 := 0x02
def P2P_STATUS_FAIL_NO_COMMON_CH : UInt8 := 0x07
def P2P_STATUS_FAIL_BOTH_GOINTENT_15 : UInt8 := 0x09

def P2P_MAX_INTENT : UInt8 := 15

def WPS_DPID_PIN : UInt16 := 0x0000
def WPS_DPID_USER_SPEC : UInt16 := 0x0001
def WPS_DPID_PBC : UInt16 := 0x0004
def WPS_DPID_REGISTRAR_SPEC : UInt16 := 0x0005

/-! ## Channels -/

inductive Bw
  | BW20
  | BW40PLUS
  | BW40MINUS
deriving DecidableEq

/-- `struct p2p_oper_class_map`. -/
structure OperClassMap where
  op_class : UInt8
  min_chan : Nat
  max_chan : Nat
  inc : Nat
  bw : Bw

def op_class : List OperClassMap :=
  [⟨81, 1, 13, 1, .BW20⟩, ⟨82, 14, 14, 1, .BW20⟩, ⟨115, 36, 48, 4, .BW20⟩,
    ⟨116, 36, 44, 8, .BW40PLUS⟩, ⟨117, 40, 48, 8, .BW40MINUS⟩, ⟨124, 149, 161, 4, .BW20⟩,
    ⟨125, 149, 169, 4, .BW20⟩, ⟨126, 149, 157, 8, .BW40PLUS⟩, ⟨127, 153, 161, 8, .BW40MINUS⟩]

/-- `struct p2p_reg_class`. -/
structure RegClass where
  reg_class : UInt8
  channel : List UInt8

/-- What a device has at the start of a negotiation and keeps: the settings of the driver
and of the radio, its addresses and its intent.  `mi_linked` is `MI_LINKED`, which only a
build with `CONFIG_CONCURRENT_MODE` looks at. -/
structure Device where
  channel_set : List UInt8
  ht_enable : Bool
  bw_5g_40 : Bool
  mi_linked : Bool
  full_ch_in_p2p_handshake : Bool
  union_chan : UInt8
  /-- A linked interface is on a channel of the set. -/
  union_chan_mem : mi_linked = true -> union_chan ∈ channel_set
  intent : UInt8
  intent_le : intent ≤ P2P_MAX_INTENT
  adapter_mac_addr : List UInt8
  device_addr : List UInt8
  nego_ssid : List UInt8
  listen_channel : UInt8

/-- Only the channel of the linked interface is offered. -/
def Device.one_channel (d : Device) : Bool := d.mi_linked && !d.full_ch_in_p2p_handshake

/-- `rtw_chset_search_ch` finds the channel.  The set ends at the first zero. -/
def rtw_chset_search_ch (channel_set : List UInt8) (ch : UInt8) : Bool :=
  (channel_set.takeWhile (· != 0)).contains ch

def OperClassMap.chans (o : OperClassMap) : List UInt8 :=
  (List.range ((o.max_chan - o.min_chan) / o.inc + 1)).map fun i => UInt8.ofNat (o.min_chan + i * o.inc)

/-- The channels of one operating class that `init_channel_list` keeps. -/
def init_reg_class (d : Device) (o : OperClassMap) : RegClass where
  reg_class := o.op_class
  channel := o.chans.filter fun ch =>
    rtw_chset_search_ch d.channel_set ch && !(!d.ht_enable && o.inc == 8)
      && !(d.bw_5g_40 && o.bw != .BW20)

/-- `init_channel_list`.  A class is added with its first channel. -/
def init_channel_list (d : Device) : List RegClass :=
  (op_class.map (init_reg_class d)).filter fun reg => !reg.channel.isEmpty

/-- The class that goes with the channel of the linked interface. -/
def union_class (union_chan : UInt8) : UInt8 :=
  if 14 < union_chan then if 149 ≤ union_chan then 0x7c else 0x73 else 0x51

/-- The classes a device puts into a Channel List attribute. -/
def Device.channel_list (d : Device) : List RegClass :=
  if d.one_channel then [⟨union_class d.union_chan, [d.union_chan]⟩] else init_channel_list d

def channel_entries (regs : List RegClass) : List UInt8 :=
  regs.flatMap fun reg => reg.reg_class :: UInt8.ofNat reg.channel.length :: reg.channel

/-- `'X'`, `'X'` and the third byte. -/
def country_string : List UInt8 := [0x58, 0x58, 0x04]

def operating_class (channel : UInt8) : UInt8 :=
  if channel ≤ 14 then 0x51 else if 36 ≤ channel ∧ channel ≤ 48 then 0x73 else 0x7c

/-- The rounds of `rtw_p2p_get_peer_ch_list`. -/
def peer_ch_entries : Nat -> List UInt8 -> UInt8 -> List UInt8
  | 0, _, _ => []
  | fuel + 1, ch_content, ch_cnt =>
      if 0 < ch_cnt then
        let temp := ch_content.getD 1 0
        (ch_content.drop 2).take temp.toNat ++
          peer_ch_entries fuel (ch_content.drop (2 + temp.toNat)) (ch_cnt - 1 - (temp + 1))
      else []

/-- `rtw_p2p_get_peer_ch_list`, the channels of the entries.  Both the length of the
content and the number of the channels are an `u8`. -/
def rtw_p2p_get_peer_ch_list (ch_content : List UInt8) : List UInt8 :=
  let peer_ch_list :=
    peer_ch_entries (ch_content.length + 1) (ch_content.drop 3) (UInt8.ofNat ch_content.length - 3)
  peer_ch_list.take (peer_ch_list.length % 256)

/-- `rtw_p2p_ch_inclusion`.  The search for a channel starts at the place of the last one
that was found. -/
def ch_inclusion (channel_set : List UInt8) : List UInt8 -> Nat -> List UInt8
  | [], _ => []
  | ch :: rest, temp =>
      match (channel_set.drop temp).findIdx? (· == ch) with
      | some j => ch :: ch_inclusion channel_set rest (temp + j)
      | none => ch_inclusion channel_set rest temp

def rtw_p2p_ch_inclusion (d : Device) (peer_ch_list : List UInt8) : List UInt8 :=
  ch_inclusion d.channel_set peer_ch_list 0

def rtw_p2p_is_channel_list_ok (desired_ch : UInt8) (ch_list : List UInt8) : Bool :=
  ch_list.contains desired_ch

inductive OuiSubtype
  | P2P_GO_NEGO_REQ
  | P2P_GO_NEGO_RESP
  | P2P_GO_NEGO_CONF
deriving DecidableEq

/-- A P2P element: identifiers and contents of its attributes. -/
abbrev P2pIe : Type := List (UInt8 × List UInt8)

/-- A public action frame of the negotiation.  `wps_devicepassword_id` is `none` when the
frame has no WPS element. -/
structure NegoFrame where
  oui_subtype : OuiSubtype
  dialog_token : UInt8
  wps_devicepassword_id : Option UInt16
  p2p_ies : List P2pIe
deriving DecidableEq

/-- `rtw_get_p2p_attr_content`: the content of the first attribute of this kind. -/
def p2p_attr_content (p2p_ie : P2pIe) (attr_id : UInt8) : Option (List UInt8) :=
  p2p_ie.lookup attr_id

def attr_u8 (content : List UInt8) : UInt8 := content.getD 0 0

/-- `operatingch_info[4]`, and `listen_ch_attr[4]`. -/
def attr_channel (content : List UInt8) : UInt8 := content.getD 4 0

/-- `struct wifidirect_info`.  `config_method` is
`rx_prov_disc_info.strconfig_method_desc_of_prov_disc_req`, `peer_ch` and `benable` are in
`nego_req_info`, `go_device_addr` and `ssid` in `groupid_info`. -/
structure WifidirectInfo where
  role : P2P_ROLE
  p2p_state : P2P_STATE
  pre_p2p_state : P2P_STATE
  peer_intent : UInt8
  operating_channel : UInt8
  peer_operating_ch : UInt8
  ui_got_wps_info : P2P_WPSINFO
  benable : Bool
  peer_ch : UInt8
  p2p_peer_interface_addr : List UInt8
  channel_list_attr : List UInt8
  go_device_addr : List UInt8
  ssid : List UInt8
  config_method : String
  negotiation_dialog_token : UInt8

/-- What one round over the P2P elements leaves; `stop` says that it ended with `break`. -/
structure Pass where
  info : WifidirectInfo
  result : UInt8
  stop : Bool

def over_ies (round : P2pIe -> WifidirectInfo -> UInt8 -> Pass) :
    List P2pIe -> WifidirectInfo -> UInt8 -> WifidirectInfo × UInt8
  | [], info, result => (info, result)
  | p2p_ie :: rest, info, result =>
      let pass := round p2p_ie info result
      if pass.stop then (pass.info, pass.result)
      else over_ies round rest pass.info pass.result

/-- `_rtw_memcpy` onto the first bytes of a field. -/
def copied (content field : List UInt8) : List UInt8 := content ++ field.drop content.length

/-- The group of the device itself, when it is the group owner. -/
def store_group_id (d : Device) (info : WifidirectInfo) : WifidirectInfo :=
  if info.role = .GO then
    { info with go_device_addr := d.device_addr, ssid := copied d.nego_ssid info.ssid }
  else info

/-- The attribute with the address of the peer's interface. -/
def intended_if_addr (p2p_ie : P2pIe) (info : WifidirectInfo) : WifidirectInfo :=
  match p2p_attr_content p2p_ie P2P_ATTR_INTENDED_IF_ADDR with
  | some content =>
      { info with
        p2p_peer_interface_addr := if content.length = 6 then content else List.replicate 6 0 }
  | none => info

def peer_group_id (p2p_ie : P2pIe) (info : WifidirectInfo) : WifidirectInfo :=
  match p2p_attr_content p2p_ie P2P_ATTR_GROUP_ID with
  | some content =>
      { info with go_device_addr := content.take 6, ssid := copied (content.drop 6) info.ssid }
  | none => info

/-- The channels of the peer's Channel List attribute that the device has as well. -/
def ch_list_inclusioned (d : Device) (ch_content : List UInt8) : List UInt8 :=
  rtw_p2p_ch_inclusion d (rtw_p2p_get_peer_ch_list ch_content)

/-- The treatment of a Channel List attribute, which the handlers of the request and of the
response have word for word. -/
def check_ch_list (d : Device) (p2p_ie : P2pIe) (ch_content : List UInt8) (info : WifidirectInfo)
    (result : UInt8) : Pass :=
  let inclusioned := ch_list_inclusioned d ch_content
  if inclusioned = [] then
    ⟨{ info with p2p_state := .GONEGO_FAIL }, P2P_STATUS_FAIL_NO_COMMON_CH, true⟩
  else if info.role = .GO ∧ rtw_p2p_is_channel_list_ok info.operating_channel inclusioned = false then
    if d.one_channel then
      ⟨{ info with p2p_state := .GONEGO_FAIL }, P2P_STATUS_FAIL_NO_COMMON_CH, true⟩
    else
      let peer_operating_ch :=
        ((p2p_attr_content p2p_ie P2P_ATTR_OPERATING_CH).map attr_channel).getD 0
      if rtw_p2p_is_channel_list_ok peer_operating_ch inclusioned then
        -- the operating channel becomes the peer's, for compatibility
        ⟨{ info with operating_channel := peer_operating_ch }, result, false⟩
      else ⟨{ info with operating_channel := inclusioned.headD 0 }, result, false⟩
  else ⟨info, result, false⟩

/-- The role by the two intents and the tie breaker of the peer. -/
def role_of_intents (d : Device) (attr_content : UInt8) : P2P_ROLE :=
  if d.intent = attr_content >>> 1 then
    if attr_content &&& 0x01 ≠ 0 then .CLIENT else .GO
  else if attr_content >>> 1 < d.intent then .GO
  else .CLIENT

def both_max_intent (d : Device) (attr_content : UInt8) : Prop :=
  d.intent = attr_content >>> 1 ∧ d.intent = P2P_MAX_INTENT

instance (d : Device) (attr_content : UInt8) : Decidable (both_max_intent d attr_content) :=
  inferInstanceAs (Decidable (_ ∧ _))

/-! ## The handlers -/

def req_go_intent (d : Device) (p2p_ie : P2pIe) (info : WifidirectInfo) (result : UInt8) : WifidirectInfo × UInt8 :=
  match p2p_attr_content p2p_ie P2P_ATTR_GO_INTENT with
  | none => (info, result)
  | some content =>
      let peer_intent := attr_u8 content
      if both_max_intent d peer_intent then
        ({ info with peer_intent, role := .DEVICE }, P2P_STATUS_FAIL_BOTH_GOINTENT_15)
      else
        (store_group_id d { info with peer_intent, role := role_of_intents d peer_intent }, result)

def req_listen_ch (p2p_ie : P2pIe) (info : WifidirectInfo) : WifidirectInfo :=
  match p2p_attr_content p2p_ie P2P_ATTR_LISTEN_CH with
  | some content =>
      if content.length = 5 then { info with peer_ch := attr_channel content } else info
  | none => info

def req_round (d : Device) (p2p_ie : P2pIe) (info : WifidirectInfo) (result : UInt8) : Pass :=
  let decided := req_go_intent d p2p_ie { info with p2p_state := .GONEGO_ING } result
  let info := intended_if_addr p2p_ie (req_listen_ch p2p_ie decided.1)
  match p2p_attr_content p2p_ie P2P_ATTR_CH_LIST with
  | some ch_content => check_ch_list d p2p_ie ch_content info decided.2
  | none => ⟨info, decided.2, false⟩

/-- The method of the peer, from the Device Password ID. -/
def config_method_of (wps_devicepassword_id : UInt16) : String :=
  if wps_devicepassword_id = WPS_DPID_USER_SPEC then "dis"
  else if wps_devicepassword_id = WPS_DPID_REGISTRAR_SPEC then "pad"
  else "pbc"

def set_config_method (wps_devicepassword_id : UInt16) (info : WifidirectInfo) : WifidirectInfo :=
  if info.config_method = "000" then
    { info with config_method := config_method_of wps_devicepassword_id }
  else info

def process_p2p_group_negotation_req (d : Device) (frame : NegoFrame) (info : WifidirectInfo) :
    WifidirectInfo × UInt8 :=
  match frame.wps_devicepassword_id with
  | none => ({ info with p2p_state := .GONEGO_FAIL }, P2P_STATUS_FAIL_INCOMPATIBLE_PARAM)
  | some wps_devicepassword_id =>
      let info := set_config_method wps_devicepassword_id info
      let walked :=
        if frame.p2p_ies = [] then
          ({ info with p2p_state := .GONEGO_FAIL }, P2P_STATUS_FAIL_INCOMPATIBLE_PARAM)
        else over_ies (req_round d) frame.p2p_ies info P2P_STATUS_SUCCESS
      if walked.1.ui_got_wps_info = .NO_WPSINFO then
        ({ walked.1 with p2p_state := .TX_INFOR_NOREADY }, P2P_STATUS_FAIL_INFO_UNAVAILABLE)
      else walked

def resp_go_intent (d : Device) (p2p_ie : P2pIe) (info : WifidirectInfo) (result : UInt8) : WifidirectInfo × UInt8 :=
  match p2p_attr_content p2p_ie P2P_ATTR_GO_INTENT with
  | none => (info, result)
  | some content =>
      let peer_intent := attr_u8 content
      if both_max_intent d peer_intent then
        ({ info with peer_intent, role := .DEVICE, p2p_state := .GONEGO_FAIL },
          P2P_STATUS_FAIL_BOTH_GOINTENT_15)
      else
        (store_group_id d
          { info with
            peer_intent, role := role_of_intents d peer_intent, p2p_state := .GONEGO_OK,
            pre_p2p_state := .GONEGO_OK }, result)

/-- The Operating Channel attribute of a response or a confirm frame. -/
def peer_operating_channel (p2p_ie : P2pIe) (info : WifidirectInfo) : WifidirectInfo :=
  match p2p_attr_content p2p_ie P2P_ATTR_OPERATING_CH with
  | some content => { info with peer_operating_ch := attr_channel content }
  | none => info

def status_of (p2p_ie : P2pIe) : Option UInt8 :=
  match p2p_attr_content p2p_ie P2P_ATTR_STATUS with
  | some content => if content.length = 1 then some (attr_u8 content) else none
  | none => none

/-- The attributes of a response behind the Status attribute. -/
def resp_attributes (d : Device) (p2p_ie : P2pIe) (info : WifidirectInfo) (result : UInt8) : Pass :=
  let decided := resp_go_intent d p2p_ie (intended_if_addr p2p_ie info) result
  let info := peer_operating_channel p2p_ie decided.1
  match p2p_attr_content p2p_ie P2P_ATTR_CH_LIST with
  | some ch_content =>
      let pass := check_ch_list d p2p_ie ch_content { info with channel_list_attr := ch_content } decided.2
      if pass.stop then pass else { pass with info := peer_group_id p2p_ie pass.info }
  | none => ⟨peer_group_id p2p_ie info, decided.2, false⟩

def resp_round (d : Device) (p2p_ie : P2pIe) (info : WifidirectInfo) (result : UInt8) : Pass :=
  match status_of p2p_ie with
  | some status =>
      if status = P2P_STATUS_SUCCESS then resp_attributes d p2p_ie info result
      else
        ⟨{ info with
            role := .DEVICE
            p2p_state :=
              if status = P2P_STATUS_FAIL_INFO_UNAVAILABLE then .RX_INFOR_NOREADY else .GONEGO_FAIL },
          status, true⟩
  | none => resp_attributes d p2p_ie info result

def process_p2p_group_negotation_resp (d : Device) (frame : NegoFrame) (info : WifidirectInfo) :
    WifidirectInfo × UInt8 :=
  let checked :=
    if frame.wps_devicepassword_id = none then
      ({ info with p2p_state := .GONEGO_FAIL }, P2P_STATUS_FAIL_INCOMPATIBLE_PARAM)
    else (info, P2P_STATUS_SUCCESS)
  if frame.p2p_ies = [] then
    ({ checked.1 with role := .DEVICE, p2p_state := .GONEGO_FAIL }, P2P_STATUS_FAIL_INCOMPATIBLE_PARAM)
  else over_ies (resp_round d) frame.p2p_ies checked.1 checked.2

/-- The role by the comparison in the handler of the confirm frame. -/
def confirm_role (d : Device) (peer_intent : UInt8) : P2P_ROLE :=
  if peer_intent >>> 1 < d.intent then .GO
  else if d.intent < peer_intent >>> 1 then .CLIENT
  else if peer_intent &&& 0x01 ≠ 0 then .CLIENT
  else .GO

def confirm_round (d : Device) (p2p_ie : P2pIe) (info : WifidirectInfo) (result : UInt8) : Pass :=
  let info := { info with negotiation_dialog_token := 1 }
  match status_of p2p_ie with
  | some status =>
      if status = P2P_STATUS_SUCCESS then
        let info :=
          { info with
            p2p_state := .GONEGO_OK, pre_p2p_state := .GONEGO_OK,
            role := confirm_role d info.peer_intent }
        ⟨peer_operating_channel p2p_ie (peer_group_id p2p_ie info), status, false⟩
      else ⟨{ info with role := .DEVICE, p2p_state := .GONEGO_FAIL }, status, true⟩
  | none => ⟨peer_operating_channel p2p_ie (peer_group_id p2p_ie info), result, false⟩

def process_p2p_group_negotation_confirm (d : Device) (frame : NegoFrame) (info : WifidirectInfo) :
    WifidirectInfo × UInt8 :=
  over_ies (confirm_round d) frame.p2p_ies info P2P_STATUS_SUCCESS

def rtw_p2p_nego_intent_compare (req resp : UInt8) : Bool :=
  if req >>> 1 = resp >>> 1 then req &&& 0x01 != 0 else decide (resp >>> 1 < req >>> 1)

/-! ## Sending -/

/-- The GO Intent of a request.  The source leaves the tie breaker at 0 (`tie = false`). -/
def request_intent (d : Device) (tie : Bool) : UInt8 :=
  ((d.intent <<< 1) &&& 0xFE) ||| (if tie then 1 else 0)

/-- The GO Intent of a response: the tie breaker is not the one of the peer. -/
def response_intent (d : Device) (peer_intent : UInt8) : UInt8 :=
  if peer_intent &&& 0x01 ≠ 0 then d.intent <<< 1 else (d.intent <<< 1) ||| 1

def ch_list_content (regs : List RegClass) : List UInt8 := country_string ++ channel_entries regs

def operating_ch_content (channel : UInt8) : List UInt8 :=
  country_string ++ [operating_class channel, channel]

def group_id_attr (d : Device) (info : WifidirectInfo) : P2pIe :=
  if info.role = .GO then [(P2P_ATTR_GROUP_ID, d.device_addr ++ d.nego_ssid)] else []

def request_ie (d : Device) (tie : Bool) (info : WifidirectInfo) : P2pIe :=
  [(P2P_ATTR_GO_INTENT, [request_intent d tie]),
    (P2P_ATTR_LISTEN_CH, country_string ++ [0x51, d.listen_channel]),
    (P2P_ATTR_INTENDED_IF_ADDR, d.adapter_mac_addr),
    (P2P_ATTR_CH_LIST, ch_list_content d.channel_list),
    (P2P_ATTR_OPERATING_CH, operating_ch_content info.operating_channel)]

def issue_p2p_GO_request (d : Device) (tie : Bool) (info : WifidirectInfo) : NegoFrame where
  oui_subtype := .P2P_GO_NEGO_REQ
  dialog_token := 1
  wps_devicepassword_id := some
    (match info.ui_got_wps_info with
    | .NO_WPSINFO => WPS_DPID_PIN
    | .GOT_WPSINFO_PEER_DISPLAY_PIN => WPS_DPID_USER_SPEC
    | .GOT_WPSINFO_SELF_DISPLAY_PIN => WPS_DPID_REGISTRAR_SPEC
    | .GOT_WPSINFO_PBC => WPS_DPID_PBC)
  p2p_ies := [request_ie d tie info]

/-- The Device Password ID that answers the one of the request. -/
def response_devicepassword_id (wps_devicepassword_id : Option UInt16) : UInt16 :=
  if wps_devicepassword_id = some WPS_DPID_USER_SPEC then WPS_DPID_REGISTRAR_SPEC
  else if wps_devicepassword_id = some WPS_DPID_REGISTRAR_SPEC then WPS_DPID_USER_SPEC
  else WPS_DPID_PBC

def response_ie (d : Device) (result : UInt8) (info : WifidirectInfo) : P2pIe :=
  [(P2P_ATTR_STATUS, [result]),
    (P2P_ATTR_GO_INTENT, [response_intent d info.peer_intent]),
    (P2P_ATTR_OPERATING_CH, operating_ch_content info.operating_channel),
    (P2P_ATTR_INTENDED_IF_ADDR, d.adapter_mac_addr),
    (P2P_ATTR_CH_LIST, ch_list_content d.channel_list)] ++ group_id_attr d info

def issue_p2p_GO_response (d : Device) (frame : NegoFrame) (result : UInt8) (info : WifidirectInfo) : NegoFrame where
  oui_subtype := .P2P_GO_NEGO_RESP
  dialog_token := frame.dialog_token
  wps_devicepassword_id := some (response_devicepassword_id frame.wps_devicepassword_id)
  p2p_ies := [response_ie d result info]

def confirm_ie (d : Device) (result : UInt8) (info : WifidirectInfo) : P2pIe :=
  let channel := if info.role = .CLIENT then info.peer_operating_ch else info.operating_channel
  [(P2P_ATTR_STATUS, [result]),
    (P2P_ATTR_OPERATING_CH, operating_ch_content channel),
    (P2P_ATTR_CH_LIST, country_string ++ [operating_class channel, 1, channel])] ++ group_id_attr d info

def issue_p2p_GO_confirm (d : Device) (result : UInt8) (info : WifidirectInfo) : NegoFrame where
  oui_subtype := .P2P_GO_NEGO_CONF
  dialog_token := info.negotiation_dialog_token
  wps_devicepassword_id := none
  p2p_ies := [confirm_ie d result info]

def before_request (info : WifidirectInfo) : WifidirectInfo :=
  let info := { info with go_device_addr := List.replicate 6 0, ssid := List.replicate info.ssid.length 0 }
  let info :=
    if info.p2p_state = .RX_PROVISION_DIS_REQ then { info with p2p_state := info.pre_p2p_state }
    else info
  let info :=
    if info.p2p_state = .GONEGO_FAIL then { info with p2p_state := info.pre_p2p_state } else info
  if info.p2p_state = .GONEGO_ING then info else { info with pre_p2p_state := info.p2p_state }

/-- `on_action_public_p2p`: what the device becomes, and what it sends. -/
def on_action_public_p2p (d : Device) (frame : NegoFrame) (info : WifidirectInfo) :
    WifidirectInfo × Option NegoFrame :=
  if info.p2p_state = .NONE ∨ info.p2p_state = .IDLE then (info, none)
  else
    match frame.oui_subtype with
    | .P2P_GO_NEGO_REQ =>
        let done := process_p2p_group_negotation_req d frame (before_request info)
        -- the response takes the method from the request once more, where there is none
        let info :=
          { set_config_method (frame.wps_devicepassword_id.getD 0) done.1 with
            negotiation_dialog_token := frame.dialog_token }
        (info, some (issue_p2p_GO_response d frame done.2 info))
    | .P2P_GO_NEGO_RESP =>
        if info.p2p_state = .GONEGO_ING then
          let done := process_p2p_group_negotation_resp d frame { info with benable := false }
          ({ done.1 with negotiation_dialog_token := 1 },
            some (issue_p2p_GO_confirm d done.2 done.1))
        else (info, none)
    | .P2P_GO_NEGO_CONF => ((process_p2p_group_negotation_confirm d frame info).1, none)

/-- The negotiation part of `OnProbeRsp`: the peer was heard, so that the request goes out. -/
def OnProbeRsp (d : Device) (tie : Bool) (info : WifidirectInfo) : WifidirectInfo × Option NegoFrame :=
  if info.p2p_state = .GONEGO_ING ∧ info.benable = true then
    let info := { info with benable := false, negotiation_dialog_token := 1 }
    (info, some (issue_p2p_GO_request d tie info))
  else (info, none)

/-- `restore_p2p_state_timer` has run out. -/
def restore_p2p_state_handler (info : WifidirectInfo) : WifidirectInfo :=
  if info.p2p_state = .NONE then info
  else
    let info :=
      if info.p2p_state = .GONEGO_ING ∨ info.p2p_state = .GONEGO_FAIL then { info with role := .DEVICE }
      else info
    { info with p2p_state := info.pre_p2p_state }

/-- The two ends, the frames in the air and all that were sent. -/
structure Exchange where
  requester : WifidirectInfo
  responder : WifidirectInfo
  air : List NegoFrame
  sent : List NegoFrame

inductive Operation
  | probe_response
  | deliver (place : Nat)
  | lose (place : Nat)
  | restore_requester
  | restore_responder
  | wps_info_requester (info : P2P_WPSINFO)
  | wps_info_responder (info : P2P_WPSINFO)

def Exchange.send (s : Exchange) (frame : Option NegoFrame) : Exchange :=
  { s with air := s.air ++ frame.toList, sent := s.sent ++ frame.toList }

/-- Request and confirm go to the responder, the response to the requester. -/
def Exchange.receive (a b : Device) (s : Exchange) (frame : NegoFrame) : Exchange :=
  if frame.oui_subtype = .P2P_GO_NEGO_RESP then
    let done := on_action_public_p2p a frame s.requester
    { s with requester := done.1 }.send done.2
  else
    let done := on_action_public_p2p b frame s.responder
    { s with responder := done.1 }.send done.2

/-- One step of a negotiation of the devices `a` and `b`.  A frame is delivered or lost at
any time, and so the timers run out. -/
def step (a b : Device) (tie : Bool) (s : Exchange) : Operation -> Exchange
  | .probe_response =>
      let done := OnProbeRsp a tie s.requester
      { s with requester := done.1 }.send done.2
  | .deliver place =>
      match s.air[place]? with
      | some frame => { s with air := s.air.eraseIdx place }.receive a b frame
      | none => s
  | .lose place => { s with air := s.air.eraseIdx place }
  | .restore_requester => { s with requester := restore_p2p_state_handler s.requester }
  | .restore_responder => { s with responder := restore_p2p_state_handler s.responder }
  | .wps_info_requester info => { s with requester := { s.requester with ui_got_wps_info := info } }
  | .wps_info_responder info => { s with responder := { s.responder with ui_got_wps_info := info } }

end GoNego
end Rtl8821ce
