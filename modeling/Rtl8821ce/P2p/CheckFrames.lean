import Rtl8821ce.P2p.ChannelList

/-!
# P2P action frames that the host sends or receives

`rtw_p2p_check_frames` follows the negotiations and invitations.  It takes a channel
from an Operating or Listen Channel attribute without a look at the length, prints
the channel list, and for a second interface changes the lists of the frame.
-/

namespace Rtl8821ce
namespace P2p

/-- What the function asks about the adapter. -/
structure Adapter where
  host : Host
  mi_linked : Bool
  full_ch_in_p2p_handshake : Bool

/-- `sizeof(struct rtw_ieee80211_hdr_3addr)`. -/
def HDR_3ADDR : Nat := 24

def NEGO_INIT : NegoInfo where
  state := 0xff
  iface_addr := List.replicate 6 0
  peer_mac := List.replicate 6 0
  peer_iface_addr := List.replicate 6 0
  active := 0xff
  token := 0
  status := 0xff
  req_intent := 0xff
  req_op_ch := 0
  req_listen_ch := 0
  rsp_intent := 0xff
  rsp_op_ch := 0
  conf_op_ch := 0

def INVIT_INIT : InvitInfo where
  state := 0xff
  peer_mac := List.replicate 6 0
  group_bssid := List.replicate 6 0
  active := 0xff
  token := 0
  flags := 0x00
  status := 0xff
  req_op_ch := 0
  rsp_op_ch := 0

/-- `cont` and `cont_len`; there is no content without an element. -/
def find_content (fuel : Nat) (p2p_ie : Option (Nat × Nat)) (attr_id : UInt8) : P2pProgram (Option (Nat × Nat)) :=
  match p2p_ie with
  | none => pure none
  | some ie => get_attr_content fuel ie attr_id

/-- `*cont`, or nothing. -/
def first_byte (fuel : Nat) (p2p_ie : Option (Nat × Nat)) (attr_id : UInt8) : P2pProgram (Option UInt8) := do
  let cont ← find_content fuel p2p_ie attr_id
  let s ← Program.get
  pure (cont.map fun cont => s.mem cont.1)

def content_addr (fuel : Nat) (p2p_ie : Option (Nat × Nat)) (attr_id : UInt8) : P2pProgram (Option (List UInt8)) := do
  let cont ← find_content fuel p2p_ie attr_id
  let s ← Program.get
  pure (cont.bind fun cont => if cont.2 = 6 then some (Memory.read s.mem cont.1 6) else none)

/-- `op_ch` or `listen_ch`, where `none` is -1. -/
def content_channel (fuel : Nat) (p2p_ie : Option (Nat × Nat)) (attr_id : UInt8) : P2pProgram (Option UInt8) := do
  let cont ← find_content fuel p2p_ie attr_id
  match cont with
  | none => pure none
  | some cont => do
      let channel ← load_channel cont
      pure (some channel)

/-- The channels of a frame that is sent are changed to that of the other interface. -/
def adjust_sent (adapter : Adapter) (fuel len : Nat) (tx : Bool) : P2pProgram PUnit :=
  if tx ∧ adapter.mi_linked ∧ ¬ adapter.full_ch_in_p2p_handshake then
    rtw_cfg80211_adjust_p2pie_channel adapter.host fuel HDR_3ADDR (u32_sub len HDR_3ADDR)
  else pure ⟨⟩

/-- The lists of a frame received are cleared when they have not the channel of the
other interface. -/
def change_received (adapter : Adapter) (fuel len : Nat) (tx : Bool) : P2pProgram PUnit :=
  if tx = false ∧ adapter.mi_linked then do
    let fit ← rtw_chk_p2pie_ch_list_with_buddy adapter.host fuel HDR_3ADDR (u32_sub len HDR_3ADDR)
    if fit = false ∧ ¬ adapter.full_ch_in_p2p_handshake then
      rtw_change_p2pie_ch_list adapter.host fuel HDR_3ADDR (u32_sub len HDR_3ADDR) 0
    else pure ⟨⟩
  else pure ⟨⟩

def dump_ch_list (adapter : Adapter) (fuel : Nat) (p2p_ie : Option (Nat × Nat)) : P2pProgram PUnit :=
  match p2p_ie with
  | none => pure ⟨⟩
  | some ie => dump_p2p_attr_ch_list adapter.host fuel ie 128

/-- The receiver of a frame sent, the transmitter of one received. -/
def peer_addr (mem : Nat -> UInt8) (tx : Bool) : List UInt8 := Memory.read mem (if tx then 4 else 10) 6

def go_nego_req (adapter : Adapter) (fuel len : Nat) (tx : Bool) (dialogToken : UInt8) (p2p_ie : Option (Nat × Nat)) :
    P2pProgram PUnit := do
  adjust_sent adapter fuel len tx
  let op_ch ← content_channel fuel p2p_ie P2P_ATTR_OPERATING_CH
  let listen_ch ← content_channel fuel p2p_ie P2P_ATTR_LISTEN_CH
  let intent ← first_byte fuel p2p_ie P2P_ATTR_GO_INTENT
  let iaddr ← content_addr fuel p2p_ie P2P_ATTR_INTENDED_IF_ADDR
  Program.update (fun s =>
    let nego_info := if s.nego_info.token ≠ dialogToken then NEGO_INIT else s.nego_info
    { s with
      nego_info :=
        { nego_info with
          peer_mac := peer_addr s.mem tx
          iface_addr := if tx then iaddr.getD nego_info.iface_addr else nego_info.iface_addr
          peer_iface_addr := if tx then nego_info.peer_iface_addr else iaddr.getD nego_info.peer_iface_addr
          active := if tx then 1 else 0
          token := dialogToken
          req_op_ch := op_ch.getD 0xff
          req_listen_ch := listen_ch.getD 0xff
          req_intent := intent.getD 0
          state := 0 } })
  dump_ch_list adapter fuel p2p_ie
  change_received adapter fuel len tx

def go_nego_resp (adapter : Adapter) (fuel len : Nat) (tx : Bool) (dialogToken : UInt8) (p2p_ie : Option (Nat × Nat)) :
    P2pProgram PUnit := do
  adjust_sent adapter fuel len tx
  let op_ch ← content_channel fuel p2p_ie P2P_ATTR_OPERATING_CH
  let intent ← first_byte fuel p2p_ie P2P_ATTR_GO_INTENT
  let status ← first_byte fuel p2p_ie P2P_ATTR_STATUS
  let iaddr ← content_addr fuel p2p_ie P2P_ATTR_INTENDED_IF_ADDR
  Program.update (fun s =>
    if s.nego_info.token = dialogToken ∧ s.nego_info.state = 0 ∧ s.nego_info.peer_mac = peer_addr s.mem tx then
      { s with
        nego_info :=
          { s.nego_info with
            iface_addr := if tx then iaddr.getD s.nego_info.iface_addr else s.nego_info.iface_addr
            peer_iface_addr := if tx then s.nego_info.peer_iface_addr else iaddr.getD s.nego_info.peer_iface_addr
            status := status.getD 0xff
            rsp_op_ch := op_ch.getD 0xff
            rsp_intent := intent.getD 0
            state := 1
            token := if status = some 0 then s.nego_info.token else 0 } }
    else s)
  dump_ch_list adapter fuel p2p_ie
  Program.update (fun s => if tx then s else { s with provdisc_req_issued := false })
  change_received adapter fuel len tx

def go_nego_conf (adapter : Adapter) (fuel len : Nat) (tx : Bool) (dialogToken : UInt8) (p2p_ie : Option (Nat × Nat)) :
    P2pProgram PUnit := do
  adjust_sent adapter fuel len tx
  let op_ch ← content_channel fuel p2p_ie P2P_ATTR_OPERATING_CH
  let status ← first_byte fuel p2p_ie P2P_ATTR_STATUS
  Program.update (fun s =>
    if s.nego_info.token = dialogToken ∧ s.nego_info.state = 1 ∧ s.nego_info.peer_mac = peer_addr s.mem tx then
      { s with
        nego_info :=
          { s.nego_info with
            status := status.getD 0xff
            conf_op_ch := op_ch.getD 0
            state := 2
            token := 0 } }
    else s)
  dump_ch_list adapter fuel p2p_ie

def invit_req (adapter : Adapter) (fuel len : Nat) (tx : Bool) (dialogToken : UInt8) (p2p_ie : Option (Nat × Nat)) :
    P2pProgram PUnit := do
  adjust_sent adapter fuel len tx
  let flags ← first_byte fuel p2p_ie P2P_ATTR_INVITATION_FLAGS
  let op_ch ← content_channel fuel p2p_ie P2P_ATTR_OPERATING_CH
  let gbssid ← content_addr fuel p2p_ie P2P_ATTR_GROUP_BSSID
  Program.update (fun s =>
    let invit_info := if s.invit_info.token ≠ dialogToken then INVIT_INIT else s.invit_info
    { s with
      invit_info :=
        { invit_info with
          peer_mac := peer_addr s.mem tx
          group_bssid := gbssid.getD invit_info.group_bssid
          active := if tx then 1 else 0
          token := dialogToken
          flags := flags.getD 0x0
          req_op_ch := op_ch.getD 0xff
          state := 0 } })
  dump_ch_list adapter fuel p2p_ie
  if adapter.full_ch_in_p2p_handshake then pure ⟨⟩ else change_received adapter fuel len tx

def invit_resp (adapter : Adapter) (fuel len : Nat) (tx : Bool) (dialogToken : UInt8) (p2p_ie : Option (Nat × Nat)) :
    P2pProgram PUnit := do
  adjust_sent adapter fuel len tx
  let status ← first_byte fuel p2p_ie P2P_ATTR_STATUS
  let op_ch ← content_channel fuel p2p_ie P2P_ATTR_OPERATING_CH
  -- the address is only printed
  let _ ← content_addr fuel p2p_ie P2P_ATTR_GROUP_BSSID
  Program.update (fun s =>
    if s.invit_info.token = dialogToken ∧ s.invit_info.state = 0 ∧ s.invit_info.peer_mac = peer_addr s.mem tx then
      { s with
        invit_info := { s.invit_info with status := status.getD 0xff, rsp_op_ch := op_ch.getD 0xff, state := 1, token := 0 } }
    else s)
  dump_ch_list adapter fuel p2p_ie

def provision_disc_req (fuel : Nat) (p2p_ie : Option (Nat × Nat)) : P2pProgram PUnit := do
  Program.update (fun s => { s with provdisc_req_issued := false })
  match p2p_ie with
  | none => pure ⟨⟩
  | some ie => do
      let group_id ← get_attr_content fuel ie P2P_ATTR_GROUP_ID
      Program.update (fun s => { s with provdisc_req_issued := group_id.isNone })

/-- The frame begins at 0.  The answer is the subtype of the frame, or -1. -/
def rtw_p2p_check_frames (adapter : Adapter) (fuel len : Nat) (tx : Bool) : P2pProgram (Option UInt8) := do
  let s ← Program.get
  let frame_body := HDR_3ADDR
  let category := s.mem frame_body
  if category = 4 then
    if s.mem (frame_body + 1) = 9 ∧ bytes_at s.mem (frame_body + 2) [0x50, 0x6F, 0x9A, 0x09] = true then do
      let OUI_Subtype := s.mem (frame_body + 6)
      let dialogToken := s.mem (frame_body + 7)
      let p2p_ie := rtw_get_p2p_ie s.mem (HDR_3ADDR + _PUBLIC_ACTION_IE_OFFSET_)
        (int_of_u32 (u32_sub len (HDR_3ADDR + _PUBLIC_ACTION_IE_OFFSET_)))
      match OUI_Subtype with
      | 0 => go_nego_req adapter fuel len tx dialogToken p2p_ie
      | 1 => go_nego_resp adapter fuel len tx dialogToken p2p_ie
      | 2 => go_nego_conf adapter fuel len tx dialogToken p2p_ie
      | 3 => invit_req adapter fuel len tx dialogToken p2p_ie
      | 4 => invit_resp adapter fuel len tx dialogToken p2p_ie
      | 6 => do
          -- the status is only printed
          let _ ← first_byte fuel p2p_ie P2P_ATTR_STATUS
          pure ⟨⟩
      | 7 => provision_disc_req fuel p2p_ie
      | _ => pure ⟨⟩
      pure (some OUI_Subtype)
    else pure none
  else if category = 0x7f then pure (some (s.mem (frame_body + 5)))
  else pure none

end P2p
end Rtl8821ce
