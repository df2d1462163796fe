import Rtl8821ce.Ieee80211.Attributes
import Rtl8821ce.Library.CheckedScan
import Rtl8821ce.Library.Memory

/-!
# Channel lists of P2P action frames

A Channel List attribute holds a country string of three bytes and then entries:
an operating class, the number of channels and the channels.  Four functions walk
through the entries of a frame; they trust the numbers.  The remaining length is a
`u32`.
-/

namespace Rtl8821ce
namespace P2p

/-- Why a function does not end well. -/
inductive Fault
  | outside
  | overflow
  | short
  | endless
deriving DecidableEq

/-- What the build and the kernel settle.  `snprintf_rejects` says that `snprintf`
does nothing for a size above `INT_MAX`. -/
structure Host where
  mcc_en : Bool
  union_ch : UInt8
  snprintf_rejects : Bool

/-- `struct rtw_wdev_nego_info`. -/
structure NegoInfo where
  state : UInt8
  iface_addr : List UInt8
  peer_mac : List UInt8
  peer_iface_addr : List UInt8
  active : UInt8
  token : UInt8
  status : UInt8
  req_intent : UInt8
  req_op_ch : UInt8
  req_listen_ch : UInt8
  rsp_intent : UInt8
  rsp_op_ch : UInt8
  conf_op_ch : UInt8

/-- `struct rtw_wdev_invit_info`. -/
structure InvitInfo where
  state : UInt8
  peer_mac : List UInt8
  group_bssid : List UInt8
  active : UInt8
  token : UInt8
  flags : UInt8
  status : UInt8
  req_op_ch : UInt8
  rsp_op_ch : UInt8

/-- The frame, the fields of `rtw_wdev_priv`, and what a walk fills in: `ch_list` up
to `ch_cnt`, the buffer of its text, and whether the channel of the buddy was found. -/
structure Wdev where
  mem : Nat -> UInt8
  nego_info : NegoInfo
  invit_info : InvitInfo
  provdisc_req_issued : Bool
  ch_list : List UInt8
  ch_list_buf : Nat -> UInt8
  fit : Bool

abbrev P2pProgram (Value : Type) : Type := Program Wdev Fault Value

def u32_sub (first second : Nat) : Nat := (first + 2 ^ 32 - second) % 2 ^ 32

/-- A `u32` that becomes an `int`. -/
def int_of_u32 (value : Nat) : Int := if value < 2 ^ 31 then value else (value : Int) - 2 ^ 32

/-! ## P2P elements -/

def MAX_IE_SZ : Nat := 768

def rtw_get_p2p_ie_body (mem : Nat -> UInt8) (in_ie : Nat) (in_len : Int) (cnt : Nat) :
    Scanner.Iteration Nat (Option (Nat × Nat)) :=
  if (cnt : Int) + 5 < in_len then
    if MAX_IE_SZ ≤ cnt + 5 then .done none
    else if is_vendor_ie mem (in_ie + cnt) [0x50, 0x6F, 0x9A, 0x09] then
      .done (some (in_ie + cnt, ie_size mem (in_ie + cnt)))
    else .more (cnt + ie_size mem (in_ie + cnt))
  else .done none

/-- The address and the length of the next P2P element. -/
def rtw_get_p2p_ie (mem : Nat -> UInt8) (in_ie : Nat) (in_len : Int) : Option (Nat × Nat) :=
  (Scanner.scan (rtw_get_p2p_ie_body mem in_ie in_len) (in_len.toNat + 1) 0).getD none

def _PUBLIC_ACTION_IE_OFFSET_ : Nat := 8

def P2P_ATTR_STATUS : UInt8 := 0x00
def P2P_ATTR_GO_INTENT : UInt8 := 0x04
def P2P_ATTR_LISTEN_CH : UInt8 := 0x06
def P2P_ATTR_GROUP_BSSID : UInt8 := 0x07
def P2P_ATTR_INTENDED_IF_ADDR : UInt8 := 0x09
def P2P_ATTR_CH_LIST : UInt8 := 0x0B
def P2P_ATTR_GROUP_ID : UInt8 := 0x0F
def P2P_ATTR_OPERATING_CH : UInt8 := 0x11
def P2P_ATTR_INVITATION_FLAGS : UInt8 := 0x12

/-- `rtw_get_p2p_attr_content`, with at most `fuel` rounds. -/
def get_attr_content (fuel : Nat) (ie : Nat × Nat) (attr_id : UInt8) : P2pProgram (Option (Nat × Nat)) := do
  let s ← Program.get
  match rtw_get_p2p_attr_content s.mem ie.1 ie.2 attr_id fuel with
  | none => Program.stop .endless
  | some content => pure content

/-- Where a content ends.  The size of an attribute is a `u16`; when it wraps, the
attribute is not in the element and has no byte there. -/
def content_stop (content : Nat × Nat) : Nat :=
  if content.2 < 65536 then content.1 + content.2 else content.1

def load (stop place : Nat) : P2pProgram UInt8 := do
  Program.require (decide (place < stop)) .outside
  let s ← Program.get
  pure (s.mem place)

def store (stop place : Nat) (value : UInt8) : P2pProgram PUnit := do
  Program.require (decide (place < stop)) .outside
  Program.update (fun s => { s with mem := Function.update s.mem place value })

/-- The inner loop: what is done to a channel may leave the loop. -/
def for_channels (visit : Nat -> P2pProgram Bool) : Nat -> Nat -> P2pProgram PUnit
  | 0, _ => pure ⟨⟩
  | left + 1, place => do
      let leave ← visit place
      if leave then pure ⟨⟩ else for_channels visit left (place + 1)

/-- The outer loop, from `pattr_temp` on. -/
def walk_entries (stop : Nat) (visit : Nat -> P2pProgram Bool) : Nat -> Nat -> Nat -> P2pProgram PUnit
  | 0, _, _ => Program.stop .endless
  | fuel + 1, pattr_temp, attr_contentlen => do
      if 0 < attr_contentlen then do
        let num_of_ch ← load stop (pattr_temp + 1)
        for_channels visit num_of_ch.toNat (pattr_temp + 2)
        walk_entries stop visit fuel (pattr_temp + (2 + num_of_ch.toNat))
          (u32_sub attr_contentlen (2 + num_of_ch.toNat))
      else pure ⟨⟩

/-- The Channel List attribute of an element, if there is one.  `visit` is given the
end of the content. -/
def walk_ch_list (fuel : Nat) (visit : Nat -> Nat -> P2pProgram Bool) (ie : Nat × Nat) : P2pProgram PUnit := do
  let content ← get_attr_content fuel ie P2P_ATTR_CH_LIST
  match content with
  | none => pure ⟨⟩
  | some (pattr, attr_contentlen) =>
      walk_entries (content_stop (pattr, attr_contentlen)) (visit (content_stop (pattr, attr_contentlen))) fuel
        (pattr + 3) (u32_sub attr_contentlen 3)

def each_p2p_ie (ies : Nat) (ies_len : Int) (action : Nat × Nat -> P2pProgram PUnit) :
    Nat -> Option (Nat × Nat) -> P2pProgram PUnit
  | 0, _ => Program.stop .endless
  | _ + 1, none => pure ⟨⟩
  | fuel + 1, some ie => do
      action ie
      let s ← Program.get
      each_p2p_ie ies ies_len action fuel
        (rtw_get_p2p_ie s.mem (ie.1 + ie.2) (ies_len - ((ie.1 : Int) - ies + ie.2)))

def frame_p2p_ies (fuel frame_body len : Nat) (action : Nat × Nat -> P2pProgram PUnit) : P2pProgram PUnit := do
  let ies := frame_body + _PUBLIC_ACTION_IE_OFFSET_
  let ies_len := int_of_u32 (u32_sub len _PUBLIC_ACTION_IE_OFFSET_)
  let s ← Program.get
  each_p2p_ie ies ies_len action fuel (rtw_get_p2p_ie s.mem ies ies_len)

def rtw_change_p2pie_ch_list (host : Host) (fuel frame_body len : Nat) (ch : UInt8) : P2pProgram PUnit := do
  if host.mcc_en then pure ⟨⟩
  else frame_p2p_ies fuel frame_body len (walk_ch_list fuel fun stop place => do
    store stop place ch
    pure false)

def rtw_chk_p2pie_ch_list_with_buddy (host : Host) (fuel frame_body len : Nat) : P2pProgram Bool := do
  Program.update (fun s => { s with fit := false })
  frame_p2p_ies fuel frame_body len (walk_ch_list fuel fun stop place => do
    let channel ← load stop place
    if channel = host.union_ch then do
      Program.update (fun s => { s with fit := true })
      pure true
    else pure false)
  let s ← Program.get
  pure s.fit

/-- `*(pattr + 4)` of an operating or a listen channel. -/
def load_channel (content : Nat × Nat) : P2pProgram UInt8 := do
  Program.require (decide (content.1 + 5 ≤ content_stop content)) .short
  let s ← Program.get
  pure (s.mem (content.1 + 4))

def adjust_channel (host : Host) (stop place : Nat) : P2pProgram Bool := do
  let channel ← load stop place
  if channel ≠ 0 ∧ channel ≠ host.union_ch then do
    store stop place host.union_ch
    pure false
  else pure false

def rtw_cfg80211_adjust_p2pie_channel (host : Host) (fuel frame_body len : Nat) : P2pProgram PUnit := do
  if host.mcc_en then pure ⟨⟩
  else frame_p2p_ies fuel frame_body len fun ie => do
    walk_ch_list fuel (adjust_channel host) ie
    let content ← get_attr_content fuel ie P2P_ATTR_OPERATING_CH
    match content with
    | none => pure ⟨⟩
    | some content => do
        let channel ← load_channel content
        if channel ≠ 0 ∧ channel ≠ host.union_ch then
          Program.update (fun s => { s with mem := Function.update s.mem (content.1 + 4) host.union_ch })
        else pure ⟨⟩

/-- `sizeof(ch_list)`. -/
def CH_LIST_SIZE : Nat := 40

/-- A channel that is not in `ch_list` yet is put at its end. -/
def note_channel (stop place : Nat) : P2pProgram Bool := do
  let channel ← load stop place
  let s ← Program.get
  if channel ∈ s.ch_list then pure false
  else do
    Program.require (decide (s.ch_list.length < CH_LIST_SIZE)) .overflow
    Program.update (fun s => { s with ch_list := s.ch_list ++ [channel] })
    pure false

def decimal (value : UInt8) : List UInt8 :=
  (Nat.toDigits 10 value.toNat).map fun digit => UInt8.ofNat digit.toNat

/-- What is printed for the entry `j` of `ch_list`, if anything. -/
def ch_text (ch_list : List UInt8) (j : Nat) : Option (List UInt8) :=
  let channel := ch_list.getD j 0
  let previous := ch_list.getD (j - 1) 0
  let next := ch_list.getD (j + 1) 0
  if j = 0 then some (decimal channel)
  else if (channel.toNat : Int) - previous.toNat ≠ 1 then some ([0x2c, 0x20] ++ decimal channel)
  else if j + 1 ≠ ch_list.length ∧ (next.toNat : Int) - channel.toNat = 1 then none
  else some (0x2d :: decimal channel)

/-- What `snprintf` writes: the text, cut off at the size, and a zero. -/
def snprintf_bytes (size : Nat) (text : List UInt8) : List UInt8 :=
  if size = 0 then [] else text.take (size - 1) ++ [0]

/-- The calls of `snprintf` one after the other; `w_sz` counts the whole texts. -/
def print_texts (host : Host) (buf_len : Nat) : List (List UInt8) -> Nat -> P2pProgram PUnit
  | [], _ => pure ⟨⟩
  | text :: rest, w_sz => do
      let size := u32_sub buf_len w_sz
      if host.snprintf_rejects = true ∧ 2 ^ 31 ≤ size then print_texts host buf_len rest w_sz
      else do
        let bytes := snprintf_bytes size text
        Program.require (decide (bytes = [] ∨ w_sz + bytes.length ≤ buf_len)) .overflow
        Program.update (fun s => { s with ch_list_buf := Memory.write s.ch_list_buf w_sz bytes })
        print_texts host buf_len rest (w_sz + text.length)

def dump_p2p_attr_ch_list (host : Host) (fuel : Nat) (ie : Nat × Nat) (buf_len : Nat) : P2pProgram PUnit := do
  Program.update (fun s => { s with ch_list := [] })
  walk_ch_list fuel note_channel ie
  let s ← Program.get
  print_texts host buf_len ((List.range s.ch_list.length).filterMap (ch_text s.ch_list)) 0

end P2p
end Rtl8821ce
