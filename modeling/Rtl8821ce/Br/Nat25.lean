import Rtl8821ce.Br.PacketBuffer

/-!
# NAT2.5

A station cannot bridge, so `nat25_db_handle` remembers which MAC address a network
address belongs to and rewrites the frames of the bridge.  It trusts the lengths
that the frames claim for themselves.  The frame begins with an Ethernet header.
-/

namespace Rtl8821ce
namespace BrExt

/-- What the build and the kernel settle.  `ipx` is set for kernels before 5.15,
`br_netdev` is the address that `netdev_br_init` finds, and `stack` is what a local
buffer holds before it is written. -/
structure Host where
  big_endian : Bool
  ipx : Bool
  jiffies : BitVec 64
  hz : BitVec 64
  rtw_malloc : Bool
  br_netdev : Option MacAddr
  stack : Nat -> UInt8
  csum_ipv6_magic : List UInt8 -> List UInt8 -> Nat -> List UInt8 -> Nat

/-- `enum NAT25_METHOD`. -/
inductive Method
  | NAT25_MIN
  | NAT25_CHECK
  | NAT25_INSERT
  | NAT25_LOOKUP
  | NAT25_PARSE
  | NAT25_MAX
deriving DecidableEq

def ETH_HLEN : Nat := 14

def ETH_ALEN : Nat := 6

def TAG_HDR_LEN : Nat := 4

def MAGIC_CODE_LEN : Nat := 2

def RTL_RELAY_TAG_LEN : Nat := ETH_ALEN

def MAGIC_CODE : Nat := 0x8186

def WAIT_TIME_PPPOE : Nat := 5

/-- `PTT_RELAY_SID` in host order. -/
def PTT_RELAY_SID : Nat := 0x0110

/-- `sizeof(tag_buf)`. -/
def TAG_BUF_LEN : Nat := 40

/-- `htons`, as the bytes in memory. -/
def htons (value : Nat) : List UInt8 := [UInt8.ofNat (value / 256), UInt8.ofNat value]

/-- A 16-bit field that is used without `ntohs`. -/
def Host.raw16 (host : Host) (data : Nat -> UInt8) (place : Nat) : Nat :=
  if host.big_endian then be16 data place
  else (data (place + 1)).toNat * 256 + (data place).toNat

/-! ## The database -/

def NAT25_IPV4 : UInt8 := 1
def NAT25_IPV6 : UInt8 := 2
def NAT25_IPX : UInt8 := 3
def NAT25_APPLE : UInt8 := 4
def NAT25_PPPOE : UInt8 := 5

def MAX_NETWORK_ADDR_LEN : Nat := 17

/-- `memset` and the copies of the functions below. -/
def network_addr (type : UInt8) (bytes : List UInt8) : List UInt8 :=
  (type :: bytes ++ List.replicate MAX_NETWORK_ADDR_LEN 0).take MAX_NETWORK_ADDR_LEN

def __nat25_generate_ipv4_network_addr (ipAddr : List UInt8) : List UInt8 :=
  network_addr NAT25_IPV4 (List.replicate 6 0 ++ ipAddr)

def __nat25_generate_ipx_network_addr_with_node (ipxNetAddr ipxNodeAddr : List UInt8) : List UInt8 :=
  network_addr NAT25_IPX (ipxNetAddr ++ ipxNodeAddr)

def __nat25_generate_ipx_network_addr_with_socket (ipxNetAddr ipxSocketAddr : List UInt8) : List UInt8 :=
  network_addr NAT25_IPX (ipxNetAddr ++ ipxSocketAddr)

def __nat25_generate_apple_network_addr (network : List UInt8) (node : UInt8) : List UInt8 :=
  network_addr NAT25_APPLE (network ++ [node])

def __nat25_generate_pppoe_network_addr (ac_mac : MacAddr) (sid : List UInt8) : List UInt8 :=
  network_addr NAT25_PPPOE (sid ++ ac_mac.bytes)

def __nat25_generate_ipv6_network_addr (ipAddr : List UInt8) : List UInt8 :=
  network_addr NAT25_IPV6 ipAddr

/-- The bytes of a network address that the hash uses. -/
def hashed_bytes (networkAddr : List UInt8) : List UInt8 :=
  match networkAddr.headD 0 with
  | 1 => (networkAddr.drop 7).take 4
  | 3 => (networkAddr.drop 1).take 10
  | 4 => (networkAddr.drop 1).take 3
  | 5 => networkAddr.take 9
  | 2 => (networkAddr.drop 1).take 16
  | _ => networkAddr

def __nat25_network_hash (networkAddr : List UInt8) : Nat :=
  ((hashed_bytes networkAddr).foldl (fun x byte => x ^^^ byte) 0).toNat % 16

/-- `time_before_eq` of the timer and the time of `NAT25_AGEING_TIME` seconds ago. -/
def __nat25_has_expired (host : Host) (fdb : NetworkDbEntry) : Bool :=
  decide (0 ≤ (host.jiffies - 300 * host.hz - fdb.ageing_timer).toInt)

/-- The first entry of a bucket with a network address is changed. -/
def change_entry (networkAddr : List UInt8) (change : NetworkDbEntry -> NetworkDbEntry) :
    List NetworkDbEntry -> List NetworkDbEntry
  | [] => []
  | db :: rest =>
      if db.networkAddr = networkAddr then change db :: rest else db :: change_entry networkAddr change rest

def Bridge.change_bucket (s : Bridge) (networkAddr : List UInt8)
    (change : List NetworkDbEntry -> List NetworkDbEntry) : Bridge :=
  { s with
    priv :=
      { s.priv with
        nethash := Function.update s.priv.nethash (__nat25_network_hash networkAddr)
          (change (s.priv.nethash (__nat25_network_hash networkAddr))) } }

def Bridge.find_entry (s : Bridge) (networkAddr : List UInt8) : Option NetworkDbEntry :=
  (s.priv.nethash (__nat25_network_hash networkAddr)).find? (fun db => db.networkAddr = networkAddr)

def Bridge.insert (host : Host) (s : Bridge) (macAddr : MacAddr) (networkAddr : List UInt8) : Bridge :=
  match s.find_entry networkAddr with
  | some _ => s.change_bucket networkAddr (change_entry networkAddr
      (fun db => { db with macAddr := macAddr, ageing_timer := host.jiffies }))
  | none =>
      if host.rtw_malloc then
        s.change_bucket networkAddr (fun bucket => ⟨networkAddr, macAddr, 1, host.jiffies⟩ :: bucket)
      else s

def __nat25_db_network_insert (host : Host) (networkAddr : List UInt8) : BrProgram PUnit := do
  let macAddr ← load_mac ETH_ALEN
  Program.update (fun s => s.insert host macAddr networkAddr)

/-- Whether there is an entry; the destination of the frame becomes its MAC address. -/
def __nat25_db_network_lookup_and_replace (host : Host) (networkAddr : List UInt8) : BrProgram Bool := do
  let s ← Program.get
  match s.find_entry networkAddr with
  | none => pure false
  | some db =>
      if __nat25_has_expired host db then pure true
      else do
        stores 0 db.macAddr.bytes
        Program.update (fun s => s.change_bucket networkAddr
          (change_entry networkAddr (fun db => { db with use_count := db.use_count + 1 })))
        pure true

/-- `netdev_br_init`, when the address of the bridge is not known yet. -/
def Bridge.netdev_br_init (host : Host) (s : Bridge) : Bridge :=
  if s.priv.br_mac = .zero then
    { s with priv := { s.priv with br_mac := host.br_netdev.getD s.priv.br_mac, addPPPoETag := true } }
  else s

def handle_ip (host : Host) (method : Method) : BrProgram Int := do
  let first ← load ETH_HLEN
  let s ← Program.get
  if ETH_HLEN + s.skb.len ≤ ETH_HLEN + first.toNat % 16 * 4 then pure (-1)
  else
    match method with
    | .NAT25_INSERT => do
        let saddr ← loads 26 4
        if saddr = [0, 0, 0, 0] then pure 0
        else do
          __nat25_db_network_insert host (__nat25_generate_ipv4_network_addr saddr)
          pure 0
    | .NAT25_LOOKUP => do
        let daddr ← loads 30 4
        let found ← __nat25_db_network_lookup_and_replace host (__nat25_generate_ipv4_network_addr daddr)
        if found then pure 0
        else do
          let last ← load 33
          if last = 0xff then do
            stores 0 (List.replicate ETH_ALEN 0xff)
            pure 0
          else do
            Program.update (fun s => s.netdev_br_init host)
            let s ← Program.get
            stores 0 s.priv.br_mac.bytes
            pure 0
    | _ => pure (-1)

/-- `arp_ptr` is 22, behind the fixed part of the header. -/
def handle_arp (host : Host) (method : Method) : BrProgram Int := do
  let ar_pro ← load_be16 16
  if ar_pro ≠ 0x0800 then pure (-1)
  else
    match method with
    | .NAT25_CHECK => pure 0
    | .NAT25_INSERT => do
        let s ← Program.get
        stores 22 s.priv.mac_addr.bytes
        let ar_hln ← load 18
        let sender ← loads (22 + ar_hln.toNat) 4
        __nat25_db_network_insert host (__nat25_generate_ipv4_network_addr sender)
        pure 0
    | .NAT25_LOOKUP => do
        let ar_hln ← load 18
        let ar_pln ← load 19
        let target ← loads (22 + ar_hln.toNat + (ar_hln.toNat + ar_pln.toNat)) 4
        let _ ← __nat25_db_network_lookup_and_replace host (__nat25_generate_ipv4_network_addr target)
        let ar_hln ← load 18
        let ar_pln ← load 19
        let dst ← loads 0 ETH_ALEN
        stores (22 + (ar_hln.toNat + ar_pln.toNat)) dst
        pure 0
    | _ => pure (-1)

/-! ## IPX and AppleTalk -/

/-- What kind of frame it is, and where its header begins. -/
inductive Ipx
  | ipx (place : Nat)
  | ea (place : Nat)
  | ddp (place : Nat)
  | unknown

def find_ipx (protocol : Nat) : BrProgram Ipx := do
  if protocol = 0x8137 then pure (.ipx ETH_HLEN)
  else do
    let start ← loads ETH_HLEN 2
    if start = [0xff, 0xff] then pure (.ipx ETH_HLEN)
    else do
      let first ← load ETH_HLEN
      if first = 0xaa then do
        let snap ← loads (ETH_HLEN + 3) 5
        if snap = [0x00, 0x00, 0x00, 0x81, 0x37] then pure (.ipx (ETH_HLEN + 3 + 5))
        else if snap = [0x00, 0x00, 0x00, 0x80, 0xf3] then pure (.ea (ETH_HLEN + 3 + 5))
        else if snap = [0x08, 0x00, 0x07, 0x80, 0x9b] then pure (.ddp (ETH_HLEN + 3 + 5))
        else pure .unknown
      else if first = 0xe0 then do
        let start ← loads (ETH_HLEN + 3) 2
        if start = [0xff, 0xff] then pure (.ipx (ETH_HLEN + 3)) else pure .unknown
      else pure .unknown

def handle_ipx (host : Host) (method : Method) (ipx : Nat) : BrProgram Int := do
  match method with
  | .NAT25_CHECK => do
      let src ← load_mac ETH_ALEN
      let node ← load_mac (ipx + 22)
      if src = node then pure 0 else pure (-1)
  | .NAT25_INSERT => do
      let src ← load_mac ETH_ALEN
      let node ← load_mac (ipx + 22)
      if src = node then do
        let net ← loads (ipx + 18) 4
        let sock ← loads (ipx + 28) 2
        let s ← Program.get
        stores (ipx + 22) s.priv.mac_addr.bytes
        __nat25_db_network_insert host (__nat25_generate_ipx_network_addr_with_socket net sock)
        pure 0
      else do
        let net ← loads (ipx + 18) 4
        __nat25_db_network_insert host (__nat25_generate_ipx_network_addr_with_node net node.bytes)
        pure 0
  | .NAT25_LOOKUP => do
      let s ← Program.get
      let node ← load_mac (ipx + 10)
      if s.priv.mac_addr = node then do
        let net ← loads (ipx + 6) 4
        let sock ← loads (ipx + 16) 2
        let _ ← __nat25_db_network_lookup_and_replace host (__nat25_generate_ipx_network_addr_with_socket net sock)
        let dst ← loads 0 ETH_ALEN
        stores (ipx + 10) dst
        pure 0
      else do
        let net ← loads (ipx + 6) 4
        let _ ← __nat25_db_network_lookup_and_replace host
          (__nat25_generate_ipx_network_addr_with_node net node.bytes)
        pure 0
  | _ => pure (-1)

def handle_aarp (host : Host) (method : Method) (ea : Nat) : BrProgram Int := do
  let hw_len ← load (ea + 4)
  if hw_len ≠ 6 then pure (-1)
  else do
    let pa_len ← load (ea + 5)
    if pa_len ≠ 4 then pure (-1)
    else
      match method with
      | .NAT25_CHECK => pure 0
      | .NAT25_INSERT => do
          let s ← Program.get
          stores (ea + 8) s.priv.mac_addr.bytes
          let pa_src_net ← loads (ea + 15) 2
          let pa_src_node ← load (ea + 17)
          __nat25_db_network_insert host (__nat25_generate_apple_network_addr pa_src_net pa_src_node)
          pure 0
      | .NAT25_LOOKUP => do
          let pa_dst_net ← loads (ea + 25) 2
          let pa_dst_node ← load (ea + 27)
          let _ ← __nat25_db_network_lookup_and_replace host
            (__nat25_generate_apple_network_addr pa_dst_net pa_dst_node)
          let dst ← loads 0 ETH_ALEN
          stores (ea + 18) dst
          pure 0
      | _ => pure (-1)

def handle_ddp (host : Host) (method : Method) (ddp : Nat) : BrProgram Int := do
  match method with
  | .NAT25_INSERT => do
      let deh_snet ← loads (ddp + 6) 2
      let deh_snode ← load (ddp + 9)
      __nat25_db_network_insert host (__nat25_generate_apple_network_addr deh_snet deh_snode)
      pure 0
  | .NAT25_LOOKUP => do
      let deh_dnet ← loads (ddp + 4) 2
      let deh_dnode ← load (ddp + 8)
      let _ ← __nat25_db_network_lookup_and_replace host (__nat25_generate_apple_network_addr deh_dnet deh_dnode)
      pure 0
  | _ => pure (-1)

def handle_ipx_apple (host : Host) (method : Method) (protocol : Nat) : BrProgram Int := do
  let kind ← find_ipx protocol
  match kind with
  | .ipx place => if host.ipx then handle_ipx host method place else pure (-1)
  | .ea place => handle_aarp host method place
  | .ddp place => handle_ddp host method place
  | .unknown => pure (-1)

/-! ## PPPoE

The header is at 14: the code at 15, `sid` at 16, `length` at 18 and the tags from
20 on. -/

def PADI_CODE : UInt8 := 0x09
def PADO_CODE : UInt8 := 0x07
def PADR_CODE : UInt8 := 0x19
def PADS_CODE : UInt8 := 0x65

/-- The loop of the search, `cur` bytes behind the first tag. -/
def __nat25_find_pppoe_tag (type : Nat) : Nat -> Nat -> BrProgram (Option Nat)
  | 0, _ => Program.stop .endless
  | fuel + 1, cur => do
      let length ← load_be16 18
      if cur < length then do
        let tagType ← load_be16 (20 + cur)
        let tagLen ← load_be16 (20 + cur + 2)
        if tagType = type then pure (some (20 + cur))
        else __nat25_find_pppoe_tag type fuel (cur + TAG_HDR_LEN + tagLen)
      else pure none

def memmove (target source length : Nat) : BrProgram PUnit := do
  let bytes ← loads source length
  stores target bytes

def Bridge.skb_put (s : Bridge) (length : Nat) : Bridge :=
  { s with skb := { s.skb with len := s.skb.len + length, tailroom := s.skb.tailroom - length } }

def Bridge.skb_trim (s : Bridge) (length : Nat) : Bridge :=
  { s with skb := { s.skb with len := s.skb.len - length, tailroom := s.skb.tailroom + length } }

/-- Take `len` bytes at `src` out of the frame. -/
def skb_pull_and_merge (src len : Nat) : BrProgram Int := do
  let s ← Program.get
  if s.skb.len < src + len ∨ s.skb.len < len then pure (-1)
  else if src + len < s.skb.len then do
    memmove src (src + len) (s.skb.len - (src + len))
    Program.update (fun s => s.skb_trim len)
    pure 0
  else do
    Program.update (fun s => s.skb_trim len)
    pure 0

/-- Insert the tag of a local buffer before the others.  The length of the tag is in
network order there. -/
def __nat25_add_pppoe_tag (host : Host) (tag : Nat -> UInt8) : BrProgram Int := do
  let s ← Program.get
  let data_len := host.raw16 tag 2 + TAG_HDR_LEN
  if s.skb.tailroom < data_len then pure (-1)
  else do
    Program.update (fun s => s.skb_put data_len)
    let length ← load_be16 18
    memmove (20 + data_len) 20 length
    let length ← load_be16 18
    stores 18 (htons (length + data_len))
    Program.require (decide (data_len ≤ TAG_BUF_LEN)) .outside
    stores 20 (Memory.read tag 0 data_len)
    pure data_len

/-- The tag of a client with the contents of the tag it replaces. -/
def relay_tag (host : Host) (client : MacAddr) (old : List UInt8) : Nat -> UInt8 :=
  Memory.write host.stack 0 (htons PTT_RELAY_SID ++ htons (MAGIC_CODE_LEN + RTL_RELAY_TAG_LEN + old.length) ++
    htons MAGIC_CODE ++ client.bytes ++ old)

/-- Insert the tag of the client, with the contents of the tag it replaces. -/
def add_relay_tag (host : Host) (old : List UInt8) : BrProgram Int := do
  let client ← load_mac ETH_ALEN
  let added ← __nat25_add_pppoe_tag host (relay_tag host client old)
  if added < 0 then pure (-1) else pure 0

/-- A Relay-Session-Id tag at `pOldTag` is taken out, and its contents go into the new one. -/
def replace_relay_tag (host : Host) (pOldTag : Nat) : BrProgram Int := do
  let old_tag_len ← load_be16 (pOldTag + 2)
  if TAG_BUF_LEN < old_tag_len + TAG_HDR_LEN + MAGIC_CODE_LEN + RTL_RELAY_TAG_LEN then pure (-1)
  else do
    let old ← loads (pOldTag + TAG_HDR_LEN) old_tag_len
    let merged ← skb_pull_and_merge pOldTag (TAG_HDR_LEN + old_tag_len)
    if merged < 0 then pure (-1)
    else do
      let length ← load_be16 18
      stores 18 (htons (length + 65536 - TAG_HDR_LEN - old_tag_len))
      add_relay_tag host old

def begin_pppoe : BrProgram Int := do
  let client ← load_mac ETH_ALEN
  let s ← Program.get
  if s.priv.pppoe_connection_in_progress ≠ 0 ∧ client ≠ s.priv.pppoe_addr then pure (-2)
  else do
    Program.update (fun s =>
      { s with
        priv :=
          { s.priv with
            pppoe_addr := if s.priv.pppoe_connection_in_progress = 0 then client else s.priv.pppoe_addr
            pppoe_connection_in_progress := WAIT_TIME_PPPOE } })
    pure 0

def insert_pppoe_session (host : Host) : BrProgram Int := do
  let dst ← load_mac 0
  let sid ← loads 16 2
  __nat25_db_network_insert host (__nat25_generate_pppoe_network_addr dst sid)
  let client ← load_mac ETH_ALEN
  Program.update (fun s =>
    if s.priv.addPPPoETag = false ∧ s.priv.pppoe_connection_in_progress ≠ 0 ∧ client = s.priv.pppoe_addr then
      { s with priv := { s.priv with pppoe_connection_in_progress := 0 } }
    else s)
  pure 0

/-- The answer to a client is sent on to the address in the relay tag, which is taken out. -/
def remove_relay_tag (ptr : Nat) : BrProgram Int := do
  let tagLen ← load_be16 (ptr + 2)
  if tagLen < MAGIC_CODE_LEN + RTL_RELAY_TAG_LEN then pure (-1)
  else do
    let magic ← load_be16 (ptr + TAG_HDR_LEN)
    if magic ≠ MAGIC_CODE then pure (-1)
    else do
      let client ← loads (ptr + TAG_HDR_LEN + MAGIC_CODE_LEN) ETH_ALEN
      stores 0 client
      let offset := if MAGIC_CODE_LEN + RTL_RELAY_TAG_LEN < tagLen then TAG_HDR_LEN else 0
      let merged ← skb_pull_and_merge (ptr + offset) (TAG_HDR_LEN + MAGIC_CODE_LEN + RTL_RELAY_TAG_LEN - offset)
      if merged < 0 then pure (-1)
      else do
        let length ← load_be16 18
        stores 18 (htons (length + 65536 - (TAG_HDR_LEN + MAGIC_CODE_LEN + RTL_RELAY_TAG_LEN - offset)))
        if 0 < offset then do
          stores (ptr + 2) (htons (tagLen - MAGIC_CODE_LEN - RTL_RELAY_TAG_LEN))
          pure 0
        else pure 0

def handle_pppoe (host : Host) (fuel : Nat) (method : Method) : BrProgram Int := do
  match method with
  | .NAT25_CHECK => do
      let sid ← load_be16 16
      if sid = 0 then pure 0 else pure 1
  | .NAT25_INSERT => do
      let sid ← load_be16 16
      if sid = 0 then do
        let code ← load 15
        if code = PADI_CODE ∨ code = PADR_CODE then do
          let s ← Program.get
          if s.priv.addPPPoETag then do
            let pOldTag ← __nat25_find_pppoe_tag PTT_RELAY_SID fuel 0
            match pOldTag with
            | some pOldTag => replace_relay_tag host pOldTag
            | none => add_relay_tag host []
          else begin_pppoe
        else pure (-1)
      else insert_pppoe_session host
  | .NAT25_LOOKUP => do
      let code ← load 15
      if code = PADO_CODE ∨ code = PADS_CODE then do
        let s ← Program.get
        if s.priv.addPPPoETag then do
          let ptr ← __nat25_find_pppoe_tag PTT_RELAY_SID fuel 0
          match ptr with
          | some ptr => remove_relay_tag ptr
          | none => pure (-1)
        else if s.priv.pppoe_connection_in_progress = 0 then pure (-1)
        else do
          stores 0 s.priv.pppoe_addr.bytes
          Program.update (fun s => { s with priv := { s.priv with pppoe_connection_in_progress := WAIT_TIME_PPPOE } })
          pure 0
      else do
        let sid ← load_be16 16
        if sid ≠ 0 then do
          let src ← load_mac ETH_ALEN
          let sid ← loads 16 2
          let _ ← __nat25_db_network_lookup_and_replace host (__nat25_generate_pppoe_network_addr src sid)
          pure 0
        else pure (-1)
  | _ => pure (-1)

/-! ## IPv6

The header is at 14: `payload_len` at 18, `nexthdr` at 20, the addresses at 22 and
38; the ICMPv6 message is at 54. -/

/-- An option `tag` of `len8b` times 8 bytes; the place behind its header. -/
def scan_tlv (tag len8b : UInt8) : Nat -> Nat -> Int -> BrProgram (Option Nat)
  | 0, _, _ => Program.stop .endless
  | fuel + 1, data, len => do
      if 0 < len then do
        let first ← load data
        let second ← load (data + 1)
        if first = tag ∧ second = len8b ∧ (len8b.toNat : Int) * 8 ≤ len then pure (some (data + 2))
        else scan_tlv tag len8b fuel (data + second.toNat * 8) (len - second.toNat * 8)
      else pure none

/-- For each type of message, where its options begin and which option has the address. -/
def nd_options (icmp6_type : UInt8) : Option (Nat × UInt8) :=
  match icmp6_type with
  | 133 => some (8, 1)
  | 134 => some (16, 1)
  | 135 => some (24, 1)
  | 136 => some (24, 2)
  | 137 => some (40, 2)
  | _ => none

/-- The five branches of the source differ in the values of `nd_options` only. -/
def update_nd_link_layer_addr (fuel data len : Nat) : BrProgram Bool := do
  let icmp6_type ← load data
  match nd_options icmp6_type with
  | none => pure false
  | some (header, tag) =>
      if header ≤ len then do
        let mac ← scan_tlv tag 1 fuel (data + header) (len - header : Nat)
        match mac with
        | some mac => do
            let s ← Program.get
            stores mac s.priv.mac_addr.bytes
            pure true
        | none => pure false
      else pure false

/-- The checksum is computed over `payload_len` bytes, in the order of the host. -/
def update_checksum (host : Host) : BrProgram PUnit := do
  stores 56 [0, 0]
  let saddr ← loads 22 16
  let daddr ← loads 38 16
  let s ← Program.get
  let payload_len := host.raw16 s.skb.data 18
  let message ← loads 54 payload_len
  stores 56 (htons (host.csum_ipv6_magic saddr daddr payload_len message))

def handle_ipv6 (host : Host) (fuel : Nat) (method : Method) : BrProgram Int := do
  let s ← Program.get
  if s.skb.len - ETH_HLEN ≤ 40 then pure (-1)
  else
    match method with
    | .NAT25_CHECK => do
        let first ← load 0
        if first &&& 1 ≠ 0 then pure 0 else pure (-1)
    | .NAT25_INSERT => do
        let saddr ← loads 22 16
        if saddr = List.replicate 16 0 then pure 0
        else do
          __nat25_db_network_insert host (__nat25_generate_ipv6_network_addr saddr)
          let nexthdr ← load 20
          let s ← Program.get
          if nexthdr = 58 ∧ ETH_HLEN + 40 + 4 < s.skb.len then do
            let updated ← update_nd_link_layer_addr fuel 54 (s.skb.len - 54)
            if updated then do
              update_checksum host
              pure 0
            else pure 0
          else pure 0
    | .NAT25_LOOKUP => do
        let daddr ← loads 38 16
        let _ ← __nat25_db_network_lookup_and_replace host (__nat25_generate_ipv6_network_addr daddr)
        pure 0
    | _ => pure (-1)

def handle_other (method : Method) : BrProgram Int :=
  match method with
  | .NAT25_INSERT => pure 0
  | .NAT25_LOOKUP => pure 0
  | _ => pure (-1)

/-- The loops are given `fuel` iterations each. -/
def nat25_db_handle (host : Host) (fuel : Nat) (method : Method) : BrProgram Int := do
  if method = .NAT25_MIN ∨ method = .NAT25_MAX then pure (-1)
  else do
    let protocol ← load_be16 12
    if protocol = 0x0800 then handle_ip host method
    else if protocol = 0x0806 then handle_arp host method
    else if protocol = 0x8137 ∨ protocol = 0x809b ∨ protocol = 0x80f3 then handle_ipx_apple host method protocol
    else if protocol = 0x8863 ∨ protocol = 0x8864 then handle_pppoe host fuel method
    else if protocol = 0x888e then handle_other method
    else if protocol = 0xe2ae ∨ protocol = 0xe2af then handle_other method
    else if protocol = 0x86dd then handle_ipv6 host fuel method
    else pure (-1)

/-- The frame is handled in finitely many steps and without an access outside. -/
def Handled (host : Host) (s : Bridge) (method : Method) : Prop :=
  ∃ fuel, (nat25_db_handle host fuel method).Succeeds s

end BrExt
end Rtl8821ce
