import Rtl8821ce.Br.Nat25Total
import Rtl8821ce.Ieee80211.Element

/-!
# The relay tag of PPPoE

A request of a client gets a Relay-Session-Id tag with the address of the client, which the
answer brings back and loses again.
-/

namespace Rtl8821ce
namespace BrExt

open Program (bind_of_ok bind_eq_ok get_bind_eq_ok)

variable {host : Host} {s t : Bridge} {client : MacAddr}

structure PppoeTag where
  tag_type : Nat
  tag_data : List UInt8
  type_small : tag_type < 65536
  data_small : tag_data.length < 65536

def PppoeTag.bytes (tag : PppoeTag) : List UInt8 :=
  htons tag.tag_type ++ (htons tag.tag_data.length ++ tag.tag_data)

theorem PppoeTag.length_bytes (tag : PppoeTag) : tag.bytes.length = 4 + tag.tag_data.length := by
  rw [bytes, List.length_append, List.length_append, ← Nat.add_assoc]
  rfl

def tags_bytes (tags : List PppoeTag) : List UInt8 := tags.flatMap PppoeTag.bytes

theorem tags_bytes_append (first second : List PppoeTag) :
    tags_bytes (first ++ second) = tags_bytes first ++ tags_bytes second := List.flatMap_append

theorem tags_bytes_cons (tag : PppoeTag) (rest : List PppoeTag) :
    tags_bytes (tag :: rest) = tag.bytes ++ tags_bytes rest := List.flatMap_cons

/-- A frame of the discovery phase with these tags; there may be padding behind them. -/
structure Discovery (skb : SkBuff) (tags : List PppoeTag) : Prop where
  protocol : be16 skb.data 12 = 0x8863
  length : be16 skb.data 18 = (tags_bytes tags).length
  holds : HoldsBytes skb.data 20 (tags_bytes tags)
  inside : 20 + (tags_bytes tags).length ≤ skb.len

theorem be16_of_holds {data : Nat -> UInt8} {place value : Nat} (small : value < 65536)
    (holds : HoldsBytes data place (htons value)) : be16 data place = value := by
  rcases HoldsBytes.cons_iff.mp holds with ⟨high, rest⟩
  have low := (HoldsBytes.cons_iff.mp rest).1
  unfold be16
  rw [high, low, UInt8.toNat_ofNat', UInt8.toNat_ofNat']
  omega

theorem tag_fields {data : Nat -> UInt8} {place : Nat} {tag : PppoeTag} (holds : HoldsBytes data place tag.bytes) :
    be16 data place = tag.tag_type ∧ be16 data (place + 2) = tag.tag_data.length ∧
      HoldsBytes data (place + 4) tag.tag_data := by
  rcases HoldsBytes.append_iff.mp holds with ⟨kind, rest⟩
  rcases HoldsBytes.append_iff.mp rest with ⟨size, value⟩
  exact ⟨be16_of_holds tag.type_small kind, be16_of_holds tag.data_small size, value⟩

/-- The search comes to the first tag of the type, if there is one. -/
theorem find_pppoe_tag_ok {type fuel cur : Nat} {before rest : List PppoeTag}
    (others : ∀ tag ∈ before, tag.tag_type ≠ type) (sought : ∀ tag ∈ rest.head?, tag.tag_type = type)
    (holds : HoldsBytes s.skb.data (20 + cur) (tags_bytes (before ++ rest)))
    (whole : be16 s.skb.data 18 = cur + (tags_bytes (before ++ rest)).length)
    (inside : 20 + be16 s.skb.data 18 ≤ s.skb.len) (enough : before.length < fuel) :
    __nat25_find_pppoe_tag type fuel cur s =
      (.ok (rest.head?.map fun _ => 20 + cur + (tags_bytes before).length), s) := by
  induction before generalizing cur fuel with
  | nil =>
      cases fuel with
      | zero => exact absurd enough (Nat.not_lt_zero _)
      | succ fuel =>
          rw [__nat25_find_pppoe_tag, bind_of_ok (load_be16_ok (by omega)), whole]
          cases rest with
          | nil => exact congrFun (if_neg (Nat.lt_irrefl cur)) s
          | cons tag behind =>
              rw [List.nil_append, tags_bytes_cons] at holds whole
              have kind := (tag_fields (HoldsBytes.append_iff.mp holds).1).1
              have size := tag.length_bytes
              rw [List.length_append] at whole
              rw [List.nil_append, tags_bytes_cons, List.length_append, if_pos (by omega),
                bind_of_ok (load_be16_ok (by omega)), bind_of_ok (load_be16_ok (by omega)), kind,
                if_pos (sought tag rfl)]
              rfl
  | cons tag before ih =>
      cases fuel with
      | zero => exact absurd enough (Nat.not_lt_zero _)
      | succ fuel =>
          rw [List.cons_append, tags_bytes_cons] at holds whole
          rcases HoldsBytes.append_iff.mp holds with ⟨here, behind⟩
          have fields := tag_fields here
          have size := tag.length_bytes
          rw [List.length_append] at whole
          rw [__nat25_find_pppoe_tag, bind_of_ok (load_be16_ok (by omega)), if_pos (by omega),
            bind_of_ok (load_be16_ok (by omega)), bind_of_ok (load_be16_ok (by omega)), fields.1,
            if_neg (others tag List.mem_cons_self), fields.2.1, TAG_HDR_LEN, Nat.add_assoc cur, ← size]
          rw [Nat.add_assoc] at behind
          rw [ih (fun other member => others other (List.mem_cons_of_mem tag member)) behind (by omega)
            (Nat.lt_of_succ_lt_succ enough), tags_bytes_cons, List.length_append, ← Nat.add_assoc 20 cur, Nat.add_assoc]

theorem Discovery.find {type fuel : Nat} {before rest : List PppoeTag} (frame : Discovery s.skb (before ++ rest))
    (others : ∀ tag ∈ before, tag.tag_type ≠ type)
    (sought : ∀ tag ∈ rest.head?, tag.tag_type = type) (enough : before.length < fuel) :
    __nat25_find_pppoe_tag type fuel 0 s = (.ok (rest.head?.map fun _ => 20 + (tags_bytes before).length), s) := by
  have inside : 20 + be16 s.skb.data 18 ≤ s.skb.len := by
    rw [frame.length]
    exact frame.inside
  have whole : be16 s.skb.data 18 = 0 + (tags_bytes (before ++ rest)).length := by rw [frame.length, Nat.zero_add]
  exact find_pppoe_tag_ok others sought frame.holds whole inside enough

/-- The value of a relay tag that leaves room in the local buffer. -/
abbrev RelayValue : Type := { value : List UInt8 // value.length ≤ 28 }

def client_tag (value : RelayValue) : PppoeTag where
  tag_type := PTT_RELAY_SID
  tag_data := value.val
  type_small := by decide
  data_small := Nat.lt_of_le_of_lt value.property (by decide)

/-- The relay tag with the magic code, the address of the client and its own value. -/
def bridge_tag (client : MacAddr) (value : RelayValue) : PppoeTag where
  tag_type := PTT_RELAY_SID
  tag_data := htons MAGIC_CODE ++ (client.bytes ++ value.val)
  type_small := by decide
  data_small := by
    have few := value.property
    rw [List.length_append, List.length_append, client.length_eq, show (htons MAGIC_CODE).length = 2 from rfl]
    omega

def original_tags (original : Option RelayValue) : List PppoeTag := (original.map client_tag).toList

def carried (original : Option RelayValue) : RelayValue := original.getD ⟨[], Nat.zero_le _⟩

/-- A PADI or PADR of a client; `original` is its first relay tag. -/
structure Request (s : Bridge) (before : List PppoeTag) (original : Option RelayValue) (behind : List PppoeTag) :
    Prop where
  frame : Discovery s.skb (before ++ (original_tags original ++ behind))
  code : s.skb.data 15 = PADI_CODE ∨ s.skb.data 15 = PADR_CODE
  sid : be16 s.skb.data 16 = 0
  tagged : s.priv.addPPPoETag = true
  first : ∀ tag ∈ before, tag.tag_type ≠ PTT_RELAY_SID
  only : original = none -> ∀ tag ∈ behind, tag.tag_type ≠ PTT_RELAY_SID

/-- The insertion uses no byte outside, and what it lets through has the tag. -/
def InsertRight (host : Host) (s : Bridge) (before : List PppoeTag) (original : Option RelayValue)
    (behind : List PppoeTag) : Prop :=
  Handled host s .NAT25_INSERT ∧ ∀ fuel t, nat25_db_handle host fuel .NAT25_INSERT s = (.ok 0, t) ->
    ∃ after, Discovery t.skb after ∧
      after.Perm (bridge_tag (mac_at s.skb.data ETH_ALEN) (carried original) :: (before ++ behind))

/-- There is no room for the tag when its length is taken in the wrong order of its bytes. -/
def NoRoom (s : Bridge) (original : Option RelayValue) : Prop :=
  s.skb.tailroom + (tags_bytes (original_tags original)).length < 256 * (8 + (carried original).val.length) + 4

theorem added_len_little (little : host.big_endian = false) (old : Nat) :
    added_len host old = (8 + old) * 256 + 4 := by
  rw [added_len, little, if_neg Bool.false_ne_true]

theorem add_relay_tag_fails (little : host.big_endian = false) {old : List UInt8} (few : old.length ≤ 28) {r : Int}
    (ran : add_relay_tag host old s = (.ok r, t)) : r = -1 := by
  rcases bind_eq_ok.mp ran with ⟨client, next, _, rest⟩
  rcases bind_eq_ok.mp rest with ⟨added, last, inserted, ends⟩
  rw [__nat25_add_pppoe_tag, get_bind_eq_ok, raw16_relay_tag host client few, added_len_little little] at inserted
  by_cases tight : next.skb.tailroom < (8 + old.length) * 256 + 4
  · rw [if_pos tight] at inserted
    have failed : added = -1 := (Except.ok.inj (congrArg Prod.fst inserted)).symm
    rw [failed] at ends
    exact (Except.ok.inj (congrArg Prod.fst ends)).symm
  · -- the tag would be copied from behind the local buffer
    rw [if_neg tight] at inserted
    rcases bind_eq_ok.mp inserted with ⟨_, _, _, inserted⟩
    rcases bind_eq_ok.mp inserted with ⟨_, _, _, inserted⟩
    rcases bind_eq_ok.mp inserted with ⟨_, _, _, inserted⟩
    rcases bind_eq_ok.mp inserted with ⟨_, _, _, inserted⟩
    rcases bind_eq_ok.mp inserted with ⟨_, _, _, inserted⟩
    have fits : (8 + old.length) * 256 + 4 ≤ TAG_BUF_LEN :=
      of_decide_eq_true (Program.require_bind_eq_ok.mp inserted).1
    unfold TAG_BUF_LEN at fits
    omega

theorem replace_relay_tag_fails (little : host.big_endian = false) {pOldTag : Nat} {r : Int}
    (ran : replace_relay_tag host pOldTag s = (.ok r, t)) : r = -1 := by
  rcases bind_eq_ok.mp ran with ⟨old_tag_len, _, _, ran⟩
  split at ran
  case isTrue => exact (Except.ok.inj (congrArg Prod.fst ran)).symm
  case isFalse short =>
    rcases bind_eq_ok.mp ran with ⟨old, next, loaded, ran⟩
    rcases bind_eq_ok.mp ran with ⟨merged, _, _, ran⟩
    split at ran
    case isTrue => exact (Except.ok.inj (congrArg Prod.fst ran)).symm
    case isFalse =>
      rcases bind_eq_ok.mp ran with ⟨_, _, _, ran⟩
      rcases bind_eq_ok.mp ran with ⟨_, _, _, ran⟩
      refine add_relay_tag_fails little ?_ ran
      rcases bind_eq_ok.mp loaded with ⟨_, _, _, bytes⟩
      have same := Except.ok.inj (congrArg Prod.fst (get_bind_eq_ok.mp bytes))
      unfold TAG_BUF_LEN TAG_HDR_LEN MAGIC_CODE_LEN RTL_RELAY_TAG_LEN ETH_ALEN at short
      rw [← same, Memory.length_read]
      omega

theorem nat25_db_handle_pppoe {method : Method} (named : ¬ (method = .NAT25_MIN ∨ method = .NAT25_MAX))
    (eth : 14 ≤ s.skb.len) (discovery : be16 s.skb.data 12 = 0x8863) (fuel : Nat) :
    nat25_db_handle host fuel method s = handle_pppoe host fuel method s := by
  rw [nat25_db_handle, if_neg named, bind_of_ok (load_be16_ok eth), discovery]
  rfl

/-- The first relay tag of a request is the one of the client. -/
theorem Request.find {before behind : List PppoeTag} {original : Option RelayValue}
    (request : Request s before original behind) :
    TagsInside s.skb PTT_RELAY_SID ∧
      first_tag s.skb PTT_RELAY_SID = original.map fun _ => 20 + (tags_bytes before).length := by
  have frame := request.frame
  have room := frame.inside
  have found : ∃ fuel, __nat25_find_pppoe_tag PTT_RELAY_SID fuel 0 s =
      (.ok (original.map fun _ => 20 + (tags_bytes before).length), s) := by
    cases original with
    | none =>
        have whole : before ++ (original_tags none ++ behind) = before ++ behind ++ [] := (List.append_nil _).symm
        rw [whole] at frame
        refine ⟨_, frame.find (fun tag member => ?_) nofun (Nat.lt_succ_self _)⟩
        exact (List.mem_append.mp member).elim (request.first tag) (request.only rfl tag)
    | some value =>
        have whole : before ++ (original_tags (some value) ++ behind) = before ++ (client_tag value :: behind) := rfl
        rw [whole] at frame
        exact ⟨_, frame.find request.first (fun tag same => Option.some.inj same ▸ rfl) (Nat.lt_succ_self _)⟩
  rcases found with ⟨fuel, ran⟩
  have checked := (@succeeds_find_pppoe_tag s _ PTT_RELAY_SID fun other =>
    Program.require (decide (other = original.map fun _ => 20 + (tags_bytes before).length)) .outside).mp
    ⟨fuel, (Program.succeeds_bind_of_ok ran).mpr ⟨⟨⟩, by rw [decide_eq_true rfl]; rfl⟩⟩
  rcases Program.succeeds_iff.mp checked.2.2 with ⟨_, _, same⟩
  exact ⟨checked.2.1, of_decide_eq_true (Program.require_eq_ok.mp same).1⟩

theorem Request.handle {before behind : List PppoeTag} {original : Option RelayValue}
    (request : Request s before original behind) (fuel : Nat) :
    nat25_db_handle host fuel .NAT25_INSERT s =
      (__nat25_find_pppoe_tag PTT_RELAY_SID fuel 0 >>= fun pOldTag =>
        match pOldTag with
        | some pOldTag => replace_relay_tag host pOldTag
        | none => add_relay_tag host []) s := by
  have room := request.frame.inside
  rw [nat25_db_handle_pppoe (by nofun) (by omega) request.frame.protocol]
  change (load_be16 16 >>= _ : BrProgram Int) s = _
  rw [bind_of_ok (load_be16_ok (by omega)), if_pos request.sid, bind_of_ok (load_ok (by omega)), if_pos request.code,
    bind_of_ok (Program.get_apply s)]
  exact congrFun (if_pos request.tagged) s

theorem Request.fails {before behind : List PppoeTag} {original : Option RelayValue} (little : host.big_endian = false)
    (request : Request s before original behind) {fuel : Nat} {r : Int}
    (ran : nat25_db_handle host fuel .NAT25_INSERT s = (.ok r, t)) : r = -1 := by
  rw [request.handle] at ran
  rcases bind_eq_ok.mp ran with ⟨pOldTag, next, _, rest⟩
  cases pOldTag with
  | some pOldTag => exact replace_relay_tag_fails little rest
  | none => exact add_relay_tag_fails little (Nat.zero_le _) rest

theorem addInside_little (little : host.big_endian = false) (old tailroom len length : Nat) :
    AddInside host old tailroom len length <-> tailroom < 256 * (8 + old) + 4 := by
  rw [AddInside, added_len_little little]
  omega

theorem Request.handled_iff {before behind : List PppoeTag} {original : Option RelayValue}
    (little : host.big_endian = false) (request : Request s before original behind) :
    Handled host s .NAT25_INSERT <-> NoRoom s original := by
  have room := request.frame.inside
  have found := request.find
  have runs : Handled host s .NAT25_INSERT <-> ∃ fuel, (handle_pppoe host fuel .NAT25_INSERT).Succeeds s := by
    refine exists_congr fun fuel => ?_
    unfold Program.Succeeds
    rw [nat25_db_handle_pppoe (by nofun) (by omega) request.frame.protocol]
  have inside : PppoeInside host s .NAT25_INSERT <->
      match first_tag s.skb PTT_RELAY_SID with
      | some pOldTag => ReplaceInside host s.skb pOldTag
      | none => AddInside host 0 s.skb.tailroom s.skb.len (be16 s.skb.data 18) :=
    ⟨fun all => ((all.2.1 rfl).2 request.sid request.code request.tagged).2.2,
      fun last => ⟨nofun, fun _ => ⟨by omega, fun _ _ _ => ⟨by omega, found.1, last⟩⟩, nofun⟩⟩
  rw [runs, pppoe_insert_iff, inside, found.2, NoRoom]
  cases original with
  | none => exact addInside_little little _ _ _ _
  | some value =>
      have holds := request.frame.holds
      rw [tags_bytes_append, HoldsBytes.append_iff, tags_bytes_append] at holds
      have fields := tag_fields (HoldsBytes.append_iff.mp (HoldsBytes.append_iff.mp holds.2).1).1
      have size : (tags_bytes (original_tags (some value))).length = 4 + value.val.length := by
        rw [original_tags, Option.map_some, Option.toList_some, tags_bytes_cons, List.length_append,
          PppoeTag.length_bytes]
        rfl
      have few := value.property
      rw [tags_bytes_append, tags_bytes_append, List.length_append, List.length_append, size] at room
      have length : be16 s.skb.data (20 + (tags_bytes before).length + 2) = value.val.length := fields.2.1
      dsimp only [Option.map_some]
      rw [ReplaceInside, length, size, imp_iff_right few, addInside_little little]
      exact and_iff_right (by omega)

theorem insert_right_iff {before behind : List PppoeTag} {original : Option RelayValue}
    (little : host.big_endian = false) (request : Request s before original behind) :
    InsertRight host s before original behind <-> NoRoom s original := by
  rw [← request.handled_iff little]
  refine and_iff_left fun fuel t ran => ?_
  exact absurd (request.fails little ran) (by decide)

/-- The frame goes to the client, and `cut` bytes at `src` are gone. -/
def Bridge.cut_out (s : Bridge) (client : MacAddr) (src cut : Nat) : Bridge :=
  let sent := s.write 0 client.bytes
  let merged :=
    (sent.write src (Memory.read sent.skb.data (src + cut) (sent.skb.len - (src + cut)))).skb_trim cut
  merged.write 18 (htons (be16 merged.skb.data 18 + 65536 - cut))

section cut

variable {src cut : Nat}

theorem write_beside {start place : Nat} {bytes : List UInt8}
    (outside : place < start ∨ start + bytes.length ≤ place) :
    (s.write start bytes).skb.data place = s.skb.data place := Memory.write_of_outside s.skb.data outside

theorem cut_out_cell (behind : 20 ≤ src) {place : Nat} (own : 6 ≤ place)
    (kept : place < 18 ∨ 20 ≤ place ∧ place < src) : (s.cut_out client src cut).skb.data place = s.skb.data place := by
  have six := client.length_eq
  have two : ∀ value, (htons value).length = 2 := fun _ => rfl
  refine (Memory.write_of_outside _ (by rw [two]; omega)).trans ?_
  exact (Memory.write_of_outside (s.write 0 client.bytes).skb.data (by omega)).trans (write_beside (by omega))

theorem cut_out_client (behind : 20 ≤ src) : mac_at (s.cut_out client src cut).skb.data 0 = client := by
  rcases client with ⟨bytes, six⟩
  have holds : HoldsBytes (s.cut_out ⟨bytes, six⟩ src cut).skb.data 0 bytes :=
    ((HoldsBytes.written bytes).write_of_disjoint (by omega)).write_of_disjoint (by omega)
  unfold HoldsBytes at holds
  rw [six] at holds
  exact (MacAddr.mk.injEq _ _ _ _).mpr holds

theorem cut_out_length (behind : 20 ≤ src) :
    be16 (s.cut_out client src cut).skb.data 18 = (be16 s.skb.data 18 + 65536 - cut) % 65536 := by
  have six := client.length_eq
  refine (be16_htons _ 18 _).trans (congrArg (fun length => (length + 65536 - cut) % 65536) ?_)
  have same : ∀ place, 18 ≤ place -> place < 20 ->
      Memory.write (s.write 0 client.bytes).skb.data src (Memory.read (s.write 0 client.bytes).skb.data (src + cut)
        ((s.write 0 client.bytes).skb.len - (src + cut))) place = s.skb.data place := fun place above below =>
    (Memory.write_of_outside (s.write 0 client.bytes).skb.data (by omega)).trans (write_beside (by omega))
  exact congrArg₂ (fun high low : UInt8 => high.toNat * 256 + low.toNat) (same 18 (by omega) (by omega))
    (same 19 (by omega) (by omega))

theorem cut_out_moved (behind : 20 ≤ src) {bytes : List UInt8} (holds : HoldsBytes s.skb.data (src + cut) bytes)
    (inside : src + cut + bytes.length ≤ s.skb.len) : HoldsBytes (s.cut_out client src cut).skb.data src bytes := by
  have six := client.length_eq
  have sent : HoldsBytes (Memory.write s.skb.data 0 client.bytes) (src + cut) bytes :=
    holds.write_of_disjoint (by omega)
  have all : HoldsBytes (Memory.write s.skb.data 0 client.bytes) (src + cut)
      (Memory.read (Memory.write s.skb.data 0 client.bytes) (src + cut) (s.skb.len - (src + cut))) := by
    rw [HoldsBytes, Memory.length_read]
  have front := all.prefix_of sent (by rw [Memory.length_read]; omega)
  exact ((HoldsBytes.written _).of_front front).write_of_disjoint (Or.inr (by exact behind))

theorem cut_out_ok {rest : BrProgram Int} (behind : 20 ≤ src) (room : src + cut ≤ s.skb.len) :
    (skb_pull_and_merge src cut >>= fun merged =>
      if merged < 0 then pure (-1)
      else load_be16 18 >>= fun length => stores 18 (htons (length + 65536 - cut)) >>= fun _ => rest)
        (s.write 0 client.bytes) = rest (s.cut_out client src cut) := by
  have two : ∀ value, (htons value).length = 2 := fun _ => rfl
  rw [bind_of_ok (@skb_pull_and_merge_ok (s.write 0 client.bytes) src cut room), if_neg (Int.lt_irrefl 0)]
  have left : 20 ≤ s.skb.len - cut := by omega
  rw [bind_of_ok (load_be16_ok left), bind_of_ok (stores_ok (by rw [two]; exact left))]
  rfl

end cut

/-- An answer to a client with the tag that its request got. -/
structure Answer (s : Bridge) (before : List PppoeTag) (client : MacAddr) (value : RelayValue)
    (behind : List PppoeTag) : Prop where
  frame : Discovery s.skb (before ++ bridge_tag client value :: behind)
  code : s.skb.data 15 = PADO_CODE ∨ s.skb.data 15 = PADS_CODE
  tagged : s.priv.addPPPoETag = true
  first : ∀ tag ∈ before, tag.tag_type ≠ PTT_RELAY_SID

def kept_tags (value : RelayValue) : List PppoeTag := if value.val = [] then [] else [client_tag value]

def Bridge.relayed (s : Bridge) (ptr : Nat) (client : MacAddr) (value : RelayValue) : Bridge :=
  if value.val = [] then s.cut_out client ptr 12
  else (s.cut_out client (ptr + 4) 8).write (ptr + 2) (htons value.val.length)

theorem remove_relay_tag_ok {ptr : Nat} {value : RelayValue} (behind : 20 ≤ ptr)
    (holds : HoldsBytes s.skb.data ptr (bridge_tag client value).bytes)
    (inside : ptr + (bridge_tag client value).bytes.length ≤ s.skb.len) :
    remove_relay_tag ptr s = (.ok 0, s.relayed ptr client value) := by
  rcases tag_fields holds with ⟨_, size, data⟩
  rcases HoldsBytes.append_iff.mp data with ⟨magic, rest⟩
  have address := (HoldsBytes.append_iff.mp rest).1
  have six := client.length_eq
  have two : ∀ value, (htons value).length = 2 := fun _ => rfl
  have data_length : (bridge_tag client value).tag_data.length = 8 + value.val.length := by
    rw [bridge_tag, List.length_append, List.length_append, six, two]
    omega
  have read : Memory.read s.skb.data (ptr + 4 + 2) 6 = client.bytes := by
    rw [HoldsBytes, six] at address
    exact address
  rw [PppoeTag.length_bytes, data_length] at inside
  rw [data_length] at size
  have loaded : loads (ptr + TAG_HDR_LEN + MAGIC_CODE_LEN) ETH_ALEN s = (.ok client.bytes, s) := by
    rw [← read]
    exact loads_ok (show ptr + 4 + 2 + 6 ≤ s.skb.len by omega)
  have magic_code : be16 s.skb.data (ptr + TAG_HDR_LEN) = MAGIC_CODE := be16_of_holds (by decide) magic
  rw [remove_relay_tag, bind_of_ok (load_be16_ok (by omega)), size, if_neg (by exact Nat.not_lt.mpr (Nat.le_add_right 8 _)),
    bind_of_ok (load_be16_ok (show ptr + TAG_HDR_LEN + 2 ≤ s.skb.len by rw [TAG_HDR_LEN]; omega)), magic_code,
    if_neg (not_not.mpr rfl), bind_of_ok loaded, bind_of_ok (stores_ok (by omega)), Bridge.relayed]
  by_cases empty : value.val = []
  · have short : (if MAGIC_CODE_LEN + RTL_RELAY_TAG_LEN < 8 + value.val.length then TAG_HDR_LEN else 0) = 0 :=
      if_neg (by rw [empty]; decide)
    rw [short, if_pos empty]
    exact cut_out_ok behind (show ptr + 12 ≤ s.skb.len by omega)
  · have long : (if MAGIC_CODE_LEN + RTL_RELAY_TAG_LEN < 8 + value.val.length then TAG_HDR_LEN else 0) = 4 :=
      if_pos (Nat.lt_add_of_pos_right (List.length_pos_of_ne_nil empty))
    have rest_length : 8 + value.val.length - MAGIC_CODE_LEN - RTL_RELAY_TAG_LEN = value.val.length := by
      rw [MAGIC_CODE_LEN, RTL_RELAY_TAG_LEN, ETH_ALEN]
      omega
    rw [long, if_neg empty, rest_length]
    refine (cut_out_ok (show 20 ≤ ptr + 4 by omega) (show ptr + 4 + 8 ≤ s.skb.len by omega)).trans ?_
    change (stores (ptr + 2) (htons value.val.length) >>= fun _ => pure 0 : BrProgram Int) _ = _
    rw [bind_of_ok (stores_ok _)]
    · rfl
    · change ptr + 2 + 2 ≤ s.skb.len - 8
      omega

theorem Answer.handle {before behind : List PppoeTag} {value : RelayValue}
    (answer : Answer s before client value behind) {fuel : Nat} (enough : before.length < fuel) :
    nat25_db_handle host fuel .NAT25_LOOKUP s =
      (.ok 0, s.relayed (20 + (tags_bytes before).length) client value) := by
  have room := answer.frame.inside
  have holds := answer.frame.holds
  rw [tags_bytes_append, HoldsBytes.append_iff, tags_bytes_cons] at holds
  rw [tags_bytes_append, tags_bytes_cons, List.length_append, List.length_append] at room
  rw [nat25_db_handle_pppoe (by nofun) (by omega) answer.frame.protocol]
  change (load 15 >>= _ : BrProgram Int) s = _
  rw [bind_of_ok (load_ok (by omega)), if_pos answer.code, bind_of_ok (Program.get_apply s), if_pos answer.tagged,
    bind_of_ok (answer.frame.find answer.first (fun tag same => Option.some.inj same ▸ rfl) enough)]
  exact remove_relay_tag_ok (Nat.le_add_right 20 _) (HoldsBytes.append_iff.mp holds.2).1
    (show 20 + (tags_bytes before).length + (bridge_tag client value).bytes.length ≤ s.skb.len by omega)

theorem Discovery.cut {before rest after : List PppoeTag} (frame : Discovery s.skb (before ++ rest))
    (same : ∀ place, 6 ≤ place -> place < 18 ∨ 20 ≤ place ∧ place < 20 + (tags_bytes before).length ->
      t.skb.data place = s.skb.data place)
    (length : be16 t.skb.data 18 = (tags_bytes (before ++ after)).length)
    (holds : HoldsBytes t.skb.data (20 + (tags_bytes before).length) (tags_bytes after))
    (inside : 20 + (tags_bytes (before ++ after)).length ≤ t.skb.len) : Discovery t.skb (before ++ after) where
  protocol := by
    rw [← frame.protocol, be16, be16, same 12 (by decide) (Or.inl (by decide)),
      same (12 + 1) (by decide) (Or.inl (by decide))]
  length := length
  holds := by
    have front := frame.holds
    rw [tags_bytes_append, HoldsBytes.append_iff] at front ⊢
    exact ⟨front.1.congr fun place above below => same place (by omega) (Or.inr ⟨above, below⟩), holds⟩
  inside := inside

theorem Answer.relayed {before behind : List PppoeTag} {value : RelayValue}
    (answer : Answer s before client value behind) :
    let t := s.relayed (20 + (tags_bytes before).length) client value
    mac_at t.skb.data 0 = client ∧ Discovery t.skb (before ++ (kept_tags value ++ behind)) := by
  have room := answer.frame.inside
  have length := answer.frame.length
  have holds := answer.frame.holds
  have bound : be16 s.skb.data 18 < 65536 := be16_lt _ _
  have six := client.length_eq
  have size : (bridge_tag client value).tag_data.length = 8 + value.val.length := by
    rw [bridge_tag, List.length_append, List.length_append, six]
    exact (Nat.add_assoc 2 6 _).symm
  rw [tags_bytes_append, HoldsBytes.append_iff, tags_bytes_cons, HoldsBytes.append_iff, PppoeTag.length_bytes,
    size] at holds
  rw [tags_bytes_append, tags_bytes_cons, List.length_append, List.length_append, PppoeTag.length_bytes,
    size] at length room
  have behind_ptr : 20 ≤ 20 + (tags_bytes before).length := Nat.le_add_right _ _
  generalize ptr_eq : 20 + (tags_bytes before).length = ptr at holds behind_ptr
  rw [Bridge.relayed, kept_tags]
  by_cases empty : value.val = []
  · rw [if_pos empty, if_pos empty]
    rw [empty, List.length_nil] at length room holds
    refine ⟨cut_out_client behind_ptr, answer.frame.cut (fun place own kept => ?_) ?_ ?_ ?_⟩
    · exact cut_out_cell behind_ptr own (ptr_eq ▸ kept)
    · rw [cut_out_length behind_ptr, List.nil_append, tags_bytes_append, List.length_append]
      omega
    · rw [ptr_eq]
      exact cut_out_moved behind_ptr holds.2.2 (show ptr + 12 + (tags_bytes behind).length ≤ s.skb.len by omega)
    · rw [List.nil_append, tags_bytes_append, List.length_append]
      change _ ≤ s.skb.len - 12
      omega
  · rw [if_neg empty, if_neg empty]
    have kept_bytes : tags_bytes ([client_tag value] ++ behind) =
        htons PTT_RELAY_SID ++ (htons value.val.length ++ (value.val ++ tags_bytes behind)) := by
      rw [List.singleton_append, tags_bytes_cons, PppoeTag.bytes, List.append_assoc, List.append_assoc]
      rfl
    have two : ∀ value, (htons value).length = 2 := fun _ => rfl
    have src : 20 ≤ ptr + 4 := by omega
    refine ⟨?_, answer.frame.cut (fun place own kept => ?_) ?_ ?_ ?_⟩
    · refine Eq.trans ((MacAddr.mk.injEq _ _ _ _).mpr ?_) (@cut_out_client s client (ptr + 4) 8 src)
      exact Memory.read_write_of_disjoint _ (by omega)
    · exact (write_beside (by omega)).trans (cut_out_cell src own (by omega))
    · have same : be16 ((s.cut_out client (ptr + 4) 8).write (ptr + 2) (htons value.val.length)).skb.data 18 =
          be16 (s.cut_out client (ptr + 4) 8).skb.data 18 := by
        rw [be16, be16, write_beside (by omega), write_beside (by omega)]
      rw [same, cut_out_length src, tags_bytes_append, kept_bytes]
      simp only [List.length_append, two]
      omega
    · rw [ptr_eq, kept_bytes, HoldsBytes.append_iff, HoldsBytes.append_iff]
      have fields := HoldsBytes.append_iff.mp holds.2.1
      refine ⟨?_, HoldsBytes.written _, ?_⟩
      · refine fields.1.congr fun place above below => ?_
        rw [two] at below
        exact (write_beside (by omega)).trans (cut_out_cell src (by omega) (by omega))
      · have value_holds := (HoldsBytes.append_iff.mp (HoldsBytes.append_iff.mp (HoldsBytes.append_iff.mp fields.2).2).2).2
        rw [six] at value_holds
        refine HoldsBytes.write_of_disjoint (cut_out_moved src ?_ ?_) (Or.inr (Nat.le_refl _))
        · refine HoldsBytes.append_iff.mpr ⟨value_holds, ?_⟩
          have place : ptr + 4 + 8 + value.val.length = ptr + (4 + (8 + value.val.length)) := by omega
          rw [place]
          exact holds.2.2
        · rw [List.length_append]
          omega
    · rw [tags_bytes_append, kept_bytes]
      simp only [List.length_append, two]
      change _ ≤ s.skb.len - 8
      omega

/-- The answer goes to the client, with the tag that the client has sent, if any. -/
def LookupRight (host : Host) (s : Bridge) (before : List PppoeTag) (client : MacAddr) (original : Option RelayValue)
    (behind : List PppoeTag) : Prop :=
  ∃ enough, ∀ fuel, enough ≤ fuel ->
    ∃ t, nat25_db_handle host fuel .NAT25_LOOKUP s = (.ok 0, t) ∧ mac_at t.skb.data 0 = client ∧
      Discovery t.skb (before ++ (original_tags original ++ behind))

theorem lookup_right_iff {before behind : List PppoeTag} {original : Option RelayValue}
    (answer : Answer s before client (carried original) behind) :
    LookupRight host s before client original behind <->
      ∀ value, original = some value -> value.val ≠ [] := by
  have relayed := answer.relayed
  constructor
  · rintro ⟨enough, right⟩ value rfl empty
    have ⟨t, ran, _, frame⟩ := right (max enough (before.length + 1)) (Nat.le_max_left _ _)
    rw [answer.handle (Nat.lt_of_lt_of_le (Nat.lt_succ_self _) (Nat.le_max_right _ _))] at ran
    have length := relayed.2.length
    rw [(Prod.mk.inj ran).2, frame.length, kept_tags, if_pos (by exact empty), tags_bytes_append, tags_bytes_append,
      tags_bytes_append, tags_bytes_append, original_tags, Option.map_some, Option.toList_some, tags_bytes_cons,
      List.length_append, List.length_append, List.length_append, List.length_append, List.length_append,
      PppoeTag.length_bytes] at length
    change _ + (4 + _ + 0 + _) = _ + (0 + _) at length
    omega
  · intro nonempty
    refine ⟨before.length + 1, fun fuel enough => ⟨_, answer.handle (Nat.lt_of_succ_le enough), relayed.1, ?_⟩⟩
    have same : original_tags original = kept_tags (carried original) := by
      cases original with
      | none => rfl
      | some value => exact (if_neg (nonempty value rfl)).symm
    rw [same]
    exact relayed.2

/-- On a little-endian host a request is handled rightly exactly when there is no room for the tag, and
an answer exactly when the client has not sent an empty relay tag. -/
theorem pppoe_relay_iff (host : Host) (little : host.big_endian = false) :
    (∀ s before original behind, Request s before original behind ->
      (InsertRight host s before original behind <-> NoRoom s original)) ∧
    ∀ s before client original behind, Answer s before client (carried original) behind ->
      (LookupRight host s before client original behind <-> ∀ value, original = some value -> value.val ≠ []) :=
  ⟨fun _ _ _ _ request => insert_right_iff little request, fun _ _ _ _ _ answer => lookup_right_iff answer⟩

def tagged_priv : Priv := { idle_priv with addPPPoETag := true }

def padi (tailroom : Nat) : SkBuff where
  data place := [0x88, 0x63, 0x11, PADI_CODE].getD (place - 12) 0
  len := 60
  tailroom := tailroom

theorem padi_request (tailroom : Nat) : Request ⟨tagged_priv, padi tailroom⟩ [] none [] where
  frame := ⟨(by decide : be16 (padi 0).data 12 = 0x8863), (by decide : be16 (padi 0).data 18 = 0), rfl,
    (by decide : 20 ≤ 60)⟩
  code := Or.inl rfl
  sid := (by decide : be16 (padi 0).data 16 = 0)
  tagged := rfl
  first := nofun
  only _ := nofun

theorem pppoe_relay_iff_padi : InsertRight little_endian_host ⟨tagged_priv, padi 100⟩ [] none [] :=
  ((pppoe_relay_iff little_endian_host rfl).1 _ _ _ _ (padi_request 100)).mpr (by decide : 100 + 0 < 256 * 8 + 4)

/-- With room for more than the tag, bytes behind the local buffer are copied. -/
theorem padi_not_inserted :
    Request ⟨tagged_priv, padi 4096⟩ [] none [] ∧ (bridge_tag .zero (carried none)).bytes.length ≤ 4096 ∧
      ¬ InsertRight little_endian_host ⟨tagged_priv, padi 4096⟩ [] none [] := by
  refine ⟨padi_request 4096, by decide, fun right => ?_⟩
  exact absurd ((insert_right_iff rfl (padi_request 4096)).mp right) (by decide : ¬ 4096 + 0 < 256 * 8 + 4)

end BrExt
end Rtl8821ce
