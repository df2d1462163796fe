import Rtl8821ce.Br.Nat25Loops

/-!
# When NAT2.5 handles a frame

Of every frame with an Ethernet header: it is handled in finitely many steps and
without an access outside exactly when the lengths it claims are right where the
code does not check them.
-/

namespace Rtl8821ce
namespace BrExt

variable {host : Host} {s : Bridge} {Value : Type}

def IpxAppleInside (host : Host) (s : Bridge) (method : Method) (protocol : Nat) : Prop :=
  IpxFound s.skb protocol ∧
    match ipx_kind s.skb protocol with
    | .ipx place => host.ipx = true -> IpxInside s method place
    | .ea place => AarpInside s.skb method place
    | .ddp place => DdpInside s.skb method place
    | .unknown => True

theorem handle_ipx_apple_iff (eth : 14 ≤ s.skb.len) (method : Method) (protocol : Nat) :
    (handle_ipx_apple host method protocol).Succeeds s <-> IpxAppleInside host s method protocol := by
  unfold handle_ipx_apple IpxAppleInside
  rw [succeeds_find_ipx]
  refine and_congr_right (fun _ => ?_)
  cases ipx_kind s.skb protocol with
  | ipx place =>
      dsimp only
      cases built : host.ipx with
      | true =>
          rw [if_pos rfl, handle_ipx_iff eth, imp_iff_right rfl]
      | false =>
          rw [if_neg Bool.false_ne_true]
          exact iff_of_true (Program.succeeds_pure _ _) (by rintro ⟨⟩)
  | ea place => exact handle_aarp_iff eth method place
  | ddp place => exact handle_ddp_iff eth method place
  | unknown => exact iff_of_true (Program.succeeds_pure _ _) trivial

/-! ## PPPoE -/

/-- The length of the relay tag as `__nat25_add_pppoe_tag` has it: the length field in
the order of the host. -/
def added_len (host : Host) (old : Nat) : Nat :=
  (if host.big_endian then 8 + old else (8 + old) * 256) + 4

/-- A tag is inserted: there is no tail room for it, or it fits into the local buffer
and the tags that it moves are in the frame. -/
def AddInside (host : Host) (old tailroom len length : Nat) : Prop :=
  added_len host old ≤ tailroom -> added_len host old ≤ 40 ∧ 20 + length ≤ len

theorem raw16_relay_tag (host : Host) (client : MacAddr) {old : List UInt8} (few : old.length ≤ 28) :
    host.raw16 (relay_tag host client old) 2 + TAG_HDR_LEN = added_len host old.length := by
  have second : relay_tag host client old 2 = UInt8.ofNat ((8 + old.length) / 256) := rfl
  have third : relay_tag host client old 3 = UInt8.ofNat (8 + old.length) := rfl
  unfold Host.raw16 added_len be16 TAG_HDR_LEN
  rw [second, third, UInt8.toNat_ofNat', UInt8.toNat_ofNat', Nat.div_eq_of_lt (by omega), Nat.zero_mod,
    Nat.mod_eq_of_lt (by omega)]
  split <;> omega

theorem succeeds_memmove {target source length : Nat} {rest : PUnit -> BrProgram Value} :
    (memmove target source length >>= rest).Succeeds s <->
      source + length ≤ s.skb.len ∧ target + length ≤ s.skb.len ∧
        (rest ⟨⟩).Succeeds (s.write target (Memory.read s.skb.data source length)) := by
  unfold memmove
  rw [Program.bind_assoc, succeeds_loads, succeeds_stores, Memory.length_read]

theorem succeeds_add_relay_tag (eth : 20 ≤ s.skb.len) {old : List UInt8} (few : old.length ≤ 28) :
    (add_relay_tag host old).Succeeds s <->
      AddInside host old.length s.skb.tailroom s.skb.len (be16 s.skb.data 18) := by
  have early : ETH_ALEN + 6 ≤ s.skb.len := Nat.le_trans (by decide) eth
  unfold add_relay_tag AddInside __nat25_add_pppoe_tag
  rw [succeeds_load_mac, and_iff_right early, Program.bind_assoc, Program.succeeds_get_bind,
    raw16_relay_tag host _ few]
  by_cases tight : s.skb.tailroom < added_len host old.length
  · rw [if_pos tight, Program.succeeds_pure_bind]
    exact iff_of_true (Program.succeeds_pure _ _) (fun room => absurd tight (Nat.not_lt.mpr room))
  · rw [if_neg tight, imp_iff_right (Nat.not_lt.mp tight), Program.bind_assoc, Program.succeeds_update_bind,
      Program.bind_assoc, succeeds_load_be16, Program.bind_assoc, succeeds_memmove, Program.bind_assoc,
      succeeds_load_be16, Program.bind_assoc, succeeds_stores, Program.bind_assoc, Program.succeeds_require_bind,
      Program.bind_assoc, succeeds_stores, Memory.length_read, Program.succeeds_pure_bind, decide_eq_true_eq]
    have whole : (s.skb_put (added_len host old.length)).skb.len = s.skb.len + added_len host old.length := rfl
    have kept : (s.skb_put (added_len host old.length)).skb.data = s.skb.data := rfl
    have end_ : (if (added_len host old.length : Int) < 0 then (pure (-1) : BrProgram Int) else pure 0) = pure 0 :=
      if_neg (Int.not_lt.mpr (Int.natCast_nonneg _))
    have two : ∀ value, (htons value).length = 2 := fun _ => rfl
    rw [end_]
    simp only [write_len, whole, kept, two, Program.succeeds_pure, and_true, TAG_BUF_LEN]
    omega

theorem skb_pull_and_merge_ok {src len : Nat} (room : src + len ≤ s.skb.len) :
    skb_pull_and_merge src len s =
      (.ok 0, (s.write src (Memory.read s.skb.data (src + len) (s.skb.len - (src + len)))).skb_trim len) := by
  rw [skb_pull_and_merge, Program.bind_of_ok (Program.get_apply s), if_neg (by omega)]
  by_cases behind : src + len < s.skb.len
  · rw [if_pos behind, memmove, Program.bind_assoc, Program.bind_of_ok (loads_ok (by omega)),
      Program.bind_of_ok (stores_ok (by rw [Memory.length_read]; omega))]
    rfl
  · rw [if_neg behind, Nat.sub_eq_zero_of_le (Nat.not_lt.mp behind), Memory.read_zero, Bridge.write, Memory.write_nil]
    rfl

theorem succeeds_pull {src len : Nat} {rest : Int -> BrProgram Value} {condition : Prop}
    (room : src + len ≤ s.skb.len)
    (tail : ∀ next, next.skb.len = s.skb.len - len -> next.skb.tailroom = s.skb.tailroom + len ->
      (∀ place, place < src -> next.skb.data place = s.skb.data place) ->
        ((rest 0).Succeeds next <-> condition)) :
    (skb_pull_and_merge src len >>= rest).Succeeds s <-> condition := by
  rw [Program.succeeds_bind_of_ok (skb_pull_and_merge_ok room)]
  exact tail _ rfl rfl fun place before => write_before before

theorem be16_congr {first second : Nat -> UInt8} {place : Nat}
    (same : ∀ at_, at_ < place + 2 -> first at_ = second at_) : be16 first place = be16 second place := by
  unfold be16
  rw [same place (by omega), same (place + 1) (by omega)]

theorem be16_htons (s : Bridge) (place value : Nat) :
    be16 (s.write place (htons value)).skb.data place = value % 65536 := by
  have first : (s.write place (htons value)).skb.data place = UInt8.ofNat (value / 256) :=
    @Memory.write_of_inside _ s.skb.data place 0 (htons value) (Nat.zero_lt_succ _)
  have second : (s.write place (htons value)).skb.data (place + 1) = UInt8.ofNat value :=
    @Memory.write_of_inside _ s.skb.data place 1 (htons value) (Nat.lt_succ_self 1)
  unfold be16
  rw [first, second, UInt8.toNat_ofNat', UInt8.toNat_ofNat']
  omega

/-- A tag found is replaced: it is in the frame with its contents, and the new one can
be inserted then. -/
def ReplaceInside (host : Host) (skb : SkBuff) (pOldTag : Nat) : Prop :=
  let old := be16 skb.data (pOldTag + 2)
  old ≤ 28 -> pOldTag + 4 + old ≤ skb.len ∧
    AddInside host old (skb.tailroom + (4 + old)) (skb.len - (4 + old))
      ((be16 skb.data 18 + 65536 - 4 - old) % 65536)

theorem succeeds_replace_relay_tag {pOldTag : Nat} (behind : 20 ≤ pOldTag) (header : pOldTag + 4 ≤ s.skb.len) :
    (replace_relay_tag host pOldTag).Succeeds s <-> ReplaceInside host s.skb pOldTag := by
  unfold replace_relay_tag ReplaceInside
  rw [succeeds_load_be16, and_iff_right (show pOldTag + 2 + 2 ≤ s.skb.len from header)]
  dsimp only
  by_cases long : TAG_BUF_LEN < be16 s.skb.data (pOldTag + 2) + TAG_HDR_LEN + MAGIC_CODE_LEN + RTL_RELAY_TAG_LEN
  · rw [if_pos long]
    have long : ¬ be16 s.skb.data (pOldTag + 2) ≤ 28 := by
      unfold TAG_BUF_LEN TAG_HDR_LEN MAGIC_CODE_LEN RTL_RELAY_TAG_LEN ETH_ALEN at long
      omega
    exact iff_of_true (Program.succeeds_pure _ _) (fun few => absurd few long)
  · rw [if_neg long]
    have few : be16 s.skb.data (pOldTag + 2) ≤ 28 := by
      unfold TAG_BUF_LEN TAG_HDR_LEN MAGIC_CODE_LEN RTL_RELAY_TAG_LEN ETH_ALEN at long
      omega
    rw [imp_iff_right few, succeeds_loads]
    refine and_congr_right (fun room => ?_)
    have room : pOldTag + (4 + be16 s.skb.data (pOldTag + 2)) ≤ s.skb.len := by
      unfold TAG_HDR_LEN at room
      omega
    refine succeeds_pull room (fun next len tailroom data => ?_)
    rw [if_neg (Int.lt_irrefl 0), succeeds_load_be16, succeeds_stores, succeeds_add_relay_tag]
    · rw [Memory.length_read, be16_htons, be16_congr (fun at_ before => data at_ (by omega))]
      simp only [write_len]
      have two : ∀ value, (htons value).length = 2 := fun _ => rfl
      have kept : (next.write 18 (htons (be16 s.skb.data 18 + 65536 - TAG_HDR_LEN -
          be16 s.skb.data (pOldTag + 2)))).skb.tailroom = next.skb.tailroom := rfl
      rw [two, kept, len, tailroom]
      exact ⟨fun all => all.2.2, fun fits => ⟨by omega, by omega, fits⟩⟩
    · rw [write_len, len]
      omega
    · rw [Memory.length_read]
      exact few

def RemoveInside (skb : SkBuff) (ptr : Nat) : Prop :=
  8 ≤ be16 skb.data (ptr + 2) -> ptr + 6 ≤ skb.len ∧ (be16 skb.data (ptr + 4) = MAGIC_CODE -> ptr + 12 ≤ skb.len)

theorem succeeds_remove_relay_tag {ptr : Nat} (behind : 20 ≤ ptr) (header : ptr + 4 ≤ s.skb.len) :
    (remove_relay_tag ptr).Succeeds s <-> RemoveInside s.skb ptr := by
  unfold remove_relay_tag RemoveInside
  rw [succeeds_load_be16, and_iff_right (show ptr + 2 + 2 ≤ s.skb.len from header)]
  by_cases short : be16 s.skb.data (ptr + 2) < MAGIC_CODE_LEN + RTL_RELAY_TAG_LEN
  · rw [if_pos short]
    exact iff_of_true (Program.succeeds_pure _ _) (fun long => absurd short (Nat.not_lt.mpr long))
  · have long : 8 ≤ be16 s.skb.data (ptr + 2) := Nat.not_lt.mp short
    rw [if_neg short, imp_iff_right long, succeeds_load_be16]
    refine and_congr_right (fun _ => ?_)
    by_cases other : be16 s.skb.data (ptr + TAG_HDR_LEN) ≠ MAGIC_CODE
    · rw [if_pos other]
      exact iff_of_true (Program.succeeds_pure _ _) (fun same => absurd same other)
    · have magic : be16 s.skb.data (ptr + 4) = MAGIC_CODE := not_not.mp other
      rw [if_neg other, imp_iff_right magic, succeeds_loads]
      refine (and_congr_right (fun room => ?_)).trans (and_iff_left trivial)
      have room : ptr + 12 ≤ s.skb.len := room
      refine iff_of_true ?_ trivial
      rw [succeeds_stores, Memory.length_read]
      refine ⟨by omega, ?_⟩
      obtain ⟨offset, offset_eq, few⟩ : ∃ offset,
          (if MAGIC_CODE_LEN + RTL_RELAY_TAG_LEN < be16 s.skb.data (ptr + 2) then TAG_HDR_LEN else 0) = offset ∧
            offset ≤ 4 := by
        refine ⟨_, rfl, ?_⟩
        split <;> decide
      rw [offset_eq]
      refine (succeeds_pull ?_ (fun next len tailroom data => ?_)).mpr trivial
      · rw [write_len]
        unfold TAG_HDR_LEN MAGIC_CODE_LEN RTL_RELAY_TAG_LEN ETH_ALEN
        omega
      · refine iff_of_true ?_ trivial
        rw [write_len] at len
        unfold TAG_HDR_LEN MAGIC_CODE_LEN RTL_RELAY_TAG_LEN ETH_ALEN at len
        have two : ∀ value, (htons value).length = 2 := fun _ => rfl
        rw [if_neg (Int.lt_irrefl 0), succeeds_load_be16, succeeds_stores, two]
        refine ⟨by omega, by omega, ?_⟩
        by_cases more : 0 < offset
        · have four : offset = 4 := by
            unfold TAG_HDR_LEN at offset_eq
            split at offset_eq <;> omega
          rw [if_pos more, succeeds_stores, two, write_len]
          exact ⟨by omega, Program.succeeds_pure _ _⟩
        · rw [if_neg more]
          exact Program.succeeds_pure _ _

def PppoeInside (host : Host) (s : Bridge) (method : Method) : Prop :=
  (method = .NAT25_CHECK -> 18 ≤ s.skb.len) ∧
  (method = .NAT25_INSERT -> 18 ≤ s.skb.len ∧
    (be16 s.skb.data 16 = 0 -> s.skb.data 15 = PADI_CODE ∨ s.skb.data 15 = PADR_CODE -> s.priv.addPPPoETag = true ->
      20 ≤ s.skb.len ∧ TagsInside s.skb PTT_RELAY_SID ∧
        match first_tag s.skb PTT_RELAY_SID with
        | some pOldTag => ReplaceInside host s.skb pOldTag
        | none => AddInside host 0 s.skb.tailroom s.skb.len (be16 s.skb.data 18))) ∧
  (method = .NAT25_LOOKUP -> 16 ≤ s.skb.len ∧
    if s.skb.data 15 = PADO_CODE ∨ s.skb.data 15 = PADS_CODE then
      s.priv.addPPPoETag = true -> 20 ≤ s.skb.len ∧ TagsInside s.skb PTT_RELAY_SID ∧
        ∀ ptr, first_tag s.skb PTT_RELAY_SID = some ptr -> RemoveInside s.skb ptr
    else 18 ≤ s.skb.len)

theorem succeeds_begin_pppoe (eth : 14 ≤ s.skb.len) : begin_pppoe.Succeeds s := by
  have early : ETH_ALEN + 6 ≤ s.skb.len := Nat.le_trans (by decide) eth
  unfold begin_pppoe
  rw [succeeds_load_mac, and_iff_right early, Program.succeeds_get_bind]
  split
  · exact Program.succeeds_pure _ _
  · exact Program.succeeds_update_bind.mpr (Program.succeeds_pure _ _)

theorem succeeds_insert_pppoe_session (eth : 18 ≤ s.skb.len) : (insert_pppoe_session host).Succeeds s := by
  unfold insert_pppoe_session
  rw [succeeds_load_mac, succeeds_loads, succeeds_insert, succeeds_load_mac, Program.succeeds_update_bind, insert_skb]
  exact ⟨by omega, eth, by omega, Nat.le_trans (by decide) eth, Program.succeeds_pure _ _⟩

theorem pppoe_insert_iff :
    (∃ fuel, (handle_pppoe host fuel .NAT25_INSERT).Succeeds s) <->
      PppoeInside host s .NAT25_INSERT := by
  unfold handle_pppoe PppoeInside
  simp only [succeeds_load_be16, exists_and_left, reduceCtorEq, false_implies, true_and, and_true, forall_const]
  refine and_congr_right (fun room => ?_)
  by_cases discovery : be16 s.skb.data 16 = 0
  · simp only [if_pos discovery, succeeds_load, exists_and_left, imp_iff_right discovery]
    rw [and_iff_right (show 15 + 1 ≤ s.skb.len by omega)]
    by_cases request : s.skb.data 15 = PADI_CODE ∨ s.skb.data 15 = PADR_CODE
    · simp only [if_pos request, Program.succeeds_get_bind, imp_iff_right request]
      cases tagged : s.priv.addPPPoETag with
      | true =>
          simp only [if_true, forall_const, succeeds_find_pppoe_tag]
          refine and_congr_right (fun eth => and_congr_right (fun safe => ?_))
          cases found : first_tag s.skb PTT_RELAY_SID with
          | some pOldTag =>
              have header := first_tag_inside safe found
              exact succeeds_replace_relay_tag header.1 header.2
          | none => exact succeeds_add_relay_tag eth (Nat.zero_le _)
      | false =>
          rw [imp_iff_not_or, or_iff_left_of_imp (fun _ => Bool.false_ne_true)]
          exact iff_of_true ⟨0, succeeds_begin_pppoe (by omega)⟩ Bool.false_ne_true
    · simp only [if_neg request]
      exact iff_of_true ⟨0, Program.succeeds_pure _ _⟩ (fun same => absurd same request)
  · simp only [if_neg discovery]
    exact iff_of_true ⟨0, succeeds_insert_pppoe_session room⟩ (fun same => absurd same discovery)

theorem pppoe_lookup_iff (eth : 14 ≤ s.skb.len) :
    (∃ fuel, (handle_pppoe host fuel .NAT25_LOOKUP).Succeeds s) <->
      PppoeInside host s .NAT25_LOOKUP := by
  unfold handle_pppoe PppoeInside
  simp only [succeeds_load, exists_and_left, reduceCtorEq, false_implies, true_and, forall_const]
  refine and_congr_right (fun room => ?_)
  by_cases answer : s.skb.data 15 = PADO_CODE ∨ s.skb.data 15 = PADS_CODE
  · simp only [if_pos answer, Program.succeeds_get_bind]
    cases tagged : s.priv.addPPPoETag with
    | true =>
        simp only [if_true, forall_const, succeeds_find_pppoe_tag]
        refine and_congr_right (fun _ => and_congr_right (fun safe => ?_))
        cases found : first_tag s.skb PTT_RELAY_SID with
        | some ptr =>
            have header := first_tag_inside safe found
            refine (succeeds_remove_relay_tag header.1 header.2).trans ?_
            exact ⟨fun holds ptr same => Option.some.inj same ▸ holds, fun all => all ptr rfl⟩
        | none => exact iff_of_true (Program.succeeds_pure _ _) (fun ptr same => by cases same)
    | false =>
        refine iff_of_true ⟨0, ?_⟩ (by rintro ⟨⟩)
        rw [if_neg Bool.false_ne_true]
        split
        · exact Program.succeeds_pure _ _
        · rw [succeeds_stores, MacAddr.length_eq]
          exact ⟨by omega, Program.succeeds_update_bind.mpr (Program.succeeds_pure _ _)⟩
  · simp only [if_neg answer, succeeds_load_be16, exists_and_left]
    refine (and_congr_right (fun room => ?_)).trans (and_iff_left trivial)
    refine iff_of_true ⟨0, ?_⟩ trivial
    split
    · rw [succeeds_load_mac, succeeds_loads]
      refine ⟨Nat.le_trans (by decide) eth, room, ?_⟩
      refine (succeeds_lookup (by omega) (fun _ _ _ _ => ?_)).mpr trivial
      exact iff_of_true (Program.succeeds_pure _ _) trivial
    · exact Program.succeeds_pure _ _

theorem handle_pppoe_iff (eth : 14 ≤ s.skb.len) (method : Method) :
    (∃ fuel, (handle_pppoe host fuel method).Succeeds s) <-> PppoeInside host s method := by
  cases method with
  | NAT25_CHECK =>
      unfold handle_pppoe PppoeInside
      simp only [succeeds_load_be16, exists_and_left, reduceCtorEq, false_implies, and_true, forall_const]
      refine (and_congr_right (fun _ => ?_)).trans (and_iff_left trivial)
      refine iff_of_true ⟨0, ?_⟩ trivial
      split <;> exact Program.succeeds_pure _ _
  | NAT25_INSERT => exact pppoe_insert_iff
  | NAT25_LOOKUP => exact pppoe_lookup_iff eth
  | _ => exact iff_of_true ⟨0, Program.succeeds_pure _ _⟩ ⟨by rintro ⟨⟩, by rintro ⟨⟩, by rintro ⟨⟩⟩

/-- The options of a neighbour discovery message are sound, and the checksum of a
changed message is computed over bytes of the frame. -/
def MessageInside (host : Host) (skb : SkBuff) : Prop :=
  ∀ header tag, nd_options (skb.data 54) = some (header, tag) -> header ≤ skb.len - 54 ->
    OptionsSound skb.data tag (54 + header, (skb.len - 54 - header : Nat)) ∧
      (first_option skb.data tag (54 + header, (skb.len - 54 - header : Nat)) ≠ none ->
        54 + host.raw16 skb.data 18 ≤ skb.len)

def Ipv6Inside (host : Host) (skb : SkBuff) (method : Method) : Prop :=
  method = .NAT25_INSERT -> 58 < skb.len -> Memory.read skb.data 22 16 ≠ List.replicate 16 0 ->
    skb.data 20 = 58 -> MessageInside host skb

theorem raw16_congr {first second : Nat -> UInt8} {place : Nat}
    (same : ∀ at_, at_ < place + 2 -> first at_ = second at_) : host.raw16 first place = host.raw16 second place := by
  unfold Host.raw16
  rw [be16_congr same, same place (by omega), same (place + 1) (by omega)]

theorem succeeds_update_checksum (message : 58 < s.skb.len) :
    (update_checksum host >>= fun _ => pure 0 : BrProgram Int).Succeeds s <-> 54 + host.raw16 s.skb.data 18 ≤ s.skb.len := by
  unfold update_checksum
  rw [Program.bind_assoc, succeeds_stores, Program.bind_assoc, succeeds_loads, Program.bind_assoc, succeeds_loads,
    Program.bind_assoc, Program.succeeds_get_bind, Program.bind_assoc, succeeds_loads, succeeds_stores]
  have kept : host.raw16 (s.write 56 [0, 0]).skb.data 18 = host.raw16 s.skb.data 18 :=
    raw16_congr (fun at_ before => write_before (by omega))
  have two : ∀ value, (htons value).length = 2 := fun _ => rfl
  rw [kept, two]
  simp only [write_len, List.length_cons, List.length_nil, Program.succeeds_pure, and_true]
  omega

theorem succeeds_update_message (message : 58 < s.skb.len) :
    (∃ fuel,
        (update_nd_link_layer_addr fuel 54 (s.skb.len - 54) >>= fun updated =>
          if updated then (update_checksum host >>= fun _ => pure 0 : BrProgram Int) else pure 0).Succeeds s) <->
      MessageInside host s.skb := by
  unfold update_nd_link_layer_addr MessageInside
  simp only [Program.bind_assoc, succeeds_load, exists_and_left]
  rw [and_iff_right (show 54 + 1 ≤ s.skb.len by omega)]
  cases options : nd_options (s.skb.data 54) with
  | none => exact iff_of_true ⟨0, Program.succeeds_pure _ _⟩ (fun header tag same => by cases same)
  | some option =>
      rcases option with ⟨header, tag⟩
      have one : ∀ statement : Nat -> UInt8 -> Prop,
          (∀ header' tag', some (header, tag) = some (header', tag') -> statement header' tag') <->
            statement header tag := by
        intro statement
        refine ⟨fun all => all header tag rfl, fun holds header' tag' same => ?_⟩
        cases same
        exact holds
      rw [one]
      dsimp only
      by_cases fits : header ≤ s.skb.len - 54
      · simp only [if_pos fits, imp_iff_right fits, Program.bind_assoc]
        have whole : ((54 + header : Nat) : Int) + ((s.skb.len - 54 - header : Nat) : Int) = s.skb.len := by omega
        rw [succeeds_scan_tlv whole]
        refine and_congr_right (fun sound => ?_)
        cases found : first_option s.skb.data tag (54 + header, (s.skb.len - 54 - header : Nat)) with
        | none => exact iff_of_true (Program.succeeds_pure _ _) (fun impossible => absurd rfl impossible)
        | some mac =>
            have place := first_option_inside sound found
            dsimp only at place ⊢
            rw [Program.bind_assoc, Program.succeeds_get_bind, Program.bind_assoc, succeeds_stores, MacAddr.length_eq,
              and_iff_right (by omega), Program.succeeds_pure_bind, if_pos rfl,
              @succeeds_update_checksum host (s.write mac s.priv.mac_addr.bytes) message, write_len, raw16_congr (fun at_ before => write_before (by omega))]
            exact (imp_iff_right (by rintro ⟨⟩)).symm
      · simp only [if_neg fits]
        exact iff_of_true ⟨0, Program.succeeds_pure _ _⟩ (fun impossible => absurd impossible fits)

theorem handle_ipv6_iff (method : Method) :
    (∃ fuel, (handle_ipv6 host fuel method).Succeeds s) <-> Ipv6Inside host s.skb method := by
  unfold handle_ipv6 Ipv6Inside
  simp only [Program.succeeds_get_bind]
  by_cases short : s.skb.len - ETH_HLEN ≤ 40
  · simp only [if_pos short]
    unfold ETH_HLEN at short
    exact iff_of_true ⟨0, Program.succeeds_pure _ _⟩ (fun _ long => absurd long (by omega))
  · simp only [if_neg short]
    unfold ETH_HLEN at short
    cases method with
    | NAT25_CHECK =>
        refine iff_of_true ⟨0, ?_⟩ (by rintro ⟨⟩)
        dsimp only
        rw [succeeds_load]
        refine ⟨by omega, ?_⟩
        split <;> exact Program.succeeds_pure _ _
    | NAT25_LOOKUP =>
        refine iff_of_true ⟨0, ?_⟩ (by rintro ⟨⟩)
        dsimp only
        rw [succeeds_loads]
        refine ⟨by omega, (succeeds_lookup (by omega) (fun _ _ _ _ => ?_)).mpr trivial⟩
        exact iff_of_true (Program.succeeds_pure _ _) trivial
    | NAT25_INSERT =>
        simp only [succeeds_loads, exists_and_left, forall_const]
        rw [and_iff_right (show 22 + 16 ≤ s.skb.len by omega)]
        by_cases unspecified : Memory.read s.skb.data 22 16 = List.replicate 16 0
        · simp only [if_pos unspecified]
          exact iff_of_true ⟨0, Program.succeeds_pure _ _⟩ (fun _ specified => absurd unspecified specified)
        · simp only [if_neg unspecified, succeeds_insert, succeeds_load, Program.succeeds_get_bind, insert_skb,
            exists_and_left]
          rw [and_iff_right (show 12 ≤ s.skb.len by omega), and_iff_right (show 20 + 1 ≤ s.skb.len by omega)]
          by_cases message : s.skb.data 20 = 58 ∧ ETH_HLEN + 40 + 4 < s.skb.len
          · simp only [if_pos message]
            have long : 58 < s.skb.len := message.2
            have same := @succeeds_update_message host
              (s.insert host (mac_at s.skb.data ETH_ALEN)
                (__nat25_generate_ipv6_network_addr (Memory.read s.skb.data 22 16))) (by rw [insert_skb]; exact long)
            rw [insert_skb] at same
            rw [same]
            exact ⟨fun holds _ _ _ => holds, fun all => all long unspecified message.1⟩
          · simp only [if_neg message]
            exact iff_of_true ⟨0, Program.succeeds_pure _ _⟩ (fun long _ icmp => absurd ⟨icmp, long⟩ message)
    | _ => exact iff_of_true ⟨0, Program.succeeds_pure _ _⟩ (by rintro ⟨⟩)

def Nat25Inside (host : Host) (s : Bridge) (method : Method) : Prop :=
  let protocol := be16 s.skb.data 12
  if protocol = 0x0800 then IpInside s.skb method
  else if protocol = 0x0806 then ArpInside s.skb method
  else if protocol = 0x8137 ∨ protocol = 0x809b ∨ protocol = 0x80f3 then IpxAppleInside host s method protocol
  else if protocol = 0x8863 ∨ protocol = 0x8864 then PppoeInside host s method
  else if protocol = 0x86dd then Ipv6Inside host s.skb method
  else True

theorem handle_other_succeeds (method : Method) : (handle_other method).Succeeds s := by
  cases method <;> exact Program.succeeds_pure _ _

theorem nat25_db_handle_eq {method : Method} (named : ¬ (method = .NAT25_MIN ∨ method = .NAT25_MAX))
    (eth : 14 ≤ s.skb.len) (fuel : Nat) :
    (nat25_db_handle host fuel method).Succeeds s <->
      let protocol := be16 s.skb.data 12
      if protocol = 0x0800 then (handle_ip host method).Succeeds s
      else if protocol = 0x0806 then (handle_arp host method).Succeeds s
      else if protocol = 0x8137 ∨ protocol = 0x809b ∨ protocol = 0x80f3 then
        (handle_ipx_apple host method protocol).Succeeds s
      else if protocol = 0x8863 ∨ protocol = 0x8864 then (handle_pppoe host fuel method).Succeeds s
      else if protocol = 0x86dd then (handle_ipv6 host fuel method).Succeeds s
      else True := by
  unfold nat25_db_handle
  rw [if_neg named, succeeds_load_be16, and_iff_right (show 12 + 2 ≤ s.skb.len from eth)]
  dsimp only
  generalize be16 s.skb.data 12 = protocol
  split
  case isTrue => exact Iff.rfl
  case isFalse =>
    split
    case isTrue => exact Iff.rfl
    case isFalse =>
      split
      case isTrue => exact Iff.rfl
      case isFalse =>
        split
        case isTrue => exact Iff.rfl
        case isFalse =>
          by_cases eapol : protocol = 0x888e
          · rw [if_pos eapol, if_neg (by omega)]
            exact iff_of_true (handle_other_succeeds method) trivial
          · by_cases cmedia : protocol = 0xe2ae ∨ protocol = 0xe2af
            · rw [if_neg eapol, if_pos cmedia, if_neg (by omega)]
              exact iff_of_true (handle_other_succeeds method) trivial
            · rw [if_neg eapol, if_neg cmedia]
              split
              case isTrue => exact Iff.rfl
              case isFalse => exact iff_of_true (Program.succeeds_pure _ _) trivial

theorem nat25_db_handle_iff (host : Host) (s : Bridge) (method : Method)
    (named : method = .NAT25_CHECK ∨ method = .NAT25_INSERT ∨ method = .NAT25_LOOKUP) (eth : 14 ≤ s.skb.len) :
    Handled host s method <-> Nat25Inside host s method := by
  have proper : ¬ (method = .NAT25_MIN ∨ method = .NAT25_MAX) := by
    rcases named with named | named | named <;> rw [named] <;> nofun
  unfold Handled Nat25Inside
  simp only [nat25_db_handle_eq proper eth]
  generalize be16 s.skb.data 12 = protocol
  have constant : ∀ statement : Prop, (∃ _ : Nat, statement) <-> statement :=
    fun _ => exists_const Nat
  split
  case isTrue => rw [constant, handle_ip_iff eth]
  case isFalse =>
    split
    case isTrue => rw [constant, handle_arp_iff eth]
    case isFalse =>
      split
      case isTrue => rw [constant, handle_ipx_apple_iff eth]
      case isFalse =>
        split
        case isTrue => exact handle_pppoe_iff eth method
        case isFalse =>
          split
          case isTrue => exact handle_ipv6_iff method
          case isFalse => exact constant True

/-- A neighbour solicitation of 86 bytes whose option has the length 0. -/
def solicitation : SkBuff where
  data place :=
    match place with
    | 12 => 0x86
    | 13 => 0xdd
    | 20 => 58
    | 22 => 0xfe
    | 54 => 135
    | 78 => 1
    | _ => 0
  len := 86
  tailroom := 0

def idle_priv : Priv where
  nethash _ := []
  mac_addr := .zero
  br_mac := .zero
  pppoe_addr := .zero
  pppoe_connection_in_progress := 0
  addPPPoETag := false

def little_endian_host : Host where
  big_endian := false
  ipx := false
  jiffies := 0
  hz := 250
  rtw_malloc := true
  br_netdev := none
  stack _ := 0
  csum_ipv6_magic _ _ _ _ := 0

theorem solicitation_protocol : be16 solicitation.data 12 = 0x86dd := rfl

theorem nat25_db_handle_iff_solicitation : Handled little_endian_host ⟨idle_priv, solicitation⟩ .NAT25_CHECK := by
  refine (nat25_db_handle_iff little_endian_host ⟨idle_priv, solicitation⟩ .NAT25_CHECK (Or.inl rfl) (by decide)).mpr ?_
  unfold Nat25Inside
  rw [solicitation_protocol]
  exact fun impossible => (nomatch impossible)

/-- It is never handled. -/
theorem solicitation_not_handled :
    14 ≤ solicitation.len ∧ ¬ Handled little_endian_host ⟨idle_priv, solicitation⟩ .NAT25_INSERT := by
  refine ⟨by decide, fun ⟨fuel, success⟩ => ?_⟩
  rw [nat25_db_handle_eq (by nofun) (by decide) fuel, solicitation_protocol] at success
  have message := (handle_ipv6_iff .NAT25_INSERT).mp ⟨fuel, success⟩ rfl (by decide) (by decide) rfl
  have options := (message 24 1 rfl (by decide)).1
  exact (options 78 8 Relation.ReflTransGen.refl (by decide)).2 rfl

end BrExt
end Rtl8821ce
