import Rtl8821ce.Br.Nat25

/-!
# Where NAT2.5 stays inside the frame

For each protocol, what a frame has to be like so that handling it uses bytes of the
frame only.
-/

namespace Rtl8821ce
namespace BrExt

variable {host : Host} {s : Bridge} {Value : Type}

theorem write_before {start place : Nat} {bytes : List UInt8} (before : place < start) :
    (s.write start bytes).skb.data place = s.skb.data place :=
  Memory.write_of_outside s.skb.data (Or.inl before)

@[simp] theorem insert_skb (host : Host) (s : Bridge) (macAddr : MacAddr) (networkAddr : List UInt8) :
    (s.insert host macAddr networkAddr).skb = s.skb := by
  unfold Bridge.insert
  split
  · rfl
  · split <;> rfl

@[simp] theorem succeeds_insert {networkAddr : List UInt8} {rest : PUnit -> BrProgram Value} :
    (__nat25_db_network_insert host networkAddr >>= rest).Succeeds s <->
      12 ≤ s.skb.len ∧ (rest ⟨⟩).Succeeds (s.insert host (mac_at s.skb.data ETH_ALEN) networkAddr) := by
  rw [__nat25_db_network_insert, Program.bind_assoc, succeeds_load_mac, Program.succeeds_update_bind]
  exact Iff.rfl

theorem succeeds_lookup {networkAddr : List UInt8} {rest : Bool -> BrProgram Value} {condition : Prop}
    (eth : 6 ≤ s.skb.len) (tail : ∀ found next, next.skb.len = s.skb.len ->
      (∀ place, 6 ≤ place -> next.skb.data place = s.skb.data place) ->
        ((rest found).Succeeds next <-> condition)) :
    (__nat25_db_network_lookup_and_replace host networkAddr >>= rest).Succeeds s <-> condition := by
  have ran : ∃ found, ∃ next,
      __nat25_db_network_lookup_and_replace host networkAddr s = (.ok found, next) ∧
        next.skb.len = s.skb.len ∧ ∀ place, 6 ≤ place -> next.skb.data place = s.skb.data place := by
    unfold __nat25_db_network_lookup_and_replace
    rw [Program.bind_of_ok (Program.get_apply s)]
    cases s.find_entry networkAddr with
    | none => exact ⟨false, s, rfl, rfl, fun _ _ => rfl⟩
    | some db =>
        dsimp only
        split
        case isTrue => exact ⟨true, s, rfl, rfl, fun _ _ => rfl⟩
        case isFalse =>
          have stored : stores 0 db.macAddr.bytes s = (.ok ⟨⟩, s.write 0 db.macAddr.bytes) := by
            have room : decide (0 + db.macAddr.bytes.length ≤ s.skb.len) = true := by
              rw [decide_eq_true_eq, db.macAddr.length_eq]
              omega
            rw [stores, inside, Program.bind_assoc, Program.bind_of_ok (Program.get_apply s), room]
            rfl
          rw [Program.bind_of_ok stored, Program.bind_of_ok (Program.update_apply _ _)]
          refine ⟨true, _, rfl, rfl, fun place behind => ?_⟩
          have beside : 0 + db.macAddr.bytes.length ≤ place := by
            rw [db.macAddr.length_eq]
            omega
          exact Memory.write_of_outside s.skb.data (Or.inr beside)
  rcases ran with ⟨found, next, ran, len, data⟩
  rw [Program.succeeds_bind_of_ok ran, tail found next len data]

theorem netdev_br_init_skb (host : Host) (s : Bridge) : (s.netdev_br_init host).skb = s.skb := by
  unfold Bridge.netdev_br_init
  split <;> rfl

/-- The header length is compared with the length of the whole frame. -/
def IpInside (skb : SkBuff) (method : Method) : Prop :=
  15 ≤ skb.len ∧ ((skb.data 14).toNat % 16 * 4 < skb.len ->
    (method = .NAT25_INSERT -> 30 ≤ skb.len) ∧ (method = .NAT25_LOOKUP -> 34 ≤ skb.len))

theorem handle_ip_iff (eth : 14 ≤ s.skb.len) (method : Method) :
    (handle_ip host method).Succeeds s <-> IpInside s.skb method := by
  unfold handle_ip IpInside
  rw [succeeds_load, Program.succeeds_get_bind]
  refine and_congr Iff.rfl ?_
  by_cases short : ETH_HLEN + s.skb.len ≤ ETH_HLEN + (s.skb.data ETH_HLEN).toNat % 16 * 4
  · rw [if_pos short]
    have short : s.skb.len ≤ (s.skb.data 14).toNat % 16 * 4 := Nat.le_of_add_le_add_left short
    exact iff_of_true (Program.succeeds_pure _ _) (fun long => absurd short (Nat.not_le.mpr long))
  · rw [if_neg short]
    have long : (s.skb.data 14).toNat % 16 * 4 < s.skb.len :=
      Nat.lt_of_not_le (fun short' => short (Nat.add_le_add_left short' ETH_HLEN))
    rw [imp_iff_right long]
    cases method with
    | NAT25_INSERT =>
        dsimp only
        rw [succeeds_loads]
        refine ⟨fun both => ⟨fun _ => both.1, nofun⟩, fun room => ⟨room.1 rfl, ?_⟩⟩
        split
        · exact Program.succeeds_pure _ _
        · exact succeeds_insert.mpr ⟨Nat.le_trans (by decide) eth, Program.succeeds_pure _ _⟩
    | NAT25_LOOKUP =>
        dsimp only
        rw [succeeds_loads]
        refine ⟨fun both => ⟨nofun, fun _ => both.1⟩, fun room => ⟨room.2 rfl, ?_⟩⟩
        have room : 34 ≤ s.skb.len := room.2 rfl
        refine (succeeds_lookup (by omega) (fun found next len _ => ?_)).mpr trivial
        refine iff_of_true ?_ trivial
        split
        · exact Program.succeeds_pure _ _
        · rw [succeeds_load]
          refine ⟨by omega, ?_⟩
          split
          · exact succeeds_stores.mpr ⟨by rw [len]; exact Nat.le_trans (by decide) eth, Program.succeeds_pure _ _⟩
          · rw [Program.succeeds_update_bind, Program.succeeds_get_bind, succeeds_stores]
            have len : (next.netdev_br_init host).skb.len = s.skb.len := (netdev_br_init_skb host next) ▸ len
            refine ⟨?_, Program.succeeds_pure _ _⟩
            rw [len, MacAddr.length_eq]
            omega
    | _ => exact iff_of_true (Program.succeeds_pure _ _) ⟨nofun, nofun⟩

/-- The lengths of the addresses are those that the frame claims. -/
def ArpInside (skb : SkBuff) (method : Method) : Prop :=
  18 ≤ skb.len ∧ (be16 skb.data 16 = 0x0800 ->
    (method = .NAT25_INSERT -> 28 ≤ skb.len ∧ 26 + (skb.data 18).toNat ≤ skb.len) ∧
    (method = .NAT25_LOOKUP ->
      26 + 2 * (skb.data 18).toNat + (skb.data 19).toNat ≤ skb.len ∧
        28 + (skb.data 18).toNat + (skb.data 19).toNat ≤ skb.len))

theorem handle_arp_iff (eth : 14 ≤ s.skb.len) (method : Method) :
    (handle_arp host method).Succeeds s <-> ArpInside s.skb method := by
  unfold handle_arp ArpInside
  rw [succeeds_load_be16]
  refine and_congr Iff.rfl ?_
  by_cases other : be16 s.skb.data 16 ≠ 0x0800
  · rw [if_pos other]
    exact iff_of_true (Program.succeeds_pure _ _) (fun same => absurd same other)
  · rw [if_neg other, imp_iff_right (not_not.mp other)]
    cases method with
    | NAT25_INSERT =>
        dsimp only
        rw [Program.succeeds_get_bind, succeeds_stores, MacAddr.length_eq, succeeds_load, succeeds_loads]
        have kept : (s.write 22 s.priv.mac_addr.bytes).skb.data 18 = s.skb.data 18 := write_before (by decide)
        rw [kept, succeeds_insert]
        simp only [write_len, Program.succeeds_pure, reduceCtorEq, false_implies, and_true, forall_const]
        omega
    | NAT25_LOOKUP =>
        dsimp only
        rw [succeeds_load, succeeds_load, succeeds_loads, succeeds_lookup (by omega) (fun found next len data => ?_)]
        · exact ⟨fun all => ⟨by rintro ⟨⟩, fun _ => ⟨by omega, all.2.2.2⟩⟩, fun all =>
            have both := all.2 rfl
            ⟨by omega, by omega, by omega, both.2⟩⟩
        · rw [succeeds_load, succeeds_load, succeeds_loads, succeeds_stores, Memory.length_read, data 18 (by decide),
            data 19 (by decide), len]
          simp only [Program.succeeds_pure, and_true, ETH_ALEN]
          omega
    | NAT25_CHECK => exact iff_of_true (Program.succeeds_pure _ _) ⟨by rintro ⟨⟩, by rintro ⟨⟩⟩
    | _ => exact iff_of_true (Program.succeeds_pure _ _) ⟨by rintro ⟨⟩, by rintro ⟨⟩⟩

def IpxFound (skb : SkBuff) (protocol : Nat) : Prop :=
  protocol ≠ 0x8137 -> 16 ≤ skb.len ∧ (Memory.read skb.data 14 2 ≠ [0xff, 0xff] ->
    (skb.data 14 = 0xaa -> 22 ≤ skb.len) ∧ (skb.data 14 = 0xe0 -> 19 ≤ skb.len))

/-- What `find_ipx` finds. -/
def ipx_kind (skb : SkBuff) (protocol : Nat) : Ipx :=
  if protocol = 0x8137 ∨ Memory.read skb.data 14 2 = [0xff, 0xff] then .ipx 14
  else if skb.data 14 = 0xaa then
    if Memory.read skb.data 17 5 = [0x00, 0x00, 0x00, 0x81, 0x37] then .ipx 22
    else if Memory.read skb.data 17 5 = [0x00, 0x00, 0x00, 0x80, 0xf3] then .ea 22
    else if Memory.read skb.data 17 5 = [0x08, 0x00, 0x07, 0x80, 0x9b] then .ddp 22
    else .unknown
  else if skb.data 14 = 0xe0 ∧ Memory.read skb.data 17 2 = [0xff, 0xff] then .ipx 17
  else .unknown

theorem succeeds_find_ipx {protocol : Nat} {rest : Ipx -> BrProgram Value} :
    (find_ipx protocol >>= rest).Succeeds s <->
      IpxFound s.skb protocol ∧ (rest (ipx_kind s.skb protocol)).Succeeds s := by
  unfold find_ipx IpxFound ipx_kind ETH_HLEN
  by_cases ethernet : protocol = 0x8137
  · simp [ethernet]
  · by_cases raw : Memory.read s.skb.data 14 2 = [0xff, 0xff]
    · simp [ethernet, raw, Program.bind_assoc]
    · by_cases snap : s.skb.data 14 = 0xaa
      · simp only [ethernet, raw, snap, if_true, if_false, Program.bind_assoc, succeeds_loads, succeeds_load,
          Nat.reduceAdd, or_self, ne_eq, not_false_iff, forall_const]
        split
        · simp
          grind
        · split
          · simp
            grind
          · split
            · simp
              grind
            · simp
              grind
      · by_cases llc : s.skb.data 14 = 0xe0
        · have different : ¬ (0xe0 : UInt8) = 0xaa := by decide
          simp only [ethernet, raw, llc, different, if_true, if_false, Program.bind_assoc, succeeds_loads, succeeds_load,
            Nat.reduceAdd, or_self, ne_eq, not_false_iff, forall_const, true_and]
          split
          · simp
            grind
          · simp
            grind
        · simp [ethernet, raw, snap, llc, Program.bind_assoc]
          grind

/-- The node and, when the node is the one of the frame or of the interface, the socket. -/
def IpxInside (s : Bridge) (method : Method) (ipx : Nat) : Prop :=
  (method = .NAT25_CHECK -> ipx + 28 ≤ s.skb.len) ∧
  (method = .NAT25_INSERT -> ipx + 28 ≤ s.skb.len ∧
    (mac_at s.skb.data 6 = mac_at s.skb.data (ipx + 22) -> ipx + 30 ≤ s.skb.len)) ∧
  (method = .NAT25_LOOKUP -> ipx + 16 ≤ s.skb.len ∧
    (s.priv.mac_addr = mac_at s.skb.data (ipx + 10) -> ipx + 18 ≤ s.skb.len))

theorem handle_ipx_iff (eth : 14 ≤ s.skb.len) (method : Method) (ipx : Nat) :
    (handle_ipx host method ipx).Succeeds s <-> IpxInside s method ipx := by
  unfold handle_ipx IpxInside
  cases method with
  | NAT25_CHECK =>
      dsimp only
      rw [succeeds_load_mac, succeeds_load_mac]
      have last : Program.Succeeds (if mac_at s.skb.data ETH_ALEN = mac_at s.skb.data (ipx + 22) then
          (pure 0 : BrProgram Int) else pure (-1)) s := by
        split <;> exact Program.succeeds_pure _ _
      rw [and_iff_left last]
      exact ⟨fun room => ⟨fun _ => room.2, by rintro ⟨⟩, by rintro ⟨⟩⟩, fun room => ⟨Nat.le_trans (by decide) eth, room.1 rfl⟩⟩
  | NAT25_INSERT =>
      dsimp only
      rw [succeeds_load_mac, succeeds_load_mac]
      have own : (if mac_at s.skb.data ETH_ALEN = mac_at s.skb.data (ipx + 22) then (do
            let net ← loads (ipx + 18) 4
            let sock ← loads (ipx + 28) 2
            let s ← Program.get
            stores (ipx + 22) s.priv.mac_addr.bytes
            __nat25_db_network_insert host (__nat25_generate_ipx_network_addr_with_socket net sock)
            pure 0 : BrProgram Int)
          else do
            let net ← loads (ipx + 18) 4
            __nat25_db_network_insert host
              (__nat25_generate_ipx_network_addr_with_node net (mac_at s.skb.data (ipx + 22)).bytes)
            pure 0).Succeeds s <-> ipx + 22 ≤ s.skb.len ∧
              (mac_at s.skb.data 6 = mac_at s.skb.data (ipx + 22) -> ipx + 30 ≤ s.skb.len) := by
        by_cases same : mac_at s.skb.data ETH_ALEN = mac_at s.skb.data (ipx + 22)
        · rw [if_pos same, succeeds_loads, succeeds_loads, Program.succeeds_get_bind, succeeds_stores,
            succeeds_insert, MacAddr.length_eq]
          simp only [write_len, Program.succeeds_pure, and_true]
          have same : mac_at s.skb.data 6 = mac_at s.skb.data (ipx + 22) := same
          rw [imp_iff_right same]
          omega
        · rw [if_neg same, succeeds_loads, succeeds_insert]
          simp only [Program.succeeds_pure, and_true]
          have same : ¬ mac_at s.skb.data 6 = mac_at s.skb.data (ipx + 22) := same
          rw [and_iff_left (fun both => absurd both same)]
          omega
      rw [own]
      simp only [reduceCtorEq, false_implies, true_and, and_true, forall_const]
      have early : ETH_ALEN + 6 ≤ s.skb.len := Nat.le_trans (by decide) eth
      constructor
      · exact fun all => ⟨all.2.1, all.2.2.2⟩
      · exact fun both => ⟨early, both.1, by omega, both.2⟩
  | NAT25_LOOKUP =>
      dsimp only
      rw [Program.succeeds_get_bind, succeeds_load_mac]
      simp only [reduceCtorEq, false_implies, true_and, forall_const]
      refine and_congr_right (fun room => ?_)
      by_cases same : s.priv.mac_addr = mac_at s.skb.data (ipx + 10)
      · rw [if_pos same, imp_iff_right same, succeeds_loads, succeeds_loads,
          succeeds_lookup (by omega) (fun found next len _ => ?_)]
        · exact ⟨fun all => all.2.1, fun fits => ⟨by omega, fits, trivial⟩⟩
        · rw [succeeds_loads, succeeds_stores, Memory.length_read, len]
          refine iff_of_true ⟨?_, ?_, Program.succeeds_pure _ _⟩ trivial
          · exact Nat.le_trans (by decide) eth
          · exact room
      · rw [if_neg same, succeeds_loads, succeeds_lookup (by omega) (fun found next len _ => ?_)]
        · exact ⟨fun _ both => absurd both same, fun _ => ⟨by omega, trivial⟩⟩
        · exact iff_of_true (Program.succeeds_pure _ _) trivial
  | _ => exact iff_of_true (Program.succeeds_pure _ _) ⟨by rintro ⟨⟩, by rintro ⟨⟩, by rintro ⟨⟩⟩

def AarpInside (skb : SkBuff) (method : Method) (ea : Nat) : Prop :=
  ea + 5 ≤ skb.len ∧ (skb.data (ea + 4) = 6 -> ea + 6 ≤ skb.len ∧ (skb.data (ea + 5) = 4 ->
    (method = .NAT25_INSERT -> ea + 18 ≤ skb.len) ∧ (method = .NAT25_LOOKUP -> ea + 28 ≤ skb.len)))

theorem handle_aarp_iff (eth : 14 ≤ s.skb.len) (method : Method) (ea : Nat) :
    (handle_aarp host method ea).Succeeds s <-> AarpInside s.skb method ea := by
  unfold handle_aarp AarpInside
  rw [succeeds_load]
  refine and_congr Iff.rfl ?_
  by_cases hardware : s.skb.data (ea + 4) ≠ 6
  · rw [if_pos hardware]
    exact iff_of_true (Program.succeeds_pure _ _) (fun same => absurd same hardware)
  · rw [if_neg hardware, imp_iff_right (not_not.mp hardware), succeeds_load]
    refine and_congr Iff.rfl ?_
    by_cases protocol : s.skb.data (ea + 5) ≠ 4
    · rw [if_pos protocol]
      exact iff_of_true (Program.succeeds_pure _ _) (fun same => absurd same protocol)
    · rw [if_neg protocol, imp_iff_right (not_not.mp protocol)]
      cases method with
      | NAT25_INSERT =>
          dsimp only
          rw [Program.succeeds_get_bind, succeeds_stores, succeeds_loads, succeeds_load, succeeds_insert,
            MacAddr.length_eq]
          simp only [write_len, Program.succeeds_pure, reduceCtorEq, false_implies, and_true, forall_const]
          omega
      | NAT25_LOOKUP =>
          dsimp only
          rw [succeeds_loads, succeeds_load, succeeds_lookup (by omega) (fun found next len _ => ?_)]
          · exact ⟨fun all => ⟨by rintro ⟨⟩, fun _ => all.2.1⟩, fun fits =>
              have fits := fits.2 rfl
              ⟨by omega, fits, (by omega : ea + 24 ≤ s.skb.len)⟩⟩
          · rw [succeeds_loads, succeeds_stores, Memory.length_read, len]
            simp only [Program.succeeds_pure, and_true, ETH_ALEN]
            omega
      | _ => exact iff_of_true (Program.succeeds_pure _ _) ⟨by rintro ⟨⟩, by rintro ⟨⟩⟩

def DdpInside (skb : SkBuff) (method : Method) (ddp : Nat) : Prop :=
  (method = .NAT25_INSERT -> ddp + 10 ≤ skb.len) ∧ (method = .NAT25_LOOKUP -> ddp + 9 ≤ skb.len)

theorem handle_ddp_iff (eth : 14 ≤ s.skb.len) (method : Method) (ddp : Nat) :
    (handle_ddp host method ddp).Succeeds s <-> DdpInside s.skb method ddp := by
  unfold handle_ddp DdpInside
  cases method with
  | NAT25_INSERT =>
      dsimp only
      rw [succeeds_loads, succeeds_load, succeeds_insert]
      simp only [Program.succeeds_pure, reduceCtorEq, false_implies, and_true, forall_const]
      omega
  | NAT25_LOOKUP =>
      dsimp only
      rw [succeeds_loads, succeeds_load, succeeds_lookup (by omega)
        (fun _ _ _ _ => iff_of_true (Program.succeeds_pure _ _) trivial)]
      simp only [reduceCtorEq, false_implies, true_and, and_true, forall_const]
      omega
  | _ => exact iff_of_true (Program.succeeds_pure _ _) ⟨by rintro ⟨⟩, by rintro ⟨⟩⟩

end BrExt
end Rtl8821ce
