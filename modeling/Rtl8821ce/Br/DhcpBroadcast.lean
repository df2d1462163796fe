import Rtl8821ce.Br.Nat25
import Rtl8821ce.Library.OnesComplement

/-!
# The broadcast flag of DHCP requests

`dhcp_flag_bcast` sets the broadcast flag in a DHCP request of the bridge and changes the
UDP checksum with it.  It adds the whole flags field to the checksum where the difference
belongs, and it has no case for a datagram without a checksum.

The frame begins with an Ethernet header; the UDP header is behind the IP header, whose
length the frame tells.
-/

namespace Rtl8821ce
namespace BrExt

open Function (update_of_ne update_self)

def CLIENT_PORT : Nat := 68

def SERVER_PORT : Nat := 67

/-- The bytes of `DHCP_MAGIC` in network order. -/
def DHCP_MAGIC : List UInt8 := [0x63, 0x82, 0x53, 0x63]

/-- The byte of `BROADCAST_FLAG` that is not zero.  It is the first one of the field. -/
def BROADCAST_FLAG : UInt8 := 0x80

/-- `iph->ihl << 2` bytes behind the IP header. -/
def udph_at (data : Nat -> UInt8) : Nat := ETH_HLEN + (data ETH_HLEN).toNat % 16 * 4

/-- Write a 16-bit field without `htons`. -/
def Host.store16 (host : Host) (data : Nat -> UInt8) (place value : Nat) : Nat -> UInt8 :=
  if host.big_endian then
    Function.update (Function.update data place (UInt8.ofNat (value / 256))) (place + 1) (UInt8.ofNat value)
  else Function.update (Function.update data place (UInt8.ofNat value)) (place + 1) (UInt8.ofNat (value / 256))

/-- The new checksum, of the old one and the flags field as it is now. -/
def bcast_check (check flags : Nat) : Nat := 65535 - OnesComplement.fold 65536 (65535 - check + flags)

/-- `dhcpMessage` is behind the UDP header, its flags at 10 and its cookie at 236.  Whether
a bit of a field is set, and setting it, is a matter of one byte in either order. -/
def dhcp_flag_bcast (host : Host) (dhcp_bcst_disable : Bool) (data : Nat -> UInt8) : Nat -> UInt8 :=
  if dhcp_bcst_disable then data
  else if be16 data 12 ≠ 0x0800 then data
  else if data (ETH_HLEN + 9) ≠ 17 then data
  else
    let udph := udph_at data
    if be16 data udph ≠ CLIENT_PORT ∨ be16 data (udph + 2) ≠ SERVER_PORT then data
    else if Memory.read data (udph + 8 + 236) 4 ≠ DHCP_MAGIC then data
    else if data (udph + 8 + 10) &&& BROADCAST_FLAG ≠ 0 then data
    else
      let flagged := Function.update data (udph + 8 + 10) (data (udph + 8 + 10) ||| BROADCAST_FLAG)
      host.store16 flagged (udph + 6)
        (bcast_check (host.raw16 flagged (udph + 6)) (host.raw16 flagged (udph + 8 + 10)))

/-- The places of 16-bit numbers in network order; the last byte of an odd number of them
counts as if a zero followed. -/
def octet_weight (i : Nat) : Nat := if i % 2 = 0 then 256 else 1

def udp_sum (data : Nat -> UInt8) : Nat :=
  OnesComplement.total octet_weight UInt8.toNat data (ETH_HLEN + 12) 8 + 17 + be16 data (udph_at data + 4) +
    OnesComplement.total octet_weight UInt8.toNat data (udph_at data) (be16 data (udph_at data + 4))

def ChecksumCorrect (data : Nat -> UInt8) : Prop :=
  be16 data (udph_at data + 6) ≠ 0 ∧ OnesComplement.fold 65536 (udp_sum data) = 0xffff

/-- A DHCP request in an IPv4 datagram, with its broadcast flag clear.  Its checksum is
absent or correct. -/
structure DhcpRequest (data : Nat -> UInt8) : Prop where
  ipv4 : be16 data 12 = 0x0800 ∧ (data ETH_HLEN).toNat / 16 = 4
  header : 5 ≤ (data ETH_HLEN).toNat % 16
  udp : data (ETH_HLEN + 9) = 17
  ports : be16 data (udph_at data) = CLIENT_PORT ∧ be16 data (udph_at data + 2) = SERVER_PORT
  whole : 8 + 240 ≤ be16 data (udph_at data + 4)
  cookie : Memory.read data (udph_at data + 8 + 236) 4 = DHCP_MAGIC
  clear : data (udph_at data + 8 + 10) &&& BROADCAST_FLAG = 0
  checksum : be16 data (udph_at data + 6) ≠ 0 -> ChecksumCorrect data

/-- The flag is set, the checksum is what it was, and nothing else changes. -/
structure FlagSet (data after : Nat -> UInt8) : Prop where
  flag : after (udph_at data + 8 + 10) = data (udph_at data + 8 + 10) ||| BROADCAST_FLAG
  others : ∀ place, place ≠ udph_at data + 8 + 10 -> place ≠ udph_at data + 6 -> place ≠ udph_at data + 7 ->
    after place = data place
  checksum : if be16 data (udph_at data + 6) = 0 then be16 after (udph_at data + 6) = 0 else ChecksumCorrect after

theorem broadcast_bit (byte : UInt8) : byte &&& BROADCAST_FLAG = 0 <-> byte.toNat < 128 := by
  rcases byte with ⟨byte⟩
  revert byte
  decide +kernel

theorem broadcast_set (byte : UInt8) (clear : byte.toNat < 128) :
    (byte ||| BROADCAST_FLAG).toNat = byte.toNat + 128 := by
  rcases byte with ⟨byte⟩
  revert byte
  decide +kernel

/-- What a 16-bit number in the order of the host counts in a sum of numbers in network order. -/
def Host.scale (host : Host) : Nat := if host.big_endian then 1 else 256

theorem raw16_mod (host : Host) (data : Nat -> UInt8) (place : Nat) :
    host.scale * host.raw16 data place % 65535 = be16 data place % 65535 := by
  cases order : host.big_endian with
  | true => simp only [Host.scale, Host.raw16, order, if_true, Nat.one_mul]
  | false =>
      simp only [Host.scale, Host.raw16, order, Bool.false_eq_true, if_false, be16]
      omega

theorem raw16_lt (host : Host) (data : Nat -> UInt8) (place : Nat) : host.raw16 data place < 65536 := by
  have high := (data place).toNat_lt
  have low := (data (place + 1)).toNat_lt
  have network := be16_lt data place
  unfold Host.raw16
  split
  · exact network
  · omega

theorem raw16_eq_zero (host : Host) (data : Nat -> UInt8) (place : Nat) :
    host.raw16 data place = 0 <-> be16 data place = 0 := by
  unfold Host.raw16 be16
  split
  all_goals omega

theorem store16_mod (host : Host) (data : Nat -> UInt8) (place : Nat) {value : Nat} (small : value < 65536) :
    be16 (host.store16 data place value) place % 65535 = host.scale * value % 65535 ∧
      (be16 (host.store16 data place value) place = 0 <-> value = 0) := by
  have different : place ≠ place + 1 := by omega
  have high : (UInt8.ofNat (value / 256)).toNat = value / 256 := UInt8.toNat_ofNat_of_lt' (show value / 256 < 256 by omega)
  have low : (UInt8.ofNat value).toNat = value % 256 := UInt8.toNat_ofNat'
  cases order : host.big_endian with
  | true =>
      simp only [Host.scale, Host.store16, order, if_true, be16, update_self, Nat.one_mul,
        update_of_ne different, high, low]
      omega
  | false =>
      simp only [Host.scale, Host.store16, order, Bool.false_eq_true, if_false, be16, update_self,
        update_of_ne different, high, low]
      omega

theorem store16_other (host : Host) (data : Nat -> UInt8) {place other : Nat} (value : Nat) (first : other ≠ place)
    (second : other ≠ place + 1) : host.store16 data place value other = data other := by
  unfold Host.store16
  split
  all_goals rw [update_of_ne second, update_of_ne first]

theorem total_store16 (host : Host) (data : Nat -> UInt8) (value : Nat) {start length i : Nat}
    (inside : i + 1 < length) (even : i % 2 = 0) :
    OnesComplement.total octet_weight UInt8.toNat (host.store16 data (start + i) value) start length +
        be16 data (start + i) =
      OnesComplement.total octet_weight UInt8.toNat data start length +
        be16 (host.store16 data (start + i) value) (start + i) := by
  have different : start + i ≠ start + i + 1 := by omega
  have high : octet_weight i = 256 := if_pos even
  have low : octet_weight (i + 1) = 1 := if_neg (by omega)
  have field (first second : UInt8) :
      OnesComplement.total octet_weight UInt8.toNat
            (Function.update (Function.update data (start + i) first) (start + i + 1) second) start length +
          ((data (start + i)).toNat * 256 + (data (start + i + 1)).toNat) =
        OnesComplement.total octet_weight UInt8.toNat data start length + (first.toNat * 256 + second.toNat) := by
    have one := @OnesComplement.total_update _ octet_weight UInt8.toNat data start length i (by omega) first
    have two := @OnesComplement.total_update _ octet_weight UInt8.toNat (Function.update data (start + i) first)
      start length (i + 1) inside second
    rw [← Nat.add_assoc, update_of_ne different.symm, low] at two
    rw [high] at one
    omega
  unfold Host.store16 be16
  split
  all_goals
    rw [update_self, update_of_ne different, update_self]
    exact field _ _

theorem bcast_check_lt (check flags : Nat) : bcast_check check flags < 65536 := by
  unfold bcast_check
  omega

theorem bcast_check_mod {check : Nat} (flags : Nat) (small : check < 65536) :
    (bcast_check check flags + flags) % 65535 = check % 65535 := by
  have folded := @OnesComplement.fold_mod 65536 (65535 - check + flags) (by omega)
  have below := @OnesComplement.fold_lt 65536 (65535 - check + flags) (by omega)
  unfold bcast_check
  omega

theorem bcast_check_eq_zero {check flags : Nat} (small : check < 65536) (positive : 0 < flags) :
    bcast_check check flags = 0 <-> flags % 65535 = check % 65535 := by
  have folded := @OnesComplement.fold_mod 65536 (65535 - check + flags) (by omega)
  have below := @OnesComplement.fold_lt 65536 (65535 - check + flags) (by omega)
  have above := @OnesComplement.fold_pos 65536 (65535 - check + flags) (by omega) (by omega)
  unfold bcast_check
  omega

/-! ## The request with its flag set -/

section request

variable {host : Host} {data : Nat -> UInt8}

def flagged (data : Nat -> UInt8) : Nat -> UInt8 :=
  Function.update data (udph_at data + 8 + 10) (data (udph_at data + 8 + 10) ||| BROADCAST_FLAG)

theorem flagged_other {place : Nat} (other : place ≠ udph_at data + 8 + 10) : flagged data place = data place :=
  update_of_ne other _ _

theorem flagged_be16 {place : Nat} (first : place ≠ udph_at data + 8 + 10) (second : place + 1 ≠ udph_at data + 8 + 10) :
    be16 (flagged data) place = be16 data place := by
  rw [be16, be16, flagged_other first, flagged_other second]

theorem flagged_raw16 {place : Nat} (first : place ≠ udph_at data + 8 + 10)
    (second : place + 1 ≠ udph_at data + 8 + 10) : host.raw16 (flagged data) place = host.raw16 data place := by
  rw [Host.raw16, Host.raw16, flagged_be16 first second, flagged_other first, flagged_other second]

theorem flagged_flags (clear : data (udph_at data + 8 + 10) &&& BROADCAST_FLAG = 0) :
    be16 (flagged data) (udph_at data + 8 + 10) = be16 data (udph_at data + 8 + 10) + 0x8000 := by
  have set := broadcast_set _ ((broadcast_bit _).mp clear)
  rw [be16, be16, flagged_other (by omega : udph_at data + 8 + 10 + 1 ≠ _), flagged, update_self, set]
  omega

theorem flags_mod (clear : data (udph_at data + 8 + 10) &&& BROADCAST_FLAG = 0) :
    be16 data (udph_at data + 8 + 10) < 0x8000 := by
  have small := (broadcast_bit _).mp clear
  have low := (data (udph_at data + 8 + 10 + 1)).toNat_lt
  rw [be16]
  omega

/-- The frame after the function, when it sets the flag. -/
def flag_set (host : Host) (data : Nat -> UInt8) : Nat -> UInt8 :=
  host.store16 (flagged data) (udph_at data + 6)
    (bcast_check (host.raw16 data (udph_at data + 6)) (host.raw16 (flagged data) (udph_at data + 8 + 10)))

theorem dhcp_flag_bcast_eq (request : DhcpRequest data) : dhcp_flag_bcast host false data = flag_set host data := by
  have check : host.raw16 (flagged data) (udph_at data + 6) = host.raw16 data (udph_at data + 6) :=
    flagged_raw16 (by omega) (by omega)
  unfold dhcp_flag_bcast
  rw [if_neg Bool.false_ne_true, if_neg (not_not.mpr request.ipv4.1), if_neg (not_not.mpr request.udp)]
  simp only [if_neg (not_or.mpr ⟨not_not.mpr request.ports.1, not_not.mpr request.ports.2⟩),
    if_neg (not_not.mpr request.cookie), if_neg (not_not.mpr request.clear)]
  rw [flag_set, ← check]
  rfl

theorem flag_set_other {place : Nat} (flags : place ≠ udph_at data + 8 + 10) (first : place ≠ udph_at data + 6)
    (second : place ≠ udph_at data + 7) : flag_set host data place = data place := by
  rw [flag_set, store16_other host _ _ first second, flagged_other flags]

theorem udph_at_ge (request : DhcpRequest data) : 34 ≤ udph_at data := by
  have header : 5 ≤ (data 14).toNat % 16 := request.header
  change 34 ≤ 14 + (data 14).toNat % 16 * 4
  omega

theorem udph_at_flag_set (request : DhcpRequest data) : udph_at (flag_set host data) = udph_at data := by
  have behind := udph_at_ge request
  have first : flag_set host data ETH_HLEN = data ETH_HLEN := by
    unfold ETH_HLEN
    exact flag_set_other (by omega) (by omega) (by omega)
  rw [udph_at, first, udph_at]

theorem length_flag_set : be16 (flag_set host data) (udph_at data + 4) = be16 data (udph_at data + 4) := by
  rw [be16, be16, flag_set_other (by omega) (by omega) (by omega), flag_set_other (by omega) (by omega) (by omega)]

theorem udp_sum_flag_set (request : DhcpRequest data) :
    udp_sum (flag_set host data) + be16 data (udph_at data + 6) =
      udp_sum data + be16 (flag_set host data) (udph_at data + 6) + 0x8000 := by
  have behind := udph_at_ge request
  have whole := request.whole
  have pseudo : OnesComplement.total octet_weight UInt8.toNat (flag_set host data) (ETH_HLEN + 12) 8 =
      OnesComplement.total octet_weight UInt8.toNat data (ETH_HLEN + 12) 8 := by
    refine OnesComplement.total_congr (fun i inside => ?_)
    unfold ETH_HLEN
    exact flag_set_other (by omega) (by omega) (by omega)
  have flags : OnesComplement.total octet_weight UInt8.toNat (flagged data) (udph_at data) (be16 data (udph_at data + 4)) =
      OnesComplement.total octet_weight UInt8.toNat data (udph_at data) (be16 data (udph_at data + 4)) + 0x8000 := by
    have changed := @OnesComplement.total_update _ octet_weight UInt8.toNat data (udph_at data)
      (be16 data (udph_at data + 4)) 18 (by omega) (data (udph_at data + 8 + 10) ||| BROADCAST_FLAG)
    have set := broadcast_set _ ((broadcast_bit _).mp request.clear)
    have weight : octet_weight 18 = 256 := rfl
    have place : udph_at data + 18 = udph_at data + 8 + 10 := rfl
    rw [weight, place, set] at changed
    unfold flagged
    omega
  have check := @total_store16 host (flagged data)
    (bcast_check (host.raw16 data (udph_at data + 6)) (host.raw16 (flagged data) (udph_at data + 8 + 10)))
    (udph_at data) (be16 data (udph_at data + 4)) 6 (by omega) rfl
  rw [flagged_be16 (by omega) (by omega), flags] at check
  unfold udp_sum
  rw [udph_at_flag_set request, length_flag_set, pseudo]
  unfold flag_set at *
  omega

theorem check_flag_set (request : DhcpRequest data) :
    (be16 (flag_set host data) (udph_at data + 6) + (be16 data (udph_at data + 8 + 10) + 0x8000)) % 65535 =
        be16 data (udph_at data + 6) % 65535 ∧
      (be16 (flag_set host data) (udph_at data + 6) = 0 <->
        (be16 data (udph_at data + 8 + 10) + 0x8000) % 65535 = be16 data (udph_at data + 6) % 65535) := by
  have old := raw16_lt host data (udph_at data + 6)
  have check := raw16_mod host data (udph_at data + 6)
  have flags := raw16_mod host (flagged data) (udph_at data + 8 + 10)
  rw [flagged_flags request.clear] at flags
  have positive : 0 < host.raw16 (flagged data) (udph_at data + 8 + 10) := by
    refine Nat.pos_of_ne_zero (fun none => ?_)
    have set := @flagged_flags data request.clear
    rw [(raw16_eq_zero host _ _).mp none] at set
    omega
  have stored := store16_mod host (flagged data) (udph_at data + 6)
    (bcast_check_lt (host.raw16 data (udph_at data + 6)) (host.raw16 (flagged data) (udph_at data + 8 + 10)))
  have mod := bcast_check_mod (host.raw16 (flagged data) (udph_at data + 8 + 10)) old
  have zero := bcast_check_eq_zero old positive
  rw [show host.store16 (flagged data) (udph_at data + 6) _ = flag_set host data from rfl] at stored
  rw [stored.2, zero]
  have scale : host.scale = 1 ∨ host.scale = 256 := by
    unfold Host.scale
    split
    · exact Or.inl rfl
    · exact Or.inr rfl
  rcases scale with one | swapped
  · rw [one] at check flags stored
    omega
  · rw [swapped] at check flags stored
    omega

theorem fold_udp_sum (data : Nat -> UInt8) :
    OnesComplement.fold 65536 (udp_sum data) = 0xffff <-> udp_sum data % 65535 = 0 := by
  have positive : 0 < udp_sum data := by
    unfold udp_sum
    omega
  rw [← OnesComplement.fold_mod (show 2 ≤ 65536 by decide)]
  exact OnesComplement.eq_pred_iff (by decide) (OnesComplement.fold_lt (by decide))
    (OnesComplement.fold_pos (by decide) positive)

/-- The checksum stays correct exactly when no other flag is set and the new checksum is
not zero, and an absent one stays absent exactly when all other flags are set. -/
theorem dhcp_flag_bcast_checksum_iff (host : Host) (data : Nat -> UInt8) (request : DhcpRequest data) :
    FlagSet data (dhcp_flag_bcast host false data) <->
      if be16 data (udph_at data + 6) = 0 then be16 data (udph_at data + 8 + 10) = 0x7fff
      else be16 data (udph_at data + 8 + 10) = 0 ∧ be16 data (udph_at data + 6) ≠ 0x8000 := by
  have check := @check_flag_set host data request
  have small := flags_mod request.clear
  have below := be16_lt data (udph_at data + 6)
  have kept : FlagSet data (flag_set host data) <->
      if be16 data (udph_at data + 6) = 0 then be16 (flag_set host data) (udph_at data + 6) = 0
      else ChecksumCorrect (flag_set host data) := by
    refine ⟨fun set => set.checksum, fun checksum => ⟨?_, fun place => flag_set_other, checksum⟩⟩
    rw [flag_set, store16_other host _ _ (by omega) (by omega), flagged, update_self]
  rw [dhcp_flag_bcast_eq request, kept]
  split
  case isTrue absent => omega
  case isFalse present =>
    have correct := (fold_udp_sum data).mp (request.checksum present).2
    have sum := @udp_sum_flag_set host data request
    rw [ChecksumCorrect, fold_udp_sum, udph_at_flag_set request]
    omega

end request

/-- A request without IP options, with these flags and this checksum. -/
def test_request (flags check : List UInt8) (place : Nat) : UInt8 :=
  (List.lookup place [(12, 0x08), (14, 0x45), (23, 17), (35, 68), (37, 67), (39, 248), (40, check.headD 0),
    (41, check.getD 1 0), (52, flags.headD 0), (53, flags.getD 1 0), (278, 0x63), (279, 0x82), (280, 0x53),
    (281, 0x63)]).getD 0

def test_bridge_host : Host where
  big_endian := false
  ipx := false
  jiffies := 0
  hz := 250
  rtw_malloc := true
  br_netdev := none
  stack := fun _ => 0
  csum_ipv6_magic := fun _ _ _ _ => 0

theorem DhcpRequest.of_sum {data : Nat -> UInt8}
    (fields : (be16 data 12 = 0x0800 ∧ (data ETH_HLEN).toNat / 16 = 4 ∧ 5 ≤ (data ETH_HLEN).toNat % 16 ∧
        data (ETH_HLEN + 9) = 17) ∧
      (be16 data (udph_at data) = CLIENT_PORT ∧ be16 data (udph_at data + 2) = SERVER_PORT ∧
        8 + 240 ≤ be16 data (udph_at data + 4) ∧ Memory.read data (udph_at data + 8 + 236) 4 = DHCP_MAGIC ∧
        data (udph_at data + 8 + 10) &&& BROADCAST_FLAG = 0) ∧
      (be16 data (udph_at data + 6) ≠ 0 -> udp_sum data % 65535 = 0)) : DhcpRequest data := by
  obtain ⟨⟨type, version, header, udp⟩, ⟨source, dest, whole, cookie, clear⟩, checksum⟩ := fields
  exact ⟨⟨type, version⟩, header, udp, ⟨source, dest⟩, whole, cookie, clear,
    fun present => ⟨present, (fold_udp_sum data).mpr (checksum present)⟩⟩

/-- A request without other flags keeps its checksum. -/
theorem dhcp_flag_bcast_checksum_kept :
    FlagSet (test_request [0, 0] [0x46, 0x92]) (dhcp_flag_bcast test_bridge_host false (test_request [0, 0] [0x46, 0x92])) :=
  (dhcp_flag_bcast_checksum_iff test_bridge_host _
    (.of_sum (by decide +kernel))).mpr (by decide +kernel)

/-- Another flag makes the checksum wrong, and a request without checksum gets one. -/
theorem dhcp_flag_bcast_checksum_lost :
    (DhcpRequest (test_request [0, 1] [0x46, 0x91]) ∧
      ¬ FlagSet (test_request [0, 1] [0x46, 0x91])
        (dhcp_flag_bcast test_bridge_host false (test_request [0, 1] [0x46, 0x91]))) ∧
    (DhcpRequest (test_request [0, 0] [0, 0]) ∧
      ¬ FlagSet (test_request [0, 0] [0, 0])
        (dhcp_flag_bcast test_bridge_host false (test_request [0, 0] [0, 0]))) := by
  have flagged_request : DhcpRequest (test_request [0, 1] [0x46, 0x91]) := .of_sum (by decide +kernel)
  have plain_request : DhcpRequest (test_request [0, 0] [0, 0]) := .of_sum (by decide +kernel)
  refine ⟨⟨flagged_request, fun set => ?_⟩, plain_request, fun set => ?_⟩
  · -- the sum is no multiple of 65535 any more
    have before : be16 (test_request [0, 1] [0x46, 0x91]) (udph_at (test_request [0, 1] [0x46, 0x91]) + 6) = 0x4691 ∧
        be16 (test_request [0, 1] [0x46, 0x91]) (udph_at (test_request [0, 1] [0x46, 0x91]) + 8 + 10) = 1 ∧
        udp_sum (test_request [0, 1] [0x46, 0x91]) % 65535 = 0 := by decide +kernel
    have correct := set.checksum
    have sum := @udp_sum_flag_set test_bridge_host _ flagged_request
    have check := (@check_flag_set test_bridge_host _ flagged_request).1
    rw [dhcp_flag_bcast_eq flagged_request, if_neg (by rw [before.1]; decide), ChecksumCorrect, fold_udp_sum] at correct
    rw [before.1] at sum check
    rw [before.2.1] at check
    omega
  · -- the new checksum is not zero
    have before : be16 (test_request [0, 0] [0, 0]) (udph_at (test_request [0, 0] [0, 0]) + 6) = 0 ∧
        be16 (test_request [0, 0] [0, 0]) (udph_at (test_request [0, 0] [0, 0]) + 8 + 10) = 0 := by decide +kernel
    have absent := set.checksum
    have check := (@check_flag_set test_bridge_host _ plain_request).2
    rw [dhcp_flag_bcast_eq plain_request, if_pos before.1, check, before.1, before.2] at absent
    exact absurd absent (by decide)

end BrExt
end Rtl8821ce
