import Rtl8821ce.Security.Ccmp

/-!
# Opening what was sealed

For a header whose length is the one that its frame control says, `aes_decipher`
accepts and restores what `aes_cipher` made.  It accepts a frame only when the MIC
of the frame is the one of its unmasked payload.
-/

namespace Rtl8821ce

theorem le16_to_cpu_and (pbuf : List UInt8) {mask : Nat} (small : mask < 256) :
    le16_to_cpu pbuf &&& mask = (pbuf.getD 0 0).toNat &&& mask := by
  have lowByte : le16_to_cpu pbuf % 2 ^ 8 = (pbuf.getD 0 0).toNat := by
    have bound := (pbuf.getD 0 0).toNat_lt
    unfold le16_to_cpu
    omega
  have maskBits : mask = (2 ^ 8 - 1) &&& mask := by
    rw [Nat.and_comm, Nat.and_two_pow_sub_one_eq_mod, Nat.mod_eq_of_lt small]
  rw [maskBits, ← Nat.and_assoc, ← Nat.and_assoc, Nat.and_two_pow_sub_one_eq_mod, lowByte,
    Nat.and_two_pow_sub_one_eq_mod, Nat.mod_eq_of_lt (pbuf.getD 0 0).toNat_lt]

section RoundTrip

variable (CONFIG_IEEE80211W : Bool) (aes128k128d : List UInt8 -> Block -> Block)

def carried_mic (key : List UInt8) (hdrlen : Nat) (pframe : Nat -> UInt8) (plen : Nat) : List UInt8 :=
  let header := ccmp_header pframe hdrlen
  let pn_vector := pn_vector_at pframe header.hdrlen
  List.zipWith (fun a b => a ^^^ b)
    ((key_block CONFIG_IEEE80211W aes128k128d key header pn_vector pframe 0).toList.take 8)
    (Memory.read pframe (header.hdrlen + 8 + plen) 8)

/-- The CBC-MAC that `aes_cipher` computes for a frame. -/
def computed_mic (key : List UInt8) (hdrlen : Nat) (pframe : Nat -> UInt8) (plen : Nat) : List UInt8 :=
  let header := ccmp_header pframe hdrlen
  let pn_vector := pn_vector_at pframe header.hdrlen
  (calculate_mic CONFIG_IEEE80211W aes128k128d key header pn_vector pframe plen).toList.take 8

variable {CONFIG_IEEE80211W aes128k128d} {key : List UInt8}

theorem zipWith_xor_eq_iff {stream first second : List UInt8}
    (firstLength : first.length = stream.length) (secondLength : second.length = stream.length) :
    first = List.zipWith (fun a b => a ^^^ b) stream second ↔
      List.zipWith (fun a b => a ^^^ b) stream first = second := by
  have cancel : ∀ cells : List UInt8, cells.length = stream.length ->
      List.zipWith (fun a b => a ^^^ b) stream
        (List.zipWith (fun a b => a ^^^ b) stream cells) = cells := by
    intro cells length
    apply List.ext_getElem
    · rw [List.length_zipWith, List.length_zipWith]
      omega
    · intro i masked plain
      rw [List.getElem_zipWith, List.getElem_zipWith, xor_involutive]
  constructor
  · intro isMasked
    rw [isMasked, cancel second secondLength]
  · intro isPlain
    rw [← isPlain, cancel first firstLength]

theorem decrypted_before {hdrlen i : Nat} {pframe : Nat -> UInt8} (plen : Nat)
    (before : i < (ccmp_header pframe hdrlen).hdrlen + 8) :
    decrypted CONFIG_IEEE80211W aes128k128d key hdrlen pframe plen i = pframe i :=
  Keystream.mask_of_outside _ _ (Or.inl before)

theorem ccmp_header_decrypted (hdrlen plen : Nat) (pframe : Nat -> UInt8) :
    ccmp_header (decrypted CONFIG_IEEE80211W aes128k128d key hdrlen pframe plen) hdrlen =
      ccmp_header pframe hdrlen :=
  ccmp_header_congr (fun _ inside => decrypted_before plen (by omega)) hdrlen

theorem pn_vector_at_decrypted (hdrlen plen : Nat) (pframe : Nat -> UInt8) :
    pn_vector_at (decrypted CONFIG_IEEE80211W aes128k128d key hdrlen pframe plen)
        (ccmp_header pframe hdrlen).hdrlen =
      pn_vector_at pframe (ccmp_header pframe hdrlen).hdrlen :=
  pn_vector_at_congr (fun _ before => decrypted_before plen before)

theorem read_mic_decrypted (hdrlen plen : Nat) (pframe : Nat -> UInt8) :
    Memory.read (decrypted CONFIG_IEEE80211W aes128k128d key hdrlen pframe plen)
        ((ccmp_header pframe hdrlen).hdrlen + 8 + plen) 8 =
      Memory.read pframe ((ccmp_header pframe hdrlen).hdrlen + 8 + plen) 8 :=
  Keystream.read_mask_of_disjoint _ _ (Or.inr (Nat.le_refl _))

theorem carried_mic_decrypted {hdrlen plen : Nat} (long : 24 ≤ hdrlen) (pframe : Nat -> UInt8) :
    carried_mic CONFIG_IEEE80211W aes128k128d key hdrlen
        (decrypted CONFIG_IEEE80211W aes128k128d key hdrlen pframe plen) plen =
      carried_mic CONFIG_IEEE80211W aes128k128d key hdrlen pframe plen := by
  have longHeader := Nat.le_trans long (ccmp_header_hdrlen_ge pframe hdrlen)
  unfold carried_mic
  dsimp only
  rw [ccmp_header_decrypted, pn_vector_at_decrypted, read_mic_decrypted,
    key_block_congr (fun i inside => decrypted_before plen (by omega))]

theorem carried_mic_eq_iff (hdrlen plen : Nat) (pframe : Nat -> UInt8) :
    carried_mic CONFIG_IEEE80211W aes128k128d key hdrlen pframe plen =
        computed_mic CONFIG_IEEE80211W aes128k128d key hdrlen pframe plen ↔
      Memory.read pframe ((ccmp_header pframe hdrlen).hdrlen + 8 + plen) 8 =
        mic_field CONFIG_IEEE80211W aes128k128d key (ccmp_header pframe hdrlen)
          (pn_vector_at pframe (ccmp_header pframe hdrlen).hdrlen) pframe plen := by
  unfold carried_mic computed_mic mic_field
  dsimp only
  rw [zipWith_xor_eq_iff]
  · rw [Memory.length_read, length_toList_take _ (by decide)]
  · rw [length_toList_take _ (by decide), length_toList_take _ (by decide)]

theorem aes_decipher_success_iff {hdrlen plen : Nat} (long : 24 ≤ hdrlen) (message pframe : Nat -> UInt8)
    (fits : (ccmp_header pframe hdrlen).hdrlen + plen + 16 ≤ MAX_MSG_SIZE) {after : Deciphered}
    (deciphered : aes_decipher CONFIG_IEEE80211W aes128k128d key hdrlen message pframe (plen + 8) =
      some after) :
    (after.res = ._SUCCESS ↔
      carried_mic CONFIG_IEEE80211W aes128k128d key hdrlen pframe plen =
        computed_mic CONFIG_IEEE80211W aes128k128d key hdrlen after.pframe plen) := by
  rcases @aes_decipher_eq CONFIG_IEEE80211W aes128k128d key hdrlen plen long message pframe fits with ⟨left, run⟩
  rw [deciphered] at run
  rw [Option.some.inj run]
  dsimp only
  rw [← carried_mic_decrypted long, carried_mic_eq_iff, ccmp_header_decrypted,
    pn_vector_at_decrypted, read_mic_decrypted]
  split
  case isTrue same => exact ⟨fun _ => same, fun _ => rfl⟩
  case isFalse different => exact ⟨nofun, fun same => absurd same different⟩

theorem aes_decipher_has_mic {hdrlen plen : Nat} {message pframe : Nat -> UInt8} {after : Deciphered}
    (deciphered : aes_decipher CONFIG_IEEE80211W aes128k128d key hdrlen message pframe plen =
      some after) : 8 ≤ plen := by
  by_contra less
  unfold aes_decipher at deciphered
  rw [if_pos (Nat.lt_of_not_le less)] at deciphered
  exact nomatch deciphered

/-- What an accepted frame looks like: its payload was unmasked, and then its MIC is the one
that it carries. -/
theorem aes_decipher_accepted {hdrlen plen : Nat} (long : 24 ≤ hdrlen) {message pframe : Nat -> UInt8}
    (fits : (ccmp_header pframe hdrlen).hdrlen + plen + 8 ≤ MAX_MSG_SIZE) {after : Deciphered}
    (deciphered : aes_decipher CONFIG_IEEE80211W aes128k128d key hdrlen message pframe plen =
      some after)
    (passed : after.res ≠ ._FAIL) :
    8 ≤ plen ∧
      after.pframe = decrypted CONFIG_IEEE80211W aes128k128d key hdrlen pframe (plen - 8) ∧
      carried_mic CONFIG_IEEE80211W aes128k128d key hdrlen after.pframe (plen - 8) =
        computed_mic CONFIG_IEEE80211W aes128k128d key hdrlen after.pframe (plen - 8) := by
  have hasMic := aes_decipher_has_mic deciphered
  rw [← Nat.sub_add_cancel hasMic] at deciphered
  have fitsPayload : (ccmp_header pframe hdrlen).hdrlen + (plen - 8) + 16 ≤ MAX_MSG_SIZE := by omega
  rcases @aes_decipher_eq CONFIG_IEEE80211W aes128k128d key hdrlen (plen - 8) long message pframe
    fitsPayload with ⟨left, run⟩
  rw [deciphered] at run
  have isAfter := Option.some.inj run
  have plain : after.pframe =
      decrypted CONFIG_IEEE80211W aes128k128d key hdrlen pframe (plen - 8) := by rw [isAfter]
  have success : after.res = ._SUCCESS := by
    rw [isAfter] at passed ⊢
    dsimp only at passed ⊢
    split at passed
    case isTrue same => exact if_pos same
    case isFalse different => exact absurd rfl passed
  have matching := (aes_decipher_success_iff long message pframe fitsPayload deciphered).mp success
  refine ⟨hasMic, plain, ?_⟩
  rw [← matching, plain, carried_mic_decrypted long]

end RoundTrip

end Rtl8821ce
