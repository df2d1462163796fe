import Rtl8821ce.Security.AesSiv

/-!
# Peering frames that follow the network

`rtw_mpm_tx_ies_sync_bss` replaces the elements of a peering frame by those of the network.
A protected frame is decrypted and protected again with its new body.  The frame is the list
of its bytes, `mic_ie` the place of its MIC element, and there is memory.
-/

namespace Rtl8821ce

namespace Mpm

open Siv

def WLAN_EID_SSID : UInt8 := 0
def WLAN_EID_DS_PARAMS : UInt8 := 3
def WLAN_EID_TIM : UInt8 := 5
def WLAN_EID_MESH_CONFIG : UInt8 := 113
def WLAN_EID_MPM : UInt8 := 117
def WLAN_EID_AMPE : UInt8 := 139
def WLAN_EID_MIC : UInt8 := 140

/-- `struct mesh_plink_ent`: the keys and what the last AMPE element said. -/
structure Plink where
  addr : List UInt8
  aek : List UInt8
  sel_pcs : List UInt8
  l_nonce : List UInt8
  p_nonce : List UInt8

def rtw_set_ie (index : UInt8) (source : List UInt8) : List UInt8 := index :: UInt8.ofNat source.length :: source

section ampe

variable (aes_128_encrypt : List UInt8 -> Block -> Block) (adapter_mac_addr : List UInt8) (plink : Plink)

/-- The bytes at `ampe_buf`, when the answer is `_SUCCESS`.  `fbody` ends before the MIC element
`mic_ie`, which the rest of the frame follows. -/
def rtw_mpm_ampe_dec (fbody mic_ie : List UInt8) : Option (List UInt8) :=
  let iv_crypt := mic_ie.drop 2
  let verified := aes_siv_decrypt aes_128_encrypt plink.aek iv_crypt [adapter_mac_addr, plink.addr, fbody]
  if verified.1 ≠ 0 then none
  else verified.2.filter fun ampe_buf =>
    ampe_buf.getD 0 0 = WLAN_EID_AMPE && AES_BLOCK_SIZE + 2 + (ampe_buf.getD 1 0).toNat ≤ iv_crypt.length

/-- The bytes behind the head of the MIC element. -/
def rtw_mpm_ampe_enc (fbody ampe_buf : List UInt8) (inverse : Bool) : Option (List UInt8) :=
  let ampe_ie := ampe_buf.take ((ampe_buf.getD 1 0).toNat + 2)
  aes_siv_encrypt aes_128_encrypt plink.aek ampe_ie
    (if inverse then [plink.addr, adapter_mac_addr, fbody] else [adapter_mac_addr, plink.addr, fbody])

/-- The elements both loops go over: up to the first one that is not complete. -/
def tlv_ies : Nat -> List UInt8 -> List (UInt8 × List UInt8)
  | fuel + 1, id :: elen :: pos =>
      if pos.length < elen.toNat then []
      else (id, pos.take elen.toNat) :: tlv_ies fuel (pos.drop elen.toNat)
  | _, _ => []

def follows (id : UInt8) : Bool := id != WLAN_EID_SSID && id != WLAN_EID_DS_PARAMS && id != WLAN_EID_TIM

/-- A pass of the first loop. -/
def count_ie (new_len : Nat) (ie : UInt8 × List UInt8) : Nat :=
  if follows ie.1 then new_len + (2 + ie.2.length) else new_len

/-- A pass of the second loop, behind the bytes written. -/
def build_ie (mpm_ie fpos : List UInt8) (ie : UInt8 × List UInt8) : List UInt8 :=
  if follows ie.1 then
    let fpos := fpos ++ rtw_set_ie ie.1 ie.2
    if ie.1 = WLAN_EID_MESH_CONFIG then fpos ++ rtw_set_ie WLAN_EID_MPM mpm_ie else fpos
  else fpos

def new_ies (network mpm_ie : List UInt8) : List UInt8 :=
  (tlv_ies network.length network).foldl (build_ie mpm_ie) []

/-- The entry, the bytes written to the new buffer, and the size of this.  The frame is its
header, the fixed fields and the elements; the MIC element is behind some of these. -/
def rtw_mpm_tx_ies_sync_bss (network hdr fixed tlvs mpm_ie : List UInt8) (mic_ie : Option Nat) :
    Option (Plink × List UInt8 × Nat) :=
  let ies := tlv_ies network.length network
  let new_len := ies.foldl count_ie (hdr.length + fixed.length) + (mpm_ie.length + 2)
  let new_ies := new_ies network mpm_ie
  match mic_ie with
  | none => some (plink, hdr ++ (fixed ++ new_ies), new_len)
  | some mic_ie => do
      let ampe_buf <- rtw_mpm_ampe_dec aes_128_encrypt adapter_mac_addr plink (fixed ++ tlvs.take mic_ie) (tlvs.drop mic_ie)
      let plink := if 68 ≤ (ampe_buf.getD 1 0).toNat then
          { plink with
            sel_pcs := (ampe_buf.drop 2).take 4
            l_nonce := (ampe_buf.drop 6).take 32
            p_nonce := (ampe_buf.drop 38).take 32 }
        else plink
      let crypt <- rtw_mpm_ampe_enc aes_128_encrypt adapter_mac_addr plink (fixed ++ new_ies) ampe_buf false
      some (plink, hdr ++ (fixed ++ new_ies ++ ([WLAN_EID_MIC, UInt8.ofNat AES_BLOCK_SIZE] ++ crypt)),
        new_len + (AES_BLOCK_SIZE + 2 + (tlvs.length - (mic_ie + 2 + AES_BLOCK_SIZE))))

end ampe

section

variable {cipher : List UInt8 -> Block -> Block} {adapter_mac_addr fbody mic_ie ampe_buf crypt : List UInt8}
  {plink : Plink}

/-- A complete AMPE element is accepted, and it must have been protected with the same body. -/
theorem rtw_mpm_ampe_dec_iff :
    rtw_mpm_ampe_dec cipher adapter_mac_addr plink fbody mic_ie = some ampe_buf <->
      aes_siv_encrypt cipher plink.aek ampe_buf [adapter_mac_addr, plink.addr, fbody] = some (mic_ie.drop 2) ∧
      ampe_buf.getD 0 0 = WLAN_EID_AMPE ∧ (ampe_buf.getD 1 0).toNat + 2 ≤ ampe_buf.length := by
  have whole : aes_siv_encrypt cipher plink.aek ampe_buf [adapter_mac_addr, plink.addr, fbody] =
      some (mic_ie.drop 2) -> (mic_ie.drop 2).length = AES_BLOCK_SIZE + ampe_buf.length := length_aes_siv_encrypt
  rw [← aes_siv_decrypt_iff_encrypt] at whole ⊢
  unfold rtw_mpm_ampe_dec
  dsimp only
  generalize aes_siv_decrypt cipher plink.aek (mic_ie.drop 2) [adapter_mac_addr, plink.addr, fbody] = verified
    at whole ⊢
  rcases verified with ⟨ret, out⟩
  by_cases refused : ret = 0
  · rw [if_neg (not_not.mpr refused), Option.filter_eq_some_iff, refused, Prod.mk.injEq, eq_self, true_and]
    refine and_congr_right fun written => ?_
    rw [Bool.and_eq_true, decide_eq_true_eq, decide_eq_true_eq, whole (by rw [refused]; exact congrArg (Prod.mk 0) written)]
    exact and_congr_right fun _ => by omega
  · rw [if_pos refused, Prod.mk.injEq]
    exact iff_of_false (by rintro ⟨⟩) (fun facts => refused facts.1.1)

theorem exists_ampe_enc (cipher : List UInt8 -> Block -> Block) (adapter_mac_addr : List UInt8)
    (plink : Plink) (fbody ampe_buf : List UInt8) :
    ∃ crypt, rtw_mpm_ampe_enc cipher adapter_mac_addr plink fbody ampe_buf false = some crypt := by
  simp [rtw_mpm_ampe_enc, aes_siv_encrypt]

theorem length_build_ie (mpm_ie fpos : List UInt8) (new_len : Nat) (ie : UInt8 × List UInt8) :
    (build_ie mpm_ie fpos ie).length + new_len = fpos.length + count_ie new_len ie +
      (if ie.1 = WLAN_EID_MESH_CONFIG then mpm_ie.length + 2 else 0) := by
  unfold build_ie count_ie rtw_set_ie
  by_cases config : ie.1 = WLAN_EID_MESH_CONFIG
  · have kept : follows ie.1 = true := by
      rw [config]
      decide
    rw [if_pos kept, if_pos kept, if_pos config, if_pos config]
    simp only [List.length_append, List.length_cons]
    omega
  · rw [if_neg config, if_neg config]
    split
    · simp only [List.length_append, List.length_cons]
      omega
    · rfl

/-- What the two loops write and count. -/
theorem length_foldl_build_ie (mpm_ie : List UInt8) (ies : List (UInt8 × List UInt8)) :
    ∀ (fpos : List UInt8) (new_len : Nat), (ies.foldl (build_ie mpm_ie) fpos).length + new_len =
      fpos.length + ies.foldl count_ie new_len +
        ies.countP (fun ie => ie.1 = WLAN_EID_MESH_CONFIG) * (mpm_ie.length + 2) := by
  induction ies with
  | nil => exact fun fpos new_len => by simp
  | cons ie ies ih =>
      intro fpos new_len
      have rest := ih (build_ie mpm_ie fpos ie) (count_ie new_len ie)
      have first := length_build_ie mpm_ie fpos new_len ie
      rw [List.foldl_cons, List.foldl_cons, List.countP_cons, Nat.add_mul]
      by_cases config : ie.1 = WLAN_EID_MESH_CONFIG
      · rw [if_pos config] at first
        rw [if_pos (decide_eq_true config)]
        omega
      · rw [if_neg config] at first
        rw [if_neg (by rw [decide_eq_true_eq]; exact config)]
        omega

section synced

variable (cipher : List UInt8 -> Block -> Block) (adapter_mac_addr : List UInt8) (plink : Plink)
  (network hdr fixed tlvs mpm_ie : List UInt8)

/-- The bytes decrypted behind the AMPE element. -/
def behind_ampe (mic_ie : Option Nat) : Nat :=
  (mic_ie.bind fun mic_ie =>
    rtw_mpm_ampe_dec cipher adapter_mac_addr plink (fixed ++ tlvs.take mic_ie) (tlvs.drop mic_ie)).elim 0
    fun ampe_buf => ampe_buf.length - ((ampe_buf.getD 1 0).toNat + 2)

def config_count : Nat := (tlv_ies network.length network).countP (fun ie => ie.1 = WLAN_EID_MESH_CONFIG)

/-- What is written, against the size of the buffer: an element of the entry for each Mesh
Configuration element, where one is counted, and nothing for the bytes behind the AMPE element. -/
theorem synced_length (mic_ie : Option Nat) :
    match rtw_mpm_tx_ies_sync_bss cipher adapter_mac_addr plink network hdr fixed tlvs mpm_ie mic_ie with
    | none => True
    | some (_, nbuf, nlen) =>
        nbuf.length + (mpm_ie.length + 2) + behind_ampe cipher adapter_mac_addr plink fixed tlvs mic_ie =
          nlen + config_count network * (mpm_ie.length + 2) := by
  have counted := length_foldl_build_ie mpm_ie (tlv_ies network.length network) [] (hdr.length + fixed.length)
  change (new_ies network mpm_ie).length + _ = _ + config_count network * _ at counted
  rw [List.length_nil] at counted
  unfold rtw_mpm_tx_ies_sync_bss behind_ampe
  dsimp only
  cases mic_ie with
  | none =>
      dsimp only [Option.bind_none, Option.elim_none]
      rw [List.length_append, List.length_append]
      omega
  | some mic_ie =>
      dsimp only [Option.bind_some]
      cases decoded : rtw_mpm_ampe_dec cipher adapter_mac_addr plink (fixed ++ tlvs.take mic_ie)
        (tlvs.drop mic_ie) with
      | none => trivial
      | some ampe_buf =>
          rw [Option.bind_eq_bind, Option.bind_some]
          generalize (if 68 ≤ (ampe_buf.getD 1 0).toNat then _ else plink) = entry
          rcases exists_ampe_enc cipher adapter_mac_addr entry (fixed ++ new_ies network mpm_ie) ampe_buf
            with ⟨crypt, made⟩
          rw [made, Option.bind_some]
          have facts := rtw_mpm_ampe_dec_iff.mp decoded
          have old := length_aes_siv_encrypt facts.1
          have new := length_aes_siv_encrypt made
          rw [List.length_drop, List.length_drop] at old
          rw [List.length_take, Nat.min_eq_left facts.2.2] at new
          simp only [List.length_append, List.length_cons, List.length_nil, Option.elim_some]
          omega

end synced

end

end Mpm

end Rtl8821ce
