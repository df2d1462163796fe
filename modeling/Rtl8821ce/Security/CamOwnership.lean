import Rtl8821ce.Security.CamKeys

/-!
# Who owns a CAM entry

An entry in use holds a valid key, an entry that is not in use holds zeros, and
each key has one entry.  The keys of stations stand behind the default keys, whose
address is zero, so a search for a station finds used entries only.
-/

namespace Rtl8821ce

open Scanner

variable {i id : Nat} {ent : SecCamEnt} {pparm : SetkeyParm}

variable {s : CamCtl}

/-- The entries hold the same key: the address, the key id and, if the hardware
tells group keys apart, the group flag. -/
def CamCtl.SameKey (s : CamCtl) (first second : SecCamEnt) : Prop :=
  first.mac = second.mac ∧ first.kid = second.kid ∧ (s.chk_bmc = true -> first.gk = second.gk)

/-- What holds of the tables in every state. -/
structure CamTruthful (s : CamCtl) : Prop where
  cached : ∀ i, s.used i = true <-> (s.cam_cache i).valid = true
  hardware : ∀ i, s.used i = true <-> (s.cam i).valid = true
  unique : ∀ i j, s.used i = true -> s.used j = true ->
    s.SameKey (s.cam_cache i) (s.cam_cache j) -> i = j

/-- The valid keys of other addresses stay as they are. -/
def Spares (addr : MacAddr) (s next : CamCtl) : Prop :=
  ∀ i, (s.cam_cache i).valid = true -> (s.cam_cache i).mac ≠ addr ->
    next.used i = s.used i ∧ next.cam_cache i = s.cam_cache i ∧ next.cam i = s.cam i

/-- The default key `i`: a group key with the address zero. -/
structure DefaultKey (i : Nat) (ent : SecCamEnt) : Prop where
  below : i < 4
  mac : ent.mac = .zero
  kid : ent.kid = BitVec.ofNat 16 i
  gk : ent.gk = true

/-- Default keys stand at their key id, the keys of stations behind them. -/
def InPlace (num i : Nat) (ent : SecCamEnt) : Prop :=
  DefaultKey i ent ∨ (4 ≤ i ∧ i < num ∧ ent.mac ≠ .zero)

structure CamOwned (s : CamCtl) : Prop where
  num_le : s.num ≤ SEC_CAM_ENT_NUM_SW_LIMIT
  mirrored : ∀ i, s.cam i = s.cam_cache i
  unused : ∀ i, s.used i = false -> s.cam_cache i = .zero
  valid : ∀ i, s.used i = true -> (s.cam_cache i).valid = true
  in_place : ∀ i, s.used i = true -> InPlace s.num i (s.cam_cache i)
  unique : ∀ i j, s.used i = true -> s.used j = true ->
    s.SameKey (s.cam_cache i) (s.cam_cache j) -> i = j

@[simp] theorem SecCamEnt.valid_zero : SecCamEnt.zero.valid = false := rfl

@[simp] theorem SecCamEnt.mac_zero : SecCamEnt.zero.mac = .zero := rfl

namespace CamOwned

theorem valid_eq_used (owned : CamOwned s) (i : Nat) : (s.cam_cache i).valid = s.used i := by
  cases used : s.used i with
  | true => exact owned.valid i used
  | false => rw [owned.unused i used, SecCamEnt.valid_zero]

theorem truthful (owned : CamOwned s) : CamTruthful s where
  cached i := by rw [owned.valid_eq_used i]
  hardware i := by rw [owned.mirrored i, owned.valid_eq_used i]
  unique := owned.unique

theorem used_of_mac (owned : CamOwned s) (station : (s.cam_cache i).mac ≠ .zero) :
    s.used i = true ∧ 4 ≤ i ∧ i < s.num := by
  cases used : s.used i with
  | false => exact absurd (by rw [owned.unused i used, SecCamEnt.mac_zero]) station
  | true =>
      rcases owned.in_place i used with default | ⟨behind, bound, _⟩
      · exact absurd default.mac station
      · exact ⟨rfl, behind, bound⟩

end CamOwned

/-! ## Clearing the keys of an address -/

/-- The entries that are picked are cleared and not in use. -/
def CamCtl.without (s : CamCtl) (cleared : Nat -> Bool) : CamCtl :=
  { s with
    used := fun i => if cleared i then false else s.used i
    cam_cache := fun i => if cleared i then .zero else s.cam_cache i
    cam := fun i => if cleared i then .zero else s.cam i }

theorem without_without (s : CamCtl) (first second : Nat -> Bool) :
    (s.without first).without second = s.without (fun i => first i || second i) := by
  simp only [CamCtl.without, CamCtl.mk.injEq, true_and]
  refine ⟨?_, ?_, ?_⟩ <;>
  · funext i
    by_cases one : first i <;> by_cases two : second i <;> simp [one, two]

theorem CamOwned.without (owned : CamOwned s) (cleared : Nat -> Bool) : CamOwned (s.without cleared) := by
  have kept : ∀ i, (s.without cleared).used i = true -> cleared i = false ∧ s.used i = true := by
    intro i used
    cases picked : cleared i with
    | true => exact absurd used (by simp [CamCtl.without, picked])
    | false => exact ⟨rfl, by simpa [CamCtl.without, picked] using used⟩
  have content : ∀ i, cleared i = false -> (s.without cleared).cam_cache i = s.cam_cache i := by
    intro i picked
    simp [CamCtl.without, picked]
  constructor
  case num_le => exact owned.num_le
  case mirrored =>
    intro i
    simp only [CamCtl.without, owned.mirrored i]
  case unused =>
    intro i used
    cases picked : cleared i with
    | true => simp [CamCtl.without, picked]
    | false =>
        rw [content i picked]
        exact owned.unused i (by simpa [CamCtl.without, picked] using used)
  case valid =>
    intro i used
    rw [content i (kept i used).1]
    exact owned.valid i (kept i used).2
  case in_place =>
    intro i used
    rw [content i (kept i used).1]
    exact owned.in_place i (kept i used).2
  case unique =>
    intro i j one two same
    rw [content i (kept i one).1, content j (kept j two).1] at same
    exact owned.unique i j (kept i one).2 (kept j two).2 same

/-- The entries that a search without a key id can stop at. -/
def CamCtl.found (s : CamCtl) (addr : MacAddr) (gk : Option Bool) (i : Nat) : Bool :=
  decide (i < s.num) && cam_cache_chk s addr none gk i

theorem mac_of_chk {addr : MacAddr} {kid : Option (BitVec 8)} {gk : Option Bool}
    (matched : cam_cache_chk s addr kid gk i = true) : (s.cam_cache i).mac = addr := by
  by_contra different
  rw [cam_cache_chk, if_pos different] at matched
  cases matched

theorem free_cleared (num_le : s.num ≤ SEC_CAM_ENT_NUM_SW_LIMIT) (bound : id < s.num) :
    rtw_camid_free (clear_cam_entry s id) id = s.without (fun i => decide (i = id)) := by
  have inside : id < SEC_CAM_ENT_NUM_SW_LIMIT := Nat.lt_of_lt_of_le bound num_le
  have guarded : id < (clear_cam_entry s id).num := bound
  rw [rtw_camid_free, if_pos guarded, rtw_sec_cam_map_clr, if_pos inside]
  simp only [CamCtl.without, clear_cam_entry, write_cam, CamCtl.mk.injEq, true_and, decide_eq_true_eq]
  refine ⟨?_, ?_, ?_⟩ <;>
  · funext i
    rw [Function.update_apply]

theorem chk_without {addr : MacAddr} (station : addr ≠ .zero) (gk : Option Bool) (cleared : Nat -> Bool) (i : Nat) :
    cam_cache_chk (s.without cleared) addr none gk i =
      (!cleared i && cam_cache_chk s addr none gk i) := by
  cases picked : cleared i with
  | true =>
      rw [cam_cache_chk, if_pos]
      · rfl
      · simp only [CamCtl.without, picked, if_true]
        exact station.symm
  | false => simp [cam_cache_chk, rtw_camid_is_gk, rtw_sec_camid_is_used, CamCtl.without, picked]

theorem scan_clear_key (num_le : s.num ≤ SEC_CAM_ENT_NUM_SW_LIMIT) {addr : MacAddr}
    (station : addr ≠ .zero) (gk : Option Bool) (fuel from_id : Nat)
    (before : ∀ i, i < from_id -> cam_cache_chk s addr none gk i = false) (enough : s.num - from_id < fuel) :
    scan (clear_key_body addr gk) fuel s = some (s.without (s.found addr gk)) := by
  induction fuel generalizing s from_id with
  | zero => exact absurd enough (Nat.not_lt_zero _)
  | succ fuel ih =>
      cases search : rtw_camid_search s addr none gk with
      | none =>
          have nowhere : s.found addr gk = fun _ => false := by
            funext i
            by_cases bound : i < s.num
            · have unmatched := List.find?_range_eq_none.mp search i bound
              simpa [CamCtl.found, bound] using unmatched
            · simp [CamCtl.found, bound]
          rw [scan_done (by rw [clear_key_body, search]), nowhere]
          rfl
      | some id =>
          rcases List.find?_range_eq_some.mp search with ⟨matched, member, first⟩
          have bound : id < s.num := List.mem_range.mp member
          have later : from_id ≤ id := by
            by_contra earlier
            rw [before id (Nat.lt_of_not_le earlier)] at matched
            cases matched
          have round : clear_key_body addr gk s = .more (s.without (fun i => decide (i = id))) := by
            rw [clear_key_body, search]
            exact congrArg Iteration.more (free_cleared num_le bound)
          rw [scan_more round]
          have passed : ∀ i, i < id + 1 ->
              cam_cache_chk (s.without (fun i => decide (i = id))) addr none gk i = false := by
            intro i below
            rw [chk_without station]
            rcases Nat.lt_succ_iff_lt_or_eq.mp below with earlier | same
            · have unmatched := first i earlier
              rw [Bool.not_eq_true'] at unmatched
              rw [unmatched, Bool.and_false]
            · simp [same]
          have rest := @ih (s.without (fun i => decide (i = id))) num_le (id + 1) passed
            (show s.num - (id + 1) < fuel by omega)
          have both : (fun i => decide (i = id) ||
              (s.without (fun i => decide (i = id))).found addr gk i) = s.found addr gk := by
            funext i
            simp only [CamCtl.found, chk_without station]
            by_cases same : i = id
            · simp [same, bound, matched]
            · simp [same, CamCtl.without]
          rw [rest, without_without, both]

theorem clear_keys_eq (num_le : s.num ≤ SEC_CAM_ENT_NUM_SW_LIMIT) {addr : MacAddr}
    (station : addr ≠ .zero) (gk : Option Bool) : clear_keys s addr gk = some (s.without (s.found addr gk)) :=
  scan_clear_key num_le station gk (s.num + 1) 0 (fun _ below => absurd below (Nat.not_lt_zero _))
    (Nat.lt_succ_self s.num)

theorem spares_without {addr : MacAddr} {gk : Option Bool} : Spares addr s (s.without (s.found addr gk)) := by
  intro i _ different
  have unmatched : s.found addr gk i = false := by
    rw [CamCtl.found, Bool.and_eq_false_iff]
    right
    by_contra matched
    rw [Bool.not_eq_false] at matched
    exact different (mac_of_chk matched)
  simp [CamCtl.without, unmatched]

def CamCtl.install (s : CamCtl) (id : Nat) (ent : SecCamEnt) : CamCtl :=
  write_cam (rtw_sec_cam_map_set s id) id ent

theorem cam_cache_install (s : CamCtl) (id : Nat) (ent : SecCamEnt) (i : Nat) :
    (s.install id ent).cam_cache i = if i = id then ent else s.cam_cache i := by
  have unchanged : (rtw_sec_cam_map_set s id).cam_cache = s.cam_cache := by
    unfold rtw_sec_cam_map_set
    split <;> rfl
  rw [CamCtl.install, write_cam, unchanged]
  exact Function.update_apply s.cam_cache id ent i

theorem cam_install (s : CamCtl) (id : Nat) (ent : SecCamEnt) (i : Nat) :
    (s.install id ent).cam i = if i = id then ent else s.cam i := by
  have unchanged : (rtw_sec_cam_map_set s id).cam = s.cam := by
    unfold rtw_sec_cam_map_set
    split <;> rfl
  rw [CamCtl.install, write_cam, unchanged]
  exact Function.update_apply s.cam id ent i

theorem used_install (s : CamCtl) (bound : id < SEC_CAM_ENT_NUM_SW_LIMIT) (ent : SecCamEnt)
    (i : Nat) : (s.install id ent).used i = if i = id then true else s.used i := by
  rw [CamCtl.install, write_cam, rtw_sec_cam_map_set, if_pos bound]
  exact Function.update_apply s.used id true i

theorem CamOwned.install (owned : CamOwned s)
    (bound : id < SEC_CAM_ENT_NUM_SW_LIMIT) (valid : ent.valid = true) (in_place : InPlace s.num id ent)
    (unique : ∀ j, j ≠ id -> s.used j = true -> ¬ s.SameKey (s.cam_cache j) ent) : CamOwned (s.install id ent) := by
  have num : (s.install id ent).num = s.num := num_map_set s id
  have same_key : (s.install id ent).SameKey = s.SameKey := by
    have chk_bmc : (s.install id ent).chk_bmc = s.chk_bmc := chk_bmc_map_set s id
    funext first second
    rw [CamCtl.SameKey, CamCtl.SameKey, chk_bmc]
  constructor
  case num_le => exact num ▸ owned.num_le
  case mirrored =>
    intro i
    rw [cam_install, cam_cache_install, owned.mirrored i]
  case unused =>
    intro i unused
    rw [used_install s bound] at unused
    split at unused
    case isTrue same => cases unused
    case isFalse different =>
      rw [cam_cache_install, if_neg different]
      exact owned.unused i unused
  case valid =>
    intro i used
    rw [used_install s bound] at used
    rw [cam_cache_install]
    split
    case isTrue same => exact valid
    case isFalse different => exact owned.valid i (by rwa [if_neg different] at used)
  case in_place =>
    intro i used
    rw [used_install s bound] at used
    rw [cam_cache_install, num]
    split
    case isTrue same => exact same ▸ in_place
    case isFalse different => exact owned.in_place i (by rwa [if_neg different] at used)
  case unique =>
    intro i j one two same
    rw [used_install s bound] at one two
    rw [same_key, cam_cache_install, cam_cache_install] at same
    by_cases first : i = id
    · by_cases second : j = id
      · exact first.trans second.symm
      · rw [if_pos first, if_neg second] at same
        rw [if_neg second] at two
        exact absurd ⟨same.1.symm, same.2.1.symm, fun cap => (same.2.2 cap).symm⟩ (unique j second two)
    · rw [if_neg first] at one same
      by_cases second : j = id
      · rw [if_pos second] at same
        exact absurd same (unique i first one)
      · rw [if_neg second] at two same
        exact owned.unique i j one two same

theorem CamOwned.spares_install (owned : CamOwned s) {addr : MacAddr}
    (bound : id < SEC_CAM_ENT_NUM_SW_LIMIT) (own : s.used id = true -> (s.cam_cache id).mac = addr) :
    Spares addr s (s.install id ent) := by
  intro i valid different
  rw [owned.valid_eq_used i] at valid
  have other : i ≠ id := by
    rintro rfl
    exact different (own valid)
  rw [used_install s bound, cam_cache_install, cam_install, if_neg other, if_neg other, if_neg other]
  exact ⟨rfl, rfl, rfl⟩

theorem valid_key_ctrl (gk : Bool) (algorithm keyid : BitVec 8) :
    (key_ctrl gk algorithm keyid).getLsbD 15 = true := by
  simp [key_ctrl]

theorem getElem_of_lt {bits : BitVec 8} {k : Nat} (small : bits.toNat < 2 ^ k) (above : k ≤ i)
    (bound : i < 8) : bits[i] = false := by
  rw [← BitVec.getLsbD_eq_getElem, BitVec.getLsbD]
  exact Nat.testBit_lt_two_pow (Nat.lt_of_lt_of_le small (Nat.pow_le_pow_right Nat.two_pos above))

theorem gk_key_ctrl (gk : Bool) {algorithm keyid : BitVec 8} (known : algorithm.toNat < 2 ^ 4)
    (ids : keyid.toNat < 2 ^ 2) : (key_ctrl gk algorithm keyid).getLsbD 6 = gk := by
  have high : algorithm[4] = false := getElem_of_lt known (Nat.le_refl 4) (by decide)
  have low : keyid[6] = false := getElem_of_lt ids (by decide) (by decide)
  cases gk with
  | true => simp [key_ctrl]
  | false => simp [key_ctrl, high, low]

theorem gk_group_ctrl (algorithm keyid : BitVec 8) : (key_ctrl true algorithm keyid).getLsbD 6 = true := by
  simp [key_ctrl]

theorem kid_key_ctrl (gk : Bool) {algorithm keyid : BitVec 8} (ids : keyid.toNat < 2 ^ 2) :
    key_ctrl gk algorithm keyid &&& 0x03 = keyid.zeroExtend 16 := by
  have three : ∀ i, (bound : i < 16) -> (3#16)[i] = decide (i < 2) := by decide
  have high : ∀ i, 2 ≤ i -> keyid.getLsbD i = false := by
    intro i above
    exact Nat.testBit_lt_two_pow (Nat.lt_of_lt_of_le ids (Nat.pow_le_pow_right Nat.two_pos above))
  apply BitVec.eq_of_getLsbD_eq
  intro i bound
  by_cases low : i < 2
  · have flags : i ≠ 15 ∧ i ≠ 6 := by omega
    cases gk <;> simp [key_ctrl, three i bound, low, bound, flags]
  · simp [bound, three i bound, low, high i (Nat.le_of_not_lt low)]

/-- The entry is the one of the key: the address, the key id and, where it counts,
the group flag. -/
def CamCtl.Holds (s : CamCtl) (addr : MacAddr) (kid : BitVec 8) (gk : Bool) (ent : SecCamEnt) : Prop :=
  ent.mac = addr ∧ ent.kid = kid.zeroExtend 16 ∧ (s.chk_bmc = true -> ent.gk = gk)

theorem same_key_of_holds {addr : MacAddr} {kid : BitVec 8} {gk : Bool} {first second : SecCamEnt}
    (one : s.Holds addr kid gk first) (two : s.Holds addr kid gk second) : s.SameKey first second :=
  ⟨one.1.trans two.1.symm, one.2.1.trans two.2.1.symm, fun cap => (one.2.2 cap).trans (two.2.2 cap).symm⟩

theorem holds_of_same_key {addr : MacAddr} {kid : BitVec 8} {gk : Bool} {first second : SecCamEnt}
    (same : s.SameKey first second) (two : s.Holds addr kid gk second) : s.Holds addr kid gk first :=
  ⟨same.1.trans two.1, same.2.1.trans two.2.1, fun cap => (same.2.2 cap).trans (two.2.2 cap)⟩

/-- An entry that a key can go to. -/
structure CamSlot (s : CamCtl) (addr : MacAddr) (kid : BitVec 8) (gk : Bool) (id : Nat) : Prop where
  behind : 4 ≤ id
  bound : id < s.num
  own : s.used id = true -> s.Holds addr kid gk (s.cam_cache id)
  only : ∀ j, j ≠ id -> s.used j = true -> ¬ s.Holds addr kid gk (s.cam_cache j)

theorem is_gk_of_used (bound : i < s.num) (used : s.used i = true) : rtw_camid_is_gk s i = (s.cam_cache i).gk := by
  rw [rtw_camid_is_gk, rtw_sec_camid_is_used, if_neg (Nat.not_le.mpr bound), if_pos used]

theorem chk_key_iff (bound : i < s.num) (used : s.used i = true) (addr : MacAddr) (kid : BitVec 8) (gk : Bool) :
    cam_cache_chk s addr (some kid) (if s.chk_bmc then some gk else none) i = true <->
      s.Holds addr kid gk (s.cam_cache i) := by
  rw [cam_cache_chk, CamCtl.Holds, is_gk_of_used bound used, eq_comm (b := kid.zeroExtend 16), eq_comm (b := gk)]
  cases cap : s.chk_bmc <;> simp

theorem CamOwned.slot (owned : CamOwned s) {addr : MacAddr} (station : addr ≠ .zero) {kid : BitVec 8}
    {gk : Bool} (got : rtw_get_camid s addr kid gk = some id) : CamSlot s addr kid gk id := by
  have placed : ∀ j, s.Holds addr kid gk (s.cam_cache j) -> s.used j = true ∧ 4 ≤ j ∧ j < s.num :=
    fun j holds => owned.used_of_mac (holds.1 ▸ station)
  unfold rtw_get_camid at got
  split at got
  case h_1 i search =>
    rcases List.find?_range_eq_some.mp search with ⟨matched, _, _⟩
    have used := owned.used_of_mac ((mac_of_chk matched).symm ▸ station)
    have holds := (chk_key_iff used.2.2 used.1 addr kid gk).mp matched
    rw [Option.some.injEq] at got
    subst got
    refine ⟨used.2.1, used.2.2, fun _ => holds, fun j different inUse other => ?_⟩
    exact different (owned.unique j i inUse used.1 (same_key_of_holds other holds))
  case h_2 search =>
    rcases List.find?_range_eq_some.mp got with ⟨free, member, _⟩
    have bound : id < s.num := List.mem_range.mp member
    rw [Bool.and_eq_true, decide_eq_true_eq, rtw_sec_camid_is_used, if_neg (Nat.not_le.mpr bound),
      Bool.not_eq_true'] at free
    refine ⟨free.1, bound, fun used => absurd used (by simp [free.2]), fun j _ inUse holds => ?_⟩
    have inside := (placed j holds).2.2
    have matched := (chk_key_iff inside inUse addr kid gk).mpr holds
    have unmatched := List.find?_range_eq_none.mp search j inside
    rw [matched] at unmatched
    cases unmatched

theorem CamOwned.install_slot (owned : CamOwned s) {addr : MacAddr} (station : addr ≠ .zero)
    {kid : BitVec 8} {gk : Bool} (slot : CamSlot s addr kid gk id)
    (valid : ent.valid = true) (holds : s.Holds addr kid gk ent) :
    CamOwned (s.install id ent) ∧ Spares addr s (s.install id ent) := by
  have bound := Nat.lt_of_lt_of_le slot.bound owned.num_le
  constructor
  · refine owned.install bound valid (Or.inr ⟨slot.behind, slot.bound, holds.1 ▸ station⟩) ?_
    intro j different used same
    exact slot.only j different used (holds_of_same_key same holds)
  · exact owned.spares_install bound (fun used => (slot.own used).1)

/-! ## The commands -/

/-- The keys that the hardware cannot tell apart: a pairwise key and a group key of
one station with one id. -/
def Conflicting (s : CamCtl) (pparm : SetStakeyParm) : Prop :=
  s.chk_bmc = false ∧ pparm.gk = false ∧ ∃ i,
    s.used i = true ∧ s.Holds pparm.addr pparm.keyid pparm.gk (s.cam_cache i) ∧
      (s.cam_cache i).gk = true

/-- A key that can be told from the other keys in its entry. -/
structure InstallApart (s : CamCtl) (pparm : SetStakeyParm) : Prop where
  unicast : IS_MCAST pparm.addr = true -> pparm.addr = bc_addr
  known : pparm.algorithm.toNat < 2 ^ 4
  ids : pparm.keyid.toNat < 2 ^ 2
  apart : ¬ Conflicting s pparm

/-- When a command for a station's key keeps the tables in order. -/
structure StakeyApart (s : CamCtl) (pparm : SetStakeyParm) : Prop where
  station : pparm.addr ≠ .zero
  install : pparm.algorithm ≠ _NO_PRIVACY_ -> InstallApart s pparm

theorem mac_addr_of_found {pstapriv : StaPriv} {addr : MacAddr}
    (unicast : IS_MCAST addr = true -> addr = bc_addr) {psta : Fin NUM_STA}
    (found : rtw_get_stainfo pstapriv addr = some psta) : (pstapriv.pstainfo_buf psta).mac_addr = addr := by
  have matched := List.find?_some found
  rw [decide_eq_true_eq] at matched
  rw [matched]
  split
  case isTrue multicast => exact (unicast multicast).symm
  case isFalse => rfl

theorem CamOwned.conflict (owned : CamOwned s) : CamOwned { s with conflict := true } :=
  ⟨owned.num_le, owned.mirrored, owned.unused, owned.valid, owned.in_place, owned.unique⟩

theorem CamOwned.clear_keys (owned : CamOwned s) {addr : MacAddr} (station : addr ≠ .zero)
    (gk : Option Bool) : ∃ next,
      Rtl8821ce.clear_keys s addr gk = some next ∧ CamOwned next ∧ Spares addr s next :=
  ⟨_, clear_keys_eq owned.num_le station gk, owned.without _, spares_without⟩

theorem map_set_of_used (used : s.used id = true) : rtw_sec_cam_map_set s id = s := by
  unfold rtw_sec_cam_map_set
  split
  · rw [← used, Function.update_eq_self]
  · rfl

theorem clear_conflicting_eq {pparm : SetStakeyParm} {cam_id : Nat}
    (slot : CamSlot s pparm.addr pparm.keyid pparm.gk cam_id) (apart : ¬ Conflicting s pparm) :
    clear_conflicting (rtw_sec_cam_map_set s cam_id) pparm cam_id (rtw_sec_camid_is_used s cam_id) =
      some (rtw_sec_cam_map_set s cam_id) := by
  rw [clear_conflicting, if_neg]
  intro clash
  rw [Bool.and_eq_true, Bool.and_eq_true, Bool.not_eq_true', rtw_sec_camid_is_used,
    if_neg (Nat.not_le.mpr slot.bound)] at clash
  rcases clash with ⟨⟨pairwise, used⟩, group⟩
  rw [map_set_of_used used, is_gk_of_used slot.bound used] at group
  cases cap : s.chk_bmc with
  | true =>
      rw [(slot.own used).2.2 cap, pairwise] at group
      cases group
  | false => exact apart ⟨cap, pairwise, cam_id, used, slot.own used, group⟩

theorem CamOwned.set_stakey_hdl (owned : CamOwned s) {env : KeyEnv} {pparm : SetStakeyParm}
    (apart : StakeyApart s pparm) : ∃ next, ∃ result,
      Rtl8821ce.set_stakey_hdl env s pparm = some (next, result) ∧ CamOwned next ∧
        Spares pparm.addr s next := by
  unfold Rtl8821ce.set_stakey_hdl
  split
  case isTrue removal =>
    rcases owned.clear_keys apart.station none with ⟨next, cleared, kept, spares⟩
    exact ⟨next, _, by rw [cleared]; rfl, kept, spares⟩
  case isFalse installation =>
    have key := apart.install installation
    split
    case h_1 missing => exact ⟨s, _, rfl, owned, fun _ _ _ => ⟨rfl, rfl, rfl⟩⟩
    case h_2 psta found =>
      have mac_addr := mac_addr_of_found key.unicast found
      rw [rtw_camid_alloc, assigned_camid]
      simp only [mac_addr]
      cases got : rtw_get_camid s pparm.addr pparm.keyid pparm.gk with
      | none => exact ⟨s, _, rfl, owned, fun _ _ _ => ⟨rfl, rfl, rfl⟩⟩
      | some cam_id =>
          have slot := owned.slot apart.station got
          have valid : SecCamEnt.valid ⟨key_ctrl pparm.gk pparm.algorithm pparm.keyid, pparm.addr,
              pparm.key⟩ = true := valid_key_ctrl pparm.gk pparm.algorithm pparm.keyid
          have installed := owned.install_slot apart.station slot valid
            ⟨rfl, kid_key_ctrl pparm.gk key.ids, fun _ => gk_key_ctrl pparm.gk key.known key.ids⟩
          simp only [clear_conflicting_eq slot key.apart]
          exact ⟨s.install cam_id _, .H2C_SUCCESS_RSP, rfl, installed⟩

def group_addr (env : KeyEnv) : MacAddr := if env.beaconing then .zero else env.bssid

/-- When a command for a group key keeps the tables in order. -/
structure SetkeyApart (env : KeyEnv) (pparm : SetkeyParm) : Prop where
  station : env.beaconing = false -> env.assoc_success = true -> env.bssid ≠ .zero
  unicast : env.beaconing = false -> env.assoc_success = true ->
    IS_MCAST env.bssid = true -> env.bssid = bc_addr
  ids : env.beaconing = false -> env.assoc_success = true -> pparm.keyid.toNat < 2 ^ 2

theorem CamOwned.default_key (owned : CamOwned s) (used : s.used i = true) (below : i < 4) :
    DefaultKey i (s.cam_cache i) := by
  rcases owned.in_place i used with default | ⟨behind, _, _⟩
  · exact default
  · omega

theorem CamOwned.install_default (owned : CamOwned s) (valid : ent.valid = true) (default : DefaultKey i ent) :
    CamOwned (s.install i ent) ∧ Spares .zero s (s.install i ent) := by
  have bound : i < SEC_CAM_ENT_NUM_SW_LIMIT := Nat.lt_trans default.below (by decide)
  constructor
  · refine owned.install bound valid (Or.inl default) ?_
    intro j different used same
    rcases owned.in_place j used with other | ⟨_, _, station⟩
    · have numbers := congrArg BitVec.toNat (other.kid.symm.trans (same.2.1.trans default.kid))
      rw [BitVec.toNat_ofNat, BitVec.toNat_ofNat] at numbers
      have below := default.below
      have belowToo := other.below
      omega
    · exact station (same.1.trans default.mac)
  · exact owned.spares_install bound (fun used => (owned.default_key used default.below).mac)

theorem Spares.trans {addr : MacAddr} {next last : CamCtl} (first : Spares addr s next)
    (second : Spares addr next last) : Spares addr s last := by
  intro i valid different
  rcases first i valid different with ⟨used, cam_cache, cam⟩
  rcases second i (by rw [cam_cache]; exact valid) (by rw [cam_cache]; exact different) with
    ⟨usedToo, cam_cacheToo, camToo⟩
  exact ⟨usedToo.trans used, cam_cacheToo.trans cam_cache, camToo.trans cam⟩

theorem CamOwned.set_wep_pairwise (owned : CamOwned s) {env : KeyEnv}
    (associated : env.assoc_success = true) (apart : SetkeyApart env pparm)
    (infrastructure : env.beaconing = false) : ∃ next,
      Rtl8821ce.set_wep_pairwise env s pparm = some next ∧ CamOwned next ∧ Spares env.bssid s next := by
  unfold Rtl8821ce.set_wep_pairwise
  split
  case isFalse => exact ⟨s, rfl, owned, fun _ _ _ => ⟨rfl, rfl, rfl⟩⟩
  case isTrue wep =>
    rw [Bool.and_eq_true, Bool.and_eq_true, is_wep_enc, Bool.or_eq_true, decide_eq_true_eq,
      decide_eq_true_eq] at wep
    have known : pparm.algorithm.toNat < 2 ^ 4 := by
      rcases wep.1.1 with short | long
      · rw [short]
        decide
      · rw [long]
        decide
    have apart : StakeyApart s ⟨env.bssid, pparm.algorithm, pparm.keyid, pparm.key, false⟩ :=
      ⟨apart.station infrastructure associated, fun _ => ⟨apart.unicast infrastructure associated, known,
        apart.ids infrastructure associated, fun clash => Bool.noConfusion (wep.2.symm.trans clash.1)⟩⟩
    rcases owned.set_stakey_hdl apart with ⟨next, result, handled, kept, spares⟩
    exact ⟨next, by rw [handled]; rfl, kept, spares⟩

theorem CamOwned.setkey_beaconing (owned : CamOwned s) {env : KeyEnv} (beaconing : env.beaconing = true) : ∃ next,
      setkey_hdl env s pparm = some next ∧ CamOwned next ∧ Spares .zero s next := by
  rw [setkey_hdl, rtw_camid_alloc, assigned_camid]
  simp only [beaconing, if_true]
  by_cases wrong : 3 < pparm.keyid.toNat
  · simp only [wrong, if_true]
    exact ⟨s, rfl, owned, fun _ _ _ => ⟨rfl, rfl, rfl⟩⟩
  · have below : pparm.keyid.toNat < 2 ^ 2 := by omega
    have addr : group_key_addr env pparm.keyid.toNat = .zero := if_pos (Nat.le_of_not_lt wrong)
    have kid : key_ctrl true pparm.algorithm pparm.keyid &&& 0x03 = BitVec.ofNat 16 pparm.keyid.toNat := by
      rw [kid_key_ctrl true below, BitVec.ofNat_toNat]
    have default : DefaultKey pparm.keyid.toNat
        ⟨key_ctrl true pparm.algorithm pparm.keyid, .zero, pparm.key⟩ :=
      ⟨below, rfl, kid, gk_group_ctrl pparm.algorithm pparm.keyid⟩
    have noWep : ∀ next, Rtl8821ce.set_wep_pairwise env next pparm = some next := by
      intro next
      rw [Rtl8821ce.set_wep_pairwise, if_neg]
      intro station
      rw [Bool.and_eq_true, Bool.and_eq_true, decide_eq_true_eq] at station
      rw [KeyEnv.beaconing, station.1.2] at beaconing
      cases beaconing
    have noClash : ¬ (rtw_sec_camid_is_used s pparm.keyid.toNat &&
        !rtw_camid_is_gk (rtw_sec_cam_map_set s pparm.keyid.toNat) pparm.keyid.toNat) = true := by
      intro clash
      rw [Bool.and_eq_true, Bool.not_eq_true', rtw_sec_camid_is_used] at clash
      split at clash
      case isTrue outside => cases clash.1
      case isFalse inside =>
        rw [map_set_of_used clash.1, is_gk_of_used (Nat.lt_of_not_le inside) clash.1,
          (owned.default_key clash.1 below).gk] at clash
        cases clash.2
    simp only [wrong, if_false, noClash, noWep, addr]
    exact ⟨s.install pparm.keyid.toNat _, rfl,
      owned.install_default (valid_key_ctrl true pparm.algorithm pparm.keyid) default⟩

theorem CamOwned.setkey_infrastructure (owned : CamOwned s) {env : KeyEnv}
    (infrastructure : env.beaconing = false) (apart : SetkeyApart env pparm) : ∃ next,
      setkey_hdl env s pparm = some next ∧ CamOwned next ∧ Spares env.bssid s next := by
  rw [setkey_hdl, rtw_camid_alloc, assigned_camid]
  simp only [infrastructure, Bool.false_eq_true, if_false]
  cases associated : env.assoc_success with
  | false => exact ⟨s, rfl, owned, fun _ _ _ => ⟨rfl, rfl, rfl⟩⟩
  | true =>
      simp only [if_true]
      have station := apart.station infrastructure associated
      have ids := apart.ids infrastructure associated
      cases got : rtw_get_camid s env.bssid pparm.keyid true with
      | none => exact ⟨s, rfl, owned, fun _ _ _ => ⟨rfl, rfl, rfl⟩⟩
      | some cam_id =>
          have slot := owned.slot station got
          have addr : group_key_addr env cam_id = env.bssid := by
            have behind := slot.behind
            rw [group_key_addr, if_neg (by omega), infrastructure]
            rfl
          simp only [addr]
          split
          case isTrue clash =>
            rw [Bool.and_eq_true, rtw_sec_camid_is_used, if_neg (Nat.not_le.mpr slot.bound)] at clash
            rw [map_set_of_used clash.1]
            exact owned.conflict.clear_keys station (some true)
          case isFalse =>
            have valid : SecCamEnt.valid ⟨key_ctrl true pparm.algorithm pparm.keyid, env.bssid,
                pparm.key⟩ = true := valid_key_ctrl true pparm.algorithm pparm.keyid
            have written := owned.install_slot station slot valid
              ⟨rfl, kid_key_ctrl true ids, fun _ => gk_group_ctrl pparm.algorithm pparm.keyid⟩
            rcases written.1.set_wep_pairwise associated apart infrastructure with
              ⟨next, handled, kept, spares⟩
            exact ⟨next, handled, kept, written.2.trans spares⟩

theorem CamOwned.setkey_hdl (owned : CamOwned s) {env : KeyEnv} (apart : SetkeyApart env pparm) : ∃ next,
      Rtl8821ce.setkey_hdl env s pparm = some next ∧ CamOwned next ∧ Spares (group_addr env) s next := by
  cases beaconing : env.beaconing with
  | true =>
      rw [group_addr, beaconing]
      exact owned.setkey_beaconing beaconing
  | false =>
      rw [group_addr, beaconing]
      exact owned.setkey_infrastructure beaconing apart

namespace KeyCommand

/-- The address whose keys a command installs or removes. -/
def addr : KeyCommand -> MacAddr
  | .setkey_hdl env _ => group_addr env
  | .set_stakey_hdl _ pparm => pparm.addr

def Apart (s : CamCtl) : KeyCommand -> Prop
  | .setkey_hdl env pparm => SetkeyApart env pparm
  | .set_stakey_hdl _ pparm => StakeyApart s pparm

end KeyCommand

theorem CamOwned.handle (owned : CamOwned s) {command : KeyCommand} (apart : command.Apart s) :
    ∃ next, s.handle command = some next ∧ CamOwned next ∧ Spares command.addr s next := by
  cases command with
  | setkey_hdl env pparm => exact owned.setkey_hdl apart
  | set_stakey_hdl env pparm =>
      rcases owned.set_stakey_hdl apart with ⟨next, result, handled, kept, spares⟩
      exact ⟨next, by rw [CamCtl.handle, handled]; rfl, kept, spares⟩

theorem CamOwned.invalidate_cam_all (num_le : s.num ≤ SEC_CAM_ENT_NUM_SW_LIMIT) :
    CamOwned (invalidate_cam_all s) where
  num_le := num_le
  mirrored _ := rfl
  unused _ _ := rfl
  valid _ used := Bool.noConfusion used
  in_place _ used := Bool.noConfusion used
  unique _ _ used := Bool.noConfusion used

/-- The condition on a command, in the state the run has reached. -/
def KeysApart (state : Option CamCtl) (command : KeyCommand) : Prop :=
  ∀ s, state = some s -> command.Apart s

/-- A command ends, and spares the keys of the other addresses. -/
def KeepsOthers (state : Option CamCtl) (command : KeyCommand) : Prop :=
  ∃ s, ∃ next,
    state = some s ∧ key_step state command = some next ∧ Spares command.addr s next

/-- From the invalidated table on, the commands keep the bitmap, the copy and the
hardware aligned, with one entry for each key, and overwrite nobody else's key. -/
theorem cam_entries_owned (cam_ctl : CamCtl) (num_le : cam_ctl.num ≤ SEC_CAM_ENT_NUM_SW_LIMIT)
    (commands : List KeyCommand)
    (apart : Run.Guarded key_step KeysApart (some (invalidate_cam_all cam_ctl)) commands) :
    (∃ s,
      Run.execute key_step (some (invalidate_cam_all cam_ctl)) commands = some s ∧ CamTruthful s) ∧
      Run.Guarded key_step KeepsOthers (some (invalidate_cam_all cam_ctl)) commands := by
  have step : ∀ (state : Option CamCtl) command, KeysApart state command ->
      (∃ s, state = some s ∧ CamOwned s) ->
        KeepsOthers state command ∧ ∃ s, key_step state command = some s ∧ CamOwned s := by
    intro state command apart ⟨s, reached, owned⟩
    rcases owned.handle (apart s reached) with ⟨next, handled, kept, spares⟩
    have stepped : key_step state command = some next := by
      rw [key_step, reached]
      exact handled
    exact ⟨⟨s, next, reached, stepped, spares⟩, next, stepped, kept⟩
  have initial : ∃ s, some (invalidate_cam_all cam_ctl) = some s ∧ CamOwned s :=
    ⟨_, rfl, CamOwned.invalidate_cam_all num_le⟩
  constructor
  · rcases apart.invariant (fun state command apart owned => (step state command apart owned).2) initial with
      ⟨s, reached, owned⟩
    exact ⟨s, reached, owned.truthful⟩
  · exact apart.of_invariant (fun state command apart owned => (step state command apart owned).2)
      (fun state command apart owned => (step state command apart owned).1) initial

/-- A station associated with the access point `02:00:00:00:00:01`. -/
def associatedStation : KeyEnv where
  hw_state := ._HW_STATE_STATION_
  assoc_success := true
  bssid := .ofLast 1
  adapter_mac_addr := .ofLast 2
  stapriv := rtw_alloc_stainfo _rtw_init_sta_priv (.ofLast 1)

/-- The table without `SEC_CAP_CHK_BMC`. -/
def emptyCam : CamCtl := ⟨32, false, false, fun _ => false, fun _ => .zero, fun _ => .zero⟩

/-- The pairwise key for the access point, with the id 0. -/
def pairwiseKey : KeyCommand :=
  .set_stakey_hdl associatedStation ⟨associatedStation.bssid, 4, 0, List.replicate 16 1, false⟩

def groupKey (keyid : BitVec 8) : KeyCommand :=
  .setkey_hdl associatedStation ⟨4, keyid, List.replicate 16 2⟩

/-- A pairwise key with the id 0 and a group key with the id 1. -/
theorem cam_entries_owned_associated :
    (∃ s,
      Run.execute key_step (some (invalidate_cam_all emptyCam)) [pairwiseKey, groupKey 1] = some s ∧
        CamTruthful s) ∧
      Run.Guarded key_step KeepsOthers (some (invalidate_cam_all emptyCam)) [pairwiseKey, groupKey 1] := by
  apply cam_entries_owned emptyCam (Nat.le_refl 32)
  refine ⟨?_, ?_, trivial⟩
  · intro s initial
    have unused : ∀ i, s.used i = false := by
      intro i
      rw [← Option.some.inj initial]
      rfl
    refine ⟨by decide, fun _ => ⟨by decide, by decide, by decide, ?_⟩⟩
    intro ⟨_, _, i, used, _⟩
    rw [unused i] at used
    cases used
  · intro s _
    exact ⟨fun _ _ => by decide, fun _ _ => by decide, fun _ _ => by decide⟩

/-- The pairwise key has the id of the group key: the entry 4 is found, cleared with
the group keys and written, and it is not in use any more. -/
theorem cam_entry_freed_while_written :
    ¬ ∀ (cam_ctl : CamCtl) (commands : List KeyCommand), cam_ctl.num ≤ SEC_CAM_ENT_NUM_SW_LIMIT ->
      ∀ s, Run.execute key_step (some (invalidate_cam_all cam_ctl)) commands = some s ->
        CamTruthful s := by
  intro claim
  have written : (Run.execute key_step (some (invalidate_cam_all emptyCam)) [groupKey 0, pairwiseKey]).any
      (fun s => (s.cam_cache 4).valid && !s.used 4) = true := by decide
  rcases Option.any_eq_true_iff_get _ _ |>.mp written with ⟨some_state, freed⟩
  have truthful := claim emptyCam [groupKey 0, pairwiseKey] (Nat.le_refl 32) _
    (Option.some_get some_state).symm
  rw [Bool.and_eq_true, Bool.not_eq_true', ← Bool.not_eq_true, truthful.cached 4] at freed
  exact freed.2 freed.1

end Rtl8821ce
