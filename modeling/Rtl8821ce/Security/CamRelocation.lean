import Mathlib.Data.Finset.Card
import Mathlib.Data.List.Range
import Mathlib.Logic.Equiv.Basic
import Rtl8821ce.Security.CamKeys

/-!
# Keys that move to other entries of the CAM

`rtw_sec_cam_swap` exchanges two entries in three steps: copy the ones in use, clear them,
and write the copies back crosswise.  `rtw_clean_dk_section` moves the keys of the first
four entries to free entries behind them.
-/

namespace Rtl8821ce

open Function (update_of_ne update_self)

def rtw_camid_set (cam_ctl : CamCtl) (cam_id : Nat) : CamCtl :=
  if cam_id < cam_ctl.num then rtw_sec_cam_map_set cam_ctl cam_id else cam_ctl

def CamCtl.clean (cam_ctl : CamCtl) (cam_id : Nat) : CamCtl :=
  clear_cam_entry (rtw_camid_free cam_ctl cam_id) cam_id

def CamCtl.rewrite (cam_ctl : CamCtl) (cam_id : Nat) (cache : SecCamEnt) : CamCtl :=
  rtw_camid_set (write_cam cam_ctl cam_id cache) cam_id

def rtw_sec_cam_swap (cam_ctl : CamCtl) (cam_id_a cam_id_b : Nat) : CamCtl :=
  if cam_id_a = cam_id_b then cam_ctl
  else
    let cam_a_used := rtw_sec_camid_is_used cam_ctl cam_id_a
    let cam_b_used := rtw_sec_camid_is_used cam_ctl cam_id_b
    let cache_a := cam_ctl.cam_cache cam_id_a
    let cache_b := cam_ctl.cam_cache cam_id_b
    let cam_ctl := if cam_a_used then cam_ctl.clean cam_id_a else cam_ctl
    let cam_ctl := if cam_b_used then cam_ctl.clean cam_id_b else cam_ctl
    let cam_ctl := if cam_a_used then cam_ctl.rewrite cam_id_b cache_a else cam_ctl
    if cam_b_used then cam_ctl.rewrite cam_id_a cache_b else cam_ctl

/-- The first unused entry from `start_camid` on. -/
def rtw_get_empty_cam_entry (cam_ctl : CamCtl) (start_camid : Nat) : Option Nat :=
  (List.range' start_camid (cam_ctl.num - start_camid)).find? (fun i => !rtw_sec_camid_is_used cam_ctl i)

/-- The loop over the entries of the section that are left. -/
def clean_dk_entries : List Nat -> CamCtl -> CamCtl
  | [], cam_ctl => cam_ctl
  | i :: rest, cam_ctl =>
      if rtw_sec_camid_is_used cam_ctl i then
        match rtw_get_empty_cam_entry cam_ctl 4 with
        | some ept_cam_id => clean_dk_entries rest (rtw_sec_cam_swap cam_ctl i ept_cam_id)
        | none => clean_dk_entries rest cam_ctl
      else clean_dk_entries rest cam_ctl

def rtw_clean_dk_section (cam_ctl : CamCtl) : CamCtl := clean_dk_entries [0, 1, 2, 3] cam_ctl

def CamCtl.Sized (cam_ctl : CamCtl) : Prop := cam_ctl.num ≤ SEC_CAM_ENT_NUM_SW_LIMIT

section

variable {s : CamCtl} {id i : Nat}

theorem is_used_of_lt (inside : id < s.num) : rtw_sec_camid_is_used s id = s.used id :=
  if_neg (Nat.not_le.mpr inside)

@[simp] theorem num_clean : (s.clean id).num = s.num := by
  unfold CamCtl.clean clear_cam_entry rtw_camid_free
  split
  · exact num_map_clr s id
  · rfl

@[simp] theorem num_rewrite (cache : SecCamEnt) : (s.rewrite id cache).num = s.num := by
  unfold CamCtl.rewrite rtw_camid_set
  split
  · exact num_map_set _ id
  · rfl

theorem used_clean (sized : s.Sized) (inside : id < s.num) : (s.clean id).used = Function.update s.used id false := by
  unfold CamCtl.clean clear_cam_entry rtw_camid_free rtw_sec_cam_map_clr
  rw [if_pos inside, if_pos (Nat.lt_of_lt_of_le inside sized)]
  rfl

theorem cam_cache_clean : (s.clean id).cam_cache = Function.update s.cam_cache id .zero := by
  unfold CamCtl.clean clear_cam_entry rtw_camid_free rtw_sec_cam_map_clr
  split_ifs <;> rfl

theorem cam_clean : (s.clean id).cam = Function.update s.cam id .zero := by
  unfold CamCtl.clean clear_cam_entry rtw_camid_free rtw_sec_cam_map_clr
  split_ifs <;> rfl

theorem used_rewrite (sized : s.Sized) (inside : id < s.num) (cache : SecCamEnt) :
    (s.rewrite id cache).used = Function.update s.used id true := by
  unfold CamCtl.rewrite rtw_camid_set rtw_sec_cam_map_set
  rw [if_pos (show id < (write_cam s id cache).num from inside), if_pos (Nat.lt_of_lt_of_le inside sized)]
  rfl

theorem cam_cache_rewrite (cache : SecCamEnt) :
    (s.rewrite id cache).cam_cache = Function.update s.cam_cache id cache := by
  unfold CamCtl.rewrite rtw_camid_set rtw_sec_cam_map_set
  split_ifs <;> rfl

theorem cam_rewrite (cache : SecCamEnt) : (s.rewrite id cache).cam = Function.update s.cam id cache := by
  unfold CamCtl.rewrite rtw_camid_set rtw_sec_cam_map_set
  split_ifs <;> rfl

end

/-! ## Two entries -/

/-- The hardware holds what the driver keeps for the entries in use. -/
def CamCtl.Mirrored (s : CamCtl) : Prop := ∀ i, i < s.num -> s.used i = true -> s.cam i = s.cam_cache i

/-- What becomes of an entry: it gets the other's contents when that one was in use; when
only itself was in use, it is cleared. -/
def swapped_entry (s : CamCtl) (table : Nat -> SecCamEnt) (i other : Nat) : SecCamEnt :=
  if s.used other then s.cam_cache other else if s.used i then .zero else table i

section

variable {s : CamCtl} {a b : Nat}

/-- All that a swap does. -/
structure SwapOf (s : CamCtl) (a b : Nat) (after : CamCtl) : Prop where
  num : after.num = s.num
  used : ∀ i, after.used i = s.used (Equiv.swap a b i)
  cam_cache_a : after.cam_cache a = swapped_entry s s.cam_cache a b
  cam_cache_b : after.cam_cache b = swapped_entry s s.cam_cache b a
  cam_a : after.cam a = swapped_entry s s.cam a b
  cam_b : after.cam b = swapped_entry s s.cam b a
  others : ∀ i, i ≠ a -> i ≠ b -> after.cam_cache i = s.cam_cache i ∧ after.cam i = s.cam i

theorem SwapOf.symm {after : CamCtl} (swap : SwapOf s a b after) : SwapOf s b a after where
  num := swap.num
  used := Equiv.swap_comm a b ▸ swap.used
  cam_cache_a := swap.cam_cache_b
  cam_cache_b := swap.cam_cache_a
  cam_a := swap.cam_b
  cam_b := swap.cam_a
  others := fun i other_b other_a => swap.others i other_a other_b

theorem CamCtl.Sized.clean (sized : s.Sized) (id : Nat) : (s.clean id).Sized := by
  unfold CamCtl.Sized
  rw [num_clean]
  exact sized

theorem CamCtl.Sized.rewrite (sized : s.Sized) (id : Nat) (cache : SecCamEnt) : (s.rewrite id cache).Sized := by
  unfold CamCtl.Sized
  rw [num_rewrite]
  exact sized

theorem swapOf_unused (used_a : s.used a = false) (used_b : s.used b = false) : SwapOf s a b s := by
  refine ⟨rfl, fun i => ?_, ?_, ?_, ?_, ?_, fun i _ _ => ⟨rfl, rfl⟩⟩
  · rw [Equiv.swap_apply_def]
    split_ifs with at_a at_b
    · rw [at_a, used_a, used_b]
    · rw [at_b, used_a, used_b]
    · rfl
  all_goals simp only [swapped_entry, used_a, used_b, Bool.false_eq_true, if_false]

theorem swapOf_moved (sized : s.Sized) (inside_a : a < s.num) (inside_b : b < s.num) (different : a ≠ b)
    (used_a : s.used a = true) (used_b : s.used b = false) :
    SwapOf s a b ((s.clean a).rewrite b (s.cam_cache a)) := by
  refine ⟨by rw [num_rewrite, num_clean], fun i => ?_, ?_, ?_, ?_, ?_, fun i other_a other_b => ?_⟩
  · rw [used_rewrite (sized.clean a) (num_clean.symm ▸ inside_b), used_clean sized inside_a, Equiv.swap_apply_def]
    split_ifs with at_a at_b
    · rw [at_a, update_of_ne different, update_self, used_b]
    · rw [at_b, update_self, used_a]
    · rw [update_of_ne at_b, update_of_ne at_a]
  · rw [cam_cache_rewrite, cam_cache_clean, update_of_ne different, update_self]
    simp only [swapped_entry, used_a, used_b, Bool.false_eq_true, if_false, if_true]
  · rw [cam_cache_rewrite, update_self]
    simp only [swapped_entry, used_a, if_true]
  · rw [cam_rewrite, cam_clean, update_of_ne different, update_self]
    simp only [swapped_entry, used_a, used_b, Bool.false_eq_true, if_false, if_true]
  · rw [cam_rewrite, update_self]
    simp only [swapped_entry, used_a, if_true]
  · rw [cam_cache_rewrite, cam_cache_clean, cam_rewrite, cam_clean, update_of_ne other_b,
      update_of_ne other_a, update_of_ne other_b, update_of_ne other_a]
    exact ⟨rfl, rfl⟩

theorem swapOf_used (sized : s.Sized) (inside_a : a < s.num) (inside_b : b < s.num) (different : a ≠ b)
    (used_a : s.used a = true) (used_b : s.used b = true) :
    SwapOf s a b ((((s.clean a).clean b).rewrite b (s.cam_cache a)).rewrite a (s.cam_cache b)) := by
  have cleaned := (sized.clean a).clean b
  have inside : b < ((s.clean a).clean b).num := by rw [num_clean, num_clean]; exact inside_b
  have used : ((((s.clean a).clean b).rewrite b (s.cam_cache a)).rewrite a (s.cam_cache b)).used = s.used := by
    rw [used_rewrite (cleaned.rewrite _ _) (by rw [num_rewrite, num_clean, num_clean]; exact inside_a),
      used_rewrite cleaned inside, used_clean (sized.clean a) (num_clean.symm ▸ inside_b),
      used_clean sized inside_a]
    funext i
    by_cases at_a : i = a
    · rw [at_a, update_self, used_a]
    · by_cases at_b : i = b
      · rw [at_b, update_of_ne different.symm, update_self, used_b]
      · rw [update_of_ne at_a, update_of_ne at_b, update_of_ne at_b, update_of_ne at_a]
  refine ⟨by rw [num_rewrite, num_rewrite, num_clean, num_clean], fun i => ?_, ?_, ?_, ?_, ?_,
    fun i other_a other_b => ?_⟩
  · rw [used, Equiv.swap_apply_def]
    split_ifs with at_a at_b
    · rw [at_a, used_a, used_b]
    · rw [at_b, used_a, used_b]
    · rfl
  · rw [cam_cache_rewrite, update_self]
    simp only [swapped_entry, used_b, if_true]
  · rw [cam_cache_rewrite, cam_cache_rewrite, update_of_ne different.symm, update_self]
    simp only [swapped_entry, used_a, if_true]
  · rw [cam_rewrite, update_self]
    simp only [swapped_entry, used_b, if_true]
  · rw [cam_rewrite, cam_rewrite, update_of_ne different.symm, update_self]
    simp only [swapped_entry, used_a, if_true]
  · rw [cam_cache_rewrite, cam_cache_rewrite, cam_cache_clean, cam_cache_clean, cam_rewrite, cam_rewrite,
      cam_clean, cam_clean, update_of_ne other_a, update_of_ne other_b,
      update_of_ne other_b, update_of_ne other_a, update_of_ne other_a,
      update_of_ne other_b, update_of_ne other_b, update_of_ne other_a]
    exact ⟨rfl, rfl⟩

theorem swapOf_swap (sized : s.Sized) (inside_a : a < s.num) (inside_b : b < s.num) (different : a ≠ b) :
    SwapOf s a b (rtw_sec_cam_swap s a b) := by
  unfold rtw_sec_cam_swap
  rw [if_neg different, is_used_of_lt inside_a, is_used_of_lt inside_b]
  dsimp only
  cases used_a : s.used a with
  | false =>
      cases used_b : s.used b with
      | false => exact swapOf_unused used_a used_b
      | true => exact (swapOf_moved sized inside_b inside_a different.symm used_b used_a).symm
  | true =>
      cases used_b : s.used b with
      | false => exact swapOf_moved sized inside_a inside_b different used_a used_b
      | true => exact swapOf_used sized inside_a inside_b different used_a used_b

/-- The used flags and the contents of used entries are exchanged.  An entry that is left
unused by its key is cleared, and one that was unused beside an unused one stays. -/
structure Exchanged (s : CamCtl) (a b : Nat) (after : CamCtl) : Prop where
  used : ∀ i, after.used i = s.used (Equiv.swap a b i)
  contents : ∀ i, after.used i = true -> after.cam_cache i = s.cam_cache (Equiv.swap a b i)
  left : ∀ i, s.used i = true -> after.used i = false -> after.cam_cache i = .zero ∧ after.cam i = .zero
  stays : ∀ i, s.used i = false -> after.used i = false ->
    after.cam_cache i = s.cam_cache i ∧ after.cam i = s.cam i
  others : ∀ i, i ≠ a -> i ≠ b -> after.cam_cache i = s.cam_cache i ∧ after.cam i = s.cam i
  mirrored : s.Mirrored -> after.Mirrored

theorem SwapOf.exchanged {after : CamCtl} (swap : SwapOf s a b after) : Exchanged s a b after := by
  have used_a := (swap.used a).trans (congrArg s.used (Equiv.swap_apply_left a b))
  have used_b := (swap.used b).trans (congrArg s.used (Equiv.swap_apply_right a b))
  have used_other {i : Nat} (other_a : i ≠ a) (other_b : i ≠ b) : after.used i = s.used i :=
    (swap.used i).trans (congrArg s.used (Equiv.swap_apply_of_ne_of_ne other_a other_b))
  refine ⟨swap.used, fun i used => ?_, fun i before unused => ?_, fun i before unused => ?_, swap.others,
    fun mirrored i inside used => ?_⟩
  · by_cases at_a : i = a
    · rw [at_a, used_a] at used
      rw [at_a, swap.cam_cache_a, swapped_entry, if_pos used, Equiv.swap_apply_left]
    · by_cases at_b : i = b
      · rw [at_b, used_b] at used
        rw [at_b, swap.cam_cache_b, swapped_entry, if_pos used, Equiv.swap_apply_right]
      · rw [(swap.others i at_a at_b).1, Equiv.swap_apply_of_ne_of_ne at_a at_b]
  · by_cases at_a : i = a
    · rw [at_a, used_a] at unused
      rw [at_a] at before ⊢
      rw [swap.cam_cache_a, swap.cam_a]
      simp only [swapped_entry, unused, before, Bool.false_eq_true, if_false, if_true, and_self]
    · by_cases at_b : i = b
      · rw [at_b, used_b] at unused
        rw [at_b] at before ⊢
        rw [swap.cam_cache_b, swap.cam_b]
        simp only [swapped_entry, unused, before, Bool.false_eq_true, if_false, if_true, and_self]
      · rw [used_other at_a at_b, before] at unused
        exact nomatch unused
  · by_cases at_a : i = a
    · rw [at_a, used_a] at unused
      rw [at_a] at before ⊢
      rw [swap.cam_cache_a, swap.cam_a]
      simp only [swapped_entry, unused, before, Bool.false_eq_true, if_false, and_self]
    · by_cases at_b : i = b
      · rw [at_b, used_b] at unused
        rw [at_b] at before ⊢
        rw [swap.cam_cache_b, swap.cam_b]
        simp only [swapped_entry, unused, before, Bool.false_eq_true, if_false, and_self]
      · exact swap.others i at_a at_b
  · by_cases at_a : i = a
    · rw [at_a, used_a] at used
      rw [at_a, swap.cam_a, swap.cam_cache_a, swapped_entry, swapped_entry, if_pos used, if_pos used]
    · by_cases at_b : i = b
      · rw [at_b, used_b] at used
        rw [at_b, swap.cam_b, swap.cam_cache_b, swapped_entry, swapped_entry, if_pos used, if_pos used]
      · rw [used_other at_a at_b] at used
        rw [(swap.others i at_a at_b).1, (swap.others i at_a at_b).2]
        exact mirrored i (swap.num ▸ inside) used

theorem exchanged_swap (sized : s.Sized) (inside_a : a < s.num) (inside_b : b < s.num) :
    Exchanged s a b (rtw_sec_cam_swap s a b) := by
  by_cases same : a = b
  · have nothing : rtw_sec_cam_swap s a b = s := by
      unfold rtw_sec_cam_swap
      rw [if_pos same]
    have identity (i : Nat) : Equiv.swap a b i = i := by
      rw [same, Equiv.swap_self, Equiv.refl_apply]
    rw [nothing]
    refine ⟨fun i => by rw [identity], fun i _ => by rw [identity], fun i used unused => ?_,
      fun i _ _ => ⟨rfl, rfl⟩, fun i _ _ => ⟨rfl, rfl⟩, fun mirrored => mirrored⟩
    exact absurd (used.symm.trans unused) Bool.true_eq_false_eq_False
  · exact (swapOf_swap sized inside_a inside_b same).exchanged

end

def used_entries (s : CamCtl) : List SecCamEnt :=
  (List.range s.num).filterMap (fun i => if rtw_sec_camid_is_used s i then some (s.cam_cache i) else none)

theorem range_map_swap_perm {n a b : Nat} (inside_a : a < n) (inside_b : b < n) :
    ((List.range n).map (Equiv.swap a b)).Perm (List.range n) := by
  rw [List.perm_ext_iff_of_nodup (List.nodup_range.map (Equiv.swap a b).injective) List.nodup_range]
  intro i
  have within (k : Nat) (bound : k < n) : Equiv.swap a b k < n := by
    rw [Equiv.swap_apply_def]
    split_ifs <;> assumption
  rw [List.mem_map, List.mem_range]
  constructor
  · intro ⟨k, member, same⟩
    rw [← same]
    exact within k (List.mem_range.mp member)
  · intro bound
    exact ⟨Equiv.swap a b i, List.mem_range.mpr (within i bound), Equiv.swap_apply_self a b i⟩

theorem used_entries_swap {s after : CamCtl} {a b : Nat} (num : after.num = s.num) (inside_a : a < s.num)
    (inside_b : b < s.num) (exchanged : Exchanged s a b after) : (used_entries after).Perm (used_entries s) := by
  have same : used_entries after = ((List.range s.num).map (Equiv.swap a b)).filterMap
      (fun i => if rtw_sec_camid_is_used s i then some (s.cam_cache i) else none) := by
    unfold used_entries
    rw [List.filterMap_map, num]
    refine List.filterMap_congr (fun i member => ?_)
    have inside := List.mem_range.mp member
    have other : Equiv.swap a b i < s.num := by
      rw [Equiv.swap_apply_def]
      split_ifs <;> assumption
    rw [Function.comp_apply, is_used_of_lt other, is_used_of_lt (num ▸ inside), ← exchanged.used i]
    cases used : after.used i with
    | false => rfl
    | true =>
        rw [if_pos rfl, if_pos rfl, exchanged.contents i used]
  rw [same]
  exact (range_map_swap_perm inside_a inside_b).filterMap _

def unused_behind (s : CamCtl) : Finset Nat :=
  (Finset.range s.num).filter (fun i => 4 ≤ i ∧ rtw_sec_camid_is_used s i = false)

section

variable {s : CamCtl}

theorem get_empty_cam_entry_some {ept_cam_id : Nat} (found : rtw_get_empty_cam_entry s 4 = some ept_cam_id) :
    ept_cam_id < s.num ∧ ept_cam_id ∈ unused_behind s := by
  have member := List.mem_range'_1.mp (List.mem_of_find?_eq_some found)
  have unused := List.find?_some found
  rw [Bool.not_eq_true'] at unused
  have inside : ept_cam_id < s.num := by omega
  exact ⟨inside, Finset.mem_filter.mpr ⟨Finset.mem_range.mpr inside, member.1, unused⟩⟩

theorem get_empty_cam_entry_none (none : rtw_get_empty_cam_entry s 4 = none) : unused_behind s = ∅ := by
  refine Finset.eq_empty_of_forall_notMem (fun i member => ?_)
  obtain ⟨inside, behind, unused⟩ := Finset.mem_filter.mp member
  have bound := Finset.mem_range.mp inside
  have used := List.find?_eq_none.mp none i (List.mem_range'_1.mpr (by omega))
  rw [unused] at used
  exact used rfl

theorem lt_num_of_is_used {i : Nat} (used : rtw_sec_camid_is_used s i = true) : i < s.num := by
  unfold rtw_sec_camid_is_used at used
  split at used
  case isTrue outside => cases used
  case isFalse inside => exact Nat.not_le.mp inside

/-- What the move of one key does to the used flags. -/
structure Moved (s : CamCtl) (i ept_cam_id : Nat) (after : CamCtl) : Prop where
  num : after.num = s.num
  emptied : rtw_sec_camid_is_used after i = false
  taken : unused_behind after = (unused_behind s).erase ept_cam_id
  others : ∀ k, k < 4 -> k ≠ i -> rtw_sec_camid_is_used after k = rtw_sec_camid_is_used s k

theorem moved_swap (sized : s.Sized) {i ept_cam_id : Nat} (low : i < 4) (used : rtw_sec_camid_is_used s i = true)
    (found : rtw_get_empty_cam_entry s 4 = some ept_cam_id) :
    Moved s i ept_cam_id (rtw_sec_cam_swap s i ept_cam_id) := by
  obtain ⟨inside, member⟩ := get_empty_cam_entry_some found
  obtain ⟨_, behind, unused⟩ := Finset.mem_filter.mp member
  have inside_i := lt_num_of_is_used used
  have different : i ≠ ept_cam_id := by omega
  have swap := swapOf_swap sized inside_i inside different
  have same (k : Nat) : rtw_sec_camid_is_used (rtw_sec_cam_swap s i ept_cam_id) k =
      rtw_sec_camid_is_used s (Equiv.swap i ept_cam_id k) := by
    unfold rtw_sec_camid_is_used
    rw [swap.num, swap.used, Equiv.swap_apply_def]
    split_ifs <;> first | rfl | omega
  refine ⟨swap.num, ?_, ?_, fun k small other => ?_⟩
  · rw [same, Equiv.swap_apply_left, unused]
  · ext k
    simp only [unused_behind, Finset.mem_filter, Finset.mem_range, Finset.mem_erase, swap.num, same]
    by_cases here : k = ept_cam_id
    · rw [here, Equiv.swap_apply_right, used]
      exact iff_of_false (fun impossible => nomatch impossible.2.2) (fun impossible => impossible.1 rfl)
    · by_cases at_i : k = i
      · exact iff_of_false (fun impossible => by omega) (fun impossible => by omega)
      · rw [Equiv.swap_apply_of_ne_of_ne at_i here]
        exact (and_iff_right here).symm
  · rw [same, Equiv.swap_apply_of_ne_of_ne other (by omega)]

/-- Every key is kept, and the hardware follows. -/
structure KeysKept (s after : CamCtl) : Prop where
  num : after.num = s.num
  entries : (used_entries after).Perm (used_entries s)
  mirrored : s.Mirrored -> after.Mirrored

theorem clean_dk_entries_kept (section_ : List Nat) (sized : s.Sized) : KeysKept s (clean_dk_entries section_ s) := by
  induction section_ generalizing s with
  | nil => exact ⟨rfl, List.Perm.refl _, fun mirrored => mirrored⟩
  | cons i rest ih =>
      unfold clean_dk_entries
      split
      case isFalse unused => exact ih sized
      case isTrue used =>
        cases found : rtw_get_empty_cam_entry s 4 with
        | none => exact ih sized
        | some ept_cam_id =>
            have inside := (get_empty_cam_entry_some found).1
            have inside_i := lt_num_of_is_used used
            have exchanged := exchanged_swap sized inside_i inside
            have num : (rtw_sec_cam_swap s i ept_cam_id).num = s.num := by
              by_cases same : i = ept_cam_id
              · unfold rtw_sec_cam_swap
                rw [if_pos same]
              · exact (swapOf_swap sized inside_i inside same).num
            have kept := ih (show (rtw_sec_cam_swap s i ept_cam_id).Sized by
              unfold CamCtl.Sized; rw [num]; exact sized)
            exact ⟨kept.num.trans num, kept.entries.trans (used_entries_swap num inside_i inside exchanged),
              fun mirrored => kept.mirrored (exchanged.mirrored mirrored)⟩

theorem clean_dk_entries_emptied (section_ : List Nat) (low : ∀ i ∈ section_, i < 4)
    (distinct : section_.Nodup) (sized : s.Sized)
    (room : section_.countP (rtw_sec_camid_is_used s) ≤ (unused_behind s).card) :
    (∀ i ∈ section_, rtw_sec_camid_is_used (clean_dk_entries section_ s) i = false) ∧
      ∀ i, i < 4 -> i ∉ section_ ->
        rtw_sec_camid_is_used (clean_dk_entries section_ s) i = rtw_sec_camid_is_used s i := by
  induction section_ generalizing s with
  | nil => exact ⟨fun _ member => absurd member List.not_mem_nil, fun _ _ _ => rfl⟩
  | cons i rest ih =>
      obtain ⟨fresh, others⟩ := List.nodup_cons.mp distinct
      have small := low i List.mem_cons_self
      have later := fun k member => low k (List.mem_cons_of_mem i member)
      unfold clean_dk_entries
      cases used : rtw_sec_camid_is_used s i with
      | false =>
          rw [List.countP_cons_of_neg (by rw [used]; exact Bool.false_ne_true)] at room
          obtain ⟨emptied, kept⟩ := ih later others sized room
          simp only [Bool.false_eq_true, if_false]
          refine ⟨fun k member => ?_, fun k bound outside => kept k bound (fun member => outside
            (List.mem_cons_of_mem i member))⟩
          rcases List.mem_cons.mp member with rfl | member
          · exact (kept k small fresh).trans used
          · exact emptied k member
      | true =>
          rw [List.countP_cons_of_pos used] at room
          simp only [if_true]
          cases found : rtw_get_empty_cam_entry s 4 with
          | none =>
              rw [get_empty_cam_entry_none found, Finset.card_empty] at room
              exact absurd room (Nat.not_succ_le_zero _)
          | some ept_cam_id =>
              have moved := moved_swap sized small used found
              have same : rest.countP (rtw_sec_camid_is_used (rtw_sec_cam_swap s i ept_cam_id)) =
                  rest.countP (rtw_sec_camid_is_used s) :=
                List.countP_congr (fun k member => by
                  rw [moved.others k (later k member) (fun at_i => fresh (at_i ▸ member))])
              have fewer := Finset.card_erase_of_mem (get_empty_cam_entry_some found).2
              obtain ⟨emptied, kept⟩ := ih later others
                (show (rtw_sec_cam_swap s i ept_cam_id).Sized by unfold CamCtl.Sized; rw [moved.num]; exact sized)
                (by rw [same, moved.taken, fewer]; omega)
              dsimp only
              refine ⟨fun k member => ?_, fun k bound outside => ?_⟩
              · rcases List.mem_cons.mp member with rfl | member
                · exact (kept k small fresh).trans moved.emptied
                · exact emptied k member
              · obtain ⟨other, beyond⟩ := not_or.mp (fun either => outside (List.mem_cons.mpr either))
                exact (kept k bound beyond).trans (moved.others k bound other)

end

/-- What is expected of the two functions. -/
structure Relocates (s : CamCtl) : Prop where
  swap : ∀ a b, a < s.num -> b < s.num -> Exchanged s a b (rtw_sec_cam_swap s a b)
  kept : KeysKept s (rtw_clean_dk_section s)
  emptied : [0, 1, 2, 3].countP (rtw_sec_camid_is_used s) ≤ (unused_behind s).card ->
    ∀ i, i < 4 -> rtw_sec_camid_is_used (rtw_clean_dk_section s) i = false

theorem cam_relocates {s : CamCtl} (sized : s.Sized) : Relocates s where
  swap := fun _ _ inside_a inside_b => exchanged_swap sized inside_a inside_b
  kept := clean_dk_entries_kept _ sized
  emptied := by
    intro room i small
    have low : ∀ k, k ∈ [0, 1, 2, 3] -> k < 4 := by decide
    refine (clean_dk_entries_emptied [0, 1, 2, 3] low (by decide) sized room).1 i ?_
    simp only [List.mem_cons, List.not_mem_nil, or_false]
    omega

/-- A CAM of 32 entries with default keys in the first two; every unused entry still holds
an old key. -/
def test_cam : CamCtl where
  num := 32
  chk_bmc := true
  conflict := false
  used := fun i => i < 2
  cam_cache := fun _ => ⟨1, .zero, List.replicate 16 7⟩
  cam := fun _ => ⟨1, .zero, List.replicate 16 7⟩

theorem cam_relocates_two : Relocates test_cam := cam_relocates (Nat.le_refl 32)

/-- The old key of an unused entry does not move: the entry of a used one is cleared. -/
theorem swap_forgets_unused :
    ¬ ∀ (s : CamCtl) (a b : Nat), s.Sized -> a < s.num -> b < s.num ->
      ∀ i, (rtw_sec_cam_swap s a b).cam_cache i = s.cam_cache (Equiv.swap a b i) := by
  intro exchanges
  have sized : test_cam.Sized := Nat.le_refl 32
  have moved := exchanges test_cam 0 4 sized (by decide) (by decide) 0
  rw [Equiv.swap_apply_left] at moved
  exact absurd moved (by decide)

end Rtl8821ce
