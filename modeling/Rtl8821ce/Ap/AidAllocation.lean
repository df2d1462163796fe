import Rtl8821ce.Library.Ring
import Rtl8821ce.Library.Run

/-!
# Association ids

`rtw_aid_alloc` looks for a free entry of `sta_aid`, from `started_aid` on and
around the end of the table.  It counts the entries in use that it passes, and
refuses a station when the count reaches `max_num_sta`; entries behind the first
free one are never counted.  With `rr_aid` the next search starts behind the id
handed out last.

Stations are named by the numbers of their `sta_info`.
-/

namespace Rtl8821ce

open Function (update_of_ne update_self)

variable {stapriv : AidPriv}

/-- The fields of `struct sta_priv` that hold association ids, and `cmn.aid` of
the stations.  Entry `a - 1` of `sta_aid` belongs to id `a`. -/
structure AidPriv where
  sta_aid : Nat -> Option Nat
  max_aid : Nat
  started_aid : Nat
  rr_aid : Bool
  max_num_sta : Nat
  aid : Nat -> Nat

/-- The entry that the search looks at in its round `i`. -/
def AidPriv.entry (stapriv : AidPriv) (i : Nat) : Nat :=
  (i + stapriv.started_aid - 1) % stapriv.max_aid

/-- The loop of `rtw_aid_alloc`: `i`, `used_cnt` and `aid` as it leaves them. -/
def aid_loop (stapriv : AidPriv) : (rounds i used_cnt aid : Nat) -> Nat × Nat × Nat
  | 0, i, used_cnt, aid => (i, used_cnt, aid)
  | rounds + 1, i, used_cnt, _ =>
      let aid := stapriv.entry i + 1
      if (stapriv.sta_aid (aid - 1)).isNone then (i, used_cnt, aid)
      else if used_cnt + 1 >= stapriv.max_num_sta then (i, used_cnt + 1, aid)
      else aid_loop stapriv rounds (i + 1) (used_cnt + 1) aid

/-- Give a station an id.  The answer is the id, or 0 when there is none. -/
def rtw_aid_alloc (stapriv : AidPriv) (sta : Nat) : Nat × AidPriv :=
  let search := aid_loop stapriv stapriv.max_aid 0 0 0
  -- check for aid limit and assoc limit
  let aid :=
    if search.1 >= stapriv.max_aid ∨ search.2.1 >= stapriv.max_num_sta then 0 else search.2.2
  let named := { stapriv with aid := Function.update stapriv.aid sta aid }
  (aid,
    if aid = 0 then named
    else
      { named with
        sta_aid := Function.update stapriv.sta_aid (aid - 1) (some sta)
        started_aid := if stapriv.rr_aid then aid % stapriv.max_aid + 1 else stapriv.started_aid })

/-- The release of an id in `rtw_free_stainfo`, on an interface that is an access point. -/
def rtw_free_stainfo_aid (stapriv : AidPriv) (psta : Nat) : AidPriv :=
  if 0 < stapriv.aid psta ∧ stapriv.sta_aid (stapriv.aid psta - 1) = some psta then
    { stapriv with
      sta_aid := Function.update stapriv.sta_aid (stapriv.aid psta - 1) none
      aid := Function.update stapriv.aid psta 0 }
  else stapriv

/-- What happens to ids between two states. -/
inductive AidEvent
  | rtw_aid_alloc (sta : Nat)
  | rtw_free_stainfo (psta : Nat)

/-- One event.  Both callers of `rtw_aid_alloc` keep the id of a station that has one. -/
def AidPriv.step (stapriv : AidPriv) : AidEvent -> AidPriv
  | .rtw_aid_alloc sta =>
      if 0 < stapriv.aid sta then stapriv else (Rtl8821ce.rtw_aid_alloc stapriv sta).2
  | .rtw_free_stainfo psta => rtw_free_stainfo_aid stapriv psta

/-- `sta_priv` before the first association. -/
def AidPriv.initial (max_aid started_aid max_num_sta : Nat) (rr_aid : Bool) : AidPriv where
  sta_aid := fun _ => none
  max_aid := max_aid
  started_aid := started_aid
  rr_aid := rr_aid
  max_num_sta := max_num_sta
  aid := fun _ => 0

def AidPriv.used (stapriv : AidPriv) (i : Nat) : Bool := (stapriv.sta_aid i).isSome

def AidPriv.used_cnt (stapriv : AidPriv) : Nat := (Ring.places stapriv.max_aid stapriv.used).card

/-- The table and the stations agree, the search starts inside the table, and
the limit on stations is kept and is the only reason to refuse one besides a
full table. -/
structure AidsConsistent (stapriv : AidPriv) : Prop where
  agree : ∀ a sta, 1 ≤ a -> a ≤ stapriv.max_aid ->
    (stapriv.sta_aid (a - 1) = some sta <-> stapriv.aid sta = a)
  unshared : ∀ first second, stapriv.aid first ≠ 0 -> stapriv.aid first = stapriv.aid second ->
    first = second
  inside : ∀ sta, stapriv.aid sta ≤ stapriv.max_aid
  started : 1 ≤ stapriv.started_aid ∧ stapriv.started_aid ≤ stapriv.max_aid
  limit : ∀ holders : Finset Nat, (∀ sta ∈ holders, stapriv.aid sta ≠ 0) ->
    holders.card ≤ stapriv.max_num_sta
  refused : ∀ sta, (rtw_aid_alloc stapriv sta).1 = 0 ->
    stapriv.max_num_sta ≤ stapriv.used_cnt ∨ stapriv.used_cnt = stapriv.max_aid

/-- A station that asks for an id finds room below the limit, or finds the first
`max_num_sta` entries from `started_aid` on all in use. -/
def CountedOrRoom (stapriv : AidPriv) : AidEvent -> Prop
  | .rtw_aid_alloc sta =>
      stapriv.aid sta = 0 ->
        stapriv.used_cnt < stapriv.max_num_sta ∨
          ∀ i, i < stapriv.max_num_sta -> i < stapriv.max_aid ->
            stapriv.used (stapriv.entry i) = true
  | .rtw_free_stainfo _ => True

theorem AidPriv.entry_eq (started : 1 ≤ stapriv.started_aid) (i : Nat) :
    stapriv.entry i = Ring.place stapriv.max_aid (stapriv.started_aid - 1) i := by
  unfold AidPriv.entry Ring.place
  congr 1
  omega

/-- How the search ends. -/
inductive AidFound (stapriv : AidPriv) : Nat × Nat × Nat -> Prop
  | free (i : Nat) (inside : i < stapriv.max_aid) (below : i < stapriv.max_num_sta)
      (passed : ∀ j, j < i -> stapriv.used (stapriv.entry j) = true)
      (unused : stapriv.used (stapriv.entry i) = false) :
      AidFound stapriv (i, i, stapriv.entry i + 1)
  | limited (i aid : Nat) (inside : i < stapriv.max_aid) (reached : stapriv.max_num_sta = i + 1)
      (passed : ∀ j, j < i + 1 -> stapriv.used (stapriv.entry j) = true) :
      AidFound stapriv (i, i + 1, aid)
  | full (aid : Nat) (passed : ∀ j, j < stapriv.max_aid -> stapriv.used (stapriv.entry j) = true) :
      AidFound stapriv (stapriv.max_aid, stapriv.max_aid, aid)

theorem aid_loop_found (stapriv : AidPriv) {rounds i : Nat} (left : i + rounds = stapriv.max_aid)
    (below : i < stapriv.max_num_sta) (passed : ∀ j, j < i -> stapriv.used (stapriv.entry j) = true) (aid : Nat) :
    AidFound stapriv (aid_loop stapriv rounds i i aid) := by
  induction rounds generalizing i aid with
  | zero =>
      have ended : i = stapriv.max_aid := left
      rw [aid_loop, ended]
      exact .full aid (ended ▸ passed)
  | succ rounds ih =>
      rw [aid_loop, Nat.add_sub_cancel]
      by_cases unused : (stapriv.sta_aid (stapriv.entry i)).isNone = true
      · rw [if_pos unused]
        refine .free i (by omega) below passed ?_
        rw [AidPriv.used, Option.isNone_iff_eq_none.mp unused]
        rfl
      · rw [if_neg unused]
        have here : stapriv.used (stapriv.entry i) = true := by
          rw [Bool.not_eq_true, ← Bool.not_eq_true', Option.not_isNone] at unused
          exact unused
        have further : ∀ j, j < i + 1 -> stapriv.used (stapriv.entry j) = true := by
          intro j small
          rcases Nat.lt_succ_iff_lt_or_eq.mp small with before | same
          · exact passed j before
          · rw [same]
            exact here
        by_cases limited : i + 1 >= stapriv.max_num_sta
        · rw [if_pos limited]
          exact .limited i _ (by omega) (by omega) further
        · rw [if_neg limited]
          exact ih (by omega) (by omega) further _

theorem rtw_aid_alloc_cases (limit : 1 ≤ stapriv.max_num_sta) (sta : Nat) :
    (rtw_aid_alloc stapriv sta =
        (0, { stapriv with aid := Function.update stapriv.aid sta 0 }) ∧
      ((stapriv.max_num_sta ≤ stapriv.max_aid ∧
          ∀ j, j < stapriv.max_num_sta -> stapriv.used (stapriv.entry j) = true) ∨
        ∀ j, j < stapriv.max_aid -> stapriv.used (stapriv.entry j) = true)) ∨
    ∃ i, i < stapriv.max_aid ∧ i < stapriv.max_num_sta ∧
      (∀ j, j < i -> stapriv.used (stapriv.entry j) = true) ∧
      stapriv.used (stapriv.entry i) = false ∧
      rtw_aid_alloc stapriv sta = (stapriv.entry i + 1, { stapriv with
        aid := Function.update stapriv.aid sta (stapriv.entry i + 1)
        sta_aid := Function.update stapriv.sta_aid (stapriv.entry i) (some sta)
        started_aid :=
          if stapriv.rr_aid then (stapriv.entry i + 1) % stapriv.max_aid + 1
          else stapriv.started_aid }) := by
  have found := aid_loop_found stapriv (Nat.zero_add stapriv.max_aid) limit
    (fun j impossible => absurd impossible (Nat.not_lt_zero j)) 0
  unfold rtw_aid_alloc
  generalize aid_loop stapriv stapriv.max_aid 0 0 0 = search at found ⊢
  cases found with
  | free i inside below passed unused =>
      right
      refine ⟨i, inside, below, passed, unused, ?_⟩
      dsimp only
      rw [if_neg (by omega), if_neg (Nat.succ_ne_zero _), Nat.add_sub_cancel]
  | limited i aid inside reached passed =>
      left
      dsimp only
      rw [if_pos (Or.inr (by omega)), if_pos rfl]
      exact ⟨rfl, Or.inl ⟨by omega, reached ▸ passed⟩⟩
  | full aid passed =>
      left
      dsimp only
      rw [if_pos (Or.inl (Nat.le_refl _)), if_pos rfl]
      exact ⟨rfl, Or.inr passed⟩

/-- The invariant besides the limit. -/
structure AidsAgree (stapriv : AidPriv) : Prop where
  agree : ∀ i sta, i < stapriv.max_aid ->
    (stapriv.sta_aid i = some sta <-> stapriv.aid sta = i + 1)
  inside : ∀ sta, stapriv.aid sta ≤ stapriv.max_aid
  started : 1 ≤ stapriv.started_aid ∧ stapriv.started_aid ≤ stapriv.max_aid

theorem AidsAgree.entry_lt (agrees : AidsAgree stapriv) (i : Nat) : stapriv.entry i < stapriv.max_aid :=
  Nat.mod_lt _ (by have started := agrees.started; omega)

theorem AidsAgree.alloc (agrees : AidsAgree stapriv) {sta e started_aid : Nat}
    (without : stapriv.aid sta = 0) (inside : e < stapriv.max_aid) (unused : stapriv.used e = false)
    (started : 1 ≤ started_aid ∧ started_aid ≤ stapriv.max_aid) :
    AidsAgree { stapriv with
      aid := Function.update stapriv.aid sta (e + 1)
      sta_aid := Function.update stapriv.sta_aid e (some sta)
      started_aid := started_aid } := by
  have empty : stapriv.sta_aid e = none := by
    rw [AidPriv.used, Option.isSome_eq_false_iff] at unused
    exact Option.isNone_iff_eq_none.mp unused
  refine ⟨fun i other small => ?_, fun other => ?_, started⟩
  · have before := agrees.agree i other small
    dsimp only
    by_cases place : i = e <;> by_cases same : other = sta
    · rw [place, same, update_self, update_self]
      exact iff_of_true rfl rfl
    · rw [place, empty] at before
      rw [place, update_self, update_of_ne same, ← before]
      exact iff_of_false (fun found => same (Option.some.inj found).symm) (fun found => nomatch found)
    · rw [same, without] at before
      rw [same, update_of_ne place, update_self, before]
      omega
    · rw [update_of_ne place, update_of_ne same]
      exact before
  · dsimp only
    by_cases same : other = sta
    · rw [same, update_self]
      exact inside
    · rw [update_of_ne same]
      exact agrees.inside other

theorem AidsAgree.free (agrees : AidsAgree stapriv) (psta : Nat) : AidsAgree (rtw_free_stainfo_aid stapriv psta) := by
  unfold rtw_free_stainfo_aid
  by_cases holds : 0 < stapriv.aid psta ∧ stapriv.sta_aid (stapriv.aid psta - 1) = some psta
  · rw [if_pos holds]
    refine ⟨fun i other small => ?_, fun other => ?_, agrees.started⟩
    · have before := agrees.agree i other small
      dsimp only at small ⊢
      by_cases same : other = psta
      · rw [same, update_self]
        refine iff_of_false (fun found => ?_) (Nat.succ_ne_zero i).symm
        by_cases place : i = stapriv.aid psta - 1
        · rw [place, update_self] at found
          cases found
        · rw [update_of_ne place, (agrees.agree i psta small)] at found
          omega
      · rw [update_of_ne same]
        by_cases place : i = stapriv.aid psta - 1
        · rw [place, update_self]
          refine iff_of_false (fun found => nomatch found) (fun named => ?_)
          rw [← place] at named holds
          have found := before.mpr (by rw [named, place])
          exact same (Option.some.inj (found.symm.trans holds.2))
        · rw [update_of_ne place]
          exact before
    · dsimp only
      by_cases same : other = psta
      · rw [same, update_self]
        exact Nat.zero_le _
      · rw [update_of_ne same]
        exact agrees.inside other
  · rw [if_neg holds]
    exact agrees

theorem rtw_free_stainfo_aid_used {psta i : Nat}
    (used : (rtw_free_stainfo_aid stapriv psta).used i = true) : stapriv.used i = true := by
  unfold rtw_free_stainfo_aid at used
  split_ifs at used
  case pos holds =>
      by_cases place : i = stapriv.aid psta - 1
      · rw [place, AidPriv.used, holds.2]
        rfl
      · unfold AidPriv.used at used ⊢
        dsimp only at used
        rwa [update_of_ne place] at used
  case neg => exact used

theorem rtw_free_stainfo_aid_kept (stapriv : AidPriv) (psta : Nat) :
    (rtw_free_stainfo_aid stapriv psta).max_aid = stapriv.max_aid ∧
      (rtw_free_stainfo_aid stapriv psta).started_aid = stapriv.started_aid ∧
      (rtw_free_stainfo_aid stapriv psta).max_num_sta = stapriv.max_num_sta ∧
      (rtw_free_stainfo_aid stapriv psta).rr_aid = stapriv.rr_aid := by
  unfold rtw_free_stainfo_aid
  split <;> exact ⟨rfl, rfl, rfl, rfl⟩

/-- What the callers of `rtw_aid_alloc` see of one call: nothing changes, or a
free entry that the search reached below the limit is taken. -/
theorem AidPriv.step_alloc_cases (limit : 1 ≤ stapriv.max_num_sta) (sta : Nat) :
    stapriv.step (.rtw_aid_alloc sta) = stapriv ∨
    ∃ i, stapriv.aid sta = 0 ∧ i < stapriv.max_aid ∧ i < stapriv.max_num_sta ∧
      (∀ j, j < i -> stapriv.used (stapriv.entry j) = true) ∧
      stapriv.used (stapriv.entry i) = false ∧
      stapriv.step (.rtw_aid_alloc sta) = { stapriv with
        aid := Function.update stapriv.aid sta (stapriv.entry i + 1)
        sta_aid := Function.update stapriv.sta_aid (stapriv.entry i) (some sta)
        started_aid :=
          if stapriv.rr_aid then (stapriv.entry i + 1) % stapriv.max_aid + 1
          else stapriv.started_aid } := by
  unfold AidPriv.step
  dsimp only
  by_cases named : 0 < stapriv.aid sta
  · rw [if_pos named]
    exact Or.inl rfl
  · rw [if_neg named]
    have without : stapriv.aid sta = 0 := Nat.eq_zero_of_not_pos named
    rcases rtw_aid_alloc_cases limit sta with ⟨outcome, _⟩ | ⟨i, inside, below, passed, unused, outcome⟩
    · left
      rw [outcome, ← without, Function.update_eq_self]
    · exact Or.inr ⟨i, without, inside, below, passed, unused, congrArg Prod.snd outcome⟩

theorem AidsAgree.step (agrees : AidsAgree stapriv)
    (limit : 1 ≤ stapriv.max_num_sta) (event : AidEvent) : AidsAgree (stapriv.step event) := by
  cases event with
  | rtw_aid_alloc sta =>
      rcases AidPriv.step_alloc_cases limit sta with same | ⟨i, without, _, _, _, unused, outcome⟩
      · rw [same]
        exact agrees
      · rw [outcome]
        refine agrees.alloc without (agrees.entry_lt i) unused ?_
        have started := agrees.started
        have next := Nat.mod_lt (stapriv.entry i + 1) (Nat.lt_of_lt_of_le started.1 started.2)
        split
        · omega
        · exact started
  | rtw_free_stainfo psta => exact agrees.free psta

theorem AidPriv.step_max_num_sta (limit : 1 ≤ stapriv.max_num_sta) (event : AidEvent) :
    (stapriv.step event).max_num_sta = stapriv.max_num_sta ∧
      (stapriv.step event).rr_aid = stapriv.rr_aid := by
  cases event with
  | rtw_aid_alloc sta =>
      rcases AidPriv.step_alloc_cases limit sta with same | ⟨i, _, _, _, _, _, outcome⟩
      · rw [same]
        exact ⟨rfl, rfl⟩
      · rw [outcome]
        exact ⟨rfl, rfl⟩
  | rtw_free_stainfo psta => exact (rtw_free_stainfo_aid_kept stapriv psta).2.2

theorem AidPriv.used_cnt_taken {e : Nat} (sta : Nat) (aid : Nat -> Nat) (started_aid : Nat) :
    AidPriv.used_cnt { stapriv with
      aid := aid
      sta_aid := Function.update stapriv.sta_aid e (some sta)
      started_aid := started_aid } ≤ stapriv.used_cnt + 1 := by
  have grown : Ring.places stapriv.max_aid (AidPriv.used { stapriv with
      aid := aid
      sta_aid := Function.update stapriv.sta_aid e (some sta)
      started_aid := started_aid }) ⊆ insert e (Ring.places stapriv.max_aid stapriv.used) := by
    intro i member
    rw [Ring.mem_places] at member
    rw [Finset.mem_insert, Ring.mem_places]
    by_cases place : i = e
    · exact Or.inl place
    · refine Or.inr ⟨member.1, ?_⟩
      have used := member.2
      unfold AidPriv.used at used ⊢
      dsimp only at used
      rwa [update_of_ne place] at used
  exact (Finset.card_le_card grown).trans (Finset.card_insert_le _ _)

theorem AidPriv.used_cnt_freed (stapriv : AidPriv) (psta : Nat) :
    (rtw_free_stainfo_aid stapriv psta).used_cnt ≤ stapriv.used_cnt := by
  apply Finset.card_le_card
  intro i member
  rw [Ring.mem_places, (rtw_free_stainfo_aid_kept stapriv psta).1] at member
  exact Ring.mem_places.mpr ⟨member.1, rtw_free_stainfo_aid_used member.2⟩

theorem AidsAgree.step_used_cnt (limit : 1 ≤ stapriv.max_num_sta)
    (kept : stapriv.used_cnt ≤ stapriv.max_num_sta) {event : AidEvent} (counted : CountedOrRoom stapriv event) :
    (stapriv.step event).used_cnt ≤ stapriv.max_num_sta := by
  cases event with
  | rtw_aid_alloc sta =>
      rcases AidPriv.step_alloc_cases limit sta with same | ⟨i, without, inside, below, _, unused, outcome⟩
      · rw [same]
        exact kept
      · rcases counted without with room | full
        · rw [outcome]
          exact (AidPriv.used_cnt_taken sta _ _).trans room
        · rw [full i below inside] at unused
          cases unused
  | rtw_free_stainfo psta => exact (AidPriv.used_cnt_freed stapriv psta).trans kept

/-- Every entry in use lies among the first `max_num_sta` from the start of the search. -/
def FirstFit (stapriv : AidPriv) : Prop :=
  stapriv.rr_aid = false ∧
    ∀ i, i < stapriv.max_aid -> stapriv.used (stapriv.entry i) = true -> i < stapriv.max_num_sta

theorem FirstFit.step (first : FirstFit stapriv) (agrees : AidsAgree stapriv)
    (limit : 1 ≤ stapriv.max_num_sta) (event : AidEvent) : FirstFit (stapriv.step event) := by
  cases event with
  | rtw_aid_alloc sta =>
      rcases AidPriv.step_alloc_cases limit sta with same | ⟨i, _, inside, below, _, _, outcome⟩
      · rw [same]
        exact first
      · rw [outcome, first.1]
        refine ⟨rfl, ?_⟩
        intro j small used
        change j < stapriv.max_aid at small
        by_cases place : stapriv.entry j = stapriv.entry i
        · rw [AidPriv.entry_eq agrees.started.1, AidPriv.entry_eq agrees.started.1] at place
          rw [Ring.place_injective small inside place]
          exact below
        · apply first.2 j small
          unfold AidPriv.used at used ⊢
          change (Function.update stapriv.sta_aid (stapriv.entry i) (some sta)
            (stapriv.entry j)).isSome = true at used
          rwa [update_of_ne place] at used
  | rtw_free_stainfo psta =>
      rcases rtw_free_stainfo_aid_kept stapriv psta with ⟨size, started, limited, fixed⟩
      refine ⟨fixed.trans first.1, ?_⟩
      intro j small used
      change (rtw_free_stainfo_aid stapriv psta).used
        ((j + (rtw_free_stainfo_aid stapriv psta).started_aid - 1) %
          (rtw_free_stainfo_aid stapriv psta).max_aid) = true at used
      change j < (rtw_free_stainfo_aid stapriv psta).max_aid at small
      change j < (rtw_free_stainfo_aid stapriv psta).max_num_sta
      rw [started, size] at used
      rw [limited]
      exact first.2 j (size ▸ small) (rtw_free_stainfo_aid_used used)

theorem FirstFit.used_cnt_le (first : FirstFit stapriv)
    (agrees : AidsAgree stapriv) : stapriv.used_cnt ≤ stapriv.max_num_sta := by
  refine @Ring.card_places_le_of_first _ (stapriv.started_aid - 1) _ _ ?_
  intro i small used
  rw [← AidPriv.entry_eq agrees.started.1] at used
  exact first.2 i small used

theorem AidsAgree.consistent (agrees : AidsAgree stapriv)
    (limit : 1 ≤ stapriv.max_num_sta) (kept : stapriv.used_cnt ≤ stapriv.max_num_sta) : AidsConsistent stapriv := by
  have entry_of : ∀ sta, stapriv.aid sta ≠ 0 ->
      stapriv.aid sta - 1 < stapriv.max_aid ∧ stapriv.sta_aid (stapriv.aid sta - 1) = some sta := by
    intro sta named
    have inside := agrees.inside sta
    exact ⟨by omega, (agrees.agree _ sta (by omega)).mpr (by omega)⟩
  have unshared : ∀ first second, stapriv.aid first ≠ 0 ->
      stapriv.aid first = stapriv.aid second -> first = second := by
    intro first second named same
    have one := (entry_of first named).2
    have two := (entry_of second (same ▸ named)).2
    rw [same, two] at one
    exact (Option.some.inj one).symm
  refine ⟨?_, unshared, agrees.inside, agrees.started, ?_, ?_⟩
  case refine_1 =>
    intro a sta positive inside
    rw [agrees.agree (a - 1) sta (by omega), Nat.sub_add_cancel positive]
  case refine_2 =>
    intro holders hold
    refine le_trans ?_ kept
    refine Finset.card_le_card_of_injOn (fun sta => stapriv.aid sta - 1) ?_ ?_
    · intro sta member
      rcases entry_of sta (hold sta member) with ⟨inside, found⟩
      apply Finset.mem_coe.mpr
      rw [Ring.mem_places, AidPriv.used, found]
      exact ⟨inside, rfl⟩
    · intro first firstMember second secondMember same
      have one := hold first firstMember
      have two := hold second secondMember
      apply unshared first second one
      dsimp only at same
      omega
  case refine_3 =>
    intro sta refused
    rcases rtw_aid_alloc_cases limit sta with ⟨_, ⟨fits, counted⟩ | full⟩ | ⟨i, _, _, _, _, outcome⟩
    · left
      refine @Ring.le_card_places _ (stapriv.started_aid - 1) _ _ fits ?_
      intro j small
      rw [← AidPriv.entry_eq agrees.started.1]
      exact counted j small
    · right
      refine Nat.le_antisymm (Ring.card_places_le _ _) ?_
      refine @Ring.le_card_places _ (stapriv.started_aid - 1) _ _ (Nat.le_refl _) ?_
      intro j small
      rw [← AidPriv.entry_eq agrees.started.1]
      exact full j small
    · rw [outcome] at refused
      exact absurd refused (Nat.succ_ne_zero _)

/-- Every run keeps the ids consistent, when the search always starts at the
same entry, or when each station that asks finds room below the limit or finds
the first `max_num_sta` entries of its search all in use. -/
theorem aid_run_consistent {max_aid started_aid max_num_sta : Nat} {rr_aid : Bool}
    (started : 1 ≤ started_aid ∧ started_aid ≤ max_aid) (limit : 1 ≤ max_num_sta) {events : List AidEvent}
    (keeps : rr_aid = false ∨ Run.Guarded AidPriv.step CountedOrRoom
      (.initial max_aid started_aid max_num_sta rr_aid) events) :
    AidsConsistent
      (Run.execute AidPriv.step (.initial max_aid started_aid max_num_sta rr_aid) events) := by
  have initial : AidsAgree (.initial max_aid started_aid max_num_sta rr_aid) :=
    ⟨fun i sta _ => iff_of_false (fun found => nomatch found) (Nat.succ_ne_zero i).symm,
      fun _ => Nat.zero_le _, started⟩
  have unused : (AidPriv.initial max_aid started_aid max_num_sta rr_aid).used_cnt = 0 :=
    Finset.card_eq_zero.mpr (Finset.filter_eq_empty_iff.mpr (fun _ _ => Bool.false_ne_true))
  rcases keeps with fixed | guarded
  · have any := Run.guarded_of_forall AidPriv.step (fun _ => True)
      (.initial max_aid started_aid max_num_sta rr_aid) events (fun _ _ => trivial)
    have final := @Run.Guarded.invariant _ _ _ _
      (fun stapriv => 1 ≤ stapriv.max_num_sta ∧ AidsAgree stapriv ∧ FirstFit stapriv)
      (fun stapriv event _ holds =>
        ⟨(AidPriv.step_max_num_sta holds.1 event).1 ▸ holds.1, holds.2.1.step holds.1 event,
          holds.2.2.step holds.2.1 holds.1 event⟩) _ _ any
      ⟨limit, initial, fixed, fun _ _ used => absurd used Bool.false_ne_true⟩
    exact final.2.1.consistent final.1 (final.2.2.used_cnt_le final.2.1)
  · have final := @Run.Guarded.invariant _ _ _ _
      (fun stapriv => 1 ≤ stapriv.max_num_sta ∧ AidsAgree stapriv ∧
        stapriv.used_cnt ≤ stapriv.max_num_sta)
      (fun stapriv event meets holds => by
        have same := (AidPriv.step_max_num_sta holds.1 event).1
        exact ⟨same ▸ holds.1, holds.2.1.step holds.1 event,
          same ▸ AidsAgree.step_used_cnt holds.1 holds.2.2 meets⟩) _ _ guarded
      ⟨limit, initial, unused.trans_le (Nat.zero_le _)⟩
    exact final.2.1.consistent final.1 final.2.2

/-- Two stations share a limit of one, taken in turn, with `rr_aid`. -/
theorem aid_run_consistent_in_turn :
    AidsConsistent (Run.execute AidPriv.step (.initial 2 2 1 true)
      [.rtw_aid_alloc 0, .rtw_free_stainfo 0, .rtw_aid_alloc 1]) :=
  aid_run_consistent (by decide) (by decide) (Or.inr
    ⟨fun _ => Or.inl (by decide), trivial, fun _ => Or.inl (by decide), trivial⟩)

/-- With `rr_aid` the second search starts behind the id in use and counts nothing. -/
theorem aid_run_exceeds_limit :
    ¬ AidsConsistent (Run.execute AidPriv.step (.initial 2 1 1 true)
      [.rtw_aid_alloc 0, .rtw_aid_alloc 1]) := by
  intro consistent
  have count := consistent.limit {0, 1} (by decide)
  exact absurd count (by decide)

end Rtl8821ce
