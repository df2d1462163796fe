import Rtl8821ce.Mlme.ScanQueue
import Rtl8821ce.Library.Run
import Mathlib.Data.List.MinMax

/-!
# Runs of the scan list

Every entry is in one of the two lists, and a result finds its place in one of them.  The
relation of `is_same_network` is not transitive: a hidden description is the same network as
each of two shown ones that are different.  It is merged into the first of them only, and
from then on the two are the same network, so a description must not match more than one
entry if none is to be there twice.
-/

namespace Rtl8821ce

namespace Scan

open Function (update_of_ne update_self)

variable {max_bss_cnt : Nat} {s : MlmePriv max_bss_cnt} {link : Link} {now : UInt64} {target : WlanBssidEx}
  {pnetwork : Fin max_bss_cnt}

/-! ## What holds -/

/-- The entries are in one of the two lists, once, and the counter is right. -/
structure Partitioned (s : MlmePriv max_bss_cnt) : Prop where
  partition : (s.scanned_queue ++ s.free_bss_pool).Perm (List.finRange max_bss_cnt)
  num_of_scanned : s.num_of_scanned = s.scanned_queue.length

def same (s : MlmePriv max_bss_cnt) (target : WlanBssidEx) (pnetwork : Fin max_bss_cnt) : Bool :=
  is_same_network (s.free_bss_buf pnetwork).network target false

def Distinct (s : MlmePriv max_bss_cnt) : Prop :=
  ∀ first ∈ s.scanned_queue, ∀ second ∈ s.scanned_queue,
    same s (s.free_bss_buf second).network first = true -> first = second

instance (s : MlmePriv max_bss_cnt) : Decidable (Distinct s) := inferInstanceAs (Decidable (∀ _, _))

/-- The first of the entries with the weakest signal among those that are not fixed. -/
def weakest (s : MlmePriv max_bss_cnt) : Option (Fin max_bss_cnt) :=
  (s.scanned_queue.filter (fun pnetwork => ¬ (s.free_bss_buf pnetwork).fixed)).argmin
    (fun pnetwork => (s.free_bss_buf pnetwork).network.PhyInfo.SignalStrength.toNat)

def merged (link : Link) (now : UInt64) (entry : WlanNetwork) (target : WlanBssidEx) : WlanNetwork :=
  { entry with
    last_scanned := now
    network := update_network link entry.network target (takes_elements entry.network target) }

/-- What a description does to the list. -/
structure Taken (s : MlmePriv max_bss_cnt) (link : Link) (now : UInt64) (target : WlanBssidEx)
    (next : MlmePriv max_bss_cnt) : Prop where
  somewhere : (s.free_bss_pool = [] ∧ ∀ pnetwork ∈ s.scanned_queue, (s.free_bss_buf pnetwork).fixed = true) ∨
    ∃ pnetwork, pnetwork ∈ next.scanned_queue ∧
      (next.free_bss_buf pnetwork = ⟨stored target, false, now⟩ ∨
        (pnetwork ∈ s.scanned_queue ∧ same s target pnetwork = true ∧
          next.free_bss_buf pnetwork = merged link now (s.free_bss_buf pnetwork) target))
  given_up : s.free_bss_pool = [] -> (∀ pnetwork ∈ s.scanned_queue, same s target pnetwork = false) ->
    next = match weakest s with
      | none => s
      | some pnetwork => s.set pnetwork ⟨stored target, false, now⟩
  probe_response : ∀ pnetwork ∈ s.scanned_queue, same s target pnetwork = true ->
    (s.free_bss_buf pnetwork).network.bss_type = .PROB_RSP -> target.bss_type = .BCN ->
      (next.free_bss_buf pnetwork).network.IEs = (s.free_bss_buf pnetwork).network.IEs

def Takes (jiffies_to_msecs : UInt64 -> UInt32) (s : MlmePriv max_bss_cnt) : ScanOperation max_bss_cnt -> Prop
  | .update_scanned_network link now target =>
      Taken s link now target (scan_step jiffies_to_msecs s (.update_scanned_network link now target))
  | .free_network_queue _ _ _ | .free_network_nolock _ | .set_fixed _ _ => True

/-- A description whose elements are taken over is the same network as no other entry. -/
def MatchesOnce (s : MlmePriv max_bss_cnt) : ScanOperation max_bss_cnt -> Prop
  | .update_scanned_network _ _ target =>
      ∀ found, s.scanned_queue.find? (same s target) = some found ->
        takes_elements (s.free_bss_buf found).network target = true ->
          ∀ other ∈ s.scanned_queue, same s target other = true -> other = found
  | .free_network_queue _ _ _ | .free_network_nolock _ | .set_fixed _ _ => True

theorem search_found (free_bss_buf : Fin max_bss_cnt -> WlanNetwork) (choice : Option (Fin max_bss_cnt))
    (queue : List (Fin max_bss_cnt)) :
    (search false free_bss_buf target choice queue).1 =
      queue.find? (fun pnetwork => is_same_network (free_bss_buf pnetwork).network target false) := by
  fun_induction search false free_bss_buf target choice queue with
  | case1 choice => rfl
  | case2 choice pnetwork rest entry same => exact absurd same.1 (by rintro ⟨⟩)
  | case3 choice pnetwork rest entry different same =>
      rw [List.find?_cons_of_pos]
      exact same
  | case4 choice pnetwork rest entry different other fixed ih =>
      rw [ih, List.find?_cons_of_neg]
      exact other
  | case5 pnetwork rest entry different other unfixed ih =>
      rw [ih, List.find?_cons_of_neg]
      exact other
  | case6 pnetwork rest entry different other unfixed weakest weaker ih =>
      rw [ih, List.find?_cons_of_neg]
      exact other
  | case7 pnetwork rest entry different other unfixed weakest stronger ih =>
      rw [ih, List.find?_cons_of_neg]
      exact other

theorem search_choice (free_bss_buf : Fin max_bss_cnt -> WlanNetwork) (choice : Option (Fin max_bss_cnt))
    (queue : List (Fin max_bss_cnt))
    (none_same : ∀ pnetwork ∈ queue, is_same_network (free_bss_buf pnetwork).network target false = false) :
    (search false free_bss_buf target choice queue).2 =
      (queue.filter (fun pnetwork => ¬ (free_bss_buf pnetwork).fixed)).foldl
        (List.argAux (fun pnetwork weakest => (free_bss_buf pnetwork).network.PhyInfo.SignalStrength.toNat <
          (free_bss_buf weakest).network.PhyInfo.SignalStrength.toNat)) choice := by
  fun_induction search false free_bss_buf target choice queue with
  | case1 choice => rfl
  | case2 choice pnetwork rest entry same => exact absurd same.1 (by rintro ⟨⟩)
  | case3 choice pnetwork rest entry different same =>
      exact absurd same (Bool.not_eq_true _ ▸ none_same pnetwork List.mem_cons_self)
  | case4 choice pnetwork rest entry different other fixed ih =>
      rw [ih (fun later member => none_same later (List.mem_cons_of_mem _ member)), List.filter_cons_of_neg]
      simpa using fixed
  | case5 pnetwork rest entry different other unfixed ih =>
      rw [ih (fun later member => none_same later (List.mem_cons_of_mem _ member)), List.filter_cons_of_pos]
      · rfl
      · exact decide_eq_true unfixed
  | case6 pnetwork rest entry different other unfixed weakest weaker ih =>
      rw [ih (fun later member => none_same later (List.mem_cons_of_mem _ member)), List.filter_cons_of_pos]
      · exact congrArg (List.foldl _ · _) (if_pos (UInt8.lt_iff_toNat_lt.mp weaker)).symm
      · exact decide_eq_true unfixed
  | case7 pnetwork rest entry different other unfixed weakest stronger ih =>
      rw [ih (fun later member => none_same later (List.mem_cons_of_mem _ member)), List.filter_cons_of_pos]
      · exact congrArg (List.foldl _ · _) (if_neg (fun weaker => stronger (UInt8.lt_iff_toNat_lt.mpr weaker))).symm
      · exact decide_eq_true unfixed

/-- The queue has an entry that is the same network, or the first place that is left is taken. -/
inductive Update (s : MlmePriv max_bss_cnt) (link : Link) (now : UInt64) (target : WlanBssidEx) :
    MlmePriv max_bss_cnt -> Prop
  | merge (pnetwork : Fin max_bss_cnt) (found : s.scanned_queue.find? (same s target) = some pnetwork) :
      Update s link now target (s.set pnetwork (merged link now (s.free_bss_buf pnetwork) target))
  | drop (other : ∀ pnetwork ∈ s.scanned_queue, same s target pnetwork = false) (full : s.free_bss_pool = [])
      (fixed : weakest s = none) : Update s link now target s
  | replace (pnetwork : Fin max_bss_cnt) (other : ∀ pnetwork ∈ s.scanned_queue, same s target pnetwork = false)
      (full : s.free_bss_pool = []) (weak : weakest s = some pnetwork) :
      Update s link now target (s.set pnetwork ⟨stored target, false, now⟩)
  | store (pnetwork : Fin max_bss_cnt) (rest : List (Fin max_bss_cnt))
      (other : ∀ pnetwork ∈ s.scanned_queue, same s target pnetwork = false)
      (first : s.free_bss_pool = pnetwork :: rest) :
      Update s link now target
        { s.set pnetwork ⟨stored target, false, now⟩ with
          scanned_queue := s.scanned_queue ++ [pnetwork]
          free_bss_pool := rest
          num_of_scanned := s.num_of_scanned + 1 }

theorem update_cases (s : MlmePriv max_bss_cnt) (link : Link) (now : UInt64) (target : WlanBssidEx) :
    Update s link now target (rtw_update_scanned_network false link now target s) := by
  unfold rtw_update_scanned_network
  have finds : (search false s.free_bss_buf target none s.scanned_queue).1 = s.scanned_queue.find? (same s target) :=
    search_found s.free_bss_buf none s.scanned_queue
  cases outcome : search false s.free_bss_buf target none s.scanned_queue with
  | mk found choice =>
      rw [outcome] at finds
      dsimp only at finds ⊢
      cases found with
      | some pnetwork => exact .merge pnetwork finds.symm
      | none =>
          have other : ∀ pnetwork ∈ s.scanned_queue, same s target pnetwork = false :=
            fun pnetwork member => Bool.eq_false_iff.mpr (List.find?_eq_none.mp finds.symm pnetwork member)
          have weak : choice = weakest s := by
            rw [show choice = (search false s.free_bss_buf target none s.scanned_queue).2 by rw [outcome]]
            exact search_choice s.free_bss_buf none s.scanned_queue other
          dsimp only
          cases pool : s.free_bss_pool with
          | nil =>
              rw [if_pos rfl]
              cases choice with
              | none => exact .drop other pool weak.symm
              | some pnetwork => exact .replace pnetwork other pool weak.symm
          | cons pnetwork rest =>
              rw [if_neg (List.cons_ne_nil _ _)]
              unfold rtw_alloc_network
              rw [pool]
              dsimp only [MlmePriv.set]
              rw [Function.update_idem, update_self]
              exact .store pnetwork rest other pool

theorem takes_elements_of_probe_response {network : WlanBssidEx} (stays : network.bss_type = .PROB_RSP)
    (beacon : target.bss_type = .BCN) : takes_elements network target = false := by
  unfold takes_elements
  rw [stays, beacon]
  rfl

theorem merged_keeps {entry : WlanNetwork} (kept : takes_elements entry.network target = false) :
    (merged link now entry target).network.MacAddress = entry.network.MacAddress ∧
      (merged link now entry target).network.Ssid = entry.network.Ssid ∧
      (merged link now entry target).network.IEs = entry.network.IEs := by
  unfold merged
  rw [kept]
  exact ⟨rfl, rfl, rfl⟩

theorem merged_takes {entry : WlanNetwork} (taken : takes_elements entry.network target = true) :
    (merged link now entry target).network.MacAddress = target.MacAddress ∧
      (merged link now entry target).network.Ssid = target.Ssid ∧
      (merged link now entry target).network.IEs = target.IEs := by
  unfold merged
  rw [taken]
  exact ⟨rfl, rfl, rfl⟩

theorem all_fixed_of_weakest (fixed : weakest s = none) {pnetwork : Fin max_bss_cnt} (member : pnetwork ∈ s.scanned_queue) :
    (s.free_bss_buf pnetwork).fixed = true := by
  have empty := List.argmin_eq_none.mp fixed
  by_contra unfixed
  have left : pnetwork ∈ s.scanned_queue.filter (fun pnetwork => ¬ (s.free_bss_buf pnetwork).fixed) :=
    List.mem_filter.mpr ⟨member, decide_eq_true unfixed⟩
  rw [empty] at left
  exact List.not_mem_nil left

theorem mem_of_weakest (weak : weakest s = some pnetwork) : pnetwork ∈ s.scanned_queue :=
  (List.mem_filter.mp (List.argmin_mem weak)).1

theorem free_bss_buf_set_self (s : MlmePriv max_bss_cnt) (pnetwork : Fin max_bss_cnt) (entry : WlanNetwork) :
    (s.set pnetwork entry).free_bss_buf pnetwork = entry := update_self _ _ _

theorem free_bss_buf_set_of_ne {other pnetwork : Fin max_bss_cnt} (different : other ≠ pnetwork)
    (s : MlmePriv max_bss_cnt) (entry : WlanNetwork) :
    (s.set pnetwork entry).free_bss_buf other = s.free_bss_buf other := update_of_ne different _ _

theorem Update.taken {next : MlmePriv max_bss_cnt} (update : Update s link now target next) :
    Taken s link now target next := by
  cases update with
  | merge pnetwork found =>
      have member := List.mem_of_find?_eq_some found
      have matches_it : same s target pnetwork = true := List.find?_some found
      refine ⟨Or.inr ⟨pnetwork, member, Or.inr ⟨member, matches_it, update_self _ _ _⟩⟩, ?_, ?_⟩
      · intro _ other
        exact absurd (matches_it.symm.trans (other pnetwork member)) nofun
      · intro entry _ _ response beacon
        by_cases here : entry = pnetwork
        · subst here
          rw [free_bss_buf_set_self]
          exact (merged_keeps (takes_elements_of_probe_response response beacon)).2.2
        · rw [free_bss_buf_set_of_ne here]
  | drop other full fixed =>
      refine ⟨Or.inl ⟨full, fun _ member => all_fixed_of_weakest fixed member⟩, fun _ _ => by rw [fixed], fun _ _ _ _ _ => rfl⟩
  | replace pnetwork other full weak =>
      refine ⟨Or.inr ⟨pnetwork, show pnetwork ∈ s.scanned_queue from mem_of_weakest weak, Or.inl (update_self _ _ _)⟩, fun _ _ => by rw [weak], ?_⟩
      intro entry member matches_it
      exact absurd (matches_it.symm.trans (other entry member)) nofun
  | store pnetwork rest other first =>
      refine ⟨Or.inr ⟨pnetwork, List.mem_append_right _ List.mem_cons_self, Or.inl (update_self _ _ _)⟩, ?_, ?_⟩
      · intro full
        rw [full] at first
        cases first
      · intro entry member matches_it
        exact absurd (matches_it.symm.trans (other entry member)) nofun

theorem Partitioned.update {next : MlmePriv max_bss_cnt} (partitioned : Partitioned s)
    (update : Update s link now target next) : Partitioned next := by
  rcases partitioned with ⟨partition, num_of_scanned⟩
  cases update with
  | merge | drop | replace => exact ⟨partition, num_of_scanned⟩
  | store pnetwork rest other first =>
      constructor
      · change (s.scanned_queue ++ [pnetwork] ++ rest).Perm _
        rw [List.append_assoc]
        rw [first] at partition
        exact partition
      · change s.num_of_scanned + 1 = (s.scanned_queue ++ [pnetwork]).length
        rw [num_of_scanned, List.length_append, List.length_singleton]

theorem Partitioned.give_back (partitioned : Partitioned s) (member : pnetwork ∈ s.scanned_queue) :
    Partitioned (s.give_back pnetwork) := by
  constructor
  · have behind : (s.free_bss_pool ++ [pnetwork]).Perm (pnetwork :: s.free_bss_pool) := List.perm_append_singleton _ _
    have between : (s.scanned_queue.erase pnetwork ++ pnetwork :: s.free_bss_pool).Perm
        (pnetwork :: s.scanned_queue.erase pnetwork ++ s.free_bss_pool) := List.perm_middle
    have back : (pnetwork :: s.scanned_queue.erase pnetwork).Perm s.scanned_queue := (List.perm_cons_erase member).symm
    exact ((behind.append_left _).trans between).trans ((back.append_right _).trans partitioned.partition)
  · change s.num_of_scanned - 1 = (s.scanned_queue.erase pnetwork).length
    rw [partitioned.num_of_scanned, List.length_erase_of_mem member]

/-- Entries were only freed. -/
structure Shrunk (s next : MlmePriv max_bss_cnt) : Prop where
  entries : next.free_bss_buf = s.free_bss_buf
  queue : next.scanned_queue ⊆ s.scanned_queue

theorem Shrunk.refl (s : MlmePriv max_bss_cnt) : Shrunk s s := ⟨rfl, List.Subset.refl _⟩

theorem Shrunk.trans {middle next : MlmePriv max_bss_cnt} (first : Shrunk s middle) (second : Shrunk middle next) :
    Shrunk s next :=
  ⟨second.entries.trans first.entries, fun _ there => first.queue (second.queue there)⟩

theorem shrunk_give_back (s : MlmePriv max_bss_cnt) (pnetwork : Fin max_bss_cnt) : Shrunk s (s.give_back pnetwork) :=
  ⟨rfl, List.erase_subset⟩

section free

variable (jiffies_to_msecs : UInt64 -> UInt32) (adhoc isfreeall : Bool)

theorem free_network_cases (s : MlmePriv max_bss_cnt) (pnetwork : Fin max_bss_cnt) :
    _rtw_free_network jiffies_to_msecs now adhoc isfreeall s pnetwork = s ∨
      _rtw_free_network jiffies_to_msecs now adhoc isfreeall s pnetwork = s.give_back pnetwork := by
  unfold _rtw_free_network
  dsimp only
  generalize (if adhoc = true then 1 else SCANQUEUE_LIFETIME) = lifetime
  split_ifs
  · exact Or.inl rfl
  · exact Or.inl rfl
  · exact Or.inr rfl

theorem free_network_nolock_cases (s : MlmePriv max_bss_cnt) (pnetwork : Fin max_bss_cnt) :
    _rtw_free_network_nolock s pnetwork = s ∨ _rtw_free_network_nolock s pnetwork = s.give_back pnetwork := by
  unfold _rtw_free_network_nolock
  split_ifs
  · exact Or.inl rfl
  · exact Or.inr rfl

theorem Partitioned.free_loop (partitioned : Partitioned s) {queue : List (Fin max_bss_cnt)} (nodup : queue.Nodup)
    (inside : queue ⊆ s.scanned_queue) :
    Partitioned (queue.foldl (_rtw_free_network jiffies_to_msecs now adhoc isfreeall) s) ∧
      Shrunk s (queue.foldl (_rtw_free_network jiffies_to_msecs now adhoc isfreeall) s) := by
  induction queue generalizing s with
  | nil => exact ⟨partitioned, Shrunk.refl s⟩
  | cons pnetwork rest ih =>
      rcases List.nodup_cons.mp nodup with ⟨fresh, others⟩
      have member : pnetwork ∈ s.scanned_queue := inside List.mem_cons_self
      have later : rest ⊆ s.scanned_queue := fun entry there => inside (List.mem_cons_of_mem _ there)
      rw [List.foldl_cons]
      rcases free_network_cases jiffies_to_msecs adhoc isfreeall s pnetwork with kept | freed
      · rw [kept]
        exact ih partitioned others later
      · rw [freed]
        have still : rest ⊆ (s.give_back pnetwork).scanned_queue := by
          intro entry there
          have different : entry ≠ pnetwork := fun here => fresh (here ▸ there)
          exact (List.mem_erase_of_ne different).mpr (later there)
        rcases ih (partitioned.give_back member) others still with ⟨now_partitioned, shrunk⟩
        exact ⟨now_partitioned, (shrunk_give_back s pnetwork).trans shrunk⟩

theorem Partitioned.free_network_queue (partitioned : Partitioned s) :
    Partitioned (rtw_free_network_queue jiffies_to_msecs now adhoc isfreeall s) ∧
      Shrunk s (rtw_free_network_queue jiffies_to_msecs now adhoc isfreeall s) := by
  have nodup : (s.scanned_queue ++ s.free_bss_pool).Nodup :=
    partitioned.partition.nodup_iff.mpr (List.nodup_finRange _)
  exact partitioned.free_loop jiffies_to_msecs adhoc isfreeall (List.nodup_append.mp nodup).1 (List.Subset.refl _)

end free

theorem Partitioned.step (partitioned : Partitioned s) (jiffies_to_msecs : UInt64 -> UInt32)
    {operation : ScanOperation max_bss_cnt} (called : Called s operation) :
    Partitioned (scan_step jiffies_to_msecs s operation) := by
  cases operation with
  | update_scanned_network link now target => exact partitioned.update (update_cases s link now target)
  | free_network_queue now adhoc isfreeall => exact (partitioned.free_network_queue jiffies_to_msecs adhoc isfreeall).1
  | free_network_nolock pnetwork =>
      change Partitioned (_rtw_free_network_nolock s pnetwork)
      rcases free_network_nolock_cases s pnetwork with kept | freed
      · rw [kept]
        exact partitioned
      · rw [freed]
        exact partitioned.give_back called
  | set_fixed pnetwork fixed => exact ⟨partitioned.partition, partitioned.num_of_scanned⟩

/-! ## No network twice -/

theorem is_same_network_iff (src dst : WlanBssidEx) :
    is_same_network src dst false = true <->
      (src.MacAddress = dst.MacAddress ∧
        rtw_get_capability_from_ie src.IEs &&& WLAN_CAPABILITY_IBSS =
          rtw_get_capability_from_ie dst.IEs &&& WLAN_CAPABILITY_IBSS ∧
        rtw_get_capability_from_ie src.IEs &&& WLAN_CAPABILITY_BSS =
          rtw_get_capability_from_ie dst.IEs &&& WLAN_CAPABILITY_BSS) ∧
      ((src.Ssid.length = dst.Ssid.length ∧
          (src.Ssid = dst.Ssid ∨ is_all_null src.Ssid = true ∨ is_all_null dst.Ssid = true)) ∨
        src.Ssid.length = 0 ∨ dst.Ssid.length = 0) := by
  unfold is_same_network
  dsimp only
  rw [if_neg (fun feature => by cases feature.1)]
  split_ifs with place name
  · exact iff_of_true rfl ⟨place, Or.inl name⟩
  · rw [decide_eq_true_iff]
    exact ⟨fun hidden => ⟨place, Or.inr hidden⟩, fun holds => holds.2.resolve_left name⟩
  · exact iff_of_false (by rintro ⟨⟩) (fun holds => place holds.1)

theorem is_same_network_comm (first second : WlanBssidEx) :
    is_same_network first second false = is_same_network second first false := by
  rw [Bool.eq_iff_iff, is_same_network_iff, is_same_network_iff]
  constructor <;>
    exact fun ⟨⟨address, ibss, bss⟩, name⟩ => ⟨⟨address.symm, ibss.symm, bss.symm⟩,
      name.imp (fun ⟨length, ssid⟩ => ⟨length.symm, ssid.imp Eq.symm Or.symm⟩) Or.symm⟩

theorem is_same_network_congr {first other : WlanBssidEx} (address : first.MacAddress = other.MacAddress)
    (ssid : first.Ssid = other.Ssid) (elements : first.IEs = other.IEs) (second : WlanBssidEx) :
    is_same_network first second false = is_same_network other second false := by
  unfold is_same_network
  rw [address, ssid, elements]

theorem same_congr {description other : WlanBssidEx} (address : description.MacAddress = other.MacAddress)
    (ssid : description.Ssid = other.Ssid) (elements : description.IEs = other.IEs) :
    same s description pnetwork = same s other pnetwork := by
  unfold same
  rw [is_same_network_comm, is_same_network_congr address ssid elements, is_same_network_comm]

theorem same_stored (target : WlanBssidEx) (pnetwork : Fin max_bss_cnt) :
    same s (stored target) pnetwork = same s target pnetwork := by
  unfold stored
  split
  · exact same_congr rfl rfl rfl
  · rfl

theorem Distinct.of_update (distinct : Distinct s) {next : MlmePriv max_bss_cnt} {entry : WlanNetwork}
    (entries : next.free_bss_buf = Function.update s.free_bss_buf pnetwork entry)
    (queue : ∀ other ∈ next.scanned_queue, other ≠ pnetwork -> other ∈ s.scanned_queue)
    (apart : ∀ other ∈ s.scanned_queue, other ≠ pnetwork -> same s entry.network other = false) : Distinct next := by
  intro first here second there matches_it
  unfold same at matches_it
  rw [entries] at matches_it
  by_cases is_first : first = pnetwork <;> by_cases is_second : second = pnetwork
  · rw [is_first, is_second]
  · rw [is_first, update_self, update_of_ne is_second, is_same_network_comm] at matches_it
    exact absurd (matches_it.symm.trans (apart second (queue second there is_second) is_second)) nofun
  · rw [is_second, update_self, update_of_ne is_first] at matches_it
    exact absurd (matches_it.symm.trans (apart first (queue first here is_first) is_first)) nofun
  · rw [update_of_ne is_first, update_of_ne is_second] at matches_it
    exact distinct first (queue first here is_first) second (queue second there is_second) matches_it

theorem Distinct.of_same (distinct : Distinct s) {next : MlmePriv max_bss_cnt}
    (queue : next.scanned_queue ⊆ s.scanned_queue)
    (kept : ∀ entry, (next.free_bss_buf entry).network.MacAddress = (s.free_bss_buf entry).network.MacAddress ∧
      (next.free_bss_buf entry).network.Ssid = (s.free_bss_buf entry).network.Ssid ∧
      (next.free_bss_buf entry).network.IEs = (s.free_bss_buf entry).network.IEs) : Distinct next := by
  intro first here second there matches_it
  refine distinct first (queue here) second (queue there) ?_
  rcases kept first with ⟨address, ssid, elements⟩
  rcases kept second with ⟨other_address, other_ssid, other_elements⟩
  unfold same at matches_it ⊢
  rw [is_same_network_congr address ssid elements, is_same_network_comm,
    is_same_network_congr other_address other_ssid other_elements, is_same_network_comm] at matches_it
  exact matches_it

theorem Distinct.of_set (distinct : Distinct s) {entry : WlanNetwork}
    (kept : entry.network.MacAddress = (s.free_bss_buf pnetwork).network.MacAddress ∧
      entry.network.Ssid = (s.free_bss_buf pnetwork).network.Ssid ∧
      entry.network.IEs = (s.free_bss_buf pnetwork).network.IEs) : Distinct (s.set pnetwork entry) := by
  refine distinct.of_same (List.Subset.refl _) (fun other => ?_)
  by_cases here : other = pnetwork
  · rw [here, free_bss_buf_set_self]
    exact kept
  · rw [free_bss_buf_set_of_ne here]
    exact ⟨rfl, rfl, rfl⟩

theorem Distinct.of_shrunk (distinct : Distinct s) {next : MlmePriv max_bss_cnt} (shrunk : Shrunk s next) :
    Distinct next :=
  distinct.of_same shrunk.queue (fun entry => by rw [shrunk.entries]; exact ⟨rfl, rfl, rfl⟩)

theorem Distinct.update (distinct : Distinct s) {next : MlmePriv max_bss_cnt} (update : Update s link now target next)
    (once : MatchesOnce s (.update_scanned_network link now target)) : Distinct next := by
  cases update with
  | merge pnetwork found =>
      cases taken : takes_elements (s.free_bss_buf pnetwork).network target with
      | false => exact distinct.of_set (merged_keeps taken)
      | true =>
          refine distinct.of_update rfl (fun _ member _ => member) (fun other member different => ?_)
          rcases @merged_takes link now target (s.free_bss_buf pnetwork) taken with ⟨address, ssid, elements⟩
          rw [same_congr address ssid elements]
          exact Bool.eq_false_iff.mpr (fun matches_it => different (once pnetwork found taken other member matches_it))
  | drop => exact distinct
  | replace pnetwork other full weak =>
      refine distinct.of_update rfl (fun _ member _ => member) (fun entry member _ => ?_)
      exact (same_stored target entry).trans (other entry member)
  | store pnetwork rest other first =>
      refine distinct.of_update rfl (fun entry member different => ?_) (fun entry member _ => ?_)
      · exact (List.mem_append.mp member).resolve_right (fun last => different (List.mem_singleton.mp last))
      · exact (same_stored target entry).trans (other entry member)

theorem Distinct.step (distinct : Distinct s) (partitioned : Partitioned s) (jiffies_to_msecs : UInt64 -> UInt32)
    {operation : ScanOperation max_bss_cnt} (once : MatchesOnce s operation) :
    Distinct (scan_step jiffies_to_msecs s operation) := by
  cases operation with
  | update_scanned_network link now target => exact distinct.update (update_cases s link now target) once
  | free_network_queue now adhoc isfreeall =>
      exact distinct.of_shrunk (partitioned.free_network_queue jiffies_to_msecs adhoc isfreeall).2
  | free_network_nolock pnetwork =>
      change Distinct (_rtw_free_network_nolock s pnetwork)
      rcases free_network_nolock_cases s pnetwork with kept | freed
      · rw [kept]
        exact distinct
      · rw [freed]
        exact distinct.of_shrunk (shrunk_give_back s pnetwork)
  | set_fixed pnetwork fixed => exact distinct.of_set ⟨rfl, rfl, rfl⟩

def MAX_BSS_CNT : Nat := 128

theorem partitioned_init (max_bss_cnt : Nat) : Partitioned (init_mlme_priv max_bss_cnt) :=
  ⟨List.Perm.refl _, rfl⟩

/-- In every run the entries are in one of the two lists and each description is taken; no
network is there twice as long as no description whose elements are taken over is the same
network as two entries. -/
theorem scan_list_kept (max_bss_cnt : Nat) (jiffies_to_msecs : UInt64 -> UInt32)
    (operations : List (ScanOperation max_bss_cnt))
    (called : Run.Guarded (scan_step jiffies_to_msecs) Called (init_mlme_priv max_bss_cnt) operations) :
    Partitioned (Run.execute (scan_step jiffies_to_msecs) (init_mlme_priv max_bss_cnt) operations) ∧
      Run.Guarded (scan_step jiffies_to_msecs) (Takes jiffies_to_msecs) (init_mlme_priv max_bss_cnt) operations ∧
      (Run.Guarded (scan_step jiffies_to_msecs) MatchesOnce (init_mlme_priv max_bss_cnt) operations ->
        Distinct (Run.execute (scan_step jiffies_to_msecs) (init_mlme_priv max_bss_cnt) operations)) := by
  have kept : ∀ (s : MlmePriv max_bss_cnt) (operation : ScanOperation max_bss_cnt), Called s operation ->
      Partitioned s -> Partitioned (scan_step jiffies_to_msecs s operation) :=
    fun s operation valid partitioned => partitioned.step jiffies_to_msecs valid
  refine ⟨called.invariant kept (partitioned_init max_bss_cnt), called.of_invariant kept ?_ (partitioned_init max_bss_cnt),
    fun once => ?_⟩
  · intro s operation _ _
    cases operation with
    | update_scanned_network link now target => exact (update_cases s link now target).taken
    | free_network_queue | free_network_nolock | set_fixed => trivial
  · have both := (called.and once).invariant
      (fun s operation guard (invariant : Partitioned s ∧ Distinct s) =>
        And.intro (kept s operation guard.1 invariant.1) (invariant.2.step invariant.1 jiffies_to_msecs guard.2))
    exact (both ⟨partitioned_init max_bss_cnt, nofun⟩).2

def beacon (bssid : UInt8) (ssid : List UInt8) (strength : UInt8) : WlanBssidEx :=
  ⟨.ofLast bssid, .BCN, ssid, -60, ⟨strength, 50⟩, List.replicate 12 0⟩

def unlinked : Link := ⟨false, beacon 0 [] 0, 0, 0⟩

/-- Two shown networks of one BSSID are two networks. -/
theorem scan_list_kept_two :
    Distinct (Run.execute (scan_step UInt64.toUInt32) (init_mlme_priv MAX_BSS_CNT)
      [.update_scanned_network unlinked 1 (beacon 1 [65] 40), .update_scanned_network unlinked 2 (beacon 1 [66] 50),
        .free_network_queue 3 false false]) := by
  have none_same : List.find? (same (scan_step UInt64.toUInt32 (init_mlme_priv MAX_BSS_CNT)
      (.update_scanned_network unlinked 1 (beacon 1 [65] 40))) (beacon 1 [66] 50)) _ = none :=
    show List.find? _ (scan_step UInt64.toUInt32 (init_mlme_priv MAX_BSS_CNT)
      (.update_scanned_network unlinked 1 (beacon 1 [65] 40))).scanned_queue = none by decide +kernel
  exact (scan_list_kept MAX_BSS_CNT UInt64.toUInt32
    [.update_scanned_network unlinked 1 (beacon 1 [65] 40), .update_scanned_network unlinked 2 (beacon 1 [66] 50),
      .free_network_queue 3 false false] ⟨by decide, by decide, trivial, trivial⟩).2.2
    ⟨nofun, fun found there => (nomatch none_same.symm.trans there), trivial, trivial⟩

def oldest (s : MlmePriv max_bss_cnt) : Option (Fin max_bss_cnt) :=
  (s.scanned_queue.filter (fun pnetwork => ¬ (s.free_bss_buf pnetwork).fixed)).argmin
    (fun pnetwork => (s.free_bss_buf pnetwork).last_scanned.toNat)

/-- A hidden beacon is merged into the first of two entries with its BSSID, and then it is the
same network as the second.  In a full list the weakest entry is given up, not the oldest. -/
theorem scan_list_hidden_twice :
    (¬ ∀ operations : List (ScanOperation MAX_BSS_CNT),
      Run.Guarded (scan_step UInt64.toUInt32) Called (init_mlme_priv MAX_BSS_CNT) operations ->
        Distinct (Run.execute (scan_step UInt64.toUInt32) (init_mlme_priv MAX_BSS_CNT) operations)) ∧
    ¬ ∀ (operations : List (ScanOperation 2)) (target : WlanBssidEx) (pnetwork : Fin 2),
      let s := Run.execute (scan_step UInt64.toUInt32) (init_mlme_priv 2) operations
      Run.Guarded (scan_step UInt64.toUInt32) Called (init_mlme_priv 2) operations -> s.free_bss_pool = [] ->
        (∀ entry ∈ s.scanned_queue, same s target entry = false) -> oldest s = some pnetwork ->
          ((scan_step UInt64.toUInt32 s (.update_scanned_network unlinked 3 target)).free_bss_buf pnetwork).network =
            stored target := by
  constructor
  · intro claim
    refine absurd (claim [.update_scanned_network unlinked 1 (beacon 1 [65] 40),
      .update_scanned_network unlinked 2 (beacon 1 [66] 50), .update_scanned_network unlinked 3 (beacon 1 [] 50)]
      ⟨by decide, by decide, by decide, trivial⟩) (by decide +kernel)
  · intro claim
    refine absurd (claim [.update_scanned_network unlinked 1 (beacon 1 [65] 90),
      .update_scanned_network unlinked 2 (beacon 2 [66] 10)] (beacon 3 [67] 50) 0 ⟨by decide, by decide, trivial⟩
      (by decide +kernel) (by decide +kernel) (by decide +kernel)) (by decide +kernel)

end Scan

end Rtl8821ce
