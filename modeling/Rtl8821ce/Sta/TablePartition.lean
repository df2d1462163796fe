import Rtl8821ce.Sta.StationTable

/-!
# The station table is a partition

Every record is free or in the bucket of its address, and no address is entered twice.  A
station that was only announced is freed when its address is taken back; between the two
the address is open, and the invariant says for which addresses that is so.

`rtw_free_all_stainfo` unlinks the stations in one pass and frees them in another.  It is
the same as freeing them one by one, since unlinking a station once more does nothing.
-/

namespace Rtl8821ce

namespace Sta

open Buckets (entries)

variable {hwaddr : MacAddr}

def StaPriv.allocated (s : StaPriv) : List (Fin NUM_STA) := entries NUM_STA s.sta_hash

/-- What holds of the table at any moment. -/
structure TableSound (s : StaPriv) : Prop where
  partition : (s.free_sta_queue ++ s.allocated).Perm (List.finRange NUM_STA)
  bucket : ∀ index psta, psta ∈ s.sta_hash index -> index = wifi_mac_hash (s.mac_addr psta)
  distinct : ∀ first second, first ∈ s.allocated -> second ∈ s.allocated ->
    s.mac_addr first = s.mac_addr second -> first = second
  asoc_sta_count : s.asoc_sta_count = s.allocated.length
  num : s.pre_link_sta_ctl.num = s.pre_link_sta_ctl.node.countP (·.valid)
  found : ∀ hwaddr psta,
    rtw_get_stainfo s hwaddr = some psta <-> psta ∈ s.allocated ∧ s.mac_addr psta = lookup_addr hwaddr
  pre_link : ∀ psta ∈ s.allocated, (s.pstainfo_buf psta).state = WIFI_FW_PRE_LINK ->
    rtw_is_pre_link_sta s (s.mac_addr psta) = true

/-- How the operations are called: a station is entered for an address that was looked for
in vain, for no group address but the broadcast address, and one that is freed is there. -/
def Called (s : StaPriv) : TableOperation -> Prop
  | .rtw_alloc_stainfo hwaddr =>
      rtw_get_stainfo s hwaddr = none ∧ (IS_MCAST hwaddr = true -> hwaddr = bc_addr)
  | .rtw_free_stainfo psta => psta ∈ s.allocated
  | _ => True

instance (s : StaPriv) (operation : TableOperation) : Decidable (Called s operation) := by
  unfold Called
  split <;> infer_instance

/-- The table while the addresses of `open_addrs` are taken back. -/
structure TableInvariant (open_addrs : List MacAddr) (s : StaPriv) : Prop where
  sorted : Buckets.Sorted NUM_STA (fun psta => wifi_mac_hash (s.mac_addr psta)) s.sta_hash
  free_distinct : s.free_sta_queue.Nodup
  placed : ∀ psta, psta ∈ s.free_sta_queue <-> psta ∉ s.allocated
  distinct : ∀ first second, first ∈ s.allocated -> second ∈ s.allocated ->
    s.mac_addr first = s.mac_addr second -> first = second
  balance : s.asoc_sta_count + s.free_sta_queue.length = NUM_STA
  num : s.pre_link_sta_ctl.num = s.pre_link_sta_ctl.node.countP (·.valid)
  unicast : ∀ node ∈ s.pre_link_sta_ctl.node, node.valid = true -> IS_MCAST node.addr = false
  pre_link : ∀ psta ∈ s.allocated, (s.pstainfo_buf psta).state = WIFI_FW_PRE_LINK ->
    rtw_is_pre_link_sta s (s.mac_addr psta) = true ∨ s.mac_addr psta ∈ open_addrs

variable {s : StaPriv} {open_addrs : List MacAddr} {psta : Fin NUM_STA}

/-! ## Looking a station up -/

theorem wifi_mac_hash_lt (mac : MacAddr) : wifi_mac_hash mac < NUM_STA := by
  unfold wifi_mac_hash
  rw [UInt32.toNat_and]
  exact Nat.lt_of_le_of_lt Nat.and_le_right (by decide)

@[simp] theorem lookup_addr_of_unicast (unicast : IS_MCAST hwaddr = false) :
    lookup_addr hwaddr = hwaddr := by
  simp only [lookup_addr, unicast, Bool.false_eq_true, if_false]

theorem lookup_addr_bc_addr : lookup_addr bc_addr = bc_addr := by decide

theorem TableInvariant.found (inv : TableInvariant open_addrs s) (hwaddr : MacAddr) :
    rtw_get_stainfo s hwaddr = some psta <-> psta ∈ s.allocated ∧ s.mac_addr psta = lookup_addr hwaddr :=
  inv.sorted.find_eq_some_iff inv.distinct (lookup_addr hwaddr)

theorem TableInvariant.not_found (inv : TableInvariant open_addrs s)
    (none : rtw_get_stainfo s hwaddr = none) (psta : Fin NUM_STA) (member : psta ∈ s.allocated) :
    s.mac_addr psta ≠ lookup_addr hwaddr := by
  intro same
  have found := (inv.found hwaddr).mpr ⟨member, same⟩
  rw [none] at found
  cases found

theorem TableInvariant.sound (inv : TableInvariant [] s) : TableSound s := by
  have partition : (s.free_sta_queue ++ s.allocated).Perm (List.finRange NUM_STA) := by
    refine (List.perm_ext_iff_of_nodup ?_ (List.nodup_finRange _)).mpr fun psta => ?_
    · refine List.nodup_append.mpr ⟨inv.free_distinct, inv.sorted.nodup_entries, ?_⟩
      intro first free second there same
      exact (inv.placed first).mp free (same ▸ there)
    · simp only [List.mem_append, inv.placed, List.mem_finRange, iff_true]
      exact (em _).symm
  exact
    { partition := partition
      bucket := fun _ _ => inv.sorted.place
      distinct := inv.distinct
      asoc_sta_count := by
        have total := partition.length_eq
        have balance := inv.balance
        rw [List.length_append, List.length_finRange] at total
        omega
      num := inv.num
      found := fun _ _ => inv.found _
      pre_link := fun psta member state =>
        (inv.pre_link psta member state).resolve_right List.not_mem_nil }

theorem TableInvariant.initial (addrs : Nat -> MacAddr) : TableInvariant [] (_rtw_init_sta_priv addrs) := by
  have empty : (_rtw_init_sta_priv addrs).allocated = [] := Buckets.entries_nil NUM_STA
  have invalid : ∀ node ∈ (_rtw_init_sta_priv addrs).pre_link_sta_ctl.node, node.valid = false := by
    intro node member
    rcases List.mem_map.mp member with ⟨i, _, same⟩
    rw [← same]
  exact
    { sorted := ⟨nofun, nofun, fun _ => List.nodup_nil⟩
      free_distinct := List.nodup_finRange _
      placed := fun psta => by
        rw [empty]
        exact iff_of_true (List.mem_finRange psta) List.not_mem_nil
      distinct := fun first second here => by simp [empty] at here
      balance := by simp [_rtw_init_sta_priv]
      num := (List.countP_eq_zero.mpr fun node member => by simp [invalid node member]).symm
      unicast := fun node member valid => by simp [invalid node member] at valid
      pre_link := fun psta member => by simp [empty] at member }

theorem TableInvariant.enter (inv : TableInvariant open_addrs s)
    (none : rtw_get_stainfo s hwaddr = none) (named : lookup_addr hwaddr = hwaddr) {rest : List (Fin NUM_STA)}
    (first : s.free_sta_queue = psta :: rest) (state : UInt32)
    (known : state = WIFI_FW_PRE_LINK -> rtw_is_pre_link_sta s hwaddr = true) :
    TableInvariant open_addrs
      { s with
        pstainfo_buf := Function.update s.pstainfo_buf psta ⟨hwaddr, state⟩
        free_sta_queue := rest
        sta_hash := Buckets.insert s.sta_hash (wifi_mac_hash hwaddr) psta
        asoc_sta_count := s.asoc_sta_count + 1 } := by
  have outside : psta ∉ s.allocated := (inv.placed psta).mp (by rw [first]; exact List.mem_cons_self)
  have others : ∀ other ∈ s.allocated, other ≠ psta := fun other there same => outside (same ▸ there)
  have entered : Function.update s.pstainfo_buf psta ⟨hwaddr, state⟩ psta = ⟨hwaddr, state⟩ :=
    Function.update_self _ _ _
  have kept : ∀ other, other ≠ psta ->
      Function.update s.pstainfo_buf psta ⟨hwaddr, state⟩ other = s.pstainfo_buf other :=
    fun other different => Function.update_of_ne different _ _
  have member : ∀ other, other ∈ entries NUM_STA (Buckets.insert s.sta_hash (wifi_mac_hash hwaddr) psta) <->
      other ∈ s.allocated ∨ other = psta := fun other => Buckets.mem_entries_insert (wifi_mac_hash_lt hwaddr)
  have free := inv.free_distinct
  rw [first] at free
  refine
    { sorted := ?sorted
      free_distinct := (List.nodup_cons.mp free).2
      placed := fun other => ?placed
      distinct := fun one two here there same => ?distinct
      balance := ?balance
      num := inv.num
      unicast := inv.unicast
      pre_link := fun other here pre_linked => ?pre_link }
  case sorted =>
    have agree : ∀ index other, other ∈ s.sta_hash index ->
        wifi_mac_hash (Function.update s.pstainfo_buf psta ⟨hwaddr, state⟩ other).mac_addr =
          wifi_mac_hash (s.mac_addr other) := by
      intro index other there
      rw [kept other (others other (List.mem_flatMap.mpr ⟨index, List.mem_range.mpr (inv.sorted.inside there), there⟩))]
      rfl
    have grown := @Buckets.Sorted.insert _ _ _ _ psta (inv.sorted.congr agree) (wifi_mac_hash_lt _)
      fun there => outside (List.mem_flatMap.mpr ⟨_, List.mem_range.mpr (wifi_mac_hash_lt _), there⟩)
    rw [entered] at grown
    exact grown
  case placed =>
    have before := inv.placed other
    rw [first, List.mem_cons] at before
    by_cases same : other = psta
    · subst same
      exact iff_of_false (List.nodup_cons.mp free).1 fun absent => absent ((member other).mpr (.inr rfl))
    · simp only [same, false_or] at before
      refine before.trans (not_congr ?_)
      exact ((member other).trans (or_iff_left same)).symm
  case distinct =>
    have apart : ∀ other ∈ s.allocated, s.mac_addr other ≠ hwaddr := by
      intro other there
      have different := inv.not_found none other there
      rwa [named] at different
    simp only [StaPriv.mac_addr] at same apart
    rcases (member one).mp here with old | new <;> rcases (member two).mp there with older | newer
    · rw [kept one (others one old), kept two (others two older)] at same
      exact inv.distinct one two old older same
    · rw [newer, entered, kept one (others one old)] at same
      exact absurd same (apart one old)
    · rw [new, entered, kept two (others two older)] at same
      exact absurd same.symm (apart two older)
    · rw [new, newer]
  case balance =>
    have balance := inv.balance
    rw [first, List.length_cons] at balance
    dsimp only
    omega
  case pre_link =>
    dsimp only [StaPriv.mac_addr] at pre_linked ⊢
    rcases (member other).mp here with old | new
    · rw [kept other (others other old)] at pre_linked ⊢
      exact inv.pre_link other old pre_linked
    · rw [new, entered] at pre_linked ⊢
      exact .inl (known pre_linked)

theorem TableInvariant.alloc (inv : TableInvariant open_addrs s)
    (none : rtw_get_stainfo s hwaddr = none) (named : lookup_addr hwaddr = hwaddr) :
    TableInvariant open_addrs (rtw_alloc_stainfo s hwaddr).2 := by
  unfold rtw_alloc_stainfo
  cases first : s.free_sta_queue with
  | nil => exact inv
  | cons psta rest =>
    dsimp only
    rw [if_neg (Nat.not_le_of_lt (wifi_mac_hash_lt hwaddr))]
    exact inv.enter none named first 0 nofun

theorem TableInvariant.keep (inv : TableInvariant open_addrs s)
    (named : rtw_is_pre_link_sta s (s.mac_addr psta) = true) (state : UInt32) :
    TableInvariant open_addrs (s.set_state psta state) := by
  have addr : ∀ other, (s.set_state psta state).mac_addr other = s.mac_addr other := by
    intro other
    simp only [StaPriv.mac_addr, StaPriv.set_state, Function.update_apply]
    split
    case isTrue same => rw [same]
    case isFalse => rfl
  refine
    { sorted := inv.sorted.congr fun _ other _ => by rw [addr other]
      free_distinct := inv.free_distinct
      placed := inv.placed
      distinct := fun one two here there same => inv.distinct one two here there (by rwa [addr, addr] at same)
      balance := inv.balance
      num := inv.num
      unicast := inv.unicast
      pre_link := fun other here pre_linked => ?_ }
  rw [addr]
  by_cases same : other = psta
  · rw [same]
    exact .inl named
  · simp only [StaPriv.set_state, Function.update_of_ne same] at pre_linked
    exact inv.pre_link other here pre_linked

theorem TableInvariant.remove (inv : TableInvariant open_addrs s) (member : psta ∈ s.allocated) (state : UInt32) :
    TableInvariant open_addrs
      { s with
        pstainfo_buf := Function.update s.pstainfo_buf psta { s.pstainfo_buf psta with state := state }
        free_sta_queue := s.free_sta_queue ++ [psta]
        sta_hash := Buckets.delete s.sta_hash psta
        asoc_sta_count := s.asoc_sta_count - 1 } := by
  have kept : ∀ other, other ≠ psta ->
      Function.update s.pstainfo_buf psta { s.pstainfo_buf psta with state := state } other = s.pstainfo_buf other :=
    fun other different => Function.update_of_ne different _ _
  have left : ∀ other, other ∈ entries NUM_STA (Buckets.delete s.sta_hash psta) <->
      other ∈ s.allocated ∧ other ≠ psta := fun other => Buckets.mem_entries_delete
  have outside : psta ∉ s.free_sta_queue := fun free => (inv.placed psta).mp free member
  refine
    { sorted := ?sorted
      free_distinct := ?free_distinct
      placed := fun other => ?placed
      distinct := fun one two here there same => ?distinct
      balance := ?balance
      num := inv.num
      unicast := inv.unicast
      pre_link := fun other here pre_linked => ?pre_link }
  case sorted =>
    refine (inv.sorted.delete psta).congr fun index other there => ?_
    simp only [StaPriv.mac_addr, kept other (Buckets.mem_delete.mp there).2]
  case free_distinct =>
    refine List.nodup_append.mpr ⟨inv.free_distinct, List.nodup_singleton psta, fun one free two here same => ?_⟩
    rw [List.mem_singleton.mp here] at same
    exact outside (same ▸ free)
  case placed =>
    have before := inv.placed other
    refine List.mem_append.trans ((or_congr before List.mem_singleton).trans ?_)
    refine Iff.trans ?_ (not_congr (left other)).symm
    rw [not_and_or, not_not]
  case distinct =>
    simp only [StaPriv.mac_addr, kept one ((left one).mp here).2, kept two ((left two).mp there).2] at same
    exact inv.distinct one two ((left one).mp here).1 ((left two).mp there).1 same
  case balance =>
    have balance := inv.balance
    dsimp only
    rw [List.length_append, List.length_singleton]
    omega
  case pre_link =>
    simp only [StaPriv.mac_addr, kept other ((left other).mp here).2] at pre_linked ⊢
    exact inv.pre_link other ((left other).mp here).1 pre_linked

theorem TableInvariant.free (inv : TableInvariant open_addrs s) (member : psta ∈ s.allocated) :
    TableInvariant open_addrs (rtw_free_stainfo s psta) := by
  unfold rtw_free_stainfo
  split
  case isTrue named => exact inv.keep named _
  case isFalse => exact inv.remove member _

@[simp] theorem rtw_is_pre_link_sta_free (s : StaPriv) (psta : Fin NUM_STA) (addr : MacAddr) :
    rtw_is_pre_link_sta (rtw_free_stainfo s psta) addr = rtw_is_pre_link_sta s addr := by
  unfold rtw_free_stainfo
  split <;> rfl

@[simp] theorem mac_addr_free (s : StaPriv) (psta other : Fin NUM_STA) :
    (rtw_free_stainfo s psta).mac_addr other = s.mac_addr other := by
  unfold rtw_free_stainfo StaPriv.mac_addr
  split
  all_goals
    simp only [StaPriv.set_state, StaPriv.unlink, Function.update_apply]
    split
    case isTrue same => rw [same]
    case isFalse => rfl

theorem mem_allocated_free (s : StaPriv) (psta other : Fin NUM_STA) :
    other ∈ (rtw_free_stainfo s psta).allocated <->
      other ∈ s.allocated ∧ (other = psta -> rtw_is_pre_link_sta s (s.mac_addr psta) = true) := by
  unfold rtw_free_stainfo
  split
  case isTrue named => exact (and_iff_left fun _ => named).symm
  case isFalse free =>
    refine Buckets.mem_entries_delete.trans (and_congr_right fun _ => ?_)
    exact ⟨fun different same => absurd same different, fun only same => free (only same)⟩

theorem unlink_free_comm (s : StaPriv) (first second : Fin NUM_STA) :
    rtw_free_stainfo (unlink_stainfo s second) first = unlink_stainfo (rtw_free_stainfo s first) second := by
  unfold unlink_stainfo
  rw [rtw_is_pre_link_sta_free, mac_addr_free]
  by_cases named : rtw_is_pre_link_sta s (s.mac_addr second) = true
  case pos => rw [if_pos named, if_pos named]
  case neg =>
    rw [if_neg named, if_neg named]
    unfold rtw_free_stainfo
    have same : rtw_is_pre_link_sta (s.unlink second) ((s.unlink second).mac_addr first) =
        rtw_is_pre_link_sta s (s.mac_addr first) := rfl
    rw [same]
    split
    case isTrue => rfl
    case isFalse =>
      simp only [StaPriv.unlink, StaPriv.set_state]
      rw [Buckets.delete_comm]

theorem free_unlinked (s : StaPriv) (psta : Fin NUM_STA) :
    rtw_free_stainfo (unlink_stainfo s psta) psta = rtw_free_stainfo s psta := by
  unfold unlink_stainfo
  by_cases named : rtw_is_pre_link_sta s (s.mac_addr psta) = true
  case pos => rw [if_pos named]
  case neg =>
    rw [if_neg named]
    unfold rtw_free_stainfo
    have same : rtw_is_pre_link_sta (s.unlink psta) ((s.unlink psta).mac_addr psta) =
        rtw_is_pre_link_sta s (s.mac_addr psta) := rfl
    rw [same, if_neg named, if_neg named]
    simp only [StaPriv.unlink, StaPriv.set_state]
    rw [Buckets.delete_delete]

theorem unlink_all_free_comm (s : StaPriv) (psta : Fin NUM_STA) (list : List (Fin NUM_STA)) :
    rtw_free_stainfo (list.foldl unlink_stainfo s) psta = list.foldl unlink_stainfo (rtw_free_stainfo s psta) := by
  induction list generalizing s with
  | nil => rfl
  | cons first rest ih =>
    rw [List.foldl_cons, List.foldl_cons, ih, unlink_free_comm]

theorem free_all_eq (s : StaPriv) (list : List (Fin NUM_STA)) :
    list.foldl rtw_free_stainfo (list.foldl unlink_stainfo s) = list.foldl rtw_free_stainfo s := by
  induction list generalizing s with
  | nil => rfl
  | cons psta rest ih =>
    rw [List.foldl_cons, List.foldl_cons, unlink_all_free_comm, free_unlinked, ih]
    rfl

theorem TableInvariant.free_list (inv : TableInvariant open_addrs s) {list : List (Fin NUM_STA)}
    (distinct : list.Nodup) (members : ∀ psta ∈ list, psta ∈ s.allocated) :
    TableInvariant open_addrs (list.foldl rtw_free_stainfo s) ∧
      (∀ addr, rtw_is_pre_link_sta (list.foldl rtw_free_stainfo s) addr = rtw_is_pre_link_sta s addr) ∧
      (∀ psta, (list.foldl rtw_free_stainfo s).mac_addr psta = s.mac_addr psta) ∧
      ∀ psta, psta ∈ (list.foldl rtw_free_stainfo s).allocated <->
        psta ∈ s.allocated ∧ (psta ∈ list -> rtw_is_pre_link_sta s (s.mac_addr psta) = true) := by
  induction list generalizing s with
  | nil =>
    exact ⟨inv, fun _ => rfl, fun _ => rfl, fun psta => (and_iff_left fun none => absurd none List.not_mem_nil).symm⟩
  | cons psta rest ih =>
    have apart := List.nodup_cons.mp distinct
    have here : psta ∈ s.allocated := members psta List.mem_cons_self
    have still : ∀ other ∈ rest, other ∈ (rtw_free_stainfo s psta).allocated := by
      intro other member
      refine (mem_allocated_free s psta other).mpr ⟨members other (List.mem_cons_of_mem _ member), ?_⟩
      exact fun same => absurd (same ▸ member) apart.1
    rcases ih (inv.free here) apart.2 still with ⟨kept, named, addr, left⟩
    refine ⟨kept, fun other => ?_, fun other => ?_, fun other => ?_⟩
    · exact (named other).trans (rtw_is_pre_link_sta_free s psta other)
    · exact (addr other).trans (mac_addr_free s psta other)
    · rw [List.foldl_cons, left other, mem_allocated_free, rtw_is_pre_link_sta_free, mac_addr_free, List.mem_cons]
      constructor
      · rintro ⟨⟨there, first⟩, later⟩
        refine ⟨there, fun member => ?_⟩
        rcases member with same | behind
        · rw [same]; exact first same
        · exact later behind
      · rintro ⟨there, all⟩
        exact ⟨⟨there, fun same => same ▸ all (.inl same)⟩, fun behind => all (.inr behind)⟩

theorem mem_free_sta_list : psta ∈ free_sta_list s <->
    psta ∈ s.allocated ∧ rtw_get_bcmc_stainfo s ≠ some psta := by
  unfold free_sta_list
  rw [List.mem_filter, decide_eq_true_eq]
  rfl

theorem TableInvariant.nodup_free_sta_list (inv : TableInvariant open_addrs s) : (free_sta_list s).Nodup :=
  inv.sorted.nodup_entries.filter _

theorem TableInvariant.free_all (inv : TableInvariant open_addrs s) :
    TableInvariant open_addrs (rtw_free_all_stainfo s) := by
  unfold rtw_free_all_stainfo
  split
  case isTrue => exact inv
  case isFalse =>
    rw [free_all_eq]
    exact (inv.free_list inv.nodup_free_sta_list fun psta member => (mem_free_sta_list.mp member).1).1

/-- Who is left when all stations were freed: the station for group addresses, and those
that are announced.  The count is 1 when the first one is alone. -/
theorem TableInvariant.left_by_free_all (inv : TableInvariant [] s)
    (alone : s.asoc_sta_count ≠ 1 ∨ rtw_get_bcmc_stainfo s ≠ none)
    (member : psta ∈ (rtw_free_all_stainfo s).allocated) :
    (rtw_free_all_stainfo s).mac_addr psta = bc_addr ∨
      rtw_is_pre_link_sta (rtw_free_all_stainfo s) ((rtw_free_all_stainfo s).mac_addr psta) = true := by
  have broadcast : ∀ other, rtw_get_bcmc_stainfo s = some other ->
      other ∈ s.allocated ∧ s.mac_addr other = bc_addr := by
    intro other found
    have named := (inv.found bc_addr).mp found
    rwa [lookup_addr_bc_addr] at named
  unfold rtw_free_all_stainfo at member ⊢
  by_cases one : s.asoc_sta_count = 1
  case pos =>
    rw [if_pos one] at member ⊢
    have single : s.allocated.length = 1 := by
      have count := inv.sound.asoc_sta_count
      omega
    rcases List.length_eq_one_iff.mp single with ⟨only, same⟩
    cases found : rtw_get_bcmc_stainfo s with
    | none => exact absurd found (alone.resolve_left fun different => different one)
    | some other =>
      have there := (broadcast other found).1
      rw [same, List.mem_singleton] at member there
      rw [member, ← there]
      exact .inl (broadcast other found).2
  case neg =>
    rw [if_neg one] at member ⊢
    rw [free_all_eq] at member ⊢
    rcases inv.free_list inv.nodup_free_sta_list fun psta member => (mem_free_sta_list.mp member).1 with
      ⟨_, named, addr, left⟩
    have there := (left psta).mp member
    rw [named, addr]
    by_cases found : rtw_get_bcmc_stainfo s = some psta
    case pos => exact .inl (broadcast psta found).2
    case neg => exact .inr (there.2 (mem_free_sta_list.mpr ⟨there.1, found⟩))

/-! ## Announcing a station -/

theorem split_node {nodes : List PreLinkStaNode} {sought : PreLinkStaNode -> Bool} {i : Nat}
    (found : nodes.findIdx? sought = some i) :
    ∃ before node, ∃ behind,
      nodes = before ++ node :: behind ∧ sought node = true ∧
        ∀ change, nodes.modify i change = before ++ change node :: behind := by
  rcases List.findIdx?_eq_some_iff_getElem.mp found with ⟨inside, here, _⟩
  refine ⟨nodes.take i, nodes[i], nodes.drop (i + 1), ?_, here, fun change => ?_⟩
  · rw [List.getElem_cons_drop, List.take_append_drop]
  · rw [List.modify_eq_take_cons_drop inside]

theorem rtw_is_pre_link_sta_iff {addr : MacAddr} : rtw_is_pre_link_sta s addr = true <->
    ∃ node, node ∈ s.pre_link_sta_ctl.node ∧ node.valid = true ∧ node.addr = addr := by
  simp only [rtw_is_pre_link_sta, List.any_eq_true, PreLinkStaNode.names, Bool.and_eq_true, decide_eq_true_eq]

theorem TableInvariant.nodes (inv : TableInvariant open_addrs s) (ctl : PreLinkStaCtl) {wider : List MacAddr}
    (num : ctl.num = ctl.node.countP (·.valid))
    (unicast : ∀ node ∈ ctl.node, node.valid = true -> IS_MCAST node.addr = false)
    (opened : ∀ addr, rtw_is_pre_link_sta s addr = true ∨ addr ∈ open_addrs ->
      rtw_is_pre_link_sta { s with pre_link_sta_ctl := ctl } addr = true ∨ addr ∈ wider) :
    TableInvariant wider { s with pre_link_sta_ctl := ctl } :=
  { inv with
    num := num
    unicast := unicast
    pre_link := fun psta here pre_linked => opened _ (inv.pre_link psta here pre_linked) }

theorem TableInvariant.close {addr : MacAddr} (inv : TableInvariant (addr :: open_addrs) s)
    (named : ∀ psta ∈ s.allocated, s.mac_addr psta = addr ->
      (s.pstainfo_buf psta).state = WIFI_FW_PRE_LINK -> rtw_is_pre_link_sta s addr = true) :
    TableInvariant open_addrs s :=
  { inv with
    pre_link := fun psta here pre_linked => by
      rcases inv.pre_link psta here pre_linked with known | opened
      · exact .inl known
      · rcases List.mem_cons.mp opened with same | other
        · exact .inl (same ▸ named psta here same pre_linked)
        · exact .inr other }

theorem TableInvariant.free_pre_linked {addr : MacAddr} (inv : TableInvariant (addr :: open_addrs) s)
    (unicast : IS_MCAST addr = false) : TableInvariant open_addrs (free_pre_linked s addr) := by
  unfold Sta.free_pre_linked
  cases found : rtw_get_stainfo s addr with
  | none =>
    refine inv.close fun psta here same _ => ?_
    have absent := inv.not_found found psta here
    rw [lookup_addr_of_unicast unicast] at absent
    exact absurd same absent
  | some sta =>
    have there := (inv.found addr).mp found
    rw [lookup_addr_of_unicast unicast] at there
    dsimp only
    split
    case isTrue =>
      refine (inv.free there.1).close fun psta here same _ => ?_
      rw [rtw_is_pre_link_sta_free]
      rw [mac_addr_free] at same
      have left := (mem_allocated_free s sta psta).mp here
      have only : psta = sta := inv.distinct psta sta left.1 there.1 (same.trans there.2.symm)
      rw [← there.2]
      exact left.2 only
    case isFalse different =>
      refine inv.close fun psta here same pre_linked => ?_
      have only : psta = sta := inv.distinct psta sta here there.1 (same.trans there.2.symm)
      exact absurd (only ▸ pre_linked) different

theorem unicast_of_valid (valid : rtw_check_invalid_mac_address hwaddr = false) : IS_MCAST hwaddr = false := by
  unfold rtw_check_invalid_mac_address at valid
  exact (Bool.or_eq_false_iff.mp valid).2

theorem mem_replaced {before behind : List PreLinkStaNode} {node new other : PreLinkStaNode}
    (member : other ∈ before ++ node :: behind) : other = node ∨ other ∈ before ++ new :: behind := by
  rcases List.mem_append.mp member with first | rest
  · exact .inr (List.mem_append_left _ first)
  · rcases List.mem_cons.mp rest with same | last
    · exact .inl same
    · exact .inr (List.mem_append_right _ (List.mem_cons_of_mem _ last))

theorem countP_node (before behind : List PreLinkStaNode) (node : PreLinkStaNode) :
    (before ++ node :: behind).countP (·.valid) =
      before.countP (·.valid) + behind.countP (·.valid) + if node.valid then 1 else 0 := by
  rw [List.countP_append, List.countP_cons, Nat.add_assoc]

theorem TableInvariant.add_node (inv : TableInvariant open_addrs s)
    (unicast : IS_MCAST hwaddr = false) {noted : StaPriv} (added : pre_link_add_node s hwaddr = some noted) :
    TableInvariant open_addrs noted ∧ rtw_is_pre_link_sta noted hwaddr = true := by
  unfold pre_link_add_node at added
  by_cases named : rtw_is_pre_link_sta s hwaddr = true
  case pos =>
    rw [if_pos named] at added
    cases added
    exact ⟨inv, named⟩
  case neg =>
    rw [if_neg named] at added
    rcases Option.map_eq_some_iff.mp added with ⟨i, found, same⟩
    rcases split_node found with ⟨before, node, behind, nodes, invalid, change⟩
    have unused : node.valid = false := by simpa using invalid
    subst same
    have nodes_after : (s.set_node i (s.pre_link_sta_ctl.num + 1) fun _ => ⟨true, hwaddr⟩).pre_link_sta_ctl.node =
        before ++ ⟨true, hwaddr⟩ :: behind := change _
    refine ⟨inv.nodes _ ?num ?unicast ?opened, ?entered⟩
    case num =>
      have num := inv.num
      rw [nodes, countP_node, unused] at num
      dsimp only
      rw [change, countP_node, num]
      rfl
    case unicast =>
      intro other member valid
      rw [change] at member
      rcases @mem_replaced _ _ _ node _ member with same | old
      · rwa [same]
      · exact inv.unicast other (nodes ▸ old) valid
    case opened =>
      intro addr known
      rcases known with here | opened
      · rcases rtw_is_pre_link_sta_iff.mp here with ⟨other, member, valid, addressed⟩
        rw [nodes] at member
        rcases @mem_replaced _ _ _ ⟨true, hwaddr⟩ _ member with same | kept
        · rw [same, unused] at valid
          cases valid
        · exact .inl (rtw_is_pre_link_sta_iff.mpr ⟨other, nodes_after ▸ kept, valid, addressed⟩)
      · exact .inr opened
    case entered =>
      refine rtw_is_pre_link_sta_iff.mpr ⟨⟨true, hwaddr⟩, ?_, rfl, rfl⟩
      rw [nodes_after]
      exact List.mem_append_right _ List.mem_cons_self

theorem TableInvariant.pre_link_add (inv : TableInvariant open_addrs s) (hwaddr : MacAddr) :
    TableInvariant open_addrs (rtw_pre_link_sta_add s hwaddr) := by
  unfold rtw_pre_link_sta_add
  cases valid : rtw_check_invalid_mac_address hwaddr with
  | true => exact inv
  | false =>
    have unicast := unicast_of_valid valid
    have named := lookup_addr_of_unicast unicast
    rw [if_neg (by rintro ⟨⟩)]
    cases added : pre_link_add_node s hwaddr with
    | none => exact inv
    | some noted =>
      rcases inv.add_node unicast added with ⟨kept, entered⟩
      dsimp only
      cases found : rtw_get_stainfo noted hwaddr with
      | some _ => exact kept
      | none =>
        unfold rtw_alloc_stainfo
        cases first : noted.free_sta_queue with
        | nil => exact kept
        | cons psta rest =>
          dsimp only
          rw [if_neg (Nat.not_le_of_lt (wifi_mac_hash_lt hwaddr))]
          have grown := kept.enter found named first WIFI_FW_PRE_LINK fun _ => entered
          simpa only [StaPriv.set_state, Function.update_idem, Function.update_self] using grown

theorem TableInvariant.pre_link_del (inv : TableInvariant open_addrs s) (hwaddr : MacAddr) :
    TableInvariant open_addrs (rtw_pre_link_sta_del s hwaddr) := by
  unfold rtw_pre_link_sta_del
  cases valid : rtw_check_invalid_mac_address hwaddr with
  | true => exact inv
  | false =>
    rw [if_neg (by rintro ⟨⟩)]
    cases found : s.pre_link_sta_ctl.node.findIdx? (PreLinkStaNode.names hwaddr) with
    | none => exact inv
    | some i =>
      rcases split_node found with ⟨before, node, behind, nodes, named, change⟩
      have here : node.valid = true ∧ node.addr = hwaddr := by
        simpa only [PreLinkStaNode.names, Bool.and_eq_true, decide_eq_true_eq] using named
      refine TableInvariant.free_pre_linked (inv.nodes _ ?num ?unicast ?opened) (unicast_of_valid valid)
      case num =>
        have num := inv.num
        rw [nodes, countP_node, here.1] at num
        dsimp only
        rw [change, countP_node, num]
        rfl
      case unicast =>
        intro other member in_use
        rw [change] at member
        rcases @mem_replaced _ _ _ node _ member with same | old
        · rw [same] at in_use
          cases in_use
        · exact inv.unicast other (nodes ▸ old) in_use
      case opened =>
        intro addr known
        rcases known with named | opened
        · rcases rtw_is_pre_link_sta_iff.mp named with ⟨other, member, in_use, addressed⟩
          rw [nodes] at member
          rcases @mem_replaced _ _ _ { node with valid := false } _ member with same | kept
          · exact .inr (List.mem_cons.mpr (.inl (by rw [← addressed, same, here.2])))
          · exact .inl (rtw_is_pre_link_sta_iff.mpr ⟨other, (change _).symm ▸ kept, in_use, addressed⟩)
        · exact .inr (List.mem_cons_of_mem _ opened)

theorem TableInvariant.free_all_pre_linked {addrs : List MacAddr} (inv : TableInvariant (addrs ++ open_addrs) s)
    (unicast : ∀ addr ∈ addrs, IS_MCAST addr = false) :
    TableInvariant open_addrs (addrs.foldl Sta.free_pre_linked s) := by
  induction addrs generalizing s with
  | nil => exact inv
  | cons addr rest ih =>
    exact ih (TableInvariant.free_pre_linked inv (unicast addr List.mem_cons_self))
      fun other member => unicast other (List.mem_cons_of_mem _ member)

theorem TableInvariant.pre_link_reset (inv : TableInvariant open_addrs s) :
    TableInvariant open_addrs (rtw_pre_link_sta_ctl_reset s) := by
  refine TableInvariant.free_all_pre_linked (inv.nodes _ ?num ?unicast ?opened) ?valid
  case num =>
    have num := inv.num
    rw [List.countP_eq_length_filter] at num
    rw [List.length_map, num, Nat.sub_self, List.countP_map]
    exact (List.countP_eq_zero.mpr fun _ _ valid => absurd valid Bool.false_ne_true).symm
  case unicast =>
    intro node member valid
    rcases List.mem_map.mp member with ⟨_, _, same⟩
    rw [← same] at valid
    cases valid
  case opened =>
    intro addr known
    refine .inr (List.mem_append.mpr (known.imp_left fun named => ?_))
    rcases rtw_is_pre_link_sta_iff.mp named with ⟨node, member, valid, addressed⟩
    exact List.mem_map.mpr ⟨node, List.mem_filter.mpr ⟨member, valid⟩, addressed⟩
  case valid =>
    intro addr member
    rcases List.mem_map.mp member with ⟨node, there, addressed⟩
    rw [← addressed]
    exact inv.unicast node (List.mem_filter.mp there).1 (List.mem_filter.mp there).2

theorem TableInvariant.step (s : StaPriv) (operation : TableOperation) (called : Called s operation)
    (inv : TableInvariant [] s) : TableInvariant [] (s.step operation) := by
  cases operation with
  | rtw_alloc_stainfo hwaddr =>
    refine inv.alloc called.1 ?_
    cases group : IS_MCAST hwaddr with
    | false => exact lookup_addr_of_unicast group
    | true => rw [called.2 group]; exact lookup_addr_bc_addr
  | rtw_free_stainfo psta => exact inv.free called
  | rtw_free_all_stainfo => exact inv.free_all
  | rtw_pre_link_sta_add hwaddr => exact inv.pre_link_add hwaddr
  | rtw_pre_link_sta_del hwaddr => exact inv.pre_link_del hwaddr
  | rtw_pre_link_sta_ctl_reset => exact inv.pre_link_reset

/-- In every run the table is sound, and `rtw_free_all_stainfo` leaves only the station for
group addresses and those that are announced.  It does nothing when one station is there,
which must then be the former. -/
theorem station_table_sound (addrs : Nat -> MacAddr) (operations : List TableOperation)
    (called : Run.Guarded StaPriv.step Called (_rtw_init_sta_priv addrs) operations) (s : StaPriv)
    (reached : s = Run.execute StaPriv.step (_rtw_init_sta_priv addrs) operations) :
    TableSound s ∧
      (s.asoc_sta_count ≠ 1 ∨ rtw_get_bcmc_stainfo s ≠ none ->
        ∀ psta ∈ (rtw_free_all_stainfo s).allocated,
          (rtw_free_all_stainfo s).mac_addr psta = bc_addr ∨
            rtw_is_pre_link_sta (rtw_free_all_stainfo s) ((rtw_free_all_stainfo s).mac_addr psta) = true) := by
  have inv : TableInvariant [] s := reached ▸ called.invariant TableInvariant.step (.initial addrs)
  exact ⟨inv.sound, fun alone psta member => inv.left_by_free_all alone member⟩

def station_addr (n : UInt8) : MacAddr := .ofLast n

def emptyTable : StaPriv := _rtw_init_sta_priv fun _ => .zero

/-- The station for group addresses, one that is announced, and one that is not. -/
def threeStations : List TableOperation :=
  [.rtw_alloc_stainfo bc_addr, .rtw_pre_link_sta_add (station_addr 1), .rtw_alloc_stainfo (station_addr 2),
    .rtw_free_stainfo ⟨1, one_lt_NUM_STA⟩]

theorem station_table_sound_three :
    TableSound (Run.execute StaPriv.step emptyTable threeStations) ∧
      ((Run.execute StaPriv.step emptyTable threeStations).asoc_sta_count ≠ 1 ∨
          rtw_get_bcmc_stainfo (Run.execute StaPriv.step emptyTable threeStations) ≠ none ->
        ∀ psta ∈ (rtw_free_all_stainfo (Run.execute StaPriv.step emptyTable threeStations)).allocated,
          (rtw_free_all_stainfo (Run.execute StaPriv.step emptyTable threeStations)).mac_addr psta = bc_addr ∨
            rtw_is_pre_link_sta (rtw_free_all_stainfo (Run.execute StaPriv.step emptyTable threeStations))
              ((rtw_free_all_stainfo (Run.execute StaPriv.step emptyTable threeStations)).mac_addr psta) = true) :=
  station_table_sound (fun _ => .zero) threeStations (by decide +kernel) _ rfl

/-- Without a station for group addresses, the only station is taken for it and not freed,
and a group address can be entered twice, because it is never found. -/
theorem station_table_without_broadcast :
    (rtw_get_stainfo emptyTable (station_addr 1) = none ∧
        ∃ psta, psta ∈ (rtw_free_all_stainfo (rtw_alloc_stainfo emptyTable (station_addr 1)).2).allocated ∧
          (rtw_free_all_stainfo (rtw_alloc_stainfo emptyTable (station_addr 1)).2).mac_addr psta = station_addr 1 ∧
          rtw_is_pre_link_sta (rtw_free_all_stainfo (rtw_alloc_stainfo emptyTable (station_addr 1)).2)
            (station_addr 1) = false) ∧
      (∀ group : MacAddr, group = ⟨[1, 0, 0x5e, 0, 0, 1], rfl⟩ ->
        rtw_get_stainfo emptyTable group = none ∧
          rtw_get_stainfo (rtw_alloc_stainfo emptyTable group).2 group = none ∧
          ¬ TableSound (rtw_alloc_stainfo (rtw_alloc_stainfo emptyTable group).2 group).2) := by
  refine ⟨⟨by decide +kernel, ⟨0, by decide⟩, by decide +kernel, by decide +kernel, by decide +kernel⟩, ?_⟩
  intro group same
  subst same
  refine ⟨by decide +kernel, by decide +kernel, fun sound => ?_⟩
  have twice := sound.distinct ⟨0, by decide⟩ ⟨1, by decide⟩ (by decide +kernel) (by decide +kernel)
    (by decide +kernel)
  exact absurd twice (by decide)

end Sta

end Rtl8821ce
