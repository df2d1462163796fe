import Mathlib.Data.List.Perm.Subperm
import Rtl8821ce.Br.Nat25
import Rtl8821ce.Library.HashLinks

/-!
# The address table in memory

The entries of NAT2.5 with their pointers.  `Br.Nat25` has the buckets as lists; here an entry
is linked and unlinked through the slot that points to it, taken out during a walk, and
remembered by the shortcut of the transmit path.
-/

namespace Rtl8821ce
namespace AddressTable

open Function (update_of_ne update_self)
open HashLinks

/-- The width of `unsigned long`, and the ticks of a second. -/
structure Clock where
  bits : Nat
  hz : Nat
  bits_ge : 32 ≤ bits
  hz_le : hz ≤ 1200

def NAT25_AGEING_TIME : Nat := 300

def NAT25_HASH_SIZE : Nat := 16

/-- `jiffies`, so many ticks after they were zero. -/
def Clock.jiffies (clock : Clock) (time : Nat) : BitVec clock.bits := BitVec.ofNat clock.bits time

/-- `struct nat25_network_db_entry` without its pointers. -/
structure Entry (clock : Clock) where
  use_count : BitVec 32
  macAddr : MacAddr
  ageing_timer : BitVec clock.bits
  networkAddr : List UInt8

/-- The fields of `_adapter`, and the entries that are allocated. -/
structure Table (clock : Clock) where
  links : Links
  entries : Nat -> Entry clock
  live : List Nat
  scdb_mac : MacAddr
  scdb_ip : List UInt8
  scdb_entry : Option Nat

variable {clock : Clock}

def __nat25_timeout (clock : Clock) (time : Nat) : BitVec clock.bits :=
  clock.jiffies time - BitVec.ofNat clock.bits (NAT25_AGEING_TIME * clock.hz)

def __nat25_has_expired (time : Nat) (fdb : Entry clock) : Bool :=
  decide (0 ≤ (__nat25_timeout clock time - fdb.ageing_timer).toInt)

namespace Table

def allocated (t : Table clock) (db : Nat) : Bool := decide (db ∈ t.live)

def change (t : Table clock) (db : Nat) (entry : Entry clock) : Table clock :=
  { t with entries := Function.update t.entries db entry }

/-- The search in a bucket.  No answer stands for a freed entry, or for a walk without end. -/
def find_entry (t : Table clock) (networkAddr : List UInt8) : Option (Option Nat) :=
  t.links.find t.allocated (fun db => decide ((t.entries db).networkAddr = networkAddr)) t.live.length
    (t.links.word (.head (BrExt.__nat25_network_hash networkAddr)))

def rtw_malloc (t : Table clock) (malloc : Option Nat) : Option Nat :=
  malloc.filter (fun db => !t.allocated db)

def create (t : Table clock) (time : Nat) (macAddr : MacAddr) (networkAddr : List UInt8) (db : Nat) : Table clock :=
  { t with
    entries := Function.update t.entries db ⟨1, macAddr, clock.jiffies time, networkAddr⟩
    links := t.links.link (BrExt.__nat25_network_hash networkAddr) db
    live := db :: t.live }

def __nat25_db_network_insert (t : Table clock) (time : Nat) (macAddr : MacAddr) (networkAddr : List UInt8)
    (malloc : Option Nat) : Option (Table clock) :=
  match t.find_entry networkAddr with
  | none => none
  | some (some db) =>
      some (t.change db { t.entries db with macAddr := macAddr, ageing_timer := clock.jiffies time })
  | some none =>
      match t.rtw_malloc malloc with
      | none => some t
      | some db => some (t.create time macAddr networkAddr db)

/-- The answer, the destination of the frame, and the table. -/
def __nat25_db_network_lookup_and_replace (t : Table clock) (time : Nat) (networkAddr : List UInt8) (dst : MacAddr) :
    Option (Bool × MacAddr × Table clock) :=
  match t.find_entry networkAddr with
  | none => none
  | some none => some (false, dst, t)
  | some (some db) =>
      if __nat25_has_expired time (t.entries db) then some (true, dst, t)
      else
        some (true, (t.entries db).macAddr,
          t.change db { t.entries db with use_count := (t.entries db).use_count + 1 })

/-- An entry is forgotten by the shortcut, unlinked and freed. -/
def remove (t : Table clock) (f : Nat) : Table clock :=
  let t := if t.scdb_entry = some f then
      { t with scdb_mac := .zero, scdb_ip := List.replicate 4 0, scdb_entry := none }
    else t
  { t with links := t.links.unlink f, live := t.live.filter (fun db => db ≠ f) }

def expire_entry (time : Nat) (f : Nat) (t : Table clock) : Table clock :=
  if __nat25_has_expired time (t.entries f) then
    let counted := t.change f { t.entries f with use_count := (t.entries f).use_count - 1 }
    if (counted.entries f).use_count = 0 then counted.remove f else counted
  else t

/-- The loop over the buckets, and in each one the walk that reads the next entry first. -/
def for_buckets (visit : Nat -> Table clock -> Table clock) : Nat -> Table clock -> Option (Table clock)
  | 0, t => some t
  | i + 1, t =>
      (for_buckets visit i t).bind (fun t =>
        walk links allocated visit t.live.length (t.links.word (.head i)) t)

def nat25_db_expire (t : Table clock) (time : Nat) : Option (Table clock) :=
  t.for_buckets (expire_entry time) NAT25_HASH_SIZE

def nat25_db_cleanup (t : Table clock) : Option (Table clock) :=
  t.for_buckets (fun f t => t.remove f) NAT25_HASH_SIZE

def ETH_P_IP : Nat := 0x0800

def ETH_P_8021Q : Nat := 0x8100

/-- What the transmit path reads of a frame: the group bit of the destination, the source, the
type, the type behind a VLAN tag, and the source address of the IP header. -/
structure XmitFrame where
  group : Bool
  src : MacAddr
  protocol : Nat
  inner : Nat
  saddr : List UInt8

def XmitFrame.untagged (skb : XmitFrame) : Nat :=
  if skb.protocol = ETH_P_8021Q then skb.inner else skb.protocol

/-- `scdb_entry->ageing_timer = jiffies`. -/
def refresh (t : Table clock) (time : Nat) : Option (Table clock) :=
  match t.scdb_entry with
  | none => none
  | some db =>
      if t.allocated db then some (t.change db { t.entries db with ageing_timer := clock.jiffies time }) else none

def scdb_find (t : Table clock) (time : Nat) (skb : XmitFrame) : Option (Bool × Table clock) :=
  match t.find_entry (BrExt.__nat25_generate_ipv4_network_addr skb.saddr) with
  | none => none
  | some none => some (true, { t with scdb_entry := none })
  | some (some db) =>
      (refresh { t with scdb_entry := some db, scdb_mac := skb.src, scdb_ip := skb.saddr } time).map (fun t => (false, t))

/-- The part of `rtw_br_client_tx` up to `do_nat25`, which it answers. -/
def rtw_br_client_tx (t : Table clock) (time : Nat) (br_port : Bool) (br_mac : MacAddr) (skb : XmitFrame) :
    Option (Bool × Table clock) :=
  if skb.group = false ∧ br_port = true ∧ skb.src ≠ br_mac ∧ skb.protocol ≠ ETH_P_8021Q ∧ skb.protocol = ETH_P_IP ∧
      t.scdb_mac = skb.src ∧ t.scdb_entry ≠ none then (t.refresh time).map (fun t => (false, t))
  else if skb.untagged = ETH_P_IP then
    if t.scdb_mac ≠ skb.src then t.scdb_find time skb
    else if t.scdb_entry ≠ none then (t.refresh time).map (fun t => (false, t))
    else some (true, { t with scdb_mac := .zero, scdb_ip := List.replicate 4 0 })
  else some (true, t)

/-! ## What holds of the table -/

/-- The entries are filed in these lists: the pointers link them, an entry is in the bucket of
its hash, no network address has two of them, and the shortcut is null or one of them. -/
structure Filed (t : Table clock) (lists : Nat -> List Nat) : Prop where
  linked : Linked t.links lists
  live : ∀ db, db ∈ t.live <-> ∃ bucket, db ∈ lists bucket
  bucket : ∀ {bucket db : Nat}, db ∈ lists bucket ->
    BrExt.__nat25_network_hash (t.entries db).networkAddr = bucket
  unique : ∀ {db other : Nat}, db ∈ t.live -> other ∈ t.live ->
    (t.entries db).networkAddr = (t.entries other).networkAddr -> db = other
  shortcut : ∀ {db : Nat}, t.scdb_entry = some db -> db ∈ t.live

variable {t : Table clock} {lists : Nat -> List Nat} {networkAddr : List UInt8} {db : Nat}

theorem allocated_iff (t : Table clock) (db : Nat) : t.allocated db = true <-> db ∈ t.live := decide_eq_true_iff

namespace Filed

theorem mem_live (filed : Filed t lists) {bucket : Nat} (member : db ∈ lists bucket) : db ∈ t.live :=
  (filed.live db).mpr ⟨bucket, member⟩

theorem mem_bucket (filed : Filed t lists) (live : db ∈ t.live) :
    db ∈ lists (BrExt.__nat25_network_hash (t.entries db).networkAddr) := by
  have ⟨bucket, member⟩ := (filed.live db).mp live
  rw [filed.bucket member]
  exact member

theorem length_le (filed : Filed t lists) (bucket : Nat) : (lists bucket).length ≤ t.live.length :=
  (List.subperm_of_subset (filed.linked.nodup bucket) (fun _ member => filed.mem_live member)).length_le

theorem find_entry_cases (filed : Filed t lists) (networkAddr : List UInt8) :
    (∃ db, db ∈ t.live ∧ (t.entries db).networkAddr = networkAddr ∧
      t.find_entry networkAddr = some (some db)) ∨
    (t.find_entry networkAddr = some none ∧ ∀ db ∈ t.live, (t.entries db).networkAddr ≠ networkAddr) := by
  have found : t.find_entry networkAddr = some ((lists (BrExt.__nat25_network_hash networkAddr)).find?
      (fun db => decide ((t.entries db).networkAddr = networkAddr))) :=
    (filed.linked.chain (BrExt.__nat25_network_hash networkAddr)).find
      (fun db member => (allocated_iff t db).mpr (filed.mem_live member)) (filed.length_le _)
  cases result : (lists (BrExt.__nat25_network_hash networkAddr)).find?
      (fun db => decide ((t.entries db).networkAddr = networkAddr)) with
  | some db =>
      have member := List.mem_of_find?_eq_some result
      have same : decide ((t.entries db).networkAddr = networkAddr) = true :=
        List.find?_some (p := fun db => decide ((t.entries db).networkAddr = networkAddr)) result
      exact Or.inl ⟨db, filed.mem_live member, of_decide_eq_true same, result ▸ found⟩
  | none =>
      refine Or.inr ⟨result ▸ found, fun db live same => ?_⟩
      have member := filed.mem_bucket live
      rw [same] at member
      exact of_decide_eq_false (Bool.eq_false_iff.mpr (List.find?_eq_none.mp result db member)) same

theorem change (filed : Filed t lists) {entry : Entry clock} (same : entry.networkAddr = (t.entries db).networkAddr) :
    Filed (t.change db entry) lists := by
  have kept : ∀ other, ((t.change db entry).entries other).networkAddr = (t.entries other).networkAddr := by
    intro other
    change (Function.update t.entries db entry other).networkAddr = _
    by_cases equal : other = db
    · rw [equal, update_self]
      exact same
    · rw [update_of_ne equal]
  refine ⟨filed.linked, filed.live, fun member => ?_, fun live alive equal => ?_, filed.shortcut⟩
  · rw [kept]
    exact filed.bucket member
  · rw [kept, kept] at equal
    exact filed.unique live alive equal

theorem create (filed : Filed t lists) {time : Nat} {macAddr : MacAddr} (fresh : db ∉ t.live)
    (absent : ∀ other ∈ t.live, (t.entries other).networkAddr ≠ networkAddr) :
    ∃ now, Filed (t.create time macAddr networkAddr db) now := by
  have entry_self : (t.create time macAddr networkAddr db).entries db = ⟨1, macAddr, clock.jiffies time, networkAddr⟩ :=
    update_self _ _ _
  have entry_of_ne : ∀ {other}, other ≠ db -> (t.create time macAddr networkAddr db).entries other = t.entries other :=
    fun different => update_of_ne different _ _
  have old : ∀ {other}, other ∈ t.live -> other ≠ db := fun live same => fresh (same ▸ live)
  have address : ∀ {other}, other ∈ t.live ->
      ((t.create time macAddr networkAddr db).entries other).networkAddr = (t.entries other).networkAddr :=
    fun live => congrArg Entry.networkAddr (entry_of_ne (old live))
  have mem_now : ∀ {bucket other}, other ∈ Function.update lists (BrExt.__nat25_network_hash networkAddr)
      (db :: lists (BrExt.__nat25_network_hash networkAddr)) bucket <->
        (other = db ∧ bucket = BrExt.__nat25_network_hash networkAddr) ∨ other ∈ lists bucket := by
    intro bucket other
    by_cases same : bucket = BrExt.__nat25_network_hash networkAddr
    · rw [same, update_self, List.mem_cons]
      exact or_congr_left (and_iff_left rfl).symm
    · rw [update_of_ne same]
      exact (or_iff_right (fun both => same both.2)).symm
  refine ⟨_, filed.linked.link _ (fun other member => fresh (filed.mem_live member)), ?_, ?_, ?_, ?_⟩
  · intro other
    constructor
    · intro live
      rcases List.mem_cons.mp live with same | old_live
      · exact ⟨_, mem_now.mpr (Or.inl ⟨same, rfl⟩)⟩
      · have ⟨bucket, member⟩ := (filed.live other).mp old_live
        exact ⟨bucket, mem_now.mpr (Or.inr member)⟩
    · rintro ⟨bucket, member⟩
      rcases mem_now.mp member with ⟨same, _⟩ | inside
      · exact List.mem_cons.mpr (Or.inl same)
      · exact List.mem_cons_of_mem _ (filed.mem_live inside)
  · intro bucket other member
    rcases mem_now.mp member with ⟨rfl, rfl⟩ | inside
    · rw [entry_self]
    · rw [address (filed.mem_live inside)]
      exact filed.bucket inside
  · intro first second live alive same
    rcases List.mem_cons.mp live with rfl | old_first
    · rcases List.mem_cons.mp alive with equal | old_second
      · exact equal.symm
      · rw [entry_self, address old_second] at same
        exact absurd same.symm (absent second old_second)
    · rcases List.mem_cons.mp alive with rfl | old_second
      · rw [entry_self, address old_first] at same
        exact absurd same (absent first old_first)
      · rw [address old_first, address old_second] at same
        exact filed.unique old_first old_second same
  · exact fun known => List.mem_cons_of_mem _ (filed.shortcut known)

end Filed

theorem remove_live (t : Table clock) (f db : Nat) : db ∈ (t.remove f).live <-> db ∈ t.live ∧ db ≠ f := by
  unfold remove
  by_cases known : t.scdb_entry = some f
  · rw [if_pos known]
    exact List.mem_filter.trans (and_congr_right' decide_eq_true_iff)
  · rw [if_neg known]
    exact List.mem_filter.trans (and_congr_right' decide_eq_true_iff)

theorem remove_entries (t : Table clock) (f : Nat) : (t.remove f).entries = t.entries := by
  unfold remove
  split <;> rfl

theorem remove_links (t : Table clock) (f : Nat) : (t.remove f).links = t.links.unlink f := by
  unfold remove
  split <;> rfl

theorem remove_scdb_entry {t : Table clock} {f db : Nat} (known : (t.remove f).scdb_entry = some db) :
    t.scdb_entry = some db ∧ db ≠ f := by
  unfold remove at known
  by_cases here : t.scdb_entry = some f
  · rw [if_pos here] at known
    exact nomatch known
  · rw [if_neg here] at known
    exact ⟨known, fun same => here (same ▸ known)⟩

theorem Filed.remove (filed : Filed t lists) {bucket f : Nat} {before behind : List Nat}
    (split : lists bucket = before ++ f :: behind) :
    Filed (t.remove f) (Function.update lists bucket (before ++ behind)) := by
  have distinct := filed.linked.nodup bucket
  rw [split] at distinct
  have not_mem : f ∉ before ++ behind := (List.nodup_middle.mp distinct).notMem
  have here : f ∈ lists bucket := split ▸ List.mem_append_right _ List.mem_cons_self
  have mem_now : ∀ {place db}, db ∈ Function.update lists bucket (before ++ behind) place <->
      db ∈ lists place ∧ db ≠ f := by
    intro place db
    by_cases same : place = bucket
    · rw [same, update_self, split]
      constructor
      · intro member
        refine ⟨?_, fun equal => not_mem (equal ▸ member)⟩
        exact (List.Sublist.append_left (List.sublist_cons_self f behind) before).subset member
      · rintro ⟨member, different⟩
        rcases List.mem_append.mp member with first | later
        · exact List.mem_append_left _ first
        · exact List.mem_append_right _ ((List.mem_cons.mp later).resolve_left different)
    · rw [update_of_ne same]
      refine (and_iff_left_of_imp (fun member equal => ?_)).symm
      exact same (filed.linked.apart (equal ▸ member) here)
  refine ⟨remove_links t f ▸ filed.linked.unlink split, fun db => ?_, fun member => ?_, fun live alive same => ?_,
    fun known => ?_⟩
  · rw [remove_live, filed.live]
    constructor
    · rintro ⟨⟨place, member⟩, different⟩
      exact ⟨place, mem_now.mpr ⟨member, different⟩⟩
    · rintro ⟨place, member⟩
      exact ⟨⟨place, (mem_now.mp member).1⟩, (mem_now.mp member).2⟩
  · rw [remove_entries]
    exact filed.bucket (mem_now.mp member).1
  · rw [remove_live] at live alive
    rw [remove_entries] at same
    exact filed.unique live.1 alive.1 same
  · have ⟨before_known, different⟩ := remove_scdb_entry known
    exact (remove_live t f _).mpr ⟨filed.shortcut before_known, different⟩

section loops

variable {visit : Nat -> Table clock -> Table clock} {Good : Table clock -> Prop} {Left : List Nat -> Prop}

/-- What a visit must do: leave the entries behind its own where they are. -/
def Visits (visit : Nat -> Table clock -> Table clock) (Good : Table clock -> Prop) (Left : List Nat -> Prop) : Prop :=
  ∀ {t : Table clock} {lists : Nat -> List Nat} {bucket f : Nat} {before behind : List Nat},
    Filed t lists -> lists bucket = before ++ f :: behind -> Good t -> Left before ->
      ∃ kept, Filed (visit f t) (Function.update lists bucket (kept ++ behind)) ∧ Good (visit f t) ∧ Left kept

theorem walk_bucket (visits : Visits visit Good Left) (none : Left []) (filed : Filed t lists) (good : Good t)
    (bucket : Nat) :
    ∃ final, walk links allocated visit t.live.length (t.links.word (.head bucket)) t = some final ∧
      Good final ∧ ∃ kept, Filed final (Function.update lists bucket kept) ∧ Left kept := by
  have initial : Filed t (Function.update lists bucket ([] ++ lists bucket)) := by
    rw [List.nil_append, Function.update_eq_self]
    exact filed
  let Invariant (before behind : List Nat) (state : Table clock) : Prop :=
    Filed state (Function.update lists bucket (before ++ behind)) ∧ Good state ∧ Left before
  have chain : ∀ {before behind state}, Invariant before behind state ->
      Chain state.links (.head bucket) (before ++ behind) := by
    intro before behind state kept
    have chain := kept.1.linked.chain bucket
    rw [update_self] at chain
    exact chain
  have inside : ∀ {before node behind state}, Invariant before (node :: behind) state ->
      state.allocated node = true := by
    intro before node behind state kept
    have member : node ∈ Function.update lists bucket (before ++ node :: behind) bucket := by
      rw [update_self]
      exact List.mem_append_right _ List.mem_cons_self
    exact (allocated_iff state node).mpr (kept.1.mem_live member)
  have step : ∀ {before node behind state}, Invariant before (node :: behind) state ->
      ∃ kept, Invariant kept behind (visit node state) := by
    intro before node behind state kept
    have ⟨left, next⟩ := visits kept.1 (update_self _ _ _) kept.2.1 kept.2.2
    rw [Function.update_idem] at next
    exact ⟨left, next⟩
  have ⟨final, walked, kept, last, still_good, left⟩ :=
    @walk_ends _ links allocated visit Invariant (.head bucket) chain inside step [] (lists bucket) t
      ⟨initial, good, none⟩ _ (filed.length_le bucket)
  rw [List.append_nil] at last
  rw [(filed.linked.chain bucket).word_eq]
  exact ⟨final, walked, still_good, kept, last, left⟩

/-- The loop over the buckets ends. -/
theorem for_buckets_ends (visits : Visits visit Good Left) (none : Left []) (filed : Filed t lists) (good : Good t)
    (n : Nat) :
    ∃ final, t.for_buckets visit n = some final ∧ Good final ∧
      ∃ now, Filed final now ∧ ∀ bucket, bucket < n -> Left (now bucket) := by
  induction n with
  | zero => exact ⟨t, rfl, good, lists, filed, fun _ below => absurd below (Nat.not_lt_zero _)⟩
  | succ i ih =>
      have ⟨middle, done, still_good, now, kept, left⟩ := ih
      have ⟨final, walked, last_good, rest, last, last_left⟩ := walk_bucket visits none kept still_good i
      refine ⟨final, ?_, last_good, _, last, fun bucket below => ?_⟩
      · rw [for_buckets, done]
        exact walked
      · by_cases same : bucket = i
        · rw [same, update_self]
          exact last_left
        · rw [update_of_ne same]
          exact left bucket (by omega)

end loops

end Table

end AddressTable
end Rtl8821ce
