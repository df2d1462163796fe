import Mathlib.Algebra.Order.Ring.Int
import Mathlib.Algebra.Order.Monoid.Unbundled.Pow
import Rtl8821ce.Br.AddressTable
import Rtl8821ce.Library.Run

/-!
# Runs of the address table

What was inserted and refreshed is kept beside the table.  The expiry takes out entries that
are old, one at a time and by their use counts, so an entry that is young is there; but an entry
that is there need not be young.
-/

namespace Rtl8821ce
namespace AddressTable

open HashLinks

variable {clock : Clock}

/-- The address of the latest insertion, and the time of the latest insertion or refresh. -/
structure Seen where
  mac : MacAddr
  time : Nat

/-- Less than `NAT25_AGEING_TIME` seconds ago. -/
def Seen.Young (clock : Clock) (seen : Seen) (time : Nat) : Prop :=
  time < seen.time + NAT25_AGEING_TIME * clock.hz

/-- The answer of a lookup, and what was known of the address then. -/
structure Looked where
  time : Nat
  answer : Bool
  dst : MacAddr
  seen : Option Seen

/-- The answer is 1 exactly for an address that was seen lately, and the frame goes there. -/
def Looked.Right (clock : Clock) (looked : Looked) : Prop :=
  (looked.answer = true <-> ∃ seen, looked.seen = some seen ∧ seen.Young clock looked.time) ∧
    ∀ seen, looked.answer = true -> looked.seen = some seen -> looked.dst = seen.mac

/-- A call, with the ticks since the one before. -/
inductive Call
  | insert (macAddr : MacAddr) (networkAddr : List UInt8) (malloc : Option Nat)
  | lookup (networkAddr : List UInt8) (dst : MacAddr)
  | nat25_db_expire
  | nat25_db_cleanup
  | rtw_br_client_tx (br_port : Bool) (br_mac : MacAddr) (skb : Table.XmitFrame)

/-- `broken` says that a walk did not end, or met an entry that was freed. -/
structure History (clock : Clock) where
  time : Nat
  table : Table clock
  latest : List UInt8 -> Option Seen
  looked : Option Looked
  broken : Bool

def Table.Holds (t : Table clock) (networkAddr : List UInt8) : Prop :=
  ∃ db, db ∈ t.live ∧ (t.entries db).networkAddr = networkAddr

instance (t : Table clock) (networkAddr : List UInt8) : Decidable (t.Holds networkAddr) :=
  inferInstanceAs (Decidable (∃ db, db ∈ t.live ∧ _))

/-- An insertion counts when there is an entry afterwards. -/
def inserted (latest : List UInt8 -> Option Seen) (t : Table clock) (time : Nat) (macAddr : MacAddr)
    (networkAddr : List UInt8) : List UInt8 -> Option Seen :=
  if t.Holds networkAddr then Function.update latest networkAddr (some ⟨macAddr, time⟩) else latest

/-- The frame did not go on to `nat25_db_handle` when the entry of the shortcut was refreshed. -/
def refreshed (latest : List UInt8 -> Option Seen) (t : Table clock) (time : Nat) (do_nat25 : Bool) :
    List UInt8 -> Option Seen :=
  match do_nat25, t.scdb_entry with
  | false, some db =>
      Function.update latest (t.entries db).networkAddr
        ((latest (t.entries db).networkAddr).map (fun seen => { seen with time := time }))
  | _, _ => latest

namespace History

def wait (h : History clock) (delay : Nat) : History clock := { h with time := h.time + delay }

def insert (h : History clock) (macAddr : MacAddr) (networkAddr : List UInt8) (malloc : Option Nat) : History clock :=
  match h.table.__nat25_db_network_insert h.time macAddr networkAddr malloc with
  | none => { h with broken := true }
  | some t => { h with table := t, latest := inserted h.latest t h.time macAddr networkAddr }

def lookup (h : History clock) (networkAddr : List UInt8) (dst : MacAddr) : History clock :=
  match h.table.__nat25_db_network_lookup_and_replace h.time networkAddr dst with
  | none => { h with broken := true }
  | some (answer, dst, t) => { h with table := t, looked := some ⟨h.time, answer, dst, h.latest networkAddr⟩ }

def expire (h : History clock) : History clock :=
  match h.table.nat25_db_expire h.time with
  | none => { h with broken := true }
  | some t => { h with table := t }

def cleanup (h : History clock) : History clock :=
  match h.table.nat25_db_cleanup with
  | none => { h with broken := true }
  | some t => { h with table := t, latest := fun _ => none }

def transmit (h : History clock) (br_port : Bool) (br_mac : MacAddr) (skb : Table.XmitFrame) : History clock :=
  match h.table.rtw_br_client_tx h.time br_port br_mac skb with
  | none => { h with broken := true }
  | some (do_nat25, t) => { h with table := t, latest := refreshed h.latest t h.time do_nat25 }

def apply (h : History clock) : Call -> History clock
  | .insert macAddr networkAddr malloc => h.insert macAddr networkAddr malloc
  | .lookup networkAddr dst => h.lookup networkAddr dst
  | .nat25_db_expire => h.expire
  | .nat25_db_cleanup => h.cleanup
  | .rtw_br_client_tx br_port br_mac skb => h.transmit br_port br_mac skb

def step (h : History clock) (call : Nat × Call) : History clock := (h.wait call.1).apply call.2

def start (clock : Clock) (time : Nat) : History clock where
  time := time
  table :=
    { links := ⟨fun _ => none, fun _ => none⟩, entries := fun _ => ⟨0, .zero, 0, []⟩, live := [],
      scdb_mac := .zero, scdb_ip := List.replicate 4 0, scdb_entry := none }
  latest := fun _ => none
  looked := none
  broken := false

end History

/-- What the table promises: its lists, and the latest answer. -/
structure Sound (h : History clock) : Prop where
  filed : ∃ lists, h.table.Filed lists
  right : ∀ looked, h.looked = some looked -> looked.Right clock
  ends : h.broken = false

/-- A lookup finds no entry that was inserted and refreshed too long ago. -/
def Meets (h : History clock) (call : Nat × Call) : Prop :=
  match call.2 with
  | .lookup networkAddr _ =>
      h.table.Holds networkAddr -> ∀ seen, h.latest networkAddr = some seen -> seen.Young clock (h.time + call.1)
  | _ => True

theorem timeout_sub_eq (clock : Clock) (time before : Nat) :
    (__nat25_timeout clock time - clock.jiffies before).toInt =
      ((time : Int) - (NAT25_AGEING_TIME * clock.hz : Nat) - before).bmod (2 ^ clock.bits) := by
  unfold __nat25_timeout Clock.jiffies
  rw [BitVec.toInt_sub, BitVec.toInt_sub, BitVec.toInt_ofNat', BitVec.toInt_ofNat', BitVec.toInt_ofNat']
  have bmod_sub : ∀ first second : Int, (first.bmod (2 ^ clock.bits) - second.bmod (2 ^ clock.bits)).bmod
      (2 ^ clock.bits) = (first - second).bmod (2 ^ clock.bits) := by
    intro first second
    rw [Int.bmod_sub_bmod, Int.sub_bmod_bmod]
  rw [bmod_sub (time : Int) (NAT25_AGEING_TIME * clock.hz : Nat), bmod_sub]

theorem not_expired_of_young {entry : Entry clock} {seen : Seen} {time : Nat}
    (timer : entry.ageing_timer = clock.jiffies seen.time) (past : seen.time ≤ time) (young : seen.Young clock time) :
    __nat25_has_expired time entry = false := by
  have small : NAT25_AGEING_TIME * clock.hz ≤ 360000 := Nat.mul_le_mul_left 300 clock.hz_le
  have wide : (2 : Int) ^ 32 ≤ 2 ^ clock.bits := pow_le_pow_right₀ (by decide) clock.bits_ge
  have early : time < seen.time + NAT25_AGEING_TIME * clock.hz := young
  refine decide_eq_false (fun expired => ?_)
  rw [timer, timeout_sub_eq, Int.bmod_eq_of_le (by push_cast; omega) (by push_cast; omega)] at expired
  omega

/-- Every entry has the address and the time of its latest insertion and refresh, and what was
seen lately has an entry. -/
structure Recorded (latest : List UInt8 -> Option Seen) (time : Nat) (t : Table clock) : Prop where
  known : ∀ {db : Nat}, db ∈ t.live -> ∃ seen, latest (t.entries db).networkAddr = some seen ∧
    (t.entries db).macAddr = seen.mac ∧ (t.entries db).ageing_timer = clock.jiffies seen.time ∧ seen.time ≤ time
  held : ∀ {networkAddr : List UInt8} {seen : Seen}, latest networkAddr = some seen -> seen.Young clock time ->
    t.Holds networkAddr

variable {latest : List UInt8 -> Option Seen} {time : Nat} {t : Table clock} {lists : Nat -> List Nat}
  {networkAddr : List UInt8} {db : Nat}

namespace Recorded

theorem wait (recorded : Recorded latest time t) (delay : Nat) : Recorded latest (time + delay) t := by
  constructor
  · intro db live
    have ⟨seen, known, mac, timer, past⟩ := recorded.known live
    exact ⟨seen, known, mac, timer, Nat.le_add_right_of_le past⟩
  · intro networkAddr seen known young
    exact recorded.held known (Nat.lt_of_le_of_lt (Nat.le_add_right time delay) young)

theorem congr (recorded : Recorded latest time t) {other : Table clock} (live : other.live = t.live)
    (entries : ∀ db ∈ t.live, (other.entries db).networkAddr = (t.entries db).networkAddr ∧
      (other.entries db).macAddr = (t.entries db).macAddr ∧
      (other.entries db).ageing_timer = (t.entries db).ageing_timer) : Recorded latest time other := by
  constructor
  · intro db alive
    rw [live] at alive
    have ⟨address, mac, timer⟩ := entries db alive
    rw [address, mac, timer]
    exact recorded.known alive
  · intro networkAddr seen known young
    have ⟨db, alive, address⟩ := recorded.held known young
    exact ⟨db, live ▸ alive, (entries db alive).1.trans address⟩

theorem not_young (recorded : Recorded latest time t) (live : db ∈ t.live)
    (expired : __nat25_has_expired time (t.entries db) = true) {seen : Seen}
    (known : latest (t.entries db).networkAddr = some seen) : ¬ seen.Young clock time := by
  intro young
  have ⟨other, same, _, timer, past⟩ := recorded.known live
  rw [known, Option.some.injEq] at same
  rw [same] at young
  exact absurd expired (Bool.eq_false_iff.mp (not_expired_of_young timer past young))

theorem remove (recorded : Recorded latest time t) (live : db ∈ t.live)
    (expired : __nat25_has_expired time (t.entries db) = true) : Recorded latest time (t.remove db) := by
  constructor
  · intro other alive
    rw [Table.remove_entries]
    exact recorded.known ((Table.remove_live t db other).mp alive).1
  · intro networkAddr seen known young
    have ⟨other, alive, address⟩ := recorded.held known young
    refine ⟨other, (Table.remove_live t db other).mpr ⟨alive, fun same => ?_⟩, ?_⟩
    · rw [← address, same] at known
      exact recorded.not_young live expired known young
    · rw [Table.remove_entries]
      exact address

end Recorded

theorem change_entries (t : Table clock) (db : Nat) (entry : Entry clock) (other : Nat) :
    (t.change db entry).entries other = if other = db then entry else t.entries other :=
  Function.update_apply _ _ _ _

theorem Recorded.change (recorded : Recorded latest time t) (filed : t.Filed lists) (live : db ∈ t.live)
    {entry : Entry clock} (same : entry.networkAddr = (t.entries db).networkAddr) {seen : Seen}
    (mac : entry.macAddr = seen.mac) (timer : entry.ageing_timer = clock.jiffies seen.time) (past : seen.time ≤ time) :
    Recorded (Function.update latest (t.entries db).networkAddr (some seen)) time (t.change db entry) := by
  constructor
  · intro other alive
    rw [change_entries]
    by_cases equal : other = db
    · rw [if_pos equal, same, Function.update_self]
      exact ⟨seen, rfl, mac, timer, past⟩
    · have different : (t.entries other).networkAddr ≠ (t.entries db).networkAddr :=
        fun address => equal (filed.unique alive live address)
      rw [if_neg equal, Function.update_of_ne different]
      exact recorded.known alive
  · intro networkAddr other known young
    by_cases equal : networkAddr = (t.entries db).networkAddr
    · refine ⟨db, live, ?_⟩
      rw [change_entries, if_pos rfl, same, equal]
    · rw [Function.update_of_ne equal] at known
      have ⟨place, alive, address⟩ := recorded.held known young
      have different : place ≠ db := fun here => equal (address.symm.trans (congrArg (fun db => (t.entries db).networkAddr) here))
      refine ⟨place, alive, ?_⟩
      rw [change_entries, if_neg different]
      exact address

/-! ## The calls -/

/-- What every call leaves. -/
structure Standing (h : History clock) : Prop where
  filed : ∃ lists, h.table.Filed lists
  ends : h.broken = false
  recorded : Recorded h.latest h.time h.table

variable {h : History clock}

theorem Standing.wait (standing : Standing h) (delay : Nat) : Standing (h.wait delay) :=
  ⟨standing.filed, standing.ends, standing.recorded.wait delay⟩

theorem standing_start (clock : Clock) (time : Nat) : Standing (History.start clock time) := by
  refine ⟨⟨fun _ => [], ⟨fun _ => rfl, fun _ => List.nodup_nil, fun here _ => (nomatch here)⟩, ?_, ?_, ?_, ?_⟩, rfl, ?_, ?_⟩
  · exact fun db => iff_of_false (List.not_mem_nil) (fun ⟨_, member⟩ => (nomatch member))
  · exact fun member => (nomatch member)
  · exact fun live => (nomatch live)
  · exact fun known => (nomatch known)
  · exact fun live => (nomatch live)
  · exact fun known => (nomatch known)

section insert

theorem rtw_malloc_not_live {malloc : Option Nat} (result : t.rtw_malloc malloc = some db) : db ∉ t.live := by
  have fresh := (Option.filter_eq_some_iff.mp result).2
  rw [Bool.not_eq_true'] at fresh
  exact fun live => absurd ((Table.allocated_iff t db).mpr live) (Bool.eq_false_iff.mp fresh)

theorem insert_outcome (filed : t.Filed lists) (recorded : Recorded latest time t) (macAddr : MacAddr)
    (networkAddr : List UInt8) (malloc : Option Nat) :
    ∃ after, t.__nat25_db_network_insert time macAddr networkAddr malloc = some after ∧
      (∃ now, after.Filed now) ∧ Recorded (inserted latest after time macAddr networkAddr) time after := by
  unfold Table.__nat25_db_network_insert
  rcases filed.find_entry_cases networkAddr with ⟨db, live, address, found⟩ | ⟨found, absent⟩
  · rw [found]
    refine ⟨_, rfl, ⟨lists, filed.change rfl⟩, ?_⟩
    have holds : (t.change db { t.entries db with macAddr := macAddr, ageing_timer := clock.jiffies time }).Holds networkAddr := by
      refine ⟨db, live, ?_⟩
      rw [change_entries, if_pos rfl]
      exact address
    have now : (Seen.mk macAddr time).time ≤ time := Nat.le_refl time
    rw [inserted, if_pos holds, ← address]
    refine recorded.change filed live ?_ ?_ ?_ now <;> rfl
  · rw [found]
    have not_held : ¬ t.Holds networkAddr := fun ⟨db, live, address⟩ => absent db live address
    cases result : t.rtw_malloc malloc with
    | none =>
        refine ⟨t, rfl, ⟨lists, filed⟩, ?_⟩
        rw [inserted, if_neg not_held]
        exact recorded
    | some db =>
        have fresh := rtw_malloc_not_live result
        have entry_self : (t.create time macAddr networkAddr db).entries db = ⟨1, macAddr, clock.jiffies time, networkAddr⟩ :=
          Function.update_self _ _ _
        have entry_old : ∀ {other}, other ∈ t.live ->
            (t.create time macAddr networkAddr db).entries other = t.entries other :=
          fun {other} live => Function.update_of_ne (fun same : other = db => fresh (same ▸ live)) _ _
        have holds : (t.create time macAddr networkAddr db).Holds networkAddr :=
          ⟨db, List.mem_cons_self, congrArg Entry.networkAddr entry_self⟩
        refine ⟨_, rfl, filed.create fresh absent, ?_⟩
        rw [inserted, if_pos holds]
        constructor
        · intro other live
          rcases List.mem_cons.mp live with rfl | old
          · rw [entry_self, Function.update_self]
            exact ⟨_, rfl, rfl, rfl, Nat.le_refl time⟩
          · rw [entry_old old, Function.update_of_ne (absent other old)]
            exact recorded.known old
        · intro address seen known young
          by_cases same : address = networkAddr
          · exact same ▸ holds
          · rw [Function.update_of_ne same] at known
            have ⟨other, old, held⟩ := recorded.held known young
            exact ⟨other, List.mem_cons_of_mem _ old, (congrArg Entry.networkAddr (entry_old old)).trans held⟩

end insert

section lookup

/-- A lookup ends, and answers 1 exactly when there is an entry; the frame goes to its address
when it is young. -/
theorem lookup_outcome (filed : t.Filed lists) (recorded : Recorded latest time t) (networkAddr : List UInt8)
    (dst : MacAddr) :
    ∃ answer now, ∃ after,
      t.__nat25_db_network_lookup_and_replace time networkAddr dst = some (answer, now, after) ∧
        (∃ lists, after.Filed lists) ∧ Recorded latest time after ∧
        (answer = true <-> t.Holds networkAddr) ∧
        ∀ seen, answer = true -> latest networkAddr = some seen -> seen.Young clock time -> now = seen.mac := by
  unfold Table.__nat25_db_network_lookup_and_replace
  rcases filed.find_entry_cases networkAddr with ⟨db, live, address, found⟩ | ⟨found, absent⟩
  · have holds : t.Holds networkAddr := ⟨db, live, address⟩
    obtain ⟨known, latest_known, mac, timer, past⟩ := recorded.known live
    rw [address] at latest_known
    rw [found]
    by_cases expired : __nat25_has_expired time (t.entries db) = true
    · refine ⟨true, dst, t, if_pos expired, ⟨lists, filed⟩, recorded, iff_of_true rfl holds, ?_⟩
      intro seen _ seen_known young
      rw [← address] at seen_known
      exact absurd young (recorded.not_young live expired seen_known)
    · refine ⟨true, _, _, if_neg expired, ⟨lists, filed.change rfl⟩, ?_, iff_of_true rfl holds, ?_⟩
      · refine recorded.congr rfl (fun other _ => ?_)
        rw [change_entries]
        by_cases same : other = db
        · rw [if_pos same, same]
          exact ⟨rfl, rfl, rfl⟩
        · rw [if_neg same]
          exact ⟨rfl, rfl, rfl⟩
      · intro seen _ seen_known _
        rw [latest_known, Option.some.injEq] at seen_known
        exact mac.trans (congrArg Seen.mac seen_known)
  · rw [found]
    refine ⟨false, dst, t, rfl, ⟨lists, filed⟩, recorded, iff_of_false (fun impossible => by cases impossible) ?_, ?_⟩
    · rintro ⟨db, live, address⟩
      exact absent db live address
    · exact fun _ impossible => by cases impossible

theorem Standing.lookup (standing : Standing h) (networkAddr : List UInt8) (dst : MacAddr) :
    Standing (h.lookup networkAddr dst) ∧
      ((∀ looked, (h.lookup networkAddr dst).looked = some looked -> looked.Right clock) <->
        (h.table.Holds networkAddr -> ∀ seen, h.latest networkAddr = some seen -> seen.Young clock h.time)) := by
  have ⟨lists, filed⟩ := standing.filed
  have ⟨answer, now, after, result, filed_after, recorded, held, right⟩ :=
    lookup_outcome filed standing.recorded networkAddr dst
  have next : h.lookup networkAddr dst =
      { h with table := after, looked := some ⟨h.time, answer, now, h.latest networkAddr⟩ } := by
    unfold History.lookup
    rw [result]
  rw [next]
  refine ⟨⟨filed_after, standing.ends, recorded⟩, fun all holds seen known => ?_, fun young looked same => ?_⟩
  · have ⟨other, same, lately⟩ := (all _ rfl).1.mp (held.mpr holds)
    exact Option.some.inj (same.symm.trans known) ▸ lately
  · rw [← Option.some.inj same]
    refine ⟨⟨fun answered => ?_, fun ⟨seen, known, lately⟩ => ?_⟩, fun seen answered known => ?_⟩
    · have ⟨db, live, address⟩ := held.mp answered
      have ⟨seen, known, _⟩ := standing.recorded.known live
      rw [address] at known
      exact ⟨seen, known, young ⟨db, live, address⟩ seen known⟩
    · exact held.mpr (standing.recorded.held known lately)
    · exact right seen answered known (young (held.mp answered) seen known)

end lookup

section loops

theorem expire_outcome (filed : t.Filed lists) (recorded : Recorded latest time t) :
    ∃ after, t.nat25_db_expire time = some after ∧ (∃ now, after.Filed now) ∧
      Recorded latest time after := by
  have visits : Table.Visits (@Table.expire_entry clock time) (Recorded latest time) (fun _ => True) := by
    intro t lists bucket f before behind filed split recorded _
    have live : f ∈ t.live := filed.mem_live (split ▸ List.mem_append_right _ List.mem_cons_self)
    unfold Table.expire_entry
    by_cases expired : __nat25_has_expired time (t.entries f) = true
    · have counted_filed : (t.change f { t.entries f with use_count := (t.entries f).use_count - 1 }).Filed lists :=
        filed.change rfl
      have counted_recorded : Recorded latest time
          (t.change f { t.entries f with use_count := (t.entries f).use_count - 1 }) := by
        refine recorded.congr rfl (fun other _ => ?_)
        rw [change_entries]
        by_cases same : other = f
        · rw [if_pos same, same]
          exact ⟨rfl, rfl, rfl⟩
        · rw [if_neg same]
          exact ⟨rfl, rfl, rfl⟩
      have still_expired : __nat25_has_expired time
          ((t.change f { t.entries f with use_count := (t.entries f).use_count - 1 }).entries f) = true := by
        rw [change_entries, if_pos rfl]
        exact expired
      rw [if_pos expired]
      dsimp only
      split
      · exact ⟨before, counted_filed.remove split, counted_recorded.remove live still_expired, trivial⟩
      · refine ⟨before ++ [f], ?_, counted_recorded, trivial⟩
        rw [List.append_assoc, List.singleton_append, ← split, Function.update_eq_self]
        exact counted_filed
    · refine ⟨before ++ [f], ?_, ?_, trivial⟩
      · rw [if_neg expired, List.append_assoc, List.singleton_append, ← split, Function.update_eq_self]
        exact filed
      · rw [if_neg expired]
        exact recorded
  have ⟨after, done, kept, now, filed_after, _⟩ := Table.for_buckets_ends visits trivial filed recorded NAT25_HASH_SIZE
  exact ⟨after, done, ⟨now, filed_after⟩, kept⟩

theorem network_hash_lt (networkAddr : List UInt8) : BrExt.__nat25_network_hash networkAddr < NAT25_HASH_SIZE :=
  Nat.mod_lt _ (by decide)

theorem cleanup_outcome (filed : t.Filed lists) :
    ∃ after, t.nat25_db_cleanup = some after ∧ (∃ now, after.Filed now) ∧
      ∀ db, db ∉ after.live := by
  have visits : Table.Visits (fun f (t : Table clock) => t.remove f) (fun _ => True) (fun left => left = []) := by
    intro t lists bucket f before behind filed split _ none
    exact ⟨before, filed.remove split, trivial, none⟩
  have ⟨after, done, _, now, filed_after, empty⟩ := Table.for_buckets_ends visits rfl filed trivial NAT25_HASH_SIZE
  refine ⟨after, done, ⟨now, filed_after⟩, fun db live => ?_⟩
  have member := filed_after.mem_bucket live
  rw [empty _ (network_hash_lt _)] at member
  exact nomatch member

end loops

section transmit

theorem refresh_outcome (filed : t.Filed lists) (recorded : Recorded latest time t) (known : t.scdb_entry = some db) :
    ∃ after, t.refresh time = some after ∧ (∃ now, after.Filed now) ∧
      Recorded (refreshed latest after time false) time after := by
  have live := filed.shortcut known
  have ⟨seen, latest_known, mac, _, _⟩ := recorded.known live
  have result : t.refresh time = some (t.change db { t.entries db with ageing_timer := clock.jiffies time }) := by
    unfold Table.refresh
    rw [known]
    exact if_pos ((Table.allocated_iff t db).mpr live)
  refine ⟨_, result, ⟨lists, filed.change rfl⟩, ?_⟩
  have shortcut : (t.change db { t.entries db with ageing_timer := clock.jiffies time }).scdb_entry = some db := known
  unfold refreshed
  rw [shortcut]
  dsimp only
  rw [change_entries, if_pos rfl, latest_known]
  have now : ({ seen with time := time } : Seen).time ≤ time := Nat.le_refl time
  refine recorded.change filed live ?_ mac ?_ now <;> rfl

theorem transmit_outcome (filed : t.Filed lists) (recorded : Recorded latest time t) (br_port : Bool) (br_mac : MacAddr)
    (skb : Table.XmitFrame) :
    ∃ do_nat25 after, t.rtw_br_client_tx time br_port br_mac skb = some (do_nat25, after) ∧
      (∃ now, after.Filed now) ∧ Recorded (refreshed latest after time do_nat25) time after := by
  have refresh_now : ∀ {t : Table clock} {db}, t.Filed lists -> Recorded latest time t -> t.scdb_entry = some db ->
      ∃ do_nat25, ∃ after,
        (t.refresh time).map (fun t => (false, t)) = some (do_nat25, after) ∧
        (∃ now, after.Filed now) ∧ Recorded (refreshed latest after time do_nat25) time after := by
    intro t db filed recorded known
    have ⟨after, result, filed_after, recorded_after⟩ := refresh_outcome filed recorded known
    exact ⟨false, after, result ▸ rfl, filed_after, recorded_after⟩
  have shortcut_known : t.scdb_entry ≠ none -> ∃ db, t.scdb_entry = some db := Option.ne_none_iff_exists'.mp
  unfold Table.rtw_br_client_tx
  split
  case isTrue first =>
      have ⟨db, known⟩ := shortcut_known first.2.2.2.2.2.2
      exact refresh_now filed recorded known
  case isFalse =>
      split
      case isFalse => exact ⟨true, t, rfl, ⟨lists, filed⟩, recorded⟩
      case isTrue =>
          split
          case isTrue =>
              unfold Table.scdb_find
              rcases filed.find_entry_cases (BrExt.__nat25_generate_ipv4_network_addr skb.saddr) with
                ⟨db, live, _, found⟩ | ⟨found, _⟩
              · rw [found]
                have pointed : Table.Filed { t with scdb_entry := some db, scdb_mac := skb.src, scdb_ip := skb.saddr } lists :=
                  ⟨filed.linked, filed.live, filed.bucket, filed.unique, fun same => Option.some.inj same ▸ live⟩
                exact refresh_now pointed ⟨recorded.known, recorded.held⟩ rfl
              · rw [found]
                exact ⟨true, _, rfl,
                  ⟨lists, filed.linked, filed.live, filed.bucket, filed.unique, fun impossible => (nomatch impossible)⟩,
                  recorded.known, recorded.held⟩
          case isFalse =>
              split
              case isTrue known =>
                  have ⟨db, known⟩ := shortcut_known known
                  exact refresh_now filed recorded known
              case isFalse =>
                  exact ⟨true, _, rfl, ⟨lists, filed.linked, filed.live, filed.bucket, filed.unique, filed.shortcut⟩,
                    recorded.known, recorded.held⟩

end transmit

theorem Standing.step (standing : Standing h) (call : Nat × Call) : Standing (h.step call) := by
  have waited := standing.wait call.1
  have ⟨lists, filed⟩ := waited.filed
  unfold History.step
  cases call.2 with
  | insert macAddr networkAddr malloc =>
      have ⟨after, result, filed_after, recorded⟩ := insert_outcome filed waited.recorded macAddr networkAddr malloc
      change Standing (History.insert _ _ _ _)
      unfold History.insert
      rw [result]
      exact ⟨filed_after, waited.ends, recorded⟩
  | lookup networkAddr dst => exact (waited.lookup networkAddr dst).1
  | nat25_db_expire =>
      have ⟨after, result, filed_after, recorded⟩ := expire_outcome filed waited.recorded
      change Standing (History.expire _)
      unfold History.expire
      rw [result]
      exact ⟨filed_after, waited.ends, recorded⟩
  | nat25_db_cleanup =>
      have ⟨after, result, filed_after, empty⟩ := cleanup_outcome filed
      change Standing (History.cleanup _)
      unfold History.cleanup
      rw [result]
      exact ⟨filed_after, waited.ends, fun live => absurd live (empty _), fun known => (nomatch known)⟩
  | rtw_br_client_tx br_port br_mac skb =>
      have ⟨do_nat25, after, result, filed_after, recorded⟩ := transmit_outcome filed waited.recorded br_port br_mac skb
      change Standing (History.transmit _ _ _ _)
      unfold History.transmit
      rw [result]
      exact ⟨filed_after, waited.ends, recorded⟩

theorem looked_of_not_lookup (h : History clock) (call : Nat × Call)
    (other : ∀ networkAddr dst, call.2 ≠ .lookup networkAddr dst) : (h.step call).looked = h.looked := by
  unfold History.step
  cases kind : call.2 with
  | insert macAddr networkAddr malloc =>
      change (History.insert _ _ _ _).looked = _
      unfold History.insert
      split <;> rfl
  | lookup networkAddr dst => exact absurd kind (other networkAddr dst)
  | nat25_db_expire =>
      change (History.expire _).looked = _
      unfold History.expire
      split <;> rfl
  | nat25_db_cleanup =>
      change (History.cleanup _).looked = _
      unfold History.cleanup
      split <;> rfl
  | rtw_br_client_tx br_port br_mac skb =>
      change (History.transmit _ _ _ _).looked = _
      unfold History.transmit
      split <;> rfl

/-- The table as it always is, with a right answer. -/
structure Kept (h : History clock) : Prop extends Standing h where
  right : ∀ looked, h.looked = some looked -> looked.Right clock

theorem Kept.sound (kept : Kept h) : Sound h := ⟨kept.filed, kept.right, kept.ends⟩

theorem Kept.step (kept : Kept h) {call : Nat × Call} (meets : Meets h call) : Kept (h.step call) := by
  refine ⟨kept.toStanding.step call, ?_⟩
  by_cases lookup : ∃ networkAddr dst, call.2 = .lookup networkAddr dst
  · have ⟨networkAddr, dst, kind⟩ := lookup
    unfold Meets at meets
    rw [kind] at meets
    unfold History.step
    rw [kind]
    exact ((kept.wait call.1).lookup networkAddr dst).2.mpr meets
  · rw [looked_of_not_lookup h call (fun networkAddr dst kind => lookup ⟨networkAddr, dst, kind⟩)]
    exact kept.right

theorem Kept.meets (kept : Kept h) {call : Nat × Call} (sound : Sound (h.step call)) : Meets h call := by
  unfold Meets
  have right := sound.right
  unfold History.step at right
  cases kind : call.2 with
  | lookup networkAddr dst =>
      rw [kind] at right
      exact ((kept.wait call.1).lookup networkAddr dst).2.mp right
  | insert _ _ _ => trivial
  | nat25_db_expire => trivial
  | nat25_db_cleanup => trivial
  | rtw_br_client_tx _ _ _ => trivial

/-- In every run the walks end, and the lists, the addresses and the shortcut are right.  The
answers are right as well exactly when no lookup finds an entry that was seen too long ago. -/
theorem address_table_iff (clock : Clock) (time : Nat) (calls : List (Nat × Call)) :
    ((Run.execute History.step (History.start clock time) calls).broken = false ∧
      ∃ lists, (Run.execute History.step (History.start clock time) calls).table.Filed lists) ∧
    ((∀ done, done <+: calls -> Sound (Run.execute History.step (History.start clock time) done)) <->
      Run.Guarded History.step Meets (History.start clock time) calls) := by
  constructor
  · have standing : Standing (Run.execute History.step (History.start clock time) calls) :=
      (Run.guarded_of_forall History.step (fun _ => True) _ calls (fun _ _ => trivial)).invariant
        (fun _ call _ standing => standing.step call) (standing_start clock time)
    exact ⟨standing.ends, standing.filed⟩
  · have kept_start : Kept (History.start clock time) :=
      ⟨standing_start clock time, fun _ known => (nomatch known)⟩
    exact Run.guarded_iff_promised (fun _ kept => kept.sound)
      (fun _ _ meets kept => kept.step meets) (fun _ _ kept sound => kept.meets sound) kept_start calls

/-- A client is seen once, and its address is asked for an hour later: there was no expiry. -/
def asked_late : List (Nat × Call) :=
  [(0, .insert (.ofLast 1) (BrExt.__nat25_generate_ipv4_network_addr [192, 168, 1, 2]) (some 0x1000)),
    (360000, .lookup (BrExt.__nat25_generate_ipv4_network_addr [192, 168, 1, 2]) (.ofLast 9))]

def hundred_ticks : Clock := ⟨64, 100, by decide, by decide⟩

/-- The answer is 1, and the frame keeps its destination. -/
theorem lookup_answers_too_late :
    ¬ ∀ calls done, done <+: calls -> Sound (Run.execute History.step (History.start hundred_ticks 0) done) := by
  intro sound
  have asked : ((Run.execute History.step (History.start hundred_ticks 0) asked_late).looked.map
      (fun looked => (looked.time, looked.answer, looked.dst.bytes, looked.seen.map Seen.time))) =
        some (360000, true, [2, 0, 0, 0, 0, 9], some 0) := by decide
  cases last : (Run.execute History.step (History.start hundred_ticks 0) asked_late).looked with
  | none =>
      rw [last] at asked
      exact nomatch asked
  | some looked =>
      rw [last, Option.map_some, Option.some.injEq, Prod.mk.injEq, Prod.mk.injEq, Prod.mk.injEq] at asked
      have ⟨seen, known, young⟩ := ((sound asked_late asked_late (List.prefix_refl _)).right looked last).1.mp asked.2.1
      have since := asked.2.2.2
      rw [known, Option.map_some, Option.some.injEq] at since
      unfold Seen.Young at young
      rw [asked.1, since] at young
      exact absurd young (by decide)

end AddressTable
end Rtl8821ce
