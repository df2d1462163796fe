import Mathlib.Algebra.Order.BigOperators.Group.List
import Mathlib.Algebra.Order.Group.Nat
import Mathlib.Data.List.Nodup
import Rtl8821ce.Library.Run
import Rtl8821ce.Recv.Frame

/-!
# A blacklist with expiry

Every walk over the list takes out the expired entries that it passes, up to the entry that it
looks for, so expired entries may stay for a while.  An entry is allocated exactly while it is
linked.
-/

namespace Rtl8821ce
namespace Blacklist

open Function (update_of_ne update_self)

/-- A `systime` has `half + 1` bits.  `rtw_ms_to_systime` and the allocator are those of the
kernel; what is allocated is not in use. -/
structure System where
  half : Nat
  rtw_ms_to_systime : UInt32 -> Nat
  rtw_malloc : List Nat -> Nat
  fresh : ∀ live, rtw_malloc live ∉ live

variable {sys : System}

/-- `systime`, so many ticks after it was zero. -/
def System.systime (sys : System) (time : Nat) : BitVec (sys.half + 1) := BitVec.ofNat (sys.half + 1) time

def rtw_time_after (a b : BitVec (sys.half + 1)) : Bool := (b - a).slt 0

/-- `struct blacklist_ent` without its links. -/
structure BlacklistEnt (sys : System) where
  addr : MacAddr
  exp_time : BitVec (sys.half + 1)

/-- What the functions return. -/
inductive Ret
  | _FAIL
  | _SUCCESS
  | RTW_ALREADY
deriving DecidableEq

/-- The list and the memory of its entries.  `broken` says that an entry was read or freed that is
not allocated; `mallocs` and `mfrees` count the calls. -/
structure Blist (sys : System) where
  queue : List Nat
  ents : Nat -> BlacklistEnt sys
  live : List Nat
  mallocs : Nat
  mfrees : Nat
  broken : Bool

namespace Blist

/-- `rtw_list_delete` and `rtw_mfree`. -/
def remove (blist : Blist sys) (ent : Nat) : Blist sys :=
  { blist with
    queue := blist.queue.erase ent
    live := blist.live.erase ent
    mfrees := blist.mfrees + 1
    broken := blist.broken || !decide (ent ∈ blist.live) }

/-- The loop that the three functions have in common: the entry with the address, if there is one.
The next link is read before an entry is freed. -/
def walk (now : Nat) (addr : MacAddr) : List Nat -> Blist sys -> Option Nat × Blist sys
  | [], blist => (none, blist)
  | ent :: list, blist =>
      if ent ∉ blist.live then (none, { blist with broken := true })
      else if (blist.ents ent).addr = addr then (some ent, blist)
      else if rtw_time_after (sys.systime now) (blist.ents ent).exp_time then walk now addr list (blist.remove ent)
      else walk now addr list blist

def expired (blist : Blist sys) (now : Nat) (ent : Nat) : Bool :=
  rtw_time_after (sys.systime now) (blist.ents ent).exp_time

def renew (blist : Blist sys) (exp_time : BitVec (sys.half + 1)) (ent : Nat) : Blist sys :=
  { blist with ents := Function.update blist.ents ent { blist.ents ent with exp_time := exp_time } }

def insert (blist : Blist sys) (addr : MacAddr) (exp_time : BitVec (sys.half + 1)) : Blist sys :=
  let ent := sys.rtw_malloc blist.live
  { blist with
    queue := blist.queue ++ [ent]
    ents := Function.update blist.ents ent ⟨addr, exp_time⟩
    live := ent :: blist.live
    mallocs := blist.mallocs + 1 }

def rtw_blacklist_add (blist : Blist sys) (now : Nat) (addr : MacAddr) (timeout_ms : UInt32) : Ret × Blist sys :=
  let exp_time := sys.systime now + sys.systime (sys.rtw_ms_to_systime timeout_ms)
  match blist.walk now addr blist.queue with
  | (some ent, blist) =>
      (if blist.expired now ent then ._SUCCESS else .RTW_ALREADY, blist.renew exp_time ent)
  | (none, blist) => (._SUCCESS, blist.insert addr exp_time)

def rtw_blacklist_del (blist : Blist sys) (now : Nat) (addr : MacAddr) : Ret × Blist sys :=
  match blist.walk now addr blist.queue with
  | (some ent, blist) => (._SUCCESS, blist.remove ent)
  | (none, blist) => (.RTW_ALREADY, blist)

def rtw_blacklist_search (blist : Blist sys) (now : Nat) (addr : MacAddr) : Bool × Blist sys :=
  match blist.walk now addr blist.queue with
  | (some ent, blist) => if blist.expired now ent then (false, blist.remove ent) else (true, blist)
  | (none, blist) => (false, blist)

def rtw_blacklist_flush (blist : Blist sys) : Blist sys :=
  blist.queue.foldl remove { blist with queue := [] }

end Blist

theorem time_after_iff {now exp : Nat} (ahead : exp < now + 2 ^ sys.half) (behind : now < exp + 2 ^ sys.half) :
    rtw_time_after (sys.systime now) (sys.systime exp) = true <-> exp < now := by
  have whole : (2 ^ (sys.half + 1) : Nat) = 2 * 2 ^ sys.half := Nat.pow_succ'
  have difference : (sys.systime exp - sys.systime now).toInt = (exp : Int) - now := by
    rw [BitVec.toInt_sub, System.systime, System.systime, BitVec.toInt_ofNat', BitVec.toInt_ofNat',
      Int.bmod_sub_bmod, Int.sub_bmod_bmod]
    exact Int.bmod_eq_of_le (by omega) (by omega)
  have zero : (0 : BitVec (sys.half + 1)).toInt = 0 := BitVec.toInt_zero
  rw [rtw_time_after, BitVec.slt, decide_eq_true_iff, difference, zero]
  omega

/-- The entries are allocated exactly while they are linked, and every address has one at most. -/
structure Blist.InOrder (blist : Blist sys) : Prop where
  queue : blist.queue.Nodup
  live : blist.live.Nodup
  linked : ∀ ent, ent ∈ blist.live <-> ent ∈ blist.queue
  distinct : ∀ {ent other : Nat}, ent ∈ blist.queue -> other ∈ blist.queue ->
    (blist.ents ent).addr = (blist.ents other).addr -> ent = other
  counted : blist.mallocs = blist.mfrees + blist.queue.length
  sound : blist.broken = false

/-- The entries have the expiry times that are to be remembered, and no time is forgotten before
it has passed. -/
structure Blist.Remembers (blist : Blist sys) (expiry : MacAddr -> Option Nat) (start now : Nat) : Prop where
  known : ∀ {ent : Nat}, ent ∈ blist.queue -> ∃ exp, expiry (blist.ents ent).addr = some exp ∧
    (blist.ents ent).exp_time = sys.systime exp
  held : ∀ {addr : MacAddr} {exp : Nat}, expiry addr = some exp -> now ≤ exp ->
    ∃ ent, ent ∈ blist.queue ∧ (blist.ents ent).addr = addr
  bounds : ∀ {addr : MacAddr} {exp : Nat}, expiry addr = some exp -> start ≤ exp ∧ exp < now + 2 ^ sys.half

variable {blist : Blist sys} {expiry : MacAddr -> Option Nat} {start now : Nat} {addr : MacAddr} {ent : Nat}

namespace Blist

theorem Remembers.expired_iff (remembers : blist.Remembers expiry start now) (window : now < start + 2 ^ sys.half)
    (member : ent ∈ blist.queue) {exp : Nat} (known : expiry (blist.ents ent).addr = some exp) :
    blist.expired now ent = true <-> exp < now := by
  have ⟨same, recorded, time⟩ := remembers.known member
  have ⟨early, late⟩ := remembers.bounds known
  rw [known, Option.some.injEq] at recorded
  rw [expired, time, ← recorded]
  exact time_after_iff late (by omega)

theorem InOrder.remove (order : blist.InOrder) (member : ent ∈ blist.queue) : (blist.remove ent).InOrder := by
  have live := (order.linked ent).mpr member
  refine ⟨order.queue.erase ent, order.live.erase ent, fun other => ?_, fun first second same => ?_, ?_, ?_⟩
  · exact (order.live.mem_erase_iff).trans ((and_congr_right' (order.linked other)).trans (order.queue.mem_erase_iff).symm)
  · exact order.distinct (List.mem_of_mem_erase first) (List.mem_of_mem_erase second) same
  · have positive := List.length_pos_of_mem member
    have counted := order.counted
    change blist.mallocs = blist.mfrees + 1 + (blist.queue.erase ent).length
    rw [List.length_erase_of_mem member]
    omega
  · change (blist.broken || !decide (ent ∈ blist.live)) = false
    rw [order.sound, decide_eq_true live]
    rfl

theorem Remembers.remove (remembers : blist.Remembers expiry start now) (order : blist.InOrder)
    (member : ent ∈ blist.queue) {left : MacAddr -> Option Nat}
    (same : ∀ other, other ≠ (blist.ents ent).addr -> left other = expiry other)
    (gone : ∀ exp, left (blist.ents ent).addr = some exp -> expiry (blist.ents ent).addr = some exp ∧ exp < now) :
    (blist.remove ent).Remembers left start now := by
  have subset : ∀ {addr exp}, left addr = some exp -> expiry addr = some exp := by
    intro addr exp known
    by_cases here : addr = (blist.ents ent).addr
    · rw [here] at known ⊢
      exact (gone exp known).1
    · exact (same addr here).symm.trans known
  constructor
  · intro other still
    have ⟨different, was⟩ := (order.queue.mem_erase_iff).mp still
    have ⟨exp, known, time⟩ := remembers.known was
    exact ⟨exp, (same _ (fun address => different (order.distinct was member address))).trans known, time⟩
  · intro addr exp known ahead
    have ⟨other, was, address⟩ := remembers.held (subset known) ahead
    refine ⟨other, (order.queue.mem_erase_iff).mpr ⟨fun equal => ?_, was⟩, address⟩
    rw [← address, equal] at known
    exact absurd (gone exp known).2 (Nat.not_lt.mpr ahead)
  · exact fun known => remembers.bounds (subset known)

/-- What the walk finds: the entry of the address, or that there is none. -/
def Found (blist : Blist sys) (addr : MacAddr) : Option Nat -> Prop
  | some ent => ent ∈ blist.queue ∧ (blist.ents ent).addr = addr
  | none => ∀ ent ∈ blist.queue, (blist.ents ent).addr ≠ addr

theorem walk_outcome (order : blist.InOrder) (remembers : blist.Remembers expiry start now)
    (window : now < start + 2 ^ sys.half) {before rest : List Nat} (split : blist.queue = before ++ rest)
    (passed : ∀ ent ∈ before, (blist.ents ent).addr ≠ addr) :
    ∃ found after, blist.walk now addr rest = (found, after) ∧ after.InOrder ∧
      after.Remembers expiry start now ∧ after.Found addr found := by
  induction rest generalizing blist before with
  | nil =>
      refine ⟨none, blist, rfl, order, remembers, fun ent member => passed ent ?_⟩
      rw [split, List.append_nil] at member
      exact member
  | cons first rest ih =>
      have member : first ∈ blist.queue := split ▸ List.mem_append_right _ List.mem_cons_self
      have live := (order.linked first).mpr member
      rw [walk, if_neg (not_not.mpr live)]
      by_cases same : (blist.ents first).addr = addr
      · rw [if_pos same]
        exact ⟨some first, blist, rfl, order, remembers, member, same⟩
      · rw [if_neg same]
        by_cases old : rtw_time_after (sys.systime now) (blist.ents first).exp_time = true
        · have ⟨exp, known, _⟩ := remembers.known member
          have past := (remembers.expired_iff window member known).mp old
          have not_before : first ∉ before := by
            have distinct := order.queue
            rw [split] at distinct
            exact fun inside => (List.nodup_append.mp distinct).2.2 first inside first List.mem_cons_self rfl
          have split_next : (blist.remove first).queue = before ++ rest := by
            change blist.queue.erase first = _
            rw [split, List.erase_append_right _ not_before, List.erase_cons_head]
          have gone : ∀ other, expiry (blist.ents first).addr = some other ->
              expiry (blist.ents first).addr = some other ∧ other < now := by
            intro other again
            rw [known, Option.some.injEq] at again
            exact ⟨again ▸ known, again ▸ past⟩
          rw [if_pos old]
          exact ih (order.remove member) (remembers.remove order member (fun _ _ => rfl) gone)
            split_next passed
        · rw [if_neg old]
          have split_next : blist.queue = (before ++ [first]) ++ rest := by
            rw [split, List.append_assoc, List.singleton_append]
          refine ih order remembers split_next (fun ent inside => ?_)
          rcases List.mem_append.mp inside with earlier | single
          · exact passed ent earlier
          · exact List.mem_singleton.mp single ▸ same

/-! ## The calls -/

theorem InOrder.renew (order : blist.InOrder) (exp_time : BitVec (sys.half + 1)) (ent : Nat) :
    (blist.renew exp_time ent).InOrder := by
  have address : ∀ other, ((blist.renew exp_time ent).ents other).addr = (blist.ents other).addr := by
    intro other
    change (Function.update blist.ents ent _ other).addr = _
    by_cases same : other = ent
    · rw [same, update_self]
    · rw [update_of_ne same]
  refine ⟨order.queue, order.live, order.linked, fun first second same => ?_, order.counted, order.sound⟩
  rw [address, address] at same
  exact order.distinct first second same

theorem Remembers.renew (remembers : blist.Remembers expiry start now) (order : blist.InOrder)
    (found : ent ∈ blist.queue) (address : (blist.ents ent).addr = addr) {exp : Nat} (early : start ≤ exp)
    (late : exp < now + 2 ^ sys.half) :
    (blist.renew (sys.systime exp) ent).Remembers (Function.update expiry addr (some exp)) start now := by
  have entry_self : (blist.renew (sys.systime exp) ent).ents ent = ⟨addr, sys.systime exp⟩ := by
    refine (update_self _ _ _).trans ?_
    rw [address]
  have entry_old : ∀ {other}, other ≠ ent -> (blist.renew (sys.systime exp) ent).ents other = blist.ents other :=
    fun different => update_of_ne different _ _
  constructor
  · intro other member
    by_cases same : other = ent
    · rw [same, entry_self]
      exact ⟨exp, update_self _ _ _, rfl⟩
    · have different : (blist.ents other).addr ≠ addr :=
        fun equal => same (order.distinct member found (equal.trans address.symm))
      rw [entry_old same, update_of_ne different]
      exact remembers.known member
  · intro other time known ahead
    by_cases same : other = addr
    · exact ⟨ent, found, (congrArg BlacklistEnt.addr entry_self).trans same.symm⟩
    · rw [update_of_ne same] at known
      have ⟨place, member, held⟩ := remembers.held known ahead
      have different : place ≠ ent := fun equal => same (held.symm.trans (equal ▸ address))
      exact ⟨place, member, (congrArg BlacklistEnt.addr (entry_old different)).trans held⟩
  · intro other time known
    by_cases same : other = addr
    · rw [same, update_self, Option.some.injEq] at known
      exact known ▸ ⟨early, late⟩
    · rw [update_of_ne same] at known
      exact remembers.bounds known

section insert

variable {exp_time : BitVec (sys.half + 1)}

theorem insert_fresh (order : blist.InOrder) : sys.rtw_malloc blist.live ∉ blist.queue :=
  fun member => sys.fresh blist.live ((order.linked _).mpr member)

theorem insert_self (blist : Blist sys) (addr : MacAddr) (exp_time : BitVec (sys.half + 1)) :
    (blist.insert addr exp_time).ents (sys.rtw_malloc blist.live) = ⟨addr, exp_time⟩ := update_self _ _ _

theorem insert_old (order : blist.InOrder) (addr : MacAddr) (exp_time : BitVec (sys.half + 1))
    (member : ent ∈ blist.queue) : (blist.insert addr exp_time).ents ent = blist.ents ent :=
  update_of_ne (fun same : ent = sys.rtw_malloc blist.live => insert_fresh order (same ▸ member)) _ _

theorem mem_insert (blist : Blist sys) (addr : MacAddr) (exp_time : BitVec (sys.half + 1)) (ent : Nat) :
    ent ∈ (blist.insert addr exp_time).queue <-> ent ∈ blist.queue ∨ ent = sys.rtw_malloc blist.live := by
  change ent ∈ blist.queue ++ [_] <-> _
  rw [List.mem_append, List.mem_singleton]

theorem InOrder.insert (order : blist.InOrder) (absent : ∀ ent ∈ blist.queue, (blist.ents ent).addr ≠ addr)
    (exp_time : BitVec (sys.half + 1)) : (blist.insert addr exp_time).InOrder := by
  refine ⟨?_, List.nodup_cons.mpr ⟨sys.fresh blist.live, order.live⟩, fun other => ?_, fun first second same => ?_, ?_,
    order.sound⟩
  · exact order.queue.append (List.nodup_singleton _)
      (fun _ member single => insert_fresh order (List.mem_singleton.mp single ▸ member))
  · rw [mem_insert]
    exact List.mem_cons.trans (or_comm.trans (or_congr_left (order.linked other)))
  · rcases (mem_insert _ _ _ _).mp first with old_first | rfl
    · rcases (mem_insert _ _ _ _).mp second with old_second | rfl
      · rw [insert_old order _ _ old_first, insert_old order _ _ old_second] at same
        exact order.distinct old_first old_second same
      · rw [insert_old order _ _ old_first, insert_self] at same
        exact absurd same (absent _ old_first)
    · rcases (mem_insert _ _ _ _).mp second with old_second | rfl
      · rw [insert_self, insert_old order _ _ old_second] at same
        exact absurd same.symm (absent _ old_second)
      · rfl
  · change blist.mallocs + 1 = blist.mfrees + (blist.queue ++ [_]).length
    rw [List.length_append, order.counted]
    exact Nat.add_assoc _ _ _

theorem Remembers.insert (remembers : blist.Remembers expiry start now) (order : blist.InOrder)
    (absent : ∀ ent ∈ blist.queue, (blist.ents ent).addr ≠ addr) {exp : Nat} (early : start ≤ exp)
    (late : exp < now + 2 ^ sys.half) :
    (blist.insert addr (sys.systime exp)).Remembers (Function.update expiry addr (some exp)) start now := by
  constructor
  · intro ent member
    rcases (mem_insert _ _ _ _).mp member with old | rfl
    · rw [insert_old order _ _ old, update_of_ne (absent ent old)]
      exact remembers.known old
    · rw [insert_self]
      exact ⟨exp, update_self _ _ _, rfl⟩
  · intro other time known ahead
    by_cases same : other = addr
    · exact ⟨_, (mem_insert _ _ _ _).mpr (Or.inr rfl), (congrArg BlacklistEnt.addr (insert_self _ _ _)).trans same.symm⟩
    · rw [update_of_ne same] at known
      have ⟨place, member, held⟩ := remembers.held known ahead
      exact ⟨place, (mem_insert _ _ _ _).mpr (Or.inl member),
        (congrArg BlacklistEnt.addr (insert_old order _ _ member)).trans held⟩
  · intro other time known
    by_cases same : other = addr
    · rw [same, update_self, Option.some.injEq] at known
      exact known ▸ ⟨early, late⟩
    · rw [update_of_ne same] at known
      exact remembers.bounds known

end insert

def Unexpired (expiry : MacAddr -> Option Nat) (now : Nat) (addr : MacAddr) : Prop :=
  ∃ exp, expiry addr = some exp ∧ now ≤ exp

theorem Remembers.found_iff (remembers : blist.Remembers expiry start now) (window : now < start + 2 ^ sys.half)
    (member : ent ∈ blist.queue) (address : (blist.ents ent).addr = addr) :
    blist.expired now ent = false <-> Unexpired expiry now addr := by
  have ⟨exp, known, _⟩ := remembers.known member
  have expired := remembers.expired_iff window member known
  rw [address] at known
  rw [← Bool.not_eq_true, expired]
  constructor
  · exact fun later => ⟨exp, known, Nat.not_lt.mp later⟩
  · rintro ⟨other, again, ahead⟩
    rw [known, Option.some.injEq] at again
    exact Nat.not_lt.mpr (again ▸ ahead)

theorem Remembers.not_unexpired (remembers : blist.Remembers expiry start now)
    (absent : ∀ ent ∈ blist.queue, (blist.ents ent).addr ≠ addr) : ¬ Unexpired expiry now addr := by
  rintro ⟨exp, known, ahead⟩
  have ⟨ent, member, address⟩ := remembers.held known ahead
  exact absent ent member address

theorem systime_add (first second : Nat) : sys.systime first + sys.systime second = sys.systime (first + second) :=
  (BitVec.ofNat_add _ _).symm

theorem add_outcome (order : blist.InOrder) (remembers : blist.Remembers expiry start now)
    (window : now < start + 2 ^ sys.half) (begun : start ≤ now) (addr : MacAddr) {timeout_ms : UInt32}
    (timeout : sys.rtw_ms_to_systime timeout_ms < 2 ^ sys.half) :
    (blist.rtw_blacklist_add now addr timeout_ms).2.InOrder ∧
      (blist.rtw_blacklist_add now addr timeout_ms).2.Remembers
        (Function.update expiry addr (some (now + sys.rtw_ms_to_systime timeout_ms))) start now ∧
      ((blist.rtw_blacklist_add now addr timeout_ms).1 = .RTW_ALREADY <-> Unexpired expiry now addr) := by
  have ⟨found, after, walked, order_after, remembers_after, found_after⟩ :=
    @walk_outcome _ _ _ _ _ addr order remembers window [] blist.queue (List.nil_append _).symm
      (fun _ inside => nomatch inside)
  have early : start ≤ now + sys.rtw_ms_to_systime timeout_ms := Nat.le_add_right_of_le begun
  have late : now + sys.rtw_ms_to_systime timeout_ms < now + 2 ^ sys.half := Nat.add_lt_add_left timeout now
  unfold rtw_blacklist_add
  rw [walked, systime_add]
  cases found with
  | some ent =>
      refine ⟨order_after.renew _ ent, remembers_after.renew order_after found_after.1 found_after.2 early late, ?_⟩
      refine Iff.trans ?_ (remembers_after.found_iff window found_after.1 found_after.2)
      dsimp only
      cases after.expired now ent with
      | true => exact iff_of_false (fun impossible => nomatch impossible) (fun impossible => nomatch impossible)
      | false => exact iff_of_true rfl rfl
  | none =>
      refine ⟨order_after.insert found_after _, remembers_after.insert order_after found_after early late, ?_⟩
      exact iff_of_false (fun impossible => nomatch impossible) (remembers_after.not_unexpired found_after)

theorem del_outcome (order : blist.InOrder) (remembers : blist.Remembers expiry start now)
    (window : now < start + 2 ^ sys.half) (addr : MacAddr) :
    (blist.rtw_blacklist_del now addr).2.InOrder ∧
      (blist.rtw_blacklist_del now addr).2.Remembers (Function.update expiry addr none) start now := by
  have ⟨found, after, walked, order_after, remembers_after, found_after⟩ :=
    @walk_outcome _ _ _ _ _ addr order remembers window [] blist.queue (List.nil_append _).symm
      (fun _ inside => nomatch inside)
  unfold rtw_blacklist_del
  rw [walked]
  cases found with
  | some ent =>
      refine ⟨order_after.remove found_after.1, remembers_after.remove order_after found_after.1 ?_ ?_⟩
      · intro other different
        rw [found_after.2] at different
        exact update_of_ne different _ _
      · intro exp known
        rw [found_after.2, update_self] at known
        exact nomatch known
  | none =>
      refine ⟨order_after, ⟨fun {ent} member => ?_, fun {other exp} known ahead => ?_, fun {other exp} known => ?_⟩⟩
      · rw [update_of_ne (found_after ent member)]
        exact remembers_after.known member
      · by_cases same : other = addr
        · rw [same, update_self] at known
          exact nomatch known
        · rw [update_of_ne same] at known
          exact remembers_after.held known ahead
      · by_cases same : other = addr
        · rw [same, update_self] at known
          exact nomatch known
        · rw [update_of_ne same] at known
          exact remembers_after.bounds known

theorem search_outcome (order : blist.InOrder) (remembers : blist.Remembers expiry start now)
    (window : now < start + 2 ^ sys.half) (addr : MacAddr) :
    (blist.rtw_blacklist_search now addr).2.InOrder ∧
      (blist.rtw_blacklist_search now addr).2.Remembers expiry start now ∧
      ((blist.rtw_blacklist_search now addr).1 = true <-> Unexpired expiry now addr) := by
  have ⟨found, after, walked, order_after, remembers_after, found_after⟩ :=
    @walk_outcome _ _ _ _ _ addr order remembers window [] blist.queue (List.nil_append _).symm
      (fun _ inside => nomatch inside)
  unfold rtw_blacklist_search
  rw [walked]
  cases found with
  | some ent =>
      dsimp only
      have young := remembers_after.found_iff window found_after.1 found_after.2
      by_cases old : after.expired now ent = true
      · have gone : ∀ exp, expiry (after.ents ent).addr = some exp ->
            expiry (after.ents ent).addr = some exp ∧ exp < now :=
          fun exp known => ⟨known, (remembers_after.expired_iff window found_after.1 known).mp old⟩
        rw [if_pos old]
        refine ⟨order_after.remove found_after.1,
          remembers_after.remove order_after found_after.1 (fun _ _ => rfl) gone, ?_⟩
        exact iff_of_false (fun impossible => nomatch impossible)
          (fun still => Bool.eq_false_iff.mp (young.mpr still) old)
      · rw [if_neg old]
        refine ⟨order_after, remembers_after, ?_⟩
        exact iff_of_true rfl (young.mp (Bool.eq_false_iff.mpr old))
  | none =>
      refine ⟨order_after, remembers_after, ?_⟩
      exact iff_of_false (fun impossible => nomatch impossible) (remembers_after.not_unexpired found_after)

theorem foldl_remove (list : List Nat) (distinct : list.Nodup) {flushed : Blist sys} (queue : flushed.queue = [])
    (live : ∀ ent, ent ∈ flushed.live <-> ent ∈ list) (nodup : flushed.live.Nodup)
    (counted : flushed.mallocs = flushed.mfrees + list.length) (sound : flushed.broken = false) :
    (list.foldl remove flushed).InOrder ∧ (list.foldl remove flushed).queue = [] := by
  induction list generalizing flushed with
  | nil =>
      change flushed.InOrder ∧ flushed.queue = []
      have member : ∀ ent, ent ∉ flushed.queue := by
        rw [queue]
        exact fun ent inside => nomatch inside
      refine ⟨⟨queue ▸ List.nodup_nil, nodup, fun ent => ?_, fun inside => absurd inside (member _), ?_, sound⟩, queue⟩
      · rw [queue]
        exact live ent
      · rw [queue]
        exact counted
  | cons first rest ih =>
      have ⟨not_rest, rest_distinct⟩ := List.nodup_cons.mp distinct
      have first_live := (live first).mpr List.mem_cons_self
      refine ih rest_distinct ?_ (fun ent => ?_) (nodup.erase first) ?_ ?_
      · change flushed.queue.erase first = []
        rw [queue]
        rfl
      · refine (nodup.mem_erase_iff).trans ?_
        rw [live, List.mem_cons]
        constructor
        · exact fun both => both.2.resolve_left both.1
        · exact fun inside => ⟨fun same => not_rest (same ▸ inside), Or.inr inside⟩
      · change flushed.mallocs = flushed.mfrees + 1 + rest.length
        rw [counted, List.length_cons]
        omega
      · change (flushed.broken || !decide (first ∈ flushed.live)) = false
        rw [sound, decide_eq_true first_live]
        rfl

theorem flush_outcome (order : blist.InOrder) :
    blist.rtw_blacklist_flush.InOrder ∧ blist.rtw_blacklist_flush.queue = [] :=
  foldl_remove blist.queue order.queue rfl order.linked order.live order.counted order.sound

theorem Remembers.later (remembers : blist.Remembers expiry start now) {later : Nat} (order : now ≤ later) :
    blist.Remembers expiry start later :=
  ⟨remembers.known, fun known ahead => remembers.held known (order.trans ahead),
    fun known => (remembers.bounds known).imp_right (fun late => late.trans_le (Nat.add_le_add_right order _))⟩

theorem Remembers.empty (queue : blist.queue = []) (start now : Nat) : blist.Remembers (fun _ => none) start now := by
  refine ⟨fun member => ?_, fun impossible => (nomatch impossible), fun impossible => (nomatch impossible)⟩
  rw [queue] at member
  exact nomatch member

end Blist

/-! ## Runs -/

inductive Call
  | add (addr : MacAddr) (timeout_ms : UInt32)
  | del (addr : MacAddr)
  | search (addr : MacAddr)
  | flush

/-- A list with the time, and beside it the expiry time that each address has by the calls alone:
set by its latest add, gone with its deletion or a flush. -/
structure History (sys : System) where
  time : Nat
  blist : Blist sys
  expiry : MacAddr -> Option Nat

namespace History

def opened (sys : System) (start : Nat) (ents : Nat -> BlacklistEnt sys) : History sys where
  time := start
  blist := { queue := [], ents := ents, live := [], mallocs := 0, mfrees := 0, broken := false }
  expiry := fun _ => none

def after (history : History sys) (delay : Nat) : History sys := { history with time := history.time + delay }

def call (history : History sys) : Call -> History sys
  | .add addr timeout_ms =>
      { history with
        blist := (history.blist.rtw_blacklist_add history.time addr timeout_ms).2
        expiry := Function.update history.expiry addr (some (history.time + sys.rtw_ms_to_systime timeout_ms)) }
  | .del addr =>
      { history with
        blist := (history.blist.rtw_blacklist_del history.time addr).2
        expiry := Function.update history.expiry addr none }
  | .search addr => { history with blist := (history.blist.rtw_blacklist_search history.time addr).2 }
  | .flush => { history with blist := history.blist.rtw_blacklist_flush, expiry := fun _ => none }

def step (history : History sys) (next : Nat × Call) : History sys := (history.after next.1).call next.2

/-- What a call returns is right by the calls before it. -/
def Answers (history : History sys) : Call -> Prop
  | .add addr timeout_ms => (history.blist.rtw_blacklist_add history.time addr timeout_ms).1 = .RTW_ALREADY <->
      Blist.Unexpired history.expiry history.time addr
  | .search addr => (history.blist.rtw_blacklist_search history.time addr).1 = true <->
      Blist.Unexpired history.expiry history.time addr
  | .del _ => True
  | .flush => True

/-- The times of the run and the timeouts stay within half the range. -/
def WithinHalf (start : Nat) (history : History sys) (next : Nat × Call) : Prop :=
  (history.after next.1).time < start + 2 ^ sys.half ∧
    ∀ addr timeout_ms, next.2 = .add addr timeout_ms -> sys.rtw_ms_to_systime timeout_ms < 2 ^ sys.half

/-- What is kept by a run that began at a time. -/
structure Kept (start : Nat) (history : History sys) : Prop where
  order : history.blist.InOrder
  remembers : history.blist.Remembers history.expiry start history.time
  begun : start ≤ history.time

theorem kept_opened (start : Nat) (ents : Nat -> BlacklistEnt sys) : (opened sys start ents).Kept start where
  order :=
    { queue := List.nodup_nil
      live := List.nodup_nil
      linked := fun _ => Iff.rfl
      distinct := fun member => nomatch member
      counted := rfl
      sound := rfl }
  remembers := Blist.Remembers.empty rfl start start
  begun := Nat.le_refl start

variable {history : History sys}

theorem Kept.after (kept : history.Kept start) (delay : Nat) : (history.after delay).Kept start where
  order := kept.order
  remembers := kept.remembers.later (Nat.le_add_right _ _)
  begun := Nat.le_add_right_of_le kept.begun

theorem Kept.call (kept : history.Kept start) (window : history.time < start + 2 ^ sys.half) (next : Call)
    (timeouts : ∀ addr timeout_ms, next = .add addr timeout_ms -> sys.rtw_ms_to_systime timeout_ms < 2 ^ sys.half) :
    (history.call next).Kept start ∧ history.Answers next := by
  cases next with
  | add addr timeout_ms =>
      have ⟨order, remembers, already⟩ :=
        Blist.add_outcome kept.order kept.remembers window kept.begun addr (timeouts addr timeout_ms rfl)
      exact ⟨⟨order, remembers, kept.begun⟩, already⟩
  | del addr =>
      have ⟨order, remembers⟩ := Blist.del_outcome kept.order kept.remembers window addr
      exact ⟨⟨order, remembers, kept.begun⟩, trivial⟩
  | search addr =>
      have ⟨order, remembers, found⟩ := Blist.search_outcome kept.order kept.remembers window addr
      exact ⟨⟨order, remembers, kept.begun⟩, found⟩
  | flush =>
      have ⟨order, queue⟩ := Blist.flush_outcome kept.order
      exact ⟨⟨order, Blist.Remembers.empty queue _ _, kept.begun⟩, trivial⟩

theorem Kept.step (kept : history.Kept start) {next : Nat × Call} (within : history.WithinHalf start next) :
    (history.step next).Kept start ∧ (history.after next.1).Answers next.2 :=
  (kept.after next.1).call within.1 next.2 within.2

end History

/-- A call of a run returns what is right, and leaves every address in the list once at most and
the entries allocated exactly while they are linked. -/
def Right (history : History sys) (next : Nat × Call) : Prop :=
  (history.after next.1).Answers next.2 ∧ (history.step next).blist.InOrder

theorem blacklist_sound (sys : System) (start : Nat) (ents : Nat -> BlacklistEnt sys) (calls : List (Nat × Call))
    (within : Run.Guarded History.step (History.WithinHalf start) (History.opened sys start ents) calls) :
    Run.Guarded History.step Right (History.opened sys start ents) calls := by
  refine within.of_invariant (fun history next guard kept => (History.Kept.step kept guard).1) ?_
    (History.kept_opened start ents)
  intro history next guard kept
  have ⟨after, answers⟩ := History.Kept.step kept guard
  exact ⟨answers, after.order⟩

def millisecond_ticks : System where
  half := 63
  rtw_ms_to_systime := UInt32.toNat
  rtw_malloc := fun live => live.sum + 1
  fresh := fun _ member => Nat.not_succ_le_self _ (List.single_le_sum (fun _ _ => Nat.zero_le _) _ member)

/-- An address that is added, found, and past its time, while the clock wraps round. -/
def short_stay : List (Nat × Call) := [(0, .add .zero 20), (20, .search .zero), (1, .search .zero)]

theorem short_stay_sound :
    Run.Guarded History.step Right (History.opened millisecond_ticks (2 ^ 64 - 10) (fun _ => ⟨.zero, 0⟩))
      short_stay := by
  refine blacklist_sound millisecond_ticks (2 ^ 64 - 10) (fun _ => ⟨.zero, 0⟩) short_stay ⟨?_, ?_, ?_, trivial⟩
  · refine ⟨by decide, fun addr timeout_ms same => ?_⟩
    have timeout := (Call.add.inj same).2
    rw [← timeout]
    exact (by decide : 20 < 2 ^ 63)
  · exact ⟨by decide, fun _ _ impossible => nomatch impossible⟩
  · exact ⟨by decide, fun _ _ impossible => nomatch impossible⟩

end Blacklist
end Rtl8821ce
