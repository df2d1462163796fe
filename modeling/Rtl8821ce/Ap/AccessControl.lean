import Mathlib.Data.Fintype.Card
import Rtl8821ce.Library.Run
import Rtl8821ce.Recv.Frame

/-!
# Access control by MAC address

Each period has a mode and a list of addresses.  A listed address has a node of the array, which
is valid, is linked in the queue and is counted.
-/

namespace Rtl8821ce
namespace Acl

def NUM_ACL : Nat := 16

def RTW_ACL_MODE_DISABLED : Int := 0
def RTW_ACL_MODE_ACCEPT_UNLESS_LISTED : Int := 1
def RTW_ACL_MODE_DENY_UNLESS_LISTED : Int := 2

/-- `RTW_ACL_PERIOD_DEV` and `RTW_ACL_PERIOD_BSS`; every function refuses other periods. -/
inductive AclPeriod
  | DEV
  | BSS
deriving DecidableEq

/-- `struct rtw_wlan_acl_node`. -/
structure AclNode where
  addr : MacAddr
  valid : Bool

/-- `struct wlan_acl_pool`, whose queue has the places of its nodes. -/
structure AclPool where
  mode : Int
  num : Int
  aclnode : Fin NUM_ACL -> AclNode
  acl_node_q : List (Fin NUM_ACL)

namespace AclPool

/-- The pool after `rtw_macaddr_acl_init`. -/
def rtw_macaddr_acl_init (acl : AclPool) : AclPool where
  mode := RTW_ACL_MODE_DISABLED
  num := 0
  aclnode := fun i => { acl.aclnode i with valid := false }
  acl_node_q := []

/-- A node is not valid, not linked and not counted any more. -/
def unlist (acl : AclPool) (acl_node : Fin NUM_ACL) : AclPool :=
  { acl with
    num := acl.num - 1
    aclnode := Function.update acl.aclnode acl_node { acl.aclnode acl_node with valid := false }
    acl_node_q := acl.acl_node_q.erase acl_node }

/-- The walk of `_rtw_macaddr_acl_deinit` and `rtw_acl_remove_sta`, which reads the next link
before a node is taken out. -/
def walk (takes : MacAddr -> Bool) : List (Fin NUM_ACL) -> AclPool -> AclPool
  | [], acl => acl
  | acl_node :: list, acl =>
      if takes (acl.aclnode acl_node).addr && (acl.aclnode acl_node).valid then walk takes list (acl.unlist acl_node)
      else walk takes list acl

/-- `_rtw_macaddr_acl_deinit` with `clear_only`. -/
def rtw_macaddr_acl_clear (acl : AclPool) : AclPool :=
  { walk (fun _ => true) acl.acl_node_q acl with mode := RTW_ACL_MODE_DISABLED }

def rtw_set_macaddr_acl (acl : AclPool) (mode : Int) : AclPool := { acl with mode := mode }

def existed (acl : AclPool) (addr : MacAddr) : Bool :=
  acl.acl_node_q.any (fun acl_node => decide ((acl.aclnode acl_node).addr = addr) && (acl.aclnode acl_node).valid)

def enlist (acl : AclPool) (addr : MacAddr) (i : Fin NUM_ACL) : AclPool :=
  { acl with
    num := acl.num + 1
    aclnode := Function.update acl.aclnode i ⟨addr, true⟩
    acl_node_q := acl.acl_node_q ++ [i] }

def rtw_acl_add_sta (acl : AclPool) (addr : MacAddr) : Int × AclPool :=
  if acl.existed addr then (0, acl)
  else if acl.num ≥ NUM_ACL then (-1, acl)
  else
    match (List.finRange NUM_ACL).find? (fun i => !(acl.aclnode i).valid) with
    | some i => (0, acl.enlist addr i)
    | none => (-1, acl)

def rtw_acl_remove_sta (acl : AclPool) (addr : MacAddr) : AclPool :=
  walk (fun listed => is_broadcast_mac_addr addr || decide (listed = addr)) acl.acl_node_q acl

def _rtw_access_ctrl (acl : AclPool) (mac_addr : MacAddr) : Bool :=
  if acl.mode ≠ RTW_ACL_MODE_ACCEPT_UNLESS_LISTED ∧ acl.mode ≠ RTW_ACL_MODE_DENY_UNLESS_LISTED then true
  else if acl.mode = RTW_ACL_MODE_ACCEPT_UNLESS_LISTED then !acl.existed mac_addr
  else acl.existed mac_addr

end AclPool

def rtw_access_ctrl (acl_list : AclPeriod -> AclPool) (mac_addr : MacAddr) : Bool :=
  [AclPeriod.DEV, AclPeriod.BSS].all (fun i => (acl_list i)._rtw_access_ctrl mac_addr)

namespace AclPool

/-- A node is linked exactly when it is valid, and is counted once; no address is listed twice. -/
structure InOrder (acl : AclPool) : Prop where
  linked : ∀ i, i ∈ acl.acl_node_q <-> (acl.aclnode i).valid = true
  nodup : acl.acl_node_q.Nodup
  num : acl.num = acl.acl_node_q.length
  distinct : ∀ {i j}, (acl.aclnode i).valid = true -> (acl.aclnode j).valid = true ->
    (acl.aclnode i).addr = (acl.aclnode j).addr -> i = j

def Listed (acl : AclPool) (addr : MacAddr) : Prop :=
  ∃ i, (acl.aclnode i).valid = true ∧ (acl.aclnode i).addr = addr

variable {acl : AclPool} {addr : MacAddr} {i : Fin NUM_ACL}

theorem init_inOrder (acl : AclPool) : acl.rtw_macaddr_acl_init.InOrder where
  linked := fun _ => iff_of_false (List.not_mem_nil) Bool.false_ne_true
  nodup := List.nodup_nil
  num := rfl
  distinct := fun valid => nomatch valid

theorem not_listed_init (acl : AclPool) (addr : MacAddr) : ¬ acl.rtw_macaddr_acl_init.Listed addr :=
  fun ⟨_, valid, _⟩ => nomatch valid

theorem InOrder.existed_iff (order : acl.InOrder) (addr : MacAddr) : acl.existed addr = true <-> acl.Listed addr := by
  rw [existed, List.any_eq_true]
  constructor
  · rintro ⟨i, _, found⟩
    have ⟨same, valid⟩ := (Bool.and_eq_true_iff).mp found
    exact ⟨i, valid, of_decide_eq_true same⟩
  · rintro ⟨i, valid, same⟩
    exact ⟨i, (order.linked i).mpr valid, (Bool.and_eq_true_iff).mpr ⟨decide_eq_true same, valid⟩⟩

theorem InOrder.num_le (order : acl.InOrder) : acl.num ≤ NUM_ACL := by
  have few := order.nodup.length_le_card
  rw [Fintype.card_fin] at few
  rw [order.num]
  exact Int.ofNat_le.mpr few

theorem InOrder.num_eq (order : acl.InOrder) :
    acl.num = ((List.finRange NUM_ACL).filter (fun i => (acl.aclnode i).valid)).length := by
  have same : acl.acl_node_q.Perm ((List.finRange NUM_ACL).filter (fun i => (acl.aclnode i).valid)) := by
    refine (List.perm_ext_iff_of_nodup order.nodup ((List.nodup_finRange _).filter _)).mpr (fun i => ?_)
    rw [order.linked, List.mem_filter, and_iff_right (List.mem_finRange i)]
  rw [order.num, same.length_eq]

theorem unlist_aclnode (acl : AclPool) (i j : Fin NUM_ACL) : (acl.unlist i).aclnode j =
    if j = i then { acl.aclnode i with valid := false } else acl.aclnode j := Function.update_apply _ _ _ _

theorem unlist_addr (acl : AclPool) (i j : Fin NUM_ACL) : ((acl.unlist i).aclnode j).addr = (acl.aclnode j).addr := by
  rw [unlist_aclnode]
  by_cases same : j = i
  · rw [if_pos same, same]
  · rw [if_neg same]

theorem unlist_valid (acl : AclPool) (i j : Fin NUM_ACL) :
    ((acl.unlist i).aclnode j).valid = true <-> (acl.aclnode j).valid = true ∧ j ≠ i := by
  rw [unlist_aclnode]
  by_cases same : j = i
  · rw [if_pos same]
    exact iff_of_false Bool.false_ne_true (fun both => both.2 same)
  · rw [if_neg same, and_iff_left same]

theorem InOrder.unlist (order : acl.InOrder) (valid : (acl.aclnode i).valid = true) : (acl.unlist i).InOrder := by
  have member := (order.linked i).mpr valid
  have some_linked := List.length_pos_of_mem member
  constructor
  · intro j
    rw [unlist_valid]
    exact (order.nodup.mem_erase_iff).trans (and_comm.trans (and_congr_left' (order.linked j)))
  · exact order.nodup.erase i
  · change acl.num - 1 = ((acl.acl_node_q.erase i).length : Int)
    rw [List.length_erase_of_mem member, order.num]
    omega
  · intro j k first second same
    rw [unlist_valid] at first second
    rw [unlist_addr, unlist_addr] at same
    exact order.distinct first.1 second.1 same

theorem InOrder.walk (order : acl.InOrder) (takes : MacAddr -> Bool) (list : List (Fin NUM_ACL)) :
    (walk takes list acl).InOrder ∧ (walk takes list acl).mode = acl.mode ∧
      ∀ i, ((walk takes list acl).aclnode i).addr = (acl.aclnode i).addr ∧
        (((walk takes list acl).aclnode i).valid = true <->
          (acl.aclnode i).valid = true ∧ ¬ (i ∈ list ∧ takes (acl.aclnode i).addr = true)) := by
  induction list generalizing acl with
  | nil => exact ⟨order, rfl, fun i => ⟨rfl, (and_iff_left (fun both => nomatch both.1)).symm⟩⟩
  | cons first rest ih =>
      rw [AclPool.walk]
      by_cases taken : (takes (acl.aclnode first).addr && (acl.aclnode first).valid) = true
      · have ⟨takes_first, valid_first⟩ := (Bool.and_eq_true_iff).mp taken
        have ⟨later, mode, nodes⟩ := ih (order.unlist valid_first)
        rw [if_pos taken]
        refine ⟨later, mode, fun i => ⟨(nodes i).1.trans (unlist_addr acl first i), (nodes i).2.trans ?_⟩⟩
        rw [unlist_valid, unlist_addr, and_assoc]
        refine and_congr_right (fun _ => ?_)
        by_cases same : i = first
        · refine iff_of_false (fun both => both.1 same) (fun kept => kept ⟨?_, same ▸ takes_first⟩)
          exact same ▸ List.mem_cons_self
        · rw [and_iff_right same, List.mem_cons, or_iff_right same]
      · have ⟨later, mode, nodes⟩ := ih order
        rw [if_neg taken]
        refine ⟨later, mode, fun i => ⟨(nodes i).1, (nodes i).2.trans (and_congr_right (fun valid => ?_))⟩⟩
        refine not_congr (and_congr_left (fun takes_node => ?_))
        refine (List.mem_cons.trans (or_iff_right (fun same => taken ?_))).symm
        rw [← same]
        exact (Bool.and_eq_true_iff).mpr ⟨takes_node, valid⟩

theorem InOrder.walk_queue (order : acl.InOrder) (takes : MacAddr -> Bool) :
    (AclPool.walk takes acl.acl_node_q acl).InOrder ∧ (AclPool.walk takes acl.acl_node_q acl).mode = acl.mode ∧
      ∀ addr, (AclPool.walk takes acl.acl_node_q acl).Listed addr <-> acl.Listed addr ∧ takes addr = false := by
  obtain ⟨later, mode, nodes⟩ := order.walk takes acl.acl_node_q
  refine ⟨later, mode, fun addr => ?_⟩
  constructor
  · rintro ⟨i, valid, same⟩
    obtain ⟨same_addr, valid_iff⟩ := nodes i
    obtain ⟨was_valid, kept⟩ := valid_iff.mp valid
    have same_before := same_addr.symm.trans same
    refine ⟨⟨i, was_valid, same_before⟩, Bool.eq_false_iff.mpr (fun taken => kept ⟨(order.linked i).mpr was_valid, ?_⟩)⟩
    rw [same_before]
    exact taken
  · rintro ⟨⟨i, valid, same⟩, kept⟩
    obtain ⟨same_addr, valid_iff⟩ := nodes i
    refine ⟨i, valid_iff.mpr ⟨valid, fun both => ?_⟩, same_addr.trans same⟩
    rw [same, kept] at both
    cases both.2

theorem enlist_aclnode (acl : AclPool) (addr : MacAddr) (i j : Fin NUM_ACL) :
    (acl.enlist addr i).aclnode j = if j = i then ⟨addr, true⟩ else acl.aclnode j := Function.update_apply _ _ _ _

theorem InOrder.enlist (order : acl.InOrder) (invalid : (acl.aclnode i).valid = false) (absent : ¬ acl.Listed addr) :
    (acl.enlist addr i).InOrder ∧ ∀ other, (acl.enlist addr i).Listed other <-> acl.Listed other ∨ other = addr := by
  have not_linked : i ∉ acl.acl_node_q := fun member =>
    absurd ((order.linked i).mp member) (Bool.eq_false_iff.mp invalid)
  have entry_self : (acl.enlist addr i).aclnode i = ⟨addr, true⟩ := (enlist_aclnode acl addr i i).trans (if_pos rfl)
  have entry_old : ∀ {j}, j ≠ i -> (acl.enlist addr i).aclnode j = acl.aclnode j :=
    fun {j} different => (enlist_aclnode acl addr i j).trans (if_neg different)
  have old : ∀ {j}, (acl.aclnode j).valid = true -> j ≠ i :=
    fun valid same => absurd (same ▸ valid) (Bool.eq_false_iff.mp invalid)
  refine ⟨⟨fun j => ?_, ?_, ?_, fun {j k} first second same => ?_⟩, fun other => ?_⟩
  · change j ∈ acl.acl_node_q ++ [i] <-> _
    rw [List.mem_append, List.mem_singleton]
    by_cases same : j = i
    · rw [same, entry_self]
      exact iff_of_true (Or.inr rfl) rfl
    · rw [entry_old same, or_iff_left same]
      exact order.linked j
  · exact order.nodup.append (List.nodup_singleton i)
      (fun j member single => not_linked (List.mem_singleton.mp single ▸ member))
  · change acl.num + 1 = ((acl.acl_node_q ++ [i]).length : Int)
    rw [order.num, List.length_append]
    rfl
  · by_cases first_new : j = i
    · by_cases second_new : k = i
      · exact first_new.trans second_new.symm
      · rw [entry_old second_new] at second same
        rw [first_new, entry_self] at same
        exact absurd ⟨k, second, same.symm⟩ absent
    · rw [entry_old first_new] at first same
      by_cases second_new : k = i
      · rw [second_new, entry_self] at same
        exact absurd ⟨j, first, same⟩ absent
      · rw [entry_old second_new] at second same
        exact order.distinct first second same
  · constructor
    · rintro ⟨j, valid, same⟩
      by_cases new : j = i
      · rw [new, entry_self] at same
        exact Or.inr same.symm
      · rw [entry_old new] at valid same
        exact Or.inl ⟨j, valid, same⟩
    · rintro (⟨j, valid, same⟩ | same)
      · refine ⟨j, ?_, ?_⟩
        · rw [entry_old (old valid)]
          exact valid
        · rw [entry_old (old valid)]
          exact same
      · exact ⟨i, congrArg AclNode.valid entry_self, (congrArg AclNode.addr entry_self).trans same.symm⟩

/-- The answers of an insertion: the address is listed, or the array is full of others. -/
structure Added (acl : AclPool) (addr : MacAddr) (ret : Int) (after : AclPool) : Prop where
  order : after.InOrder
  mode : after.mode = acl.mode
  listed : ∀ other, after.Listed other <-> acl.Listed other ∨ (ret = 0 ∧ other = addr)
  answer : ret = 0 <-> after.Listed addr
  full : ret = -1 -> ∀ i, (after.aclnode i).valid = true ∧ (after.aclnode i).addr ≠ addr
  ret_cases : ret = 0 ∨ ret = -1

theorem InOrder.added (order : acl.InOrder) (addr : MacAddr) :
    Added acl addr (acl.rtw_acl_add_sta addr).1 (acl.rtw_acl_add_sta addr).2 := by
  unfold rtw_acl_add_sta
  by_cases found : acl.existed addr = true
  · have listed := (order.existed_iff addr).mp found
    rw [if_pos found]
    refine ⟨order, rfl, fun other => (or_iff_left_of_imp (fun both => both.2 ▸ listed)).symm, ?_, ?_, Or.inl rfl⟩
    · exact iff_of_true rfl listed
    · exact fun impossible => absurd impossible (show (0 : Int) ≠ -1 by decide)
  · have absent : ¬ acl.Listed addr := fun listed => found ((order.existed_iff addr).mpr listed)
    have full_added : (∀ i, (acl.aclnode i).valid = true) -> Added acl addr (-1) acl := by
      intro full
      refine ⟨order, rfl, fun other => (or_iff_left (fun both => absurd both.1 (by decide))).symm, ?_, ?_, Or.inr rfl⟩
      · exact iff_of_false (by decide) absent
      · exact fun _ i => ⟨full i, fun same => absent ⟨i, full i, same⟩⟩
    rw [if_neg found]
    by_cases many : acl.num ≥ NUM_ACL
    · rw [if_pos many]
      refine full_added (fun i => (order.linked i).mp ?_)
      -- as many linked nodes as the array has: each one is linked
      have length : (List.finRange NUM_ACL).length ≤ acl.acl_node_q.length := by
        have counted := order.num
        rw [List.length_finRange]
        omega
      have all : acl.acl_node_q.Subperm (List.finRange NUM_ACL) :=
        List.subperm_of_subset order.nodup (fun i _ => List.mem_finRange i)
      exact (all.perm_of_length_le length).mem_iff.mpr (List.mem_finRange i)
    · rw [if_neg many]
      cases free : (List.finRange NUM_ACL).find? (fun i => !(acl.aclnode i).valid) with
      | none =>
          refine full_added (fun i => ?_)
          have valid := List.find?_eq_none.mp free i (List.mem_finRange i)
          rw [Bool.not_eq_true, Bool.not_eq_false'] at valid
          exact valid
      | some i =>
          have invalid : (!(acl.aclnode i).valid) = true := @List.find?_some _ (fun i => !(acl.aclnode i).valid) _ _ free
          rw [Bool.not_eq_true'] at invalid
          have ⟨enlisted, listed⟩ := order.enlist invalid absent
          refine ⟨enlisted, rfl, fun other => ?_, ?_, ?_, Or.inl rfl⟩
          · exact (listed other).trans (or_congr_right (and_iff_right rfl).symm)
          · exact iff_of_true rfl ((listed addr).mpr (Or.inr rfl))
          · exact fun impossible => absurd impossible (show (0 : Int) ≠ -1 by decide)

end AclPool

/-! ## Runs -/

/-- What the calls so far ask of one period: its mode, and the addresses that were added since
their last removal or the last clear. -/
structure Intent where
  mode : Int
  added : MacAddr -> Prop

def Intent.Admits (intent : Intent) (mac_addr : MacAddr) : Prop :=
  (intent.mode ≠ RTW_ACL_MODE_ACCEPT_UNLESS_LISTED ∧ intent.mode ≠ RTW_ACL_MODE_DENY_UNLESS_LISTED) ∨
  (intent.mode = RTW_ACL_MODE_ACCEPT_UNLESS_LISTED ∧ ¬ intent.added mac_addr) ∨
  (intent.mode = RTW_ACL_MODE_DENY_UNLESS_LISTED ∧ intent.added mac_addr)

/-- The same with no other mode than the three that have a name. -/
def Intent.AdmitsNamed (intent : Intent) (mac_addr : MacAddr) : Prop :=
  intent.mode = RTW_ACL_MODE_DISABLED ∨
  (intent.mode = RTW_ACL_MODE_ACCEPT_UNLESS_LISTED ∧ ¬ intent.added mac_addr) ∨
  (intent.mode = RTW_ACL_MODE_DENY_UNLESS_LISTED ∧ intent.added mac_addr)

inductive AclCall
  | rtw_set_macaddr_acl (mode : Int)
  | rtw_acl_add_sta (addr : MacAddr)
  | rtw_acl_remove_sta (addr : MacAddr)
  | rtw_macaddr_acl_clear

/-- The pool after a call, and what `rtw_acl_add_sta` returned. -/
def AclPool.call (acl : AclPool) : AclCall -> Option Int × AclPool
  | .rtw_set_macaddr_acl mode => (none, acl.rtw_set_macaddr_acl mode)
  | .rtw_acl_add_sta addr => (some (acl.rtw_acl_add_sta addr).1, (acl.rtw_acl_add_sta addr).2)
  | .rtw_acl_remove_sta addr => (none, acl.rtw_acl_remove_sta addr)
  | .rtw_macaddr_acl_clear => (none, acl.rtw_macaddr_acl_clear)

/-- An address is added when the call returns 0, and a broadcast address removes all. -/
def Intent.call (intent : Intent) (ret : Option Int) : AclCall -> Intent
  | .rtw_set_macaddr_acl mode => { intent with mode := mode }
  | .rtw_acl_add_sta addr => { intent with added := fun other => intent.added other ∨ (ret = some 0 ∧ other = addr) }
  | .rtw_acl_remove_sta addr =>
      { intent with added := fun other => intent.added other ∧ ¬ (is_broadcast_mac_addr addr = true ∨ other = addr) }
  | .rtw_macaddr_acl_clear => { mode := RTW_ACL_MODE_DISABLED, added := fun _ => False }

/-- The pools, what was asked of them, and the latest call with what it returned. -/
structure History where
  acl_list : AclPeriod -> AclPool
  intent : AclPeriod -> Intent
  latest : Option (AclPeriod × AclCall × Option Int)

namespace History

/-- Both periods have been initialised, whatever the memory held. -/
def start (acl_list : AclPeriod -> AclPool) : History where
  acl_list := fun period => (acl_list period).rtw_macaddr_acl_init
  intent := fun _ => { mode := RTW_ACL_MODE_DISABLED, added := fun _ => False }
  latest := none

def step (h : History) (op : AclPeriod × AclCall) : History :=
  let called := (h.acl_list op.1).call op.2
  { acl_list := Function.update h.acl_list op.1 called.2
    intent := Function.update h.intent op.1 ((h.intent op.1).call called.1 op.2)
    latest := some (op.1, op.2, called.1) }

end History

/-- What a pool promises. -/
structure PoolSound (acl : AclPool) (intent : Intent) : Prop where
  linked : ∀ i, i ∈ acl.acl_node_q <-> (acl.aclnode i).valid = true
  nodup : acl.acl_node_q.Nodup
  num : acl.num = ((List.finRange NUM_ACL).filter (fun i => (acl.aclnode i).valid)).length
  num_le : acl.num ≤ NUM_ACL
  distinct : ∀ {i j}, (acl.aclnode i).valid = true -> (acl.aclnode j).valid = true ->
    (acl.aclnode i).addr = (acl.aclnode j).addr -> i = j
  listed : ∀ addr, acl.Listed addr <-> intent.added addr

/-- The latest call, if it was an insertion, returned 0 with the address listed, or -1 with an array
full of other addresses. -/
def History.AnswerRight (h : History) : Prop :=
  ∀ period addr ret, h.latest = some (period, .rtw_acl_add_sta addr, some ret) ->
    (ret = 0 <-> (h.acl_list period).Listed addr) ∧
    (ret = -1 -> ∀ i, ((h.acl_list period).aclnode i).valid = true ∧ ((h.acl_list period).aclnode i).addr ≠ addr) ∧
    (ret = 0 ∨ ret = -1)

/-- What every state promises: the pools, the latest answer, and who is let in. -/
structure Sound (h : History) : Prop where
  pool : ∀ period, PoolSound (h.acl_list period) (h.intent period)
  answer : h.AnswerRight
  access : ∀ mac_addr, rtw_access_ctrl h.acl_list mac_addr = true <->
    ∀ period, (h.intent period).Admits mac_addr

/-- A pool in order, with the mode and the addresses that were asked for. -/
structure PoolKept (acl : AclPool) (intent : Intent) : Prop where
  order : acl.InOrder
  mode : acl.mode = intent.mode
  listed : ∀ addr, acl.Listed addr <-> intent.added addr

structure Kept (h : History) : Prop where
  pool : ∀ period, PoolKept (h.acl_list period) (h.intent period)
  answer : h.AnswerRight

namespace PoolKept

variable {acl : AclPool} {intent : Intent}

theorem sound (kept : PoolKept acl intent) : PoolSound acl intent :=
  ⟨kept.order.linked, kept.order.nodup, kept.order.num_eq, kept.order.num_le, kept.order.distinct, kept.listed⟩

theorem access_iff (kept : PoolKept acl intent) (mac_addr : MacAddr) :
    acl._rtw_access_ctrl mac_addr = true <-> intent.Admits mac_addr := by
  have existed : acl.existed mac_addr = true <-> intent.added mac_addr :=
    (kept.order.existed_iff mac_addr).trans (kept.listed mac_addr)
  unfold AclPool._rtw_access_ctrl Intent.Admits
  rw [kept.mode]
  by_cases accepts : intent.mode = RTW_ACL_MODE_ACCEPT_UNLESS_LISTED
  · have not_deny : intent.mode ≠ RTW_ACL_MODE_DENY_UNLESS_LISTED := by
      rw [accepts]
      decide
    rw [if_neg (fun both => both.1 accepts), if_pos accepts, Bool.not_eq_true', ← Bool.not_eq_true, existed]
    constructor
    · exact fun absent => Or.inr (Or.inl ⟨accepts, absent⟩)
    · rintro (⟨other, _⟩ | ⟨_, absent⟩ | ⟨deny, _⟩)
      · exact absurd accepts other
      · exact absent
      · exact absurd deny not_deny
  · by_cases denies : intent.mode = RTW_ACL_MODE_DENY_UNLESS_LISTED
    · rw [if_neg (fun both => both.2 denies), if_neg accepts, existed]
      constructor
      · exact fun listed => Or.inr (Or.inr ⟨denies, listed⟩)
      · rintro (⟨_, other⟩ | ⟨accept, _⟩ | ⟨_, listed⟩)
        · exact absurd denies other
        · exact absurd accept accepts
        · exact listed
    · rw [if_pos ⟨accepts, denies⟩]
      exact iff_of_true rfl (Or.inl ⟨accepts, denies⟩)

theorem call (kept : PoolKept acl intent) (op : AclCall) :
    PoolKept (acl.call op).2 (intent.call (acl.call op).1 op) := by
  cases op with
  | rtw_set_macaddr_acl mode =>
      exact ⟨⟨kept.order.linked, kept.order.nodup, kept.order.num, kept.order.distinct⟩, rfl, kept.listed⟩
  | rtw_acl_add_sta addr =>
      have added := kept.order.added addr
      refine ⟨added.order, added.mode.trans kept.mode, fun other => (added.listed other).trans ?_⟩
      refine or_congr (kept.listed other) (and_congr_left' ?_)
      exact (Option.some_inj).symm
  | rtw_acl_remove_sta addr =>
      have ⟨order, mode, listed⟩ := kept.order.walk_queue
        (fun listed => is_broadcast_mac_addr addr || decide (listed = addr))
      refine ⟨order, mode.trans kept.mode, fun other => (listed other).trans (and_congr (kept.listed other) ?_)⟩
      rw [← Bool.not_eq_true, Bool.or_eq_true, decide_eq_true_iff]
  | rtw_macaddr_acl_clear =>
      have ⟨order, _, listed⟩ := kept.order.walk_queue (fun _ => true)
      refine ⟨⟨order.linked, order.nodup, order.num, order.distinct⟩, rfl, fun other => ?_⟩
      exact (listed other).trans (iff_of_false (fun both => nomatch both.2) id)

end PoolKept

namespace Kept

variable {h : History}

theorem sound (kept : Kept h) : Sound h := by
  refine ⟨fun period => (kept.pool period).sound, kept.answer, fun mac_addr => ?_⟩
  rw [rtw_access_ctrl, List.all_eq_true]
  constructor
  · intro all period
    refine ((kept.pool period).access_iff mac_addr).mp (all period ?_)
    cases period with
    | DEV => exact List.mem_cons_self
    | BSS => exact List.mem_cons_of_mem _ List.mem_cons_self
  · exact fun all period _ => ((kept.pool period).access_iff mac_addr).mpr (all period)

theorem step (kept : Kept h) (op : AclPeriod × AclCall) : Kept (h.step op) := by
  constructor
  · intro period
    change PoolKept (Function.update h.acl_list op.1 _ period) (Function.update h.intent op.1 _ period)
    by_cases same : period = op.1
    · rw [same, Function.update_self, Function.update_self]
      exact (kept.pool op.1).call op.2
    · rw [Function.update_of_ne same, Function.update_of_ne same]
      exact kept.pool period
  · intro period addr ret latest
    have same := Option.some.inj latest
    have same_period : op.1 = period := congrArg Prod.fst same
    have same_call : op.2 = .rtw_acl_add_sta addr := congrArg (fun latest => latest.2.1) same
    have same_ret : ((h.acl_list op.1).call op.2).1 = some ret := congrArg (fun latest => latest.2.2) same
    rw [same_call] at same_ret
    have added := (kept.pool op.1).order.added addr
    have returned : ((h.acl_list op.1).rtw_acl_add_sta addr).1 = ret := Option.some.inj same_ret
    have after : (h.step op).acl_list period = ((h.acl_list op.1).rtw_acl_add_sta addr).2 := by
      rw [← same_period]
      change Function.update h.acl_list op.1 _ op.1 = _
      rw [Function.update_self, same_call]
      rfl
    rw [returned] at added
    rw [after]
    exact ⟨added.answer, added.full, added.ret_cases⟩

theorem start (acl_list : AclPeriod -> AclPool) : Kept (History.start acl_list) :=
  ⟨fun _ => ⟨AclPool.init_inOrder _, rfl,
    fun addr => iff_of_false (AclPool.not_listed_init _ addr) id⟩, fun _ _ _ impossible => nomatch impossible⟩

end Kept

/-- Every state of a run has its pools in order, right answers, and lets in whom it is asked to. -/
theorem access_control_sound (acl_list : AclPeriod -> AclPool) (ops : List (AclPeriod × AclCall)) :
    Sound (Run.execute History.step (History.start acl_list) ops) := by
  have kept : Kept (Run.execute History.step (History.start acl_list) ops) :=
    (Run.guarded_of_forall History.step (fun _ => True) _ ops (fun _ _ => trivial)).invariant
      (fun _ op _ kept => kept.step op) (Kept.start acl_list)
  exact kept.sound

/-- A mode without a name lets everybody in, as if it were disabled. -/
theorem unnamed_mode_admits :
    ¬ ∀ (acl_list : AclPeriod -> AclPool) ops mac_addr,
      (rtw_access_ctrl (Run.execute History.step (History.start acl_list) ops).acl_list mac_addr = true <->
        ∀ period, ((Run.execute History.step (History.start acl_list) ops).intent period).AdmitsNamed mac_addr) := by
  intro named
  let acl : AclPool := ⟨0, 0, fun _ => ⟨.zero, false⟩, []⟩
  have admitted := (named (fun _ => acl) [(.BSS, .rtw_set_macaddr_acl 3)] .zero).mp (by decide) .BSS
  have mode : ((Run.execute History.step (History.start (fun _ => acl)) [(.BSS, .rtw_set_macaddr_acl 3)]).intent
      .BSS).mode = 3 := rfl
  unfold Intent.AdmitsNamed at admitted
  rw [mode] at admitted
  rcases admitted with impossible | ⟨impossible, _⟩ | ⟨impossible, _⟩
  · exact absurd impossible (by decide)
  · exact absurd impossible (by decide)
  · exact absurd impossible (by decide)

end Acl
end Rtl8821ce
