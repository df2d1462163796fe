import Mathlib.Data.List.Nodup
import Mathlib.Logic.Function.Basic
import Mathlib.Tactic.Common

/-!
# Hash lists with pointers to the pointers

The nodes of a bucket are linked by pointers.  A node also knows the slot that points to it,
which is the head of the bucket or the link of another node, so that it can be taken out
without a search.  A node is put in at the head, and taken out anywhere.
-/

namespace HashLinks

open Function (update_apply update_of_ne update_self)

/-- Where a pointer to a node is kept. -/
inductive Slot
  | head (bucket : Nat)
  | next (node : Nat)
deriving DecidableEq

/-- The pointers in the slots, and the slots that the nodes know. -/
structure Links where
  word : Slot -> Option Nat
  back : Nat -> Option Slot

namespace Links

def setWord (links : Links) (slot : Slot) (target : Option Nat) : Links :=
  { links with word := Function.update links.word slot target }

def setBack (links : Links) (node : Nat) (slot : Option Slot) : Links :=
  { links with back := Function.update links.back node slot }

/-- The node that a pointer names, if it is not null, knows its slot from now on. -/
def setBackOf (links : Links) (target : Option Nat) (slot : Option Slot) : Links :=
  match target with
  | some node => links.setBack node slot
  | none => links

/-- Put a node in at the head of a bucket. -/
def link (links : Links) (bucket node : Nat) : Links :=
  let links := links.setWord (.next node) (links.word (.head bucket))
  let links := links.setBackOf (links.word (.next node)) (some (.next node))
  let links := links.setWord (.head bucket) (some node)
  links.setBack node (some (.head bucket))

/-- What the slot that the node knows points to. -/
def setWordOf (links : Links) (slot : Option Slot) (target : Option Nat) : Links :=
  match slot with
  | some slot => links.setWord slot target
  | none => links

/-- Take a node out. -/
def unlink (links : Links) (node : Nat) : Links :=
  let links := links.setWordOf (links.back node) (links.word (.next node))
  let links := links.setBackOf (links.word (.next node)) (links.back node)
  let links := links.setWord (.next node) none
  links.setBack node none

end Links

/-- From a slot on, these nodes are linked, and each knows the slot that points to it. -/
def Chain (links : Links) : Slot -> List Nat -> Prop
  | slot, [] => links.word slot = none
  | slot, node :: rest => links.word slot = some node ∧ links.back node = some slot ∧ Chain links (.next node) rest

/-- A list in every bucket, and no node in two places. -/
structure Linked (links : Links) (lists : Nat -> List Nat) : Prop where
  chain : ∀ bucket, Chain links (.head bucket) (lists bucket)
  nodup : ∀ bucket, (lists bucket).Nodup
  apart : ∀ {first second node : Nat}, node ∈ lists first -> node ∈ lists second -> first = second

variable {links changed : Links} {slot : Slot} {nodes before behind : List Nat} {node bucket : Nat}
  {lists : Nat -> List Nat}

theorem Chain.word_eq (chain : Chain links slot nodes) : links.word slot = nodes.head? := by
  cases nodes with
  | nil => exact chain
  | cons first rest => exact chain.1

/-- A chain depends on its own slots only. -/
theorem Chain.congr (chain : Chain links slot nodes) (first : changed.word slot = links.word slot)
    (next : ∀ node ∈ nodes, changed.word (.next node) = links.word (.next node))
    (back : ∀ node ∈ nodes, changed.back node = links.back node) : Chain changed slot nodes := by
  induction nodes generalizing slot with
  | nil => exact first.trans chain
  | cons head rest ih =>
      refine ⟨first.trans chain.1, (back head List.mem_cons_self).trans chain.2.1, ?_⟩
      exact ih chain.2.2 (next head List.mem_cons_self)
        (fun other member => next other (List.mem_cons_of_mem _ member))
        (fun other member => back other (List.mem_cons_of_mem _ member))

/-- The node that a slot points to is moved to another slot, with all behind it. -/
theorem Chain.move {other : Slot} (chain : Chain links slot nodes) (distinct : nodes.Nodup)
    (first : changed.word other = links.word slot)
    (next : ∀ node ∈ nodes, changed.word (.next node) = links.word (.next node))
    (moved : ∀ node, links.word slot = some node -> changed.back node = some other)
    (back : ∀ node ∈ nodes, links.word slot ≠ some node -> changed.back node = links.back node) :
    Chain changed other nodes := by
  cases nodes with
  | nil => exact first.trans chain
  | cons head rest =>
      refine ⟨first.trans chain.1, moved head chain.1, chain.2.2.congr (next head List.mem_cons_self) ?_ ?_⟩
      · exact fun other member => next other (List.mem_cons_of_mem _ member)
      · intro other member
        refine back other (List.mem_cons_of_mem _ member) (fun same => ?_)
        rw [chain.1, Option.some.injEq] at same
        exact (List.nodup_cons.mp distinct).1 (same ▸ member)

theorem Chain.next_eq (chain : Chain links slot (before ++ node :: behind)) :
    links.word (.next node) = behind.head? := by
  induction before generalizing slot with
  | nil => exact chain.2.2.word_eq
  | cons head rest ih => exact ih chain.2.2

/-- The slot that points to a node is the first one, or belongs to a node before it. -/
theorem Chain.back_cases (chain : Chain links slot (before ++ node :: behind)) :
    (before = [] ∧ links.back node = some slot) ∨
      ∃ other, other ∈ before ∧ links.back node = some (.next other) := by
  induction before generalizing slot with
  | nil => exact Or.inl ⟨rfl, chain.2.1⟩
  | cons head rest ih =>
      rcases ih chain.2.2 with ⟨rfl, known⟩ | ⟨other, member, known⟩
      · exact Or.inr ⟨head, List.mem_cons_self, known⟩
      · exact Or.inr ⟨other, List.mem_cons_of_mem _ member, known⟩

section unlink

theorem unlink_word {known : Slot} (back : links.back node = some known) (self : known ≠ .next node) (other : Slot) :
    (links.unlink node).word other =
      if other = .next node then none else if other = known then links.word (.next node) else links.word other := by
  unfold Links.unlink
  rw [back]
  dsimp only [Links.setWordOf]
  have kept : (links.setWord known (links.word (.next node))).word (.next node) = links.word (.next node) :=
    update_of_ne self.symm _ _
  rw [kept]
  have words : ∀ target slot, ((links.setWord known (links.word (.next node))).setBackOf target slot).word =
      Function.update links.word known (links.word (.next node)) := by
    intro target slot
    cases target <;> rfl
  change Function.update ((links.setWord known (links.word (.next node))).setBackOf _ _).word (.next node) none other = _
  rw [words, update_apply, update_apply]

theorem unlink_back {known : Slot} (back : links.back node = some known) (self : known ≠ .next node) (other : Nat) :
    (links.unlink node).back other =
      if other = node then none else if links.word (.next node) = some other then some known else links.back other := by
  unfold Links.unlink
  rw [back]
  dsimp only [Links.setWordOf]
  have kept : (links.setWord known (links.word (.next node))).word (.next node) = links.word (.next node) :=
    update_of_ne self.symm _ _
  rw [kept]
  have same_back : (links.setWord known (links.word (.next node))).back node = some known := back
  rw [same_back]
  change Function.update ((links.setWord known (links.word (.next node))).setBackOf _ _).back node none other = _
  rw [update_apply]
  cases links.word (.next node) with
  | none => rfl
  | some next =>
      refine ite_congr rfl (fun _ => rfl) (fun _ => ?_)
      change Function.update links.back next (some known) other = _
      rw [update_apply]
      refine ite_congr (propext ⟨fun same => congrArg some same.symm, fun same => (Option.some.inj same).symm⟩)
        (fun _ => rfl) (fun _ => rfl)

/-- A chain without one of its nodes. -/
theorem Chain.unlink (chain : Chain links slot (before ++ node :: behind)) (distinct : (before ++ node :: behind).Nodup)
    (outside : ∀ other ∈ before ++ node :: behind, slot ≠ .next other) :
    Chain (links.unlink node) slot (before ++ behind) := by
  induction before generalizing slot with
  | nil =>
      have back : links.back node = some slot := chain.2.1
      have self : slot ≠ .next node := outside node List.mem_cons_self
      have ⟨not_behind, distinct_behind⟩ := List.nodup_cons.mp distinct
      refine Chain.move chain.2.2 distinct_behind ?_ ?_ ?_ ?_
      · rw [unlink_word back self, if_neg self, if_pos rfl]
      · intro other member
        have not_node : Slot.next other ≠ .next node := fun same => not_behind (Slot.next.inj same ▸ member)
        have not_slot : Slot.next other ≠ slot := (outside other (List.mem_cons_of_mem _ member)).symm
        rw [unlink_word back self, if_neg not_node, if_neg not_slot]
      · intro other points
        have member : other ∈ behind := List.mem_of_mem_head? (chain.2.2.word_eq ▸ points)
        have not_node : other ≠ node := fun same => not_behind (same ▸ member)
        rw [unlink_back back self, if_neg not_node, if_pos points]
      · intro other member points_not
        have not_node : other ≠ node := fun same => not_behind (same ▸ member)
        rw [unlink_back back self, if_neg not_node, if_neg points_not]
  | cons head rest ih =>
      have ⟨not_rest, distinct_rest⟩ := List.nodup_cons.mp distinct
      have later := ih chain.2.2 distinct_rest
        (fun other member same => not_rest (Slot.next.inj same ▸ member))
      have not_node : head ≠ node := fun same => not_rest (same ▸ List.mem_append_right _ List.mem_cons_self)
      have from_before : ∃ other, other ∈ head :: rest ∧ links.back node = some (.next other) := by
        rcases @Chain.back_cases links slot (head :: rest) behind node chain with ⟨none, _⟩ | known
        · exact absurd none (List.cons_ne_nil _ _)
        · exact known
      have ⟨known, member, back⟩ := from_before
      have self : Slot.next known ≠ .next node := by
        intro same
        rw [Slot.next.inj same] at member
        exact (List.nodup_append.mp distinct).2.2 node member node List.mem_cons_self rfl
      have first : slot ≠ .next known := outside known (List.mem_append_left _ member)
      have first_node : slot ≠ .next node := outside node (List.mem_append_right _ List.mem_cons_self)
      have behind_not : links.word (.next node) ≠ some head := by
        intro points
        have tail := Chain.next_eq chain.2.2
        rw [points] at tail
        exact not_rest (List.mem_append_right _ (List.mem_cons_of_mem _ (List.mem_of_mem_head? tail.symm)))
      refine ⟨?_, ?_, later⟩
      · rw [unlink_word back self, if_neg first_node, if_neg first]
        exact chain.1
      · rw [unlink_back back self, if_neg not_node, if_neg behind_not]
        exact chain.2.1

/-- A node is taken out of its bucket, and the other buckets are as before. -/
theorem Linked.unlink (linked : Linked links lists) (split : lists bucket = before ++ node :: behind) :
    Linked (links.unlink node) (Function.update lists bucket (before ++ behind)) := by
  have chain := linked.chain bucket
  have distinct := linked.nodup bucket
  rw [split] at chain distinct
  have member : node ∈ lists bucket := split ▸ List.mem_append_right _ List.mem_cons_self
  have known : ∃ slot, links.back node = some slot ∧ slot ≠ .next node ∧
      (slot = .head bucket ∨ ∃ other, other ∈ lists bucket ∧ slot = .next other) := by
    rcases chain.back_cases with ⟨_, back⟩ | ⟨other, inside, back⟩
    · exact ⟨_, back, fun same => (nomatch same), Or.inl rfl⟩
    · refine ⟨_, back, ?_, Or.inr ⟨other, split ▸ List.mem_append_left _ inside, rfl⟩⟩
      intro same
      rw [Slot.next.inj same] at inside
      exact (List.nodup_append.mp distinct).2.2 node inside node List.mem_cons_self rfl
  have ⟨slot, back, self, place⟩ := known
  have sublist : List.Sublist (before ++ behind) (lists bucket) := by
    rw [split]
    exact List.Sublist.append_left (List.sublist_cons_self node behind) before
  constructor
  · intro other
    by_cases same : other = bucket
    · rw [same, update_self]
      exact chain.unlink distinct (fun _ _ => fun impossible => nomatch impossible)
    · rw [update_of_ne same]
      have elsewhere : ∀ {first second : Nat}, first ∈ lists other -> second ∈ lists bucket -> first ≠ second :=
        fun inside here equal => same (linked.apart inside (equal ▸ here))
      refine (linked.chain other).congr ?_ ?_ ?_
      · have not_slot : Slot.head other ≠ slot := by
          rcases place with rfl | ⟨_, _, rfl⟩
          · exact fun equal => same (Slot.head.inj equal)
          · exact fun impossible => nomatch impossible
        rw [unlink_word back self, if_neg (fun impossible => nomatch impossible), if_neg not_slot]
      · intro first inside
        have not_node : Slot.next first ≠ .next node := fun equal => elsewhere inside member (Slot.next.inj equal)
        have not_slot : Slot.next first ≠ slot := by
          rcases place with rfl | ⟨second, here, rfl⟩
          · exact fun impossible => nomatch impossible
          · exact fun equal => elsewhere inside here (Slot.next.inj equal)
        rw [unlink_word back self, if_neg not_node, if_neg not_slot]
      · intro first inside
        have not_next : links.word (.next node) ≠ some first := by
          intro points
          rw [chain.next_eq] at points
          have here : first ∈ lists bucket := by
            rw [split]
            exact List.mem_append_right _ (List.mem_cons_of_mem _ (List.mem_of_mem_head? points))
          exact elsewhere inside here rfl
        rw [unlink_back back self, if_neg (elsewhere inside member), if_neg not_next]
  · intro other
    by_cases same : other = bucket
    · rw [same, update_self]
      exact (linked.nodup bucket).sublist sublist
    · rw [update_of_ne same]
      exact linked.nodup other
  · have inside : ∀ {place first : Nat}, first ∈ Function.update lists bucket (before ++ behind) place ->
        first ∈ lists place := by
      intro place first found
      by_cases same : place = bucket
      · rw [same, update_self] at found
        rw [same]
        exact sublist.subset found
      · rw [update_of_ne same] at found
        exact found
    intro first second other here there
    exact linked.apart (inside here) (inside there)

end unlink

section link

theorem link_word (links : Links) (bucket node : Nat) (other : Slot) : (links.link bucket node).word other =
    if other = .head bucket then some node
    else if other = .next node then links.word (.head bucket) else links.word other := by
  have words : ∀ (links : Links) target slot, (links.setBackOf target slot).word = links.word := by
    intro links target slot
    cases target <;> rfl
  unfold Links.link
  change Function.update (Links.setBackOf _ _ _).word (.head bucket) (some node) other = _
  rw [words, update_apply]
  change (if _ then _ else Function.update links.word (.next node) (links.word (.head bucket)) other) = _
  rw [update_apply]

theorem link_back (links : Links) (bucket node other : Nat) : (links.link bucket node).back other =
    if other = node then some (.head bucket)
    else if links.word (.head bucket) = some other then some (.next node) else links.back other := by
  have kept : (links.setWord (.next node) (links.word (.head bucket))).word (.next node) = links.word (.head bucket) :=
    update_self _ _ _
  unfold Links.link
  dsimp only
  rw [kept]
  change Function.update (Links.setBackOf _ _ _).back node (some (.head bucket)) other = _
  rw [update_apply]
  cases links.word (.head bucket) with
  | none => rfl
  | some next =>
      refine ite_congr rfl (fun _ => rfl) (fun _ => ?_)
      change Function.update links.back next (some (.next node)) other = _
      rw [update_apply]
      refine ite_congr (propext ⟨fun same => congrArg some same.symm, fun same => (Option.some.inj same).symm⟩)
        (fun _ => rfl) (fun _ => rfl)

/-- A node that is in no list is put in at the head. -/
theorem Linked.link (linked : Linked links lists) (bucket : Nat) (fresh : ∀ other, node ∉ lists other) :
    Linked (links.link bucket node) (Function.update lists bucket (node :: lists bucket)) := by
  have not_node : ∀ {place other : Nat}, other ∈ lists place -> other ≠ node :=
    fun inside same => fresh _ (same ▸ inside)
  have next_kept : ∀ {place other : Nat}, other ∈ lists place ->
      (links.link bucket node).word (.next other) = links.word (.next other) := by
    intro place other inside
    rw [link_word, if_neg (fun impossible => nomatch impossible),
      if_neg (fun same => not_node inside (Slot.next.inj same))]
  constructor
  · intro other
    by_cases same : other = bucket
    · rw [same, update_self]
      refine ⟨?_, ?_, ?_⟩
      · rw [link_word, if_pos rfl]
      · rw [link_back, if_pos rfl]
      · refine (linked.chain bucket).move (linked.nodup bucket) ?_ (fun _ => next_kept) ?_ ?_
        · rw [link_word, if_neg (fun impossible => nomatch impossible), if_pos rfl]
        · intro first points
          have member : first ∈ lists bucket := List.mem_of_mem_head? ((linked.chain bucket).word_eq ▸ points)
          rw [link_back, if_neg (not_node member), if_pos points]
        · intro first member points_not
          rw [link_back, if_neg (not_node member), if_neg points_not]
    · rw [update_of_ne same]
      refine (linked.chain other).congr ?_ (fun _ => next_kept) ?_
      · rw [link_word, if_neg (fun equal => same (Slot.head.inj equal)), if_neg (fun impossible => nomatch impossible)]
      · intro first inside
        have points_not : links.word (.head bucket) ≠ some first := by
          intro points
          rw [(linked.chain bucket).word_eq] at points
          exact same (linked.apart inside (List.mem_of_mem_head? points))
        rw [link_back, if_neg (not_node inside), if_neg points_not]
  · intro other
    by_cases same : other = bucket
    · rw [same, update_self]
      exact List.nodup_cons.mpr ⟨fresh bucket, linked.nodup bucket⟩
    · rw [update_of_ne same]
      exact linked.nodup other
  · have cases_of : ∀ {place first : Nat}, first ∈ Function.update lists bucket (node :: lists bucket) place ->
        (first = node ∧ place = bucket) ∨ first ∈ lists place := by
      intro place first found
      by_cases same : place = bucket
      · rw [same, update_self] at found
        rcases List.mem_cons.mp found with equal | inside
        · exact Or.inl ⟨equal, same⟩
        · exact Or.inr (same ▸ inside)
      · rw [update_of_ne same] at found
        exact Or.inr found
    intro first second other here there
    rcases cases_of here with ⟨rfl, rfl⟩ | inside
    · rcases cases_of there with ⟨_, rfl⟩ | inside
      · rfl
      · exact absurd inside (fresh _)
    · rcases cases_of there with ⟨rfl, _⟩ | also
      · exact absurd inside (fresh _)
      · exact linked.apart inside also

end link

/-- The first node with a property.  No answer stands for a node that is not allocated, or for
a chain that is longer than the fuel. -/
def Links.find (links : Links) (allocated wanted : Nat -> Bool) : Nat -> Option Nat -> Option (Option Nat)
  | _, none => some none
  | 0, some _ => none
  | fuel + 1, some node =>
      if allocated node then
        if wanted node then some (some node) else links.find allocated wanted fuel (links.word (.next node))
      else none

theorem Chain.find {allocated wanted : Nat -> Bool} (chain : Chain links slot nodes)
    (inside : ∀ node ∈ nodes, allocated node = true) {fuel : Nat} (enough : nodes.length ≤ fuel) :
    links.find allocated wanted fuel (links.word slot) = some (nodes.find? wanted) := by
  induction nodes generalizing slot fuel with
  | nil =>
      rw [chain.word_eq]
      cases fuel <;> rfl
  | cons head rest ih =>
      cases fuel with
      | zero => exact absurd enough (Nat.not_succ_le_zero _)
      | succ fuel =>
          have later := ih chain.2.2
            (fun node member => inside node (List.mem_cons_of_mem _ member)) (Nat.le_of_succ_le_succ enough)
          rw [chain.1, Links.find, if_pos (inside head List.mem_cons_self), List.find?_cons]
          cases wanted head with
          | true => rfl
          | false => exact later

section walk

universe u

variable {State : Type u}

/-- Visit the nodes of a chain.  The next node is read before the visit, which may take the
node out. -/
def walk (links : State -> Links) (allocated : State -> Nat -> Bool) (visit : Nat -> State -> State) :
    Nat -> Option Nat -> State -> Option State
  | _, none, state => some state
  | 0, some _, _ => none
  | fuel + 1, some node, state =>
      if allocated state node then
        walk links allocated visit fuel ((links state).word (.next node)) (visit node state)
      else none

/-- The walk ends when every visit leaves the nodes behind its own where they were.
`Invariant` also knows the nodes that were visited and are still there. -/
theorem walk_ends {links : State -> Links} {allocated : State -> Nat -> Bool} {visit : Nat -> State -> State}
    {Invariant : List Nat -> List Nat -> State -> Prop} {slot : Slot}
    (chain : ∀ {before behind state}, Invariant before behind state -> Chain (links state) slot (before ++ behind))
    (inside : ∀ {before node behind state}, Invariant before (node :: behind) state -> allocated state node = true)
    (step : ∀ {before node behind state}, Invariant before (node :: behind) state ->
      ∃ kept, Invariant kept behind (visit node state))
    {before behind : List Nat} {state : State} (initial : Invariant before behind state) {fuel : Nat}
    (enough : behind.length ≤ fuel) :
    ∃ final, walk links allocated visit fuel behind.head? state = some final ∧
      ∃ kept, Invariant kept [] final := by
  induction behind generalizing before state fuel with
  | nil => exact ⟨state, by cases fuel <;> rfl, before, initial⟩
  | cons node rest ih =>
      cases fuel with
      | zero => exact absurd enough (Nat.not_succ_le_zero _)
      | succ fuel =>
          have ⟨kept, next⟩ := step initial
          have ⟨final, ends, last⟩ := ih next (Nat.le_of_succ_le_succ enough)
          refine ⟨final, ?_, last⟩
          rw [List.head?_cons, walk, if_pos (inside initial), (chain initial).next_eq]
          exact ends

end walk

end HashLinks
