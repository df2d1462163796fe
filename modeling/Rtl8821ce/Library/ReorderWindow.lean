import Mathlib.Data.List.Basic
import Mathlib.Data.List.Perm.Basic

/-!
# A resequencing window over unwrapped keys

Items carry a natural number as their key.  The window keeps the items that
have arrived ahead of `next`, in the order of their keys, and hands an item
out once `next` has reached it.  An arrival beyond the end of the window moves
`next` forward, and a flush moves it to the first item that is waiting.

Nothing here wraps around.  A receiver that only sees residues of the keys is
to be related to this window by its own simulation.
-/

namespace ReorderWindow

universe u

variable {Item : Type u}

/-- The next key to hand out, and the items waiting ahead of it. -/
structure Window (Item : Type u) where
  next : Nat
  pending : List (Nat × Item)

/-- Insert an item before the first larger key; refuse a key that is there. -/
def place (key : Nat) (item : Item) : List (Nat × Item) -> Option (List (Nat × Item))
  | [] => some [(key, item)]
  | entry :: rest =>
      if entry.1 < key then (place key item rest).map (entry :: ·)
      else if entry.1 = key then none
      else some ((key, item) :: entry :: rest)

/-- Hand out the leading items whose key `next` has reached; reaching a key
moves `next` past it. -/
def release : Nat -> List (Nat × Item) -> List (Nat × Item) × Window Item
  | next, [] => ([], ⟨next, []⟩)
  | next, entry :: rest =>
      if entry.1 ≤ next then
        let out := release (if entry.1 = next then next + 1 else next) rest
        (entry :: out.1, out.2)
      else ([], ⟨next, entry :: rest⟩)

/-- Where an arrival moves `next`: past itself when it is the expected one,
far enough to be the last key of the window when it lies beyond the window. -/
def advance (size next key : Nat) : Nat :=
  if key = next then next + 1
  else if next + size ≤ key then key + 1 - size
  else next

/-- An arrival: `none` when its key is behind the window or waiting already. -/
def arrive (size key : Nat) (item : Item) (window : Window Item) : Option (List (Nat × Item) × Window Item) :=
  if key < window.next then none
  else (place key item window.pending).map (release (advance size window.next key))

/-- A flush starts handing out at the first waiting item. -/
def flush (window : Window Item) : List (Nat × Item) × Window Item :=
  match window.pending with
  | [] => ([], window)
  | entry :: rest => release entry.1 (entry :: rest)

theorem place_perm {key : Nat} {item : Item} {pending placed : List (Nat × Item)}
    (success : place key item pending = some placed) : placed.Perm ((key, item) :: pending) := by
  induction pending generalizing placed with
  | nil =>
      rw [place, Option.some.injEq] at success
      rw [← success]
  | cons entry rest ih =>
      rw [place] at success
      by_cases before : entry.1 < key
      · rw [if_pos before, Option.map_eq_some_iff] at success
        rcases success with ⟨tail, found, equal⟩
        rw [← equal]
        exact ((ih found).cons entry).trans (List.Perm.swap _ _ _)
      · rw [if_neg before] at success
        by_cases same : entry.1 = key
        · rw [if_pos same] at success
          cases success
        · rw [if_neg same, Option.some.injEq] at success
          rw [← success]

theorem place_sorted {key : Nat} {item : Item} {pending placed : List (Nat × Item)}
    (sorted : pending.Pairwise (fun first second => first.1 < second.1))
    (success : place key item pending = some placed) : placed.Pairwise (fun first second => first.1 < second.1) := by
  induction pending generalizing placed with
  | nil =>
      rw [place, Option.some.injEq] at success
      rw [← success]
      exact List.pairwise_singleton _ _
  | cons entry rest ih =>
      rw [List.pairwise_cons] at sorted
      rw [place] at success
      by_cases before : entry.1 < key
      · rw [if_pos before, Option.map_eq_some_iff] at success
        rcases success with ⟨tail, found, equal⟩
        rw [← equal, List.pairwise_cons]
        refine ⟨?_, ih sorted.2 found⟩
        intro later member
        rcases List.mem_cons.mp ((place_perm found).mem_iff.mp member) with fresh | old
        · rw [fresh]
          exact before
        · exact sorted.1 later old
      · rw [if_neg before] at success
        by_cases same : entry.1 = key
        · rw [if_pos same] at success
          cases success
        · rw [if_neg same, Option.some.injEq] at success
          have ahead : key < entry.1 := by omega
          rw [← success, List.pairwise_cons, List.pairwise_cons]
          refine ⟨?_, sorted⟩
          intro later member
          rcases List.mem_cons.mp member with first | rest
          · rw [first]
            exact ahead
          · exact Nat.lt_trans ahead (sorted.1 later rest)

/-- A refused key is one that waits already. -/
theorem place_eq_none {key : Nat} {item : Item} {pending : List (Nat × Item)}
    (refused : place key item pending = none) : ∃ entry, entry ∈ pending ∧ entry.1 = key := by
  induction pending with
  | nil => cases refused
  | cons entry rest ih =>
      rw [place] at refused
      by_cases before : entry.1 < key
      · rw [if_pos before, Option.map_eq_none_iff] at refused
        rcases ih refused with ⟨found, member, same⟩
        exact ⟨found, List.mem_cons_of_mem _ member, same⟩
      · rw [if_neg before] at refused
        by_cases same : entry.1 = key
        · exact ⟨entry, List.mem_cons_self, same⟩
        · rw [if_neg same] at refused
          cases refused

theorem release_append (next : Nat) (pending : List (Nat × Item)) :
    (release next pending).1 ++ (release next pending).2.pending = pending := by
  induction pending generalizing next with
  | nil => rfl
  | cons entry rest ih =>
      rw [release]
      by_cases reached : entry.1 ≤ next
      · rw [if_pos reached]
        exact congrArg (entry :: ·) (ih _)
      · rw [if_neg reached]
        rfl

theorem le_release_next (next : Nat) (pending : List (Nat × Item)) : next ≤ (release next pending).2.next := by
  induction pending generalizing next with
  | nil => exact Nat.le_refl _
  | cons entry rest ih =>
      rw [release]
      by_cases reached : entry.1 ≤ next
      · rw [if_pos reached]
        refine Nat.le_trans ?_ (ih _)
        by_cases same : entry.1 = next
        · rw [if_pos same]
          exact Nat.le_succ next
        · exact Nat.le_of_eq (if_neg same).symm
      · exact Nat.le_of_eq (by rw [if_neg reached])

/-- `next` stops at the bound that it and all keys respect. -/
theorem release_next_le {bound next : Nat} {pending : List (Nat × Item)}
    (start : next ≤ bound) (below : ∀ entry ∈ pending, entry.1 < bound) : (release next pending).2.next ≤ bound := by
  induction pending generalizing next with
  | nil => exact start
  | cons entry rest ih =>
      have later : ∀ other ∈ rest, other.1 < bound :=
        fun other member => below other (List.mem_cons_of_mem _ member)
      rw [release]
      by_cases reached : entry.1 ≤ next
      · rw [if_pos reached]
        refine ih ?_ later
        have inside : entry.1 < bound := below entry List.mem_cons_self
        by_cases same : entry.1 = next
        · rw [if_pos same]
          omega
        · rw [if_neg same]
          exact start
      · rw [if_neg reached]
        exact start

/-- Everything handed out lies behind the new `next`. -/
theorem release_delivered_lt (next : Nat) (pending : List (Nat × Item)) :
    ∀ entry ∈ (release next pending).1, entry.1 < (release next pending).2.next := by
  induction pending generalizing next with
  | nil =>
      intro entry member
      cases member
  | cons head rest ih =>
      intro entry member
      rw [release] at member ⊢
      by_cases reached : head.1 ≤ next
      · rw [if_pos reached] at member ⊢
        rcases List.mem_cons.mp member with first | later
        · rw [first]
          refine Nat.lt_of_lt_of_le ?_ (le_release_next _ rest)
          by_cases same : head.1 = next
          · rw [if_pos same]
            omega
          · rw [if_neg same]
            omega
        · exact ih _ entry later
      · rw [if_neg reached] at member
        cases member

/-- Everything that stays lies ahead of the new `next`. -/
theorem release_pending_gt {next : Nat} {pending : List (Nat × Item)}
    (sorted : pending.Pairwise (fun first second => first.1 < second.1)) :
    ∀ entry ∈ (release next pending).2.pending,
      (release next pending).2.next < entry.1 := by
  induction pending generalizing next with
  | nil =>
      intro entry member
      cases member
  | cons head rest ih =>
      rw [List.pairwise_cons] at sorted
      intro entry member
      rw [release] at member ⊢
      by_cases reached : head.1 ≤ next
      · rw [if_pos reached] at member ⊢
        exact ih sorted.2 entry member
      · rw [if_neg reached] at member ⊢
        have ahead : next < head.1 := Nat.lt_of_not_le reached
        rcases List.mem_cons.mp member with first | later
        · rw [first]
          exact ahead
        · exact Nat.lt_trans ahead (sorted.1 entry later)

/-- A window together with everything it accepted and everything it handed
out, oldest first. -/
structure Log (Item : Type u) where
  window : Window Item
  accepted : List (Nat × Item)
  delivered : List (Nat × Item)

/-- What a resequencing window of `size` keys maintains. -/
structure InOrder (size : Nat) (log : Log Item) : Prop where
  sorted : log.window.pending.Pairwise (fun first second => first.1 < second.1)
  ahead : ∀ entry ∈ log.window.pending, log.window.next < entry.1
  inside : ∀ entry ∈ log.window.pending, entry.1 < log.window.next + size
  behind : ∀ entry ∈ log.delivered, entry.1 < log.window.next
  increasing : log.delivered.Pairwise (fun first second => first.1 < second.1)
  conserved : log.accepted.Perm (log.delivered ++ log.window.pending)

/-- The start: nothing has arrived. -/
theorem InOrder.empty (size next : Nat) : InOrder size (⟨⟨next, []⟩, [], []⟩ : Log Item) where
  sorted := List.Pairwise.nil
  ahead := fun _ member => nomatch member
  inside := fun _ member => nomatch member
  behind := fun _ member => nomatch member
  increasing := List.Pairwise.nil
  conserved := List.Perm.refl _

/-- Handing out from `next` onwards keeps the order, provided that `next` is
at or behind the first new key and does not fall back. -/
theorem InOrder.release_of {size next : Nat} {log : Log Item}
    {queue accepted : List (Nat × Item)} (order : InOrder size log)
    (sorted : queue.Pairwise (fun first second => first.1 < second.1)) (forward : log.window.next ≤ next)
    (fresh : ∀ entry ∈ queue, log.window.next ≤ entry.1) (inside : ∀ entry ∈ queue, entry.1 < next + size)
    (conserved : accepted.Perm (log.delivered ++ queue)) :
    InOrder size ⟨(release next queue).2, accepted, log.delivered ++ (release next queue).1⟩ := by
  have parts := release_append next queue
  have onward := le_release_next next queue
  have members : ∀ entry, entry ∈ queue <->
      entry ∈ (release next queue).1 ∨ entry ∈ (release next queue).2.pending := by
    intro entry
    rw [← List.mem_append, parts]
  have split := parts.symm ▸ sorted
  rw [List.pairwise_append] at split
  constructor
  · exact split.2.1
  · exact release_pending_gt sorted
  · intro entry member
    have bounded := inside entry ((members entry).mpr (Or.inr member))
    change entry.1 < (release next queue).2.next + size
    omega
  · intro entry member
    rcases List.mem_append.mp member with earlier | now
    · have old := order.behind entry earlier
      change entry.1 < (release next queue).2.next
      omega
    · exact release_delivered_lt next queue entry now
  · rw [List.pairwise_append]
    refine ⟨order.increasing, split.1, ?_⟩
    intro earlier old later now
    exact Nat.lt_of_lt_of_le (order.behind earlier old)
      (fresh later ((members later).mpr (Or.inl now)))
  · rw [List.append_assoc, parts]
    exact conserved

/-- The step lemma for an arrival that is accepted. -/
theorem InOrder.arrive {size key : Nat} {item : Item} {log : Log Item}
    {delivered : List (Nat × Item)} {window : Window Item} (order : InOrder size log) (positive : 0 < size)
    (success : arrive size key item log.window = some (delivered, window)) :
    InOrder size ⟨window, log.accepted ++ [(key, item)], log.delivered ++ delivered⟩ := by
  unfold ReorderWindow.arrive at success
  by_cases old : key < log.window.next
  · rw [if_pos old] at success
    cases success
  · rw [if_neg old, Option.map_eq_some_iff] at success
    rcases success with ⟨placed, found, released⟩
    have permuted := place_perm found
    have first : delivered = (release (advance size log.window.next key) placed).1 :=
      (congrArg Prod.fst released).symm
    have second : window = (release (advance size log.window.next key) placed).2 :=
      (congrArg Prod.snd released).symm
    have forward : log.window.next ≤ advance size log.window.next key := by
      unfold advance
      split_ifs <;> omega
    rw [first, second]
    refine order.release_of (place_sorted order.sorted found) forward ?_ ?_ ?_
    · intro entry member
      rcases List.mem_cons.mp (permuted.mem_iff.mp member) with fresh | waiting
      · rw [fresh]
        exact Nat.le_of_not_lt old
      · exact Nat.le_of_lt (order.ahead entry waiting)
    · intro entry member
      rcases List.mem_cons.mp (permuted.mem_iff.mp member) with fresh | waiting
      · rw [fresh]
        change key < advance size log.window.next key + size
        unfold advance
        split_ifs <;> omega
      · have bounded := order.inside entry waiting
        omega
    · refine (order.conserved.append_right _).trans ?_
      rw [List.append_assoc]
      refine List.Perm.append_left _ ?_
      exact (List.perm_append_singleton _ _).trans permuted.symm

/-- The step lemma for a flush. -/
theorem InOrder.flush {size : Nat} {log : Log Item} (order : InOrder size log) :
    InOrder size ⟨(flush log.window).2, log.accepted, log.delivered ++ (flush log.window).1⟩ := by
  unfold ReorderWindow.flush
  cases waiting : log.window.pending with
  | nil =>
      change InOrder size ⟨log.window, log.accepted, log.delivered ++ []⟩
      rw [List.append_nil]
      exact order
  | cons entry rest =>
      have member : ∀ other ∈ entry :: rest, other ∈ log.window.pending := by
        intro other found
        rw [waiting]
        exact found
      have first := order.ahead entry (member entry List.mem_cons_self)
      refine order.release_of (waiting ▸ order.sorted) (Nat.le_of_lt first) ?_ ?_
        (waiting ▸ order.conserved)
      · intro other found
        exact Nat.le_of_lt (order.ahead other (member other found))
      · intro other found
        have bounded := order.inside other (member other found)
        omega

/-- Between two operations the waiting keys are fewer than the window has places. -/
theorem InOrder.length_lt {size : Nat} {log : Log Item} (order : InOrder size log)
    (positive : 0 < size) : log.window.pending.length < size := by
  have bounded : ∀ (entries : List (Nat × Item)) (low : Nat),
      entries.Pairwise (fun first second => first.1 < second.1) ->
      (∀ entry ∈ entries, low < entry.1) ->
      (∀ entry ∈ entries, entry.1 < log.window.next + size) ->
      low < log.window.next + size -> entries.length + low < log.window.next + size := by
    intro entries
    induction entries with
    | nil =>
        intro low _ _ _ below
        rw [List.length_nil, Nat.zero_add]
        exact below
    | cons entry rest ih =>
        intro low sorted above below _
        rw [List.pairwise_cons] at sorted
        have step := ih entry.1 sorted.2 sorted.1
          (fun other member => below other (List.mem_cons_of_mem _ member))
          (below entry List.mem_cons_self)
        have head := above entry List.mem_cons_self
        rw [List.length_cons]
        omega
  have total := bounded log.window.pending log.window.next order.sorted order.ahead order.inside
    (Nat.lt_add_of_pos_right positive)
  omega

end ReorderWindow
