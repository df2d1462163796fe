import Mathlib.Data.List.Nodup

/-!
# Searches that resume at the last hit

Keys are looked up in a list one after the other, and each search starts at the place of the
last key that was found.  A key before that place is missed.  All keys of the list are found
exactly when their places never go down.
-/

namespace ResumedSearch

universe u

variable {Key : Type u} [DecidableEq Key]

/-- The keys that are found, from a place on. -/
def pick (table : List Key) : List Key -> Nat -> List Key
  | [], _ => []
  | key :: rest, from_place =>
      match (table.drop from_place).findIdx? (· == key) with
      | some i => key :: pick table rest (from_place + i)
      | none => pick table rest from_place

/-- The places of the keys of the table never go down. -/
def Ascending (table keys : List Key) : Prop :=
  (keys.filter (· ∈ table)).Pairwise (fun first second => table.idxOf first ≤ table.idxOf second)

instance (table keys : List Key) : Decidable (Ascending table keys) :=
  inferInstanceAs (Decidable (List.Pairwise _ _))

variable {table : List Key} {key : Key} {from_place : Nat}

theorem find_from (distinct : table.Nodup) (key : Key) (from_place : Nat) :
    (table.drop from_place).findIdx? (· == key) =
      if key ∈ table ∧ from_place ≤ table.idxOf key then some (table.idxOf key - from_place) else none := by
  split
  case isTrue ahead =>
    have inside : table.idxOf key < table.length := List.idxOf_lt_length_iff.mpr ahead.1
    have shift : from_place + (table.idxOf key - from_place) = table.idxOf key := Nat.add_sub_cancel' ahead.2
    refine List.findIdx?_eq_some_iff_getElem.mpr ⟨?_, ?_, ?_⟩
    · rw [List.length_drop]
      omega
    · rw [List.getElem_drop, beq_iff_eq]
      simp only [shift]
      exact List.getElem_idxOf inside
    · intro i before
      rw [List.getElem_drop, beq_iff_eq]
      intro same
      have place : table.idxOf key = from_place + i := by
        rw [← same]
        exact distinct.idxOf_getElem _ (by omega)
      omega
  case isFalse behind =>
    refine List.findIdx?_eq_none_iff.mpr (fun other member => beq_eq_false_iff_ne.mpr (fun same => behind ?_))
    rcases List.mem_iff_getElem.mp member with ⟨i, inside, at_place⟩
    rw [List.length_drop] at inside
    rw [List.getElem_drop] at at_place
    rw [← same, ← at_place]
    refine ⟨List.getElem_mem _, ?_⟩
    rw [distinct.idxOf_getElem]
    exact Nat.le_add_right _ _

/-- A key that is not behind the place is found. -/
theorem pick_found (distinct : table.Nodup) (member : key ∈ table) (ahead : from_place ≤ table.idxOf key)
    (rest : List Key) : pick table (key :: rest) from_place = key :: pick table rest (table.idxOf key) := by
  rw [pick, find_from distinct, if_pos ⟨member, ahead⟩]
  dsimp only
  rw [Nat.add_sub_cancel' ahead]

theorem pick_missed (distinct : table.Nodup) (missed : ¬ (key ∈ table ∧ from_place ≤ table.idxOf key))
    (rest : List Key) : pick table (key :: rest) from_place = pick table rest from_place := by
  rw [pick, find_from distinct, if_neg missed]

theorem filter_cons_of_mem (member : key ∈ table) (rest : List Key) :
    (key :: rest).filter (· ∈ table) = key :: rest.filter (· ∈ table) :=
  List.filter_cons_of_pos (decide_eq_true member)

theorem filter_cons_of_not_mem (other : key ∉ table) (rest : List Key) :
    (key :: rest).filter (· ∈ table) = rest.filter (· ∈ table) :=
  List.filter_cons_of_neg (by rw [decide_eq_true_eq]; exact other)

/-- Only keys of the table are found, in their order. -/
theorem pick_sublist (distinct : table.Nodup) (keys : List Key) (from_place : Nat) :
    List.Sublist (pick table keys from_place) (keys.filter (· ∈ table)) := by
  induction keys generalizing from_place with
  | nil => exact List.Sublist.refl _
  | cons key rest ih =>
      by_cases found : key ∈ table ∧ from_place ≤ table.idxOf key
      · rw [pick_found distinct found.1 found.2, filter_cons_of_mem found.1]
        exact (ih _).cons_cons key
      · rw [pick_missed distinct found]
        exact (ih _).trans (List.Sublist.filter _ (List.sublist_cons_self key rest))

/-- All keys of the table are found exactly when none lies before the place and their places
never go down. -/
theorem pick_eq_filter_iff (distinct : table.Nodup) (keys : List Key) (from_place : Nat) :
    pick table keys from_place = keys.filter (· ∈ table) <->
      (∀ key ∈ keys.filter (· ∈ table), from_place ≤ table.idxOf key) ∧ Ascending table keys := by
  induction keys generalizing from_place with
  | nil => exact iff_of_true rfl ⟨fun _ none => absurd none List.not_mem_nil, List.Pairwise.nil⟩
  | cons key rest ih =>
      by_cases member : key ∈ table
      · unfold Ascending
        rw [filter_cons_of_mem member, List.pairwise_cons, List.forall_mem_cons]
        by_cases ahead : from_place ≤ table.idxOf key
        · rw [pick_found distinct member ahead, List.cons.injEq, eq_self, true_and, ih]
          constructor
          · intro ⟨later, ascending⟩
            exact ⟨⟨ahead, fun other found => Nat.le_trans ahead (later other found)⟩, later, ascending⟩
          · intro ⟨_, later, ascending⟩
            exact ⟨later, ascending⟩
        · rw [pick_missed distinct (fun both => ahead both.2)]
          refine iff_of_false (fun same => ?_) (fun both => ahead both.1.1)
          have shorter := (pick_sublist distinct rest from_place).length_le
          rw [same, List.length_cons] at shorter
          exact absurd shorter (Nat.not_succ_le_self _)
      · unfold Ascending
        rw [pick_missed distinct (fun both => member both.1), filter_cons_of_not_mem member, ih]
        rfl

/-- From the front on, all are found exactly when their places never go down. -/
theorem pick_zero_eq_filter_iff (distinct : table.Nodup) (keys : List Key) :
    pick table keys 0 = keys.filter (· ∈ table) <-> Ascending table keys :=
  (pick_eq_filter_iff distinct keys 0).trans (and_iff_right (fun _ _ => Nat.zero_le _))

end ResumedSearch
