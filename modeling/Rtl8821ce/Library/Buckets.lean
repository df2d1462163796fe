import Mathlib.Data.List.Nodup
import Mathlib.Logic.Function.Basic

/-!
# Hash buckets

A table keeps its entries in buckets, each entry in the bucket that a hash names.  An
entry is linked at the end of a bucket and unlinked wherever it is.  A search for a key
looks through one bucket only; it finds an entry exactly when the table has one with the
key, as long as no two entries share a key.
-/

namespace Buckets

universe u v

variable {Entry : Type u} {Key : Type v}

/-- All entries, bucket by bucket. -/
def entries (size : Nat) (buckets : Nat -> List Entry) : List Entry :=
  (List.range size).flatMap buckets

/-- Link an entry at the end of a bucket. -/
def insert (buckets : Nat -> List Entry) (index : Nat) (entry : Entry) : Nat -> List Entry :=
  Function.update buckets index (buckets index ++ [entry])

/-- Unlink an entry. -/
def delete [DecidableEq Entry] (buckets : Nat -> List Entry) (entry : Entry) : Nat -> List Entry :=
  fun index => (buckets index).filter (fun other => other ≠ entry)

/-- Every entry is in the bucket of its hash, and there only once. -/
structure Sorted (size : Nat) (hash : Entry -> Nat) (buckets : Nat -> List Entry) : Prop where
  inside : ∀ {index : Nat} {entry : Entry}, entry ∈ buckets index -> index < size
  place : ∀ {index : Nat} {entry : Entry}, entry ∈ buckets index -> index = hash entry
  distinct : ∀ index, (buckets index).Nodup

variable {size : Nat} {hash : Entry -> Nat} {buckets : Nat -> List Entry} {entry other : Entry}

theorem mem_insert {index target : Nat} :
    other ∈ insert buckets target entry index <-> other ∈ buckets index ∨ (index = target ∧ other = entry) := by
  unfold insert
  by_cases same : index = target
  · subst same
    simp only [Function.update_self, List.mem_append, List.mem_singleton, true_and]
  · simp only [Function.update_of_ne same, same, false_and, or_false]

@[simp] theorem mem_delete [DecidableEq Entry] {index : Nat} :
    other ∈ delete buckets entry index <-> other ∈ buckets index ∧ other ≠ entry := by
  simp only [delete, List.mem_filter, decide_eq_true_eq]

/-- An entry is unlinked once. -/
theorem delete_delete [DecidableEq Entry] (buckets : Nat -> List Entry) (entry : Entry) :
    delete (delete buckets entry) entry = delete buckets entry := by
  funext index
  simp only [delete, List.filter_filter, Bool.and_self]

theorem delete_comm [DecidableEq Entry] (buckets : Nat -> List Entry) (first second : Entry) :
    delete (delete buckets first) second = delete (delete buckets second) first := by
  funext index
  simp only [delete, List.filter_filter, Bool.and_comm]

theorem entries_nil (size : Nat) : entries size (fun _ => ([] : List Entry)) = [] :=
  List.flatMap_eq_nil_iff.mpr fun _ _ => rfl

theorem mem_entries_delete [DecidableEq Entry] :
    other ∈ entries size (delete buckets entry) <-> other ∈ entries size buckets ∧ other ≠ entry := by
  simp only [entries, List.mem_flatMap, mem_delete]
  exact ⟨fun ⟨index, bound, there, different⟩ => ⟨⟨index, bound, there⟩, different⟩,
    fun ⟨⟨index, bound, there⟩, different⟩ => ⟨index, bound, there, different⟩⟩

theorem mem_entries_insert {target : Nat} (inside : target < size) :
    other ∈ entries size (insert buckets target entry) <-> other ∈ entries size buckets ∨ other = entry := by
  simp only [entries, List.mem_flatMap, mem_insert]
  constructor
  · rintro ⟨index, bound, old | ⟨_, same⟩⟩
    · exact .inl ⟨index, bound, old⟩
    · exact .inr same
  · rintro (⟨index, bound, old⟩ | same)
    · exact ⟨index, bound, .inl old⟩
    · exact ⟨target, List.mem_range.mpr inside, .inr ⟨rfl, same⟩⟩

theorem Sorted.mem_entries (sorted : Sorted size hash buckets) :
    entry ∈ entries size buckets <-> entry ∈ buckets (hash entry) := by
  unfold entries
  constructor
  · intro member
    rcases List.mem_flatMap.mp member with ⟨index, _, there⟩
    rwa [← sorted.place there]
  · intro there
    exact List.mem_flatMap.mpr ⟨_, List.mem_range.mpr (sorted.inside there), there⟩

theorem Sorted.nodup_entries (sorted : Sorted size hash buckets) : (entries size buckets).Nodup := by
  refine List.nodup_flatMap.mpr ⟨fun index _ => sorted.distinct index, ?_⟩
  refine List.Pairwise.imp ?_ List.nodup_range
  intro first second different entry here there
  exact different ((sorted.place here).trans (sorted.place there).symm)

theorem Sorted.insert (sorted : Sorted size hash buckets) (inside : hash entry < size)
    (fresh : entry ∉ buckets (hash entry)) : Sorted size hash (insert buckets (hash entry) entry) where
  inside := fun {index found} member => by
    rcases mem_insert.mp member with old | ⟨here, _⟩
    · exact sorted.inside old
    · rwa [here]
  place := fun {index found} member => by
    rcases mem_insert.mp member with old | ⟨here, same⟩
    · exact sorted.place old
    · rw [here, same]
  distinct := fun index => by
    unfold Buckets.insert
    by_cases same : index = hash entry
    · subst same
      rw [Function.update_self]
      exact List.nodup_append.mpr ⟨sorted.distinct _, List.nodup_singleton entry, fun first here second there => by
        rw [List.mem_singleton.mp there]
        exact fun same => fresh (same ▸ here)⟩
    · rw [Function.update_of_ne same]
      exact sorted.distinct index

theorem Sorted.delete [DecidableEq Entry] (sorted : Sorted size hash buckets) (entry : Entry) :
    Sorted size hash (delete buckets entry) where
  inside := fun member => sorted.inside (mem_delete.mp member).1
  place := fun member => sorted.place (mem_delete.mp member).1
  distinct := fun index => (sorted.distinct index).filter _

/-- The hashes of the entries count, and no others. -/
theorem Sorted.congr (sorted : Sorted size hash buckets) {other : Entry -> Nat}
    (same : ∀ index entry, entry ∈ buckets index -> other entry = hash entry) : Sorted size other buckets where
  inside := sorted.inside
  place := fun member => (sorted.place member).trans (same _ _ member).symm
  distinct := sorted.distinct

/-- A search in one bucket finds whoever has the key. -/
theorem Sorted.find_eq_some_iff [DecidableEq Key] {place : Key -> Nat} {key : Entry -> Key}
    (sorted : Sorted size (fun entry => place (key entry)) buckets)
    (unique : ∀ first second, first ∈ entries size buckets -> second ∈ entries size buckets ->
      key first = key second -> first = second) (sought : Key) :
    (buckets (place sought)).find? (fun entry => key entry = sought) = some entry <->
      entry ∈ entries size buckets ∧ key entry = sought := by
  constructor
  · intro found
    have same : key entry = sought := by simpa using List.find?_some found
    refine ⟨sorted.mem_entries.mpr ?_, same⟩
    rw [same]
    exact List.mem_of_find?_eq_some found
  · rintro ⟨member, same⟩
    have here := sorted.mem_entries.mp member
    rw [same] at here
    cases found : (buckets (place sought)).find? (fun entry => key entry = sought) with
    | none => exact absurd (decide_eq_true same) (List.find?_eq_none.mp found entry here)
    | some first =>
      have first_same : key first = sought := by simpa using List.find?_some found
      have first_member : first ∈ entries size buckets := sorted.mem_entries.mpr (by
        rw [first_same]
        exact List.mem_of_find?_eq_some found)
      rw [unique first entry first_member member (first_same.trans same.symm)]

end Buckets
