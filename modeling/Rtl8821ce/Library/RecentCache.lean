import Mathlib.Data.List.Nodup

/-!
# A short list of what was seen lately

The newest entry stands first.  One pass drops the stale entries, drops every entry from the
`limit`-th fresh one on, and stops at an entry that is the wanted one.  When it finds none, a new
entry is put in front.  The pass does not look at the entries it drops for lack of room, so it
overlooks the last entry of a full list.
-/

namespace RecentCache

universe u v

variable {Entry : Type u} {Key : Type v} {limit : Nat} {stale same : Entry -> Bool}

/-- `kept` entries stand before the list, and none of them is the wanted one. -/
def pass (limit : Nat) (stale same : Entry -> Bool) : Nat -> List Entry -> Bool × List Entry
  | _, [] => (false, [])
  | kept, entry :: rest =>
      if stale entry ∨ kept + 1 = limit then pass limit stale same kept rest
      else if same entry then (true, entry :: rest)
      else ((pass limit stale same (kept + 1) rest).1,
        entry :: (pass limit stale same (kept + 1) rest).2)

/-- The entries that are still remembered. -/
def fresh (stale : Entry -> Bool) (entries : List Entry) : List Entry :=
  entries.filter (fun entry => !stale entry)

theorem mem_fresh {entry : Entry} {entries : List Entry} :
    entry ∈ fresh stale entries <-> entry ∈ entries ∧ stale entry = false := by
  simp [fresh]

/-- The wanted entry is looked for among the first fresh ones. -/
theorem pass_found (entries : List Entry) {kept : Nat} (room : kept < limit) :
    (pass limit stale same kept entries).1 =
      ((fresh stale entries).take (limit - (kept + 1))).any same := by
  induction entries generalizing kept with
  | nil => simp [pass, fresh]
  | cons entry rest ih =>
      by_cases old : stale entry = true
      · have dropped : fresh stale (entry :: rest) = fresh stale rest := by simp [fresh, old]
        rw [pass, if_pos (.inl old), dropped]
        exact ih room
      have young : fresh stale (entry :: rest) = entry :: fresh stale rest := by
        simp [fresh, old]
      by_cases full : kept + 1 = limit
      · rw [pass, if_pos (.inr full), ih room, full, Nat.sub_self]
        rfl
      have more : limit - (kept + 1) = limit - (kept + 2) + 1 := by omega
      rw [pass, if_neg (not_or.mpr ⟨old, full⟩), young, more, List.take_succ_cons, List.any_cons]
      by_cases wanted : same entry = true
      · rw [if_pos wanted, wanted, Bool.true_or]
      · rw [if_neg wanted, Bool.eq_false_iff.mpr wanted, Bool.false_or]
        exact ih (by omega)

/-- When it is not among them, these are what is left. -/
theorem pass_left (entries : List Entry) {kept : Nat} (room : kept < limit)
    (missing : (pass limit stale same kept entries).1 = false) :
    (pass limit stale same kept entries).2 = (fresh stale entries).take (limit - (kept + 1)) := by
  induction entries generalizing kept with
  | nil => simp [pass, fresh]
  | cons entry rest ih =>
      by_cases old : stale entry = true
      · have dropped : fresh stale (entry :: rest) = fresh stale rest := by simp [fresh, old]
        rw [pass, if_pos (.inl old)] at missing ⊢
        rw [dropped]
        exact ih room missing
      have young : fresh stale (entry :: rest) = entry :: fresh stale rest := by
        simp [fresh, old]
      by_cases full : kept + 1 = limit
      · rw [pass, if_pos (.inr full)] at missing ⊢
        rw [ih room missing, full, Nat.sub_self]
        rfl
      have more : limit - (kept + 1) = limit - (kept + 2) + 1 := by omega
      rw [pass, if_neg (not_or.mpr ⟨old, full⟩)] at missing ⊢
      by_cases wanted : same entry = true
      · rw [if_pos wanted] at missing
        exact absurd missing.symm Bool.false_ne_true
      · rw [if_neg wanted] at missing ⊢
        rw [young, more, List.take_succ_cons, ih (by omega) missing]

theorem pass_sublist (entries : List Entry) (kept : Nat) :
    (pass limit stale same kept entries).2.Sublist entries := by
  induction entries generalizing kept with
  | nil => exact List.Sublist.refl []
  | cons entry rest ih =>
      rw [pass]
      split
      · exact (ih kept).cons entry
      · split
        · exact List.Sublist.refl _
        · exact (ih (kept + 1)).cons_cons entry

/-- Look for an entry, and put a new one in front when there is none.  `none` is an entry for
which there is no memory. -/
def check (limit : Nat) (stale same : Entry -> Bool) (new : Option Entry)
    (entries : List Entry) : Bool × List Entry :=
  if (pass limit stale same 0 entries).1 then pass limit stale same 0 entries
  else (false, new.toList ++ (pass limit stale same 0 entries).2)

theorem check_found (positive : 0 < limit) (new : Option Entry) (entries : List Entry) :
    (check limit stale same new entries).1 =
      ((fresh stale entries).take (limit - 1)).any same := by
  refine Eq.trans ?_ (pass_found entries positive)
  by_cases found : (pass limit stale same 0 entries).1 = true
  · rw [check, if_pos found]
  · rw [check, if_neg found, Bool.eq_false_iff.mpr found]

theorem check_length_le (positive : 0 < limit) (new : Option Entry) {entries : List Entry}
    (bound : entries.length ≤ limit) : (check limit stale same new entries).2.length ≤ limit := by
  by_cases found : (pass limit stale same 0 entries).1 = true
  · rw [check, if_pos found]
    exact Nat.le_trans (pass_sublist entries 0).length_le bound
  · have missing := Bool.eq_false_iff.mpr found
    have one : new.toList.length ≤ 1 := Option.length_toList_le
    have left := List.length_take_le (limit - (0 + 1)) (fresh stale entries)
    rw [check, if_neg found, List.length_append, pass_left entries positive missing]
    omega

/-- The entries keep different keys when the wanted entry is the one with the new key. -/
theorem check_nodup (positive : 0 < limit) {key : Entry -> Key} {new : Option Entry}
    {wanted : Key} (named : ∀ entry, same entry = true <-> key entry = wanted)
    (newKey : ∀ entry, new = some entry -> key entry = wanted) {entries : List Entry}
    (distinct : (entries.map key).Nodup) : ((check limit stale same new entries).2.map key).Nodup := by
  have left : ((pass limit stale same 0 entries).2.map key).Nodup :=
    distinct.sublist ((pass_sublist entries 0).map key)
  by_cases found : (pass limit stale same 0 entries).1 = true
  · rw [check, if_pos found]
    exact left
  have missing := Bool.eq_false_iff.mpr found
  rw [check, if_neg found]
  cases new with
  | none => exact left
  | some entry =>
      change (key entry :: (pass limit stale same 0 entries).2.map key).Nodup
      refine List.nodup_cons.mpr ⟨fun there => ?_, left⟩
      rcases List.mem_map.mp there with ⟨other, member, sameKey⟩
      rw [pass_left entries positive missing] at member
      rw [pass_found entries positive] at missing
      have unwanted := List.any_eq_false.mp missing other member
      exact unwanted ((named other).mpr (sameKey.trans (newKey entry rfl)))

/-- The list is full of fresh entries, and the wanted one is the last of them. -/
def LastOfFull (limit : Nat) (stale same : Entry -> Bool) (entries : List Entry) : Prop :=
  entries.length = limit ∧ (∀ entry ∈ entries, stale entry = false) ∧
    ∃ last, entries.getLast? = some last ∧ same last = true

/-- The answer is right unless the wanted entry is the last of a full list. -/
theorem check_right_iff (positive : 0 < limit) (new : Option Entry) {key : Entry -> Key}
    {wanted : Key} (named : ∀ entry, same entry = true <-> key entry = wanted)
    {entries : List Entry} (bound : entries.length ≤ limit) (distinct : (entries.map key).Nodup) :
    ((check limit stale same new entries).1 = true <->
        ∃ entry, entry ∈ entries ∧ stale entry = false ∧ same entry = true) <->
      ¬ LastOfFull limit stale same entries := by
  have wantedFresh : (∃ entry, entry ∈ entries ∧ stale entry = false ∧
      same entry = true) <-> (fresh stale entries).any same = true := by
    rw [List.any_eq_true]
    simp only [mem_fresh, and_assoc]
  rw [wantedFresh, check_found positive]
  have short : (fresh stale entries).length ≤ entries.length := List.length_filter_le ..
  by_cases room : (fresh stale entries).length ≤ limit - 1
  · -- every fresh entry is looked at
    rw [List.take_of_length_le room]
    refine iff_of_true Iff.rfl ?_
    rintro ⟨full, young, _⟩
    have all : fresh stale entries = entries :=
      List.filter_eq_self.mpr (fun entry member => by rw [young entry member]; rfl)
    rw [all, full] at room
    omega
  · have full : entries.length = limit := by omega
    have all : fresh stale entries = entries :=
      (List.filter_sublist).eq_of_length (by change (fresh stale entries).length = _; omega)
    have young : ∀ entry ∈ entries, stale entry = false := fun entry member =>
      (mem_fresh.mp (all.symm ▸ member)).2
    rw [all]
    rcases List.eq_nil_or_concat entries with empty | ⟨earlier, last, parts⟩
    · rw [empty] at full
      exact absurd full (Nat.ne_of_lt positive)
    rw [List.concat_eq_append] at parts
    have size : earlier.length = limit - 1 := by
      rw [parts, List.length_append, List.length_singleton] at full
      omega
    have lookedAt : entries.take (limit - 1) = earlier := by
      rw [parts, <- size, List.take_left]
    have lastOfFull : LastOfFull limit stale same entries <-> same last = true := by
      constructor
      · rintro ⟨_, _, found, isLast, wantedLast⟩
        rw [parts, List.getLast?_append, List.getLast?_singleton] at isLast
        exact Option.some.inj isLast ▸ wantedLast
      · intro wantedLast
        refine ⟨full, young, last, ?_, wantedLast⟩
        rw [parts, List.getLast?_append, List.getLast?_singleton]
        rfl
    -- there is only one entry with the key
    have once : same last = true -> earlier.any same = false := by
      intro wantedLast
      rw [parts, List.map_append, List.nodup_append] at distinct
      refine List.any_eq_false.mpr (fun entry member wantedEntry => ?_)
      refine distinct.2.2 (key entry) (List.mem_map_of_mem member) (key last)
        (List.mem_map_of_mem (List.mem_singleton_self last)) ?_
      rw [(named entry).mp wantedEntry, (named last).mp wantedLast]
    rw [lookedAt, lastOfFull, parts, List.any_append, List.any_cons, List.any_nil, Bool.or_false]
    by_cases wantedLast : same last = true
    · rw [once wantedLast, wantedLast]
      simp
    · rw [Bool.eq_false_iff.mpr wantedLast]
      simp

end RecentCache
