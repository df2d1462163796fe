import Mathlib.Data.Finset.Card
import Mathlib.Data.Nat.ModEq

/-!
# Positions on a ring

The places `0 .. size - 1` lie on a ring, and are numbered from a start by
offsets.  Offsets below the size name each place exactly once, so a set of
places can be counted by offsets.
-/

namespace Ring

/-- The place at an offset from the start. -/
def place (size start offset : Nat) : Nat := (start + offset) % size

theorem place_lt {size : Nat} (positive : 0 < size) (start offset : Nat) : place size start offset < size :=
  Nat.mod_lt _ positive

theorem place_injective {size start first second : Nat} (firstSmall : first < size)
    (secondSmall : second < size) (same : place size start first = place size start second) : first = second :=
  Nat.ModEq.eq_of_lt_of_lt (Nat.ModEq.add_left_cancel' start same) firstSmall secondSmall

theorem exists_place {size start i : Nat} (inside : i < size) :
    ∃ offset, offset < size ∧ place size start offset = i := by
  have positive : 0 < size := Nat.zero_lt_of_lt inside
  refine ⟨(i + (size - start % size)) % size, Nat.mod_lt _ positive, ?_⟩
  have below := Nat.mod_lt start positive
  have regroup : start % size + (i + (size - start % size)) = i + size := by omega
  rw [place, Nat.add_mod_mod, ← Nat.mod_add_mod, regroup, Nat.add_mod_right, Nat.mod_eq_of_lt inside]

theorem place_place (size start first second : Nat) :
    place size (place size start first) second = place size start (first + second) := by
  rw [place, place, place, Nat.mod_add_mod, Nat.add_assoc]

/-- From the next place on, every offset is one less. -/
theorem place_next (size start : Nat) {offset : Nat} (positive : offset ≠ 0) :
    place size start offset = place size (place size start 1) (offset - 1) := by
  rw [place_place, Nat.add_sub_cancel' (Nat.one_le_iff_ne_zero.mpr positive)]

/-- The way from one offset to a later one, measured on the ring. -/
theorem distance {size start first second : Nat} (ordered : first ≤ second) (small : second < size) :
    (place size start second + size - place size start first) % size = second - first := by
  have positive : 0 < size := Nat.zero_lt_of_lt small
  have behind := place_lt positive start first
  have reached := place_place size start first (second - first)
  rw [Nat.add_sub_cancel' ordered, place] at reached
  rcases Nat.lt_or_ge (place size start first + (second - first)) size with below | around
  · rw [Nat.mod_eq_of_lt below] at reached
    have regroup : place size start second + size - place size start first =
        second - first + size := by omega
    rw [regroup, Nat.add_mod_right, Nat.mod_eq_of_lt (by omega)]
  · rw [Nat.mod_eq_sub_mod around, Nat.mod_eq_of_lt (by omega)] at reached
    have regroup : place size start second + size - place size start first = second - first := by
      omega
    rw [regroup, Nat.mod_eq_of_lt (by omega)]

/-- The places of a kind. -/
def places (size : Nat) (kind : Nat -> Bool) : Finset Nat :=
  (Finset.range size).filter (fun i => kind i = true)

theorem mem_places {size i : Nat} {kind : Nat -> Bool} : i ∈ places size kind <-> i < size ∧ kind i = true := by
  rw [places, Finset.mem_filter, Finset.mem_range]

theorem card_places_le (size : Nat) (kind : Nat -> Bool) : (places size kind).card ≤ size :=
  (Finset.card_filter_le _ _).trans_eq (Finset.card_range size)

/-- Offsets that are all of the kind count as many places. -/
theorem le_card_places {size start count : Nat} {kind : Nat -> Bool} (fits : count ≤ size)
    (all : ∀ offset, offset < count -> kind (place size start offset) = true) : count ≤ (places size kind).card := by
  have image : (Finset.range count).image (place size start) ⊆ places size kind := by
    intro i member
    rcases Finset.mem_image.mp member with ⟨offset, small, same⟩
    rw [Finset.mem_range] at small
    rw [mem_places, ← same]
    exact ⟨place_lt (by omega) start offset, all offset small⟩
  have counted := Finset.card_le_card image
  rwa [Finset.card_image_of_injOn, Finset.card_range] at counted
  intro first firstMember second secondMember same
  have firstSmall := Finset.mem_range.mp firstMember
  have secondSmall := Finset.mem_range.mp secondMember
  exact place_injective (by omega) (by omega) same

/-- A kind that occurs at the first offsets only has no more places than these. -/
theorem card_places_le_of_first {size start count : Nat} {kind : Nat -> Bool}
    (first : ∀ offset, offset < size -> kind (place size start offset) = true -> offset < count) :
    (places size kind).card ≤ count := by
  have image : places size kind ⊆ (Finset.range count).image (place size start) := by
    intro i member
    rcases mem_places.mp member with ⟨inside, isKind⟩
    rcases @exists_place size start i inside with ⟨offset, small, same⟩
    rw [← same] at isKind
    exact Finset.mem_image.mpr ⟨offset, Finset.mem_range.mpr (first offset small isKind), same⟩
  exact (Finset.card_le_card image).trans (Finset.card_image_le.trans_eq (Finset.card_range count))

end Ring
