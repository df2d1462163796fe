import Mathlib.Data.List.MinMax

/-!
# A remembered maximum

A set changes by single insertions and removals, and a greatest member of it is kept beside it.
An insertion needs one comparison.  A removal needs a search only when the remembered member
leaves.
-/

namespace CachedMax

universe u v

variable {Member : Type u} {Key : Type v} [LinearOrder Key]

/-- `best` is a member with the greatest key, and there is none only when there is no member. -/
def Cached (key : Member -> Key) (members : List Member) : Option Member -> Prop
  | none => members = []
  | some best => best ∈ members ∧ ∀ member ∈ members, key member ≤ key best

theorem Cached.argmax (key : Member -> Key) (members : List Member) : Cached key members (members.argmax key) := by
  cases found : members.argmax key with
  | none => exact List.argmax_eq_none.mp found
  | some best =>
      exact ⟨List.argmax_mem found, fun member there => List.le_of_mem_argmax there found⟩

/-- The first member, or one that is greater than the remembered one. -/
theorem Cached.insert_new {key : Member -> Key} {members : List Member} {best : Option Member}
    (cached : Cached key members best) {new : Member} (greater : ∀ old, best = some old -> key old < key new) :
    Cached key (new :: members) (some new) := by
  refine ⟨List.mem_cons_self, fun member there => ?_⟩
  rcases List.mem_cons.mp there with same | earlier
  · exact le_of_eq (congrArg key same)
  · cases best with
    | none => exact absurd (cached ▸ earlier) List.not_mem_nil
    | some old => exact le_trans (cached.2 member earlier) (le_of_lt (greater old rfl))

theorem Cached.insert_other {key : Member -> Key} {members : List Member} {best new : Member}
    (cached : Cached key members (some best)) (notGreater : key new ≤ key best) :
    Cached key (new :: members) (some best) := by
  refine ⟨List.mem_cons_of_mem new cached.1, fun member there => ?_⟩
  rcases List.mem_cons.mp there with same | earlier
  · exact same ▸ notGreater
  · exact cached.2 member earlier

theorem Cached.erase_other [DecidableEq Member] {key : Member -> Key} {members : List Member}
    {best gone : Member} (cached : Cached key members (some best)) (other : best ≠ gone) :
    Cached key (members.erase gone) (some best) :=
  ⟨(List.mem_erase_of_ne other).mpr cached.1,
    fun member there => cached.2 member (List.mem_of_mem_erase there)⟩

/-- Only the keys of the members count. -/
theorem Cached.congr {before after : Member -> Key} {members : List Member} {best : Option Member}
    (cached : Cached before members best) (same : ∀ member ∈ members, after member = before member) :
    Cached after members best := by
  cases best with
  | none => exact cached
  | some best =>
      refine ⟨cached.1, fun member there => ?_⟩
      rw [same member there, same best cached.1]
      exact cached.2 member there

end CachedMax
