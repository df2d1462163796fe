import Mathlib.Data.List.Basic
import Mathlib.Tactic.Common

/-!
# Tokens on lists with a link of their own

A token that carries its list link is on one list at a time.  It moves by being
taken out of the list it is on, wherever that is, and put at the tail of another.
-/

namespace Placement

universe u v

variable {Place : Type u} {Token : Type v}

/-- Each token is on exactly one list, once. -/
structure Placed (queue : Place -> List Token) : Prop where
  nodup : ∀ place, (queue place).Nodup
  somewhere : ∀ token, ∃ place, token ∈ queue place
  once : ∀ {token first second}, token ∈ queue first -> token ∈ queue second -> first = second

variable {queue : Place -> List Token} {token other : Token} {place target : Place}

theorem Placed.not_mem (placed : Placed queue) (there : token ∈ queue place)
    (different : target ≠ place) : token ∉ queue target :=
  fun here => different (placed.once here there)

/-- All tokens start on one list. -/
theorem placed_of_single [DecidableEq Place] {tokens : List Token} (home : Place) (nodup : tokens.Nodup)
    (all : ∀ token, token ∈ tokens) : Placed (fun place => if place = home then tokens else []) := by
  constructor
  case nodup =>
    intro place
    split
    · exact nodup
    · exact List.nodup_nil
  case somewhere => exact fun token => ⟨home, by rw [if_pos rfl]; exact all token⟩
  case once =>
    intro token first second one two
    split at one
    case isTrue here =>
      split at two
      case isTrue there => exact here.trans there.symm
      case isFalse => cases two
    case isFalse => cases one

variable [DecidableEq Place] [DecidableEq Token]

/-- Take a token out of its list, and put it at the tail of another list. -/
def move (queue : Place -> List Token) (token : Token) (place : Place) : Place -> List Token :=
  fun other =>
    if other = place then (queue other).erase token ++ [token] else (queue other).erase token

/-- A list that neither has nor gets the token stays as it is. -/
theorem move_outside (absent : token ∉ queue place) (different : place ≠ target) :
    move queue token target place = queue place := by
  rw [move, if_neg different, List.erase_of_not_mem absent]

theorem move_source (different : place ≠ target) :
    move queue token target place = (queue place).erase token := if_neg different

theorem move_target (absent : token ∉ queue target) : move queue token target target = queue target ++ [token] := by
  rw [move, if_pos rfl, List.erase_of_not_mem absent]

theorem Placed.mem_move (placed : Placed queue) :
    other ∈ move queue token target place <->
      if other = token then place = target else other ∈ queue place := by
  have erased : other ∈ (queue place).erase token <-> other ≠ token ∧ other ∈ queue place :=
    (placed.nodup place).mem_erase_iff
  unfold move
  by_cases same : other = token
  · rw [if_pos same]
    split
    case isTrue there => simp [same, there]
    case isFalse elsewhere =>
      rw [erased]
      exact ⟨fun there => absurd same there.1, fun there => absurd there elsewhere⟩
  · rw [if_neg same]
    split
    case isTrue => simp [erased, same]
    case isFalse => simp [erased, same]

theorem Placed.move (placed : Placed queue) (token : Token) (target : Place) : Placed (move queue token target) := by
  constructor
  case nodup =>
    intro place
    have left := (placed.nodup place).erase token
    unfold Placement.move
    split
    case isTrue =>
      have gone : token ∉ (queue place).erase token := (placed.nodup place).not_mem_erase
      refine List.nodup_append.mpr ⟨left, List.pairwise_singleton _ _, ?_⟩
      rintro before there last here rfl
      rw [List.mem_singleton] at here
      exact gone (here ▸ there)
    case isFalse => exact left
  case somewhere =>
    intro other
    by_cases same : other = token
    · exact ⟨target, placed.mem_move.mpr (by rw [if_pos same])⟩
    · rcases placed.somewhere other with ⟨place, there⟩
      exact ⟨place, placed.mem_move.mpr (by rwa [if_neg same])⟩
  case once =>
    intro other first second one two
    rw [placed.mem_move] at one two
    by_cases same : other = token
    · rw [if_pos same] at one two
      exact one.trans two.symm
    · rw [if_neg same] at one two
      exact placed.once one two

/-- A token on its way stops at no other list. -/
theorem Placed.move_move (placed : Placed queue) (token : Token) (stop target : Place) :
    Placement.move (Placement.move queue token stop) token target = Placement.move queue token target := by
  have gone : ∀ place, ((queue place).erase token).erase token = (queue place).erase token :=
    fun place => List.erase_of_not_mem (placed.nodup place).not_mem_erase
  have back : ∀ place, ((queue place).erase token ++ [token]).erase token =
      (queue place).erase token := by
    intro place
    rw [List.erase_append_right _ (placed.nodup place).not_mem_erase, List.erase_cons_head, List.append_nil]
  funext place
  unfold Placement.move
  split <;> split
  · rw [back]
  · rw [gone]
  · rw [back]
  · rw [gone]

/-- The head of a list leaves the tail behind. -/
theorem move_head {rest : List Token} (first : queue place = token :: rest) (different : place ≠ target) :
    move queue token target place = rest := by
  rw [move_source different, first, List.erase_cons_head]

end Placement
