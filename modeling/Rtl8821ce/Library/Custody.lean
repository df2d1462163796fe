import Mathlib.Algebra.BigOperators.Fin
import Mathlib.Algebra.Order.BigOperators.Group.Finset
import Mathlib.Data.Fintype.BigOperators

/-!
# Counting what several holders hold

Tokens are kept by finitely many holders.  How often a token is held is the sum
over the holders, and an operation on one holder changes the sum by what it
changes there.
-/

namespace Custody

universe u v

variable {Holder : Type u} {Record : Type v} [Fintype Holder]

/-- Replacing one record exchanges its part of the sum. -/
theorem sum_update [DecidableEq Holder] (records : Holder -> Record) (weigh : Record -> Nat) (holder : Holder)
    (record : Record) :
    (∑ other, weigh (Function.update records holder record other)) + weigh (records holder) =
      (∑ other, weigh (records other)) + weigh record := by
  have outside : ∀ other ∈ Finset.univ.erase holder,
      weigh (Function.update records holder record other) = weigh (records other) := by
    intro other member
    rw [Function.update_of_ne (Finset.ne_of_mem_erase member)]
  rw [← Finset.add_sum_erase Finset.univ _ (Finset.mem_univ holder),
    ← Finset.add_sum_erase Finset.univ (fun other => weigh (records other))
      (Finset.mem_univ holder), Function.update_self, Finset.sum_congr rfl outside]
  omega

/-- What one holder holds is part of the sum. -/
theorem le_sum (weight : Holder -> Nat) (holder : Holder) : weight holder ≤ ∑ other, weight other :=
  Finset.single_le_sum (fun _ _ => Nat.zero_le _) (Finset.mem_univ holder)

/-- Keeping all tokens but one keeps the sums of all others. -/
theorem sum_without {Token : Type u} [DecidableEq Token] (held : Holder -> Token -> Nat) (removed token : Token) :
    (∑ holder, if token = removed then 0 else held holder token) =
      if token = removed then 0 else ∑ holder, held holder token := by
  split
  · exact Finset.sum_const_zero
  · rfl

theorem count_cons {Token : Type u} [DecidableEq Token] (first : Token) (rest : List Token) (token : Token) :
    (first :: rest).count token = [first].count token + rest.count token := by
  rw [List.count_cons, List.count_singleton, Nat.add_comm]

/-- Taking the token at a position out of a list. -/
theorem count_eraseIdx {Token : Type u} [DecidableEq Token] {tokens : List Token} {i : Nat}
    {taken : Token} (there : tokens[i]? = some taken) (token : Token) :
    (tokens.eraseIdx i).count token + [taken].count token = tokens.count token := by
  rcases List.getElem?_eq_some_iff.mp there with ⟨inside, same⟩
  have permuted := List.getElem_cons_eraseIdx_perm inside
  rw [same] at permuted
  rw [← permuted.count_eq, count_cons taken (tokens.eraseIdx i), Nat.add_comm]

end Custody
