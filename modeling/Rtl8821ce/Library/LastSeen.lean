import Mathlib.Logic.Function.Basic
import Rtl8821ce.Library.Run

/-!
# Filters that remember the last value of each key

A filter has one cell for each key.  It rejects a value that is in the cell of its key, and
stores it otherwise.  What a cell holds before anything was stored is not a value that was
accepted, so the filter is right exactly when no key starts with the value of its cell.
-/

namespace LastSeen

universe u v

variable {Key : Type u} {Value : Type v} [DecidableEq Key] [DecidableEq Value]

/-- The cells, and what was accepted, newest first. -/
structure History (Key : Type u) (Value : Type v) where
  cells : Key -> Value
  accepted : List (Key × Value)

def History.rejects (s : History Key Value) (offered : Key × Value) : Bool :=
  decide (offered.2 = s.cells offered.1)

def History.step (s : History Key Value) (offered : Key × Value) : History Key Value :=
  if s.rejects offered then s
  else ⟨Function.update s.cells offered.1 offered.2, offered :: s.accepted⟩

/-- The value that was accepted last for a key. -/
def previous (accepted : List (Key × Value)) (key : Key) : Option Value :=
  (accepted.find? (fun entry => decide (entry.1 = key))).map Prod.snd

/-- A value is rejected exactly when it repeats the last one of its key. -/
def History.Right (s : History Key Value) (offered : Key × Value) : Prop :=
  s.rejects offered = true <-> previous s.accepted offered.1 = some offered.2

/-- The first value of each key is not the one the cell holds at the start. -/
def GoodStart (initial : Key -> Value) (offers : List (Key × Value)) : Prop :=
  ∀ before offered after, offers = before ++ offered :: after ->
    (∀ earlier ∈ before, earlier.1 ≠ offered.1) -> offered.2 ≠ initial offered.1

/-- Each cell holds the last value of its key, or still what it held at the start. -/
def History.Stored (initial : Key -> Value) (s : History Key Value) : Prop :=
  ∀ key, s.cells key = (previous s.accepted key).getD (initial key)

omit [DecidableEq Value] in
theorem previous_cons (offered : Key × Value) (accepted : List (Key × Value)) (key : Key) :
    previous (offered :: accepted) key =
      if offered.1 = key then some offered.2 else previous accepted key := by
  unfold previous
  by_cases same : offered.1 = key
  · rw [List.find?_cons, decide_eq_true same, if_pos same]
    rfl
  · rw [List.find?_cons, decide_eq_false same, if_neg same]

theorem History.Stored.step {initial : Key -> Value} {s : History Key Value}
    (stored : s.Stored initial) (offered : Key × Value) : (s.step offered).Stored initial := by
  unfold History.step
  split
  · exact stored
  · intro key
    rw [previous_cons]
    by_cases same : offered.1 = key
    · rw [if_pos same, ← same]
      exact Function.update_self _ _ _
    · rw [if_neg same]
      exact (Function.update_of_ne (Ne.symm same) _ _).trans (stored key)

/-- Where something was accepted before, the filter is right. -/
theorem History.Stored.right_of_some {initial : Key -> Value} {s : History Key Value}
    (stored : s.Stored initial) {offered : Key × Value} {last : Value}
    (seen : previous s.accepted offered.1 = some last) : s.Right offered := by
  have cell := stored offered.1
  rw [seen] at cell
  unfold History.Right History.rejects
  rw [decide_eq_true_eq, seen, cell]
  exact ⟨fun same => congrArg some same.symm, fun same => (Option.some.inj same).symm⟩

/-- Where nothing was, it is right unless the value is the one of the start. -/
theorem History.Stored.right_of_none {initial : Key -> Value} {s : History Key Value}
    (stored : s.Stored initial) {offered : Key × Value} (unseen : previous s.accepted offered.1 = none) :
    s.Right offered <-> offered.2 ≠ initial offered.1 := by
  have cell := stored offered.1
  rw [unseen] at cell
  unfold History.Right History.rejects
  rw [decide_eq_true_eq, unseen, cell]
  constructor
  · intro right same
    exact nomatch right.mp same
  · intro other
    exact iff_of_false other nofun

/-- Nothing was accepted for a key exactly when nothing was offered for it. -/
def History.Faithful (s : History Key Value) (offers : List (Key × Value)) : Prop :=
  ∀ key, previous s.accepted key = none <-> ∀ earlier ∈ offers, earlier.1 ≠ key

theorem History.Faithful.step {s : History Key Value} {offers : List (Key × Value)} (faithful : s.Faithful offers)
    {offered : Key × Value} (right : s.Right offered) : (s.step offered).Faithful (offers ++ [offered]) := by
  intro key
  have extended : (∀ earlier ∈ offers ++ [offered], earlier.1 ≠ key) <->
      (∀ earlier ∈ offers, earlier.1 ≠ key) ∧ offered.1 ≠ key := by
    simp only [List.mem_append, List.mem_singleton, or_imp, forall_and, forall_eq]
  rw [extended, ← faithful key]
  unfold History.step
  by_cases rejected : s.rejects offered = true
  · -- what is rejected was accepted before, under the same key
    have seen := right.mp rejected
    rw [if_pos rejected]
    refine ⟨fun unseen => ⟨unseen, fun same => ?_⟩, And.left⟩
    rw [same, unseen] at seen
    exact nomatch seen
  · rw [if_neg rejected, previous_cons]
    by_cases same : offered.1 = key
    · rw [if_pos same]
      exact iff_of_false nofun (fun both => both.2 same)
    · rw [if_neg same, and_iff_left same]

/-- The filter is right all along exactly when every key has a good start. -/
theorem guarded_right_iff_goodStart (initial : Key -> Value) (offers : List (Key × Value)) :
    Run.Guarded History.step History.Right ⟨initial, []⟩ offers <-> GoodStart initial offers := by
  -- the offers so far are carried along, because a good start looks back to the first of them
  have general (s : History Key Value) (done rest : List (Key × Value)) (stored : s.Stored initial)
      (faithful : s.Faithful done) :
      Run.Guarded History.step History.Right s rest <->
        ∀ before offered after, rest = before ++ offered :: after ->
          (∀ earlier ∈ done ++ before, earlier.1 ≠ offered.1) ->
            offered.2 ≠ initial offered.1 := by
    induction rest generalizing s done with
    | nil =>
        refine iff_of_true trivial (fun before offered after split => ?_)
        exact absurd split.symm (List.append_ne_nil_of_right_ne_nil _ (List.cons_ne_nil _ _))
    | cons offered rest ih =>
        have here : s.Right offered <->
            ((∀ earlier ∈ done, earlier.1 ≠ offered.1) ->
              offered.2 ≠ initial offered.1) := by
          cases seen : previous s.accepted offered.1 with
          | none =>
              rw [stored.right_of_none seen]
              exact ⟨fun other _ => other, fun other => other ((faithful offered.1).mp seen)⟩
          | some last =>
              refine iff_of_true (stored.right_of_some seen) (fun unseen => ?_)
              rw [(faithful offered.1).mpr unseen] at seen
              exact nomatch seen
        constructor
        · intro guarded before other after split first
          cases before with
          | nil =>
              obtain ⟨rfl, rfl⟩ := List.cons.inj split
              exact here.mp guarded.1 (by simpa using first)
          | cons head before =>
              obtain ⟨rfl, tail⟩ := List.cons.inj split
              have later := (ih (s.step offered) (done ++ [offered])
                (stored.step offered) (faithful.step guarded.1)).mp guarded.2
              exact later before other after tail (by simpa using first)
        · intro good
          have right : s.Right offered := here.mpr fun first =>
            good [] offered rest rfl (by simpa using first)
          refine ⟨right, (ih (s.step offered) (done ++ [offered])
            (stored.step offered) (faithful.step right)).mpr ?_⟩
          intro before other after split first
          exact good (offered :: before) other after (congrArg (offered :: ·) split)
            (by simpa using first)
  have start : (⟨initial, []⟩ : History Key Value).Faithful [] :=
    fun key => iff_of_true rfl (fun earlier member => absurd member List.not_mem_nil)
  exact general ⟨initial, []⟩ [] offers (fun key => rfl) start

end LastSeen
