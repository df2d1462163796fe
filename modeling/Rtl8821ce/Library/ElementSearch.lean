import Rtl8821ce.Library.Scanner

/-!
# Searching a sequence of elements

Elements stand one behind another in a memory; each tells its own size.  A
search goes from element to element below a limit and stops at the first one it
looks for.  It trusts the sizes: nothing makes the elements end at the limit.

The search stays below the limit exactly when the elements it passes over are
complete, and it ends at the limit, at a complete element it looks for, or at a
last element of which it has read only what is there.
-/

namespace ElementSearch

open Scanner (Iteration Passes Throughout)

/-- A search: the size of the element at a place, whether the search stops
there, and how many bytes from the place on it reads before it decides. -/
structure Search where
  size : Nat -> Nat
  positive : ∀ place, 0 < size place
  sought : Nat -> Bool
  room : Nat -> Nat

/-- The loop of a search: it ends with the element sought, or with nothing at the limit. -/
def body (search : Search) (limit : Nat) (place : Nat) : Iteration Nat (Option Nat) :=
  if place < limit then
    if search.sought place then .done (some place) else .more (place + search.size place)
  else .done none

theorem body_sought {search : Search} {limit place : Nat} (inside : place < limit)
    (sought : search.sought place = true) : body search limit place = .done (some place) := by
  rw [body, if_pos inside, if_pos sought]

theorem body_passed {search : Search} {limit place : Nat} (inside : place < limit)
    (other : search.sought place = false) : body search limit place = .more (place + search.size place) := by
  rw [body, if_pos inside, other, if_neg Bool.false_ne_true]

theorem body_ended {search : Search} {limit place : Nat} (outside : limit ≤ place) :
    body search limit place = .done none := by
  rw [body, if_neg (Nat.not_lt.mpr outside)]

theorem body_more_iff {search : Search} {limit place next : Nat} :
    body search limit place = .more next <->
      place < limit ∧ search.sought place = false ∧ next = place + search.size place := by
  constructor
  · intro more
    unfold body at more
    split_ifs at more
    case neg inside other =>
        exact ⟨inside, Bool.not_eq_true _ ▸ other, (Iteration.more.inj more).symm⟩
  · intro ⟨inside, other, next⟩
    rw [body_passed inside other, next]

theorem body_decreases (search : Search) (limit place next : Nat)
    (more : body search limit place = .more next) : limit - next < limit - place := by
  rcases body_more_iff.mp more with ⟨inside, _, next⟩
  have positive := search.positive place
  omega

theorem mem_visited {search : Search} {limit start place : Nat} :
    place ∈ Scanner.visited (body search limit) (limit + 1) start <->
      Passes (body search limit) start place :=
  Scanner.mem_visited (fun place => limit - place) (body_decreases search limit) (by omega)

/-- The search goes forward only. -/
theorem le_of_passes {search : Search} {limit start place : Nat}
    (passes : Passes (body search limit) start place) : start ≤ place := by
  induction passes with
  | refl => exact Nat.le_refl _
  | tail _ goes ih =>
      rcases body_more_iff.mp goes with ⟨_, _, next⟩
      omega

/-- The elements that the search passes over: not sought, complete, and with
enough behind them for the bytes it reads. -/
inductive Complete (search : Search) (limit : Nat) : Nat -> Nat -> Prop
  | here (place : Nat) : Complete search limit place place
  | next {place last : Nat} (other : search.sought place = false)
      (room : place + search.room place ≤ limit)
      (complete : place + search.size place ≤ limit)
      (rest : Complete search limit (place + search.size place) last) :
      Complete search limit place last

/-- Behind complete elements the search ends at the limit, at a complete element
it looks for, or at one it does not look for, that is cut off by the limit
behind the bytes it reads. -/
def Intact (search : Search) (limit start : Nat) : Prop :=
  ∃ last, Complete search limit start last ∧
    (limit ≤ last ∨
      last + search.room last ≤ limit ∧
        (search.sought last = true ∧ last + search.size last ≤ limit ∨
          search.sought last = false ∧ limit < last + search.size last))

/-- Below the limit the search reads nothing outside, and stops at complete elements only. -/
def Inside (search : Search) (limit place : Nat) : Prop :=
  place < limit -> place + search.room place ≤ limit ∧
    (search.sought place = true -> place + search.size place ≤ limit)

/-- The search stays inside the limit at every element it comes to. -/
def StaysInside (search : Search) (limit start : Nat) : Prop :=
  Throughout (body search limit) (Inside search limit) start

theorem staysInside_ended {search : Search} {limit start : Nat} (outside : limit ≤ start) :
    StaysInside search limit start := by
  refine Scanner.throughout_iff.mpr ⟨fun inside => absurd inside (Nat.not_lt.mpr outside), ?_⟩
  intro next goes
  rw [body_ended outside] at goes
  cases goes

/-- One element and the rest of the search. -/
theorem staysInside_iff {search : Search} {limit start : Nat} (inside : start < limit) :
    StaysInside search limit start <->
      start + search.room start ≤ limit ∧
        (search.sought start = true -> start + search.size start ≤ limit) ∧
        (search.sought start = false -> StaysInside search limit (start + search.size start)) := by
  unfold StaysInside
  rw [Scanner.throughout_iff]
  constructor
  · intro ⟨here, rest⟩
    exact ⟨(here inside).1, (here inside).2, fun other => rest _ (body_passed inside other)⟩
  · intro ⟨room, complete, rest⟩
    refine ⟨fun _ => ⟨room, complete⟩, ?_⟩
    intro next goes
    rcases body_more_iff.mp goes with ⟨_, other, same⟩
    exact same ▸ rest other

theorem Intact.staysInside {search : Search} {limit start : Nat} (intact : Intact search limit start) :
    StaysInside search limit start := by
  rcases intact with ⟨last, complete, ends⟩
  induction complete with
  | here place =>
      rcases ends with outside | ⟨room, ends⟩
      · exact staysInside_ended outside
      · by_cases inside : place < limit
        · rw [staysInside_iff inside]
          refine ⟨room, fun sought => ?_, fun other => ?_⟩
          · rcases ends with ⟨_, complete⟩ | ⟨other, _⟩
            · exact complete
            · rw [other] at sought
              cases sought
          · rcases ends with ⟨sought, _⟩ | ⟨_, cut⟩
            · rw [other] at sought
              cases sought
            · exact staysInside_ended (Nat.le_of_lt cut)
        · exact staysInside_ended (Nat.not_lt.mp inside)
  | @next place last other room complete _ ih =>
      have positive := search.positive place
      rw [staysInside_iff (by omega)]
      refine ⟨room, fun sought => ?_, fun _ => ih ends⟩
      rw [other] at sought
      cases sought

theorem StaysInside.intact {search : Search} {limit : Nat} :
    ∀ {left start : Nat}, limit - start ≤ left -> StaysInside search limit start ->
      Intact search limit start := by
  intro left
  induction left with
  | zero => exact fun few _ => ⟨_, .here _, Or.inl (by omega)⟩
  | succ left ih =>
      intro start few stays
      by_cases inside : start < limit
      · rcases (staysInside_iff inside).mp stays with ⟨room, complete, rest⟩
        cases sought : search.sought start with
        | true => exact ⟨start, .here start, Or.inr ⟨room, Or.inl ⟨sought, complete sought⟩⟩⟩
        | false =>
            by_cases cut : limit < start + search.size start
            · exact ⟨start, .here start, Or.inr ⟨room, Or.inr ⟨sought, cut⟩⟩⟩
            · have positive := search.positive start
              rcases ih (by omega) (rest sought) with ⟨last, passed, ends⟩
              exact ⟨last, .next sought room (Nat.not_lt.mp cut) passed, ends⟩
      · exact ⟨start, .here start, Or.inl (Nat.not_lt.mp inside)⟩

/-- The search stays inside the limit exactly for intact sequences. -/
theorem staysInside_iff_intact (search : Search) (limit start : Nat) :
    StaysInside search limit start <-> Intact search limit start :=
  ⟨fun stays => stays.intact (Nat.le_refl _), Intact.staysInside⟩

/-- A search that looks closer at the elements another one stops at: it stays
inside where the other does not stop as long as the other does, and at the
other's stop its own search begins anew. -/
theorem staysInside_refined {coarse fine : Search} (size : fine.size = coarse.size)
    (stops : ∀ place, fine.sought place = true -> coarse.sought place = true)
    (room : ∀ place, coarse.sought place = false -> fine.room place = coarse.room place) (limit start : Nat) :
    StaysInside fine limit start <->
      (∃ result, Scanner.scan (body coarse limit) (limit + 1) start = some result ∧
        ∀ found, result = some found -> StaysInside fine limit found) ∧
      ∀ place ∈ Scanner.visited (body coarse limit) (limit + 1) start,
        place < limit -> coarse.sought place = false -> place + coarse.room place ≤ limit := by
  rw [Scanner.throughout_iff_scan (body_decreases coarse limit)
    (show limit - start < limit + 1 by omega)]
  obtain ⟨left, few⟩ : ∃ left, limit - start ≤ left := ⟨_, Nat.le_refl _⟩
  induction left generalizing start with
  | zero =>
      have outside : limit ≤ start := by omega
      refine iff_of_true (staysInside_ended outside) (Scanner.throughout_iff.mpr ⟨⟨?_, ?_⟩, ?_⟩)
      · exact fun inside => absurd inside (Nat.not_lt.mpr outside)
      · intro result done found same
        rw [body_ended outside, Iteration.done.injEq] at done
        rw [← done] at same
        cases same
      · intro next goes
        rw [body_ended outside] at goes
        cases goes
  | succ left ih =>
      by_cases inside : start < limit
      · rw [Scanner.throughout_iff]
        cases stop : coarse.sought start with
        | true =>
            rw [body_sought inside stop]
            constructor
            · intro stays
              refine ⟨⟨fun _ impossible => (nomatch impossible), ?_⟩, fun next goes => (nomatch goes)⟩
              intro result done found same
              rw [← Iteration.done.inj done, Option.some.injEq] at same
              exact same ▸ stays
            · intro ⟨⟨_, found⟩, _⟩
              exact found _ rfl start rfl
        | false =>
            have passed : fine.sought start = false := by
              rw [← Bool.not_eq_true]
              intro sought
              exact Bool.false_ne_true (stop.symm.trans (stops start sought))
            have positive := coarse.positive start
            have later := ih (start + coarse.size start) (by omega)
            rw [staysInside_iff inside, passed, room start stop, body_passed inside stop, size, later]
            constructor
            · intro ⟨fits, _, rest⟩
              refine ⟨⟨fun _ _ => fits, fun result impossible => (nomatch impossible)⟩, ?_⟩
              intro next goes
              exact Iteration.more.inj goes ▸ rest rfl
            · intro ⟨⟨fits, _⟩, rest⟩
              exact ⟨fits inside rfl, fun impossible => (nomatch impossible), fun _ => rest _ rfl⟩
      · exact ih start (by omega)

end ElementSearch
