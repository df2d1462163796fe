import Mathlib.Data.Nat.ModEq
import Mathlib.Logic.Function.Basic
import Mathlib.Tactic.Common

/-!
# Numbered requests on shared channels

Requests of several channels are numbered from one counter.  The record keeps
how many numbers were drawn, the latest one of each channel, and the requests
that were delivered.  The numbers on the wire are taken modulo a width; an
answer that is not older than the width cannot be taken for the answer to a
later request.
-/

universe u

/-- The history of a counter that numbers the requests of several channels. -/
structure Tickets (Channel : Type u) where
  drawn : Nat
  latest : Channel -> Option Nat
  delivered : List (Channel × Nat)

namespace Tickets

variable {Channel : Type u}

/-- Nothing was numbered yet. -/
def initial : Tickets Channel where
  drawn := 0
  latest := fun _ => none
  delivered := []

/-- A number that no channel keeps. -/
def skip (tickets : Tickets Channel) : Tickets Channel :=
  { tickets with drawn := tickets.drawn + 1 }

/-- The next number goes to a channel. -/
def draw [DecidableEq Channel] (tickets : Tickets Channel) (channel : Channel) : Tickets Channel :=
  { tickets with
    drawn := tickets.drawn + 1
    latest := Function.update tickets.latest channel (some tickets.drawn) }

/-- A numbered request reaches the other side. -/
def deliver (tickets : Tickets Channel) (channel : Channel) (number : Nat) : Tickets Channel :=
  { tickets with delivered := (channel, number) :: tickets.delivered }

/-- Numbers are drawn in order, and no delivered request is younger than the
latest of its channel. -/
structure Ordered (tickets : Tickets Channel) : Prop where
  below : ∀ channel number, tickets.latest channel = some number -> number < tickets.drawn
  known : ∀ channel number, (channel, number) ∈ tickets.delivered ->
    ∃ last, tickets.latest channel = some last ∧ number ≤ last

theorem ordered_initial : Ordered (initial : Tickets Channel) where
  below := fun _ _ drawn => nomatch drawn
  known := fun _ _ sent => nomatch sent

theorem Ordered.skip {tickets : Tickets Channel} (ordered : tickets.Ordered) : tickets.skip.Ordered where
  below := fun channel number last => Nat.lt_succ_of_lt (ordered.below channel number last)
  known := ordered.known

@[simp] theorem latest_draw_self [DecidableEq Channel] (tickets : Tickets Channel) (channel : Channel) :
    (tickets.draw channel).latest channel = some tickets.drawn :=
  Function.update_self channel _ _

theorem latest_draw_of_ne [DecidableEq Channel] (tickets : Tickets Channel) {channel other : Channel}
    (different : other ≠ channel) : (tickets.draw channel).latest other = tickets.latest other :=
  Function.update_of_ne different _ _

theorem Ordered.draw [DecidableEq Channel] {tickets : Tickets Channel} (ordered : tickets.Ordered)
    (channel : Channel) : (tickets.draw channel).Ordered where
  below := by
    intro other number last
    by_cases same : other = channel
    · subst same
      rw [latest_draw_self] at last
      exact (Option.some.inj last) ▸ Nat.lt_succ_self tickets.drawn
    · rw [latest_draw_of_ne tickets same] at last
      exact Nat.lt_succ_of_lt (ordered.below other number last)
  known := by
    intro other number sent
    rcases ordered.known other number sent with ⟨last, latest, older⟩
    by_cases same : other = channel
    · subst same
      exact ⟨tickets.drawn, latest_draw_self tickets other,
        Nat.le_trans older (Nat.le_of_lt (ordered.below other last latest))⟩
    · exact ⟨last, by rw [latest_draw_of_ne tickets same]; exact latest, older⟩

theorem Ordered.deliver {tickets : Tickets Channel} (ordered : tickets.Ordered) {channel : Channel}
    {number : Nat} (latest : tickets.latest channel = some number) : (tickets.deliver channel number).Ordered where
  below := ordered.below
  known := by
    intro other request sent
    rcases List.mem_cons.mp sent with same | before
    · rcases Prod.mk.inj same with ⟨rfl, rfl⟩
      exact ⟨request, latest, Nat.le_refl request⟩
    · exact ordered.known other request before

/-- Fewer than `width` later numbers: the number of a delivered request that is
not the latest of its channel differs from the latest number, also modulo
`width`. -/
theorem Ordered.stale_ne {tickets : Tickets Channel} (ordered : tickets.Ordered) {width : Nat}
    {channel : Channel} {number last : Nat} (sent : (channel, number) ∈ tickets.delivered)
    (latest : tickets.latest channel = some last) (stale : number ≠ last)
    (window : tickets.drawn ≤ number + width) : number % width ≠ last % width := by
  rcases ordered.known channel number sent with ⟨known, same, older⟩
  rw [latest] at same
  rcases Option.some.inj same with rfl
  have before : number < last := Nat.lt_of_le_of_ne older stale
  have near : last < number + width := Nat.lt_of_lt_of_le (ordered.below channel last latest) window
  intro equal
  have divides : width ∣ last - number := (Nat.modEq_iff_dvd' (Nat.le_of_lt before)).mp equal
  have large : width ≤ last - number := Nat.le_of_dvd (Nat.sub_pos_of_lt before) divides
  omega

end Tickets
