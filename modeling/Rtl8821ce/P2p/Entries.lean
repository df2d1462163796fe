import Rtl8821ce.P2p.ChannelList

/-!
# Entries that fill a channel list

The walk through the entries of an attribute stays inside its content and ends
exactly when the entries fill the content.  The channels of the entries may be
changed on the way.
-/

namespace Rtl8821ce
namespace P2p

variable {s t : Wdev} {stop place : Nat} {visit : Nat -> P2pProgram Bool}

/-- From a place on, entries fill the content; the channels stand at these places. -/
inductive Entries (mem : Nat -> UInt8) (stop : Nat) : Nat -> List Nat -> Prop
  | done : Entries mem stop stop []
  | entry {place : Nat} {rest : List Nat} (inside : place + (2 + (mem (place + 1)).toNat) ≤ stop)
      (more : Entries mem stop (place + (2 + (mem (place + 1)).toNat)) rest) :
      Entries mem stop place (List.range' (place + 2) (mem (place + 1)).toNat ++ rest)

theorem Entries.bounds {mem : Nat -> UInt8} {places : List Nat} (entries : Entries mem stop place places) :
    ∀ channel ∈ places, place + 2 ≤ channel ∧ channel < stop := by
  induction entries with
  | done => exact fun _ impossible => (nomatch impossible)
  | @entry place rest inside more ih =>
      intro channel member
      rcases List.mem_append.mp member with own | later
      · have bounds := List.mem_range'_1.mp own
        omega
      · have bounds := ih channel later
        omega

theorem Entries.congr {first second : Nat -> UInt8} {places : List Nat} (entries : Entries first stop place places)
    (same : ∀ p, place ≤ p -> p < stop -> p ∉ places -> second p = first p) : Entries second stop place places := by
  induction entries with
  | done => exact .done
  | @entry place rest inside more ih =>
      have outside : place + 1 ∉ List.range' (place + 2) (first (place + 1)).toNat ++ rest := by
        intro member
        rcases List.mem_append.mp member with own | later
        · have bounds := List.mem_range'_1.mp own
          omega
        · have bounds := more.bounds _ later
          omega
      have count : second (place + 1) = first (place + 1) := same _ (by omega) (by omega) outside
      have tail := ih (fun p behind before other => same p (by omega) before (fun member => by
        rcases List.mem_append.mp member with own | later
        · have bounds := List.mem_range'_1.mp own
          omega
        · exact other later))
      rw [← count] at inside tail ⊢
      exact .entry inside tail

theorem load_eq_ok {value : UInt8} :
    load stop place s = (.ok value, t) <-> place < stop ∧ t = s ∧ value = s.mem place := by
  unfold load
  rw [Program.require_bind_eq_ok, decide_eq_true_eq]
  refine and_congr_right (fun _ => ?_)
  rw [Program.get_bind_eq_ok, Program.pure_apply, Prod.mk.injEq, Except.ok.injEq]
  exact ⟨fun same => ⟨same.2.symm, same.1.symm⟩, fun same => ⟨same.2.symm, same.1.symm⟩⟩

theorem load_inside (inside : place < stop) : load stop place s = (.ok (s.mem place), s) :=
  load_eq_ok.mpr ⟨inside, rfl, rfl⟩

theorem store_eq_ok {value : UInt8} {result : PUnit} :
    store stop place value s = (.ok result, t) <->
      place < stop ∧ t = { s with mem := Function.update s.mem place value } := by
  unfold store
  rw [Program.require_bind_eq_ok, decide_eq_true_eq, Program.update_apply, Prod.mk.injEq]
  exact and_congr_right (fun _ => ⟨fun same => same.2.symm, fun same => ⟨rfl, same.symm⟩⟩)

/-- A channel outside the content is not touched, and no other byte is changed. -/
def Checked (stop : Nat) (visit : Nat -> P2pProgram Bool) : Prop :=
  ∀ s t place leave, visit place s = (.ok leave, t) ->
    place < stop ∧ ∀ p, p ≠ place -> t.mem p = s.mem p

def Live (stop : Nat) (visit : Nat -> P2pProgram Bool) : Prop :=
  ∀ s place, place < stop -> ∃ leave t, visit place s = (.ok leave, t)

def Plain (visit : Nat -> P2pProgram Bool) : Prop :=
  ∀ s t place leave, visit place s = (.ok leave, t) -> leave = false

def visit_each (visit : Nat -> P2pProgram Bool) : List Nat -> P2pProgram PUnit
  | [] => pure ⟨⟩
  | place :: rest => do
      let _ ← visit place
      visit_each visit rest

theorem visit_each_append (visit : Nat -> P2pProgram Bool) (first second : List Nat) :
    visit_each visit (first ++ second) = visit_each visit first >>= fun _ => visit_each visit second := by
  induction first with
  | nil => rfl
  | cons place rest ih =>
      rw [List.cons_append, visit_each, visit_each, ih, Program.bind_assoc]

theorem for_channels_eq (plain : Plain visit) (count place : Nat) :
    for_channels visit count place = visit_each visit (List.range' place count) := by
  induction count generalizing place with
  | zero => rfl
  | succ count ih =>
      rw [for_channels, List.range'_succ, visit_each]
      funext s
      rw [Program.bind_apply, Program.bind_apply]
      cases outcome : visit place s with
      | mk answer next =>
          cases answer with
          | error code => rfl
          | ok leave =>
              dsimp only
              rw [plain s next place leave outcome, if_neg Bool.false_ne_true, ih]

theorem for_channels_keeps (checked : Checked stop visit) {count : Nat} {result : PUnit}
    (success : for_channels visit count place s = (.ok result, t)) :
    ∀ p, p < place ∨ place + count ≤ p -> t.mem p = s.mem p := by
  induction count generalizing place s with
  | zero =>
      rw [for_channels, Program.pure_apply, Prod.mk.injEq] at success
      exact fun p _ => congrArg (fun s => s.mem p) success.2.symm
  | succ count ih =>
      rw [for_channels] at success
      rcases Program.bind_eq_ok.mp success with ⟨leave, next, visited, rest⟩
      have kept := (checked s next place leave visited).2
      intro p outside
      have here : next.mem p = s.mem p := kept p (by omega)
      cases leave with
      | true =>
          rw [if_pos rfl, Program.pure_apply, Prod.mk.injEq] at rest
          exact rest.2 ▸ here
      | false =>
          rw [if_neg Bool.false_ne_true] at rest
          exact (ih rest p (by omega)).trans here

theorem visit_each_keeps (checked : Checked stop visit) {places : List Nat} {result : PUnit}
    (success : visit_each visit places s = (.ok result, t)) : ∀ p, p ∉ places -> t.mem p = s.mem p := by
  induction places generalizing s with
  | nil =>
      rw [visit_each, Program.pure_apply, Prod.mk.injEq] at success
      exact fun p _ => congrArg (fun s => s.mem p) success.2.symm
  | cons place rest ih =>
      rw [visit_each] at success
      rcases Program.bind_eq_ok.mp success with ⟨leave, next, visited, later⟩
      intro p outside
      rw [List.mem_cons, not_or] at outside
      exact (ih later p outside.2).trans ((checked s next place leave visited).2 p outside.1)

theorem for_channels_live (live : Live stop visit) {count : Nat} (inside : place + count ≤ stop) (s : Wdev) :
    (for_channels visit count place).Succeeds s := by
  induction count generalizing place s with
  | zero => exact Program.succeeds_pure _ _
  | succ count ih =>
      rcases live s place (by omega) with ⟨leave, next, visited⟩
      rw [for_channels, Program.succeeds_bind_of_ok visited]
      cases leave with
      | true => exact Program.succeeds_pure _ _
      | false => exact ih (by omega) next

theorem u32_sub_of_le {first second : Nat} (small : first < 2 ^ 32) (le : second ≤ first) :
    u32_sub first second = first - second := by
  unfold u32_sub
  omega

theorem u32_sub_of_lt {first second : Nat} (lt : first < second) :
    u32_sub first second = first + 2 ^ 32 - second := by
  unfold u32_sub
  rw [Nat.mod_eq_of_lt (by omega)]

theorem walk_entries_more {fuel left : Nat} {result : PUnit} (more : 0 < left)
    (success : walk_entries stop visit (fuel + 1) place left s = (.ok result, t)) :
    place + 1 < stop ∧ ∃ next,
      for_channels visit (s.mem (place + 1)).toNat (place + 2) s = (.ok ⟨⟩, next) ∧
        walk_entries stop visit fuel (place + (2 + (s.mem (place + 1)).toNat))
          (u32_sub left (2 + (s.mem (place + 1)).toNat)) next = (.ok result, t) := by
  rw [walk_entries, if_pos more] at success
  rcases Program.bind_eq_ok.mp success with ⟨num_of_ch, same, loaded, rest⟩
  rcases load_eq_ok.mp loaded with ⟨inside, rfl, rfl⟩
  rcases Program.bind_eq_ok.mp rest with ⟨_, next, channels, later⟩
  exact ⟨inside, next, channels, later⟩

theorem walk_entries_far {fuel left : Nat} {result : PUnit} (small : left < 2 ^ 32) (near : place ≤ stop + 255)
    (far : stop + 255 < place + left) : walk_entries stop visit fuel place left s ≠ (.ok result, t) := by
  induction fuel generalizing place left s with
  | zero => exact fun impossible => (nomatch congrArg Prod.fst impossible)
  | succ fuel ih =>
      intro success
      rcases walk_entries_more (by omega) success with ⟨inside, next, _, later⟩
      have few := (s.mem (place + 1)).toNat_lt
      rw [u32_sub_of_le small (by omega)] at later
      exact ih (by omega) (by omega) (by omega) later

theorem entries_of_walk (checked : Checked stop visit) {fuel left : Nat} {result : PUnit} (small : left < 65536)
    (whole : place + left = stop) (success : walk_entries stop visit fuel place left s = (.ok result, t)) :
    ∃ places, Entries s.mem stop place places := by
  induction fuel generalizing place left s with
  | zero => exact absurd (congrArg Prod.fst success) nofun
  | succ fuel ih =>
      by_cases more : 0 < left
      · rcases walk_entries_more more success with ⟨inside, next, channels, later⟩
        have few := (s.mem (place + 1)).toNat_lt
        by_cases fits : 2 + (s.mem (place + 1)).toNat ≤ left
        · rw [u32_sub_of_le (by omega) fits] at later
          rcases ih (by omega) (by omega) later with ⟨places, entries⟩
          have kept := for_channels_keeps checked channels
          exact ⟨_, .entry (by omega) (entries.congr (fun p behind _ _ => (kept p (by omega)).symm))⟩
        · -- the remaining length wraps
          rw [u32_sub_of_lt (by omega)] at later
          exact absurd later (walk_entries_far (by omega) (by omega) (by omega))
      · have ended : place = stop := by omega
        exact ⟨[], ended ▸ .done⟩

theorem walk_entries_eq (checked : Checked stop visit) (plain : Plain visit) {mem : Nat -> UInt8} {places : List Nat}
    (entries : Entries mem stop place places) {fuel : Nat} (enough : stop - place < fuel)
    (small : stop - place < 2 ^ 32) (same : ∀ p, place ≤ p -> p < stop -> s.mem p = mem p) :
    walk_entries stop visit fuel place (stop - place) s = visit_each visit places s := by
  induction entries generalizing fuel s with
  | done =>
      rw [Nat.sub_self] at enough ⊢
      cases fuel with
      | zero => exact absurd enough (Nat.lt_irrefl 0)
      | succ fuel => rfl
  | @entry place rest inside more ih =>
      cases fuel with
      | zero => exact absurd enough (Nat.not_lt_zero _)
      | succ fuel =>
          have count : s.mem (place + 1) = mem (place + 1) := same _ (by omega) (by omega)
          rw [walk_entries, if_pos (by omega), Program.bind_of_ok (load_inside (by omega)), count,
            for_channels_eq plain, visit_each_append, u32_sub_of_le small (by omega)]
          rw [Program.bind_apply, Program.bind_apply]
          cases outcome : visit_each visit (List.range' (place + 2) (mem (place + 1)).toNat) s with
          | mk answer next =>
              cases answer with
              | error code => rfl
              | ok result =>
                  dsimp only
                  have kept := visit_each_keeps checked outcome
                  rw [show stop - place - (2 + (mem (place + 1)).toNat) =
                    stop - (place + (2 + (mem (place + 1)).toNat)) by omega]
                  refine ih (by omega) (by omega) (fun p behind before => ?_)
                  rw [← same p (by omega) before]
                  refine kept p (fun member => ?_)
                  have bounds := List.mem_range'_1.mp member
                  omega

theorem visit_each_of_walk (checked : Checked stop visit) (plain : Plain visit) {mem : Nat -> UInt8} {places : List Nat}
    (entries : Entries mem stop place places) {fuel : Nat} {result : PUnit} (small : stop - place < 2 ^ 32)
    (same : ∀ p, place ≤ p -> p < stop -> s.mem p = mem p)
    (success : walk_entries stop visit fuel place (stop - place) s = (.ok result, t)) :
    visit_each visit places s = (.ok result, t) := by
  induction entries generalizing fuel s with
  | done =>
      rw [Nat.sub_self] at success
      cases fuel with
      | zero => exact absurd (congrArg Prod.fst success) nofun
      | succ fuel => exact success
  | @entry place rest inside more ih =>
      cases fuel with
      | zero => exact absurd (congrArg Prod.fst success) nofun
      | succ fuel =>
          have count : s.mem (place + 1) = mem (place + 1) := same _ (by omega) (by omega)
          rcases walk_entries_more (by omega) success with ⟨_, next, channels, later⟩
          rw [count] at channels later
          rw [u32_sub_of_le small (by omega), show stop - place - (2 + (mem (place + 1)).toNat) =
            stop - (place + (2 + (mem (place + 1)).toNat)) by omega] at later
          have kept := for_channels_keeps checked channels
          rw [for_channels_eq plain] at channels
          rw [visit_each_append, Program.bind_of_ok channels]
          refine ih (by omega) (fun p behind before => ?_) later
          rw [← same p (by omega) before]
          exact kept p (by omega)

theorem walk_entries_live (checked : Checked stop visit) (live : Live stop visit) {mem : Nat -> UInt8}
    {places : List Nat} (entries : Entries mem stop place places) {fuel : Nat} (enough : stop - place < fuel)
    (small : stop - place < 2 ^ 32) (same : ∀ p, place ≤ p -> p < stop -> s.mem p = mem p) :
    (walk_entries stop visit fuel place (stop - place)).Succeeds s := by
  induction entries generalizing fuel s with
  | done =>
      rw [Nat.sub_self] at enough ⊢
      cases fuel with
      | zero => exact absurd enough (Nat.lt_irrefl 0)
      | succ fuel => exact Program.succeeds_pure _ _
  | @entry place rest inside more ih =>
      cases fuel with
      | zero => exact absurd enough (Nat.not_lt_zero _)
      | succ fuel =>
          have count : s.mem (place + 1) = mem (place + 1) := same _ (by omega) (by omega)
          rw [walk_entries, if_pos (by omega), Program.succeeds_bind_of_ok (load_inside (by omega)), count,
            u32_sub_of_le small (by omega)]
          have channels : (for_channels visit (mem (place + 1)).toNat (place + 2)).Succeeds s :=
            for_channels_live live (by omega) s
          rcases Program.succeeds_iff.mp channels with ⟨result, next, success⟩
          rw [Program.succeeds_bind_of_ok success]
          have kept := for_channels_keeps checked success
          rw [show stop - place - (2 + (mem (place + 1)).toNat) =
            stop - (place + (2 + (mem (place + 1)).toNat)) by omega]
          refine ih (by omega) (by omega) (fun p behind before => ?_)
          rw [← same p (by omega) before]
          exact kept p (by omega)

/-- A walk changes channels only. -/
theorem walk_entries_keeps (checked : Checked stop visit) {mem : Nat -> UInt8} {places : List Nat}
    (entries : Entries mem stop place places) {fuel : Nat} {result : PUnit} (small : stop - place < 2 ^ 32)
    (same : ∀ p, place ≤ p -> p < stop -> s.mem p = mem p)
    (success : walk_entries stop visit fuel place (stop - place) s = (.ok result, t)) :
    ∀ p, p ∉ places -> t.mem p = s.mem p := by
  induction entries generalizing fuel s with
  | done =>
      rw [Nat.sub_self] at success
      cases fuel with
      | zero => exact absurd (congrArg Prod.fst success) nofun
      | succ fuel => exact fun p _ => congrArg (fun s => s.mem p) (congrArg Prod.snd success).symm
  | @entry place rest inside more ih =>
      cases fuel with
      | zero => exact absurd (congrArg Prod.fst success) nofun
      | succ fuel =>
          have count : s.mem (place + 1) = mem (place + 1) := same _ (by omega) (by omega)
          rcases walk_entries_more (by omega) success with ⟨_, next, channels, later⟩
          rw [count] at channels later
          rw [u32_sub_of_le small (by omega), show stop - place - (2 + (mem (place + 1)).toNat) =
            stop - (place + (2 + (mem (place + 1)).toNat)) by omega] at later
          have kept := for_channels_keeps checked channels
          intro p outside
          rw [List.mem_append, not_or, List.mem_range'_1] at outside
          rw [ih (by omega) (fun q behind before => ?_) later p outside.2]
          · exact kept p (by omega)
          · rw [← same q (by omega) before]
            exact kept q (by omega)

end P2p
end Rtl8821ce
