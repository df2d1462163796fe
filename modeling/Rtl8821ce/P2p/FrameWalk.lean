import Rtl8821ce.P2p.Entries

/-!
# The P2P elements of a frame

The elements are found one behind another.  What a function does to an element
leaves the bytes behind it alone, so the elements are those of the frame as it was.
-/

namespace Rtl8821ce
namespace P2p

open Scanner (Iteration scan Passes Throughout)

variable {fuel pattr ies : Nat} {attr_id : UInt8} {first second : Nat -> UInt8} {ies_len : Int}

variable {s t : Wdev}

/-! ## Attributes -/

def Lookup (mem : Nat -> UInt8) (ie : Nat × Nat) (attr_id : UInt8) (found : Option (Nat × Nat)) : Prop :=
  ∃ rounds, rtw_get_p2p_attr_content mem ie.1 ie.2 attr_id rounds = some found

def attr_body (mem : Nat -> UInt8) (ie : Nat × Nat) (attr_id : UInt8) : Nat -> Iteration Nat (Option (Nat × Nat)) :=
  (p2p_walk mem ie.1 ie.2).body attr_id.toNat

theorem get_attr_content_eq_ok {ie : Nat × Nat} {found : Option (Nat × Nat)} :
    get_attr_content fuel ie attr_id s = (.ok found, t) <->
      t = s ∧ rtw_get_p2p_attr_content s.mem ie.1 ie.2 attr_id fuel = some found := by
  unfold get_attr_content
  rw [Program.get_bind_eq_ok]
  cases rtw_get_p2p_attr_content s.mem ie.1 ie.2 attr_id fuel with
  | none => exact iff_of_false (fun impossible => (nomatch congrArg Prod.fst impossible)) (fun both => (nomatch both.2))
  | some content =>
      dsimp only
      rw [Program.pure_apply, Prod.mk.injEq, Except.ok.injEq, Option.some.injEq]
      exact ⟨fun same => ⟨same.2.symm, same.1⟩, fun same => ⟨same.2, same.1.symm⟩⟩

theorem Lookup.enough {mem : Nat -> UInt8} {ie : Nat × Nat} {found : Option (Nat × Nat)}
    (lookup : Lookup mem ie attr_id found) (enough : ie.2 < fuel) :
    rtw_get_p2p_attr_content mem ie.1 ie.2 attr_id fuel = some found := by
  rcases lookup with ⟨rounds, success⟩
  unfold rtw_get_p2p_attr_content rtw_get_p2p_attr AttrWalk.get at success ⊢
  cases element : is_p2p_ie mem ie.1 ie.2 with
  | false =>
      rw [element] at success
      exact success
  | true =>
      rw [element] at success
      simp only [Bool.not_true, Bool.false_eq_true, if_false] at success ⊢
      rcases Option.map_eq_some_iff.mp success with ⟨region, ended, content⟩
      have progress : ∀ state next, attr_body mem ie attr_id state = .more next ->
          next = state ∨ ie.1 + ie.2 - next < ie.1 + ie.2 - state := by
        intro state next goes
        rcases AttrWalk.body_more_iff.mp goes with ⟨more, _, _, same⟩
        have inside : state - ie.1 + 3 ≤ ie.2 := of_decide_eq_true more
        omega
      have long : 6 < ie.2 := by
        unfold is_p2p_ie at element
        rw [Bool.and_eq_true, Bool.not_eq_true', decide_eq_false_iff_not] at element
        omega
      rcases CheckedScan.exists_scan_of_progress (fun state => ie.1 + ie.2 - state) progress
        (show ie.1 + ie.2 - (ie.1 + 6) < fuel by omega) (CheckedScan.not_stuck_of_scan ended) with ⟨other, finished⟩
      have first := CheckedScan.scan_mono (Nat.le_max_left rounds fuel) ended
      have second := CheckedScan.scan_mono (Nat.le_max_right rounds fuel) finished
      rw [← content]
      exact congrArg (Option.map _) (finished.trans (second.symm.trans first))

theorem Lookup.unique {mem : Nat -> UInt8} {ie : Nat × Nat} {first second : Option (Nat × Nat)}
    (one : Lookup mem ie attr_id first) (two : Lookup mem ie attr_id second) : first = second :=
  Option.some.inj ((one.enough (Nat.lt_succ_self _)).symm.trans (two.enough (Nat.lt_succ_self _)))

theorem lookup_of_get {ie : Nat × Nat} {found : Option (Nat × Nat)}
    (success : get_attr_content fuel ie attr_id s = (.ok found, t)) : t = s ∧ Lookup s.mem ie attr_id found :=
  ⟨(get_attr_content_eq_ok.mp success).1, fuel, (get_attr_content_eq_ok.mp success).2⟩

theorem Lookup.get {ie : Nat × Nat} {found : Option (Nat × Nat)}
    (lookup : Lookup s.mem ie attr_id found) (enough : ie.2 < fuel) :
    get_attr_content fuel ie attr_id s = (.ok found, s) :=
  get_attr_content_eq_ok.mpr ⟨rfl, lookup.enough enough⟩

theorem Lookup.region {mem : Nat -> UInt8} {ie : Nat × Nat} {len : Nat}
    (lookup : Lookup mem ie attr_id (some (pattr, len))) :
    is_p2p_ie mem ie.1 ie.2 = true ∧
      ∃ attr, Passes (attr_body mem ie attr_id) (ie.1 + 6) attr ∧ pattr = attr + 3 ∧
        (mem attr).toNat = attr_id.toNat ∧
          (len + 3 = (p2p_walk mem ie.1 ie.2).attr_len attr ∧ pattr + len ≤ ie.1 + ie.2 ∨ 65536 ≤ len) ∧ len < 2 ^ 32 := by
  rcases lookup with ⟨rounds, success⟩
  unfold rtw_get_p2p_attr_content rtw_get_p2p_attr AttrWalk.get at success
  cases element : is_p2p_ie mem ie.1 ie.2 with
  | false =>
      rw [element] at success
      cases success
  | true =>
      rw [element] at success
      simp only [Bool.not_true, Bool.false_eq_true, if_false] at success
      rcases Option.map_eq_some_iff.mp success with ⟨region, ended, content⟩
      rcases Scanner.passes_of_scan ended with ⟨attr, passes, done⟩
      cases region with
      | none => cases content
      | some region =>
          rcases AttrWalk.body_found_iff.mp done with ⟨more, complete, target, same⟩
          have begins := AttrWalk.le_of_passes passes
          have size := (p2p_walk mem ie.1 ie.2).attr_len_cases attr
          have three : (p2p_walk mem ie.1 ie.2).header = 3 := rfl
          have fits : attr - ie.1 + (p2p_walk mem ie.1 ie.2).attr_len attr ≤ ie.2 := by
            have complete : (!decide (attr - ie.1 + (p2p_walk mem ie.1 ie.2).attr_len attr > ie.2)) = true := complete
            rw [Bool.not_eq_true', decide_eq_false_iff_not] at complete
            omega
          rw [same] at content
          unfold AttrWalk.content at content
          dsimp only at content
          split at content
          case isTrue => cases content
          case isFalse present =>
              have equal := Prod.mk.inj (Option.some.inj content)
              refine ⟨rfl, attr, passes, equal.1.symm.trans (congrArg _ three), target, ?_, ?_⟩
              · rw [three] at equal size
                have wraps := equal.2
                omega
              · rw [← equal.2]
                exact Nat.mod_lt _ (by decide)

theorem bytes_at_congr {place : Nat} {pattern : List UInt8}
    (same : ∀ p, place ≤ p -> p < place + pattern.length -> second p = first p) :
    bytes_at second place pattern = bytes_at first place pattern := by
  induction pattern generalizing place with
  | nil => rfl
  | cons byte rest ih =>
      rw [List.length_cons] at same
      rw [bytes_at, bytes_at, same place (Nat.le_refl _) (by omega),
        ih (fun p behind before => same p (by omega) (by omega))]

theorem rtw_get_p2p_attr_content_congr {ie : Nat × Nat} (oui : ∀ p, ie.1 ≤ p -> p < ie.1 + 6 -> second p = first p)
    (headers : ∀ attr, Passes (attr_body first ie attr_id) (ie.1 + 6) attr -> attr + 3 ≤ ie.1 + ie.2 ->
      ∀ p, attr ≤ p -> p < attr + 3 -> second p = first p) (rounds : Nat) :
    rtw_get_p2p_attr_content second ie.1 ie.2 attr_id rounds =
      rtw_get_p2p_attr_content first ie.1 ie.2 attr_id rounds := by
  have element : is_p2p_ie second ie.1 ie.2 = is_p2p_ie first ie.1 ie.2 := by
    have pattern : bytes_at second (ie.1 + 2) [0x50, 0x6F, 0x9A, 0x09] = bytes_at first (ie.1 + 2) [0x50, 0x6F, 0x9A, 0x09] :=
      bytes_at_congr (fun p behind before => oui p (by omega) before)
    unfold is_p2p_ie is_vendor_ie
    rw [oui ie.1 (Nat.le_refl _) (by omega), pattern]
  have content : (p2p_walk second ie.1 ie.2).content = (p2p_walk first ie.1 ie.2).content := rfl
  unfold rtw_get_p2p_attr_content rtw_get_p2p_attr AttrWalk.get
  rw [element, content]
  split
  case isTrue => rfl
  case isFalse =>
    refine congrArg _ (Scanner.scan_congr (fun attr passes => ?_) rounds)
    have begins := AttrWalk.le_of_passes passes
    by_cases more : attr + 3 ≤ ie.1 + ie.2
    case neg =>
      have ended : decide (attr - ie.1 + 3 ≤ ie.2) = false := decide_eq_false (by omega)
      have past : (p2p_walk second ie.1 ie.2).more attr = false := ended
      have last : (p2p_walk first ie.1 ie.2).more attr = false := ended
      unfold AttrWalk.body
      dsimp only
      rw [past, last]
      rfl
    have same := headers attr passes more
    have id : second attr = first attr := same attr (Nat.le_refl _) (by omega)
    have length : RTW_GET_LE16 second (attr + 1) = RTW_GET_LE16 first (attr + 1) := by
      unfold RTW_GET_LE16
      rw [same (attr + 1) (by omega) (by omega), same (attr + 1 + 1) (by omega) (by omega)]
    have name : (p2p_walk second ie.1 ie.2).attr_id attr = (p2p_walk first ie.1 ie.2).attr_id attr :=
      congrArg UInt8.toNat id
    have size : (p2p_walk second ie.1 ie.2).attr_len attr = (p2p_walk first ie.1 ie.2).attr_len attr :=
      congrArg (fun length => (length + 3) % 65536) length
    unfold AttrWalk.body
    dsimp only
    rw [size]
    simp only [name]
    rfl

theorem Lookup.congr {first second : Nat -> UInt8} {ie : Nat × Nat} {attr_id : UInt8} {found : Option (Nat × Nat)}
    (oui : ∀ p, ie.1 ≤ p -> p < ie.1 + 6 -> second p = first p)
    (headers : ∀ attr, Passes (attr_body first ie attr_id) (ie.1 + 6) attr -> attr + 3 ≤ ie.1 + ie.2 ->
      ∀ p, attr ≤ p -> p < attr + 3 -> second p = first p) :
    Lookup second ie attr_id found <-> Lookup first ie attr_id found :=
  exists_congr fun rounds => by rw [rtw_get_p2p_attr_content_congr oui headers]

theorem Lookup.local_ {ie : Nat × Nat} {found : Option (Nat × Nat)}
    (same : ∀ p, ie.1 ≤ p -> second p = first p) : Lookup second ie attr_id found <-> Lookup first ie attr_id found :=
  Lookup.congr (fun p behind _ => same p behind) (fun attr passes _ p behind _ => by
    have begins := AttrWalk.le_of_passes passes
    exact same p (by omega))

theorem passes_beside {mem : Nat -> UInt8} {ie : Nat × Nat} {other : UInt8} {attr place : Nat}
    (passes : Passes (attr_body mem ie attr_id) (ie.1 + 6) attr)
    (comes : Passes (attr_body mem ie other) (ie.1 + 6) place) :
    place ≤ attr ∨ attr + (p2p_walk mem ie.1 ie.2).attr_len attr ≤ place := by
  have both : Passes (attr_body mem ie attr_id) place attr ∨ attr + (p2p_walk mem ie.1 ie.2).attr_len attr ≤ place := by
    induction comes with
    | refl => exact Or.inl passes
    | @tail state next _ goes ih =>
        have step := (AttrWalk.body_more_iff.mp goes).2.2.2
        rcases ih with before | behind
        · rcases Relation.ReflTransGen.cases_head before with same | ⟨further, onward, rest⟩
          · exact Or.inr (same ▸ Nat.le_of_eq step.symm)
          · have same := (AttrWalk.body_more_iff.mp onward).2.2.2
            exact Or.inl ((same.trans step.symm) ▸ rest)
        · exact Or.inr (by omega)
  rcases both with before | behind
  · exact Or.inl (AttrWalk.le_of_passes before)
  · exact Or.inr behind

theorem Lookup.disjoint {mem : Nat -> UInt8} {ie : Nat × Nat} {other : UInt8} {first second : Nat × Nat}
    (one : Lookup mem ie attr_id (some first)) (two : Lookup mem ie other (some second)) (different : attr_id ≠ other)
    (small : first.2 < 65536) (short : second.2 < 65536) :
    first.1 + first.2 ≤ second.1 ∨ second.1 + second.2 ≤ first.1 := by
  rcases one.region with ⟨_, attr, passes, place, name, size, _⟩
  rcases two.region with ⟨_, at_, comes, spot, title, extent, _⟩
  have apart : attr ≠ at_ := by
    intro same
    rw [same, title] at name
    exact different (UInt8.toNat_inj.mp name.symm)
  have begins := passes_beside passes comes
  have ends := passes_beside comes passes
  omega

theorem Lookup.beside {ie : Nat × Nat} {other : UInt8} {len : Nat}
    {found : Option (Nat × Nat)} (lookup : Lookup first ie attr_id (some (pattr, len))) (small : len < 65536)
    (same : ∀ p, p < pattr ∨ pattr + len ≤ p -> second p = first p) :
    Lookup second ie other found <-> Lookup first ie other found := by
  rcases lookup.region with ⟨_, attr, passes, place, _, size, _⟩
  have begins := AttrWalk.le_of_passes passes
  refine Lookup.congr (fun p _ before => same p (by omega)) (fun at_ comes _ p behind before => same p ?_)
  rcases passes_beside passes comes with earlier | later
  · exact Or.inl (by omega)
  · exact Or.inr (by omega)

/-- The search for the attribute ends, and entries fill the content that it finds. -/
def ListSound (mem : Nat -> UInt8) (ie : Nat × Nat) : Prop :=
  ∃ found, Lookup mem ie P2P_ATTR_CH_LIST found ∧
    ∀ pattr len, found = some (pattr, len) ->
      len < 65536 ∧ 3 ≤ len ∧ ∃ places, Entries mem (pattr + len) (pattr + 3) places

theorem Lookup.inside {mem : Nat -> UInt8} {ie : Nat × Nat} {len : Nat}
    (lookup : Lookup mem ie attr_id (some (pattr, len))) (small : len < 65536) :
    ie.1 + 9 ≤ pattr ∧ pattr + len ≤ ie.1 + ie.2 := by
  rcases lookup.region with ⟨_, attr, passes, place, _, size, _⟩
  have begins := AttrWalk.le_of_passes passes
  omega

theorem content_stop_eq {len : Nat} (small : len < 65536) : content_stop (pattr, len) = pattr + len :=
  if_pos small

variable {visit : Nat -> Nat -> P2pProgram Bool} {ie : Nat × Nat}

theorem walk_ch_list_of_ok {result : PUnit} (success : walk_ch_list fuel visit ie s = (.ok result, t)) :
    ∃ found, Lookup s.mem ie P2P_ATTR_CH_LIST found ∧
      (found = none -> t = s) ∧
      ∀ pattr len, found = some (pattr, len) -> len < 65536 ∧ 3 ≤ len ∧
        walk_entries (pattr + len) (visit (pattr + len)) fuel (pattr + 3) (len - 3) s = (.ok result, t) := by
  unfold walk_ch_list at success
  rcases Program.bind_eq_ok.mp success with ⟨found, same, looked, rest⟩
  rcases lookup_of_get looked with ⟨rfl, lookup⟩
  refine ⟨found, lookup, ?_, ?_⟩
  · intro nothing
    rw [nothing] at rest
    exact (congrArg Prod.snd rest).symm
  · intro pattr len here
    rw [here] at rest lookup
    dsimp only at rest
    rcases lookup.region with ⟨_, _, _, _, _, _, below⟩
    cases fuel with
    | zero => exact absurd (congrArg Prod.fst rest) nofun
    | succ fuel =>
        by_cases small : len < 65536
        · rw [content_stop_eq small] at rest
          by_cases long : 3 ≤ len
          · rw [u32_sub_of_le below long] at rest
            exact ⟨small, long, rest⟩
          · have more : 0 < u32_sub len 3 := by
              rw [u32_sub_of_lt (by omega)]
              omega
            have inside := (walk_entries_more more rest).1
            omega
        · have more : 0 < u32_sub len 3 := by
            rw [u32_sub_of_le below (by omega)]
            omega
          have inside := (walk_entries_more more rest).1
          unfold content_stop at inside
          dsimp only at inside
          rw [if_neg small] at inside
          omega

theorem listSound_of_walk (checked : ∀ stop, Checked stop (visit stop)) {result : PUnit}
    (success : walk_ch_list fuel visit ie s = (.ok result, t)) : ListSound s.mem ie := by
  rcases walk_ch_list_of_ok success with ⟨found, lookup, _, walked⟩
  refine ⟨found, lookup, fun pattr len here => ?_⟩
  rcases walked pattr len here with ⟨small, long, success⟩
  exact ⟨small, long, entries_of_walk (checked _) (by omega) (by omega) success⟩

theorem walk_ch_list_keeps (checked : ∀ stop, Checked stop (visit stop)) {result : PUnit}
    (success : walk_ch_list fuel visit ie s = (.ok result, t)) :
    ∀ p, (∀ pattr len places, Lookup s.mem ie P2P_ATTR_CH_LIST (some (pattr, len)) ->
      Entries s.mem (pattr + len) (pattr + 3) places -> p ∉ places) -> t.mem p = s.mem p := by
  rcases walk_ch_list_of_ok success with ⟨found, lookup, nothing, walked⟩
  intro p outside
  cases found with
  | none => rw [nothing rfl]
  | some content =>
      rcases content with ⟨pattr, len⟩
      rcases walked pattr len rfl with ⟨small, long, success⟩
      rcases entries_of_walk (checked _) (by omega) (by omega) success with ⟨places, entries⟩
      rw [show len - 3 = pattr + len - (pattr + 3) by omega] at success
      exact walk_entries_keeps (checked _) entries (by omega) (fun _ _ _ => rfl) success p
        (outside pattr len places lookup entries)

theorem walk_ch_list_outside (checked : ∀ stop, Checked stop (visit stop)) {result : PUnit}
    (success : walk_ch_list fuel visit ie s = (.ok result, t)) {p : Nat} (outside : p < ie.1 + 9 ∨ ie.1 + ie.2 ≤ p) :
    t.mem p = s.mem p := by
  refine walk_ch_list_keeps checked success p (fun pattr len places lookup entries member => ?_)
  rcases walk_ch_list_of_ok success with ⟨found, other, _, walked⟩
  have small := (walked pattr len (other.unique lookup)).1
  have inside := lookup.inside small
  have bounds := entries.bounds p member
  omega

theorem walk_ch_list_live (checked : ∀ stop, Checked stop (visit stop)) (live : ∀ stop, Live stop (visit stop))
    (sound : ListSound s.mem ie) (enough : ie.2 + 65536 < fuel) : (walk_ch_list fuel visit ie).Succeeds s := by
  rcases sound with ⟨found, lookup, filled⟩
  unfold walk_ch_list
  rw [Program.succeeds_bind_of_ok (lookup.get (by omega))]
  cases found with
  | none => exact Program.succeeds_pure _ _
  | some content =>
      rcases content with ⟨pattr, len⟩
      rcases filled pattr len rfl with ⟨small, long, places, entries⟩
      dsimp only
      rw [content_stop_eq small, u32_sub_of_le (by omega) long, show len - 3 = pattr + len - (pattr + 3) by omega]
      exact walk_entries_live (checked _) (live _) entries (by omega) (by omega) (fun _ _ _ => rfl)

def P2P_OUI : List UInt8 := [0x50, 0x6F, 0x9A, 0x09]

theorem rtw_get_p2p_ie_some {mem : Nat -> UInt8} {in_ie : Nat} {in_len : Int}
    (found : rtw_get_p2p_ie mem in_ie in_len = some ie) :
    in_ie ≤ ie.1 ∧ (ie.1 : Int) - in_ie + 5 < in_len ∧ ie.2 = ie_size mem ie.1 ∧ is_vendor_ie mem ie.1 P2P_OUI = true := by
  unfold rtw_get_p2p_ie at found
  cases ended : Scanner.scan (rtw_get_p2p_ie_body mem in_ie in_len) (in_len.toNat + 1) 0 with
  | none =>
      rw [ended] at found
      cases found
  | some result =>
      rw [ended, Option.getD_some] at found
      rcases Scanner.passes_of_scan ended with ⟨cnt, _, done⟩
      rw [found] at done
      unfold rtw_get_p2p_ie_body at done
      split at done
      case isFalse => cases done
      case isTrue inside =>
        split at done
        case isTrue => cases done
        case isFalse =>
          split at done
          case isFalse => cases done
          case isTrue vendor =>
            have same := Option.some.inj (Iteration.done.inj done)
            rw [← same]
            refine ⟨Nat.le_add_right _ _, ?_, rfl, vendor⟩
            push_cast
            omega

theorem ie_size_congr {place : Nat} (same : second (place + 1) = first (place + 1)) :
    ie_size second place = ie_size first place := by
  unfold ie_size
  rw [same]

theorem rtw_get_p2p_ie_congr {first second : Nat -> UInt8} {in_ie : Nat} {in_len : Int}
    (same : ∀ p, in_ie ≤ p -> second p = first p) :
    rtw_get_p2p_ie second in_ie in_len = rtw_get_p2p_ie first in_ie in_len := by
  unfold rtw_get_p2p_ie
  refine congrArg (fun result => Option.getD result none) (Scanner.scan_congr (fun cnt _ => ?_) _)
  have vendor : is_vendor_ie second (in_ie + cnt) [0x50, 0x6F, 0x9A, 0x09] =
      is_vendor_ie first (in_ie + cnt) [0x50, 0x6F, 0x9A, 0x09] := by
    unfold is_vendor_ie
    rw [same _ (Nat.le_add_right _ _), bytes_at_congr (fun p behind _ => same p (by omega))]
  have size : ie_size second (in_ie + cnt) = ie_size first (in_ie + cnt) := ie_size_congr (same _ (by omega))
  unfold rtw_get_p2p_ie_body
  dsimp only
  rw [vendor, size]

def p2p_ies (mem : Nat -> UInt8) (ies : Nat) (ies_len : Int) : Nat -> Option (Nat × Nat) -> List (Nat × Nat)
  | 0, _ => []
  | _ + 1, none => []
  | fuel + 1, some ie =>
      ie :: p2p_ies mem ies ies_len fuel (rtw_get_p2p_ie mem (ie.1 + ie.2) (ies_len - ((ie.1 : Int) - ies + ie.2)))

theorem p2p_ies_congr {first second : Nat -> UInt8} {ies low : Nat} {ies_len : Int}
    (same : ∀ p, low ≤ p -> second p = first p) (fuel : Nat) {start : Option (Nat × Nat)}
    (behind : ∀ ie, start = some ie -> low ≤ ie.1) :
    p2p_ies second ies ies_len fuel start = p2p_ies first ies ies_len fuel start ∧
      ∀ ie ∈ p2p_ies first ies ies_len fuel start, low ≤ ie.1 := by
  induction fuel generalizing start with
  | zero => exact ⟨rfl, fun _ impossible => (nomatch impossible)⟩
  | succ fuel ih =>
      cases start with
      | none => exact ⟨rfl, fun _ impossible => (nomatch impossible)⟩
      | some ie =>
          have here := behind ie rfl
          have found := @rtw_get_p2p_ie_congr first second (ie.1 + ie.2) (ies_len - ((ie.1 : Int) - ies + ie.2))
            (fun p later => same p (by omega))
          have rest := @ih (rtw_get_p2p_ie first (ie.1 + ie.2) (ies_len - ((ie.1 : Int) - ies + ie.2)))
            (fun next found => by
              have later := (rtw_get_p2p_ie_some found).1
              omega)
          refine ⟨?_, ?_⟩
          · rw [p2p_ies, p2p_ies, found, rest.1]
          · intro other member
            rw [p2p_ies] at member
            rcases List.mem_cons.mp member with same | later
            · exact same ▸ here
            · exact rest.2 other later

section loop

variable {action : Nat × Nat -> P2pProgram PUnit} {condition : (Nat -> UInt8) -> Nat × Nat -> Prop}

theorem condition_of_each (step : ∀ s t ie result, action ie s = (.ok result, t) ->
      condition s.mem ie ∧ ∀ p, ie.1 + ie.2 ≤ p -> t.mem p = s.mem p)
    (local_ : ∀ first second ie, (∀ p, ie.1 ≤ p -> second p = first p) -> condition first ie -> condition second ie) {start : Option (Nat × Nat)} {result : PUnit}
    (success : each_p2p_ie ies ies_len action fuel start s = (.ok result, t)) (more : Nat) :
    ∀ ie ∈ p2p_ies s.mem ies ies_len more start, condition s.mem ie := by
  induction fuel generalizing start s more with
  | zero => exact absurd (congrArg Prod.fst success) nofun
  | succ fuel ih =>
      cases start with
      | none =>
          cases more with
          | zero => exact fun _ impossible => (nomatch impossible)
          | succ more => exact fun _ impossible => (nomatch impossible)
      | some ie =>
          cases more with
          | zero => exact fun _ impossible => (nomatch impossible)
          | succ more =>
              rw [each_p2p_ie] at success
              rcases Program.bind_eq_ok.mp success with ⟨_, next, acted, rest⟩
              rw [Program.get_bind_eq_ok] at rest
              rcases step s next ie _ acted with ⟨here, kept⟩
              rw [rtw_get_p2p_ie_congr kept] at rest
              have elements := @p2p_ies_congr s.mem next.mem ies (ie.1 + ie.2) ies_len kept more
                (rtw_get_p2p_ie s.mem (ie.1 + ie.2) (ies_len - ((ie.1 : Int) - ies + ie.2)))
                (fun other found => (rtw_get_p2p_ie_some found).1)
              intro other member
              rw [p2p_ies] at member
              rcases List.mem_cons.mp member with same | later
              · exact same ▸ here
              · have holds := ih rest more other (elements.1 ▸ later)
                have behind := elements.2 other later
                exact local_ next.mem s.mem other (fun p past => (kept p (by omega)).symm) holds

/-- A loop whose actions leave the headers of their elements alone leaves the bytes
before the first attribute alone. -/
theorem each_keeps (step : ∀ s t ie result, action ie s = (.ok result, t) ->
      ∀ p, p < ie.1 + 9 ∨ ie.1 + ie.2 ≤ p -> t.mem p = s.mem p) {start : Option (Nat × Nat)} {result : PUnit}
    (success : each_p2p_ie ies ies_len action fuel start s = (.ok result, t)) {p : Nat}
    (before : ∀ ie, start = some ie -> p < ie.1 + 9) : t.mem p = s.mem p := by
  induction fuel generalizing start s with
  | zero => exact absurd (congrArg Prod.fst success) nofun
  | succ fuel ih =>
      cases start with
      | none => exact congrArg (fun s => s.mem p) (congrArg Prod.snd success).symm
      | some ie =>
          rw [each_p2p_ie] at success
          rcases Program.bind_eq_ok.mp success with ⟨_, next, acted, rest⟩
          rw [Program.get_bind_eq_ok] at rest
          have here := before ie rfl
          rw [ih rest (fun other found => ?_), step s next ie _ acted p (Or.inl here)]
          have later := (rtw_get_p2p_ie_some found).1
          omega

def left_at (ies : Nat) (ies_len : Int) : Option (Nat × Nat) -> Nat
  | none => 0
  | some ie => (ies_len - ((ie.1 : Int) - ies)).toNat

theorem left_at_next {mem : Nat -> UInt8} {ies : Nat} {ies_len : Int} (inside : (ie.1 : Int) - ies + 5 < ies_len) :
    left_at ies ies_len (rtw_get_p2p_ie mem (ie.1 + ie.2) (ies_len - ((ie.1 : Int) - ies + ie.2))) <
        left_at ies ies_len (some ie) ∨ ie.2 = 0 := by
  cases found : rtw_get_p2p_ie mem (ie.1 + ie.2) (ies_len - ((ie.1 : Int) - ies + ie.2)) with
  | none =>
      refine Or.inl ?_
      unfold left_at
      dsimp only
      omega
  | some next =>
      have later := rtw_get_p2p_ie_some found
      unfold left_at
      dsimp only
      omega

/-- The loop ends when the condition holds for its elements. -/
theorem each_of_condition {bound : Nat}
    (live : ∀ s ie, ie.2 ≤ 257 -> condition s.mem ie -> ∃ t, action ie s = (.ok ⟨⟩, t) ∧
      ∀ p, ie.1 + ie.2 ≤ p -> t.mem p = s.mem p)
    (local_ : ∀ first second ie, (∀ p, ie.1 ≤ p -> second p = first p) -> condition first ie -> condition second ie) {start : Option (Nat × Nat)} (enough : left_at ies ies_len start < fuel)
    (listed : left_at ies ies_len start < bound) (element : ∀ ie, start = some ie ->
      (ie.1 : Int) - ies + 5 < ies_len ∧ ie.2 = ie_size s.mem ie.1)
    (all : ∀ ie ∈ p2p_ies s.mem ies ies_len bound start, condition s.mem ie) :
    ∃ t, each_p2p_ie ies ies_len action fuel start s = (.ok ⟨⟩, t) := by
  induction fuel generalizing start s bound with
  | zero => exact absurd enough (Nat.not_lt_zero _)
  | succ fuel ih =>
      cases start with
      | none => exact ⟨s, rfl⟩
      | some ie =>
          cases bound with
          | zero => exact absurd listed (Nat.not_lt_zero _)
          | succ bound =>
              have here := element ie rfl
              have two : 2 ≤ ie.2 ∧ ie.2 ≤ 257 := by
                have few := (s.mem (ie.1 + 1)).toNat_lt
                have size := here.2
                unfold ie_size at size
                omega
              have smaller := @left_at_next ie s.mem ies ies_len here.1
              rw [p2p_ies] at all
              rcases live s ie two.2 (all ie List.mem_cons_self) with ⟨next, acted, kept⟩
              rw [each_p2p_ie, Program.bind_of_ok acted, Program.bind_of_ok (Program.get_apply next),
                rtw_get_p2p_ie_congr kept]
              have elements := @p2p_ies_congr s.mem next.mem ies (ie.1 + ie.2) ies_len kept bound
                (rtw_get_p2p_ie s.mem (ie.1 + ie.2) (ies_len - ((ie.1 : Int) - ies + ie.2)))
                (fun other found => (rtw_get_p2p_ie_some found).1)
              refine @ih next bound _ (by omega) (by omega) (fun other found => ?_)
                (fun other member => ?_)
              · have later := rtw_get_p2p_ie_some found
                refine ⟨by omega, ?_⟩
                rw [later.2.2.1, ie_size_congr (kept _ (by omega))]
              · have behind := elements.2 other (elements.1 ▸ member)
                exact local_ s.mem next.mem other (fun p past => kept p (by omega))
                  (all other (List.mem_cons_of_mem _ (elements.1 ▸ member)))

end loop

end P2p
end Rtl8821ce
