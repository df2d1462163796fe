import Rtl8821ce.Br.Nat25Access
import Rtl8821ce.Library.CheckedScan
import Rtl8821ce.Library.ElementSearch

/-!
# The loops of NAT2.5

The loop over the PPPoE tags and the loop over the options of neighbour discovery
take their steps from the frame.  A tag has at least its header, so the first loop
ends; an option may claim the length 0, and then the second does not.
-/

namespace Rtl8821ce
namespace BrExt

open Program (bind_of_error bind_of_ok succeeds_iff)

open CheckedScan (checked)
open Scanner (Iteration scan Passes Throughout)

variable {fuel : Nat} {tag : UInt8}

variable {s : Bridge} {Value : Type}

theorem succeeds_checked {State : Type} {Result : Type} {body : State -> Iteration State Result}
    {safe : State -> Bool} {state : State} {rest : Result -> BrProgram Value} :
    (checked body safe Fault.outside Fault.endless fuel state >>= rest).Succeeds s <->
      Throughout body (fun state => safe state = true) state ∧
        ∃ result, scan body fuel state = some result ∧ (rest result).Succeeds s := by
  constructor
  · intro success
    rcases succeeds_iff.mp success with ⟨value, final, ran⟩
    rcases Program.bind_eq_ok.mp ran with ⟨result, next, head, tail⟩
    rcases CheckedScan.checked_eq_ok.mp head with ⟨same, stays, ended⟩
    exact ⟨stays, result, ended, same ▸ succeeds_iff.mpr ⟨value, final, tail⟩⟩
  · intro ⟨stays, result, ended, tail⟩
    exact (Program.succeeds_bind_of_ok (CheckedScan.checked_eq_ok.mpr ⟨rfl, stays, ended⟩)).mpr tail

def tag_search (data : Nat -> UInt8) (type : Nat) : ElementSearch.Search where
  size place := TAG_HDR_LEN + be16 data (place + 2)
  positive _ := Nat.add_pos_left (by decide) _
  sought place := decide (be16 data place = type)
  room _ := TAG_HDR_LEN

/-- Where the tags end, as the header of the frame has it. -/
def tags_end (data : Nat -> UInt8) : Nat := 20 + be16 data 18

def tag_body (data : Nat -> UInt8) (type : Nat) : Nat -> Iteration Nat (Option Nat) :=
  ElementSearch.body (tag_search data type) (tags_end data)

/-- The headers of the tags, up to the first of the type, are in the frame. -/
def TagsInside (skb : SkBuff) (type : Nat) : Prop :=
  ∀ place, Passes (tag_body skb.data type) 20 place -> place < tags_end skb.data -> place + 4 ≤ skb.len

def first_tag (skb : SkBuff) (type : Nat) : Option Nat :=
  (scan (tag_body skb.data type) (tags_end skb.data + 1) 20).getD none

theorem find_pppoe_tag_eq_checked (eth : 20 ≤ s.skb.len) (type fuel cur : Nat) :
    __nat25_find_pppoe_tag type fuel cur s =
      checked (tag_body s.skb.data type)
        (fun place => decide (place < tags_end s.skb.data -> place + 4 ≤ s.skb.len))
        Fault.outside Fault.endless fuel (20 + cur) s := by
  induction fuel generalizing cur with
  | zero => rfl
  | succ fuel ih =>
      have refused : ∀ place, ¬ place + 2 ≤ s.skb.len -> load_be16 place s = (.error Fault.outside, s) := by
        intro place short
        rw [load_be16, inside, Program.bind_assoc, bind_of_ok (Program.get_apply s), decide_eq_false short]
        rfl
      unfold __nat25_find_pppoe_tag checked
      rw [bind_of_ok (load_be16_ok eth)]
      unfold tag_body
      by_cases more : cur < be16 s.skb.data 18
      · have below : 20 + cur < tags_end s.skb.data := Nat.add_lt_add_left more 20
        rw [if_pos more]
        by_cases room : 20 + cur + 4 ≤ s.skb.len
        · have safe : decide (20 + cur < tags_end s.skb.data -> 20 + cur + 4 ≤ s.skb.len) = true :=
            decide_eq_true (fun _ => room)
          rw [bind_of_ok (@load_be16_ok s (20 + cur) (by omega)), bind_of_ok (@load_be16_ok s (20 + cur + 2) (by omega)),
            if_pos safe]
          by_cases wanted : be16 s.skb.data (20 + cur) = type
          · rw [if_pos wanted, ElementSearch.body_sought below (decide_eq_true wanted)]
          · rw [if_neg wanted, ElementSearch.body_passed below (decide_eq_false wanted), ih,
              Nat.add_assoc cur, ← Nat.add_assoc 20]
            rfl
        · have stuck : ¬ decide (20 + cur < tags_end s.skb.data -> 20 + cur + 4 ≤ s.skb.len) = true :=
            fun safe => room (of_decide_eq_true safe below)
          rw [if_neg stuck]
          by_cases early : 20 + cur + 2 ≤ s.skb.len
          · rw [bind_of_ok (load_be16_ok early), bind_of_error (refused (20 + cur + 2) (by omega))]
            rfl
          · rw [bind_of_error (refused _ early)]
            rfl
      · have behind : tags_end s.skb.data ≤ 20 + cur := Nat.add_le_add_left (Nat.not_lt.mp more) 20
        have safe : decide (20 + cur < tags_end s.skb.data -> 20 + cur + 4 ≤ s.skb.len) = true :=
          decide_eq_true (fun below => absurd below (Nat.not_lt.mpr behind))
        rw [if_neg more, if_pos safe, ElementSearch.body_ended behind]

theorem scan_first_tag (skb : SkBuff) (type : Nat) {result : Option Nat}
    (ended : scan (tag_body skb.data type) fuel 20 = some result) : result = first_tag skb type := by
  have decreases := ElementSearch.body_decreases (tag_search skb.data type) (tags_end skb.data)
  rcases Scanner.exists_scan (fun place => tags_end skb.data - place) decreases
    (show tags_end skb.data - 20 < tags_end skb.data + 1 by omega) with ⟨found, finished⟩
  have here : first_tag skb type = found := by
    rw [first_tag, tag_body, finished]
    rfl
  have first := CheckedScan.scan_mono (Nat.le_max_left fuel (tags_end skb.data + 1)) ended
  have second := CheckedScan.scan_mono (Nat.le_max_right fuel (tags_end skb.data + 1)) finished
  exact here ▸ Option.some.inj (first.symm.trans second)

theorem exists_scan_first_tag (skb : SkBuff) (type : Nat) :
    scan (tag_body skb.data type) (tags_end skb.data + 1) 20 = some (first_tag skb type) := by
  have decreases := ElementSearch.body_decreases (tag_search skb.data type) (tags_end skb.data)
  rcases Scanner.exists_scan (fun place => tags_end skb.data - place) decreases
    (show tags_end skb.data - 20 < tags_end skb.data + 1 by omega) with ⟨found, finished⟩
  have finished : scan (tag_body skb.data type) (tags_end skb.data + 1) 20 = some found := finished
  rw [finished, scan_first_tag skb type finished]

theorem succeeds_find_pppoe_tag {type : Nat} {rest : Option Nat -> BrProgram Value} :
    (∃ fuel, (__nat25_find_pppoe_tag type fuel 0 >>= rest).Succeeds s) <->
      20 ≤ s.skb.len ∧ TagsInside s.skb type ∧ (rest (first_tag s.skb type)).Succeeds s := by
  by_cases eth : 20 ≤ s.skb.len
  · rw [and_iff_right eth]
    have step : ∀ fuel, (__nat25_find_pppoe_tag type fuel 0 >>= rest).Succeeds s <->
        Throughout (tag_body s.skb.data type)
            (fun place => decide (place < tags_end s.skb.data -> place + 4 ≤ s.skb.len) = true) 20 ∧
          ∃ result, scan (tag_body s.skb.data type) fuel 20 = some result ∧ (rest result).Succeeds s := by
      intro fuel
      rw [← succeeds_checked]
      unfold Program.Succeeds
      rw [Program.bind_apply, Program.bind_apply, find_pppoe_tag_eq_checked eth]
    have same : Throughout (tag_body s.skb.data type)
        (fun place => decide (place < tags_end s.skb.data -> place + 4 ≤ s.skb.len) = true) 20 <->
          TagsInside s.skb type :=
      forall_congr' fun place => imp_congr_right fun _ => decide_eq_true_iff
    constructor
    · intro ⟨fuel, success⟩
      rcases (step fuel).mp success with ⟨safe, result, ended, tail⟩
      exact ⟨same.mp safe, scan_first_tag s.skb type ended ▸ tail⟩
    · intro ⟨safe, tail⟩
      exact ⟨_, (step _).mpr ⟨same.mpr safe, _, exists_scan_first_tag s.skb type, tail⟩⟩
  · refine iff_of_false ?_ (fun both => eth both.1)
    intro ⟨fuel, success⟩
    cases fuel with
    | zero => exact (Program.succeeds_stop _ _).mp (Program.succeeds_head success)
    | succ fuel =>
        unfold __nat25_find_pppoe_tag at success
        rw [Program.bind_assoc] at success
        exact eth (succeeds_load_be16.mp success).1

theorem first_tag_inside {skb : SkBuff} {type place : Nat} (safe : TagsInside skb type)
    (found : first_tag skb type = some place) : 20 ≤ place ∧ place + 4 ≤ skb.len := by
  have ended := exists_scan_first_tag skb type
  rw [found] at ended
  rcases Scanner.passes_of_scan ended with ⟨last, passes, done⟩
  have start := ElementSearch.le_of_passes passes
  have here : last < tags_end skb.data ∧ last = place := by
    unfold tag_body ElementSearch.body at done
    split at done
    case isTrue below =>
        split at done
        case isTrue => exact ⟨below, Option.some.inj (Iteration.done.inj done)⟩
        case isFalse => cases done
    case isFalse => cases done
  exact ⟨here.2 ▸ start, here.2 ▸ safe last passes here.1⟩

/-- Where an option begins, and how many bytes are left. -/
def option_body (data : Nat -> UInt8) (tag : UInt8) : Nat × Int -> Iteration (Nat × Int) (Option Nat) :=
  fun (place, left) =>
    if 0 < left then
      if data place = tag ∧ data (place + 1) = 1 ∧ 8 ≤ left then .done (some (place + 2))
      else .more (place + (data (place + 1)).toNat * 8, left - (data (place + 1)).toNat * 8)
    else .done none

/-- The headers of the options, up to the first of the kind, are in the frame, and
their lengths are not 0. -/
def OptionsSound (data : Nat -> UInt8) (tag : UInt8) (start : Nat × Int) : Prop :=
  ∀ place left, Passes (option_body data tag) start (place, left) -> 0 < left ->
    2 ≤ left ∧ data (place + 1) ≠ 0

/-- The link layer address in the first option of the kind. -/
def first_option (data : Nat -> UInt8) (tag : UInt8) (start : Nat × Int) : Option Nat :=
  (scan (option_body data tag) (start.2.toNat + 1) start).getD none

theorem option_body_progress {data : Nat -> UInt8} (state next : Nat × Int)
    (goes : option_body data tag state = .more next) : next = state ∨ next.2.toNat < state.2.toNat := by
  rcases state with ⟨place, left⟩
  unfold option_body at goes
  dsimp only at goes
  split at goes
  case isTrue more =>
      split at goes
      case isTrue => cases goes
      case isFalse =>
          have next := Iteration.more.inj goes
          by_cases none : (data (place + 1)).toNat = 0
          · rw [none] at next
            refine Or.inl (next.symm.trans ?_)
            rw [Nat.zero_mul, Nat.add_zero, Int.natCast_zero, Int.zero_mul, Int.sub_zero]
          · rw [← next]
            dsimp only
            omega
  case isFalse => cases goes

theorem option_end {data : Nat -> UInt8} {start later : Nat × Int}
    (passes : Passes (option_body data tag) start later) : (later.1 : Int) + later.2 = start.1 + start.2 ∧
      start.1 ≤ later.1 := by
  induction passes with
  | refl => exact ⟨rfl, Nat.le_refl _⟩
  | @tail state next _ goes ih =>
      rcases state with ⟨place, left⟩
      unfold option_body at goes
      dsimp only at goes
      split at goes
      case isTrue =>
          split at goes
          case isTrue => cases goes
          case isFalse =>
              rw [← Iteration.more.inj goes]
              dsimp only at ih ⊢
              omega
      case isFalse => cases goes

theorem scan_tlv_eq_checked {place : Nat} {left : Int} (whole : (place : Int) + left = s.skb.len) :
    scan_tlv tag 1 fuel place left s =
      checked (option_body s.skb.data tag) (fun state => decide (0 < state.2 -> 2 ≤ state.2))
        Fault.outside Fault.endless fuel (place, left) s := by
  induction fuel generalizing place left with
  | zero => rfl
  | succ fuel ih =>
      unfold scan_tlv checked option_body
      dsimp only
      by_cases more : 0 < left
      · rw [if_pos more, if_pos more, bind_of_ok (@load_ok s place (by omega))]
        by_cases room : 2 ≤ left
        · rw [bind_of_ok (@load_ok s (place + 1) (by omega)), if_pos (decide_eq_true (fun _ => room))]
          have eight : (1 : UInt8).toNat = 1 := rfl
          rw [eight, Int.natCast_one, Int.one_mul]
          split
          case isTrue => rfl
          case isFalse => exact ih (by push_cast; omega)
        · have stuck : ¬ decide (0 < left -> 2 ≤ left) = true := fun safe => room (of_decide_eq_true safe more)
          rw [if_neg stuck, load, inside, Program.bind_assoc, Program.bind_assoc, bind_of_ok (Program.get_apply s),
            decide_eq_false (show ¬ place + 1 + 1 ≤ s.skb.len by omega)]
          rfl
      · rw [if_neg more, if_neg more, if_pos (decide_eq_true (fun impossible => absurd impossible more))]

theorem scan_first_option {data : Nat -> UInt8} {start : Nat × Int} {result : Option Nat}
    (ended : scan (option_body data tag) fuel start = some result) : result = first_option data tag start := by
  rcases CheckedScan.exists_scan_of_progress (fun state => state.2.toNat) option_body_progress
    (Nat.lt_succ_self start.2.toNat) (CheckedScan.not_stuck_of_scan ended) with ⟨found, finished⟩
  have here : first_option data tag start = found := by
    rw [first_option, finished]
    rfl
  have first := CheckedScan.scan_mono (Nat.le_max_left fuel (start.2.toNat + 1)) ended
  have second := CheckedScan.scan_mono (Nat.le_max_right fuel (start.2.toNat + 1)) finished
  exact here ▸ Option.some.inj (first.symm.trans second)

theorem option_stuck_iff {data : Nat -> UInt8} {place : Nat} {left : Int} :
    option_body data tag (place, left) = .more (place, left) <-> 0 < left ∧ data (place + 1) = 0 := by
  unfold option_body
  dsimp only
  by_cases more : 0 < left
  · rw [if_pos more, and_iff_right more]
    by_cases none : data (place + 1) = 0
    · have other : ¬ (data place = tag ∧ data (place + 1) = 1 ∧ 8 ≤ left) := by
        rw [none]
        exact fun both => absurd both.2.1 (by decide)
      rw [if_neg other, none]
      refine iff_of_true (congrArg Iteration.more (Prod.ext ?_ ?_)) rfl
      · exact Nat.add_zero place
      · exact Int.sub_zero left
    · refine iff_of_false ?_ none
      split
      case isTrue => nofun
      case isFalse =>
          intro stays
          have same := congrArg Prod.fst (Iteration.more.inj stays)
          have positive : (data (place + 1)).toNat ≠ 0 := fun zero => none (UInt8.toNat_inj.mp zero)
          dsimp only at same
          omega
  · rw [if_neg more]
    exact iff_of_false nofun (fun both => more both.1)

theorem OptionsSound.ends {data : Nat -> UInt8} {start : Nat × Int} (sound : OptionsSound data tag start) :
    scan (option_body data tag) (start.2.toNat + 1) start = some (first_option data tag start) := by
  have leaves : Throughout (option_body data tag) (fun state => option_body data tag state ≠ .more state) start := by
    intro later passes stuck
    have zero := option_stuck_iff.mp stuck
    exact (sound _ _ passes zero.1).2 zero.2
  rcases CheckedScan.exists_scan_of_progress (fun state => state.2.toNat) option_body_progress
    (Nat.lt_succ_self start.2.toNat) leaves with ⟨found, finished⟩
  rw [finished, scan_first_option finished]

theorem succeeds_scan_tlv {place : Nat} {left : Int} (whole : (place : Int) + left = s.skb.len)
    {rest : Option Nat -> BrProgram Value} :
    (∃ fuel, (scan_tlv tag 1 fuel place left >>= rest).Succeeds s) <->
      OptionsSound s.skb.data tag (place, left) ∧
        (rest (first_option s.skb.data tag (place, left))).Succeeds s := by
  have step : ∀ fuel, (scan_tlv tag 1 fuel place left >>= rest).Succeeds s <->
      Throughout (option_body s.skb.data tag) (fun state => decide (0 < state.2 -> 2 ≤ state.2) = true) (place, left) ∧
        ∃ result, scan (option_body s.skb.data tag) fuel (place, left) = some result ∧
          (rest result).Succeeds s := by
    intro fuel
    rw [← succeeds_checked]
    unfold Program.Succeeds
    rw [Program.bind_apply, Program.bind_apply, scan_tlv_eq_checked whole]
  constructor
  · intro ⟨fuel, success⟩
    rcases (step fuel).mp success with ⟨safe, result, ended, tail⟩
    refine ⟨fun later left passes more => ⟨of_decide_eq_true (safe _ passes) more, fun zero => ?_⟩,
      scan_first_option ended ▸ tail⟩
    exact CheckedScan.not_stuck_of_scan ended _ passes (option_stuck_iff.mpr ⟨more, zero⟩)
  · intro ⟨sound, tail⟩
    refine ⟨left.toNat + 1, (step _).mpr ⟨fun later passes => ?_, _, sound.ends, tail⟩⟩
    exact decide_eq_true (fun more => (sound _ _ passes more).1)

/-- An option found is in the frame. -/
theorem first_option_inside {data : Nat -> UInt8} {start : Nat × Int} {mac : Nat}
    (sound : OptionsSound data tag start) (found : first_option data tag start = some mac) :
    start.1 + 2 ≤ mac ∧ (mac : Int) + 6 ≤ start.1 + start.2 := by
  have ended := sound.ends
  rw [found] at ended
  rcases Scanner.passes_of_scan ended with ⟨⟨place, left⟩, passes, done⟩
  have whole := option_end passes
  unfold option_body at done
  dsimp only at done whole
  split at done
  case isTrue =>
      split at done
      case isTrue wanted =>
          have same := Option.some.inj (Iteration.done.inj done)
          omega
      case isFalse => cases done
  case isFalse => cases done

end BrExt
end Rtl8821ce
