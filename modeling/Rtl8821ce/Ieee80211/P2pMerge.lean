import Rtl8821ce.Ieee80211.Attributes
import Rtl8821ce.Ieee80211.RemoveIe

/-!
# Merging P2P elements

The attributes of a frame may be spread over several P2P elements.  One function counts the bytes
of their attribute areas, and another copies the areas behind the header of a new element.  What
they are given stays as it is, so the new element is in a memory of its own.
-/

namespace Rtl8821ce
namespace P2pMerge

open Scanner (Iteration scan)

def OUI : List UInt8 := [0x50, 0x6f, 0x9a, 0x09]

def ELOUI : List UInt8 := [0xDD, 0x00, 0x50, 0x6f, 0x9a, 0x09]

/-- The locals of `rtw_get_p2p_merged_ies_len`. -/
structure MergedLen where
  i : Nat
  len : Int

def rtw_get_p2p_merged_ies_len_body (mem : Nat -> UInt8) (in_ie in_len : Nat) (s : MergedLen) :
    Iteration MergedLen Int :=
  if s.i < in_len then
    let pIE := in_ie + s.i
    let len := if is_vendor_ie mem pIE OUI then s.len + ((mem (pIE + 1)).toNat - 4) else s.len
    .more ⟨s.i + ie_size mem pIE, len⟩
  else .done (s.len + 4)

def rtw_get_p2p_merged_ies_len (mem : Nat -> UInt8) (in_ie in_len : Nat) : Option Int :=
  scan (rtw_get_p2p_merged_ies_len_body mem in_ie in_len) (in_len + 1) ⟨0, 0⟩

/-- The locals of `rtw_p2p_merge_ies`, the memory of the new element, and the places written. -/
structure Merge where
  i : Nat
  len : UInt8
  merge_ie : Nat
  out : Nat -> UInt8
  written : List Nat

/-- `_rtw_memcpy` to the pointer, which moves on. -/
def Merge.copy (s : Merge) (bytes : List UInt8) : Merge :=
  { s with
    merge_ie := s.merge_ie + bytes.length
    out := Memory.write s.out s.merge_ie bytes
    written := s.written ++ List.range' s.merge_ie bytes.length }

/-- A round ends with `none` where the number of bytes to copy is negative: as a `size_t` it is
larger than every buffer. -/
def rtw_p2p_merge_ies_body (mem : Nat -> UInt8) (in_ie in_len : Nat) (s : Merge) : Iteration Merge (Option Merge) :=
  if s.i < in_len then
    let pIE := in_ie + s.i
    let Length := mem (pIE + 1)
    if is_vendor_ie mem pIE OUI then
      if Length < 4 then .done none
      else
        let s := s.copy (Memory.read mem (pIE + 2 + 4) (Length.toNat - 4))
        .more { s with i := s.i + ie_size mem pIE, len := s.len + (Length - 4) }
    else .more { s with i := s.i + ie_size mem pIE }
  else .done (some s)

/-- The number returned, the memory of the new element and the places written. -/
structure Merged where
  ret : Nat
  out : Nat -> UInt8
  written : List Nat

def rtw_p2p_merge_ies (mem : Nat -> UInt8) (in_ie in_len : Nat) (out : Nat -> UInt8) :
    Option Nat -> Option Merged
  | none => some ⟨0, out, []⟩
  | some merge_ie =>
      let start := (Merge.mk 0 0 merge_ie out []).copy ELOUI
      (scan (rtw_p2p_merge_ies_body mem in_ie in_len) (in_len + 1) start).join.map
        (fun s => ⟨s.len.toNat + 4, s.out, s.written⟩)

def area (element : Element) : List UInt8 :=
  if element.asked_for 0xDD (some OUI) then element.body.drop 4 else []

def areas (elements : List Element) : List UInt8 := elements.flatMap area

/-- No element takes the rest of the OUI from the bytes behind it. -/
def OwnOui (beyond : List UInt8) : List Element -> Prop
  | [] => True
  | element :: rest =>
      (element.compared 0xDD (some OUI) (elements_bytes rest ++ beyond) = true ->
          element.asked_for 0xDD (some OUI) = true) ∧
        OwnOui beyond rest

instance decidableOwnOui (beyond : List UInt8) :
    ∀ elements : List Element, Decidable (OwnOui beyond elements)
  | [] => isTrue trivial
  | _ :: rest =>
      haveI := decidableOwnOui beyond rest
      inferInstanceAs (Decidable ((_ -> _) ∧ OwnOui beyond rest))

variable {mem : Nat -> UInt8} {in_ie in_len place : Nat} {element : Element}
  {behind beyond : List UInt8} {rest : List Element}

theorem is_vendor_ie_eq (holds : HoldsBytes mem place (element.bytes ++ behind)) (enough : 4 ≤ behind.length) :
    is_vendor_ie mem place OUI = element.compared 0xDD (some OUI) behind := by
  rw [<- @sought_eq_compared _ _ _ (some OUI) _ _ holds enough, is_vendor_ie]
  exact congrArg (· && _) Bool.beq_comm

theorem is_vendor_ie_asked (holds : HoldsBytes mem place (element.bytes ++ (elements_bytes rest ++ beyond)))
    (enough : 4 ≤ beyond.length) (own : OwnOui beyond (element :: rest)) :
    is_vendor_ie mem place OUI = element.asked_for 0xDD (some OUI) := by
  have long : 4 ≤ (elements_bytes rest ++ beyond).length := by
    rw [List.length_append]
    omega
  rw [is_vendor_ie_eq holds long, Bool.eq_iff_iff]
  exact ⟨own.1, fun asked => element.compared_of_asked_for asked _⟩

theorem four_le_of_asked (asked : element.asked_for 0xDD (some OUI) = true) : 4 ≤ element.body.length := by
  unfold Element.asked_for Element.compared at asked
  rw [Bool.and_eq_true, List.append_nil] at asked
  exact (List.isPrefixOf_iff_prefix.mp asked.2).length_le

theorem area_of_asked (asked : element.asked_for 0xDD (some OUI) = true) :
    area element = element.body.drop 4 := if_pos asked

theorem area_of_other (other : ¬ element.asked_for 0xDD (some OUI) = true) : area element = [] :=
  if_neg other

theorem length_area_of_asked (asked : element.asked_for 0xDD (some OUI) = true) :
    (area element).length = element.body.length - 4 := by
  rw [area_of_asked asked, List.length_drop]

/-! ## The two loops -/

/-- The elements from a place of the buffer on, and the bytes behind it. -/
structure Ahead (mem : Nat -> UInt8) (in_ie in_len i : Nat) (beyond : List UInt8)
    (elements : List Element) : Prop where
  holds : HoldsBytes mem (in_ie + i) (elements_bytes elements ++ beyond)
  ends : i + (elements_bytes elements).length = in_len
  enough : 4 ≤ beyond.length
  own : OwnOui beyond elements

namespace Ahead

variable {i : Nat} (ahead : Ahead mem in_ie in_len i beyond (element :: rest))

include ahead

theorem parts : HoldsBytes mem (in_ie + i) (element.bytes ++ (elements_bytes rest ++ beyond)) := by
  have holds := ahead.holds
  rw [elements_bytes_cons, List.append_assoc] at holds
  exact holds

theorem inside : i < in_len := by
  have ends := ahead.ends
  rw [elements_bytes_cons, List.length_append, Element.length_bytes] at ends
  omega

theorem size : ie_size mem (in_ie + i) = element.bytes.length := (elementAt ahead.parts).size

theorem length_byte : (mem (in_ie + i + 1)).toNat = element.body.length := by
  have size := ahead.size
  rw [ie_size, Element.length_bytes] at size
  omega

theorem vendor : is_vendor_ie mem (in_ie + i) OUI = element.asked_for 0xDD (some OUI) :=
  is_vendor_ie_asked ahead.parts ahead.enough ahead.own

theorem next : Ahead mem in_ie in_len (i + ie_size mem (in_ie + i)) beyond rest where
  holds := by
    rw [ahead.size, <- Nat.add_assoc]
    exact (elementAt ahead.parts).behind
  ends := by
    have ends := ahead.ends
    rw [elements_bytes_cons, List.length_append] at ends
    rw [ahead.size]
    omega
  enough := ahead.enough
  own := ahead.own.2

theorem read_area (asked : element.asked_for 0xDD (some OUI) = true) :
    Memory.read mem (in_ie + i + 2 + 4) ((mem (in_ie + i + 1)).toNat - 4) = area element := by
  have body := (HoldsBytes.append_iff.mp (elementAt ahead.parts).body).1
  have behindOui := body.drop (four_le_of_asked asked)
  rw [ahead.length_byte, area_of_asked asked, <- List.length_drop]
  exact behindOui

end Ahead

theorem Ahead.ended {i : Nat} (ahead : Ahead mem in_ie in_len i beyond []) : ¬ i < in_len := by
  have ends := ahead.ends
  change i + 0 = in_len at ends
  omega

theorem merged_ies_len_step {s : MergedLen} (ahead : Ahead mem in_ie in_len s.i beyond (element :: rest)) :
    rtw_get_p2p_merged_ies_len_body mem in_ie in_len s =
      .more ⟨s.i + ie_size mem (in_ie + s.i), s.len + (area element).length⟩ := by
  simp only [rtw_get_p2p_merged_ies_len_body, if_pos ahead.inside, ahead.vendor, ahead.length_byte]
  by_cases asked : element.asked_for 0xDD (some OUI) = true
  · have four := four_le_of_asked asked
    have length : ((element.body.length : Int) - 4) = ((area element).length : Int) := by
      rw [length_area_of_asked asked]
      omega
    rw [if_pos asked, length]
  · rw [if_neg asked, area_of_other asked, List.length_nil, Int.natCast_zero, Int.add_zero]

theorem merged_ies_len_scan (elements : List Element) (s : MergedLen)
    (ahead : Ahead mem in_ie in_len s.i beyond elements) {fuel : Nat} (enough : elements.length < fuel) :
    scan (rtw_get_p2p_merged_ies_len_body mem in_ie in_len) fuel s =
      some (s.len + (areas elements).length + 4) := by
  induction elements generalizing s fuel with
  | nil =>
      cases fuel with
      | zero => exact absurd enough (Nat.not_lt_zero _)
      | succ fuel =>
          have done : rtw_get_p2p_merged_ies_len_body mem in_ie in_len s = .done (s.len + 4) :=
            if_neg ahead.ended
          rw [Scanner.scan_done done]
          simp [areas]
  | cons element rest ih =>
      cases fuel with
      | zero => exact absurd enough (Nat.not_lt_zero _)
      | succ fuel =>
          rw [Scanner.scan_more (merged_ies_len_step ahead), ih _ ahead.next (Nat.lt_of_succ_lt_succ enough)]
          simp only [areas, List.flatMap_cons, List.length_append, Option.some.injEq]
          omega

theorem Merge.copy_nil (s : Merge) : s.copy [] = s := by
  simp [Merge.copy]

theorem Merge.copy_copy (s : Merge) (first second : List UInt8) :
    (s.copy first).copy second = s.copy (first ++ second) := by
  simp only [Merge.copy, Memory.write_append, List.length_append, List.append_assoc, Nat.add_assoc,
    List.range'_append_1]

def Merge.after (s : Merge) (i : Nat) (bytes : List UInt8) : Merge :=
  { s.copy bytes with i := i, len := s.len + UInt8.ofNat bytes.length }

theorem Merge.after_after (s : Merge) (i j : Nat) (first second : List UInt8) :
    (s.after i first).after j second = s.after j (first ++ second) := by
  have copied := s.copy_copy first second
  have len : s.len + UInt8.ofNat first.length + UInt8.ofNat second.length =
      s.len + UInt8.ofNat (first ++ second).length := by
    rw [List.length_append, UInt8.ofNat_add, UInt8.add_assoc]
  simp only [Merge.after, Merge.copy, Merge.mk.injEq] at copied ⊢
  exact ⟨trivial, len, copied.2.2⟩

theorem merge_ies_step {s : Merge} (ahead : Ahead mem in_ie in_len s.i beyond (element :: rest)) :
    rtw_p2p_merge_ies_body mem in_ie in_len s =
      .more (s.after (s.i + ie_size mem (in_ie + s.i)) (area element)) := by
  simp only [rtw_p2p_merge_ies_body, if_pos ahead.inside, ahead.vendor]
  by_cases asked : element.asked_for 0xDD (some OUI) = true
  · have four := four_le_of_asked asked
    have long : ¬ mem (in_ie + s.i + 1) < 4 := by
      rw [UInt8.lt_iff_toNat_lt, ahead.length_byte]
      exact Nat.not_lt.mpr four
    have len : mem (in_ie + s.i + 1) - 4 = UInt8.ofNat (area element).length := by
      apply UInt8.toNat.inj
      have small := element.small
      rw [UInt8.toNat_sub_of_le _ _ (UInt8.not_lt.mp long), ahead.length_byte, UInt8.toNat_ofNat',
        length_area_of_asked asked, Nat.mod_eq_of_lt (by omega)]
      rfl
    simp only [if_pos asked, if_neg long, ahead.read_area asked, len]
    rfl
  · rw [if_neg asked, area_of_other asked, Merge.after, Merge.copy_nil]
    simp

theorem merge_ies_scan (elements : List Element) (s : Merge)
    (ahead : Ahead mem in_ie in_len s.i beyond elements) {fuel : Nat} (enough : elements.length < fuel) :
    scan (rtw_p2p_merge_ies_body mem in_ie in_len) fuel s =
      some (some (s.after in_len (areas elements))) := by
  induction elements generalizing s fuel with
  | nil =>
      cases fuel with
      | zero => exact absurd enough (Nat.not_lt_zero _)
      | succ fuel =>
          have done : rtw_p2p_merge_ies_body mem in_ie in_len s = .done (some s) := if_neg ahead.ended
          have same : s.after in_len (areas []) = s := by
            have ends : s.i + 0 = in_len := ahead.ends
            rw [<- ends]
            simp [Merge.after, areas, Merge.copy_nil]
          rw [Scanner.scan_done done, same]
  | cons element rest ih =>
      cases fuel with
      | zero => exact absurd enough (Nat.not_lt_zero _)
      | succ fuel =>
          rw [Scanner.scan_more (merge_ies_step ahead),
            ih _ ahead.next (Nat.lt_of_succ_lt_succ enough), Merge.after_after]
          rfl

/-- The bytes behind the buffer that a comparison may reach. -/
def beyond_buffer (mem : Nat -> UInt8) (place : Nat) : List UInt8 := Memory.read mem place 4

/-- The new element takes two bytes more than the length reported, for the id and the length
byte.  Nothing else is written. -/
structure MergedRight (reported : Int) (out : Nat -> UInt8) (merge_ie : Nat)
    (attributes : List UInt8) (merged : Merged) : Prop where
  reports : reported = attributes.length + 4
  writes : merged.written = List.range' merge_ie (reported.toNat + 2)
  keeps : ∀ place, place ∉ merged.written -> merged.out place = out place
  id : merged.out merge_ie = 0xDD
  oui : HoldsBytes merged.out (merge_ie + 2) OUI
  area : HoldsBytes merged.out (merge_ie + 6) attributes
  returns : attributes.length ≤ 255 -> (merged.ret : Int) = reported

theorem p2p_elements_merged (mem : Nat -> UInt8) (in_ie : Nat) (elements : List Element)
    (holds : HoldsBytes mem in_ie (elements_bytes elements))
    (own : OwnOui (beyond_buffer mem (in_ie + (elements_bytes elements).length)) elements)
    (out : Nat -> UInt8) (merge_ie : Nat) :
    ∃ reported, ∃ merged,
      rtw_get_p2p_merged_ies_len mem in_ie (elements_bytes elements).length = some reported ∧
      rtw_p2p_merge_ies mem in_ie (elements_bytes elements).length out (some merge_ie) =
        some merged ∧
      MergedRight reported out merge_ie (areas elements) merged := by
  have ahead : Ahead mem in_ie (elements_bytes elements).length 0
      (beyond_buffer mem (in_ie + (elements_bytes elements).length)) elements := by
    refine ⟨HoldsBytes.append_iff.mpr ⟨holds, ?_⟩, Nat.zero_add _, ?_, own⟩
    · unfold HoldsBytes beyond_buffer
      rw [Memory.length_read]
      rfl
    · exact Nat.le_of_eq (Memory.length_read mem _ 4).symm
  have enough : elements.length < (elements_bytes elements).length + 1 :=
    Nat.lt_succ_of_le (length_le_length_elements_bytes elements)
  have counted := merged_ies_len_scan elements ⟨0, 0⟩ ahead enough
  have copied := merge_ies_scan elements ((Merge.mk 0 0 merge_ie out []).copy ELOUI) ahead enough
  let final := ((Merge.mk 0 0 merge_ie out []).copy ELOUI).after
    (elements_bytes elements).length (areas elements)
  refine ⟨_, ⟨final.len.toNat + 4, final.out, final.written⟩, counted,
    by rw [rtw_p2p_merge_ies, copied]; rfl, ?_⟩
  have reported : (0 : Int) + (areas elements).length + 4 = (areas elements).length + 4 := by omega
  have whole : final.out = Memory.write out merge_ie (ELOUI ++ areas elements) :=
    Memory.write_append out merge_ie ELOUI (areas elements)
  have places : final.written = List.range' merge_ie ((areas elements).length + 6) := by
    have joined : List.range' merge_ie 6 ++ List.range' (merge_ie + 6) (areas elements).length =
        List.range' merge_ie (6 + (areas elements).length) := List.range'_append_1
    rw [Nat.add_comm (areas elements).length]
    exact joined
  have there : HoldsBytes final.out merge_ie (ELOUI ++ areas elements) :=
    whole ▸ HoldsBytes.written _
  have parts := HoldsBytes.append_iff.mp there
  refine ⟨reported, ?_, ?_, (HoldsBytes.cons_iff.mp there).1, parts.1.drop (by decide : 2 ≤ 6),
    parts.2, ?_⟩
  · rw [reported, places]
    rfl
  · intro place outside
    change final.out place = out place
    change place ∉ final.written at outside
    rw [places, List.mem_range'_1] at outside
    rw [whole]
    refine Memory.write_of_outside out ?_
    rw [List.length_append]
    change place < merge_ie ∨ merge_ie + (6 + (areas elements).length) ≤ place
    omega
  · intro short
    have len : final.len.toNat = (areas elements).length := by
      change (0 + UInt8.ofNat (areas elements).length).toNat = _
      rw [UInt8.zero_add, UInt8.toNat_ofNat', Nat.mod_eq_of_lt (by omega)]
    change ((final.len.toNat + 4 : Nat) : Int) = 0 + (areas elements).length + 4
    rw [len]
    omega

def two_p2p_elements : List Element :=
  [⟨0xDD, [0x50, 0x6f, 0x9a, 0x09, 2, 0], by decide⟩, ⟨0, [65], by decide⟩,
    ⟨0xDD, [0x50, 0x6f, 0x9a, 0x09, 4, 1, 0], by decide⟩]

def two_p2p_elements_mem (place : Nat) : UInt8 := (elements_bytes two_p2p_elements).getD place 0

theorem p2p_elements_merged_two :
    ∃ reported, ∃ merged,
      rtw_get_p2p_merged_ies_len two_p2p_elements_mem 0 20 = some reported ∧
      rtw_p2p_merge_ies two_p2p_elements_mem 0 20 (fun _ => 0) (some 0) = some merged ∧
      MergedRight reported (fun _ => 0) 0 [2, 0, 4, 1, 0] merged :=
  p2p_elements_merged two_p2p_elements_mem 0 two_p2p_elements rfl (by decide) (fun _ => 0) 0

/-- Nine bytes are reported, and eleven are written. -/
theorem p2p_merge_writes_more :
    HoldsBytes two_p2p_elements_mem 0 (elements_bytes two_p2p_elements) ∧
      rtw_get_p2p_merged_ies_len two_p2p_elements_mem 0 20 = some 9 ∧
      (rtw_p2p_merge_ies two_p2p_elements_mem 0 20 (fun _ => 0) (some 0)).map
        (fun merged => merged.written.length) = some 11 ∧
      ¬ ∃ merged,
        rtw_p2p_merge_ies two_p2p_elements_mem 0 20 (fun _ => 0) (some 0) = some merged ∧
          merged.written.length ≤ 9 := by
  have eleven : (rtw_p2p_merge_ies two_p2p_elements_mem 0 20 (fun _ => 0) (some 0)).map
      (fun merged => merged.written.length) = some 11 := by decide
  refine ⟨rfl, by decide, eleven, ?_⟩
  rintro ⟨merged, returned, few⟩
  rw [returned, Option.map_some, Option.some.injEq] at eleven
  omega

end P2pMerge
end Rtl8821ce
