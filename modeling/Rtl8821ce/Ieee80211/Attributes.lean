import Rtl8821ce.Ieee80211.GetIe

/-!
# Attributes of WPS, P2P and WFD elements

The three elements hold attributes of an id, a 16-bit length and the data.  A
walk computes the size of an attribute in a `u16`, as the declared length plus
the size of the attribute's header, so that the largest lengths wrap around to
a size that is smaller than the header, or is zero.
-/

namespace Rtl8821ce

open Scanner (Iteration scan Passes Throughout)

variable {target_attr_id attr_ptr ie : Nat}

def RTW_GET_BE16 (mem : Nat -> UInt8) (a : Nat) : Nat := 256 * (mem a).toNat + (mem (a + 1)).toNat

def RTW_GET_LE16 (mem : Nat -> UInt8) (a : Nat) : Nat := (mem a).toNat + 256 * (mem (a + 1)).toNat

theorem RTW_GET_BE16_lt (mem : Nat -> UInt8) (a : Nat) : RTW_GET_BE16 mem a < 65536 := by
  have high := (mem a).toNat_lt
  have low := (mem (a + 1)).toNat_lt
  unfold RTW_GET_BE16
  omega

theorem RTW_GET_LE16_lt (mem : Nat -> UInt8) (a : Nat) : RTW_GET_LE16 mem a < 65536 := by
  have high := (mem (a + 1)).toNat_lt
  have low := (mem a).toNat_lt
  unfold RTW_GET_LE16
  omega

/-- What the walks over the three kinds of element differ in: the size of an
attribute's header, its id and its declared length, when the walk looks at
another attribute, and when it takes the attribute for complete. -/
structure AttrWalk where
  header : Nat
  positive : 0 < header
  short : header < 65536
  attr_id : Nat -> Nat
  attr_data_len : Nat -> Nat
  small : ∀ attr_ptr, attr_data_len attr_ptr < 65536
  more : Nat -> Bool
  complete : Nat -> Nat -> Bool

/-- `u16 attr_len = attr_data_len + 4`, or `+ 3`. -/
def AttrWalk.attr_len (walk : AttrWalk) (attr_ptr : Nat) : Nat :=
  (walk.attr_data_len attr_ptr + walk.header) % 65536

/-- A round of a walk.  It ends with the address and the length of the attribute. -/
def AttrWalk.body (walk : AttrWalk) (target_attr_id attr_ptr : Nat) : Iteration Nat (Option (Nat × Nat)) :=
  if walk.more attr_ptr && walk.complete attr_ptr (walk.attr_len attr_ptr) then
    if walk.attr_id attr_ptr = target_attr_id then .done (some (attr_ptr, walk.attr_len attr_ptr))
    else .more (attr_ptr + walk.attr_len attr_ptr)
  else .done none

/-- Look for an attribute in the element at `ie`, if this is an element of the
right kind.  The outer `none` is a walk that is still running. -/
def AttrWalk.get (walk : AttrWalk) (is_ie : Bool) (ie target_attr_id rounds : Nat) : Option (Option (Nat × Nat)) :=
  if !is_ie then some none
  else scan (walk.body target_attr_id) rounds (ie + 6)

/-- The content of an attribute found; the length is a `u32`. -/
def AttrWalk.content (walk : AttrWalk) (found : Option (Nat × Nat)) : Option (Nat × Nat) :=
  match found with
  | none => none
  | some (attr_ptr, attr_len) =>
      if attr_len = 0 then none
      else some (attr_ptr + walk.header, (attr_len + 2 ^ 32 - walk.header) % 2 ^ 32)

/-! ## The three elements -/

def is_vendor_ie (mem : Nat -> UInt8) (ie : Nat) (oui : List UInt8) : Bool :=
  mem ie == 221 && bytes_at mem (ie + 2) oui

def wps_walk (mem : Nat -> UInt8) (wps_ie wps_ielen : Nat) : AttrWalk where
  header := 4
  positive := by decide
  short := by decide
  attr_id := fun attr_ptr => RTW_GET_BE16 mem attr_ptr
  attr_data_len := fun attr_ptr => RTW_GET_BE16 mem (attr_ptr + 2)
  small := fun _ => RTW_GET_BE16_lt mem _
  more := fun attr_ptr => decide (attr_ptr - wps_ie < wps_ielen)
  complete := fun _ _ => true

def is_wps_ie (mem : Nat -> UInt8) (wps_ie : Nat) : Bool :=
  is_vendor_ie mem wps_ie [0x00, 0x50, 0xF2, 0x04]

def rtw_get_wps_attr (mem : Nat -> UInt8) (wps_ie wps_ielen target_attr_id rounds : Nat) :
    Option (Option (Nat × Nat)) :=
  (wps_walk mem wps_ie wps_ielen).get (is_wps_ie mem wps_ie) wps_ie target_attr_id rounds

def rtw_get_wps_attr_content (mem : Nat -> UInt8) (wps_ie wps_ielen target_attr_id rounds : Nat) :
    Option (Option (Nat × Nat)) :=
  (rtw_get_wps_attr mem wps_ie wps_ielen target_attr_id rounds).map
    (wps_walk mem wps_ie wps_ielen).content

def p2p_walk (mem : Nat -> UInt8) (p2p_ie p2p_ielen : Nat) : AttrWalk where
  header := 3
  positive := by decide
  short := by decide
  attr_id := fun attr_ptr => (mem attr_ptr).toNat
  attr_data_len := fun attr_ptr => RTW_GET_LE16 mem (attr_ptr + 1)
  small := fun _ => RTW_GET_LE16_lt mem _
  more := fun attr_ptr => decide (attr_ptr - p2p_ie + 3 ≤ p2p_ielen)
  complete := fun attr_ptr attr_len => !decide (attr_ptr - p2p_ie + attr_len > p2p_ielen)

def is_p2p_ie (mem : Nat -> UInt8) (p2p_ie p2p_ielen : Nat) : Bool :=
  !decide (p2p_ielen ≤ 6) && is_vendor_ie mem p2p_ie [0x50, 0x6F, 0x9A, 0x09]

def rtw_get_p2p_attr (mem : Nat -> UInt8) (p2p_ie p2p_ielen : Nat) (target_attr_id : UInt8)
    (rounds : Nat) : Option (Option (Nat × Nat)) :=
  (p2p_walk mem p2p_ie p2p_ielen).get (is_p2p_ie mem p2p_ie p2p_ielen) p2p_ie target_attr_id.toNat rounds

def rtw_get_p2p_attr_content (mem : Nat -> UInt8) (p2p_ie p2p_ielen : Nat) (target_attr_id : UInt8)
    (rounds : Nat) : Option (Option (Nat × Nat)) :=
  (rtw_get_p2p_attr mem p2p_ie p2p_ielen target_attr_id rounds).map
    (p2p_walk mem p2p_ie p2p_ielen).content

/-- As `p2p_walk`, with the length in the other byte order. -/
def wfd_walk (mem : Nat -> UInt8) (wfd_ie wfd_ielen : Nat) : AttrWalk where
  header := 3
  positive := by decide
  short := by decide
  attr_id := fun attr_ptr => (mem attr_ptr).toNat
  attr_data_len := fun attr_ptr => RTW_GET_BE16 mem (attr_ptr + 1)
  small := fun _ => RTW_GET_BE16_lt mem _
  more := fun attr_ptr => decide (attr_ptr - wfd_ie + 3 ≤ wfd_ielen)
  complete := fun attr_ptr attr_len => !decide (attr_ptr - wfd_ie + attr_len > wfd_ielen)

def is_wfd_ie (mem : Nat -> UInt8) (wfd_ie wfd_ielen : Nat) : Bool :=
  !decide (wfd_ielen ≤ 6) && is_vendor_ie mem wfd_ie [0x50, 0x6F, 0x9A, 0x0A]

def rtw_get_wfd_attr (mem : Nat -> UInt8) (wfd_ie wfd_ielen : Nat) (target_attr_id : UInt8)
    (rounds : Nat) : Option (Option (Nat × Nat)) :=
  (wfd_walk mem wfd_ie wfd_ielen).get (is_wfd_ie mem wfd_ie wfd_ielen) wfd_ie target_attr_id.toNat rounds

def rtw_get_wfd_attr_content (mem : Nat -> UInt8) (wfd_ie wfd_ielen : Nat) (target_attr_id : UInt8)
    (rounds : Nat) : Option (Option (Nat × Nat)) :=
  (rtw_get_wfd_attr mem wfd_ie wfd_ielen target_attr_id rounds).map
    (wfd_walk mem wfd_ie wfd_ielen).content

/-- A region of the element that begins at `ie` and ends before `stop`. -/
def InsideElement (ie stop : Nat) (region : Nat × Nat) : Prop :=
  ie ≤ region.1 ∧ region.1 + region.2 ≤ stop

/-- Both variants end; the attribute found lies in the element, and its content
is the attribute without its header, in the element as well. -/
def AttrInside (attr content : Nat -> Option (Option (Nat × Nat))) (header ie stop : Nat) : Prop :=
  ∃ rounds found, ∃ inner,
    attr rounds = some found ∧ content rounds = some inner ∧
      (∀ region, found = some region -> InsideElement ie stop region) ∧
      ∀ region, inner = some region -> InsideElement ie stop region ∧
        ∃ attr_len, found = some (region.1 - header, attr_len) ∧
          region.2 + header = attr_len

/-- The declared lengths that the walk meets do not wrap where this matters: an
attribute that is passed over does not come out as of size zero, and one that is
found comes out as of size zero or of its own size, and ends in the element. -/
def AttrWalk.LengthsFit (walk : AttrWalk) (target_attr_id start stop : Nat) : Prop :=
  ∀ attr_ptr, Passes (walk.body target_attr_id) start attr_ptr ->
    walk.more attr_ptr = true -> walk.complete attr_ptr (walk.attr_len attr_ptr) = true ->
      (walk.attr_id attr_ptr ≠ target_attr_id ->
        walk.attr_data_len attr_ptr + walk.header ≠ 65536) ∧
      (walk.attr_id attr_ptr = target_attr_id ->
        walk.attr_data_len attr_ptr + walk.header ≤ 65536 ∧
          attr_ptr + walk.attr_len attr_ptr ≤ stop)

theorem AttrWalk.attr_len_cases (walk : AttrWalk) (attr_ptr : Nat) :
    walk.attr_data_len attr_ptr + walk.header < 65536 ∧
        walk.attr_len attr_ptr = walk.attr_data_len attr_ptr + walk.header ∨
      65536 ≤ walk.attr_data_len attr_ptr + walk.header ∧
        walk.attr_len attr_ptr + 65536 = walk.attr_data_len attr_ptr + walk.header ∧
        walk.attr_len attr_ptr < walk.header := by
  have small := walk.small attr_ptr
  have short := walk.short
  unfold AttrWalk.attr_len
  omega

theorem AttrWalk.body_more_iff {walk : AttrWalk} {next : Nat} :
    walk.body target_attr_id attr_ptr = .more next <->
      walk.more attr_ptr = true ∧ walk.complete attr_ptr (walk.attr_len attr_ptr) = true ∧
        walk.attr_id attr_ptr ≠ target_attr_id ∧ next = attr_ptr + walk.attr_len attr_ptr := by
  unfold AttrWalk.body
  rw [← and_assoc, ← Bool.and_eq_true]
  split_ifs with goes same
  · exact iff_of_false (fun impossible => (nomatch impossible)) (fun holds => holds.2.1 same)
  · rw [Iteration.more.injEq]
    exact ⟨fun equal => ⟨goes, same, equal.symm⟩, fun holds => holds.2.2.symm⟩
  · exact iff_of_false (fun impossible => (nomatch impossible)) (fun holds => goes holds.1)

theorem AttrWalk.body_found_iff {walk : AttrWalk} {region : Nat × Nat} :
    walk.body target_attr_id attr_ptr = .done (some region) <->
      walk.more attr_ptr = true ∧ walk.complete attr_ptr (walk.attr_len attr_ptr) = true ∧
        walk.attr_id attr_ptr = target_attr_id ∧ region = (attr_ptr, walk.attr_len attr_ptr) := by
  unfold AttrWalk.body
  rw [← and_assoc, ← Bool.and_eq_true]
  split_ifs with goes same
  · rw [Iteration.done.injEq, Option.some.injEq]
    exact ⟨fun equal => ⟨goes, same, equal.symm⟩, fun holds => holds.2.2.symm⟩
  · exact iff_of_false (fun impossible => (nomatch impossible)) (fun holds => same holds.2.1)
  · exact iff_of_false (fun impossible => (nomatch impossible)) (fun holds => goes holds.1)

theorem AttrWalk.le_of_passes {walk : AttrWalk} {start : Nat}
    (passes : Passes (walk.body target_attr_id) start attr_ptr) : start ≤ attr_ptr := by
  induction passes with
  | refl => exact Nat.le_refl _
  | tail _ goes ih =>
      rcases AttrWalk.body_more_iff.mp goes with ⟨_, _, _, next⟩
      omega

theorem AttrWalk.content_eq {walk : AttrWalk} {attr_len : Nat}
    (inside : walk.header ≤ attr_len) (small : attr_len < 65536) :
    walk.content (some (attr_ptr, attr_len)) =
      some (attr_ptr + walk.header, attr_len - walk.header) := by
  have positive := walk.positive
  unfold AttrWalk.content
  dsimp only
  rw [if_neg (by omega)]
  congr 2
  omega

theorem AttrWalk.LengthsFit.inside {walk : AttrWalk} {stop : Nat}
    (bounded : ∀ attr_ptr, ie + 6 ≤ attr_ptr -> walk.more attr_ptr = true -> attr_ptr < stop)
    (fit : walk.LengthsFit target_attr_id (ie + 6) stop) :
    AttrInside (scan (walk.body target_attr_id) · (ie + 6))
      (fun rounds => (scan (walk.body target_attr_id) rounds (ie + 6)).map walk.content)
      walk.header ie stop := by
  have decreases : Throughout (walk.body target_attr_id) (fun attr_ptr => ∀ next,
      walk.body target_attr_id attr_ptr = .more next -> stop - next < stop - attr_ptr) (ie + 6) := by
    intro attr_ptr passes next goes
    rcases AttrWalk.body_more_iff.mp goes with ⟨more, complete, other, same⟩
    have below := bounded attr_ptr (AttrWalk.le_of_passes passes) more
    have nonzero := (fit attr_ptr passes more complete).1 other
    have positive := walk.positive
    have size := walk.attr_len_cases attr_ptr
    omega
  rcases Scanner.exists_scan_throughout (fun attr_ptr => stop - attr_ptr) decreases with ⟨found, success⟩
  refine ⟨_, found, walk.content found, success, congrArg (Option.map walk.content) success, ?_⟩
  rcases Scanner.passes_of_scan success with ⟨last, passes, done⟩
  cases found with
  | none => exact ⟨fun region impossible => (nomatch impossible), fun region impossible => (nomatch impossible)⟩
  | some region =>
      rcases AttrWalk.body_found_iff.mp done with ⟨more, complete, target, same⟩
      rcases (fit last passes more complete).2 target with ⟨unwrapped, ends⟩
      have begins := AttrWalk.le_of_passes passes
      rw [same]
      refine ⟨fun other equal => ?_, fun other equal => ?_⟩
      · rw [← Option.some.inj equal]
        exact ⟨by dsimp only; omega, ends⟩
      · by_cases empty : walk.attr_len last = 0
        · unfold AttrWalk.content at equal
          dsimp only at equal
          rw [if_pos empty] at equal
          cases equal
        · have size := walk.attr_len_cases last
          have positive := walk.positive
          rw [AttrWalk.content_eq (by omega) (by omega), Option.some.injEq] at equal
          rw [← equal]
          refine ⟨⟨?_, ?_⟩, walk.attr_len last, ?_, ?_⟩
          · dsimp only
            omega
          · dsimp only
            omega
          · dsimp only
            rw [Nat.add_sub_cancel]
          · dsimp only
            omega

theorem AttrWalk.lengthsFit_of_inside {walk : AttrWalk} {stop : Nat}
    (inside : AttrInside (scan (walk.body target_attr_id) · (ie + 6))
      (fun rounds => (scan (walk.body target_attr_id) rounds (ie + 6)).map walk.content)
      walk.header ie stop) :
    walk.LengthsFit target_attr_id (ie + 6) stop := by
  rcases inside with ⟨rounds, found, inner, success, content, attrInside, contentInside⟩
  intro attr_ptr passes more complete
  have size := walk.attr_len_cases attr_ptr
  rcases Scanner.scan_from_passed passes success with ⟨rest, later⟩
  refine ⟨fun other wraps => ?_, fun target => ?_⟩
  · -- the walk would stand still here
    have stuck : walk.body target_attr_id attr_ptr = .more attr_ptr :=
      AttrWalk.body_more_iff.mpr ⟨more, complete, other, by omega⟩
    rw [Scanner.scan_stuck stuck] at later
    cases later
  · have done : walk.body target_attr_id attr_ptr = .done (some (attr_ptr, walk.attr_len attr_ptr)) :=
      AttrWalk.body_found_iff.mpr ⟨more, complete, target, rfl⟩
    cases rest with
    | zero => cases later
    | succ rest =>
        rw [Scanner.scan_done done, Option.some.injEq] at later
        have ends := (attrInside _ later.symm).2
        refine ⟨?_, ends⟩
        by_cases empty : walk.attr_len attr_ptr = 0
        · omega
        · dsimp only at content success
          rw [success, Option.map_some, Option.some.injEq, ← later, AttrWalk.content, if_neg empty] at content
          rcases contentInside _ content.symm with ⟨_, attr_len, same, whole⟩
          rw [← later, Option.some.injEq, Prod.mk.injEq] at same
          rw [← same.2] at whole
          omega

/-- Looking for an attribute ends inside the element exactly for another kind of
element or for fitting lengths. -/
theorem AttrWalk.attrInside_iff {walk : AttrWalk} {stop : Nat}
    (bounded : ∀ attr_ptr, ie + 6 ≤ attr_ptr -> walk.more attr_ptr = true -> attr_ptr < stop)
    (is_ie : Bool) (target_attr_id : Nat) :
    AttrInside (walk.get is_ie ie target_attr_id)
        (fun rounds => (walk.get is_ie ie target_attr_id rounds).map walk.content) walk.header ie stop <->
      (is_ie = true -> walk.LengthsFit target_attr_id (ie + 6) stop) := by
  unfold AttrWalk.get
  cases is_ie with
  | false =>
      refine iff_of_true ⟨0, none, none, rfl, rfl, ?_, ?_⟩ (fun impossible => (nomatch impossible))
      · exact fun region impossible => (nomatch impossible)
      · exact fun region impossible => (nomatch impossible)
  | true => exact ⟨fun inside _ => lengthsFit_of_inside inside, fun fit => (fit rfl).inside bounded⟩

/-- Each of the three lookups, with its content variant, ends inside the element
exactly when the lengths that its walk meets fit. -/
theorem attr_lookups_inside_iff (mem : Nat -> UInt8) (ie ielen : Nat) :
    (∀ target_attr_id, AttrInside (rtw_get_wps_attr mem ie ielen target_attr_id)
        (rtw_get_wps_attr_content mem ie ielen target_attr_id) 4 ie (ie + ielen) <->
      (is_wps_ie mem ie = true ->
        (wps_walk mem ie ielen).LengthsFit target_attr_id (ie + 6) (ie + ielen))) ∧
    (∀ target_attr_id, AttrInside (rtw_get_p2p_attr mem ie ielen target_attr_id)
        (rtw_get_p2p_attr_content mem ie ielen target_attr_id) 3 ie (ie + ielen) <->
      (is_p2p_ie mem ie ielen = true ->
        (p2p_walk mem ie ielen).LengthsFit target_attr_id.toNat (ie + 6) (ie + ielen))) ∧
    (∀ target_attr_id, AttrInside (rtw_get_wfd_attr mem ie ielen target_attr_id)
        (rtw_get_wfd_attr_content mem ie ielen target_attr_id) 3 ie (ie + ielen) <->
      (is_wfd_ie mem ie ielen = true ->
        (wfd_walk mem ie ielen).LengthsFit target_attr_id.toNat (ie + 6) (ie + ielen))) := by
  refine ⟨fun target_attr_id => ?_, fun target_attr_id => ?_, fun target_attr_id => ?_⟩
  · refine AttrWalk.attrInside_iff (fun attr_ptr begins more => ?_) _ _
    have below := of_decide_eq_true more
    omega
  · refine AttrWalk.attrInside_iff (fun attr_ptr begins more => ?_) _ _
    have below := of_decide_eq_true more
    omega
  · refine AttrWalk.attrInside_iff (fun attr_ptr begins more => ?_) _ _
    have below := of_decide_eq_true more
    omega

/-- A WPS element whose only attribute declares a length of `0xFFFC`. -/
def wrapping_wps_ie (offset : Nat) : UInt8 :=
  [0xdd, 0x08, 0x00, 0x50, 0xf2, 0x04, 0x10, 0x4a, 0xff, 0xfc].getD offset 0

/-- A P2P element whose only attribute, 2, declares a length of `0xFFFF`. -/
def wrapping_p2p_ie (offset : Nat) : UInt8 :=
  [0xdd, 0x07, 0x50, 0x6f, 0x9a, 0x09, 0x02, 0xff, 0xff].getD offset 0

/-- The size of an attribute wraps to zero and the walk for another one stands
still; it wraps to two bytes and the content is longer than the address space. -/
theorem attr_lookups_wrap :
    (∀ rounds, rtw_get_wps_attr wrapping_wps_ie 0 10 0x1011 rounds = none) ∧
    rtw_get_p2p_attr_content wrapping_p2p_ie 0 9 2 1 = some (some (9, 2 ^ 32 - 1)) ∧
    (¬ ∀ mem ie ielen target_attr_id,
      AttrInside (rtw_get_wps_attr mem ie ielen target_attr_id)
        (rtw_get_wps_attr_content mem ie ielen target_attr_id) 4 ie (ie + ielen)) := by
  have stands : ∀ rounds, rtw_get_wps_attr wrapping_wps_ie 0 10 0x1011 rounds = none := by
    intro rounds
    exact Scanner.scan_stuck (AttrWalk.body_more_iff.mpr ⟨by decide, by decide, by decide, by decide⟩) rounds
  refine ⟨stands, by decide, fun all => ?_⟩
  rcases all wrapping_wps_ie 0 10 0x1011 with ⟨rounds, found, _, success, _⟩
  rw [stands] at success
  cases success

end Rtl8821ce
