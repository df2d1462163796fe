import Rtl8821ce.Ap.BeaconArea

/-!
# Inserting and removing elements of a beacon

The elements of a beacon are in the order of their ids.  `rtw_add_bcn_ie` goes to the element
with the id, or past the last one with a smaller id, and remembers where this one is and how long.
When it remembers no element, or one without data, it does nothing.
-/

namespace Rtl8821ce
namespace Beacon

open Scanner (Iteration scan)

/-- The locals of the scan; `p` is the place of the element that is remembered. -/
structure AddScan where
  i : Nat
  p : Option Nat
  ielen : Nat

/-- What the scan ends with. -/
structure AddFound where
  p : Option Nat
  ielen : Nat
  bmatch : Bool

def rtw_add_bcn_ie_body (pnetwork : WlanBssidEx) (index : UInt8) (l : AddScan) : Iteration AddScan AddFound :=
  if l.i < pnetwork.IELength then
    let Length := (pnetwork.IEs (l.i + 1)).toNat
    if index < pnetwork.IEs l.i then .done ⟨l.p, l.ielen, false⟩
    else if pnetwork.IEs l.i = index then .done ⟨some l.i, Length, true⟩
    else .more ⟨l.i + (Length + 2), some l.i, Length⟩
  else .done ⟨l.p, l.ielen, false⟩

/-- What `rtw_add_bcn_ie` does behind its scan. -/
def add_found (rtw_malloc : Nat -> Bool) (pnetwork : WlanBssidEx) (index : UInt8)
    (data : List UInt8) (found : AddFound) : WlanBssidEx :=
  match found.p with
  | none => pnetwork
  | some p =>
      if found.ielen = 0 then pnetwork
      else
        let ielen := found.ielen + 2
        let premainder_ie := p + ielen
        let remainder_ielen := uint_sub (uint_sub pnetwork.IELength p) ielen
        let dst_ie := if found.bmatch then p else p + ielen
        write_before rtw_malloc pnetwork premainder_ie remainder_ielen dst_ie
          (index :: UInt8.ofNat data.length :: data)

/-- `none` is a scan that is still running.  The length of the data is an `u8`. -/
def rtw_add_bcn_ie (rtw_malloc : Nat -> Bool) (pnetwork : WlanBssidEx) (index : UInt8)
    (data : List UInt8) : Option WlanBssidEx :=
  (scan (rtw_add_bcn_ie_body pnetwork index) (pnetwork.IELength + 1)
      ⟨_FIXED_IE_LENGTH_, none, 0⟩).map (add_found rtw_malloc pnetwork index data)

def rtw_remove_bcn_ie (rtw_malloc : Nat -> Bool) (pnetwork : WlanBssidEx) (index : UInt8) : Option WlanBssidEx :=
  (rtw_get_ie pnetwork.IEs _FIXED_IE_LENGTH_ index.toNat
      (pnetwork.IELength - _FIXED_IE_LENGTH_)).result.map fun found =>
    match found with
    | none => pnetwork
    | some p =>
        let ielen := (pnetwork.IEs (p + 1)).toNat
        if ielen = 0 then pnetwork
        else
          let ielen := ielen + 2
          write_before rtw_malloc pnetwork (p + ielen)
            (uint_sub (uint_sub pnetwork.IELength p) ielen) p []

/-! ## Where an element goes -/

/-- The elements that the scan passes, the one with the id at which it ends, and those behind. -/
structure Place where
  passed : List Element
  matched : Option Element
  behind : List Element

def place_of (index : UInt8) : List Element -> Place
  | [] => ⟨[], none, []⟩
  | element :: rest =>
      if index < element.id then ⟨[], none, element :: rest⟩
      else if element.id = index then ⟨[], some element, rest⟩
      else ⟨element :: (place_of index rest).passed, (place_of index rest).matched,
        (place_of index rest).behind⟩

/-- The element that is remembered, when `last` was passed before. -/
def Place.remembered (place : Place) (last : Option Element) : Option Element :=
  place.matched.or (place.passed.getLast?.or last)

/-- No element is remembered, or one without data: nothing is done. -/
def Place.idle (place : Place) : Bool :=
  (place.remembered none).all (fun element => element.body = [])

def Place.dst_ie (place : Place) : Nat := _FIXED_IE_LENGTH_ + (elements_bytes place.passed).length

/-- Bytes in the place of the element with the id, or before the elements that are behind. -/
def write_at (rtw_malloc : Nat -> Bool) (pnetwork : WlanBssidEx) (place : Place) (bytes : List UInt8) : WlanBssidEx :=
  write_before rtw_malloc pnetwork (place.dst_ie + (elements_bytes place.matched.toList).length)
    (elements_bytes place.behind).length place.dst_ie bytes

theorem place_of_split (index : UInt8) (elements : List Element) :
    elements = (place_of index elements).passed ++
      ((place_of index elements).matched.toList ++ (place_of index elements).behind) := by
  fun_induction place_of index elements with
  | case1 => rfl
  | case2 element rest larger => rfl
  | case3 element rest notLarger same => rfl
  | case4 element rest notLarger other ih => exact congrArg (element :: ·) ih

theorem passed_ne {index : UInt8} {elements : List Element} :
    ∀ element ∈ (place_of index elements).passed, element.id ≠ index := by
  fun_induction place_of index elements with
  | case1 => exact fun _ member => absurd member List.not_mem_nil
  | case2 element rest larger => exact fun _ member => absurd member List.not_mem_nil
  | case3 element rest notLarger same => exact fun _ member => absurd member List.not_mem_nil
  | case4 element rest notLarger other ih =>
      intro passed member
      rcases List.mem_cons.mp member with here | later
      · exact here ▸ other
      · exact ih passed later

theorem matched_id {index : UInt8} {elements : List Element} :
    ∀ old, (place_of index elements).matched = some old -> old.id = index := by
  fun_induction place_of index elements with
  | case1 => exact fun _ none_ => absurd none_ nofun
  | case2 element rest larger => exact fun _ none_ => absurd none_ nofun
  | case3 element rest notLarger same => exact fun old found => Option.some.inj found ▸ same
  | case4 element rest notLarger other ih => exact ih

theorem matched_none {index : UInt8} {elements : List Element} (absent : ∀ element ∈ elements, element.id ≠ index) :
    (place_of index elements).matched = none := by
  cases matched : (place_of index elements).matched with
  | none => rfl
  | some old =>
      have member : old ∈ elements := by
        rw [place_of_split index elements, matched]
        simp
      exact absurd (matched_id old matched) (absent old member)

variable {rtw_malloc : Nat -> Bool} {pnetwork : WlanBssidEx} {index : UInt8} {i : Nat}

/-- The locals when `last` is the element before a place. -/
def AddScan.behind (i : Nat) (last : Option Element) : AddScan :=
  ⟨i, last.map (fun element => i - element.bytes.length),
    (last.map (fun element => element.body.length)).getD 0⟩

/-- The element that is remembered, and where it is: the scan ends at a place. -/
def found_at (i : Nat) (place : Place) (last : Option Element) : AddFound :=
  match place.matched with
  | some old => ⟨some i, old.body.length, true⟩
  | none => ⟨(AddScan.behind i (place.passed.getLast?.or last)).p,
      (AddScan.behind i (place.passed.getLast?.or last)).ielen, false⟩

theorem add_scan (elements : List Element) (last : Option Element)
    (holds : HoldsBytes pnetwork.IEs i (elements_bytes elements))
    (ends : i + (elements_bytes elements).length = pnetwork.IELength) {fuel : Nat} (enough : elements.length < fuel) :
    scan (rtw_add_bcn_ie_body pnetwork index) fuel (AddScan.behind i last) =
      some (found_at (i + (elements_bytes (place_of index elements).passed).length)
        (place_of index elements) last) := by
  induction elements generalizing i last fuel with
  | nil =>
      cases fuel with
      | zero => exact absurd enough (Nat.not_lt_zero _)
      | succ fuel =>
          have ended : ¬ (AddScan.behind i last).i < pnetwork.IELength :=
            Nat.not_lt.mpr (Nat.le_of_eq ends.symm)
          have done : rtw_add_bcn_ie_body pnetwork index (AddScan.behind i last) =
              .done (found_at i ⟨[], none, []⟩ last) := if_neg ended
          exact Scanner.scan_done done fuel
  | cons element rest ih =>
      cases fuel with
      | zero => exact absurd enough (Nat.not_lt_zero _)
      | succ fuel =>
          rw [elements_bytes_cons] at holds ends
          rw [List.length_append] at ends
          have there := elementAt holds
          have size := element.length_bytes
          have length : (pnetwork.IEs (i + 1)).toNat = element.body.length := by
            have ie_size := there.size
            rw [Rtl8821ce.ie_size, size] at ie_size
            omega
          have inside : (AddScan.behind i last).i < pnetwork.IELength := by
            change i < _
            omega
          by_cases larger : index < element.id
          · have done : rtw_add_bcn_ie_body pnetwork index (AddScan.behind i last) =
                .done (found_at i ⟨[], none, element :: rest⟩ last) := by
              rw [rtw_add_bcn_ie_body, if_pos inside]
              exact if_pos (there.id.symm ▸ larger)
            rw [Scanner.scan_done done, place_of, if_pos larger]
            rfl
          by_cases same : element.id = index
          · have done : rtw_add_bcn_ie_body pnetwork index (AddScan.behind i last) =
                .done (found_at i ⟨[], some element, rest⟩ last) := by
              rw [rtw_add_bcn_ie_body, if_pos inside]
              simp only [AddScan.behind, there.id, if_neg larger, if_pos same, length]
              rfl
            rw [Scanner.scan_done done, place_of, if_neg larger, if_pos same]
            rfl
          · have more : rtw_add_bcn_ie_body pnetwork index (AddScan.behind i last) =
                .more (AddScan.behind (i + element.bytes.length) (some element)) := by
              rw [rtw_add_bcn_ie_body, if_pos inside]
              simp only [AddScan.behind, there.id, if_neg larger, if_neg same, length,
                Option.map_some, Option.getD_some, size, Nat.add_sub_cancel]
            rw [Scanner.scan_more more, ih (some element) there.behind (by omega)
              (Nat.lt_of_succ_lt_succ enough), place_of, if_neg larger, if_neg same]
            have place : i + element.bytes.length +
                (elements_bytes (place_of index rest).passed).length =
                  i + (elements_bytes (element :: (place_of index rest).passed)).length := by
              rw [elements_bytes_cons, List.length_append, Nat.add_assoc]
            have newest : (place_of index rest).passed.getLast?.or (some element) =
                (element :: (place_of index rest).passed).getLast?.or last := by
              rw [List.getLast?_cons, Option.some_or]
              cases (place_of index rest).passed.getLast? with
              | none => rfl
              | some later => rfl
            rw [place]
            simp only [found_at, newest]

theorem length_last_le {elements : List Element} {last : Element} (found : elements.getLast? = some last) :
    last.bytes.length ≤ (elements_bytes elements).length := by
  rcases List.getLast?_eq_some_iff.mp found with ⟨earlier, rfl⟩
  rw [length_elements_bytes_append, elements_bytes_cons, List.length_append]
  omega

theorem add_found_eq (place : Place) (data : List UInt8)
    (total : pnetwork.IELength = place.dst_ie + (elements_bytes place.matched.toList).length +
      (elements_bytes place.behind).length)
    (small : pnetwork.IELength < 2 ^ 32) :
    add_found rtw_malloc pnetwork index data (found_at place.dst_ie place none) =
      if place.idle then pnetwork
      else write_at rtw_malloc pnetwork place (index :: UInt8.ofNat data.length :: data) := by
  rcases place with ⟨passed, matched, behind⟩
  simp only [Place.dst_ie] at total
  rw [total] at small
  unfold add_found write_at Place.idle
  simp only [total, Place.dst_ie]
  cases matched with
  | some old =>
      have size := old.length_bytes
      have one : (elements_bytes (some old).toList).length = old.body.length + 2 := by
        rw [Option.toList_some, elements_bytes_cons, List.length_append, size]
        rfl
      simp only [one] at small ⊢
      simp only [found_at, Place.remembered, Option.some_or, Option.all_some, decide_eq_true_eq,
        List.length_eq_zero_iff, if_true]
      rw [remainder_eq small]
  | none =>
      have none_ : (elements_bytes (none : Option Element).toList).length = 0 := rfl
      simp only [none_, Nat.add_zero] at small ⊢
      cases newest : passed.getLast? with
      | none => simp [found_at, Place.remembered, newest, AddScan.behind]
      | some last =>
          have size := last.length_bytes
          have within := length_last_le newest
          have start : _FIXED_IE_LENGTH_ + (elements_bytes passed).length =
              (_FIXED_IE_LENGTH_ + (elements_bytes passed).length - last.bytes.length) +
                (last.body.length + 2) := by omega
          simp only [found_at, Place.remembered, newest, AddScan.behind, Option.none_or,
            Option.some_or, Option.map_some, Option.getD_some, Option.all_some, decide_eq_true_eq,
            List.length_eq_zero_iff, Bool.false_eq_true, if_false]
          have remainder := @remainder_eq
            (_FIXED_IE_LENGTH_ + (elements_bytes passed).length - last.bytes.length)
            (last.body.length + 2) (elements_bytes behind).length (by omega)
          rw [<- start] at remainder
          rw [<- start, remainder]

theorem dst_ie_add {elements : List Element} (area : Holds pnetwork elements) (index : UInt8) :
    pnetwork.IELength = (place_of index elements).dst_ie +
      (elements_bytes (place_of index elements).matched.toList).length +
        (elements_bytes (place_of index elements).behind).length := by
  have whole := congrArg (fun all => (elements_bytes all).length) (place_of_split index elements)
  simp only [length_elements_bytes_append] at whole
  rw [area.length, whole]
  simp only [Place.dst_ie, Nat.add_assoc]

theorem rtw_add_bcn_ie_eq {elements : List Element} (area : Holds pnetwork elements) (data : List UInt8) :
    rtw_add_bcn_ie rtw_malloc pnetwork index data =
      some (if (place_of index elements).idle then pnetwork
        else write_at rtw_malloc pnetwork (place_of index elements)
          (index :: UInt8.ofNat data.length :: data)) := by
  have enough : elements.length < pnetwork.IELength + 1 := by
    have count := length_le_length_elements_bytes elements
    rw [area.length]
    omega
  have scanned := @add_scan pnetwork index _FIXED_IE_LENGTH_ elements none area.holds
    area.length.symm _ enough
  have start : (⟨_FIXED_IE_LENGTH_, none, 0⟩ : AddScan) = AddScan.behind _FIXED_IE_LENGTH_ none := rfl
  rw [rtw_add_bcn_ie, start, scanned, Option.map_some]
  refine congrArg some (add_found_eq _ data (dst_ie_add area index) ?_)
  exact Nat.lt_of_le_of_lt area.fits (by decide)

/-! ## When the element is inserted, and removed again -/

/-- The elements after a new one came: it replaces the first one with its id, or is inserted
before every one with its id. -/
def Exchanged (elements after : List Element) (new : Element) : Prop :=
  ∃ before, ∃ behind,
    (∀ element ∈ before, element.id ≠ new.id) ∧ after = before ++ new :: behind ∧
      (elements = before ++ behind ∨
        ∃ old, old.id = new.id ∧ elements = before ++ old :: behind)

def Added (pnetwork after : WlanBssidEx) (elements : List Element) (new : Element) : Prop :=
  Tidy pnetwork after ∧
    ∃ elements', Exchanged elements elements' new ∧ Holds after elements'

def Restored (pnetwork after : WlanBssidEx) : Prop :=
  after.IELength = pnetwork.IELength ∧
    ∀ place, place < pnetwork.IELength -> after.IEs place = pnetwork.IEs place

/-- The element is added, and when its id was absent, removing it restores the area. -/
def AddedAndRemoved (malloc_add malloc_remove : Nat -> Bool) (pnetwork : WlanBssidEx)
    (elements : List Element) (new : Element) : Prop :=
  ∃ added, rtw_add_bcn_ie malloc_add pnetwork new.id new.body = some added ∧
    Added pnetwork added elements new ∧
    ((∀ element ∈ elements, element.id ≠ new.id) ->
      ∃ removed, rtw_remove_bcn_ie malloc_remove added new.id = some removed ∧
        Restored pnetwork removed)

/-- The scan remembers an element with data, the area has room, and the elements behind the new
one are saved or stand in their place already. -/
structure CanWrite (malloc_add : Nat -> Bool) (pnetwork : WlanBssidEx) (place : Place)
    (new : Element) : Prop where
  remembers : place.idle = false
  room : place.dst_ie + new.bytes.length + (elements_bytes place.behind).length ≤ MAX_IE_SZ
  kept : malloc_add (elements_bytes place.behind).length = true ∨
    HoldsBytes pnetwork.IEs (place.dst_ie + new.bytes.length) (elements_bytes place.behind)

/-- A new element can be removed: it has data, and the elements behind it are saved or begin
with its own bytes. -/
structure CanRemove (malloc_remove : Nat -> Bool) (place : Place) (new : Element) : Prop where
  data : new.body ≠ []
  kept : malloc_remove (elements_bytes place.behind).length = true ∨
    elements_bytes place.behind <+: new.bytes ++ elements_bytes place.behind

/-- The element is written, or it is there already and nothing is done. -/
def CanAdd (malloc_add malloc_remove : Nat -> Bool) (pnetwork : WlanBssidEx)
    (elements : List Element) (new : Element) : Prop :=
  let place := place_of new.id elements
  (CanWrite malloc_add pnetwork place new ∨
      place.idle = true ∧ elements.find? (fun element => element.id = new.id) = some new) ∧
    ((∀ element ∈ elements, element.id ≠ new.id) ->
      CanRemove malloc_remove place new)

variable {malloc_add malloc_remove : Nat -> Bool} {after : WlanBssidEx} {elements : List Element}
  {new : Element}

theorem added_same_iff (area : Holds pnetwork elements) :
    Added pnetwork pnetwork elements new <->
      elements.find? (fun element => element.id = new.id) = some new := by
  constructor
  · rintro ⟨_, elements', ⟨before, behind, other, rfl, kind⟩, there⟩
    have length := area.length.symm.trans there.length
    rw [length_elements_bytes_append, elements_bytes_cons, List.length_append] at length
    have size := new.length_bytes
    rcases kind with inserted | ⟨old, same, replaced⟩
    · rw [inserted, length_elements_bytes_append] at length
      omega
    · have old_ := area.holds
      have new_ := there.holds
      rw [replaced, length_elements_bytes_append, elements_bytes_cons, List.length_append] at length
      rw [replaced, elements_bytes_append, elements_bytes_cons, HoldsBytes.append_iff,
        HoldsBytes.append_iff] at old_
      rw [elements_bytes_append, elements_bytes_cons, HoldsBytes.append_iff, HoldsBytes.append_iff] at new_
      have equal : old = new := by
        apply Element.ext_of_bytes
        have sameLength : old.bytes.length = new.bytes.length := by omega
        have oldBytes := old_.2.1
        have newBytes := new_.2.1
        unfold HoldsBytes at oldBytes newBytes
        rw [<- oldBytes, <- newBytes, sameLength]
      rw [replaced, equal, List.find?_append, List.find?_eq_none.mpr (by simpa using other)]
      simp
  · intro found
    rcases List.find?_eq_some_iff_append.mp found with ⟨_, before, behind, parts, other⟩
    refine ⟨⟨fun _ _ => rfl, fun _ written => .inl written⟩, elements, ?_, area⟩
    refine ⟨before, behind, ?_, parts, .inr ⟨new, rfl, parts⟩⟩
    intro element member
    simpa using other element member

theorem same_behind {place : Place} {behind : List Element} {id : UInt8}
    (split : elements = place.passed ++ (place.matched.toList ++ place.behind))
    (kind : elements = place.passed ++ behind ∨
      ∃ old, old.id = id ∧ elements = place.passed ++ old :: behind)
    (sameLength : (elements_bytes place.behind).length = (elements_bytes behind).length) :
    place.behind = behind := by
  have longer : ∀ (element : Element) (rest : List Element),
      (elements_bytes (element :: rest)).length = element.body.length + 2 +
        (elements_bytes rest).length := by
    intro element rest
    rw [elements_bytes_cons, List.length_append, Element.length_bytes]
  rw [split] at kind
  simp only [List.append_cancel_left_eq] at kind
  cases matched : place.matched with
  | none =>
      rw [matched] at kind
      rcases kind with inserted | ⟨old, _, replaced⟩
      · exact inserted
      · have lengths := congrArg (fun all => (elements_bytes all).length) replaced
        simp only [Option.toList_none, List.nil_append, longer] at lengths
        omega
  | some old =>
      rw [matched] at kind
      rcases kind with inserted | ⟨_, _, replaced⟩
      · have lengths := congrArg (fun all => (elements_bytes all).length) inserted
        simp only [Option.toList_some, List.singleton_append, longer] at lengths
        omega
      · exact (List.cons.inj replaced).2

section

variable (area : Holds pnetwork elements)

include area

theorem area_parts :
    HoldsBytes pnetwork.IEs _FIXED_IE_LENGTH_ (elements_bytes (place_of new.id elements).passed) ∧
      HoldsBytes pnetwork.IEs ((place_of new.id elements).dst_ie +
        (elements_bytes (place_of new.id elements).matched.toList).length)
          (elements_bytes (place_of new.id elements).behind) := by
  have holds := area.holds
  rw [place_of_split new.id elements, elements_bytes_append, elements_bytes_append,
    HoldsBytes.append_iff, HoldsBytes.append_iff] at holds
  exact ⟨holds.1, holds.2.2⟩

theorem written_front :
    HoldsBytes (write_at malloc_add pnetwork (place_of new.id elements) new.bytes).IEs
        _FIXED_IE_LENGTH_ (elements_bytes (place_of new.id elements).passed) ∧
      HoldsBytes (write_at malloc_add pnetwork (place_of new.id elements) new.bytes).IEs
        (place_of new.id elements).dst_ie new.bytes := by
  rcases @area_parts pnetwork elements new area with ⟨front, tail⟩
  exact ⟨front.congr (fun at_ _ below => write_before_front tail below), write_before_new tail⟩

theorem written_length :
    (write_at malloc_add pnetwork (place_of new.id elements) new.bytes).IELength =
      (place_of new.id elements).dst_ie + new.bytes.length +
        (elements_bytes (place_of new.id elements).behind).length := by
  have total := dst_ie_add area new.id
  have fits := area.fits
  have maximum : MAX_IE_SZ = 768 := rfl
  have size := new.length_bytes
  have small := new.small
  exact write_before_length (by omega)

/-- The area in which the new element is written holds the right elements when there is room and
the elements behind it are kept. -/
theorem written_holds_iff :
    Holds (write_at malloc_add pnetwork (place_of new.id elements) new.bytes)
        ((place_of new.id elements).passed ++ new :: (place_of new.id elements).behind) <->
      (place_of new.id elements).dst_ie + new.bytes.length +
          (elements_bytes (place_of new.id elements).behind).length ≤ MAX_IE_SZ ∧
        (malloc_add (elements_bytes (place_of new.id elements).behind).length = true ∨
          HoldsBytes pnetwork.IEs ((place_of new.id elements).dst_ie + new.bytes.length)
            (elements_bytes (place_of new.id elements).behind)) := by
  have holds := area.holds
  have total := dst_ie_add area new.id
  have fits := area.fits
  rw [place_of_split new.id elements, elements_bytes_append, elements_bytes_append] at holds
  refine replaced_holds_iff holds ?_
  rw [Place.dst_ie] at total
  omega

theorem added_written_iff :
    Added pnetwork (write_at malloc_add pnetwork (place_of new.id elements) new.bytes) elements new <->
      Holds (write_at malloc_add pnetwork (place_of new.id elements) new.bytes)
        ((place_of new.id elements).passed ++ new :: (place_of new.id elements).behind) := by
  have tail := (@area_parts pnetwork elements new area).2
  have length := @written_length pnetwork malloc_add elements new area
  rcases @written_front pnetwork malloc_add elements new area with ⟨front, newBytes⟩
  have split := place_of_split new.id elements
  constructor
  · rintro ⟨_, elements', ⟨before, behind, other, rfl, kind⟩, there⟩
    have holds := there.holds
    rw [elements_bytes_append, elements_bytes_cons] at holds
    have written : HoldsBytes _ _ (elements_bytes _ ++ (new.bytes ++ [])) :=
      HoldsBytes.append_iff.mpr ⟨front, (List.append_nil new.bytes).symm ▸ newBytes⟩
    have sameFront : before = (place_of new.id elements).passed :=
      same_front holds written other rfl passed_ne rfl
    have counted := length.symm.trans there.length
    rw [sameFront, length_elements_bytes_append, elements_bytes_cons, List.length_append, Place.dst_ie] at counted
    have same : (place_of new.id elements).behind = behind := same_behind split (sameFront ▸ kind) (by omega)
    rw [sameFront, <- same] at there
    exact there
  · intro there
    refine ⟨⟨fun at_ fixed => write_before_front tail ?_, fun at_ written => ?_⟩, _, ?_, there⟩
    · exact Nat.lt_of_lt_of_le fixed (Nat.le_add_right _ _)
    · refine (write_before_written tail written).imp_right (fun below => ?_)
      exact Nat.lt_of_lt_of_le below (length ▸ there.fits)
    · refine ⟨_, _, passed_ne, rfl, ?_⟩
      cases matched : (place_of new.id elements).matched with
      | none => exact .inl (by rw [matched] at split; exact split)
      | some old =>
          exact .inr ⟨old, matched_id old matched, by rw [matched] at split; exact split⟩

theorem restored_holds_iff {removed : WlanBssidEx} (absent : ∀ element ∈ elements, element.id ≠ new.id)
    (length : removed.IELength = pnetwork.IELength) (front : ∀ at_, at_ < (place_of new.id elements).dst_ie ->
      removed.IEs at_ = pnetwork.IEs at_) :
    Restored pnetwork removed <->
      HoldsBytes removed.IEs (place_of new.id elements).dst_ie
        (elements_bytes (place_of new.id elements).behind) := by
  have total := dst_ie_add area new.id
  have tail := (@area_parts pnetwork elements new area).2
  rw [matched_none absent] at total tail
  simp only [Option.toList_none, elements_bytes, List.flatMap_nil, List.length_nil, Nat.add_zero]
    at total tail
  constructor
  · rintro ⟨_, same⟩
    exact tail.congr (fun at_ _ below => same at_ (Nat.lt_of_lt_of_eq below total.symm))
  · intro kept
    refine ⟨length, fun at_ below => ?_⟩
    by_cases early : at_ < (place_of new.id elements).dst_ie
    · exact front at_ early
    · exact HoldsBytes.same_cell kept tail (Nat.not_lt.mp early) (Nat.lt_of_lt_of_eq below total)

theorem restored_iff (absent : ∀ element ∈ elements, element.id ≠ new.id) {added : WlanBssidEx}
    (front : ∀ at_, at_ < (place_of new.id elements).dst_ie ->
      added.IEs at_ = pnetwork.IEs at_)
    (there : Holds added
      ((place_of new.id elements).passed ++ new :: (place_of new.id elements).behind)) :
    (∃ removed, rtw_remove_bcn_ie malloc_remove added new.id = some removed ∧
        Restored pnetwork removed) <->
      CanRemove malloc_remove (place_of new.id elements) new := by
  have total := dst_ie_add area new.id
  rw [matched_none absent] at total
  have total' := there.length
  have fits := there.fits
  have maximum : MAX_IE_SZ = 768 := rfl
  have size := new.length_bytes
  have holds := there.holds
  rw [length_elements_bytes_append, elements_bytes_cons, List.length_append, <- Nat.add_assoc]
    at total'
  rw [elements_bytes_append, elements_bytes_cons, HoldsBytes.append_iff] at holds
  have element := elementAt holds.2
  have found := get_ie_found there rfl passed_ne
  have restored := @restored_holds_iff pnetwork elements new area
  change added.IELength = (place_of new.id elements).dst_ie + _ at total'
  change ElementAt added.IEs (place_of new.id elements).dst_ie new _ at element
  change _ = some (some (place_of new.id elements).dst_ie) at found
  have data : (added.IEs ((place_of new.id elements).dst_ie + 1)).toNat = new.body.length := by
    have ie_size := element.size
    rw [Rtl8821ce.ie_size, size] at ie_size
    omega
  have remainder := @remainder_eq (place_of new.id elements).dst_ie new.bytes.length
    (elements_bytes (place_of new.id elements).behind).length (by omega)
  rw [Nat.add_assoc, <- total'] at remainder
  rw [rtw_remove_bcn_ie, found, Option.map_some]
  simp only [data, Option.some.injEq, exists_eq_left']
  by_cases empty : new.body = []
  · rw [if_pos (List.length_eq_zero_iff.mpr empty)]
    refine iff_of_false (fun same => ?_) (fun can => can.data empty)
    have length := same.1
    simp only [Option.toList_none, elements_bytes, List.flatMap_nil, List.length_nil] at *
    omega
  · rw [if_neg (fun zero => empty (List.length_eq_zero_iff.mp zero)), <- size, remainder, restored absent]
    · have written := @write_before_holds_iff malloc_remove added
        (place_of new.id elements).dst_ie _ [] _ element.behind
      rw [List.nil_append] at written
      rw [written]
      constructor
      · rintro (saved | stands)
        · exact ⟨empty, .inl saved⟩
        · refine ⟨empty, .inr (holds.2.prefix_of stands ?_)⟩
          rw [List.length_append]
          exact Nat.le_add_left _ _
      · intro can
        exact can.kept.imp_right holds.2.of_front
    · rw [write_before_length (by rw [List.length_nil]; omega), total]
      rfl
    · intro at_ early
      rw [write_before_front element.behind early]
      exact front at_ early

end

/-- Adding an element and removing it: exactly when it can be written, or is there already and
nothing is done, and a new one can be removed. -/
theorem added_and_removed_iff (area : Holds pnetwork elements) :
    AddedAndRemoved malloc_add malloc_remove pnetwork elements new <->
      CanAdd malloc_add malloc_remove pnetwork elements new := by
  unfold AddedAndRemoved CanAdd
  rw [rtw_add_bcn_ie_eq area new.body]
  simp only [Option.some.injEq, exists_eq_left']
  cases nothing : (place_of new.id elements).idle with
  | true =>
      rw [if_pos rfl, added_same_iff area]
      constructor
      · rintro ⟨found, _⟩
        refine ⟨.inr ⟨rfl, found⟩, fun absent => ?_⟩
        exact absurd rfl (absent new (List.mem_of_find?_eq_some found))
      · rintro ⟨can | ⟨_, found⟩, _⟩
        · exact absurd (can.remembers.symm.trans nothing) nofun
        · refine ⟨found, fun absent => ?_⟩
          exact absurd rfl (absent new (List.mem_of_find?_eq_some found))
  | false =>
      have canWrite : CanWrite malloc_add pnetwork (place_of new.id elements) new <-> _ :=
        ⟨fun can => And.intro can.room can.kept, fun can => ⟨nothing, can.1, can.2⟩⟩
      rw [if_neg Bool.false_ne_true, or_iff_left (fun both => Bool.false_ne_true both.1), canWrite,
        <- written_holds_iff area]
      refine (and_congr_left' (added_written_iff area)).trans ?_
      refine and_congr_right (fun there => forall_congr' (fun absent => ?_))
      refine restored_iff area absent (fun at_ early => ?_) there
      exact write_before_front (area_parts area).2 early

/-- The supported rates go between the SSID and the channel. -/
theorem added_and_removed_rates : AddedAndRemoved (fun _ => true) (fun _ => true)
    (beacon_of [⟨0, [97], by decide⟩, ⟨3, [6], by decide⟩])
    [⟨0, [97], by decide⟩, ⟨3, [6], by decide⟩] ⟨1, [130], by decide⟩ := by
  refine (added_and_removed_iff ⟨rfl, by decide, by decide⟩).mpr ?_
  exact ⟨.inl ⟨by decide, by decide, .inl rfl⟩, fun _ => ⟨by decide, .inl rfl⟩⟩

/-- A beacon that hides its SSID: the supported rates do not come into it. -/
theorem hidden_ssid_not_added :
    Holds (beacon_of [⟨0, [], by decide⟩, ⟨3, [6], by decide⟩])
        [⟨0, [], by decide⟩, ⟨3, [6], by decide⟩] ∧
      ¬ AddedAndRemoved (fun _ => true) (fun _ => true)
        (beacon_of [⟨0, [], by decide⟩, ⟨3, [6], by decide⟩])
        [⟨0, [], by decide⟩, ⟨3, [6], by decide⟩] ⟨1, [130], by decide⟩ := by
  have area : Holds (beacon_of [⟨0, [], by decide⟩, ⟨3, [6], by decide⟩])
      [⟨0, [], by decide⟩, ⟨3, [6], by decide⟩] :=
    ⟨rfl, by decide, by decide⟩
  refine ⟨area, ?_⟩
  rintro ⟨added, result, right, _⟩
  rw [rtw_add_bcn_ie_eq area] at result
  have nothing := Option.some.inj result
  rw [if_pos (by decide)] at nothing
  rw [<- nothing, added_same_iff area] at right
  exact absurd right nofun

end Beacon
end Rtl8821ce
