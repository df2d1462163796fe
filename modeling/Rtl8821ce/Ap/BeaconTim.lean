import Rtl8821ce.Ap.TimElement

/-!
# Updating the traffic indication map of a beacon

`update_BCNTIM` replaces the first TIM element.  When the beacon has none it inserts one behind the
SSID, the supported rates and a DS parameter set.  It adds up the lengths of these, wherever they
are, and counts three bytes for the last one, whether it is there or not.
-/

namespace Rtl8821ce
namespace Beacon

variable {old : Element}

/-- `rtw_get_ie` behind the fixed bytes. -/
def get_bcn_ie (pnetwork : WlanBssidEx) (index : UInt8) : Option (Option Nat) :=
  (rtw_get_ie pnetwork.IEs _FIXED_IE_LENGTH_ index.toNat
    (pnetwork.IELength - _FIXED_IE_LENGTH_)).result

/-- What an element that was found adds to the offset. -/
def head_len (pnetwork : WlanBssidEx) : Option Nat -> Nat
  | none => 0
  | some p => (pnetwork.IEs (p + 1)).toNat + 2

/-- `none` is a search that is still running. -/
def update_BCNTIM (rtw_malloc : Nat -> Bool) (pnetwork : WlanBssidEx) (tim_bitmap : List UInt8) :
    Option WlanBssidEx :=
  let tim := rtw_set_tim_ie 0 1 tim_bitmap
  (get_bcn_ie pnetwork _TIM_IE_).bind fun p =>
    match p.filter (fun p => 0 < (pnetwork.IEs (p + 1)).toNat) with
    | some p =>
        let tim_ielen := (pnetwork.IEs (p + 1)).toNat + 2
        some (write_before rtw_malloc pnetwork (p + tim_ielen)
          (uint_sub (uint_sub pnetwork.IELength p) tim_ielen) p tim)
    | none =>
        (get_bcn_ie pnetwork _SSID_IE_).bind fun ssid =>
          (get_bcn_ie pnetwork _SUPPORTEDRATES_IE_).bind fun rates =>
            -- DS Parameter Set IE, len=3
            let offset := _FIXED_IE_LENGTH_ + head_len pnetwork ssid + head_len pnetwork rates + 3
            some (write_before rtw_malloc pnetwork offset
              (uint_sub (uint_sub pnetwork.IELength offset) 0) offset tim)

variable {rtw_malloc : Nat -> Bool} {pnetwork : WlanBssidEx} {elements : List Element}
  {tim_bitmap : List UInt8} {index : UInt8}

def Without (index : UInt8) (elements : List Element) : Prop :=
  ∀ element ∈ elements, element.id ≠ index

def first_size (elements : List Element) (index : UInt8) : Nat :=
  ((elements.find? (fun element => element.id = index)).map (fun element => element.bytes.length)).getD 0

def tim_offset (elements : List Element) : Nat :=
  _FIXED_IE_LENGTH_ + first_size elements _SSID_IE_ + first_size elements _SUPPORTEDRATES_IE_ + 3

theorem find_none_iff : elements.find? (fun element => element.id = index) = none <-> Without index elements := by
  rw [List.find?_eq_none]
  exact forall_congr' (fun element => imp_congr_right (fun _ => not_congr decide_eq_true_iff))

theorem find_some_iff :
    elements.find? (fun element => element.id = index) = some old <->
      old.id = index ∧ ∃ before, ∃ behind,
        elements = before ++ old :: behind ∧ Without index before := by
  rw [List.find?_eq_some_iff_append, decide_eq_true_iff]
  refine and_congr_right (fun _ => exists_congr (fun before => exists_congr (fun behind => ?_)))
  refine and_congr_right (fun _ => forall_congr' (fun element => imp_congr_right (fun _ => ?_)))
  rw [Bool.not_eq_true', decide_eq_false_iff_not]

theorem get_bcn_ie_found {before behind : List Element}
    (area : Holds pnetwork (before ++ old :: behind)) (same : old.id = index) (first : Without index before) :
    get_bcn_ie pnetwork index = some (some (_FIXED_IE_LENGTH_ + (elements_bytes before).length)) :=
  get_ie_found area same first

theorem length_byte {before behind : List Element} (area : Holds pnetwork (before ++ old :: behind)) :
    (pnetwork.IEs (_FIXED_IE_LENGTH_ + (elements_bytes before).length + 1)).toNat =
      old.body.length := by
  have holds := area.holds
  rw [elements_bytes_append, elements_bytes_cons, HoldsBytes.append_iff] at holds
  have size := (elementAt holds.2).size
  rw [ie_size, Element.length_bytes] at size
  omega

theorem get_bcn_ie_size (area : Holds pnetwork elements) (index : UInt8) :
    ∃ p, get_bcn_ie pnetwork index = some p ∧
      head_len pnetwork p = first_size elements index := by
  cases found : elements.find? (fun element => element.id = index) with
  | none =>
      refine ⟨none, get_ie_absent area (find_none_iff.mp found), ?_⟩
      rw [first_size, found]
      rfl
  | some old =>
      rcases find_some_iff.mp found with ⟨same, before, behind, rfl, first⟩
      refine ⟨_, get_bcn_ie_found area same first, ?_⟩
      rw [head_len, length_byte area, first_size, found]
      rfl

theorem update_BCNTIM_replaces {before behind : List Element}
    (area : Holds pnetwork (before ++ old :: behind)) (same : old.id = _TIM_IE_)
    (first : Without _TIM_IE_ before) (data : old.body ≠ []) :
    update_BCNTIM rtw_malloc pnetwork tim_bitmap =
      some (write_before rtw_malloc pnetwork
        (_FIXED_IE_LENGTH_ + (elements_bytes before).length + old.bytes.length)
        (elements_bytes behind).length (_FIXED_IE_LENGTH_ + (elements_bytes before).length)
        (rtw_set_tim_ie 0 1 tim_bitmap)) := by
  have total := area.length
  have fits := area.fits
  have maximum : MAX_IE_SZ = 768 := rfl
  have length := length_byte area
  have size := old.length_bytes
  have some_ := List.length_pos_iff.mpr data
  rw [length_elements_bytes_append, elements_bytes_cons, List.length_append] at total
  have remainder : uint_sub (uint_sub pnetwork.IELength
      (_FIXED_IE_LENGTH_ + (elements_bytes before).length)) (old.body.length + 2) =
        (elements_bytes behind).length := by
    rw [show pnetwork.IELength = _FIXED_IE_LENGTH_ + (elements_bytes before).length +
      (old.body.length + 2) + (elements_bytes behind).length by omega]
    exact remainder_eq (by omega)
  rw [update_BCNTIM, get_bcn_ie_found area same first, Option.bind_some]
  simp only [Option.filter_some, length, some_, decide_true, if_true, remainder, size]

theorem update_BCNTIM_inserts (area : Holds pnetwork elements)
    (none_ : ∀ old, elements.find? (fun element => element.id = _TIM_IE_) = some old ->
      old.body = []) :
    update_BCNTIM rtw_malloc pnetwork tim_bitmap =
      some (write_before rtw_malloc pnetwork (tim_offset elements)
        (uint_sub pnetwork.IELength (tim_offset elements)) (tim_offset elements)
        (rtw_set_tim_ie 0 1 tim_bitmap)) := by
  rcases get_bcn_ie_size area _SSID_IE_ with ⟨ssid, foundSsid, ssidSize⟩
  rcases get_bcn_ie_size area _SUPPORTEDRATES_IE_ with ⟨rates, foundRates, ratesSize⟩
  have zero : ∀ a, uint_sub (uint_sub pnetwork.IELength a) 0 = uint_sub pnetwork.IELength a := by
    intro a
    unfold uint_sub
    omega
  have nothing : ∃ p, get_bcn_ie pnetwork _TIM_IE_ = some p ∧
      p.filter (fun p => 0 < (pnetwork.IEs (p + 1)).toNat) = none := by
    cases found : elements.find? (fun element => element.id = _TIM_IE_) with
    | none => exact ⟨none, get_ie_absent area (find_none_iff.mp found), rfl⟩
    | some old =>
        rcases find_some_iff.mp found with ⟨same, before, behind, rfl, first⟩
        refine ⟨_, get_bcn_ie_found area same first, ?_⟩
        rw [Option.filter_some, length_byte area, none_ old found]
        rfl
  rcases nothing with ⟨p, found, filtered⟩
  rw [update_BCNTIM, found, Option.bind_some, filtered]
  simp only [foundSsid, foundRates, Option.bind_some, ssidSize, ratesSize, zero]
  rfl

/-- The elements around the TIM: it replaces the first one, or there was none. -/
def Renewed (elements before behind : List Element) : Prop :=
  Without _TIM_IE_ before ∧
    (elements = before ++ behind ∧ Without _TIM_IE_ behind ∨
      ∃ old, old.id = _TIM_IE_ ∧ elements = before ++ old :: behind)

/-- The area has the elements that it had but for one TIM, and this one tells the bitmap. -/
def TimUpdated (pnetwork after : WlanBssidEx) (elements : List Element) (tim_bitmap : List UInt8) : Prop :=
  Tidy pnetwork after ∧ ∃ before tim, ∃ behind,
    Renewed elements before behind ∧ tim.bytes = rtw_set_tim_ie 0 1 tim_bitmap ∧
      Tells tim.body tim_bitmap ∧ Holds after (before ++ tim :: behind)

def UpdatesTim (rtw_malloc : Nat -> Bool) (pnetwork : WlanBssidEx) (elements : List Element)
    (tim_bitmap : List UInt8) : Prop :=
  ∃ after, update_BCNTIM rtw_malloc pnetwork tim_bitmap = some after ∧
    TimUpdated pnetwork after elements tim_bitmap

/-- There is room for the TIM in the place of the old one, and the elements behind it are saved or
stand in their place already. -/
structure CanReplace (rtw_malloc : Nat -> Bool) (pnetwork : WlanBssidEx)
    (before behind : List Element) (tim : List UInt8) : Prop where
  room : _FIXED_IE_LENGTH_ + (elements_bytes before).length + tim.length +
    (elements_bytes behind).length ≤ MAX_IE_SZ
  kept : rtw_malloc (elements_bytes behind).length = true ∨
    HoldsBytes pnetwork.IEs (_FIXED_IE_LENGTH_ + (elements_bytes before).length + tim.length)
      (elements_bytes behind)

/-- The bytes from the offset on when the TIM stands between two lists of elements. -/
def between (before behind : List Element) (offset : Nat) (tim : List UInt8) : List UInt8 :=
  (elements_bytes before ++ (tim ++ elements_bytes behind)).drop (offset - _FIXED_IE_LENGTH_)

/-- The TIM at the offset, and behind it what is saved or stands there, is the same as the TIM
between two lists of elements.  This is so when the offset is where the second list begins. -/
structure CanInsert (rtw_malloc : Nat -> Bool) (pnetwork : WlanBssidEx)
    (before behind : List Element) (offset : Nat) (tim : List UInt8) : Prop where
  reaches : offset ≤ _FIXED_IE_LENGTH_ + (elements_bytes before).length
  room : pnetwork.IELength + tim.length ≤ MAX_IE_SZ
  begins : (between before behind offset tim).take tim.length = tim
  kept : if rtw_malloc (pnetwork.IELength - offset) then
      (between before behind offset tim).drop tim.length =
        (elements_bytes (before ++ behind)).drop (offset - _FIXED_IE_LENGTH_)
    else HoldsBytes pnetwork.IEs (offset + tim.length)
      ((between before behind offset tim).drop tim.length)

/-- The first TIM has data and can be replaced, or there is none and one can be inserted. -/
def CanUpdate (rtw_malloc : Nat -> Bool) (pnetwork : WlanBssidEx) (elements : List Element)
    (tim_bitmap : List UInt8) : Prop :=
  (∃ before old, ∃ behind,
      elements = before ++ old :: behind ∧ Without _TIM_IE_ before ∧ old.id = _TIM_IE_ ∧
        old.body ≠ [] ∧ CanReplace rtw_malloc pnetwork before behind (rtw_set_tim_ie 0 1 tim_bitmap)) ∨
    Without _TIM_IE_ elements ∧ ∃ before, ∃ behind,
      elements = before ++ behind ∧
        CanInsert rtw_malloc pnetwork before behind (tim_offset elements) (rtw_set_tim_ie 0 1 tim_bitmap)

theorem tim_element (short : tim_bitmap.length ≤ 128) (nonempty : 0 < tim_bitmap.length) :
    ∃ tim : Element, tim.bytes = rtw_set_tim_ie 0 1 tim_bitmap ∧ tim.id = _TIM_IE_ ∧
      Tells tim.body tim_bitmap := by
  have length := length_rtw_set_tim_ie nonempty 0 1
  have few := tim_bmp_len_le nonempty
  have body : ((rtw_set_tim_ie 0 1 tim_bitmap).drop 2).length = 2 + 1 + tim_bmp_len tim_bitmap := by
    rw [List.length_drop, length]
    omega
  refine ⟨⟨_TIM_IE_, (rtw_set_tim_ie 0 1 tim_bitmap).drop 2, by omega⟩, ?_, rfl,
    rtw_set_tim_ie_tells (by omega) nonempty 0 1⟩
  exact congrArg (fun length =>
    _TIM_IE_ :: UInt8.ofNat length :: (rtw_set_tim_ie 0 1 tim_bitmap).drop 2) body

theorem first_unique {before behind before' behind' : List Element} {old' : Element}
    (split : before ++ old :: behind = before' ++ old' :: behind') (same : old.id = index)
    (first : Without index before) (same' : old'.id = index) (first' : Without index before') :
    before = before' ∧ old = old' ∧ behind = behind' := by
  induction before generalizing before' with
  | nil =>
      cases before' with
      | nil => exact ⟨rfl, List.cons.inj split⟩
      | cons element rest =>
          have here := (List.cons.inj split).1
          exact absurd (here ▸ same) (first' element List.mem_cons_self)
  | cons element rest ih =>
      cases before' with
      | nil =>
          have here := (List.cons.inj split).1
          exact absurd (here.symm ▸ same') (first element List.mem_cons_self)
      | cons element' rest' =>
          rcases List.cons.inj split with ⟨rfl, later⟩
          rcases ih later (fun other member => first other (List.mem_cons_of_mem _ member))
            (fun other member => first' other (List.mem_cons_of_mem _ member)) with ⟨rfl, rest_⟩
          exact ⟨rfl, rest_⟩

theorem Renewed.of_first {before behind before' behind' : List Element}
    (renewed : Renewed (before' ++ old :: behind') before behind) (same : old.id = _TIM_IE_)
    (first : Without _TIM_IE_ before') : before = before' ∧ behind = behind' := by
  rcases renewed with ⟨without, ⟨split, without'⟩ | ⟨other, same', split⟩⟩
  · have member : old ∈ before ++ behind := by
      rw [<- split]
      exact List.mem_append_right _ List.mem_cons_self
    rcases List.mem_append.mp member with early | late
    · exact absurd same (without old early)
    · exact absurd same (without' old late)
  · rcases first_unique split.symm same' without same first with ⟨before_, _, behind_⟩
    exact ⟨before_, behind_⟩

/-- A TIM with data is replaced rightly exactly when there is room, and the elements behind it are
kept. -/
theorem replaced_updated_iff {before behind : List Element} {tim : Element}
    (area : Holds pnetwork (before ++ old :: behind)) (same : old.id = _TIM_IE_)
    (first : Without _TIM_IE_ before) (bytes : tim.bytes = rtw_set_tim_ie 0 1 tim_bitmap)
    (tells : Tells tim.body tim_bitmap) :
    TimUpdated pnetwork (write_before rtw_malloc pnetwork
        (_FIXED_IE_LENGTH_ + (elements_bytes before).length + old.bytes.length)
        (elements_bytes behind).length (_FIXED_IE_LENGTH_ + (elements_bytes before).length)
        tim.bytes) (before ++ old :: behind) tim_bitmap <->
      CanReplace rtw_malloc pnetwork before behind tim.bytes := by
  have holds := area.holds
  have total := area.length
  have fits := area.fits
  rw [elements_bytes_append, elements_bytes_cons] at holds
  rw [length_elements_bytes_append, elements_bytes_cons, List.length_append] at total
  have tail := (HoldsBytes.append_iff.mp (HoldsBytes.append_iff.mp holds).2).2
  have right := @replaced_holds_iff rtw_malloc pnetwork before behind old.bytes tim holds (by omega)
  have can : CanReplace rtw_malloc pnetwork before behind tim.bytes <-> _ :=
    ⟨fun can => And.intro can.room can.kept, fun both => ⟨both.1, both.2⟩⟩
  rw [can, <- right]
  constructor
  · rintro ⟨_, before_, tim_, behind_, renewed, bytes_, _, there⟩
    rcases renewed.of_first same first with ⟨rfl, rfl⟩
    rw [Element.ext_of_bytes (bytes_.trans bytes.symm)] at there
    exact there
  · intro there
    have room := (right.mp there).1
    refine ⟨⟨fun place fixed => write_before_front tail (by omega), fun place written => ?_⟩,
      before, tim, behind, ⟨first, .inr ⟨old, same, rfl⟩⟩, bytes, tells, there⟩
    exact (write_before_written tail written).imp_right (fun below => Nat.lt_of_lt_of_le below room)

theorem not_updated_of_empty {after : WlanBssidEx} {before behind : List Element}
    (area : Holds pnetwork (before ++ old :: behind)) (same : old.id = _TIM_IE_) (first : Without _TIM_IE_ before)
    (length : after.IELength = pnetwork.IELength + (rtw_set_tim_ie 0 1 tim_bitmap).length) :
    ¬ TimUpdated pnetwork after (before ++ old :: behind) tim_bitmap := by
  rintro ⟨_, before_, tim, behind_, renewed, bytes, _, there⟩
  rcases renewed.of_first same first with ⟨rfl, rfl⟩
  have total := area.length
  have total' := there.length
  have size := old.length_bytes
  rw [length_elements_bytes_append, elements_bytes_cons, List.length_append] at total total'
  rw [bytes] at total'
  omega

section

variable {before behind : List Element} {tim : Element} {offset : Nat}

theorem uint_sub_add {a b : Nat} (small : a + b < 2 ^ 31) (c : Nat) (fits : a + c < 2 ^ 32) :
    (b + c + uint_sub a b) % 2 ^ 32 = a + c := by
  unfold uint_sub
  omega

theorem behind_offset (area : Holds pnetwork elements) (from_ : _FIXED_IE_LENGTH_ ≤ offset)
    (reaches : offset ≤ pnetwork.IELength) :
    HoldsBytes pnetwork.IEs offset ((elements_bytes elements).drop (offset - _FIXED_IE_LENGTH_)) ∧
      ((elements_bytes elements).drop (offset - _FIXED_IE_LENGTH_)).length =
        pnetwork.IELength - offset := by
  have total := area.length
  have dropped := area.holds.drop (show offset - _FIXED_IE_LENGTH_ ≤ _ by omega)
  rw [Nat.add_sub_cancel' from_] at dropped
  refine ⟨dropped, ?_⟩
  rw [List.length_drop]
  omega

/-- The area with the new TIM is right exactly when there is room, and the bytes from the offset
on are those of the TIM between the elements. -/
theorem inserted_holds_iff (area : Holds pnetwork (before ++ behind)) (from_ : _FIXED_IE_LENGTH_ ≤ offset)
    (reaches : offset ≤ _FIXED_IE_LENGTH_ + (elements_bytes before).length) :
    Holds (write_before rtw_malloc pnetwork offset (uint_sub pnetwork.IELength offset) offset
        tim.bytes) (before ++ tim :: behind) <->
      CanInsert rtw_malloc pnetwork before behind offset tim.bytes := by
  have total := area.length
  have fits := area.fits
  have maximum : MAX_IE_SZ = 768 := rfl
  have newSize := tim.length_bytes
  have small := tim.small
  have within : offset ≤ pnetwork.IELength := by
    rw [total, length_elements_bytes_append]
    omega
  rcases behind_offset area from_ within with ⟨there, size⟩
  have remainder : uint_sub pnetwork.IELength offset = pnetwork.IELength - offset :=
    uint_sub_of_le within (by omega)
  have length := @write_before_length rtw_malloc pnetwork offset offset tim.bytes _
    (show _ + ((elements_bytes (before ++ behind)).drop (offset - _FIXED_IE_LENGTH_)).length < _ by
      omega)
  have whole : (elements_bytes (before ++ tim :: behind)).length =
      (elements_bytes (before ++ behind)).length + tim.bytes.length := by
    simp only [length_elements_bytes_append, elements_bytes_cons, List.length_append]
    omega
  rw [length_elements_bytes_append] at total
  have wanted : (between before behind offset tim.bytes).length =
      tim.bytes.length +
        ((elements_bytes (before ++ behind)).drop (offset - _FIXED_IE_LENGTH_)).length := by
    rw [between, List.length_drop, size, List.length_append, List.length_append]
    omega
  have holds := @write_before_holds rtw_malloc pnetwork offset offset tim.bytes _ there _ wanted
  have front := @write_before_front rtw_malloc pnetwork offset offset tim.bytes _ there
  rw [size] at length holds front
  rw [remainder]
  generalize write_before rtw_malloc pnetwork offset (pnetwork.IELength - offset) offset
    tim.bytes = after at *
  have start : (elements_bytes before ++ (tim.bytes ++ elements_bytes behind)).take
      (offset - _FIXED_IE_LENGTH_) = (elements_bytes before).take (offset - _FIXED_IE_LENGTH_) :=
    List.take_append_of_le_length (by omega)
  have count : ((elements_bytes before).take (offset - _FIXED_IE_LENGTH_)).length =
      offset - _FIXED_IE_LENGTH_ := by
    rw [List.length_take]
    omega
  have kept : HoldsBytes after.IEs _FIXED_IE_LENGTH_
      ((elements_bytes before).take (offset - _FIXED_IE_LENGTH_)) := by
    have old := area.holds
    rw [elements_bytes_append, HoldsBytes.append_iff] at old
    refine (old.1.of_front (List.take_prefix _ _)).congr (fun place _ below => front ?_)
    omega
  have behind_ : HoldsBytes after.IEs _FIXED_IE_LENGTH_
      (elements_bytes (before ++ tim :: behind)) <->
        HoldsBytes after.IEs offset (between before behind offset tim.bytes) := by
    rw [elements_bytes_append, elements_bytes_cons,
      <- List.take_append_drop (offset - _FIXED_IE_LENGTH_) (elements_bytes before ++ _), start,
      HoldsBytes.append_iff, count, Nat.add_sub_cancel' from_, and_iff_right kept]
    rfl
  constructor
  · intro right
    have both := holds.mp (behind_.mp right.holds)
    exact ⟨reaches, by have room := right.fits; omega, both.1, both.2⟩
  · intro can
    refine ⟨?_, ?_, behind_.mpr (holds.mpr ⟨can.begins, can.kept⟩)⟩
    · rw [length, whole, length_elements_bytes_append]
      omega
    · have room := can.room
      omega

theorem first_size_cons (element : Element) (rest : List Element) (index : UInt8) :
    first_size (element :: rest) index =
      if element.id = index then element.bytes.length else first_size rest index := by
  unfold first_size
  rw [List.find?_cons]
  by_cases here : element.id = index
  · rw [if_pos here, decide_eq_true here]
    rfl
  · rw [if_neg here, decide_eq_false here]

theorem first_size_le (elements : List Element) (index : UInt8) :
    first_size elements index ≤ (elements_bytes elements).length := by
  induction elements with
  | nil => exact Nat.le_refl 0
  | cons element rest ih =>
      rw [elements_bytes_cons, List.length_append, first_size_cons]
      split
      · exact Nat.le_add_right _ _
      · exact Nat.le_add_left_of_le ih

theorem first_size_add_le (elements : List Element) {index other : UInt8} (distinct : index ≠ other) :
    first_size elements index + first_size elements other ≤ (elements_bytes elements).length := by
  induction elements with
  | nil => exact Nat.le_refl 0
  | cons element rest ih =>
      have first := first_size_le rest index
      have second := first_size_le rest other
      rw [elements_bytes_cons, List.length_append, first_size_cons, first_size_cons]
      by_cases here : element.id = index
      · rw [if_pos here, if_neg (fun there => distinct (here.symm.trans there))]
        omega
      · rw [if_neg here]
        split
        · omega
        · omega

theorem tim_cells {mem : Nat -> UInt8} {place : Nat} (holds : HoldsBytes mem place (rtw_set_tim_ie 0 1 tim_bitmap)) :
    mem place = 5 ∧ mem (place + 2) = 0 ∧ mem (place + 3) = 1 := by
  have first := HoldsBytes.cons_iff.mp holds
  have third := HoldsBytes.cons_iff.mp (HoldsBytes.cons_iff.mp first.2).2
  exact ⟨first.1, third.1, (HoldsBytes.cons_iff.mp third.2).1⟩

/-- The TIM cannot stand before the offset: there stands an element with another id, or a TIM would
overlap itself. -/
theorem reaches_of_holds {after : WlanBssidEx} (area : Holds pnetwork (before ++ behind))
    (without : Without _TIM_IE_ behind) (bytes : tim.bytes = rtw_set_tim_ie 0 1 tim_bitmap)
    (near : offset ≤ pnetwork.IELength + 3) (front : ∀ place, place < offset -> after.IEs place = pnetwork.IEs place)
    (there : HoldsBytes after.IEs offset tim.bytes) (right : Holds after (before ++ tim :: behind)) :
    offset ≤ _FIXED_IE_LENGTH_ + (elements_bytes before).length := by
  by_contra short
  have total := area.length
  have old := area.holds
  have new := right.holds
  rw [length_elements_bytes_append] at total
  rw [elements_bytes_append, HoldsBytes.append_iff] at old
  rw [elements_bytes_append, elements_bytes_cons, HoldsBytes.append_iff, HoldsBytes.append_iff] at new
  have standing := new.2.1
  rw [bytes] at standing there
  rcases tim_cells standing with ⟨id, zero, one⟩
  rcases tim_cells there with ⟨id', _, _⟩
  have second := (HoldsBytes.cons_iff.mp (HoldsBytes.cons_iff.mp standing).2).1
  have second' := (HoldsBytes.cons_iff.mp (HoldsBytes.cons_iff.mp there).2).1
  cases behind with
  | cons element rest =>
      rw [front _ (Nat.not_le.mp short)] at id
      have other := (elementAt old.2).id
      exact without element List.mem_cons_self (other.symm.trans id)
  | nil =>
      have empty : (elements_bytes []).length = 0 := rfl
      rw [empty] at total
      -- the TIM at the offset is one, two or three bytes behind itself
      have cases_ : offset = _FIXED_IE_LENGTH_ + (elements_bytes before).length + 1 ∨
          offset = _FIXED_IE_LENGTH_ + (elements_bytes before).length + 2 ∨
          offset = _FIXED_IE_LENGTH_ + (elements_bytes before).length + 3 := by omega
      rcases cases_ with here | here | here
      · rw [here] at id' second'
        have length := second.symm.trans id'
        have length' := second'.symm.trans zero
        exact absurd (length.symm.trans length') (by decide)
      · rw [here] at id'
        exact absurd (id'.symm.trans zero) (by decide)
      · rw [here] at id'
        exact absurd (id'.symm.trans one) (by decide)

theorem inserted_written (rtw_malloc : Nat -> Bool) (pnetwork : WlanBssidEx) (offset remainder : Nat)
    (bytes : List UInt8) :
    (∀ place, place < offset ->
      (write_before rtw_malloc pnetwork offset remainder offset bytes).IEs place =
        pnetwork.IEs place) ∧
      HoldsBytes (write_before rtw_malloc pnetwork offset remainder offset bytes).IEs offset bytes := by
  have there : HoldsBytes pnetwork.IEs offset (Memory.read pnetwork.IEs offset remainder) := by
    unfold HoldsBytes
    rw [Memory.length_read]
  have front := @write_before_front rtw_malloc pnetwork offset offset bytes _ there
  have new := @write_before_new rtw_malloc pnetwork offset offset bytes _ there
  rw [Memory.length_read] at front new
  exact ⟨fun place early => front early, new⟩

theorem inserted_length (rtw_malloc : Nat -> Bool) (area : Holds pnetwork elements)
    (bytes : List UInt8) (small : bytes.length < 2 ^ 16) :
    (write_before rtw_malloc pnetwork (tim_offset elements)
      (uint_sub pnetwork.IELength (tim_offset elements)) (tim_offset elements) bytes).IELength =
        pnetwork.IELength + bytes.length := by
  have fits := area.fits
  have maximum : MAX_IE_SZ = 768 := rfl
  have sizes := @first_size_add_le elements _SSID_IE_ _SUPPORTEDRATES_IE_ (by decide)
  have near : tim_offset elements ≤ pnetwork.IELength + 3 := by
    rw [area.length, tim_offset]
    omega
  exact uint_sub_add (by omega) bytes.length (by omega)

/-- Without a TIM in the area, one is inserted rightly exactly when it can stand between two lists
of elements. -/
theorem inserted_updated_iff (area : Holds pnetwork elements) (without : Without _TIM_IE_ elements)
    (bytes : tim.bytes = rtw_set_tim_ie 0 1 tim_bitmap) (tells : Tells tim.body tim_bitmap) :
    TimUpdated pnetwork (write_before rtw_malloc pnetwork (tim_offset elements)
        (uint_sub pnetwork.IELength (tim_offset elements)) (tim_offset elements) tim.bytes)
          elements tim_bitmap <->
      ∃ before behind, elements = before ++ behind ∧
        CanInsert rtw_malloc pnetwork before behind (tim_offset elements) tim.bytes := by
  have near : tim_offset elements ≤ pnetwork.IELength + 3 := by
    have sizes := @first_size_add_le elements _SSID_IE_ _SUPPORTEDRATES_IE_ (by decide)
    rw [area.length, tim_offset]
    omega
  have from_ : _FIXED_IE_LENGTH_ ≤ tim_offset elements := by
    unfold tim_offset
    omega
  rcases inserted_written rtw_malloc pnetwork (tim_offset elements)
    (uint_sub pnetwork.IELength (tim_offset elements)) tim.bytes with ⟨front, new⟩
  constructor
  · rintro ⟨_, before, tim', behind, renewed, bytes', _, right⟩
    have sameTim : tim' = tim := Element.ext_of_bytes (bytes'.trans bytes.symm)
    rw [sameTim] at right
    rcases renewed with ⟨_, ⟨split, without'⟩ | ⟨old, same, split⟩⟩
    · refine ⟨before, behind, split, ?_⟩
      rw [split] at area
      have reaches := reaches_of_holds area without' bytes near front new right
      exact (inserted_holds_iff area from_ reaches).mp right
    · refine absurd same (without old ?_)
      rw [split]
      exact List.mem_append_right _ List.mem_cons_self
  · rintro ⟨before, behind, split, can⟩
    have parts := area
    rw [split] at parts
    have right := (inserted_holds_iff parts from_ can.reaches).mpr can
    refine ⟨⟨fun place fixed => front place (Nat.lt_of_lt_of_le fixed from_), ?_⟩, before, tim,
      behind, ⟨?_, .inl ⟨split, ?_⟩⟩, bytes, tells, right⟩
    · intro place written
      have within : tim_offset elements ≤ pnetwork.IELength := by
        have reaches := can.reaches
        rw [area.length, split, length_elements_bytes_append]
        rw [split] at reaches
        omega
      have room := can.room
      rcases behind_offset area from_ within with ⟨there, size⟩
      rw [uint_sub_of_le within (Nat.lt_of_le_of_lt area.fits (by decide)), <- size] at written
      exact (write_before_written there written).imp_right (fun below => by omega)
    · intro element member
      exact without element (split ▸ List.mem_append_left _ member)
    · intro element member
      exact without element (split ▸ List.mem_append_right _ member)

end

/-- The TIM is updated rightly exactly when it can be. -/
theorem updates_tim_iff {max_aid : UInt8} (area : Holds pnetwork elements)
    (size : tim_bitmap.length = AID_BMP_LEN max_aid) :
    UpdatesTim rtw_malloc pnetwork elements tim_bitmap <->
      CanUpdate rtw_malloc pnetwork elements tim_bitmap := by
  rcases aid_bmp_len_bounds max_aid with ⟨nonempty, short⟩
  rw [<- size] at nonempty short
  rcases tim_element (Nat.le_trans short (by decide)) nonempty with ⟨tim, bytes, _, tells⟩
  unfold UpdatesTim CanUpdate
  cases found : elements.find? (fun element => element.id = _TIM_IE_) with
  | none =>
      have without := find_none_iff.mp found
      have inserts := @update_BCNTIM_inserts rtw_malloc pnetwork elements tim_bitmap area
        (fun old found' => absurd (found.symm.trans found') nofun)
      rw [inserts, <- bytes]
      simp only [Option.some.injEq, exists_eq_left']
      rw [inserted_updated_iff area without bytes tells, and_iff_right without]
      refine (or_iff_right ?_).symm
      rintro ⟨before, old, behind, split, _, same, _⟩
      refine without old ?_ same
      rw [split]
      exact List.mem_append_right _ List.mem_cons_self
  | some old =>
      rcases find_some_iff.mp found with ⟨same, before, behind, rfl, first⟩
      rw [or_iff_left (fun none_ => none_.1 old (List.mem_append_right _ List.mem_cons_self) same)]
      by_cases data : old.body = []
      · have inserts := @update_BCNTIM_inserts rtw_malloc pnetwork _ tim_bitmap area
          (fun old' found' => Option.some.inj (found.symm.trans found') ▸ data)
        rw [inserts]
        simp only [Option.some.injEq, exists_eq_left']
        refine iff_of_false (not_updated_of_empty area same first ?_) ?_
        · refine inserted_length rtw_malloc area _ ?_
          have few := tim_bmp_len_le nonempty
          rw [length_rtw_set_tim_ie nonempty]
          omega
        · rintro ⟨before', old', behind', split, first', same', data', _⟩
          exact data' ((first_unique split same first same' first').2.1 ▸ data)
      · rw [update_BCNTIM_replaces area same first data, <- bytes]
        simp only [Option.some.injEq, exists_eq_left']
        rw [replaced_updated_iff area same first bytes tells]
        constructor
        · intro can
          exact ⟨before, old, behind, rfl, first, same, data, can⟩
        · rintro ⟨before', old', behind', split, first', same', _, can⟩
          rcases first_unique split same first same' first' with ⟨rfl, rfl, rfl⟩
          exact can

/-- With a DS parameter set behind the SSID and the rates the TIM is inserted behind it. -/
theorem updates_tim_ds : UpdatesTim (fun _ => true)
    (beacon_of [⟨0, [97], by decide⟩, ⟨1, [130], by decide⟩, ⟨3, [6], by decide⟩])
    [⟨0, [97], by decide⟩, ⟨1, [130], by decide⟩, ⟨3, [6], by decide⟩] [0, 32] := by
  refine (@updates_tim_iff _ _ _ _ 8 ⟨rfl, by decide, by decide⟩ rfl).mpr ?_
  exact .inr ⟨by unfold Without; decide, [⟨0, [97], by decide⟩, ⟨1, [130], by decide⟩,
    ⟨3, [6], by decide⟩], [], rfl, by decide, by decide, by decide, by decide⟩

/-- Without a DS parameter set there are three bytes between the rates and the TIM. -/
theorem tim_behind_gap :
    Holds (beacon_of [⟨0, [97], by decide⟩, ⟨1, [140], by decide⟩])
        [⟨0, [97], by decide⟩, ⟨1, [140], by decide⟩] ∧
      ([0, 32] : List UInt8).length = AID_BMP_LEN 8 ∧
      ¬ UpdatesTim (fun _ => true) (beacon_of [⟨0, [97], by decide⟩, ⟨1, [140], by decide⟩])
        [⟨0, [97], by decide⟩, ⟨1, [140], by decide⟩] [0, 32] := by
  have area : Holds (beacon_of [⟨0, [97], by decide⟩, ⟨1, [140], by decide⟩])
      [⟨0, [97], by decide⟩, ⟨1, [140], by decide⟩] :=
    ⟨rfl, by decide, by decide⟩
  refine ⟨area, rfl, ?_⟩
  rintro ⟨after, result, right⟩
  rcases @tim_element [0, 32] (by decide) (by decide) with ⟨tim, bytes, _, tells⟩
  rw [update_BCNTIM_inserts area (fun old found => absurd found nofun), <- bytes] at result
  rw [<- Option.some.inj result, inserted_updated_iff area (by unfold Without; decide) bytes tells] at right
  rcases right with ⟨before, behind, split, can⟩
  have reaches := can.reaches
  have total := congrArg (fun all => (elements_bytes all).length) split
  simp only [length_elements_bytes_append] at total
  have offset : tim_offset [⟨0, [97], by decide⟩, ⟨1, [140], by decide⟩] = 21 := rfl
  have fixed : _FIXED_IE_LENGTH_ = 12 := rfl
  have six : (elements_bytes [⟨0, [97], by decide⟩, ⟨1, [140], by decide⟩]).length = 6 := rfl
  omega

end Beacon
end Rtl8821ce
