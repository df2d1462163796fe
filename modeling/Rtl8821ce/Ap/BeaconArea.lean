import Rtl8821ce.Ieee80211.Element

/-!
# The element area of a beacon

The area begins with twelve fixed bytes, and elements follow.  Three functions change it in the
same way: they save the bytes behind a place, write an element before them, and copy them back.
When there is no memory to save them they are not copied.
-/

namespace Rtl8821ce
namespace Beacon

open Scanner (Iteration scan)

def MAX_IE_SZ : Nat := 768

/-- `_FIXED_IE_LENGTH_`, which is `_BEACON_IE_OFFSET_` and `sizeof(NDIS_802_11_FIXED_IEs)`. -/
def _FIXED_IE_LENGTH_ : Nat := 12

/-- The difference of two `uint`. -/
def uint_sub (a b : Nat) : Nat := (a + 2 ^ 32 - b) % 2 ^ 32

theorem uint_sub_of_le {a b : Nat} (le : b ≤ a) (small : a < 2 ^ 32) : uint_sub a b = a - b := by
  unfold uint_sub
  omega

theorem remainder_eq {a b c : Nat} (small : a + b + c < 2 ^ 32) : uint_sub (uint_sub (a + b + c) a) b = c := by
  rw [uint_sub_of_le (by omega) small, uint_sub_of_le (by omega) (by omega)]
  omega

/-- The fields of `WLAN_BSSID_EX` that hold the area, and the places of `IEs` that were written. -/
structure WlanBssidEx where
  IELength : Nat
  IEs : Nat -> UInt8
  written : List Nat

def WlanBssidEx.memcpy (pnetwork : WlanBssidEx) (dst : Nat) (bytes : List UInt8) : WlanBssidEx :=
  { pnetwork with
    IEs := Memory.write pnetwork.IEs dst bytes
    written := pnetwork.written ++ List.range' dst bytes.length }

/-- Save the remainder, write some bytes and copy the remainder behind them.  `rtw_malloc` tells
for which sizes there is memory. -/
def write_before (rtw_malloc : Nat -> Bool) (pnetwork : WlanBssidEx)
    (premainder_ie remainder_ielen dst_ie : Nat) (bytes : List UInt8) : WlanBssidEx :=
  let backup :=
    if 0 < remainder_ielen ∧ rtw_malloc remainder_ielen then
      Memory.read pnetwork.IEs premainder_ie remainder_ielen
    else []
  let pnetwork := (pnetwork.memcpy dst_ie bytes).memcpy (dst_ie + bytes.length) backup
  { pnetwork with IELength := (dst_ie + bytes.length + remainder_ielen) % 2 ^ 32 }

/-- The area of a beacon holds these elements. -/
structure Holds (pnetwork : WlanBssidEx) (elements : List Element) : Prop where
  length : pnetwork.IELength = _FIXED_IE_LENGTH_ + (elements_bytes elements).length
  fits : pnetwork.IELength ≤ MAX_IE_SZ
  holds : HoldsBytes pnetwork.IEs _FIXED_IE_LENGTH_ (elements_bytes elements)

def beacon_of (elements : List Element) : WlanBssidEx :=
  ⟨_FIXED_IE_LENGTH_ + (elements_bytes elements).length,
    fun place => (elements_bytes elements).getD (place - _FIXED_IE_LENGTH_) 0, []⟩

/-- The fixed bytes are as they were, and nothing was written outside of `IEs`. -/
structure Tidy (pnetwork after : WlanBssidEx) : Prop where
  fixed : ∀ place, place < _FIXED_IE_LENGTH_ -> after.IEs place = pnetwork.IEs place
  inside : ∀ place ∈ after.written, place ∈ pnetwork.written ∨ place < MAX_IE_SZ

variable {rtw_malloc : Nat -> Bool} {pnetwork : WlanBssidEx} {dst_ie premainder_ie : Nat}
  {bytes tail : List UInt8}

/-! ## What a write leaves -/

def saved (rtw_malloc : Nat -> Bool) (tail : List UInt8) : List UInt8 :=
  if rtw_malloc tail.length then tail else []

theorem backup_eq_saved (there : HoldsBytes pnetwork.IEs premainder_ie tail) :
    (if 0 < tail.length ∧ rtw_malloc tail.length then
      Memory.read pnetwork.IEs premainder_ie tail.length else []) = saved rtw_malloc tail := by
  unfold saved
  rw [show Memory.read pnetwork.IEs premainder_ie tail.length = tail from there]
  cases tail with
  | nil => exact (if_neg (fun both => Nat.lt_irrefl 0 both.1)).trans (ite_self []).symm
  | cons first rest =>
      refine if_congr ?_ rfl rfl
      exact and_iff_right (Nat.succ_pos rest.length)

theorem write_before_IEs (there : HoldsBytes pnetwork.IEs premainder_ie tail) :
    (write_before rtw_malloc pnetwork premainder_ie tail.length dst_ie bytes).IEs =
      Memory.write pnetwork.IEs dst_ie (bytes ++ saved rtw_malloc tail) := by
  rw [write_before, backup_eq_saved there]
  exact Memory.write_append pnetwork.IEs dst_ie bytes _

/-- What stands from the write on: the bytes that were written, and behind them what was saved, or
what stood there before. -/
theorem write_before_holds (there : HoldsBytes pnetwork.IEs premainder_ie tail)
    {wanted : List UInt8} (size : wanted.length = bytes.length + tail.length) :
    HoldsBytes (write_before rtw_malloc pnetwork premainder_ie tail.length dst_ie bytes).IEs dst_ie
        wanted <->
      wanted.take bytes.length = bytes ∧
        if rtw_malloc tail.length then wanted.drop bytes.length = tail
        else HoldsBytes pnetwork.IEs (dst_ie + bytes.length) (wanted.drop bytes.length) := by
  have first : (wanted.take bytes.length).length = bytes.length := by
    rw [List.length_take, size]
    omega
  have second : (wanted.drop bytes.length).length = tail.length := by
    rw [List.length_drop, size]
    omega
  have split := @HoldsBytes.append_iff
    (Memory.write pnetwork.IEs dst_ie (bytes ++ saved rtw_malloc tail)) dst_ie
    (wanted.take bytes.length) (wanted.drop bytes.length)
  rw [List.take_append_drop, first] at split
  rw [write_before_IEs there, split]
  have written := (HoldsBytes.append_iff.mp
    (@HoldsBytes.written pnetwork.IEs dst_ie (bytes ++ saved rtw_malloc tail)))
  refine and_congr ?_ ?_
  · unfold HoldsBytes
    rw [first, written.1]
    exact eq_comm
  · by_cases memory : rtw_malloc tail.length = true
    · rw [saved, if_pos memory] at written ⊢
      rw [if_pos memory]
      unfold HoldsBytes
      rw [second, written.2]
      exact eq_comm
    · have beside := @Memory.read_write_of_disjoint _ pnetwork.IEs (dst_ie + bytes.length)
        tail.length dst_ie bytes (.inr (Nat.le_refl _))
      rw [saved, if_neg memory, List.append_nil, if_neg memory]
      unfold HoldsBytes
      rw [second, beside]

theorem write_before_holds_iff (there : HoldsBytes pnetwork.IEs premainder_ie tail) :
    HoldsBytes (write_before rtw_malloc pnetwork premainder_ie tail.length dst_ie bytes).IEs dst_ie
        (bytes ++ tail) <->
      rtw_malloc tail.length = true ∨ HoldsBytes pnetwork.IEs (dst_ie + bytes.length) tail := by
  rw [write_before_holds there List.length_append, List.take_left, List.drop_left, and_iff_right rfl]
  by_cases memory : rtw_malloc tail.length = true
  · rw [if_pos memory]
    exact iff_of_true rfl (.inl memory)
  · rw [if_neg memory, or_iff_right memory]

theorem write_before_front (there : HoldsBytes pnetwork.IEs premainder_ie tail) {place : Nat}
    (front : place < dst_ie) :
    (write_before rtw_malloc pnetwork premainder_ie tail.length dst_ie bytes).IEs place =
      pnetwork.IEs place := by
  rw [write_before_IEs there]
  exact Memory.write_of_outside _ (.inl front)

theorem write_before_length (fits : dst_ie + bytes.length + tail.length < 2 ^ 32) :
    (write_before rtw_malloc pnetwork premainder_ie tail.length dst_ie bytes).IELength =
      dst_ie + bytes.length + tail.length :=
  Nat.mod_eq_of_lt fits

theorem write_before_written (there : HoldsBytes pnetwork.IEs premainder_ie tail) {place : Nat} (written : place ∈
      (write_before rtw_malloc pnetwork premainder_ie tail.length dst_ie bytes).written) :
    place ∈ pnetwork.written ∨ place < dst_ie + bytes.length + tail.length := by
  have short : (saved rtw_malloc tail).length ≤ tail.length := by
    unfold saved
    split
    · exact Nat.le_refl _
    · exact Nat.zero_le _
  rw [write_before, backup_eq_saved there] at written
  simp only [WlanBssidEx.memcpy, List.mem_append, List.mem_range'_1] at written
  rcases written with (earlier | here) | behind
  · exact .inl earlier
  · exact .inr (by omega)
  · exact .inr (by omega)

theorem replaced_holds_iff {before behind : List Element} {middle : List UInt8} {new : Element}
    (area : HoldsBytes pnetwork.IEs _FIXED_IE_LENGTH_
      (elements_bytes before ++ (middle ++ elements_bytes behind)))
    (fits : (elements_bytes before).length + (elements_bytes behind).length ≤ MAX_IE_SZ) :
    Holds (write_before rtw_malloc pnetwork
        (_FIXED_IE_LENGTH_ + (elements_bytes before).length + middle.length)
        (elements_bytes behind).length (_FIXED_IE_LENGTH_ + (elements_bytes before).length) new.bytes)
          (before ++ new :: behind) <->
      _FIXED_IE_LENGTH_ + (elements_bytes before).length + new.bytes.length +
          (elements_bytes behind).length ≤ MAX_IE_SZ ∧
        (rtw_malloc (elements_bytes behind).length = true ∨
          HoldsBytes pnetwork.IEs
            (_FIXED_IE_LENGTH_ + (elements_bytes before).length + new.bytes.length)
            (elements_bytes behind)) := by
  rw [HoldsBytes.append_iff, HoldsBytes.append_iff] at area
  rcases area with ⟨first, _, tail⟩
  have front := first.congr (fun place _ below =>
    @write_before_front rtw_malloc pnetwork _ _ new.bytes _ tail place below)
  have small := new.small
  have newSize := new.length_bytes
  have maximum : MAX_IE_SZ = 768 := rfl
  have fixed : _FIXED_IE_LENGTH_ = 12 := rfl
  have length := @write_before_length rtw_malloc pnetwork
    (_FIXED_IE_LENGTH_ + (elements_bytes before).length)
    (_FIXED_IE_LENGTH_ + (elements_bytes before).length + middle.length) new.bytes
    (elements_bytes behind) (by omega)
  rw [<- write_before_holds_iff tail]
  constructor
  · intro there
    have holds := there.holds
    rw [elements_bytes_append, elements_bytes_cons] at holds
    exact ⟨length ▸ there.fits, (HoldsBytes.append_iff.mp holds).2⟩
  · rintro ⟨room, holds⟩
    refine ⟨?_, ?_, ?_⟩
    · rw [length, length_elements_bytes_append, elements_bytes_cons, List.length_append]
      omega
    · rw [length]
      exact room
    · rw [elements_bytes_append, elements_bytes_cons]
      exact HoldsBytes.append_iff.mpr ⟨front, holds⟩

theorem Element.ext_of_bytes {first second : Element} (same : first.bytes = second.bytes) : first = second := by
  rcases first with ⟨id, body, small⟩
  rcases second with ⟨id', body', small'⟩
  rcases List.cons.inj same with ⟨rfl, rest⟩
  rcases List.cons.inj rest with ⟨_, rfl⟩
  rfl

/-- Two lists of elements in the same memory, up to the first element of one of them that has an
id, and the first element of the other with this id. -/
theorem same_front {mem : Nat -> UInt8} {place : Nat} {id : UInt8} {before before' : List Element}
    {new new' : Element} {behind behind' : List UInt8}
    (holds : HoldsBytes mem place (elements_bytes before ++ (new.bytes ++ behind)))
    (holds' : HoldsBytes mem place (elements_bytes before' ++ (new'.bytes ++ behind')))
    (first : ∀ element ∈ before, element.id ≠ id) (newId : new.id = id)
    (first' : ∀ element ∈ before', element.id ≠ id) (newId' : new'.id = id) : before = before' := by
  induction before generalizing before' place with
  | nil =>
      cases before' with
      | nil => rfl
      | cons element rest =>
          have id_ : mem place = new.id := (elementAt holds).id
          rw [elements_bytes_cons, List.append_assoc] at holds'
          have id' : mem place = element.id := (elementAt holds').id
          exact absurd (id'.symm.trans (id_.trans newId)) (first' element List.mem_cons_self)
  | cons element rest ih =>
      rw [elements_bytes_cons, List.append_assoc] at holds
      cases before' with
      | nil =>
          have id_ : mem place = element.id := (elementAt holds).id
          have id' : mem place = new'.id := (elementAt holds').id
          exact absurd (id_.symm.trans (id'.trans newId')) (first element List.mem_cons_self)
      | cons element' rest' =>
          rw [elements_bytes_cons, List.append_assoc] at holds'
          have size : element.bytes.length = element'.bytes.length :=
            (elementAt holds).size.symm.trans (elementAt holds').size
          have bytes := (HoldsBytes.append_iff.mp holds).1
          have bytes' := (HoldsBytes.append_iff.mp holds').1
          have same : element = element' := by
            apply Element.ext_of_bytes
            unfold HoldsBytes at bytes bytes'
            rw [<- bytes, <- bytes', size]
          have behind_ := (elementAt holds').behind
          rw [<- size] at behind_
          rw [same, ih (elementAt holds).behind behind_
            (fun other member => first other (List.mem_cons_of_mem _ member))
            (fun other member => first' other (List.mem_cons_of_mem _ member))]

theorem write_before_new (there : HoldsBytes pnetwork.IEs premainder_ie tail) :
    HoldsBytes (write_before rtw_malloc pnetwork premainder_ie tail.length dst_ie bytes).IEs dst_ie
      bytes := by
  rw [write_before_IEs there]
  exact (HoldsBytes.written _).of_front (List.prefix_append _ _)

theorem get_ie_sought {mem : Nat -> UInt8} {place : Nat} {element : Element} {behind : List UInt8}
    (holds : HoldsBytes mem place (element.bytes ++ behind)) (index : UInt8) :
    (rtw_get_ie_search mem index.toNat).sought place = decide (element.id = index) := by
  change decide (((mem place).toNat : Int) = (index.toNat : Int)) = _
  rw [Bool.eq_iff_iff, decide_eq_true_iff, decide_eq_true_iff, (elementAt holds).id,
    Int.natCast_inj, UInt8.toNat_inj]

theorem get_ie_passes {mem : Nat -> UInt8} {index : UInt8} (before : List Element) {place stop : Nat}
    {behind : List UInt8} (holds : HoldsBytes mem place (elements_bytes before ++ behind))
    (other : ∀ element ∈ before, element.id ≠ index) (ends : place + (elements_bytes before).length ≤ stop) :
    Scanner.Passes (ElementSearch.body (rtw_get_ie_search mem index.toNat) stop) place
      (place + (elements_bytes before).length) := by
  induction before generalizing place with
  | nil => exact Relation.ReflTransGen.refl
  | cons element rest ih =>
      rw [elements_bytes_cons, List.append_assoc] at holds
      rw [elements_bytes_cons, List.length_append] at ends ⊢
      have size := element.length_bytes
      have passed : (rtw_get_ie_search mem index.toNat).sought place = false := by
        rw [get_ie_sought holds]
        exact decide_eq_false (other element List.mem_cons_self)
      have step : ElementSearch.body (rtw_get_ie_search mem index.toNat) stop place =
          .more (place + element.bytes.length) := by
        rw [ElementSearch.body_passed (by omega) passed]
        exact congrArg (fun length => Iteration.more (place + length)) (elementAt holds).size
      refine Relation.ReflTransGen.head step ?_
      rw [<- Nat.add_assoc]
      exact ih (elementAt holds).behind
        (fun later member => other later (List.mem_cons_of_mem _ member)) (by omega)

theorem get_ie_scan {before rest : List Element} {index : UInt8} (area : Holds pnetwork (before ++ rest))
    (other : ∀ element ∈ before, element.id ≠ index) (some_ : before ++ rest ≠ []) :
    (rtw_get_ie pnetwork.IEs _FIXED_IE_LENGTH_ index.toNat
        ((pnetwork.IELength : Int) - _FIXED_IE_LENGTH_)).result =
      scan (ElementSearch.body (rtw_get_ie_search pnetwork.IEs index.toNat) pnetwork.IELength)
        (pnetwork.IELength + 1) (_FIXED_IE_LENGTH_ + (elements_bytes before).length) := by
  have total := length_elements_bytes_append before rest
  have length := area.length
  have count := length_le_length_elements_bytes (before ++ rest)
  have positive : 0 < (before ++ rest).length := List.length_pos_iff.mpr some_
  have holds := area.holds
  rw [elements_bytes_append] at holds
  have notFew : ¬ ((pnetwork.IELength : Int) - _FIXED_IE_LENGTH_ < 1) := by omega
  have stop : _FIXED_IE_LENGTH_ + ((pnetwork.IELength : Int) - _FIXED_IE_LENGTH_).toNat =
      pnetwork.IELength := by omega
  rw [rtw_get_ie, if_neg notFew]
  change scan (ElementSearch.body (rtw_get_ie_search pnetwork.IEs index.toNat)
    (_FIXED_IE_LENGTH_ + ((pnetwork.IELength : Int) - _FIXED_IE_LENGTH_).toNat)) _ _ = _
  rw [stop]
  have passes := @get_ie_passes pnetwork.IEs index before _FIXED_IE_LENGTH_ pnetwork.IELength _ holds
    other (by omega)
  exact Scanner.scan_passes (fun place => pnetwork.IELength - place)
    (ElementSearch.body_decreases _ _) passes (by omega)

theorem get_ie_found {before behind : List Element} {element : Element} {index : UInt8}
    (area : Holds pnetwork (before ++ element :: behind)) (same : element.id = index)
    (other : ∀ element ∈ before, element.id ≠ index) :
    (rtw_get_ie pnetwork.IEs _FIXED_IE_LENGTH_ index.toNat
      ((pnetwork.IELength : Int) - _FIXED_IE_LENGTH_)).result =
      some (some (_FIXED_IE_LENGTH_ + (elements_bytes before).length)) := by
  have holds := area.holds
  have length := area.length
  rw [length_elements_bytes_append, elements_bytes_cons, List.length_append, Element.length_bytes] at length
  rw [elements_bytes_append, elements_bytes_cons, HoldsBytes.append_iff] at holds
  have sought : (rtw_get_ie_search pnetwork.IEs index.toNat).sought
      (_FIXED_IE_LENGTH_ + (elements_bytes before).length) = true := by
    rw [get_ie_sought holds.2, decide_eq_true_iff]
    exact same
  rw [get_ie_scan area other (by simp)]
  exact Scanner.scan_done (ElementSearch.body_sought (by omega) sought) _

theorem get_ie_absent {elements : List Element} {index : UInt8} (area : Holds pnetwork elements)
    (other : ∀ element ∈ elements, element.id ≠ index) :
    (rtw_get_ie pnetwork.IEs _FIXED_IE_LENGTH_ index.toNat
      ((pnetwork.IELength : Int) - _FIXED_IE_LENGTH_)).result = some none := by
  have length := area.length
  rcases List.eq_nil_or_concat elements with empty | ⟨_, _, parts⟩
  · rw [empty] at length
    have few : (pnetwork.IELength : Int) - _FIXED_IE_LENGTH_ < 1 := by
      rw [length]
      decide
    rw [rtw_get_ie, if_pos few]
  · rw [<- List.append_nil elements] at area
    rw [get_ie_scan area other (by rw [parts]; simp)]
    exact Scanner.scan_done (ElementSearch.body_ended (Nat.le_of_eq length)) _

end Beacon
end Rtl8821ce
