import Rtl8821ce.Ieee80211.RemoveIe
import Rtl8821ce.P2p.FrameWalk

/-!
# Deleting attributes of P2P elements

`rtw_del_p2p_attr` searches an attribute from the begin of an element, closes the gap, and searches
again.  `rtw_bss_ex_del_p2p_attr` does this with every P2P element and moves the elements behind it
forward.
-/

namespace Rtl8821ce
namespace P2p

open Scanner (Iteration scan)

/-- Move bytes to the begin of the gap before them, and clear what is left behind them. -/
def close_gap (mem : Nat -> UInt8) (dst src remain_len count : Nat) : Nat -> UInt8 :=
  let moved := Memory.write mem dst (Memory.read mem src remain_len)
  Memory.write moved (dst + remain_len) (List.replicate count 0)

structure DelAttr where
  mem : Nat -> UInt8
  ielen : Nat

/-- A round; the loop never ends when the search in it does not. -/
def rtw_del_p2p_attr_body (ie : Nat) (attr_id : UInt8) (s : DelAttr) : Iteration DelAttr DelAttr :=
  match rtw_get_p2p_attr s.mem ie s.ielen attr_id (s.ielen + 1) with
  | none => .more s
  | some none => .done s
  | some (some (target_attr, target_attr_len)) =>
      if target_attr_len = 0 then .done s
      else
        let next_attr := target_attr + target_attr_len
        let remain_len := u32_sub s.ielen (next_attr - ie)
        let mem := close_gap s.mem target_attr next_attr remain_len target_attr_len
        .more {
          mem := Memory.write mem (ie + 1) [mem (ie + 1) - UInt8.ofNat target_attr_len]
          ielen := u32_sub s.ielen target_attr_len }

def rtw_del_p2p_attr (mem : Nat -> UInt8) (ie ielen_ori : Nat) (attr_id : UInt8) : Option DelAttr :=
  scan (rtw_del_p2p_attr_body ie attr_id) (ielen_ori + 1) ⟨mem, ielen_ori⟩

def BSS_TYPE_PROB_REQ : UInt8 := 2

/-- `Reserved0` is the first of the reserved bytes. -/
structure BssEx where
  Reserved0 : UInt8
  IELength : Nat
  IEs : Nat -> UInt8

def BSS_EX_FIXED_IE_OFFSET (bss_ex : BssEx) : Nat :=
  if bss_ex.Reserved0 = BSS_TYPE_PROB_REQ then 0 else 12

def BSS_EX_TLV_IES_LEN (bss_ex : BssEx) : Nat :=
  u32_sub bss_ex.IELength (BSS_EX_FIXED_IE_OFFSET bss_ex)

/-- The description with the locals `ies`, a place in it, and `ies_len`. -/
structure DelIes extends BssEx where
  ies : Nat
  ies_len : Nat

def rtw_bss_ex_del_p2p_attr_body (attr_id : UInt8) (s : DelIes) : Iteration DelIes BssEx :=
  match rtw_get_p2p_ie s.IEs s.ies (int_of_u32 s.ies_len) with
  | none => .done s.toBssEx
  | some (ie, ie_len_ori) =>
      let next_ie_ori := ie + ie_len_ori
      let remain_len := u32_sub s.IELength next_ie_ori
      match rtw_del_p2p_attr s.IEs ie ie_len_ori attr_id with
      | none => .more s
      | some ⟨mem, ie_len⟩ =>
          if ie_len ≠ ie_len_ori then
            let next_ie := ie + ie_len
            .more { s with
              IEs := close_gap mem next_ie next_ie_ori remain_len (u32_sub ie_len_ori ie_len)
              IELength := u32_sub s.IELength (u32_sub ie_len_ori ie_len)
              ies := next_ie
              ies_len := remain_len }
          else .more { s with IEs := mem, ies := next_ie_ori, ies_len := remain_len }

def rtw_bss_ex_del_p2p_attr (bss_ex : BssEx) (attr_id : UInt8) : Option BssEx :=
  scan (rtw_bss_ex_del_p2p_attr_body attr_id) (BSS_EX_TLV_IES_LEN bss_ex + 1)
    ⟨bss_ex, BSS_EX_FIXED_IE_OFFSET bss_ex, BSS_EX_TLV_IES_LEN bss_ex⟩

/-! ## Elements that hold attributes -/

structure Attribute where
  id : UInt8
  data : List UInt8
  small : data.length < 65536

def Attribute.bytes (attr : Attribute) : List UInt8 :=
  attr.id :: UInt8.ofNat (attr.data.length % 256) ::
    UInt8.ofNat (attr.data.length / 256) :: attr.data

theorem Attribute.length_bytes (attr : Attribute) :
    attr.bytes.length = attr.data.length + 3 := rfl

def attributes_bytes (attributes : List Attribute) : List UInt8 :=
  attributes.flatMap Attribute.bytes

def without (attr_id : UInt8) (attributes : List Attribute) : List Attribute :=
  attributes.filter (fun attr => attr.id ≠ attr_id)

theorem attributes_bytes_cons (attr : Attribute) (rest : List Attribute) :
    attributes_bytes (attr :: rest) = attr.bytes ++ attributes_bytes rest :=
  List.flatMap_cons

theorem attributes_bytes_append (first second : List Attribute) :
    attributes_bytes (first ++ second) = attributes_bytes first ++ attributes_bytes second :=
  List.flatMap_append

theorem length_without_le (attr_id : UInt8) (attributes : List Attribute) :
    (attributes_bytes (without attr_id attributes)).length ≤ (attributes_bytes attributes).length := by
  induction attributes with
  | nil => exact Nat.le_refl 0
  | cons attr rest ih =>
      unfold without at ih ⊢
      rw [List.filter_cons]
      split
      · rw [attributes_bytes_cons, attributes_bytes_cons, List.length_append, List.length_append]
        omega
      · rw [attributes_bytes_cons, List.length_append]
        omega

/-- A P2P element with its attributes, or another element. -/
inductive BssElement where
  | p2p (attributes : List Attribute) (small : 4 + (attributes_bytes attributes).length < 256)
  | other (element : Element) (not_p2p : element.asked_for 0xDD (some P2P_OUI) = false)

namespace BssElement

def element : BssElement -> Element
  | p2p attributes small => ⟨0xDD, P2P_OUI ++ attributes_bytes attributes, by
      rw [List.length_append]
      exact small⟩
  | other element _ => element

def without (attr_id : UInt8) : BssElement -> BssElement
  | p2p attributes small => p2p (P2p.without attr_id attributes)
      (Nat.lt_of_le_of_lt (Nat.add_le_add_left (length_without_le attr_id attributes) 4) small)
  | other element not_p2p => other element not_p2p

def removed (attr_id : UInt8) : BssElement -> Nat
  | p2p attributes _ =>
      (attributes_bytes (attributes.filter (fun attr => attr.id = attr_id))).length
  | other _ _ => 0

end BssElement

def bss_bytes (elements : List BssElement) : List UInt8 :=
  elements_bytes (elements.map BssElement.element)

/-- The area behind the fixed bytes holds these elements. -/
structure BssEx.Holds (bss_ex : BssEx) (elements : List BssElement) : Prop where
  length : bss_ex.IELength = BSS_EX_FIXED_IE_OFFSET bss_ex + (bss_bytes elements).length
  fits : bss_ex.IELength ≤ MAX_IE_SZ
  holds : HoldsBytes bss_ex.IEs (BSS_EX_FIXED_IE_OFFSET bss_ex) (bss_bytes elements)

section

variable {mem : Nat -> UInt8} {dst count : Nat} {tail : List UInt8}

theorem close_gap_holds (behind : HoldsBytes mem (dst + count) tail) :
    HoldsBytes (close_gap mem dst (dst + count) tail.length count) dst tail := by
  unfold close_gap
  rw [show Memory.read mem (dst + count) tail.length = tail from behind]
  exact (HoldsBytes.written tail).write_of_disjoint (.inl (Nat.le_refl _))

theorem close_gap_outside {place : Nat} (outside : place < dst ∨ dst + tail.length + count ≤ place) :
    close_gap mem dst (dst + count) tail.length count place = mem place := by
  unfold close_gap
  rw [Memory.write_of_outside _ (by rw [List.length_replicate]; omega),
    Memory.write_of_outside _ (by rw [Memory.length_read]; omega)]

end

section

variable {mem : Nat -> UInt8} {ie ielen place : Nat} {attr_id : UInt8} {attr : Attribute}
  {behind : List UInt8}

theorem attr_body_eq (holds : HoldsBytes mem place (attr.bytes ++ behind)) (begins : ie ≤ place)
    (ends : place + attr.bytes.length ≤ ie + ielen) (short : ielen < 65536) :
    (p2p_walk mem ie ielen).body attr_id.toNat place =
      if attr.id = attr_id then .done (some (place, attr.bytes.length))
      else .more (place + attr.bytes.length) := by
  have cells := HoldsBytes.cons_iff.mp holds
  have low := HoldsBytes.cons_iff.mp cells.2
  have high := HoldsBytes.cons_iff.mp low.2
  have small := attr.small
  have size := attr.length_bytes
  have data : RTW_GET_LE16 mem (place + 1) = attr.data.length := by
    rw [RTW_GET_LE16, low.1, high.1, UInt8.toNat_ofNat', UInt8.toNat_ofNat']
    omega
  have attr_len : (p2p_walk mem ie ielen).attr_len place = attr.bytes.length := by
    change (RTW_GET_LE16 mem (place + 1) + 3) % 65536 = _
    rw [data, size, Nat.mod_eq_of_lt (by omega)]
  have more : (p2p_walk mem ie ielen).more place = true := decide_eq_true (by omega)
  have complete : (p2p_walk mem ie ielen).complete place attr.bytes.length = true := by
    change (!decide _) = true
    rw [Bool.not_eq_true', decide_eq_false_iff_not]
    omega
  have id : (p2p_walk mem ie ielen).attr_id place = attr.id.toNat := congrArg UInt8.toNat cells.1
  rw [AttrWalk.body, attr_len, more, complete, id]
  simp only [UInt8.toNat_inj, Bool.and_self, if_true]

theorem attr_body_ended (ends : ie + ielen ≤ place) :
    (p2p_walk mem ie ielen).body attr_id.toNat place = .done none := by
  have more : (p2p_walk mem ie ielen).more place = false := decide_eq_false (by omega)
  rw [AttrWalk.body, more, Bool.false_and, if_neg Bool.false_ne_true]

theorem attr_scan_passed (before : List Attribute)
    (holds : HoldsBytes mem place (attributes_bytes before ++ behind)) (begins : ie ≤ place)
    (ends : place + (attributes_bytes before).length ≤ ie + ielen) (short : ielen < 65536)
    (other : ∀ attr ∈ before, attr.id ≠ attr_id) (fuel : Nat) :
    scan ((p2p_walk mem ie ielen).body attr_id.toNat) (before.length + fuel) place =
      scan ((p2p_walk mem ie ielen).body attr_id.toNat) fuel
        (place + (attributes_bytes before).length) := by
  induction before generalizing place with
  | nil => rw [List.length_nil, Nat.zero_add]; rfl
  | cons attr rest ih =>
      rw [attributes_bytes_cons, List.append_assoc] at holds
      rw [attributes_bytes_cons, List.length_append] at ends ⊢
      have more := @attr_body_eq _ _ _ _ attr_id _ _ holds begins (by omega) short
      rw [if_neg (other attr List.mem_cons_self)] at more
      rw [List.length_cons, Nat.add_right_comm, Scanner.scan_more more,
        ih (HoldsBytes.append_iff.mp holds).2 (by omega) (by omega)
          (fun later member => other later (List.mem_cons_of_mem _ member)), Nat.add_assoc]

/-- The P2P element with these attributes is in the memory. -/
def P2pAt (mem : Nat -> UInt8) (ie : Nat) (attributes : List Attribute) : Prop :=
  HoldsBytes mem ie (0xDD :: UInt8.ofNat (4 + (attributes_bytes attributes).length) ::
    (P2P_OUI ++ attributes_bytes attributes))

theorem P2pAt.attributes {attributes : List Attribute} (there : P2pAt mem ie attributes) :
    HoldsBytes mem (ie + 6) (attributes_bytes attributes) :=
  (HoldsBytes.append_iff.mp (HoldsBytes.cons_iff.mp (HoldsBytes.cons_iff.mp there).2).2).2

theorem P2pAt.is_p2p_ie {attributes : List Attribute} (there : P2pAt mem ie attributes)
    (some_ : 6 < ielen) : is_p2p_ie mem ie ielen = true := by
  have cells := HoldsBytes.cons_iff.mp there
  have oui := (HoldsBytes.append_iff.mp (HoldsBytes.cons_iff.mp cells.2).2).1
  have few : decide (ielen ≤ 6) = false := decide_eq_false (Nat.not_le.mpr some_)
  have pattern : bytes_at mem (ie + 2) [0x50, 0x6F, 0x9A, 0x09] = true := bytes_at_iff.mpr oui
  rw [Rtl8821ce.is_p2p_ie, is_vendor_ie, few, cells.1, pattern]
  rfl

variable {attributes before rest : List Attribute}

theorem get_p2p_attr_absent (there : P2pAt mem ie attributes) (short : (attributes_bytes attributes).length < 256)
    (other : ∀ attr ∈ attributes, attr.id ≠ attr_id) {rounds : Nat} (enough : attributes.length < rounds) :
    rtw_get_p2p_attr mem ie (6 + (attributes_bytes attributes).length) attr_id rounds = some none := by
  rw [rtw_get_p2p_attr, AttrWalk.get]
  cases Rtl8821ce.is_p2p_ie mem ie (6 + (attributes_bytes attributes).length) with
  | false => rfl
  | true =>
      have holds := there.attributes
      rw [<- List.append_nil (attributes_bytes attributes)] at holds
      obtain ⟨fuel, rfl⟩ : ∃ fuel, rounds = attributes.length + (fuel + 1) :=
        ⟨rounds - attributes.length - 1, by omega⟩
      have passed := attr_scan_passed attributes holds (Nat.le_add_right ie 6)
        (Nat.le_of_eq (Nat.add_assoc ie 6 _)) (by omega) other (fuel + 1)
      rw [Bool.not_true, if_neg Bool.false_ne_true, passed]
      exact Scanner.scan_done (attr_body_ended (Nat.le_of_eq (Nat.add_assoc ie 6 _).symm)) fuel

theorem get_p2p_attr_found (there : P2pAt mem ie (before ++ attr :: rest))
    (short : (attributes_bytes (before ++ attr :: rest)).length < 256) (same : attr.id = attr_id)
    (other : ∀ attr ∈ before, attr.id ≠ attr_id) {rounds : Nat} (enough : before.length < rounds) :
    rtw_get_p2p_attr mem ie (6 + (attributes_bytes (before ++ attr :: rest)).length) attr_id rounds =
      some (some (ie + 6 + (attributes_bytes before).length, attr.bytes.length)) := by
  have holds := there.attributes
  have size := attr.length_bytes
  have total := congrArg List.length (attributes_bytes_append before (attr :: rest))
  rw [attributes_bytes_cons, List.length_append, List.length_append] at total
  rw [attributes_bytes_append, attributes_bytes_cons] at holds
  have passed := @attr_scan_passed _ _ _ _ attr_id _ before holds (Nat.le_add_right ie 6)
    (show _ ≤ ie + (6 + (attributes_bytes (before ++ attr :: rest)).length) by omega) (by omega) other
  have found := @attr_body_eq _ _ _ _ attr_id _ _ (HoldsBytes.append_iff.mp holds).2
    (show ie ≤ _ by omega)
    (show _ ≤ ie + (6 + (attributes_bytes (before ++ attr :: rest)).length) by omega) (by omega)
  obtain ⟨fuel, rfl⟩ : ∃ fuel, rounds = before.length + (fuel + 1) :=
    ⟨rounds - before.length - 1, by omega⟩
  rw [rtw_get_p2p_attr, AttrWalk.get, there.is_p2p_ie (by omega), Bool.not_true,
    if_neg Bool.false_ne_true, passed (fuel + 1)]
  rw [if_pos same] at found
  exact Scanner.scan_done found fuel

theorem length_le_length_attributes_bytes (attributes : List Attribute) :
    attributes.length ≤ (attributes_bytes attributes).length := by
  induction attributes with
  | nil => exact Nat.le_refl 0
  | cons attr rest ih =>
      rw [attributes_bytes_cons, List.length_append, List.length_cons, Attribute.length_bytes]
      omega

theorem p2p_element_bytes (small : 4 + (attributes_bytes attributes).length < 256) :
    (BssElement.p2p attributes small).element.bytes =
      0xDD :: UInt8.ofNat (4 + (attributes_bytes attributes).length) ::
        (P2P_OUI ++ attributes_bytes attributes) := by
  have length : (P2P_OUI ++ attributes_bytes attributes).length =
      4 + (attributes_bytes attributes).length := List.length_append
  rw [<- length]
  rfl

theorem length_p2p_element_bytes (small : 4 + (attributes_bytes attributes).length < 256) :
    (BssElement.p2p attributes small).element.bytes.length =
      6 + (attributes_bytes attributes).length := by
  rw [p2p_element_bytes, List.length_cons, List.length_cons, List.length_append]
  change 4 + _ + 1 + 1 = _
  omega

theorem length_attributes_bytes_append :
    (attributes_bytes (before ++ attr :: rest)).length =
        (attributes_bytes before).length + (attr.bytes.length + (attributes_bytes rest).length) ∧
      (attributes_bytes (before ++ rest)).length =
        (attributes_bytes before).length + (attributes_bytes rest).length := by
  rw [attributes_bytes_append, attributes_bytes_append, attributes_bytes_cons, List.length_append,
    List.length_append, List.length_append]
  exact ⟨rfl, rfl⟩

/-- When the gap of an attribute is closed and the length byte lowered, the element holds the
others, and nothing beside it has changed. -/
theorem p2p_at_closed (there : P2pAt mem ie (before ++ attr :: rest)) {gap : Nat -> UInt8}
    (closing : gap = close_gap mem (ie + 6 + (attributes_bytes before).length)
      (ie + 6 + (attributes_bytes before).length + attr.bytes.length) (attributes_bytes rest).length
        attr.bytes.length) :
    P2pAt (Memory.write gap (ie + 1) [gap (ie + 1) - UInt8.ofNat attr.bytes.length]) ie
        (before ++ rest) ∧
      ∀ place, place < ie ∨
          ie + (6 + (attributes_bytes (before ++ attr :: rest)).length) ≤ place ->
        Memory.write gap (ie + 1) [gap (ie + 1) - UInt8.ofNat attr.bytes.length] place =
          mem place := by
  have total := @length_attributes_bytes_append attr before rest
  have holds := there.attributes
  rw [attributes_bytes_append, attributes_bytes_cons, HoldsBytes.append_iff, HoldsBytes.append_iff] at holds
  have closed := close_gap_holds holds.2.2
  have outside := @close_gap_outside mem (ie + 6 + (attributes_bytes before).length)
    attr.bytes.length (attributes_bytes rest)
  rw [<- closing] at closed outside
  constructor
  · have cells := HoldsBytes.cons_iff.mp there
    have length := HoldsBytes.cons_iff.mp cells.2
    have body := length.2
    rw [attributes_bytes_append, <- List.append_assoc, HoldsBytes.append_iff] at body
    have front := @HoldsBytes.congr _ _ gap _ body.1 (fun place _ below => outside (.inl (by
      rw [List.length_append] at below
      change _ < ie + 1 + 1 + (4 + _) at below
      omega)))
    have whole : HoldsBytes gap (ie + 2) (P2P_OUI ++ attributes_bytes (before ++ rest)) := by
      rw [attributes_bytes_append, <- List.append_assoc]
      refine HoldsBytes.append_iff.mpr ⟨front, ?_⟩
      rw [List.length_append]
      change HoldsBytes gap (ie + 2 + (4 + _)) _
      rw [<- Nat.add_assoc]
      exact closed
    refine HoldsBytes.cons_iff.mpr ⟨?_, HoldsBytes.cons_iff.mpr ⟨?_, ?_⟩⟩
    · rw [Memory.write_of_outside _ (.inl (Nat.lt_succ_self ie)), outside (.inl (by omega))]
      exact cells.1
    · have cell := @Memory.write_of_inside _ gap (ie + 1) 0 [gap (ie + 1) - UInt8.ofNat attr.bytes.length]
        (Nat.zero_lt_one)
      refine cell.trans ?_
      rw [List.getElem_cons_zero, outside (.inl (by omega)), length.1,
        show 4 + (attributes_bytes (before ++ attr :: rest)).length =
          4 + (attributes_bytes (before ++ rest)).length + attr.bytes.length by omega,
        UInt8.ofNat_add _ attr.bytes.length, UInt8.add_sub_cancel]
    · exact whole.write_of_disjoint (.inr (Nat.le_refl _))
  · intro place beside
    rw [Memory.write_of_outside _ (by rw [List.length_singleton]; omega)]
    exact outside (by omega)

theorem del_attr_step (there : P2pAt mem ie (before ++ attr :: rest))
    (short : (attributes_bytes (before ++ attr :: rest)).length < 256) (same : attr.id = attr_id)
    (other : ∀ attr ∈ before, attr.id ≠ attr_id) :
    ∃ next,
      rtw_del_p2p_attr_body ie attr_id
          ⟨mem, 6 + (attributes_bytes (before ++ attr :: rest)).length⟩ =
        .more ⟨next, 6 + (attributes_bytes (before ++ rest)).length⟩ ∧
      P2pAt next ie (before ++ rest) ∧
      ∀ place, place < ie ∨
          ie + (6 + (attributes_bytes (before ++ attr :: rest)).length) ≤ place ->
        next place = mem place := by
  have size := attr.length_bytes
  have total := @length_attributes_bytes_append attr before rest
  have count := length_le_length_attributes_bytes before
  have found := @get_p2p_attr_found _ _ _ _ _ _ there short same other
    (6 + (attributes_bytes (before ++ attr :: rest)).length + 1) (by omega)
  have remain : u32_sub (6 + (attributes_bytes (before ++ attr :: rest)).length)
      (ie + 6 + (attributes_bytes before).length + attr.bytes.length - ie) =
        (attributes_bytes rest).length := by
    unfold u32_sub
    omega
  have shorter : u32_sub (6 + (attributes_bytes (before ++ attr :: rest)).length)
      attr.bytes.length = 6 + (attributes_bytes (before ++ rest)).length := by
    unfold u32_sub
    omega
  refine ⟨_, ?_, p2p_at_closed there rfl⟩
  rw [rtw_del_p2p_attr_body]
  simp only [found]
  rw [if_neg (by omega), remain, shorter]

theorem rtw_del_p2p_attr_clears (there : P2pAt mem ie attributes)
    (short : (attributes_bytes attributes).length < 256) {fuel : Nat} (enough : attributes.length < fuel) :
    ∃ del,
      scan (rtw_del_p2p_attr_body ie attr_id) fuel ⟨mem, 6 + (attributes_bytes attributes).length⟩ =
        some del ∧
      del.ielen = 6 + (attributes_bytes (without attr_id attributes)).length ∧
      P2pAt del.mem ie (without attr_id attributes) ∧
      ∀ place, place < ie ∨ ie + (6 + (attributes_bytes attributes).length) ≤ place ->
        del.mem place = mem place := by
  induction fuel generalizing mem attributes with
  | zero => exact absurd enough (Nat.not_lt_zero _)
  | succ fuel ih =>
      cases found : attributes.find? (fun attr => attr.id = attr_id) with
      | none =>
          have other : ∀ attr ∈ attributes, attr.id ≠ attr_id := by
            intro attr member same
            exact List.find?_eq_none.mp found attr member (decide_eq_true same)
          have all : without attr_id attributes = attributes :=
            List.filter_eq_self.mpr (fun attr member => decide_eq_true (other attr member))
          have count := length_le_length_attributes_bytes attributes
          have absent := @get_p2p_attr_absent _ _ _ _ there short other
            (6 + (attributes_bytes attributes).length + 1) (by omega)
          have done : rtw_del_p2p_attr_body ie attr_id
              ⟨mem, 6 + (attributes_bytes attributes).length⟩ =
                .done ⟨mem, 6 + (attributes_bytes attributes).length⟩ := by
            rw [rtw_del_p2p_attr_body]
            simp only [absent]
          refine ⟨_, Scanner.scan_done done fuel, ?_, ?_, fun _ _ => rfl⟩
          · rw [all]
          · rw [all]
            exact there
      | some attr =>
          rcases List.find?_eq_some_iff_append.mp found with ⟨same, before, rest, rfl, first⟩
          have other : ∀ attr ∈ before, attr.id ≠ attr_id := by
            intro attr member
            simpa using first attr member
          rcases del_attr_step there short (of_decide_eq_true same) other with
            ⟨next, more, there', outside⟩
          have fewer : (attributes_bytes (before ++ rest)).length ≤
              (attributes_bytes (before ++ attr :: rest)).length := by
            rw [attributes_bytes_append, attributes_bytes_append, attributes_bytes_cons,
              List.length_append, List.length_append, List.length_append]
            omega
          have gone : without attr_id (before ++ attr :: rest) = without attr_id (before ++ rest) := by
            unfold without
            rw [List.filter_append, List.filter_append, List.filter_cons_of_neg]
            exact fun kept => absurd (of_decide_eq_true same) (of_decide_eq_true kept)
          rw [List.length_append, List.length_cons] at enough
          rcases ih there' (by omega) (by rw [List.length_append]; omega) with
            ⟨del, ended, ielen, final, beside⟩
          refine ⟨del, (Scanner.scan_more more fuel).trans ended, gone ▸ ielen, gone ▸ final, ?_⟩
          intro place away
          rw [beside place (by omega), outside place away]

end

theorem bss_bytes_cons (element : BssElement) (rest : List BssElement) :
    bss_bytes (element :: rest) = element.element.bytes ++ bss_bytes rest :=
  elements_bytes_cons _ _

theorem bss_bytes_append (first second : List BssElement) :
    bss_bytes (first ++ second) = bss_bytes first ++ bss_bytes second := by
  unfold bss_bytes
  rw [List.map_append, elements_bytes_append]

def BssElement.Plain (element : BssElement) : Prop :=
  ∃ other not_p2p, element = .other other not_p2p

theorem BssElement.Plain.without {element : BssElement} (plain : element.Plain) (attr_id : UInt8) :
    element.without attr_id = element := by
  rcases plain with ⟨other, not_p2p, rfl⟩
  rfl

section

variable {mem : Nat -> UInt8} {place in_ie : Nat} {behind : List UInt8}

theorem vendor_of_p2p {attributes : List Attribute} {small : 4 + (attributes_bytes attributes).length < 256}
    (holds : HoldsBytes mem place ((BssElement.p2p attributes small).element.bytes ++ behind)) :
    is_vendor_ie mem place P2P_OUI = true := by
  have there := elementAt holds
  have oui := there.body
  change HoldsBytes mem (place + 2) (P2P_OUI ++ attributes_bytes attributes ++ behind) at oui
  rw [List.append_assoc, HoldsBytes.append_iff] at oui
  rw [is_vendor_ie, there.id, bytes_at_iff.mpr oui.1]
  rfl

theorem short_of_vendor {element : Element} (holds : HoldsBytes mem place (element.bytes ++ behind))
    (vendor : is_vendor_ie mem place P2P_OUI = true)
    (not_p2p : element.asked_for 0xDD (some P2P_OUI) = false) : element.body.length < 4 := by
  by_contra long
  have there := elementAt holds
  rw [is_vendor_ie, Bool.and_eq_true, there.id, beq_iff_eq, bytes_at_iff] at vendor
  have body := (HoldsBytes.append_iff.mp there.body).1
  have front := body.prefix_of vendor.2 (Nat.not_lt.mp long)
  have asked : element.asked_for 0xDD (some P2P_OUI) = true := by
    unfold Element.asked_for Element.compared
    rw [vendor.1, List.append_nil, Bool.and_eq_true]
    exact ⟨rfl, List.isPrefixOf_iff_prefix.mpr front⟩
  exact absurd (asked.symm.trans not_p2p) nofun

theorem six_le_of_not_plain {element : BssElement} (long : ¬ element.Plain) : 6 ≤ element.element.bytes.length := by
  cases element with
  | other other not_p2p => exact absurd ⟨other, not_p2p, rfl⟩ long
  | p2p attributes small =>
      rw [length_p2p_element_bytes]
      exact Nat.le_add_right 6 _

theorem length_bytes_le_of_mem {element : BssElement} {elements : List BssElement} (member : element ∈ elements) :
    element.element.bytes.length ≤ (bss_bytes elements).length := by
  rcases List.append_of_mem member with ⟨before, rest, rfl⟩
  rw [bss_bytes_append, bss_bytes_cons, List.length_append, List.length_append]
  omega

/-- What the search for a P2P element finds: none, or one with other elements before it.  It may
find a short vendor element before one that continues the OUI. -/
theorem p2p_ie_scan (todo : List BssElement) {cnt in_len fuel : Nat}
    (holds : HoldsBytes mem (in_ie + cnt) (bss_bytes todo))
    (ends : cnt + (bss_bytes todo).length = in_len) (small : in_len ≤ MAX_IE_SZ) (enough : todo.length < fuel) :
    (scan (rtw_get_p2p_ie_body mem in_ie in_len) fuel cnt = some none ∧
        ∀ element ∈ todo, element.Plain) ∨
      ∃ before element, ∃ rest,
        todo = before ++ element :: rest ∧ (∀ other ∈ before, other.Plain) ∧
          scan (rtw_get_p2p_ie_body mem in_ie in_len) fuel cnt =
            some (some (in_ie + cnt + (bss_bytes before).length, element.element.bytes.length)) ∧
          (element.Plain -> element.element.body.length < 4) := by
  induction todo generalizing cnt fuel with
  | nil =>
      cases fuel with
      | zero => exact absurd enough (Nat.not_lt_zero _)
      | succ fuel =>
          have last : cnt + 0 = in_len := ends
          have done : rtw_get_p2p_ie_body mem in_ie in_len cnt = .done none := if_neg (by omega)
          exact .inl ⟨Scanner.scan_done done fuel, fun _ member => absurd member List.not_mem_nil⟩
  | cons element rest ih =>
      cases fuel with
      | zero => exact absurd enough (Nat.not_lt_zero _)
      | succ fuel =>
          rw [bss_bytes_cons] at holds ends
          rw [List.length_append] at ends
          have there := elementAt holds
          by_cases inside : (cnt : Int) + 5 < in_len
          · have room : ¬ MAX_IE_SZ ≤ cnt + 5 := by omega
            cases vendor : is_vendor_ie mem (in_ie + cnt) [0x50, 0x6F, 0x9A, 0x09] with
            | true =>
                have done : rtw_get_p2p_ie_body mem in_ie in_len cnt =
                    .done (some (in_ie + cnt, element.element.bytes.length)) := by
                  rw [rtw_get_p2p_ie_body, if_pos inside, if_neg room, if_pos vendor, there.size]
                refine .inr ⟨[], element, rest, rfl, fun _ member => absurd member List.not_mem_nil,
                  Scanner.scan_done done fuel, ?_⟩
                rintro ⟨other, not_p2p, rfl⟩
                exact short_of_vendor holds vendor not_p2p
            | false =>
                have more : rtw_get_p2p_ie_body mem in_ie in_len cnt =
                    .more (cnt + element.element.bytes.length) := by
                  rw [rtw_get_p2p_ie_body, if_pos inside, if_neg room, vendor,
                    if_neg Bool.false_ne_true, there.size]
                have plain : element.Plain := by
                  cases element with
                  | other other not_p2p => exact ⟨other, not_p2p, rfl⟩
                  | p2p attributes small =>
                      exact absurd ((vendor_of_p2p holds).symm.trans vendor) nofun
                have behind := there.behind
                rw [Nat.add_assoc] at behind
                rw [Scanner.scan_more more]
                rcases ih behind (by omega) (Nat.lt_of_succ_lt_succ enough) with
                  ⟨none_, all⟩ | ⟨before, next, later, split, others, found, short⟩
                · refine .inl ⟨none_, fun other member => ?_⟩
                  rcases List.mem_cons.mp member with rfl | tail
                  · exact plain
                  · exact all other tail
                · refine .inr ⟨element :: before, next, later, ?_, fun other member => ?_, ?_, short⟩
                  · rw [split, List.cons_append]
                  · rcases List.mem_cons.mp member with rfl | tail
                    · exact plain
                    · exact others other tail
                  · rw [found, bss_bytes_cons, List.length_append]
                    simp only [Nat.add_assoc]
          · have done : rtw_get_p2p_ie_body mem in_ie in_len cnt = .done none := if_neg inside
            refine .inl ⟨Scanner.scan_done done fuel, fun other member => ?_⟩
            -- fewer than six bytes are left
            by_contra long
            have six := six_le_of_not_plain long
            have within := length_bytes_le_of_mem member
            rw [bss_bytes_cons, List.length_append] at within
            omega

end

section

variable {attr_id : UInt8} {s : DelIes} {ie : Nat} {element : BssElement} {rest : List BssElement}

theorem rtw_del_p2p_attr_short {mem : Nat -> UInt8} {ielen : Nat} (short : ielen ≤ 6) :
    rtw_del_p2p_attr mem ie ielen attr_id = some ⟨mem, ielen⟩ := by
  have few : decide (ielen ≤ 6) = true := decide_eq_true short
  have other : is_p2p_ie mem ie ielen = false := by
    rw [is_p2p_ie, few]
    rfl
  have none_ : rtw_get_p2p_attr mem ie ielen attr_id (ielen + 1) = some none := by
    rw [rtw_get_p2p_attr, AttrWalk.get, other]
    rfl
  have done : rtw_del_p2p_attr_body ie attr_id ⟨mem, ielen⟩ = .done ⟨mem, ielen⟩ := by
    rw [rtw_del_p2p_attr_body]
    simp only [none_]
  exact Scanner.scan_done done ielen

theorem rtw_del_p2p_attr_found {mem : Nat -> UInt8} {behind : List UInt8}
    (holds : HoldsBytes mem ie (element.element.bytes ++ behind))
    (short : element.Plain -> element.element.body.length < 4) :
    ∃ del,
      rtw_del_p2p_attr mem ie element.element.bytes.length attr_id = some del ∧
        del.ielen = (element.without attr_id).element.bytes.length ∧
        del.ielen ≤ element.element.bytes.length ∧
        HoldsBytes del.mem ie (element.without attr_id).element.bytes ∧
        ∀ place, place < ie ∨ ie + element.element.bytes.length ≤ place ->
          del.mem place = mem place := by
  have own := (HoldsBytes.append_iff.mp holds).1
  cases element with
  | other other not_p2p =>
      have few := short ⟨other, not_p2p, rfl⟩
      have size := (BssElement.other other not_p2p).element.length_bytes
      refine ⟨_, rtw_del_p2p_attr_short (by omega), rfl, Nat.le_refl _, own, fun _ _ => rfl⟩
  | p2p attributes small =>
      rw [p2p_element_bytes] at own
      have there : P2pAt mem ie attributes := own
      rcases @rtw_del_p2p_attr_clears _ _ attr_id _ there (by omega) _
        (show attributes.length < 6 + (attributes_bytes attributes).length + 1 by
          have count := length_le_length_attributes_bytes attributes
          omega) with ⟨del, ended, ielen, final, beside⟩
      have fewer := length_without_le attr_id attributes
      have length := length_p2p_element_bytes small
      have small' := Nat.lt_of_le_of_lt (Nat.add_le_add_left fewer 4) small
      have length' := length_p2p_element_bytes small'
      refine ⟨del, ?_, ielen.trans length'.symm, ?_, ?_, ?_⟩
      · rw [length, rtw_del_p2p_attr]
        exact ended
      · omega
      · rw [BssElement.without, p2p_element_bytes small']
        exact final
      · rw [length]
        exact beside

theorem del_bss_step {tail : List UInt8} (found : rtw_get_p2p_ie s.IEs s.ies (int_of_u32 s.ies_len) =
      some (ie, element.element.bytes.length))
    (holds : HoldsBytes s.IEs ie (element.element.bytes ++ tail))
    (total : s.IELength = ie + (element.element.bytes.length + tail.length)) (small : s.IELength ≤ MAX_IE_SZ)
    (short : element.Plain -> element.element.body.length < 4) :
    ∃ next, rtw_bss_ex_del_p2p_attr_body attr_id s = .more next ∧
      next.Reserved0 = s.Reserved0 ∧
      next.ies = ie + (element.without attr_id).element.bytes.length ∧
      next.ies_len = tail.length ∧
      next.IELength = next.ies + tail.length ∧
      next.IELength ≤ s.IELength ∧
      HoldsBytes next.IEs ie ((element.without attr_id).element.bytes ++ tail) ∧
      ∀ place, place < ie ∨ s.IELength ≤ place -> next.IEs place = s.IEs place := by
  rcases @rtw_del_p2p_attr_found attr_id _ _ _ _ holds short with
    ⟨⟨mem, ie_len⟩, deleted, ielen, fewer, left, beside⟩
  dsimp only at ielen fewer left beside
  have behind := (HoldsBytes.append_iff.mp holds).2.congr
    (fun place from_ _ => beside place (.inr from_))
  have maximum : MAX_IE_SZ = 768 := rfl
  have remain : u32_sub s.IELength (ie + element.element.bytes.length) = tail.length := by
    unfold u32_sub
    omega
  have count : u32_sub element.element.bytes.length ie_len =
      element.element.bytes.length - ie_len := by
    unfold u32_sub
    omega
  have shorter : u32_sub s.IELength (element.element.bytes.length - ie_len) =
      ie + ie_len + tail.length := by
    unfold u32_sub
    omega
  unfold rtw_bss_ex_del_p2p_attr_body
  simp only [found, deleted, remain, count, shorter]
  by_cases changed : ie_len = element.element.bytes.length
  · rw [if_neg (fun other => other changed)]
    refine ⟨_, rfl, rfl, ?_, rfl, total.trans (Nat.add_assoc _ _ _).symm, Nat.le_refl _, ?_, ?_⟩
    · rw [<- changed, ielen]
    · refine HoldsBytes.append_iff.mpr ⟨left, ?_⟩
      rw [<- ielen, changed]
      exact behind
    · exact fun place away => beside place (by omega)
  · rw [if_pos changed]
    have src : ie + element.element.bytes.length =
        ie + ie_len + (element.element.bytes.length - ie_len) := by omega
    rw [src] at behind ⊢
    have closed := close_gap_holds behind
    have outside := @close_gap_outside mem (ie + ie_len) (element.element.bytes.length - ie_len) tail
    refine ⟨_, rfl, rfl, ?_, rfl, rfl, ?_, ?_, ?_⟩
    · rw [ielen]
    · change ie + ie_len + tail.length ≤ s.IELength
      omega
    · refine HoldsBytes.append_iff.mpr ⟨left.congr (fun place _ below => outside (.inl ?_)), ?_⟩
      · rw [ielen]
        exact below
      · rw [<- ielen]
        exact closed
    · intro place away
      exact (outside (by omega)).trans (beside place (by omega))

theorem del_bss_run (todo : List BssElement) {fuel : Nat}
    (holds : HoldsBytes s.IEs s.ies (bss_bytes todo)) (length : s.ies_len = (bss_bytes todo).length)
    (total : s.IELength = s.ies + s.ies_len) (small : s.IELength ≤ MAX_IE_SZ) (enough : todo.length < fuel) :
    ∃ final, scan (rtw_bss_ex_del_p2p_attr_body attr_id) fuel s = some final ∧
      final.Reserved0 = s.Reserved0 ∧
      final.IELength = s.ies + (bss_bytes (todo.map (BssElement.without attr_id))).length ∧
      HoldsBytes final.IEs s.ies (bss_bytes (todo.map (BssElement.without attr_id))) ∧
      ∀ place, place < s.ies ∨ s.IELength ≤ place -> final.IEs place = s.IEs place := by
  induction fuel generalizing s todo with
  | zero => exact absurd enough (Nat.not_lt_zero _)
  | succ fuel ih =>
      have maximum : MAX_IE_SZ = 768 := rfl
      have in_len : int_of_u32 s.ies_len = (s.ies_len : Int) := if_pos (by omega)
      have searched := @p2p_ie_scan s.IEs s.ies todo 0 s.ies_len (s.ies_len + 1) holds
        (by omega) (by omega) (by
          have count := length_le_length_elements_bytes (todo.map BssElement.element)
          rw [List.length_map] at count
          unfold bss_bytes at length
          omega)
      have search : ∀ result, scan (rtw_get_p2p_ie_body s.IEs s.ies s.ies_len) (s.ies_len + 1) 0 =
          some result -> rtw_get_p2p_ie s.IEs s.ies (int_of_u32 s.ies_len) = result := by
        intro result ended
        rw [in_len, rtw_get_p2p_ie, Int.toNat_natCast, ended]
        rfl
      rcases searched with ⟨none_, all⟩ | ⟨before, element, rest, rfl, others, found, short⟩
      · have same : todo.map (BssElement.without attr_id) = todo := by
          refine (List.map_congr_left (fun element member => ?_)).trans (List.map_id todo)
          exact (all element member).without attr_id
        have done : rtw_bss_ex_del_p2p_attr_body attr_id s = .done s.toBssEx := by
          rw [rtw_bss_ex_del_p2p_attr_body]
          simp only [search none none_]
        refine ⟨_, Scanner.scan_done done fuel, rfl, ?_, ?_, fun _ _ => rfl⟩
        · rw [same, <- length, total]
        · rw [same]
          exact holds
      · have same : before.map (BssElement.without attr_id) = before := by
          refine (List.map_congr_left (fun element member => ?_)).trans (List.map_id before)
          exact (others element member).without attr_id
        rw [bss_bytes_append, bss_bytes_cons, List.length_append, List.length_append] at length
        rw [bss_bytes_append, bss_bytes_cons, HoldsBytes.append_iff] at holds
        rcases @del_bss_step attr_id _ _ _ _ (search _ found) holds.2 (by omega) small short with
          ⟨next, more, reserved, ies, ies_len, IELength, fewer, left, beside⟩
        rw [Nat.add_zero] at ies left beside
        rw [HoldsBytes.append_iff, <- ies] at left
        rw [List.length_append, List.length_cons] at enough
        rcases ih rest left.2 ies_len (ies_len ▸ IELength) (Nat.le_trans fewer small) (by omega) with
          ⟨final, ended, reserved', IELength', holds', beside'⟩
        refine ⟨final, (Scanner.scan_more more fuel).trans ended, reserved'.trans reserved, ?_, ?_, ?_⟩
        · rw [List.map_append, List.map_cons, same, bss_bytes_append, bss_bytes_cons,
            List.length_append, List.length_append, IELength', ies]
          omega
        · rw [List.map_append, List.map_cons, same, bss_bytes_append, bss_bytes_cons]
          refine HoldsBytes.append_iff.mpr ⟨holds.1.congr ?_, HoldsBytes.append_iff.mpr ⟨left.1.congr ?_, ?_⟩⟩
          · intro place _ below
            rw [beside' place (.inl (by omega)), beside place (.inl below)]
          · intro place _ below
            exact beside' place (.inl (by omega))
          · rw [<- ies]
            exact holds'
        · intro place away
          rw [beside' place (by omega), beside place (by omega)]

end

theorem length_without_add_removed (attr_id : UInt8) (element : BssElement) :
    (element.without attr_id).element.bytes.length + element.removed attr_id =
      element.element.bytes.length := by
  cases element with
  | other other not_p2p => rfl
  | p2p attributes small =>
      have small' := Nat.lt_of_le_of_lt
        (Nat.add_le_add_left (length_without_le attr_id attributes) 4) small
      rw [BssElement.without, length_p2p_element_bytes small', length_p2p_element_bytes small, BssElement.removed]
      clear small small'
      induction attributes with
      | nil => rfl
      | cons attr rest ih =>
          unfold without at ih ⊢
          rw [List.filter_cons, List.filter_cons, attributes_bytes_cons, List.length_append]
          by_cases same : attr.id = attr_id
          · rw [if_neg (by simpa using same), if_pos (decide_eq_true same), attributes_bytes_cons,
              List.length_append]
            omega
          · rw [if_pos (decide_eq_true same), if_neg (by simpa using same), attributes_bytes_cons,
              List.length_append]
            omega

theorem length_bss_bytes_without (attr_id : UInt8) (elements : List BssElement) :
    (bss_bytes (elements.map (BssElement.without attr_id))).length +
        (elements.map (BssElement.removed attr_id)).sum = (bss_bytes elements).length := by
  induction elements with
  | nil => rfl
  | cons element rest ih =>
      have own := length_without_add_removed attr_id element
      rw [List.map_cons, List.map_cons, List.sum_cons, bss_bytes_cons, bss_bytes_cons,
        List.length_append, List.length_append]
      omega

/-- The attributes with the id are deleted from every P2P element; the others and every other
element stay as they are, and so do the bytes before the area and those behind its old end. -/
theorem rtw_bss_ex_del_p2p_attr_clears (bss_ex : BssEx) (elements : List BssElement)
    (attr_id : UInt8) (area : bss_ex.Holds elements) :
    ∃ final, rtw_bss_ex_del_p2p_attr bss_ex attr_id = some final ∧
      final.Holds (elements.map (BssElement.without attr_id)) ∧
      final.IELength + (elements.map (BssElement.removed attr_id)).sum = bss_ex.IELength ∧
      ∀ place, place < BSS_EX_FIXED_IE_OFFSET bss_ex ∨ bss_ex.IELength ≤ place ->
        final.IEs place = bss_ex.IEs place := by
  have total := area.length
  have fits := area.fits
  have maximum : MAX_IE_SZ = 768 := rfl
  have removed := length_bss_bytes_without attr_id elements
  have len : BSS_EX_TLV_IES_LEN bss_ex = (bss_bytes elements).length := by
    unfold BSS_EX_TLV_IES_LEN u32_sub
    omega
  have count := length_le_length_elements_bytes (elements.map BssElement.element)
  rw [List.length_map] at count
  rcases @del_bss_run attr_id
    ⟨bss_ex, BSS_EX_FIXED_IE_OFFSET bss_ex, BSS_EX_TLV_IES_LEN bss_ex⟩ elements
    (BSS_EX_TLV_IES_LEN bss_ex + 1) area.holds len (total.trans (congrArg _ len.symm)) fits
    (by rw [len]; exact Nat.lt_succ_of_le count) with
    ⟨final, ended, reserved, IELength, holds, beside⟩
  have offset : BSS_EX_FIXED_IE_OFFSET final = BSS_EX_FIXED_IE_OFFSET bss_ex := by
    unfold BSS_EX_FIXED_IE_OFFSET
    rw [reserved]
  dsimp only at IELength holds beside
  refine ⟨final, ended, ⟨?_, ?_, ?_⟩, ?_, beside⟩
  · rw [offset]
    exact IELength
  · omega
  · rw [offset]
    exact holds
  · omega

/-- A beacon with a P2P element that holds three attributes, and an element behind it. -/
def group_info_elements : List BssElement :=
  [.other ⟨0, [97], by decide⟩ (by decide),
    .p2p [⟨2, [0x21, 0], by decide⟩, ⟨14, [1, 2, 3], by decide⟩, ⟨3, [6], by decide⟩] (by decide),
    .other ⟨45, [1], by decide⟩ (by decide)]

def group_info_bss : BssEx :=
  ⟨1, 12 + (bss_bytes group_info_elements).length,
    fun place => (bss_bytes group_info_elements).getD (place - 12) 0⟩

theorem del_group_info :
    ∃ final, rtw_bss_ex_del_p2p_attr group_info_bss 14 = some final ∧
      final.Holds (group_info_elements.map (BssElement.without 14)) ∧
      final.IELength + (group_info_elements.map (BssElement.removed 14)).sum =
        group_info_bss.IELength ∧
      ∀ place, place < 12 ∨ group_info_bss.IELength ≤ place ->
        final.IEs place = group_info_bss.IEs place :=
  rtw_bss_ex_del_p2p_attr_clears group_info_bss group_info_elements 14
    ⟨rfl, by decide, by decide⟩

end P2p
end Rtl8821ce
