import Rtl8821ce.Ieee80211.Element
import Mathlib.Logic.Function.Basic

/-!
# Parsing a string of elements

`rtw_ieee802_11_parse_elems` walks over the elements and remembers where the body of each
one it knows stands; a later element of the same kind takes the place of an earlier one.
Vendor elements are known by the OUI and the type in their bodies.
-/

namespace Rtl8821ce

open Scanner (Iteration scan)

variable {pos : Nat} {s : ParseElems}

/-- The pointers of `struct rtw_ieee802_11_elems`. -/
inductive ElemsField
  | ssid
  | supp_rates
  | fh_params
  | ds_params
  | cf_params
  | tim
  | ibss_params
  | challenge
  | erp_info
  | ext_supp_rates
  | wpa_ie
  | rsn_ie
  | wme
  | wme_tspec
  | wps_ie
  | power_cap
  | supp_channels
  | mdie
  | ftie
  | timeout_int
  | ht_capabilities
  | ht_operation
  | vendor_ht_cap
  | vht_capabilities
  | vht_operation
  | vht_op_mode_notify
  | rm_en_cap
  -- with mesh only
  | preq
  | prep
  | perr
  | rann
  deriving DecidableEq, Repr

/-- A pointer and the length beside it. -/
structure ElemsEntry where
  pos : Nat
  len : Nat
  deriving DecidableEq, Repr

/-- `struct rtw_ieee802_11_elems`; `none` is a null pointer with length 0. -/
abbrev Elems := ElemsField -> Option ElemsEntry

def Elems.store (elems : Elems) (field : ElemsField) (pos len : Nat) : Elems :=
  Function.update elems field (some ⟨pos, len⟩)

inductive ParseRes
  | ParseOK
  | ParseUnknown
  | ParseFailed
  deriving DecidableEq, Repr

def OUI_MICROSOFT : Nat := 0x0050f2
def OUI_BROADCOM : Nat := 0x00904c
def WME_OUI_TYPE : UInt8 := 2
def WME_OUI_SUBTYPE_INFORMATION_ELEMENT : UInt8 := 0
def WME_OUI_SUBTYPE_PARAMETER_ELEMENT : UInt8 := 1
def WME_OUI_SUBTYPE_TSPEC_ELEMENT : UInt8 := 2
def VENDOR_HT_CAPAB_OUI_TYPE : UInt8 := 0x33
def WLAN_EID_VENDOR_SPECIFIC : UInt8 := 221

def RTW_GET_BE24 (mem : Nat -> UInt8) (a : Nat) : Nat :=
  65536 * (mem a).toNat + 256 * (mem (a + 1)).toNat + (mem (a + 2)).toNat

def rtw_ieee802_11_parse_vendor_specific (mem : Nat -> UInt8) (pos elen : Nat) (elems : Elems) : Elems × Int :=
  if elen < 4 then (elems, -1)
  else
    let oui := RTW_GET_BE24 mem pos
    if oui = OUI_MICROSOFT then
      if mem (pos + 3) = 1 then (elems.store .wpa_ie pos elen, 0)
      else if mem (pos + 3) = WME_OUI_TYPE then
        if elen < 5 then (elems, -1)
        else if mem (pos + 4) = WME_OUI_SUBTYPE_INFORMATION_ELEMENT ∨
            mem (pos + 4) = WME_OUI_SUBTYPE_PARAMETER_ELEMENT then (elems.store .wme pos elen, 0)
        else if mem (pos + 4) = WME_OUI_SUBTYPE_TSPEC_ELEMENT then (elems.store .wme_tspec pos elen, 0)
        else (elems, -1)
      else if mem (pos + 3) = 4 then (elems.store .wps_ie pos elen, 0)
      else (elems, -1)
    else if oui = OUI_BROADCOM then
      if mem (pos + 3) = VENDOR_HT_CAPAB_OUI_TYPE then (elems.store .vendor_ht_cap pos elen, 0) else (elems, -1)
    else (elems, -1)

/-- The cases of `switch (id)` that store a pointer.  `mesh` is `CONFIG_RTW_MESH`. -/
def elems_field (mesh : Bool) (id : UInt8) : Option ElemsField :=
  match id.toNat with
  | 0 => some .ssid
  | 1 => some .supp_rates
  | 2 => some .fh_params
  | 3 => some .ds_params
  | 4 => some .cf_params
  | 5 => some .tim
  | 6 => some .ibss_params
  | 16 => some .challenge
  | 42 => some .erp_info
  | 50 => some .ext_supp_rates
  | 48 => some .rsn_ie
  | 33 => some .power_cap
  | 36 => some .supp_channels
  | 54 => some .mdie
  | 55 => some .ftie
  | 56 => some .timeout_int
  | 45 => some .ht_capabilities
  | 61 => some .ht_operation
  | 191 => some .vht_capabilities
  | 192 => some .vht_operation
  | 199 => some .vht_op_mode_notify
  | 70 => some .rm_en_cap
  | 130 => if mesh then some .preq else none
  | 131 => if mesh then some .prep else none
  | 132 => if mesh then some .perr else none
  | 126 => if mesh then some .rann else none
  | _ => none

/-- The variables of the loop. -/
structure ParseElems where
  pos : Nat
  left : Nat
  unknown : Nat
  elems : Elems

/-- `switch (id)`: the fields stored, and `unknown`. -/
def parse_element (mesh : Bool) (mem : Nat -> UInt8) (id : UInt8) (pos elen unknown : Nat) (elems : Elems) :
    Elems × Nat :=
  if id = WLAN_EID_VENDOR_SPECIFIC then
    let vendor := rtw_ieee802_11_parse_vendor_specific mem pos elen elems
    (vendor.1, if vendor.2 ≠ 0 then unknown + 1 else unknown)
  else
    match elems_field mesh id with
    | some field => (elems.store field pos elen, unknown)
    | none => (elems, unknown + 1)

def rtw_ieee802_11_parse_elems_body (mesh : Bool) (mem : Nat -> UInt8) (s : ParseElems) :
    Iteration ParseElems (ParseRes × Elems) :=
  if 2 ≤ s.left then
    let id := mem s.pos
    let elen := (mem (s.pos + 1)).toNat
    let pos := s.pos + 2
    let left := s.left - 2
    if left < elen then .done (.ParseFailed, s.elems)
    else
      let parsed := parse_element mesh mem id pos elen s.unknown s.elems
      .more ⟨pos + elen, left - elen, parsed.2, parsed.1⟩
  else if s.left ≠ 0 then .done (.ParseFailed, s.elems)
  else .done (if s.unknown ≠ 0 then .ParseUnknown else .ParseOK, s.elems)

/-- The value returned and the fields; `none` while the function is still running. -/
def rtw_ieee802_11_parse_elems (mesh : Bool) (mem : Nat -> UInt8) (start len : Nat) : Option (ParseRes × Elems) :=
  scan (rtw_ieee802_11_parse_elems_body mesh mem) (len + 1) ⟨start, len, 0, fun _ => none⟩

/-- OUI, type and subtype of the vendor elements that are stored. -/
def vendor_kinds : List (List UInt8 × ElemsField) := [
  ([0x00, 0x50, 0xf2, 0x01], .wpa_ie),
  ([0x00, 0x50, 0xf2, 0x02, 0x00], .wme),
  ([0x00, 0x50, 0xf2, 0x02, 0x01], .wme),
  ([0x00, 0x50, 0xf2, 0x02, 0x02], .wme_tspec),
  ([0x00, 0x50, 0xf2, 0x04], .wps_ie),
  ([0x00, 0x90, 0x4c, 0x33], .vendor_ht_cap)]

/-- The body is long enough for the bytes that tell its kind, and begins with them. -/
def vendor_field (body : List UInt8) : Option ElemsField :=
  (vendor_kinds.find? (fun kind => kind.1.isPrefixOf body)).map Prod.snd

def Element.field (mesh : Bool) (element : Element) : Option ElemsField :=
  if element.id = WLAN_EID_VENDOR_SPECIFIC then vendor_field element.body else elems_field mesh element.id

theorem RTW_GET_BE24_eq_iff {mem : Nat -> UInt8} {a : Nat} {first second third : UInt8} :
    RTW_GET_BE24 mem a = 65536 * first.toNat + 256 * second.toNat + third.toNat <->
      mem a = first ∧ mem (a + 1) = second ∧ mem (a + 2) = third := by
  have bounds := And.intro (mem (a + 1)).toNat_lt (mem (a + 2)).toNat_lt
  have others := And.intro second.toNat_lt third.toNat_lt
  unfold RTW_GET_BE24
  rw [← UInt8.toNat_inj, ← UInt8.toNat_inj, ← UInt8.toNat_inj]
  omega

theorem vendor_field_short {body : List UInt8} (short : body.length < 4) : vendor_field body = none := by
  have long : ∀ kind ∈ vendor_kinds, 4 ≤ kind.1.length := by decide
  unfold vendor_field
  rw [Option.map_eq_none_iff, List.find?_eq_none]
  intro kind member front
  have enough := (List.isPrefixOf_iff_prefix.mp front).length_le
  have few := long kind member
  omega

theorem vendor_field_microsoft (type : UInt8) (rest : List UInt8) :
    vendor_field (0x00 :: 0x50 :: 0xf2 :: type :: rest) =
      if type = 1 then some .wpa_ie
      else if type = 2 then
        if rest.head? = some 0 ∨ rest.head? = some 1 then some .wme
        else if rest.head? = some 2 then some .wme_tspec
        else none
      else if type = 4 then some .wps_ie
      else none := by
  have other : ∀ {sought byte : UInt8}, byte ≠ sought -> (sought == byte) = false :=
    fun different => beq_false_of_ne different.symm
  by_cases wpa : type = 1
  · rw [wpa]
    rfl
  by_cases wme : type = 2
  · rw [wme]
    cases rest with
    | nil => rfl
    | cons subtype rest =>
        by_cases information : subtype = 0
        · rw [information]
          rfl
        by_cases parameter : subtype = 1
        · rw [parameter]
          rfl
        by_cases tspec : subtype = 2
        · rw [tspec]
          rfl
        simp [vendor_field, vendor_kinds, List.isPrefixOf, other information, other parameter, other tspec,
          information, parameter, tspec]
  by_cases wps : type = 4
  · rw [wps]
    rfl
  simp [vendor_field, vendor_kinds, List.isPrefixOf, other wpa, other wme, other wps, wpa, wme, wps]

theorem vendor_field_other {first second third : UInt8} (other : ¬(first = 0x00 ∧ second = 0x50 ∧ third = 0xf2))
    (type : UInt8) (rest : List UInt8) :
    vendor_field (first :: second :: third :: type :: rest) =
      if (first = 0x00 ∧ second = 0x90 ∧ third = 0x4c) ∧ type = 0x33 then some .vendor_ht_cap else none := by
  have missed : ∀ tail, List.isPrefixOf (0x00 :: 0x50 :: 0xf2 :: tail) (first :: second :: third :: type :: rest) =
      false := by
    intro tail
    rw [← Bool.not_eq_true, List.isPrefixOf_cons_cons, List.isPrefixOf_cons_cons, List.isPrefixOf_cons_cons]
    simp only [Bool.and_eq_true, beq_iff_eq]
    exact fun both => other ⟨both.1.symm, both.2.1.symm, both.2.2.1.symm⟩
  unfold vendor_field vendor_kinds
  simp only [List.find?_cons, List.find?_nil, missed]
  split_ifs
  case pos broadcom =>
    rcases broadcom with ⟨⟨rfl, rfl, rfl⟩, rfl⟩
    rfl
  case neg different =>
    have last : List.isPrefixOf [0x00, 0x90, 0x4c, 0x33] (first :: second :: third :: type :: rest) = false := by
      rw [← Bool.not_eq_true]
      simp only [List.isPrefixOf, Bool.and_eq_true, beq_iff_eq]
      exact fun both => different ⟨⟨both.1.symm, both.2.1.symm, both.2.2.1.symm⟩, both.2.2.2.1.symm⟩
    rw [last]
    rfl

theorem parse_vendor_specific_eq {mem : Nat -> UInt8} {body : List UInt8}
    (holds : HoldsBytes mem pos body) (elems : Elems) :
    rtw_ieee802_11_parse_vendor_specific mem pos body.length elems =
      match vendor_field body with
      | some field => (elems.store field pos body.length, 0)
      | none => (elems, -1) := by
  unfold rtw_ieee802_11_parse_vendor_specific
  by_cases short : body.length < 4
  · rw [if_pos short, vendor_field_short short]
  rw [if_neg short]
  match body with
  | [] | [_] | [_, _] | [_, _, _] => exact absurd (by simp only [List.length_cons, List.length_nil]; decide) short
  | first :: second :: third :: type :: rest =>
      simp only [HoldsBytes.cons_iff] at holds
      rcases holds with ⟨at0, at1, at2, at3, behind⟩
      dsimp only
      have oui : ∀ {a b c : UInt8},
          RTW_GET_BE24 mem pos = 65536 * a.toNat + 256 * b.toNat + c.toNat <-> first = a ∧ second = b ∧ third = c := by
        intro a b c
        rw [RTW_GET_BE24_eq_iff, at0, at1, at2]
      have type_at : mem (pos + 3) = type := at3
      rw [type_at]
      have microsoft : RTW_GET_BE24 mem pos = OUI_MICROSOFT <-> first = 0x00 ∧ second = 0x50 ∧ third = 0xf2 :=
        @oui 0x00 0x50 0xf2
      have broadcom : RTW_GET_BE24 mem pos = OUI_BROADCOM <-> first = 0x00 ∧ second = 0x90 ∧ third = 0x4c :=
        @oui 0x00 0x90 0x4c
      by_cases is_microsoft : first = 0x00 ∧ second = 0x50 ∧ third = 0xf2
      · rw [if_pos (microsoft.mpr is_microsoft)]
        rcases is_microsoft with ⟨rfl, rfl, rfl⟩
        rw [vendor_field_microsoft]
        cases rest with
        | nil =>
            have few : [0x00, 0x50, 0xf2, type].length < 5 := Nat.lt_succ_self 4
            rw [if_pos few]
            simp only [List.head?_nil, reduceCtorEq, or_self, if_false]
            unfold WME_OUI_TYPE
            split_ifs <;> rfl
        | cons subtype rest =>
            have subtype_at : mem (pos + 4) = subtype := (HoldsBytes.cons_iff.mp behind).1
            have long : ¬(0x00 :: 0x50 :: 0xf2 :: type :: subtype :: rest : List UInt8).length < 5 := by
              simp only [List.length_cons]
              omega
            rw [subtype_at, if_neg long]
            simp only [List.head?_cons, Option.some.injEq]
            unfold WME_OUI_TYPE WME_OUI_SUBTYPE_INFORMATION_ELEMENT WME_OUI_SUBTYPE_PARAMETER_ELEMENT
              WME_OUI_SUBTYPE_TSPEC_ELEMENT
            split_ifs <;> rfl
      · rw [if_neg (fun same => is_microsoft (microsoft.mp same)), vendor_field_other is_microsoft]
        by_cases is_broadcom : first = 0x00 ∧ second = 0x90 ∧ third = 0x4c
        · rw [if_pos (broadcom.mpr is_broadcom)]
          unfold VENDOR_HT_CAPAB_OUI_TYPE
          simp only [is_broadcom, true_and]
          split_ifs <;> rfl
        · rw [if_neg (fun same => is_broadcom (broadcom.mp same)), if_neg (fun both => is_broadcom both.1)]

theorem parse_element_eq {mesh : Bool} {mem : Nat -> UInt8} {pos : Nat} {element : Element}
    (holds : HoldsBytes mem pos element.body) (unknown : Nat) (elems : Elems) :
    parse_element mesh mem element.id pos element.body.length unknown elems =
      match element.field mesh with
      | some field => (elems.store field pos element.body.length, unknown)
      | none => (elems, unknown + 1) := by
  unfold parse_element Element.field
  split_ifs
  case pos =>
    rw [parse_vendor_specific_eq holds]
    cases vendor_field element.body <;> rfl
  case neg => rfl

/-! ## The loop -/

section

variable (mesh : Bool)

def Elems.stored (elems : Elems) (pos : Nat) (element : Element) : Elems :=
  match element.field mesh with
  | some field => elems.store field pos element.body.length
  | none => elems

theorem stored_apply (elems : Elems) (pos : Nat) (element : Element) (field : ElemsField) :
    elems.stored mesh pos element field =
      if element.field mesh = some field then some ⟨pos, element.body.length⟩ else elems field := by
  unfold Elems.stored
  cases kind : element.field mesh with
  | none => rfl
  | some other =>
      change Function.update elems other (some ⟨pos, element.body.length⟩) field = _
      rw [Function.update_apply]
      exact if_congr (by rw [Option.some.injEq, eq_comm]) rfl rfl

/-- The fields after these elements, which stand at `pos`. -/
def elems_after : Elems -> Nat -> List Element -> Elems
  | elems, _, [] => elems
  | elems, pos, element :: rest =>
      elems_after (elems.stored mesh (pos + 2) element) (pos + element.bytes.length) rest

def IsLastBody (pos : Nat) (elements : List Element) (field : ElemsField) (entry : ElemsEntry) : Prop :=
  ∃ before element, ∃ after,
    elements = before ++ element :: after ∧ element.field mesh = some field ∧
      (∀ later ∈ after, later.field mesh ≠ some field) ∧
      entry = ⟨pos + (elements_bytes before).length + 2, element.body.length⟩

theorem elems_after_eq_some_iff {elems : Elems} {elements : List Element} {field : ElemsField} {entry : ElemsEntry} :
    elems_after mesh elems pos elements field = some entry <->
      IsLastBody mesh pos elements field entry ∨
        elems field = some entry ∧ ∀ element ∈ elements, element.field mesh ≠ some field := by
  induction elements generalizing elems pos with
  | nil =>
      constructor
      · exact fun same => Or.inr ⟨same, fun _ impossible => (List.not_mem_nil impossible).elim⟩
      · rintro (⟨before, element, after, impossible, _⟩ | ⟨same, _⟩)
        · exact absurd impossible.symm (List.append_ne_nil_of_right_ne_nil _ (List.cons_ne_nil _ _))
        · exact same
  | cons first rest ih =>
      rw [elems_after, ih, stored_apply]
      constructor
      · rintro (⟨before, element, after, split, kind, last, place⟩ | ⟨stored, others⟩)
        · refine Or.inl ⟨first :: before, element, after, split ▸ rfl, kind, last, ?_⟩
          rw [place, elements_bytes_cons, List.length_append, Nat.add_assoc pos]
        · split_ifs at stored
          case pos here =>
            exact Or.inl ⟨[], first, rest, rfl, here, others, (Option.some.inj stored).symm⟩
          case neg other =>
            exact Or.inr ⟨stored, List.forall_mem_cons.mpr ⟨other, others⟩⟩
      · rintro (⟨before, element, after, split, kind, last, place⟩ | ⟨same, others⟩)
        · cases before with
          | nil =>
              rcases List.cons.inj split with ⟨rfl, rfl⟩
              exact Or.inr ⟨(if_pos kind).trans (congrArg some place.symm), last⟩
          | cons head before =>
              rcases List.cons.inj split with ⟨rfl, rest_split⟩
              refine Or.inl ⟨before, element, after, rest_split, kind, last, ?_⟩
              rw [place, elements_bytes_cons, List.length_append, ← Nat.add_assoc pos first.bytes.length]
        · rcases List.forall_mem_cons.mp others with ⟨other, others⟩
          exact Or.inr ⟨(if_neg other).trans same, others⟩

variable {mesh} {mem : Nat -> UInt8}

/-- The element that a complete header in memory announces. -/
def element_at (mem : Nat -> UInt8) (pos : Nat) : Element where
  id := mem pos
  body := Memory.read mem (pos + 2) (mem (pos + 1)).toNat
  small := by
    rw [Memory.length_read]
    exact (mem (pos + 1)).toNat_lt

theorem holds_element_at (pos : Nat) : HoldsBytes mem pos (element_at mem pos).bytes := by
  unfold Element.bytes element_at
  dsimp only
  rw [HoldsBytes.cons_iff, HoldsBytes.cons_iff, Memory.length_read, UInt8.ofNat_toNat]
  refine ⟨rfl, rfl, ?_⟩
  unfold HoldsBytes
  rw [Memory.length_read]

theorem elements_begin {elements : List Element} (holds : HoldsBytes mem pos (elements_bytes elements))
    (some_bytes : 0 < (elements_bytes elements).length) :
    ∃ rest, elements = element_at mem pos :: rest ∧
      HoldsBytes mem (pos + (element_at mem pos).bytes.length) (elements_bytes rest) := by
  cases elements with
  | nil => exact absurd some_bytes (Nat.lt_irrefl 0)
  | cons element rest =>
      rw [elements_bytes_cons] at holds
      have there := elementAt holds
      have same : element_at mem pos = element := by
        have header := there.size
        rw [ie_size, Element.length_bytes, Nat.add_right_cancel_iff] at header
        have body := (HoldsBytes.append_iff.mp there.body).1
        unfold HoldsBytes at body
        cases element
        unfold element_at
        congr
        · exact there.id
        · rw [header]
          exact body
      exact ⟨rest, same ▸ rfl, same ▸ there.behind⟩

theorem body_failed_of_cut (header : 2 ≤ s.left) (cut : s.left < (element_at mem s.pos).bytes.length) :
    rtw_ieee802_11_parse_elems_body mesh mem s = .done (.ParseFailed, s.elems) := by
  rw [Element.length_bytes, element_at, Memory.length_read] at cut
  unfold rtw_ieee802_11_parse_elems_body
  rw [if_pos header]
  exact if_pos (by omega)

theorem body_failed_of_rest (short : ¬2 ≤ s.left) (rest : s.left ≠ 0) :
    rtw_ieee802_11_parse_elems_body mesh mem s = .done (.ParseFailed, s.elems) := by
  unfold rtw_ieee802_11_parse_elems_body
  rw [if_neg short, if_pos rest]

theorem body_ended (ended : s.left = 0) :
    rtw_ieee802_11_parse_elems_body mesh mem s =
      .done (if s.unknown ≠ 0 then .ParseUnknown else .ParseOK, s.elems) := by
  unfold rtw_ieee802_11_parse_elems_body
  rw [if_neg (by omega), if_neg (fun some_left => some_left ended)]

theorem body_parsed (header : 2 ≤ s.left) (complete : (element_at mem s.pos).bytes.length ≤ s.left) :
    rtw_ieee802_11_parse_elems_body mesh mem s = .more {
      pos := s.pos + (element_at mem s.pos).bytes.length
      left := s.left - (element_at mem s.pos).bytes.length
      unknown := if (element_at mem s.pos).field mesh = none then s.unknown + 1 else s.unknown
      elems := s.elems.stored mesh (s.pos + 2) (element_at mem s.pos) } := by
  have there := HoldsBytes.cons_iff.mp (HoldsBytes.cons_iff.mp (@holds_element_at mem s.pos)).2
  have parsed := @parse_element_eq mesh mem (s.pos + 2) (element_at mem s.pos) there.2 s.unknown s.elems
  have size : (element_at mem s.pos).body.length = (mem (s.pos + 1)).toNat := Memory.length_read _ _ _
  rw [Element.length_bytes, size] at complete
  rw [Element.length_bytes, size]
  rw [size] at parsed
  unfold rtw_ieee802_11_parse_elems_body Elems.stored
  rw [if_pos header, size]
  dsimp only
  rw [if_neg (by omega)]
  change Iteration.more (ParseElems.mk _ _ (parse_element mesh mem (element_at mem s.pos).id
    (s.pos + 2) (mem (s.pos + 1)).toNat s.unknown s.elems).2 (parse_element mesh mem (element_at mem s.pos).id
    (s.pos + 2) (mem (s.pos + 1)).toNat s.unknown s.elems).1) = _
  rw [parsed, Nat.add_assoc, Nat.add_comm 2, Nat.sub_sub, Nat.add_comm 2]
  cases (element_at mem s.pos).field mesh with
  | none => rfl
  | some field => rfl

theorem read_eq_iff {len : Nat} {bytes : List UInt8} :
    Memory.read mem pos len = bytes <-> len = bytes.length ∧ HoldsBytes mem pos bytes := by
  constructor
  · intro same
    have length := congrArg List.length same
    rw [Memory.length_read] at length
    exact ⟨length, by rw [HoldsBytes, ← length, same]⟩
  · intro ⟨length, holds⟩
    rw [length]
    exact holds

def Elems.Inside (elems : Elems) (start stop : Nat) : Prop :=
  ∀ field entry, elems field = some entry -> start ≤ entry.pos ∧ entry.pos + entry.len ≤ stop

theorem Elems.Inside.stored {elems : Elems} {start stop : Nat} {element : Element}
    (inside : elems.Inside start stop) (begins : start ≤ pos) (ends : pos + element.body.length ≤ stop) :
    (elems.stored mesh pos element).Inside start stop := by
  intro field entry same
  rw [stored_apply] at same
  split_ifs at same
  case pos =>
    rw [← Option.some.inj same]
    exact ⟨begins, ends⟩
  case neg => exact inside field entry same

/-- What the loop returns from a state on. -/
structure ParsesFrom (mesh : Bool) (mem : Nat -> UInt8) (s : ParseElems) (result : ParseRes × Elems) : Prop where
  complete : ∀ elements, Memory.read mem s.pos s.left = elements_bytes elements ->
    result.1 ≠ .ParseFailed ∧
      (result.1 = .ParseOK <-> s.unknown = 0 ∧ ∀ element ∈ elements, element.field mesh ≠ none) ∧
      result.2 = elems_after mesh s.elems s.pos elements
  grammar : result.1 ≠ .ParseFailed -> ∃ elements, Memory.read mem s.pos s.left = elements_bytes elements
  inside : ∀ start, start ≤ s.pos -> s.elems.Inside start (s.pos + s.left) ->
    result.2.Inside start (s.pos + s.left)

theorem ParsesFrom.failed (cut : 0 < s.left ∧ s.left < (element_at mem s.pos).bytes.length) :
    ParsesFrom mesh mem s (.ParseFailed, s.elems) := by
  refine ⟨?_, fun impossible => absurd rfl impossible, fun _ _ inside => inside⟩
  intro elements same
  rcases read_eq_iff.mp same with ⟨length, holds⟩
  rcases elements_begin holds (by omega) with ⟨rest, rfl, _⟩
  rw [elements_bytes_cons, List.length_append] at length
  omega

theorem ParsesFrom.ended (ended : s.left = 0) :
    ParsesFrom mesh mem s (if s.unknown ≠ 0 then .ParseUnknown else .ParseOK, s.elems) := by
  refine ⟨?_, ?_, fun _ _ inside => inside⟩
  · intro elements same
    rcases read_eq_iff.mp same with ⟨length, _⟩
    have count := length_le_length_elements_bytes elements
    obtain rfl : elements = [] := List.length_eq_zero_iff.mp (by omega)
    dsimp only
    split_ifs
    case pos unknown => exact ⟨nofun, iff_of_false nofun (fun both => unknown both.1), rfl⟩
    case neg known =>
      refine ⟨nofun, iff_of_true rfl ⟨Decidable.not_not.mp known, ?_⟩, rfl⟩
      exact fun _ impossible => (List.not_mem_nil impossible).elim
  · intro _
    exact ⟨[], ended ▸ rfl⟩

theorem ParsesFrom.parsed {result : ParseRes × Elems} (complete : (element_at mem s.pos).bytes.length ≤ s.left)
    (rest : ParsesFrom mesh mem {
      pos := s.pos + (element_at mem s.pos).bytes.length
      left := s.left - (element_at mem s.pos).bytes.length
      unknown := if (element_at mem s.pos).field mesh = none then s.unknown + 1 else s.unknown
      elems := s.elems.stored mesh (s.pos + 2) (element_at mem s.pos) } result) :
    ParsesFrom mesh mem s result := by
  have size := (element_at mem s.pos).length_bytes
  have stop : s.pos + (element_at mem s.pos).bytes.length + (s.left - (element_at mem s.pos).bytes.length) =
      s.pos + s.left := by omega
  refine ⟨?_, ?_, ?_⟩
  · intro elements same
    rcases read_eq_iff.mp same with ⟨length, holds⟩
    rcases elements_begin holds (by omega) with ⟨others, rfl, behind⟩
    rw [elements_bytes_cons, List.length_append] at length
    rcases rest.complete others (read_eq_iff.mpr ⟨by dsimp only; omega, behind⟩) with ⟨success, known, fields⟩
    refine ⟨success, ?_, fields⟩
    rw [known, List.forall_mem_cons]
    dsimp only
    by_cases unknown : (element_at mem s.pos).field mesh = none
    · rw [if_pos unknown]
      exact iff_of_false (fun both => absurd both.1 (Nat.succ_ne_zero _)) (fun both => both.2.1 unknown)
    · rw [if_neg unknown]
      exact and_congr_right (fun _ => (and_iff_right unknown).symm)
  · intro success
    rcases rest.grammar success with ⟨others, same⟩
    refine ⟨element_at mem s.pos :: others, ?_⟩
    rcases read_eq_iff.mp same with ⟨length, behind⟩
    dsimp only at length
    rw [read_eq_iff, elements_bytes_cons, List.length_append, HoldsBytes.append_iff]
    exact ⟨by omega, holds_element_at s.pos, behind⟩
  · intro start begins inside
    have later := rest.inside start (by dsimp only; omega)
    dsimp only at later
    rw [stop] at later
    exact later (inside.stored (by omega) (by omega))

theorem run_parses {s : ParseElems} {fuel : Nat} (enough : s.left < fuel) :
    ∃ result, scan (rtw_ieee802_11_parse_elems_body mesh mem) fuel s = some result ∧
      ParsesFrom mesh mem s result := by
  induction fuel generalizing s with
  | zero => exact absurd enough (Nat.not_lt_zero _)
  | succ fuel ih =>
      have size := (element_at mem s.pos).length_bytes
      by_cases header : 2 ≤ s.left
      · by_cases complete : (element_at mem s.pos).bytes.length ≤ s.left
        · rcases @ih ⟨_, s.left - (element_at mem s.pos).bytes.length, _, _⟩
            (by dsimp only; omega) with ⟨result, ended, parses⟩
          exact ⟨result, (Scanner.scan_more (body_parsed header complete) fuel).trans ended, parses.parsed complete⟩
        · exact ⟨_, Scanner.scan_done (body_failed_of_cut header (Nat.not_le.mp complete)) fuel,
            ParsesFrom.failed (by omega)⟩
      · by_cases left : s.left = 0
        · exact ⟨_, Scanner.scan_done (body_ended left) fuel, ParsesFrom.ended left⟩
        · exact ⟨_, Scanner.scan_done (body_failed_of_rest header left) fuel, ParsesFrom.failed (by omega)⟩

end

/-- The parser ends; what it stores lies inside the string; it fails unless the string is made
of complete elements, and then each field is the body of the last element of its kind. -/
theorem rtw_ieee802_11_parse_elems_correct (mesh : Bool) (mem : Nat -> UInt8) (start len : Nat) :
    ∃ result, rtw_ieee802_11_parse_elems mesh mem start len = some result ∧
      result.2.Inside start (start + len) ∧
      (result.1 ≠ .ParseFailed <->
        ∃ elements, Memory.read mem start len = elements_bytes elements) ∧
      ∀ elements, Memory.read mem start len = elements_bytes elements ->
        (result.1 = .ParseOK <-> ∀ element ∈ elements, element.field mesh ≠ none) ∧
        ∀ field entry, result.2 field = some entry <-> IsLastBody mesh start elements field entry := by
  have enough : len < len + 1 := Nat.lt_succ_self len
  rcases @run_parses mesh mem ⟨start, len, 0, fun _ => none⟩ (len + 1) enough with ⟨result, ended, parses⟩
  refine ⟨result, ended, ?_, ⟨parses.grammar, ?_⟩, ?_⟩
  · exact parses.inside start (Nat.le_refl _) (fun _ _ impossible => nomatch impossible)
  · intro ⟨elements, same⟩
    exact (parses.complete elements same).1
  · intro elements same
    rcases parses.complete elements same with ⟨_, known, fields⟩
    refine ⟨known.trans (and_iff_right rfl), fun field entry => ?_⟩
    rw [fields, elems_after_eq_some_iff]
    exact or_iff_left (fun both => nomatch both.1)

end Rtl8821ce
