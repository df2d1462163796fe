import Rtl8821ce.Ieee80211.Attributes
import Rtl8821ce.Ieee80211.Element

/-!
# Parsing the RSN element

Every field behind the version is optional: the element may end after any of them, but not
inside one.  A list stands behind its own 16-bit count; where the element ends right behind
a count, the parser ends there as well, and does not report the list.
-/

namespace Rtl8821ce

def WLAN_EID_RSN : UInt8 := 48

/-- `struct rsne_info`; a null pointer is `none`. -/
structure RsneInfo where
  gcs : Option Nat := none
  pcs_cnt : Nat := 0
  pcs_list : Option Nat := none
  akm_cnt : Nat := 0
  akm_list : Option Nat := none
  cap : Option Nat := none
  pmkid_cnt : Nat := 0
  pmkid_list : Option Nat := none
  gmcs : Option Nat := none
  err : Bool := false
  deriving DecidableEq, Repr

/-- The value returned and the fields. -/
inductive RsneOutcome
  | _SUCCESS (info : RsneInfo)
  | _FAIL (info : RsneInfo)
  deriving DecidableEq, Repr

/-- The label `err`. -/
def rsne_err (info : RsneInfo) : RsneOutcome := ._FAIL { info with err := true }

/-- The label `exit`. -/
def rsne_exit (info : RsneInfo) : RsneOutcome := ._SUCCESS info

/-! Each part of the function looks whether there are as many bytes as it needs, and leaves
the function otherwise.  `next` is what follows. -/

def rsne_need (stop pos size : Nat) (info : RsneInfo) (next : RsneOutcome) : RsneOutcome :=
  if stop < pos + size then
    if stop ≠ pos then rsne_err info else rsne_exit info
  else next

def rsne_list (mem : Nat -> UInt8) (stop pos size : Nat) (info : RsneInfo)
    (next : Nat -> Nat -> RsneOutcome) : RsneOutcome :=
  rsne_need stop pos 2 info <|
    let cnt := RTW_GET_LE16 mem pos
    rsne_need stop (pos + 2) (size * cnt) info (next cnt (pos + 2))

def rsne_gmcs (stop pos : Nat) (info : RsneInfo) : RsneOutcome :=
  rsne_need stop pos 4 info (rsne_exit { info with gmcs := some pos })

def rsne_pmkid (mem : Nat -> UInt8) (stop pos : Nat) (info : RsneInfo) : RsneOutcome :=
  rsne_list mem stop pos 16 info (fun cnt list =>
    rsne_gmcs stop (list + 16 * cnt) { info with pmkid_cnt := cnt, pmkid_list := some list })

def rsne_cap (mem : Nat -> UInt8) (stop pos : Nat) (info : RsneInfo) : RsneOutcome :=
  rsne_need stop pos 2 info (rsne_pmkid mem stop (pos + 2) { info with cap := some pos })

def rsne_akm (mem : Nat -> UInt8) (stop pos : Nat) (info : RsneInfo) : RsneOutcome :=
  rsne_list mem stop pos 4 info (fun cnt list =>
    rsne_cap mem stop (list + 4 * cnt) { info with akm_cnt := cnt, akm_list := some list })

def rsne_pcs (mem : Nat -> UInt8) (stop pos : Nat) (info : RsneInfo) : RsneOutcome :=
  rsne_list mem stop pos 4 info (fun cnt list =>
    rsne_akm mem stop (list + 4 * cnt) { info with pcs_cnt := cnt, pcs_list := some list })

def rsne_gcs (mem : Nat -> UInt8) (stop pos : Nat) (info : RsneInfo) : RsneOutcome :=
  rsne_need stop pos 4 info (rsne_pcs mem stop (pos + 4) { info with gcs := some pos })

def rtw_rsne_info_parse (mem : Nat -> UInt8) (ie ie_len : Nat) : RsneOutcome :=
  let stop := ie + ie_len
  let info : RsneInfo := {}
  if stop < ie + 4 then rsne_err info
  else if mem ie ≠ WLAN_EID_RSN ∨ (mem (ie + 1)).toNat ≠ ie_len - 2 then rsne_err info
  else rsne_gcs mem stop (ie + 2 + 2) info

namespace RsneInfo

/-- Everything reported lies inside these bounds. -/
structure Inside (info : RsneInfo) (start stop : Nat) : Prop where
  gcs : ∀ pos, info.gcs = some pos -> start ≤ pos ∧ pos + 4 ≤ stop
  pcs_list : ∀ pos, info.pcs_list = some pos -> start ≤ pos ∧ pos + 4 * info.pcs_cnt ≤ stop
  akm_list : ∀ pos, info.akm_list = some pos -> start ≤ pos ∧ pos + 4 * info.akm_cnt ≤ stop
  cap : ∀ pos, info.cap = some pos -> start ≤ pos ∧ pos + 2 ≤ stop
  pmkid_list : ∀ pos, info.pmkid_list = some pos -> start ≤ pos ∧ pos + 16 * info.pmkid_cnt ≤ stop
  gmcs : ∀ pos, info.gmcs = some pos -> start ≤ pos ∧ pos + 4 ≤ stop

end RsneInfo

namespace RsneOutcome

def info : RsneOutcome -> RsneInfo
  | _SUCCESS info => info
  | _FAIL info => info

end RsneOutcome

section

variable {mem : Nat -> UInt8} {start stop pos : Nat} {info : RsneInfo}

theorem rsne_need_inside {size : Nat} {next : RsneOutcome} (inside : info.Inside start stop)
    (later : pos + size ≤ stop -> next.info.Inside start stop) :
    (rsne_need stop pos size info next).info.Inside start stop := by
  unfold rsne_need
  split_ifs
  case pos => exact ⟨inside.gcs, inside.pcs_list, inside.akm_list, inside.cap, inside.pmkid_list, inside.gmcs⟩
  case neg => exact inside
  case neg enough => exact later (Nat.not_lt.mp enough)

theorem rsne_list_inside {size : Nat} {next : Nat -> Nat -> RsneOutcome} (inside : info.Inside start stop)
    (later : ∀ cnt, pos + 2 + size * cnt ≤ stop -> (next cnt (pos + 2)).info.Inside start stop) :
    (rsne_list mem stop pos size info next).info.Inside start stop :=
  rsne_need_inside inside (fun _ => rsne_need_inside inside (later _))

theorem rsne_gmcs_inside (after : start ≤ pos) (inside : info.Inside start stop) :
    (rsne_gmcs stop pos info).info.Inside start stop := by
  refine rsne_need_inside inside (fun enough => { inside with gmcs := ?_ })
  rintro _ ⟨⟩
  exact ⟨after, enough⟩

theorem rsne_pmkid_inside (after : start ≤ pos) (inside : info.Inside start stop) :
    (rsne_pmkid mem stop pos info).info.Inside start stop := by
  refine rsne_list_inside inside (fun cnt enough => rsne_gmcs_inside (by omega) { inside with pmkid_list := ?_ })
  rintro _ ⟨⟩
  exact ⟨by omega, enough⟩

theorem rsne_cap_inside (after : start ≤ pos) (inside : info.Inside start stop) :
    (rsne_cap mem stop pos info).info.Inside start stop := by
  refine rsne_need_inside inside (fun enough => rsne_pmkid_inside (by omega) { inside with cap := ?_ })
  rintro _ ⟨⟩
  exact ⟨after, enough⟩

theorem rsne_akm_inside (after : start ≤ pos) (inside : info.Inside start stop) :
    (rsne_akm mem stop pos info).info.Inside start stop := by
  refine rsne_list_inside inside (fun cnt enough => rsne_cap_inside (by omega) { inside with akm_list := ?_ })
  rintro _ ⟨⟩
  exact ⟨by omega, enough⟩

theorem rsne_pcs_inside (after : start ≤ pos) (inside : info.Inside start stop) :
    (rsne_pcs mem stop pos info).info.Inside start stop := by
  refine rsne_list_inside inside (fun cnt enough => rsne_akm_inside (by omega) { inside with pcs_list := ?_ })
  rintro _ ⟨⟩
  exact ⟨by omega, enough⟩

theorem rsne_gcs_inside (after : start ≤ pos) (inside : info.Inside start stop) :
    (rsne_gcs mem stop pos info).info.Inside start stop := by
  refine rsne_need_inside inside (fun enough => rsne_pcs_inside (by omega) { inside with gcs := ?_ })
  rintro _ ⟨⟩
  exact ⟨after, enough⟩

end

theorem rtw_rsne_info_parse_inside (mem : Nat -> UInt8) (ie ie_len : Nat) :
    (rtw_rsne_info_parse mem ie ie_len).info.Inside ie (ie + ie_len) := by
  have blank : ∀ {err : Bool}, ({ err := err } : RsneInfo).Inside ie (ie + ie_len) :=
    ⟨nofun, nofun, nofun, nofun, nofun, nofun⟩
  unfold rtw_rsne_info_parse
  dsimp only
  split_ifs
  case pos => exact blank
  case pos => exact blank
  case neg => exact rsne_gcs_inside (by omega) blank

/-! ## Serialised elements -/

/-- The fields behind the version. -/
structure RsnFields where
  gcs : Vector UInt8 4
  pcs : List (Vector UInt8 4)
  akm : List (Vector UInt8 4)
  cap : Vector UInt8 2
  pmkid : List (Vector UInt8 16)
  gmcs : Vector UInt8 4

section

variable {size : Nat}

def count_bytes (entries : List (Vector UInt8 size)) : List UInt8 :=
  [UInt8.ofNat entries.length, UInt8.ofNat (entries.length / 256)]

def list_bytes (entries : List (Vector UInt8 size)) : List UInt8 := entries.flatMap Vector.toList

theorem length_list_bytes (entries : List (Vector UInt8 size)) :
    (list_bytes entries).length = size * entries.length := by
  induction entries with
  | nil => rfl
  | cons entry rest ih =>
      rw [list_bytes, List.flatMap_cons, List.length_append, Vector.length_toList, List.length_cons, Nat.mul_succ,
        Nat.add_comm]
      exact congrArg (· + size) ih

theorem RTW_GET_LE16_count {mem : Nat -> UInt8} {pos : Nat} {entries : List (Vector UInt8 size)}
    (holds : HoldsBytes mem pos (count_bytes entries)) : RTW_GET_LE16 mem pos = entries.length % 65536 := by
  unfold count_bytes at holds
  rw [HoldsBytes.cons_iff, HoldsBytes.cons_iff] at holds
  rw [RTW_GET_LE16, holds.1, holds.2.1, UInt8.toNat_ofNat', UInt8.toNat_ofNat']
  omega

end

namespace RsnFields

variable (fields : RsnFields)

/-! The pieces between two boundaries, from one of them on. -/

def from_gmcs : List (List UInt8) := [fields.gmcs.toList]

def from_pmkid : List (List UInt8) := count_bytes fields.pmkid :: list_bytes fields.pmkid :: fields.from_gmcs

def from_cap : List (List UInt8) := fields.cap.toList :: fields.from_pmkid

def from_akm : List (List UInt8) := count_bytes fields.akm :: list_bytes fields.akm :: fields.from_cap

def from_pcs : List (List UInt8) := count_bytes fields.pcs :: list_bytes fields.pcs :: fields.from_akm

def from_gcs : List (List UInt8) := fields.gcs.toList :: fields.from_pcs

/-- The body of the element that ends at a boundary: so many pieces stand behind the version. -/
def body (version : Vector UInt8 2) (pieces : Nat) : List UInt8 :=
  version.toList ++ (fields.from_gcs.take pieces).flatten

end RsnFields

/-- A pointer to a field, or none if the field is not there. -/
def ReportsField {size : Nat} (mem : Nat -> UInt8) (pos : Option Nat) (field : Option (Vector UInt8 size)) : Prop :=
  pos.map (fun pos => Memory.read mem pos size) = field.map Vector.toList

/-- A count and a pointer to as many entries; without entries there may be no pointer. -/
def ReportsList {size : Nat} (mem : Nat -> UInt8) (cnt : Nat) (list : Option Nat)
    (entries : List (Vector UInt8 size)) : Prop :=
  cnt = entries.length ∧ (list.map (fun pos => Memory.read mem pos (size * cnt))).getD [] = list_bytes entries

/-- Exactly the fields before a boundary are reported. -/
structure Reports (mem : Nat -> UInt8) (fields : RsnFields) (pieces : Nat) (info : RsneInfo) : Prop where
  gcs : ReportsField mem info.gcs (if 1 ≤ pieces then some fields.gcs else none)
  pcs : ReportsList mem info.pcs_cnt info.pcs_list (if 3 ≤ pieces then fields.pcs else [])
  akm : ReportsList mem info.akm_cnt info.akm_list (if 5 ≤ pieces then fields.akm else [])
  cap : ReportsField mem info.cap (if 6 ≤ pieces then some fields.cap else none)
  pmkid : ReportsList mem info.pmkid_cnt info.pmkid_list (if 8 ≤ pieces then fields.pmkid else [])
  gmcs : ReportsField mem info.gmcs (if 9 ≤ pieces then some fields.gmcs else none)
  err : info.err = false

section

variable {mem : Nat -> UInt8} {stop pos : Nat} {info : RsneInfo} {fields : RsnFields}

theorem rsne_need_ended {size : Nat} (some_bytes : 0 < size) (next : RsneOutcome) :
    rsne_need pos pos size info next = rsne_exit info := by
  unfold rsne_need
  rw [if_pos (Nat.lt_add_of_pos_right some_bytes), if_neg (fun other => other rfl)]

theorem rsne_need_enough {size : Nat} (enough : pos + size ≤ stop) (next : RsneOutcome) :
    rsne_need stop pos size info next = next := by
  unfold rsne_need
  rw [if_neg (Nat.not_lt.mpr enough)]

/-- The element ends at this place with these pieces. -/
structure EndsWith (mem : Nat -> UInt8) (stop pos : Nat) (pieces : List (List UInt8)) : Prop where
  holds : HoldsBytes mem pos pieces.flatten
  stop : stop = pos + pieces.flatten.length

theorem EndsWith.cons {piece : List UInt8} {rest : List (List UInt8)} (ends : EndsWith mem stop pos (piece :: rest)) :
    HoldsBytes mem pos piece ∧ EndsWith mem stop (pos + piece.length) rest := by
  have holds := ends.holds
  have total := ends.stop
  rw [List.flatten_cons, HoldsBytes.append_iff] at holds
  rw [List.flatten_cons, List.length_append, ← Nat.add_assoc] at total
  exact ⟨holds.1, holds.2, total⟩

theorem EndsWith.le {piece : List UInt8} {rest : List (List UInt8)} (ends : EndsWith mem stop pos (piece :: rest)) :
    pos + piece.length ≤ stop := by
  rw [ends.cons.2.stop]
  exact Nat.le_add_right _ _

theorem EndsWith.nil (ends : EndsWith mem stop pos []) : stop = pos := ends.stop

theorem reportsField {size : Nat} {field : Vector UInt8 size} (holds : HoldsBytes mem pos field.toList) :
    ReportsField mem (some pos) (some field) := by
  unfold HoldsBytes at holds
  rw [Vector.length_toList] at holds
  exact congrArg some holds

theorem reportsList {size : Nat} {entries : List (Vector UInt8 size)} (holds : HoldsBytes mem pos (list_bytes entries)) :
    ReportsList mem entries.length (some pos) entries := by
  unfold HoldsBytes at holds
  rw [length_list_bytes] at holds
  exact ⟨rfl, holds⟩

theorem rsne_need_serialised {size left : Nat} {field : Vector UInt8 size} {rest : List (List UInt8)}
    {next : RsneOutcome} {good : RsneOutcome -> Prop} (some_bytes : 0 < size)
    (ends : EndsWith mem stop pos ((field.toList :: rest).take left)) (absent : left = 0 -> good (rsne_exit info))
    (present : ∀ fewer, left = fewer + 1 -> ReportsField mem (some pos) (some field) ->
      EndsWith mem stop (pos + size) (rest.take fewer) -> good next) :
    good (rsne_need stop pos size info next) := by
  cases left with
  | zero =>
      rw [ends.nil, rsne_need_ended some_bytes]
      exact absent rfl
  | succ fewer =>
      rw [List.take_succ_cons] at ends
      have behind := ends.cons
      have enough := ends.le
      rw [Vector.length_toList] at behind enough
      rw [rsne_need_enough enough]
      exact present fewer rfl (reportsField behind.1) behind.2

theorem rsne_list_serialised {size left : Nat} {entries : List (Vector UInt8 size)} {rest : List (List UInt8)}
    {next : Nat -> Nat -> RsneOutcome} {good : RsneOutcome -> Prop} (some_bytes : 0 < size)
    (fits : stop < pos + 65536)
    (ends : EndsWith mem stop pos ((count_bytes entries :: list_bytes entries :: rest).take left))
    (absent : left < 2 -> good (rsne_exit info)) (counted : left = 1 -> stop = pos + 2 -> good (next 0 (pos + 2)))
    (present : ∀ fewer, left = fewer + 2 -> ReportsList mem entries.length (some (pos + 2)) entries ->
      EndsWith mem stop (pos + 2 + size * entries.length) (rest.take fewer) -> good (next entries.length (pos + 2))) :
    good (rsne_list mem stop pos size info next) := by
  unfold rsne_list
  cases left with
  | zero =>
      rw [ends.nil, rsne_need_ended Nat.two_pos]
      exact absent Nat.two_pos
  | succ left =>
      rw [List.take_succ_cons] at ends
      have behind := ends.cons
      have header : pos + 2 ≤ stop := ends.le
      rw [rsne_need_enough header, RTW_GET_LE16_count behind.1]
      dsimp only
      cases left with
      | zero =>
          have ended : stop = pos + 2 := behind.2.nil
          cases count : entries.length % 65536 with
          | zero =>
              have enough : pos + 2 + size * 0 ≤ stop := by omega
              rw [rsne_need_enough enough]
              exact counted rfl ended
          | succ others =>
              rw [ended, rsne_need_ended (Nat.mul_pos some_bytes (Nat.succ_pos _))]
              exact absent Nat.one_lt_two
      | succ fewer =>
          rw [List.take_succ_cons] at behind
          have list := behind.2.cons
          have enough := behind.2.le
          rw [length_list_bytes] at list enough
          change pos + 2 + size * entries.length ≤ stop at enough
          have few : entries.length < 65536 := by
            have least := Nat.le_mul_of_pos_left entries.length some_bytes
            omega
          rw [Nat.mod_eq_of_lt few, rsne_need_enough enough]
          exact present fewer rfl (reportsList list.1) list.2

/-! ## The parts one after the other

At each boundary what is reported is what the element would report if it ended there. -/

/-- The function succeeds and reports the fields before a boundary. -/
def Succeeds (mem : Nat -> UInt8) (fields : RsnFields) (pieces : Nat) (outcome : RsneOutcome) : Prop :=
  ∃ info, outcome = ._SUCCESS info ∧ Reports mem fields pieces info

theorem Reports.succeeds {pieces : Nat} (reports : Reports mem fields pieces info) :
    Succeeds mem fields pieces (rsne_exit info) := ⟨info, rfl, reports⟩

theorem Reports.all (reports : Reports mem fields 9 info) (more : Nat) : Reports mem fields (9 + more) info := by
  rcases reports with ⟨gcs, pcs, akm, cap, pmkid, gmcs, err⟩
  refine ⟨?_, ?_, ?_, ?_, ?_, ?_, err⟩ <;> rw [if_pos (by omega)]
  · exact gcs
  · exact pcs
  · exact akm
  · exact cap
  · exact pmkid
  · exact gmcs

theorem rsne_gmcs_serialised {left : Nat} (ends : EndsWith mem stop pos (fields.from_gmcs.take left))
    (reports : Reports mem fields 8 info) : Succeeds mem fields (8 + left) (rsne_gmcs stop pos info) := by
  refine rsne_need_serialised (by decide) ends ?_ ?_
  · rintro rfl
    exact reports.succeeds
  · rintro fewer rfl gmcs _
    have all : Reports mem fields 9 { info with gmcs := some pos } := { reports with gmcs }
    rw [Nat.add_comm fewer, ← Nat.add_assoc]
    exact (all.all fewer).succeeds

theorem rsne_pmkid_serialised {left : Nat} (fits : stop < pos + 65536)
    (ends : EndsWith mem stop pos (fields.from_pmkid.take left)) (reports : Reports mem fields 6 info) :
    Succeeds mem fields (6 + left) (rsne_pmkid mem stop pos info) := by
  refine rsne_list_serialised (by decide) fits ends ?_ ?_ ?_
  · intro few
    match left, few with
    | 0, _ => exact reports.succeeds
    | 1, _ => exact Reports.succeeds { reports with }
  · rintro rfl ended
    rw [ended]
    refine ⟨{ info with pmkid_cnt := 0, pmkid_list := some (pos + 2) }, rsne_need_ended (by decide) _, ?_⟩
    exact { reports with pmkid := ⟨rfl, rfl⟩ }
  · rintro fewer rfl pmkid behind
    rw [Nat.add_comm fewer, ← Nat.add_assoc]
    exact rsne_gmcs_serialised behind { reports with pmkid }

theorem rsne_cap_serialised {left : Nat} (fits : stop < pos + 65536)
    (ends : EndsWith mem stop pos (fields.from_cap.take left)) (reports : Reports mem fields 5 info) :
    Succeeds mem fields (5 + left) (rsne_cap mem stop pos info) := by
  refine rsne_need_serialised (by decide) ends ?_ ?_
  · rintro rfl
    exact reports.succeeds
  · rintro fewer rfl cap behind
    rw [Nat.add_comm fewer, ← Nat.add_assoc]
    exact rsne_pmkid_serialised (by omega) behind { reports with cap }

theorem rsne_akm_serialised {left : Nat} (fits : stop < pos + 65536)
    (ends : EndsWith mem stop pos (fields.from_akm.take left)) (reports : Reports mem fields 3 info) :
    Succeeds mem fields (3 + left) (rsne_akm mem stop pos info) := by
  refine rsne_list_serialised (by decide) fits ends ?_ ?_ ?_
  · intro few
    match left, few with
    | 0, _ => exact reports.succeeds
    | 1, _ => exact Reports.succeeds { reports with }
  · rintro rfl ended
    rw [ended]
    refine ⟨{ info with akm_cnt := 0, akm_list := some (pos + 2) }, rsne_need_ended (by decide) _, ?_⟩
    exact { reports with akm := ⟨rfl, rfl⟩ }
  · rintro fewer rfl akm behind
    rw [Nat.add_comm fewer, ← Nat.add_assoc]
    exact rsne_cap_serialised (by omega) behind { reports with akm }

theorem rsne_pcs_serialised {left : Nat} (fits : stop < pos + 65536)
    (ends : EndsWith mem stop pos (fields.from_pcs.take left)) (reports : Reports mem fields 1 info) :
    Succeeds mem fields (1 + left) (rsne_pcs mem stop pos info) := by
  refine rsne_list_serialised (by decide) fits ends ?_ ?_ ?_
  · intro few
    match left, few with
    | 0, _ => exact reports.succeeds
    | 1, _ => exact Reports.succeeds { reports with }
  · rintro rfl ended
    rw [ended]
    refine ⟨{ info with pcs_cnt := 0, pcs_list := some (pos + 2) }, rsne_need_ended (by decide) _, ?_⟩
    exact { reports with pcs := ⟨rfl, rfl⟩ }
  · rintro fewer rfl pcs behind
    rw [Nat.add_comm fewer, ← Nat.add_assoc]
    exact rsne_akm_serialised (by omega) behind { reports with pcs }

theorem rsne_gcs_serialised {left : Nat} (fits : stop < pos + 65536)
    (ends : EndsWith mem stop pos (fields.from_gcs.take left)) (reports : Reports mem fields 0 info) :
    Succeeds mem fields left (rsne_gcs mem stop pos info) := by
  refine rsne_need_serialised (by decide) ends ?_ ?_
  · rintro rfl
    exact reports.succeeds
  · rintro fewer rfl gcs behind
    rw [Nat.add_comm fewer]
    exact rsne_pcs_serialised (by omega) behind { reports with gcs }

end

/-- The element that ends at a boundary, if its body is not too long. -/
def rsn_element (fields : RsnFields) (version : Vector UInt8 2) (pieces : Nat)
    (fits : (fields.body version pieces).length < 256) : Element where
  id := WLAN_EID_RSN
  body := fields.body version pieces
  small := fits

theorem rtw_rsne_info_parse_serialised {mem : Nat -> UInt8} {ie : Nat} {fields : RsnFields} {version : Vector UInt8 2}
    {pieces : Nat} {fits : (fields.body version pieces).length < 256}
    (holds : HoldsBytes mem ie (rsn_element fields version pieces fits).bytes) :
    Succeeds mem fields pieces
      (rtw_rsne_info_parse mem ie (rsn_element fields version pieces fits).bytes.length) := by
  have there := @elementAt mem ie (rsn_element fields version pieces fits) [] (by rw [List.append_nil]; exact holds)
  have length : (fields.body version pieces).length = 2 + (fields.from_gcs.take pieces).flatten.length := by
    rw [RsnFields.body, List.length_append, Vector.length_toList]
  have size : (rsn_element fields version pieces fits).bytes.length = (fields.body version pieces).length + 2 := rfl
  have header := there.size
  rw [ie_size, size] at header
  have body := (HoldsBytes.append_iff.mp there.body).1
  change HoldsBytes mem (ie + 2) (version.toList ++ (fields.from_gcs.take pieces).flatten) at body
  rw [HoldsBytes.append_iff, Vector.length_toList] at body
  unfold rtw_rsne_info_parse
  dsimp only
  rw [size, if_neg (by omega), if_neg (fun wrong => wrong.elim (fun other => other there.id) (by omega))]
  exact rsne_gcs_serialised (by omega) ⟨body.2, by omega⟩ ⟨rfl, ⟨rfl, rfl⟩, ⟨rfl, rfl⟩, rfl, ⟨rfl, rfl⟩, rfl, rfl⟩

/-- An element that ends at a boundary behind the version is parsed to just its fields, and
on any bytes what is reported lies inside them. -/
theorem rtw_rsne_info_parse_correct (mem : Nat -> UInt8) (ie : Nat) :
    (∀ (fields : RsnFields) (version : Vector UInt8 2) (pieces : Nat)
      (fits : (fields.body version pieces).length < 256),
        HoldsBytes mem ie (rsn_element fields version pieces fits).bytes ->
          Succeeds mem fields pieces
            (rtw_rsne_info_parse mem ie (rsn_element fields version pieces fits).bytes.length)) ∧
      ∀ (ie_len : Nat) (info : RsneInfo),
        rtw_rsne_info_parse mem ie ie_len = ._SUCCESS info -> info.Inside ie (ie + ie_len) := by
  refine ⟨fun fields version pieces fits => rtw_rsne_info_parse_serialised, ?_⟩
  intro ie_len info success
  have inside := rtw_rsne_info_parse_inside mem ie ie_len
  rw [success] at inside
  exact inside

/-- The element ends behind the count of its pairwise ciphers. -/
example :
    let fields : RsnFields := ⟨#v[0, 15, 172, 4], [#v[0, 15, 172, 4]], [], #v[0, 0], [], #v[0, 15, 172, 6]⟩
    let element := rsn_element fields #v[1, 0] 2 (by decide)
    rtw_rsne_info_parse (fun pos => element.bytes.getD pos 0) 0 10 = ._SUCCESS { gcs := some 4 } := by decide

end Rtl8821ce
