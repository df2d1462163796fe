import Rtl8821ce.Ieee80211.RsneInfo

/-!
# Parsing the WPA element

`rtw_parse_wpa_ie` compares the id, the length and the OUI before it looks how many bytes
there are.  From then on `left` is what is left behind `pos`; it may be negative.  The
version is passed over, and so is the number of AKM suites: only the first one is compared.
-/

namespace Rtl8821ce

variable {s : WpaParse} {asked : Bool}

def WPA_CIPHER_NONE : Nat := 1
def WPA_CIPHER_WEP40 : Nat := 2
def WPA_CIPHER_WEP104 : Nat := 4
def WPA_CIPHER_TKIP : Nat := 8
def WPA_CIPHER_CCMP : Nat := 16

def WPA_CIPHER_SUITE_NONE : List UInt8 := [0x00, 0x50, 0xf2, 0]
def WPA_CIPHER_SUITE_WEP40 : List UInt8 := [0x00, 0x50, 0xf2, 1]
def WPA_CIPHER_SUITE_TKIP : List UInt8 := [0x00, 0x50, 0xf2, 2]
def WPA_CIPHER_SUITE_CCMP : List UInt8 := [0x00, 0x50, 0xf2, 4]
def WPA_CIPHER_SUITE_WEP104 : List UInt8 := [0x00, 0x50, 0xf2, 5]
def SUITE_1X : List UInt8 := [0x00, 0x50, 0xf2, 1]
def RTW_WPA_OUI_TYPE : List UInt8 := [0x00, 0x50, 0xf2, 1]

def rtw_get_wpa_cipher_suite (mem : Nat -> UInt8) (s : Nat) : Nat :=
  if bytes_at mem s WPA_CIPHER_SUITE_NONE then WPA_CIPHER_NONE
  else if bytes_at mem s WPA_CIPHER_SUITE_WEP40 then WPA_CIPHER_WEP40
  else if bytes_at mem s WPA_CIPHER_SUITE_TKIP then WPA_CIPHER_TKIP
  else if bytes_at mem s WPA_CIPHER_SUITE_CCMP then WPA_CIPHER_CCMP
  else if bytes_at mem s WPA_CIPHER_SUITE_WEP104 then WPA_CIPHER_WEP104
  else 0

/-- The variables and what the pointers of the caller point to, `none` for a null pointer;
`reads` are the places read so far. -/
structure WpaParse where
  pos : Nat
  left : Int
  group_cipher : Nat
  pairwise_cipher : Nat
  is_8021x : Option Nat
  reads : List Nat
  deriving DecidableEq, Repr

/-- A part of the function either goes on or returns `_FAIL`. -/
inductive WpaStep
  | go (s : WpaParse)
  | fail (s : WpaParse)

def WpaStep.andThen (step : WpaStep) (next : WpaParse -> WpaStep) : WpaStep :=
  match step with
  | .go s => next s
  | .fail s => .fail s

/-- The three comparisons; each is made if the one before it holds. -/
def wpa_header (mem : Nat -> UInt8) (wpa_ie_len : Int) (s : WpaParse) : WpaStep :=
  if mem 0 ≠ _WPA_IE_ID_ then .fail { s with reads := [0] }
  -- the cast to `u8`
  else if ((mem 1).toNat : Int) ≠ (wpa_ie_len - 2) % 256 then .fail { s with reads := [0, 1] }
  else if !bytes_at mem 2 RTW_WPA_OUI_TYPE then .fail { s with reads := [0, 1, 2, 3, 4, 5] }
  else .go { s with pos := 8, left := wpa_ie_len - 8, reads := [0, 1, 2, 3, 4, 5] }

def wpa_group_cipher (mem : Nat -> UInt8) (s : WpaParse) : WpaStep :=
  if 4 ≤ s.left then
    .go { s with
      group_cipher := rtw_get_wpa_cipher_suite mem s.pos
      pos := s.pos + 4
      left := s.left - 4
      reads := s.reads ++ List.range' s.pos 4 }
  else if 0 < s.left then .fail s
  else .go s

def wpa_pairwise_suites (mem : Nat -> UInt8) : Nat -> WpaParse -> WpaParse
  | 0, s => s
  | count + 1, s => wpa_pairwise_suites mem count { s with
      pairwise_cipher := s.pairwise_cipher ||| rtw_get_wpa_cipher_suite mem s.pos
      pos := s.pos + 4
      left := s.left - 4
      reads := s.reads ++ List.range' s.pos 4 }

def wpa_pairwise_cipher (mem : Nat -> UInt8) (s : WpaParse) : WpaStep :=
  if 2 ≤ s.left then
    let count := RTW_GET_LE16 mem s.pos
    let s := { s with pos := s.pos + 2, left := s.left - 2, reads := s.reads ++ [s.pos, s.pos + 1] }
    if count = 0 ∨ s.left < ((count * 4 : Nat) : Int) then .fail s
    else .go (wpa_pairwise_suites mem count s)
  else if s.left = 1 then .fail s
  else .go s

def wpa_is_8021x (mem : Nat -> UInt8) (s : WpaParse) : WpaStep :=
  match s.is_8021x with
  | some before =>
      if 6 ≤ s.left then
        let pos := s.pos + 2
        .go { s with
          pos
          is_8021x := some (if bytes_at mem pos SUITE_1X then 1 else before)
          reads := s.reads ++ List.range' pos 4 }
      else .go s
  | none => .go s

def rtw_parse_wpa_ie (mem : Nat -> UInt8) (wpa_ie_len : Int) (group_cipher pairwise_cipher : Nat)
    (is_8021x : Option Nat) : WpaStep :=
  let s : WpaParse := ⟨0, 0, group_cipher, pairwise_cipher, is_8021x, []⟩
  if wpa_ie_len ≤ 0 then .fail s
  else
    (((wpa_header mem wpa_ie_len s).andThen (wpa_group_cipher mem)).andThen (wpa_pairwise_cipher mem)).andThen
      (wpa_is_8021x mem)

def WpaStep.state : WpaStep -> WpaParse
  | .go s => s
  | .fail s => s

section

variable (mem : Nat -> UInt8) (len : Nat)

def wpa_pcs_cnt : Nat := RTW_GET_LE16 mem 12

def wpa_akm_pos : Nat := 14 + 4 * wpa_pcs_cnt mem

def wpa_akm_cnt : Nat := RTW_GET_LE16 mem (wpa_akm_pos mem)

def suite_ciphers (pos : Nat) : Nat -> Nat
  | 0 => 0
  | count + 1 => rtw_get_wpa_cipher_suite mem pos ||| suite_ciphers (pos + 4) count

def present_group_cipher : Nat := if 12 ≤ len then rtw_get_wpa_cipher_suite mem 8 else 0

def present_pairwise_cipher : Nat := if 14 ≤ len then suite_ciphers mem 14 (wpa_pcs_cnt mem) else 0

def HasAkm : Prop := 14 ≤ len ∧ wpa_akm_pos mem + 2 ≤ len

/-- One of the AKM suites announced is that of 802.1X. -/
def Has8021x : Prop :=
  HasAkm mem len ∧ ∃ i, i < wpa_akm_cnt mem ∧ bytes_at mem (wpa_akm_pos mem + 2 + 4 * i) SUITE_1X = true

/-- A complete element of version 1, and whole lists of suites. -/
structure WholeWpaElement : Prop where
  header : 8 ≤ len
  id : mem 0 = _WPA_IE_ID_
  length : (mem 1).toNat + 2 = len
  oui : bytes_at mem 2 RTW_WPA_OUI_TYPE = true
  version : RTW_GET_LE16 mem 6 = 1
  pairwise : 14 ≤ len -> wpa_akm_pos mem ≤ len
  akm : HasAkm mem len -> wpa_akm_pos mem + 2 + 4 * wpa_akm_cnt mem ≤ len

/-- Only bytes of the string are read, only whole elements are accepted, and what is
reported of them is what is there. -/
structure ParsesWpaIe (step : WpaStep) : Prop where
  reads : ∀ offset ∈ step.state.reads, offset < len
  element : ∀ s, step = .go s -> WholeWpaElement mem len
  group : ∀ s, step = .go s -> s.group_cipher = present_group_cipher mem len
  pairwise : ∀ s, step = .go s -> s.pairwise_cipher = present_pairwise_cipher mem len
  akm : ∀ s is_8021x, step = .go s -> s.is_8021x = some is_8021x -> (is_8021x ≠ 0 <-> Has8021x mem len)

/-- The three comparisons hold. -/
structure HeaderMatches : Prop where
  some_bytes : 0 < len
  id : mem 0 = _WPA_IE_ID_
  length : ((mem 1).toNat : Int) = ((len : Int) - 2) % 256
  oui : bytes_at mem 2 RTW_WPA_OUI_TYPE = true

/-- The string does not end inside the group cipher or the list of pairwise ciphers, and this
list is not empty. -/
def Uncut : Prop := len ≤ 8 ∨ len = 12 ∨ 14 ≤ len ∧ wpa_pcs_cnt mem ≠ 0 ∧ wpa_akm_pos mem ≤ len

/-- What the comparisons that are missing would have to find; `asked` tells whether the
caller wants to know about 802.1X. -/
structure WpaIeSound (asked : Bool) : Prop where
  compared : 0 < len -> mem 0 = _WPA_IE_ID_ -> len ≠ 1 ∧ ((mem 1).toNat + 2 = len -> 6 ≤ len)
  version : HeaderMatches mem len -> Uncut mem len -> 8 ≤ len ∧ RTW_GET_LE16 mem 6 = 1
  akm_list : HeaderMatches mem len -> Uncut mem len -> HasAkm mem len ->
    wpa_akm_pos mem + 2 + 4 * wpa_akm_cnt mem ≤ len
  akm_none : HeaderMatches mem len -> Uncut mem len -> asked = true -> 14 ≤ len -> wpa_akm_pos mem + 6 ≤ len ->
    wpa_akm_cnt mem = 0 -> bytes_at mem (wpa_akm_pos mem + 2) SUITE_1X = false
  akm_first : HeaderMatches mem len -> Uncut mem len -> asked = true -> Has8021x mem len ->
    bytes_at mem (wpa_akm_pos mem + 2) SUITE_1X = true

end

/-! ## The parts one after the other -/

section

variable {mem : Nat -> UInt8} {len : Nat} {is_8021x : Option Nat}

theorem wpa_pairwise_suites_eq (count : Nat) (s : WpaParse) :
    wpa_pairwise_suites mem count s = { s with
      pos := s.pos + 4 * count
      left := s.left - (4 * count : Nat)
      pairwise_cipher := s.pairwise_cipher ||| suite_ciphers mem s.pos count
      reads := s.reads ++ List.range' s.pos (4 * count) } := by
  induction count generalizing s with
  | zero =>
      have left : s.left - ((4 * 0 : Nat) : Int) = s.left := by omega
      rw [wpa_pairwise_suites, suite_ciphers, Nat.or_zero, left, Nat.mul_zero, Nat.add_zero, List.range'_zero,
        List.append_nil]
  | succ count ih =>
      have reads : List.range' s.pos (4 * (count + 1)) = List.range' s.pos 4 ++ List.range' (s.pos + 4) (4 * count) := by
        rw [Nat.mul_succ, Nat.add_comm, List.range'_append_1]
      have left : s.left - ((4 * (count + 1) : Nat) : Int) = s.left - 4 - ((4 * count : Nat) : Int) := by omega
      rw [wpa_pairwise_suites, ih, reads, left, suite_ciphers, ← Nat.or_assoc, ← List.append_assoc]
      dsimp only
      rw [Nat.mul_succ, Nat.add_comm (4 * count), Nat.add_assoc]

theorem wpa_is_8021x_few (few : s.left < 6) : wpa_is_8021x mem s = .go s := by
  unfold wpa_is_8021x
  cases s.is_8021x with
  | none => rfl
  | some before => exact if_neg (Int.not_le.mpr few)

theorem wpa_is_8021x_enough {before : Nat} (given : s.is_8021x = some before) (enough : 6 ≤ s.left) :
    wpa_is_8021x mem s = .go { s with
      pos := s.pos + 2
      is_8021x := some (if bytes_at mem (s.pos + 2) SUITE_1X then 1 else before)
      reads := s.reads ++ List.range' (s.pos + 2) 4 } := by
  unfold wpa_is_8021x
  rw [given]
  exact if_pos enough

theorem wpa_is_8021x_not_given (given : s.is_8021x = none) : wpa_is_8021x mem s = .go s := by
  unfold wpa_is_8021x
  rw [given]

def header_reads (mem : Nat -> UInt8) (len : Nat) : List Nat :=
  if mem 0 ≠ _WPA_IE_ID_ then [0]
  else if ((mem 1).toNat : Int) ≠ ((len : Int) - 2) % 256 then [0, 1]
  else [0, 1, 2, 3, 4, 5]

theorem header_reads_inside_iff (some_bytes : 0 < len) (short : len ≤ 255) :
    (∀ offset ∈ header_reads mem len, offset < len) <->
      (mem 0 = _WPA_IE_ID_ -> len ≠ 1 ∧ ((mem 1).toNat + 2 = len -> 6 ≤ len)) := by
  have small := (mem 1).toNat_lt
  unfold header_reads
  by_cases id : mem 0 = _WPA_IE_ID_
  · rw [if_neg (not_not.mpr id), forall_prop_of_true id]
    by_cases length : ((mem 1).toNat : Int) = ((len : Int) - 2) % 256
    · rw [if_neg (not_not.mpr length)]
      simp only [List.forall_mem_cons, List.not_mem_nil, false_imp_iff, implies_true, and_true]
      omega
    · rw [if_pos length]
      simp only [List.forall_mem_cons, List.not_mem_nil, false_imp_iff, implies_true, and_true]
      omega
  · rw [if_pos id]
    exact iff_of_true (fun offset member => List.mem_singleton.mp member ▸ some_bytes) (fun same => absurd same id)

def after_header (len : Nat) (is_8021x : Option Nat) : WpaParse :=
  ⟨8, (len : Int) - 8, 0, 0, is_8021x, [0, 1, 2, 3, 4, 5]⟩

def after_group (mem : Nat -> UInt8) (len : Nat) (is_8021x : Option Nat) : WpaParse :=
  ⟨12, (len : Int) - 12, rtw_get_wpa_cipher_suite mem 8, 0, is_8021x, [0, 1, 2, 3, 4, 5] ++ List.range' 8 4⟩

def after_pairwise (mem : Nat -> UInt8) (len : Nat) (is_8021x : Option Nat) : WpaParse :=
  ⟨wpa_akm_pos mem, (len : Int) - wpa_akm_pos mem, rtw_get_wpa_cipher_suite mem 8,
    suite_ciphers mem 14 (wpa_pcs_cnt mem), is_8021x,
    [0, 1, 2, 3, 4, 5] ++ List.range' 8 4 ++ [12, 13] ++ List.range' 14 (4 * wpa_pcs_cnt mem)⟩

theorem wpa_header_matches (header : HeaderMatches mem len) (group pairwise : Nat) :
    wpa_header mem len ⟨0, 0, group, pairwise, is_8021x, []⟩ =
      .go ⟨8, (len : Int) - 8, group, pairwise, is_8021x, [0, 1, 2, 3, 4, 5]⟩ := by
  unfold wpa_header
  rw [if_neg (not_not.mpr header.id), if_neg (not_not.mpr header.length), header.oui]
  rfl

theorem wpa_header_differs (some_bytes : 0 < len) (differs : ¬HeaderMatches mem len) (s : WpaParse) :
    wpa_header mem len s = .fail { s with reads := header_reads mem len } := by
  unfold wpa_header header_reads
  split_ifs
  case pos => rfl
  case pos => rfl
  case pos => rfl
  case neg id length oui =>
      exact absurd ⟨some_bytes, not_not.mp id, not_not.mp length, by simpa using oui⟩ differs

theorem header_reads_of_matches (header : HeaderMatches mem len) : header_reads mem len = [0, 1, 2, 3, 4, 5] := by
  unfold header_reads
  rw [if_neg (not_not.mpr header.id), if_neg (not_not.mpr header.length)]

theorem wpa_group_cipher_present (enough : 12 ≤ len) :
    wpa_group_cipher mem (after_header len is_8021x) = .go (after_group mem len is_8021x) := by
  unfold wpa_group_cipher after_header after_group
  dsimp only
  rw [if_pos (by omega), Int.sub_sub]
  rfl

theorem wpa_pairwise_cipher_present (enough : 14 ≤ len) (nonempty : wpa_pcs_cnt mem ≠ 0) (whole : wpa_akm_pos mem ≤ len) :
    wpa_pairwise_cipher mem (after_group mem len is_8021x) = .go (after_pairwise mem len is_8021x) := by
  unfold wpa_akm_pos at whole
  unfold wpa_pairwise_cipher after_group after_pairwise
  dsimp only
  have list : ¬(RTW_GET_LE16 mem 12 = 0 ∨ (len : Int) - 12 - 2 < ((RTW_GET_LE16 mem 12 * 4 : Nat) : Int)) := by
    unfold wpa_pcs_cnt at nonempty whole
    omega
  rw [if_pos (by omega), if_neg list, wpa_pairwise_suites_eq]
  dsimp only
  have left : (len : Int) - 12 - 2 - ((4 * RTW_GET_LE16 mem 12 : Nat) : Int) = (len : Int) - (wpa_akm_pos mem : Int) := by
    unfold wpa_akm_pos wpa_pcs_cnt
    omega
  rw [left, Nat.zero_or]
  rfl

theorem rtw_parse_wpa_ie_cut (header : HeaderMatches mem len) (cut : ¬Uncut mem len) :
    ∃ s, rtw_parse_wpa_ie mem len 0 0 is_8021x = .fail s ∧ ∀ offset ∈ s.reads, offset < len := by
  have some_bytes := header.some_bytes
  unfold Uncut wpa_akm_pos at cut
  unfold rtw_parse_wpa_ie
  dsimp only
  rw [if_neg (by omega), wpa_header_matches header]
  change ∃ s, (((wpa_group_cipher mem (after_header len is_8021x)).andThen (wpa_pairwise_cipher mem)).andThen
    (wpa_is_8021x mem)) = .fail s ∧ _
  by_cases group : 12 ≤ len
  · rw [wpa_group_cipher_present group]
    change ∃ s, ((wpa_pairwise_cipher mem (after_group mem len is_8021x)).andThen (wpa_is_8021x mem)) = .fail s ∧ _
    unfold wpa_pairwise_cipher after_group
    dsimp only
    by_cases count : 14 ≤ len
    · have list : RTW_GET_LE16 mem 12 = 0 ∨ (len : Int) - 12 - 2 < ((RTW_GET_LE16 mem 12 * 4 : Nat) : Int) := by
        unfold wpa_pcs_cnt at cut
        omega
      rw [if_pos (by omega), if_pos list]
      refine ⟨_, rfl, fun offset member => ?_⟩
      simp only [List.mem_append, List.mem_cons, List.not_mem_nil, or_false, List.mem_range'_1] at member
      omega
    · rw [if_neg (by omega), if_pos (by omega)]
      refine ⟨_, rfl, fun offset member => ?_⟩
      simp only [List.mem_append, List.mem_cons, List.not_mem_nil, or_false, List.mem_range'_1] at member
      omega
  · unfold wpa_group_cipher after_header
    dsimp only
    rw [if_neg (by omega), if_pos (by omega)]
    refine ⟨_, rfl, fun offset member => ?_⟩
    simp only [List.mem_cons, List.not_mem_nil, or_false] at member
    omega

theorem rtw_parse_wpa_ie_uncut (header : HeaderMatches mem len) (uncut : Uncut mem len) :
    rtw_parse_wpa_ie mem len 0 0 is_8021x =
      if len ≤ 8 then .go (after_header len is_8021x)
      else if len = 12 then .go (after_group mem len is_8021x)
      else wpa_is_8021x mem (after_pairwise mem len is_8021x) := by
  have some_bytes := header.some_bytes
  unfold Uncut at uncut
  unfold rtw_parse_wpa_ie
  dsimp only
  rw [if_neg (by omega), wpa_header_matches header]
  change (((wpa_group_cipher mem (after_header len is_8021x)).andThen (wpa_pairwise_cipher mem)).andThen
    (wpa_is_8021x mem)) = _
  split_ifs
  case pos few =>
    have group : wpa_group_cipher mem (after_header len is_8021x) = .go (after_header len is_8021x) := by
      unfold wpa_group_cipher after_header
      dsimp only
      rw [if_neg (by omega), if_neg (by omega)]
    have pairwise : wpa_pairwise_cipher mem (after_header len is_8021x) = .go (after_header len is_8021x) := by
      unfold wpa_pairwise_cipher after_header
      dsimp only
      rw [if_neg (by omega), if_neg (by omega)]
    rw [group, WpaStep.andThen, pairwise, WpaStep.andThen]
    exact wpa_is_8021x_few (show (len : Int) - 8 < 6 by omega)
  case pos twelve =>
    have pairwise : wpa_pairwise_cipher mem (after_group mem len is_8021x) = .go (after_group mem len is_8021x) := by
      unfold wpa_pairwise_cipher after_group
      dsimp only
      rw [if_neg (by omega), if_neg (by omega)]
    rw [wpa_group_cipher_present (by omega), WpaStep.andThen, pairwise, WpaStep.andThen]
    exact wpa_is_8021x_few (show (len : Int) - 12 < 6 by omega)
  case neg =>
    rcases uncut with few | twelve | ⟨enough, nonempty, whole⟩
    · omega
    · omega
    · rw [wpa_group_cipher_present (by omega), WpaStep.andThen, wpa_pairwise_cipher_present enough nonempty whole]
      rfl

def FirstIs8021x (mem : Nat -> UInt8) (len : Nat) : Prop :=
  14 ≤ len ∧ wpa_akm_pos mem + 6 ≤ len ∧ bytes_at mem (wpa_akm_pos mem + 2) SUITE_1X = true

/-- An element that is accepted: what is reported, and what was read. -/
structure Accepts (mem : Nat -> UInt8) (len : Nat) (asked : Bool) (s : WpaParse) : Prop where
  group : s.group_cipher = present_group_cipher mem len
  pairwise : s.pairwise_cipher = present_pairwise_cipher mem len
  akm : ∀ is_8021x, s.is_8021x = some is_8021x -> (is_8021x ≠ 0 <-> FirstIs8021x mem len)
  given : s.is_8021x.isSome = asked
  header : ∀ offset, offset ∈ [0, 1, 2, 3, 4, 5] -> offset ∈ s.reads
  inside : ∀ offset ∈ s.reads, offset < 6 ∨ offset < len

/-- What the caller's pointer to `is_8021x` points to. -/
def cleared (asked : Bool) : Option Nat := if asked then some 0 else none

theorem cleared_isSome (asked : Bool) : (cleared asked).isSome = asked := by cases asked <;> rfl

theorem eq_zero_of_cleared {value : Nat} (same : cleared asked = some value) : value = 0 := by
  unfold cleared at same
  split_ifs at same
  exact (Option.some.inj same).symm

theorem accepts_few (few : len ≤ 8) : Accepts mem len asked (after_header len (cleared asked)) where
  group := (if_neg (by omega)).symm
  pairwise := (if_neg (by omega)).symm
  akm := fun _ same => iff_of_false (not_not.mpr (eq_zero_of_cleared same)) (fun first => by have := first.1; omega)
  given := cleared_isSome asked
  header := fun _ member => member
  inside := fun offset member => Or.inl (by
    have below : ∀ offset, offset ∈ [0, 1, 2, 3, 4, 5] -> offset < 6 := by decide
    exact below offset member)

theorem accepts_group (twelve : len = 12) : Accepts mem len asked (after_group mem len (cleared asked)) where
  group := (if_pos (by omega)).symm
  pairwise := (if_neg (by omega)).symm
  akm := fun _ same => iff_of_false (not_not.mpr (eq_zero_of_cleared same)) (fun first => by have := first.1; omega)
  given := cleared_isSome asked
  header := fun _ member => List.mem_append_left _ member
  inside := fun offset member => by
    unfold after_group at member
    simp only [List.mem_append, List.mem_cons, List.not_mem_nil, or_false, List.mem_range'_1] at member
    omega

theorem accepts_pairwise (enough : 14 ≤ len) (whole : wpa_akm_pos mem ≤ len) :
    ∃ s, wpa_is_8021x mem (after_pairwise mem len (cleared asked)) = .go s ∧ Accepts mem len asked s := by
  have group : rtw_get_wpa_cipher_suite mem 8 = present_group_cipher mem len := (if_pos (by omega)).symm
  have pairwise : suite_ciphers mem 14 (wpa_pcs_cnt mem) = present_pairwise_cipher mem len := (if_pos enough).symm
  have place : wpa_akm_pos mem = 14 + 4 * wpa_pcs_cnt mem := rfl
  have header : ∀ offset, offset ∈ [0, 1, 2, 3, 4, 5] -> offset ∈ (after_pairwise mem len (cleared asked)).reads :=
    fun _ member => List.mem_append_left _ (List.mem_append_left _ (List.mem_append_left _ member))
  have inside : ∀ offset ∈ (after_pairwise mem len (cleared asked)).reads, offset < 6 ∨ offset < len := by
    intro offset member
    unfold after_pairwise at member
    simp only [List.mem_append, List.mem_cons, List.not_mem_nil, or_false, List.mem_range'_1] at member
    omega
  by_cases few : (len : Int) - wpa_akm_pos mem < 6
  · refine ⟨_, wpa_is_8021x_few few, group, pairwise, ?_, cleared_isSome asked, header, inside⟩
    intro value same
    refine iff_of_false (not_not.mpr (eq_zero_of_cleared same)) (fun first => ?_)
    have suite := first.2.1
    omega
  · cases asked with
    | false => exact ⟨_, wpa_is_8021x_not_given rfl, group, pairwise, nofun, rfl, header, inside⟩
    | true =>
        refine ⟨_, wpa_is_8021x_enough rfl (Int.not_lt.mp few), group, pairwise, ?_, rfl,
          fun offset member => List.mem_append_left _ (header offset member), ?_⟩
        · intro value same
          have compared : FirstIs8021x mem len <-> bytes_at mem (wpa_akm_pos mem + 2) SUITE_1X = true :=
            (and_iff_right enough).trans (and_iff_right (by omega))
          rw [← Option.some.inj same, compared]
          split_ifs
          case pos first => exact iff_of_true Nat.one_ne_zero first
          case neg other => exact iff_of_false (fun some => some rfl) other
        · intro offset member
          rcases List.mem_append.mp member with earlier | suite
          · exact inside offset earlier
          · have bounds := List.mem_range'_1.mp suite
            change wpa_akm_pos mem + 2 ≤ offset ∧ offset < wpa_akm_pos mem + 2 + 4 at bounds
            omega

theorem rtw_parse_wpa_ie_accepts {asked : Bool} (header : HeaderMatches mem len) (uncut : Uncut mem len) :
    ∃ s, rtw_parse_wpa_ie mem len 0 0 (cleared asked) = .go s ∧ Accepts mem len asked s := by
  rw [rtw_parse_wpa_ie_uncut header uncut]
  split_ifs
  case pos few => exact ⟨_, rfl, accepts_few few⟩
  case pos twelve => exact ⟨_, rfl, accepts_group twelve⟩
  case neg =>
    rcases uncut with few | twelve | ⟨enough, _, whole⟩
    · omega
    · omega
    · exact accepts_pairwise enough whole

theorem rtw_parse_wpa_ie_differs {is_8021x : Option Nat} (some_bytes : 0 < len) (differs : ¬HeaderMatches mem len) :
    rtw_parse_wpa_ie mem len 0 0 is_8021x = .fail ⟨0, 0, 0, 0, is_8021x, header_reads mem len⟩ := by
  unfold rtw_parse_wpa_ie
  dsimp only
  rw [if_neg (by omega), wpa_header_differs some_bytes differs]
  rfl

theorem ParsesWpaIe.of_fail (reads : ∀ offset ∈ s.reads, offset < len) :
    ParsesWpaIe mem len (.fail s) := ⟨reads, nofun, nofun, nofun, nofun⟩

theorem first_iff_of_sound (sound : WpaIeSound mem len asked) (header : HeaderMatches mem len)
    (uncut : Uncut mem len) (given : asked = true) : FirstIs8021x mem len <-> Has8021x mem len := by
  constructor
  · intro ⟨enough, fits, compared⟩
    have announced : HasAkm mem len := ⟨enough, by omega⟩
    refine ⟨announced, 0, Nat.pos_of_ne_zero (fun none => ?_), compared⟩
    have other := sound.akm_none header uncut given enough fits none
    rw [compared] at other
    cases other
  · intro has
    rcases has.1 with ⟨enough, _⟩
    rcases has.2 with ⟨i, inside, _⟩
    have whole := sound.akm_list header uncut has.1
    exact ⟨enough, by omega, sound.akm_first header uncut given has⟩

theorem WpaIeSound.parses (sound : WpaIeSound mem len asked) (short : len ≤ 255)
    (header : HeaderMatches mem len) (uncut : Uncut mem len) (accepts : Accepts mem len asked s) :
    ParsesWpaIe mem len (.go s) := by
  have some_bytes := header.some_bytes
  have version := sound.version header uncut
  have length := header.length
  have whole : 14 ≤ len -> wpa_akm_pos mem ≤ len := by
    unfold Uncut at uncut
    omega
  refine ⟨?_, ?_, ?_, ?_, ?_⟩
  · intro offset member
    have bound := accepts.inside offset member
    omega
  · intro _ _
    exact ⟨version.1, header.id, by omega, header.oui, version.2, whole, sound.akm_list header uncut⟩
  · rintro _ ⟨⟩
    exact accepts.group
  · rintro _ ⟨⟩
    exact accepts.pairwise
  · rintro _ value ⟨⟩ same
    have given := accepts.given
    rw [same, Option.isSome_some] at given
    exact (accepts.akm value same).trans (first_iff_of_sound sound header uncut given.symm)

theorem ParsesWpaIe.sound (parses : ParsesWpaIe mem len (.go s))
    (some_bytes : 0 < len) (short : len ≤ 255) (accepts : Accepts mem len asked s) (header : HeaderMatches mem len) :
    WpaIeSound mem len asked := by
  have whole := parses.element s rfl
  have first : asked = true -> (FirstIs8021x mem len <-> Has8021x mem len) := by
    intro given
    rcases Option.isSome_iff_exists.mp (accepts.given.trans given) with ⟨value, same⟩
    exact (accepts.akm value same).symm.trans (parses.akm s value rfl same)
  refine ⟨fun _ => ?_, fun _ _ => ⟨whole.header, whole.version⟩, fun _ _ => whole.akm, ?_, ?_⟩
  · rw [← header_reads_inside_iff some_bytes short, header_reads_of_matches header]
    exact fun offset member => parses.reads offset (accepts.header offset member)
  · intro _ _ given enough fits none
    rw [← Bool.not_eq_true]
    intro compared
    rcases ((first given).mp ⟨enough, fits, compared⟩).2 with ⟨i, inside, _⟩
    omega
  · intro _ _ given has
    exact ((first given).mpr has).2.2

end

/-- The parser does what it should, for a caller that clears what its pointers point to,
exactly if the comparisons that are missing would hold. -/
theorem rtw_parse_wpa_ie_parses_iff (mem : Nat -> UInt8) (len : Nat) (asked : Bool) (short : len ≤ 255) :
    ParsesWpaIe mem len (rtw_parse_wpa_ie mem len 0 0 (cleared asked)) <-> WpaIeSound mem len asked := by
  by_cases some_bytes : 0 < len
  · have reads := @header_reads_inside_iff mem len some_bytes short
    by_cases header : HeaderMatches mem len
    · by_cases uncut : Uncut mem len
      · rcases @rtw_parse_wpa_ie_accepts mem len asked header uncut with ⟨s, same, accepts⟩
        rw [same]
        constructor
        · exact fun parses => parses.sound some_bytes short accepts header
        · exact fun sound => sound.parses short header uncut accepts
      · rcases @rtw_parse_wpa_ie_cut mem len (cleared asked) header uncut with ⟨s, same, inside⟩
        rw [same]
        refine iff_of_true (.of_fail inside) ⟨fun _ => reads.mp ?_, ?_, ?_, ?_, ?_⟩
        · rw [header_reads_of_matches header]
          intro offset member
          have long : 9 ≤ len := by
            unfold Uncut at uncut
            omega
          have below : ∀ offset, offset ∈ [0, 1, 2, 3, 4, 5] -> offset < 6 := by decide
          exact Nat.lt_of_lt_of_le (below offset member) (by omega)
        · exact fun _ impossible => absurd impossible uncut
        · exact fun _ impossible => absurd impossible uncut
        · exact fun _ impossible => absurd impossible uncut
        · exact fun _ impossible => absurd impossible uncut
    · rw [rtw_parse_wpa_ie_differs some_bytes header]
      constructor
      · intro parses
        refine ⟨fun _ => reads.mp parses.reads, ?_, ?_, ?_, ?_⟩
        · exact fun impossible => absurd impossible header
        · exact fun impossible => absurd impossible header
        · exact fun impossible => absurd impossible header
        · exact fun impossible => absurd impossible header
      · exact fun sound => .of_fail (reads.mpr (sound.compared some_bytes))
  · have failed : rtw_parse_wpa_ie mem len 0 0 (cleared asked) = .fail ⟨0, 0, 0, 0, cleared asked, []⟩ :=
      if_pos (by omega)
    rw [failed]
    refine iff_of_true (.of_fail nofun) ⟨?_, ?_, ?_, ?_, ?_⟩
    · exact fun impossible => absurd impossible some_bytes
    · exact fun impossible => absurd impossible.some_bytes some_bytes
    · exact fun impossible => absurd impossible.some_bytes some_bytes
    · exact fun impossible => absurd impossible.some_bytes some_bytes
    · exact fun impossible => absurd impossible.some_bytes some_bytes

theorem rtw_parse_wpa_ie_parses_four :
    ParsesWpaIe (fun _ => 0xdd) 4 (rtw_parse_wpa_ie (fun _ => 0xdd) (4 : Nat) 0 0 (cleared true)) <->
      WpaIeSound (fun _ => 0xdd) 4 true :=
  rtw_parse_wpa_ie_parses_iff (fun _ => 0xdd) 4 true (by decide)

/-- An element of two bytes: the OUI is compared behind it. -/
theorem rtw_parse_wpa_ie_reads_behind :
    let mem : Nat -> UInt8 := fun offset => if offset = 0 then 0xdd else 0
    5 ∈ (rtw_parse_wpa_ie mem (2 : Nat) 0 0 (cleared false)).state.reads ∧
      ¬ParsesWpaIe mem 2 (rtw_parse_wpa_ie mem (2 : Nat) 0 0 (cleared false)) := by
  intro mem
  have read : 5 ∈ (rtw_parse_wpa_ie mem (2 : Nat) 0 0 (cleared false)).state.reads := by decide
  exact ⟨read, fun parses => absurd (parses.reads 5 read) (by decide)⟩

end Rtl8821ce
