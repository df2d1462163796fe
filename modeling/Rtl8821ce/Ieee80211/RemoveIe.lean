import Rtl8821ce.Ieee80211.Element

/-!
# Removing elements from a buffer

`rtw_ies_remove_ie` searches an element, moves everything behind it to its place, and goes
on there.  The search compares the OUI with the bytes behind the length byte, whether or
not the element has as many: the comparison goes on into the next elements, and behind the
last one into the bytes that earlier moves left there.
-/

namespace Rtl8821ce

open Scanner (Iteration scan)

/-- The variables of the loop; `ies` is at place 0. -/
structure Removal where
  mem : Nat -> UInt8
  ies_len : Nat
  start : Nat
  search_len : Nat
  ret : Bool

def rtw_ies_remove_ie_body (eid : UInt8) (oui : Option (List UInt8)) (s : Removal) : Iteration Removal Removal :=
  match (rtw_get_ie_ex s.mem s.start s.search_len eid oui false true).result.join with
  | some target_ie =>
      let target_ielen := ie_size s.mem target_ie
      let remain_ies := target_ie + target_ielen
      let remain_len := (s.search_len + 2 ^ 32 - (remain_ies - s.start)) % 2 ^ 32
      .more {
        mem := Memory.write s.mem target_ie (Memory.read s.mem remain_ies remain_len)
        ies_len := (s.ies_len + 2 ^ 32 - target_ielen) % 2 ^ 32
        start := target_ie
        search_len := remain_len
        ret := true }
  | none => .done s

/-- What is left when the function returns; `none` while it is still running. -/
def rtw_ies_remove_ie (mem : Nat -> UInt8) (ies_len offset : Nat) (eid : UInt8) (oui : Option (List UInt8)) :
    Option Removal :=
  if ies_len ≤ offset then some ⟨mem, ies_len, offset, 0, false⟩
  else scan (rtw_ies_remove_ie_body eid oui) (ies_len + 1) ⟨mem, ies_len, offset, ies_len - offset, false⟩

namespace Element

/-- What the search decides when these bytes stand behind the element. -/
def compared (element : Element) (eid : UInt8) (oui : Option (List UInt8)) (behind : List UInt8) : Bool :=
  element.id == eid && match oui with
    | none => true
    | some pattern => pattern.isPrefixOf (element.body ++ behind)

/-- The element has the id, and its own body begins with the OUI. -/
def asked_for (element : Element) (eid : UInt8) (oui : Option (List UInt8)) : Bool := element.compared eid oui []

theorem compared_of_asked_for {element : Element} {eid : UInt8} {oui : Option (List UInt8)}
    (asked : element.asked_for eid oui = true) (behind : List UInt8) : element.compared eid oui behind = true := by
  unfold asked_for compared at asked
  unfold compared
  rw [Bool.and_eq_true] at asked ⊢
  refine ⟨asked.1, ?_⟩
  cases oui with
  | none => rfl
  | some pattern =>
      have front := List.isPrefixOf_iff_prefix.mp asked.2
      rw [List.append_nil] at front
      exact List.isPrefixOf_iff_prefix.mpr (front.trans (List.prefix_append _ _))

end Element

section

variable (eid : UInt8) (oui : Option (List UInt8)) (beyond : List UInt8)

/-- The bytes behind the end of the buffer after an element was removed: its place is taken
by the rest, and the end of the buffer stays behind it. -/
def left_behind (element : Element) (rest : List Element) (old : List UInt8) : List UInt8 :=
  (element.bytes ++ elements_bytes rest).drop (elements_bytes rest).length ++ old

/-- The elements that the loop keeps.  `old` is left behind the buffer by earlier rounds, and
`beyond` stood behind it from the start. -/
def removal : List UInt8 -> List Element -> List Element
  | _, [] => []
  | old, element :: rest =>
      if element.compared eid oui (elements_bytes rest ++ (old ++ beyond)) then
        removal (left_behind element rest old) rest
      else element :: removal old rest

def OnlyOwnBytes : List UInt8 -> List Element -> Prop
  | _, [] => True
  | old, element :: rest =>
      if element.asked_for eid oui then OnlyOwnBytes (left_behind element rest old) rest
      else element.compared eid oui (elements_bytes rest ++ (old ++ beyond)) = false ∧ OnlyOwnBytes old rest

variable {eid oui beyond}

theorem removal_of_onlyOwnBytes {old : List UInt8} {elements : List Element}
    (own : OnlyOwnBytes eid oui beyond old elements) :
    removal eid oui beyond old elements = elements.filter (fun element => !element.asked_for eid oui) := by
  induction elements generalizing old with
  | nil => rfl
  | cons element rest ih =>
      unfold OnlyOwnBytes at own
      unfold removal
      cases asked : element.asked_for eid oui with
      | true =>
          rw [if_pos asked] at own
          rw [if_pos (element.compared_of_asked_for asked _), List.filter_cons_of_neg (by rw [asked]; decide)]
          exact ih own
      | false =>
          rw [if_neg (by rw [asked]; decide)] at own
          rw [own.1, if_neg Bool.false_ne_true, List.filter_cons_of_pos (by rw [asked]; decide), ih own.2]

theorem length_removal_le (old : List UInt8) (elements : List Element) :
    (removal eid oui beyond old elements).length ≤ elements.length := by
  induction elements generalizing old with
  | nil => exact Nat.le_refl _
  | cons element rest ih =>
      unfold removal
      split
      case isTrue => exact Nat.le_succ_of_le (ih _)
      case isFalse => exact Nat.succ_le_succ (ih _)

/-- The loop never keeps more than it should, and the same length only if it removes just
what it should. -/
theorem length_removal {old : List UInt8} {elements : List Element} :
    let expected := elements.filter (fun element => !element.asked_for eid oui)
    (elements_bytes (removal eid oui beyond old elements)).length ≤ (elements_bytes expected).length ∧
      ((elements_bytes (removal eid oui beyond old elements)).length = (elements_bytes expected).length ->
        OnlyOwnBytes eid oui beyond old elements) := by
  induction elements generalizing old with
  | nil => exact ⟨Nat.le_refl _, fun _ => trivial⟩
  | cons element rest ih =>
      dsimp only
      unfold OnlyOwnBytes removal
      cases asked : element.asked_for eid oui with
      | true =>
          rw [if_pos (element.compared_of_asked_for asked _), List.filter_cons_of_neg (by rw [asked]; decide),
            if_pos rfl]
          exact ih
      | false =>
          rw [List.filter_cons_of_pos (by rw [asked]; decide), if_neg Bool.false_ne_true, elements_bytes_cons,
            List.length_append]
          cases other : element.compared eid oui (elements_bytes rest ++ (old ++ beyond)) with
          | true =>
              have bound := (@ih (left_behind element rest old)).1
              have some_bytes := element.length_bytes
              rw [if_pos rfl]
              exact ⟨by omega, fun same => by omega⟩
          | false =>
              have bound := @ih old
              rw [if_neg Bool.false_ne_true, elements_bytes_cons, List.length_append]
              exact ⟨by omega, fun same => ⟨rfl, bound.2 (by omega)⟩⟩

end

section

variable {mem : Nat -> UInt8} {start search_len : Nat} {eid : UInt8} {oui : Option (List UInt8)}

theorem rtw_get_ie_ex_empty : (rtw_get_ie_ex mem start 0 eid oui false true).result.join = none := by
  unfold rtw_get_ie_ex run_loop
  dsimp only
  rw [Scanner.scan_done (ElementSearch.body_ended (Nat.le_of_eq (Nat.add_zero start))), Option.join_some]

theorem rtw_get_ie_ex_sought (some_bytes : 0 < search_len)
    (sought : (rtw_get_ie_ex_search mem eid oui).sought start = true) :
    (rtw_get_ie_ex mem start search_len eid oui false true).result.join = some start := by
  unfold rtw_get_ie_ex run_loop
  dsimp only
  rw [Scanner.scan_done (ElementSearch.body_sought (Nat.lt_add_of_pos_right some_bytes) sought), Option.join_some]

theorem rtw_get_ie_ex_passed (complete : ie_size mem start ≤ search_len)
    (other : (rtw_get_ie_ex_search mem eid oui).sought start = false) :
    (rtw_get_ie_ex mem start search_len eid oui false true).result.join =
      (rtw_get_ie_ex mem (start + ie_size mem start) (search_len - ie_size mem start) eid oui false true).result.join := by
  have positive := ie_size_pos mem start
  have stop : start + ie_size mem start + (search_len - ie_size mem start) = start + search_len := by omega
  unfold rtw_get_ie_ex run_loop
  dsimp only
  rw [stop, Scanner.scan_more (ElementSearch.body_passed (by omega) other)]
  refine congrArg Option.join (Scanner.scan_enough (fun place => start + search_len - place)
    (ElementSearch.body_decreases _ _) ?_ ?_)
  · change start + search_len - (start + ie_size mem start) < start + search_len
    omega
  · change start + search_len - (start + ie_size mem start) < start + search_len + 1
    omega

theorem rtw_get_ie_ex_forward {target_ie : Nat}
    (found : (rtw_get_ie_ex mem start search_len eid oui false true).result.join = some target_ie) :
    start ≤ target_ie := by
  rcases Scanner.passes_of_scan (Option.join_eq_some_iff.mp found) with ⟨last, passes, done⟩
  have forward := ElementSearch.le_of_passes passes
  unfold ElementSearch.body at done
  split_ifs at done
  case pos inside sought =>
      rw [Iteration.done.injEq, Option.some.injEq] at done
      exact done ▸ forward
  case neg => cases done

theorem sought_eq_compared {element : Element} {behind : List UInt8}
    (holds : HoldsBytes mem start (element.bytes ++ behind)) (enough : (oui.getD []).length ≤ behind.length) :
    (rtw_get_ie_ex_search mem eid oui).sought start = element.compared eid oui behind := by
  have there := elementAt holds
  unfold rtw_get_ie_ex_search Element.compared
  dsimp only
  rw [there.id, @Bool.beq_comm _ _ _ eid]
  refine congrArg (element.id == eid && ·) ?_
  cases oui with
  | none => rfl
  | some pattern =>
      change pattern.length ≤ behind.length at enough
      rw [Bool.eq_iff_iff, bytes_at_iff, List.isPrefixOf_iff_prefix]
      constructor
      · intro matching
        exact there.body.prefix_of matching (by rw [List.length_append]; omega)
      · exact there.body.of_front

end

/-! ## The loop -/

section

variable {eid : UInt8} {oui : Option (List UInt8)}

theorem body_of_found {s : Removal} {target_ie : Nat}
    (found : (rtw_get_ie_ex s.mem s.start s.search_len eid oui false true).result.join = some target_ie) :
    rtw_ies_remove_ie_body eid oui s =
      let remain_ies := target_ie + ie_size s.mem target_ie
      let remain_len := (s.search_len + 2 ^ 32 - (remain_ies - s.start)) % 2 ^ 32
      .more ⟨Memory.write s.mem target_ie (Memory.read s.mem remain_ies remain_len),
        (s.ies_len + 2 ^ 32 - ie_size s.mem target_ie) % 2 ^ 32, target_ie, remain_len, true⟩ := by
  unfold rtw_ies_remove_ie_body
  rw [found]

theorem body_of_not_found {s : Removal}
    (missing : (rtw_get_ie_ex s.mem s.start s.search_len eid oui false true).result.join = none) :
    rtw_ies_remove_ie_body eid oui s = .done s := by
  unfold rtw_ies_remove_ie_body
  rw [missing]

theorem body_removed {s : Removal} (sought : (rtw_get_ie_ex_search s.mem eid oui).sought s.start = true)
    (complete : ie_size s.mem s.start ≤ s.search_len) (part : s.search_len ≤ s.ies_len) (fits : s.ies_len < 2 ^ 32) :
    rtw_ies_remove_ie_body eid oui s = .more {
      mem := Memory.write s.mem s.start
        (Memory.read s.mem (s.start + ie_size s.mem s.start) (s.search_len - ie_size s.mem s.start))
      ies_len := s.ies_len - ie_size s.mem s.start
      start := s.start
      search_len := s.search_len - ie_size s.mem s.start
      ret := true } := by
  have positive := ie_size_pos s.mem s.start
  have remain : (s.search_len + 2 ^ 32 - (s.start + ie_size s.mem s.start - s.start)) % 2 ^ 32 =
      s.search_len - ie_size s.mem s.start := by omega
  have shorter : (s.ies_len + 2 ^ 32 - ie_size s.mem s.start) % 2 ^ 32 = s.ies_len - ie_size s.mem s.start := by omega
  rw [body_of_found (rtw_get_ie_ex_sought (by omega) sought)]
  dsimp only
  rw [remain, shorter]

/-- The variables of the search behind the first element. -/
def Removal.skipped (s : Removal) : Removal :=
  { s with start := s.start + ie_size s.mem s.start, search_len := s.search_len - ie_size s.mem s.start }

theorem body_passed {s : Removal} (other : (rtw_get_ie_ex_search s.mem eid oui).sought s.start = false)
    (complete : ie_size s.mem s.start ≤ s.search_len) :
    rtw_ies_remove_ie_body eid oui s =
      match rtw_ies_remove_ie_body eid oui s.skipped with
      | .more next => .more next
      | .done _ => .done s := by
  have passed := rtw_get_ie_ex_passed complete other
  cases found : (rtw_get_ie_ex s.skipped.mem s.skipped.start s.skipped.search_len eid oui false true).result.join with
  | none => rw [body_of_not_found found, body_of_not_found (passed.trans found)]
  | some target_ie =>
      have forward := rtw_get_ie_ex_forward found
      change s.start + ie_size s.mem s.start ≤ target_ie at forward
      have remain : s.search_len + 2 ^ 32 - (target_ie + ie_size s.mem target_ie - s.start) =
          s.search_len - ie_size s.mem s.start + 2 ^ 32 -
            (target_ie + ie_size s.mem target_ie - (s.start + ie_size s.mem s.start)) := by omega
      rw [body_of_found found, body_of_found (passed.trans found)]
      dsimp only
      rw [remain]
      rfl

/-- What a run of the loop leaves from a place on. -/
structure Left (s : Removal) (place : Nat) (kept : List Element) (removed : Prop) (final : Removal) : Prop where
  ies_len : final.ies_len = place + (elements_bytes kept).length
  holds : HoldsBytes final.mem place (elements_bytes kept)
  before : ∀ position, position < place -> final.mem position = s.mem position
  ret : final.ret = true <-> s.ret = true ∨ removed

theorem scan_removed {s next : Removal} {place fuel : Nat} {kept : List Element} {removed : Prop}
    (goes : rtw_ies_remove_ie_body eid oui s = .more next)
    (before : ∀ position, position < place -> next.mem position = s.mem position) (ret : next.ret = true)
    (run : ∃ final, scan (rtw_ies_remove_ie_body eid oui) fuel next = some final ∧
      Left next place kept removed final) :
    ∃ final, scan (rtw_ies_remove_ie_body eid oui) (fuel + 1) s = some final ∧
      Left s place kept True final := by
  rcases run with ⟨final, ended, left⟩
  refine ⟨final, (Scanner.scan_more goes fuel).trans ended, left.ies_len, left.holds, ?_, ?_⟩
  · intro position earlier
    exact (left.before position earlier).trans (before position earlier)
  · exact iff_of_true (left.ret.mpr (Or.inl ret)) (Or.inr trivial)

theorem scan_passed {s : Removal} {element : Element} {fuel : Nat} {kept : List Element} {removed : Prop}
    (other : (rtw_get_ie_ex_search s.mem eid oui).sought s.start = false)
    (complete : ie_size s.mem s.start ≤ s.search_len) (there : HoldsBytes s.mem s.start element.bytes)
    (size : ie_size s.mem s.start = element.bytes.length)
    (run : ∃ final, scan (rtw_ies_remove_ie_body eid oui) (fuel + 1) s.skipped = some final ∧
      Left s.skipped (s.start + element.bytes.length) kept removed final) :
    ∃ final, scan (rtw_ies_remove_ie_body eid oui) (fuel + 1) s = some final ∧
      Left s s.start (element :: kept) removed final := by
  have passed := body_passed other complete
  -- what the memory holds in the end does not depend on where the last search began
  have behind : ∀ {final : Removal}, Left s.skipped (s.start + element.bytes.length) kept removed final ->
      Left s s.start (element :: kept) removed final := by
    intro final left
    have total : (elements_bytes (element :: kept)).length = element.bytes.length + (elements_bytes kept).length := by
      rw [elements_bytes_cons, List.length_append]
    refine ⟨?_, ?_, ?_, left.ret⟩
    · rw [left.ies_len, total]
      omega
    · rw [elements_bytes_cons, HoldsBytes.append_iff]
      exact ⟨there.congr (fun position _ earlier => left.before position earlier), left.holds⟩
    · exact fun position earlier => left.before position (by omega)
  rcases run with ⟨final, ended, left⟩
  cases iteration : rtw_ies_remove_ie_body eid oui s.skipped with
  | more next =>
      rw [iteration] at passed
      rw [Scanner.scan_more iteration] at ended
      exact ⟨final, (Scanner.scan_more passed fuel).trans ended, behind left⟩
  | done result =>
      rw [iteration] at passed
      rw [Scanner.scan_done iteration, Option.some.injEq] at ended
      refine ⟨s, Scanner.scan_done passed fuel, ?_⟩
      have same := behind (ended ▸ left)
      have kept_all : result.mem = s.mem ∧ result.ies_len = s.ies_len ∧ result.ret = s.ret := by
        unfold rtw_ies_remove_ie_body at iteration
        split at iteration
        case h_1 => cases iteration
        case h_2 =>
            rw [← Iteration.done.inj iteration]
            exact ⟨rfl, rfl, rfl⟩
      rcases kept_all with ⟨mem, ies_len, ret⟩
      exact ⟨ies_len ▸ same.ies_len, mem ▸ same.holds, fun _ _ => rfl, ret ▸ same.ret⟩

/-- After the move the rest stands where the element stood, and the end of the buffer is
left behind it. -/
theorem moved_holds {mem : Nat -> UInt8} {start : Nat} {element : Element} {rest : List Element}
    {behind : List UInt8} (holds : HoldsBytes mem start (elements_bytes (element :: rest) ++ behind)) :
    HoldsBytes (Memory.write mem start (elements_bytes rest)) start
      (elements_bytes rest ++ ((element.bytes ++ elements_bytes rest).drop (elements_bytes rest).length ++ behind)) := by
  rw [elements_bytes_cons] at holds
  have within : (elements_bytes rest).length ≤ (element.bytes ++ elements_bytes rest).length := by
    rw [List.length_append]
    omega
  have stays := holds.drop (show (elements_bytes rest).length ≤
    (element.bytes ++ elements_bytes rest ++ behind).length by rw [List.length_append]; omega)
  rw [List.drop_append_of_le_length within] at stays
  exact HoldsBytes.append_iff.mpr ⟨HoldsBytes.written _, stays.write_of_disjoint (Or.inr (Nat.le_refl _))⟩

theorem run_leaves_removal {beyond : List UInt8} (enough : (oui.getD []).length ≤ beyond.length)
    {todo : List Element} {old : List UInt8} {s : Removal} {fuel : Nat}
    (holds : HoldsBytes s.mem s.start (elements_bytes todo ++ (old ++ beyond)))
    (search_len : s.search_len = (elements_bytes todo).length)
    (ies_len : s.ies_len = s.start + s.search_len) (fits : s.ies_len < 2 ^ 32) (fuelled : todo.length < fuel) :
    ∃ final, scan (rtw_ies_remove_ie_body eid oui) fuel s = some final ∧
      Left s s.start (removal eid oui beyond old todo)
        ((removal eid oui beyond old todo).length < todo.length) final := by
  induction todo generalizing old s fuel with
  | nil =>
      obtain ⟨rest, rfl⟩ : ∃ rest, fuel = rest + 1 := ⟨fuel - 1, by rw [List.length_nil] at fuelled; omega⟩
      have ended : rtw_ies_remove_ie_body eid oui s = .done s := by
        refine body_of_not_found ?_
        rw [search_len]
        exact rtw_get_ie_ex_empty
      refine ⟨s, Scanner.scan_done ended rest, ?_, rfl, fun _ _ => rfl, ?_⟩
      · rw [ies_len, search_len]
        rfl
      · exact (or_iff_left (Nat.lt_irrefl 0)).symm
  | cons element rest ih =>
      obtain ⟨fuel, rfl⟩ : ∃ left, fuel = left + 1 := ⟨fuel - 1, by rw [List.length_cons] at fuelled; omega⟩
      rw [List.length_cons] at fuelled
      have cut := holds
      rw [elements_bytes_cons, List.append_assoc] at cut
      have there := elementAt cut
      have total : s.search_len = element.bytes.length + (elements_bytes rest).length := by
        rw [search_len, elements_bytes_cons, List.length_append]
      have complete : ie_size s.mem s.start ≤ s.search_len := by
        rw [there.size]
        omega
      have sought := @sought_eq_compared _ _ eid oui _ _ cut (by rw [List.length_append, List.length_append]; omega)
      unfold removal
      cases compared : element.compared eid oui (elements_bytes rest ++ (old ++ beyond)) with
      | true =>
          have goes := body_removed (sought.trans compared) complete (by omega) fits
          rw [there.size, total, Nat.add_sub_cancel_left, (HoldsBytes.append_iff.mp there.behind).1] at goes
          have holdsNext := moved_holds holds
          rw [← List.append_assoc (List.drop _ _)] at holdsNext
          have run := @ih (left_behind element rest old)
            ⟨Memory.write s.mem s.start (elements_bytes rest), s.ies_len - element.bytes.length, s.start,
              (elements_bytes rest).length, true⟩ fuel holdsNext rfl
            (by dsimp only; omega) (by dsimp only; omega) (by omega)
          rw [if_pos rfl]
          have left := scan_removed goes
            (fun position earlier => Memory.write_of_outside s.mem (Or.inl earlier)) rfl run
          have fewer : (removal eid oui beyond (left_behind element rest old) rest).length < (element :: rest).length :=
            Nat.lt_succ_of_le (length_removal_le _ _)
          rw [eq_true fewer]
          exact left
      | false =>
          have skipped : s.skipped.start = s.start + element.bytes.length ∧
              s.skipped.search_len = (elements_bytes rest).length := by
            unfold Removal.skipped
            dsimp only
            rw [there.size]
            omega
          have run := @ih old s.skipped (fuel + 1) (skipped.1 ▸ there.behind) skipped.2
            (by rw [skipped.1, skipped.2]; change s.ies_len = _; omega) fits (by omega)
          rw [skipped.1] at run
          rw [if_neg Bool.false_ne_true, List.length_cons, List.length_cons, Nat.add_lt_add_iff_right]
          exact scan_passed (sought.trans compared) complete (HoldsBytes.append_iff.mp cut).1 there.size run

end

section

variable (eid : UInt8) (oui : Option (List UInt8))

/-- The elements before the offset and those behind it that are not asked for. -/
def kept_elements (before after : List Element) : List Element :=
  before ++ after.filter (fun element => !element.asked_for eid oui)

/-- The function ends, leaves just these elements, and tells whether it removed one. -/
def RemovesExactly (outcome : Option Removal) (before after : List Element) : Prop :=
  ∃ final, outcome = some final ∧
    final.ies_len = (elements_bytes (kept_elements eid oui before after)).length ∧
    HoldsBytes final.mem 0 (elements_bytes (kept_elements eid oui before after)) ∧
    (final.ret = true <-> ∃ element, element ∈ after ∧ element.asked_for eid oui = true)

/-- The bytes behind the buffer that the comparisons may reach. -/
def behind_buffer (mem : Nat -> UInt8) (ies_len : Nat) : List UInt8 := Memory.read mem ies_len (oui.getD []).length

variable {eid oui} {mem : Nat -> UInt8} {before after : List Element}

theorem rtw_ies_remove_ie_leaves (holds : HoldsBytes mem 0 (elements_bytes (before ++ after)))
    (fits : (elements_bytes (before ++ after)).length < 2 ^ 32) :
    let behind := behind_buffer oui mem (elements_bytes (before ++ after)).length
    let left := removal eid oui behind [] after
    ∃ final,
      rtw_ies_remove_ie mem (elements_bytes (before ++ after)).length (elements_bytes before).length eid oui =
          some final ∧
        final.ies_len = (elements_bytes (before ++ left)).length ∧
        HoldsBytes final.mem 0 (elements_bytes (before ++ left)) ∧
        (final.ret = true <-> left.length < after.length) := by
  dsimp only
  have total := length_elements_bytes_append before after
  have parts := holds
  rw [elements_bytes_append, HoldsBytes.append_iff, Nat.zero_add] at parts
  unfold rtw_ies_remove_ie
  split_ifs
  case pos few =>
    cases after with
    | nil => exact ⟨_, rfl, rfl, holds, iff_of_false Bool.false_ne_true (Nat.lt_irrefl 0)⟩
    | cons element rest =>
        have some_bytes := element.length_bytes
        rw [total, elements_bytes_cons, List.length_append] at few
        omega
  case neg =>
    have beyond : HoldsBytes mem (elements_bytes (before ++ after)).length
        (behind_buffer oui mem (elements_bytes (before ++ after)).length) := by
      unfold HoldsBytes behind_buffer
      rw [Memory.length_read]
    have whole : HoldsBytes mem (elements_bytes before).length
        (elements_bytes after ++ ([] ++ behind_buffer oui mem (elements_bytes (before ++ after)).length)) := by
      rw [List.nil_append, HoldsBytes.append_iff]
      exact ⟨parts.2, total ▸ beyond⟩
    have count : after.length ≤ (elements_bytes after).length := length_le_length_elements_bytes after
    rcases @run_leaves_removal eid oui _ (Nat.le_of_eq (Memory.length_read _ _ _).symm) after [] ⟨mem,
      (elements_bytes (before ++ after)).length, (elements_bytes before).length,
      (elements_bytes (before ++ after)).length - (elements_bytes before).length, false⟩
      ((elements_bytes (before ++ after)).length + 1) whole (by dsimp only; omega) (by dsimp only; omega) fits (by omega)
      with ⟨final, ended, left⟩
    refine ⟨final, ended, ?_, ?_, ?_⟩
    · exact left.ies_len.trans (length_elements_bytes_append before _).symm
    · rw [elements_bytes_append, HoldsBytes.append_iff, Nat.zero_add]
      exact ⟨parts.1.congr (fun position _ earlier => left.before position (by dsimp only; omega)), left.holds⟩
    · rw [left.ret]
      exact or_iff_right Bool.false_ne_true

/-- The function removes exactly what is asked for if and only if no other element compares
equal because of bytes that are not its own. -/
theorem rtw_ies_remove_ie_exact_iff (mem : Nat -> UInt8) (before after : List Element) (eid : UInt8)
    (oui : Option (List UInt8)) (holds : HoldsBytes mem 0 (elements_bytes (before ++ after)))
    (fits : (elements_bytes (before ++ after)).length < 2 ^ 32) :
    RemovesExactly eid oui
        (rtw_ies_remove_ie mem (elements_bytes (before ++ after)).length (elements_bytes before).length eid oui)
        before after <->
      OnlyOwnBytes eid oui (behind_buffer oui mem (elements_bytes (before ++ after)).length) [] after := by
  rcases @rtw_ies_remove_ie_leaves eid oui mem before after holds fits with ⟨final, ended, ies_len, there, ret⟩
  constructor
  · intro ⟨other, same, expected, _, _⟩
    have lengths := length_elements_bytes_append before
    rw [Option.some.inj (same.symm.trans ended), ies_len, kept_elements, lengths (removal _ _ _ _ _),
      lengths (List.filter _ _), Nat.add_left_cancel_iff] at expected
    exact length_removal.2 expected
  · intro own
    rw [removal_of_onlyOwnBytes own] at ies_len there ret
    refine ⟨final, ended, ies_len, there, ret.trans ?_⟩
    rw [List.length_filter_lt_length_iff_exists]
    simp only [Bool.not_eq_true, Bool.not_eq_false']

theorem rtw_ies_remove_ie_exact_two :
    let first : Element := ⟨0xdd, [0x00, 0x50, 0xf2, 0x04], by decide⟩
    let second : Element := ⟨0xdd, [0x00], by decide⟩
    let oui : Option (List UInt8) := some [0x00, 0x50, 0xf2]
    let mem : Nat -> UInt8 := fun place => (elements_bytes [first, second]).getD place 0
    RemovesExactly 0xdd oui (rtw_ies_remove_ie mem 9 0 0xdd oui) [] [first, second] <->
      OnlyOwnBytes 0xdd oui (behind_buffer oui mem 9) [] [first, second] := by
  intro first second oui mem
  exact rtw_ies_remove_ie_exact_iff mem [] [first, second] 0xdd oui rfl (by decide)

/-- An element of which only two bytes are those of the OUI, and an element whose id is the
third: the first one is removed. -/
theorem rtw_ies_remove_ie_reads_on :
    let short : Element := ⟨0xdd, [0x00, 0x50], by decide⟩
    let next : Element := ⟨0xf2, [], by decide⟩
    let oui : Option (List UInt8) := some [0x00, 0x50, 0xf2]
    let mem : Nat -> UInt8 := fun place => (elements_bytes [short, next]).getD place 0
    HoldsBytes mem 0 (elements_bytes ([] ++ [short, next])) ∧
      (rtw_ies_remove_ie mem 6 0 0xdd oui).map (fun final => final.ies_len) = some 2 ∧
      ¬RemovesExactly 0xdd oui (rtw_ies_remove_ie mem 6 0 0xdd oui) [] [short, next] := by
  intro short next oui mem
  have shorter : (rtw_ies_remove_ie mem 6 0 0xdd oui).map (fun final => final.ies_len) = some 2 := by decide
  refine ⟨rfl, shorter, ?_⟩
  intro ⟨final, ended, ies_len, _⟩
  rw [ended, Option.map_some, Option.some.injEq] at shorter
  exact absurd (shorter.symm.trans ies_len) (by decide)

end

end Rtl8821ce
