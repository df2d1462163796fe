import Rtl8821ce.Library.ElementSearch

/-!
# Searching information elements

A pointer is an offset into a memory of bytes; the bytes before a limit are the
caller's, those from the limit on are not.  The lengths are those of received
frames, far from where an `int` or `uint` overflows.  A function returns what it
finds and the offsets it reads, in the order of the source.

All four loops are the same walk over elements.  They differ in what they look
for, and in how many bytes of an element they read to decide it.
-/

namespace Rtl8821ce

open Scanner (Iteration scan visited Passes)
open ElementSearch (Search Intact)

def ie_size (mem : Nat -> UInt8) (ie : Nat) : Nat := (mem (ie + 1)).toNat + 2

theorem ie_size_pos (mem : Nat -> UInt8) (ie : Nat) : 0 < ie_size mem ie := Nat.succ_pos _

/-- `_rtw_memcmp` with a given pattern. -/
def bytes_at (mem : Nat -> UInt8) : Nat -> List UInt8 -> Bool
  | _, [] => true
  | place, byte :: rest => mem place == byte && bytes_at mem (place + 1) rest

def _WPA_IE_ID_ : UInt8 := 0xdd
def _WPA2_IE_ID_ : UInt8 := 0x30

/-- The outcome of a loop: its result, `none` if it is still running, and the
offsets it has read. -/
structure IeOutcome (Result : Type) where
  result : Option Result
  reads : List Nat

def run_loop {State Result : Type} (body : State -> Iteration State Result)
    (reads : State -> List Nat) (rounds : Nat) (state : State) : IeOutcome Result where
  result := scan body rounds state
  reads := (visited body rounds state).flatMap reads

/-! ## The functions of the source -/

/-- What `rtw_get_ie` looks for; it reads the id and the length of each element. -/
def rtw_get_ie_search (mem : Nat -> UInt8) (index : Int) : Search where
  size := ie_size mem
  positive := ie_size_pos mem
  sought := fun p => decide (((mem p).toNat : Int) = index)
  room := fun _ => 2

/-- Search from `pbuf` on.  The loop tests the limit at its end; the first test
is that of `limit < 1`. -/
def rtw_get_ie (mem : Nat -> UInt8) (pbuf : Nat) (index limit : Int) : IeOutcome (Option Nat) :=
  if limit < 1 then ⟨some none, []⟩
  else
    let stop := pbuf + limit.toNat
    run_loop (ElementSearch.body (rtw_get_ie_search mem index) stop)
      (fun p => if p < stop then [p, p + 1] else []) (stop + 1) pbuf

/-- What `rtw_get_ie_ex` looks for: the id, and behind the length byte the OUI
if there is one.  The OUI is compared in elements with the id only. -/
def rtw_get_ie_ex_search (mem : Nat -> UInt8) (eid : UInt8) (oui : Option (List UInt8)) : Search where
  size := ie_size mem
  positive := ie_size_pos mem
  sought := fun cnt => eid == mem cnt && (match oui with
    | none => true
    | some pattern => bytes_at mem (cnt + 2) pattern)
  room := fun cnt => if eid == mem cnt then 2 + (oui.getD []).length else 2

/-- Search from `in_ie` on.  `ie` and `ielen` tell which of the two are given;
the element found is copied to `ie`. -/
def rtw_get_ie_ex (mem : Nat -> UInt8) (in_ie in_len : Nat) (eid : UInt8) (oui : Option (List UInt8))
    (ie ielen : Bool) : IeOutcome (Option Nat) :=
  let stop := in_ie + in_len
  let search := rtw_get_ie_ex_search mem eid oui
  run_loop (ElementSearch.body search stop)
    (fun cnt =>
      if cnt < stop then
        [cnt] ++ (if eid == mem cnt then List.range' (cnt + 2) (oui.getD []).length else []) ++
          if search.sought cnt then
            (if ie then (cnt + 1) :: List.range' cnt (ie_size mem cnt) else []) ++
              if ielen then [cnt + 1] else []
          else [cnt + 1]
      else [])
    (stop + 1) in_ie

def wpa_oui_type : List UInt8 := [0x00, 0x50, 0xf2, 0x01]

/-- The pointer and the limit that the rounds of `rtw_get_wpa_ie` start with. -/
structure WpaRound where
  pbuf : Nat
  limit_new : Int

/-- The version field behind the OUI, as a little-endian number. -/
def wpa_version (mem : Nat -> UInt8) (pbuf : Nat) : Nat :=
  (mem (pbuf + 6)).toNat + 256 * (mem (pbuf + 7)).toNat

def is_wpa_ie (mem : Nat -> UInt8) (pbuf : Nat) : Bool :=
  bytes_at mem (pbuf + 2) wpa_oui_type && wpa_version mem pbuf == 1

/-- A round: the next element with the id, its OUI and its version. -/
def rtw_get_wpa_ie_body (mem : Nat -> UInt8) (pie : Nat) (limit : Int) (round : WpaRound) :
    Iteration WpaRound (Option Nat) :=
  match (rtw_get_ie mem round.pbuf _WPA_IE_ID_.toNat round.limit_new).result.join with
  | some pbuf =>
      if is_wpa_ie mem pbuf then .done (some pbuf)
      else
        let len := (mem (pbuf + 1)).toNat
        -- check_next_ie
        let limit_new := limit - (pbuf - pie) - 2 - len
        if limit_new ≤ 0 then .done none else .more ⟨pbuf + (2 + len), limit_new⟩
  | none => .done none

def rtw_get_wpa_ie_reads (mem : Nat -> UInt8) (round : WpaRound) : List Nat :=
  let ie := rtw_get_ie mem round.pbuf _WPA_IE_ID_.toNat round.limit_new
  ie.reads ++ match ie.result.join with
    | some pbuf =>
        List.range' (pbuf + 2) wpa_oui_type.length ++
          (if bytes_at mem (pbuf + 2) wpa_oui_type then [pbuf + 6, pbuf + 7] else []) ++
          if is_wpa_ie mem pbuf then [pbuf + 1] else []
    | none => []

def rtw_get_wpa_ie (mem : Nat -> UInt8) (pie : Nat) (limit : Int) : IeOutcome (Option Nat) :=
  run_loop (rtw_get_wpa_ie_body mem pie limit) (rtw_get_wpa_ie_reads mem) (pie + limit.toNat + 1)
    ⟨pie, limit⟩

/-- The locals of `rtw_get_sec_ie`. -/
structure SecIe where
  cnt : Nat
  rsn_len : Nat
  wpa_len : Nat

def rtw_get_sec_ie_body (mem : Nat -> UInt8) (stop : Nat) (locals : SecIe) : Iteration SecIe SecIe :=
  if locals.cnt < stop then
    let size := ie_size mem locals.cnt
    if mem locals.cnt == _WPA_IE_ID_ && bytes_at mem (locals.cnt + 2) wpa_oui_type then
      .more { locals with wpa_len := size, cnt := locals.cnt + size }
    else if mem locals.cnt == _WPA2_IE_ID_ then
      .more { locals with rsn_len := size, cnt := locals.cnt + size }
    else .more { locals with cnt := locals.cnt + size }
  else .done locals

def sec_ie_copied (mem : Nat -> UInt8) (rsn_ie wpa_ie : Bool) (cnt : Nat) : Bool :=
  if mem cnt == _WPA_IE_ID_ && bytes_at mem (cnt + 2) wpa_oui_type then wpa_ie
  else mem cnt == _WPA2_IE_ID_ && rsn_ie

/-- Collect the WPA and RSN elements behind the fixed fields of a beacon.  `rsn_ie`
and `wpa_ie` tell which buffers are given; the answer is the last state of the
locals, whose lengths the caller sets before. -/
def rtw_get_sec_ie (mem : Nat -> UInt8) (in_ie in_len : Nat) (rsn_ie wpa_ie : Bool)
    (rsn_len wpa_len : Nat) : IeOutcome SecIe :=
  let stop := in_ie + in_len
  run_loop (rtw_get_sec_ie_body mem stop)
    (fun locals =>
      if locals.cnt < stop then
        [locals.cnt] ++
          (if mem locals.cnt == _WPA_IE_ID_ then
            List.range' (locals.cnt + 2) wpa_oui_type.length else []) ++
          (if sec_ie_copied mem rsn_ie wpa_ie locals.cnt then
            List.range' locals.cnt (ie_size mem locals.cnt) else []) ++
          [locals.cnt + 1]
      else [])
    (stop + 1) ⟨in_ie + 12, rsn_len, wpa_len⟩

/-- The loop ends, what it finds is a whole element before the limit, and so is
every byte it reads. -/
structure IeOutcome.StaysInside (outcome : IeOutcome (Option Nat)) (mem : Nat -> UInt8) (stop : Int) :
    Prop where
  found : ∃ result, outcome.result = some result ∧
    ∀ ie, result = some ie -> (ie : Int) + ie_size mem ie ≤ stop
  reads : ∀ offset ∈ outcome.reads, (offset : Int) < stop

/-- The loop ends, and reads no byte from the limit on. -/
structure IeOutcome.ReadsInside {Result : Type} (outcome : IeOutcome Result) (stop : Nat) : Prop where
  ended : ∃ result, outcome.result = some result
  reads : ∀ offset ∈ outcome.reads, offset < stop

theorem IeOutcome.staysInside_iff {outcome : IeOutcome (Option Nat)} {mem : Nat -> UInt8} {stop : Nat} :
    outcome.StaysInside mem stop <->
      (∃ result, outcome.result = some result ∧
        ∀ ie, result = some ie -> ie + ie_size mem ie ≤ stop) ∧
      ∀ offset ∈ outcome.reads, offset < stop := by
  constructor
  · intro ⟨⟨result, ended, found⟩, reads⟩
    exact ⟨⟨result, ended, fun ie same => by exact_mod_cast found ie same⟩,
      fun offset member => by exact_mod_cast reads offset member⟩
  · intro ⟨⟨result, ended, found⟩, reads⟩
    exact ⟨⟨result, ended, fun ie same => by exact_mod_cast found ie same⟩,
      fun offset member => by exact_mod_cast reads offset member⟩

theorem forall_run_loop_reads {State Result : Type} {body : State -> Iteration State Result}
    {reads : State -> List Nat} {rounds stop : Nat} {state : State} :
    (∀ offset ∈ (run_loop body reads rounds state).reads, offset < stop) <->
      ∀ round ∈ visited body rounds state,
        ∀ offset ∈ reads round, offset < stop := by
  unfold run_loop
  constructor
  · intro all round member offset read
    exact all offset (List.mem_flatMap.mpr ⟨round, member, read⟩)
  · intro all offset member
    rcases List.mem_flatMap.mp member with ⟨round, visit, read⟩
    exact all round visit offset read

/-- A loop over elements stays inside the limit exactly when the elements are
intact, provided that a round reads as many bytes as the search says. -/
theorem run_search_staysInside_iff {search : Search} {mem : Nat -> UInt8} {reads : Nat -> List Nat}
    {stop : Nat} (sizes : search.size = ie_size mem) (outside : ∀ place, stop ≤ place -> reads place = [])
    (room : ∀ place, place < stop ->
      (search.sought place = true -> place + search.size place ≤ stop) ->
        ((∀ offset ∈ reads place, offset < stop) <-> place + search.room place ≤ stop))
    (start : Nat) :
    (run_loop (ElementSearch.body search stop) reads (stop + 1) start).StaysInside mem stop <->
      Intact search stop start := by
  rw [IeOutcome.staysInside_iff, forall_run_loop_reads, ← ElementSearch.staysInside_iff_intact]
  unfold run_loop ElementSearch.StaysInside
  dsimp only
  rw [@Scanner.throughout_iff_scan _ _ _ (fun place => stop - place)
    (ElementSearch.body_decreases search stop) (fun result => ∀ ie, result = some ie ->
      ie + ie_size mem ie ≤ stop) (fun place => ∀ offset ∈ reads place, offset < stop)
    _ _ (by omega)]
  unfold Scanner.Throughout
  refine forall_congr' (fun place => imp_congr_right (fun _ => ?_))
  unfold ElementSearch.Inside
  dsimp only
  by_cases inside : place < stop
  · cases sought : search.sought place with
    | true =>
        have body := ElementSearch.body_sought inside sought
        have complete : (∀ result, ElementSearch.body search stop place = .done result ->
            ∀ ie, result = some ie -> ie + ie_size mem ie ≤ stop) <->
              place + search.size place ≤ stop := by
          rw [body, sizes]
          constructor
          · intro found
            exact found _ rfl place rfl
          · intro fits result done ie same
            rw [← Iteration.done.inj done, Option.some.injEq] at same
            exact same ▸ fits
        rw [complete]
        constructor
        · intro ⟨read, fits⟩ _
          exact ⟨(room place inside (fun _ => fits)).mp read, fun _ => fits⟩
        · intro stays
          have fits := (stays inside).2 rfl
          exact ⟨(room place inside (fun _ => fits)).mpr (stays inside).1, fits⟩
    | false =>
        have free : search.sought place = true -> place + search.size place ≤ stop := by
          intro impossible
          rw [sought] at impossible
          cases impossible
        rw [room place inside free, ElementSearch.body_passed inside sought]
        constructor
        · intro ⟨read, _⟩ _
          exact ⟨read, fun impossible => nomatch impossible⟩
        · intro stays
          exact ⟨(stays inside).1, fun _ impossible => nomatch impossible⟩
  · have ended := Nat.not_lt.mp inside
    rw [outside place ended, ElementSearch.body_ended ended]
    refine iff_of_true ⟨fun _ impossible => (List.not_mem_nil impossible).elim, ?_⟩
      (fun below => absurd below inside)
    intro result done ie same
    rw [← Iteration.done.inj done] at same
    cases same

theorem forall_range'_lt {start count stop : Nat} (nonempty : start < stop) :
    (∀ offset ∈ List.range' start count, offset < stop) <-> start + count ≤ stop := by
  constructor
  · intro all
    by_cases none : count = 0
    · omega
    · have last := all (start + (count - 1)) (List.mem_range'_1.mpr (by omega))
      omega
  · intro fits offset member
    have inside := List.mem_range'_1.mp member
    omega

theorem forall_id_and_length_lt {place stop : Nat} :
    (∀ offset, offset ∈ [place, place + 1] -> offset < stop) <-> place + 2 ≤ stop := by
  rw [List.forall_mem_cons, List.forall_mem_singleton]
  omega

theorem rtw_get_ie_staysInside_iff (mem : Nat -> UInt8) (pbuf : Nat) (index limit : Int) :
    (rtw_get_ie mem pbuf index limit).StaysInside mem (pbuf + limit) <->
      limit < 1 ∨ Intact (rtw_get_ie_search mem index) (pbuf + limit.toNat) pbuf := by
  unfold rtw_get_ie
  by_cases few : limit < 1
  · rw [if_pos few]
    refine iff_of_true ⟨⟨none, rfl, fun ie impossible => nomatch impossible⟩, ?_⟩ (Or.inl few)
    exact fun _ impossible => (List.not_mem_nil impossible).elim
  · rw [if_neg few]
    have same : (pbuf : Int) + limit = (pbuf + limit.toNat : Nat) := by omega
    rw [same, or_iff_right few]
    refine run_search_staysInside_iff rfl (fun place outside => if_neg (Nat.not_lt.mpr outside)) ?_ pbuf
    intro place inside _
    rw [if_pos inside]
    exact forall_id_and_length_lt

theorem forall_id_and_oui_lt {place count stop : Nat} (inside : place + 1 < stop) :
    (∀ offset ∈ List.range' (place + 2) count, offset < stop) <->
      place + (2 + count) ≤ stop := by
  by_cases room : place + 2 < stop
  · rw [forall_range'_lt room]
    omega
  · constructor
    · intro all
      by_cases none : count = 0
      · omega
      · have first := all (place + 2) (List.mem_range'_1.mpr (by omega))
        omega
    · intro fits offset member
      have bounds := List.mem_range'_1.mp member
      omega

theorem rtw_get_ie_ex_staysInside_iff (mem : Nat -> UInt8) (in_ie in_len : Nat) (eid : UInt8)
    (oui : Option (List UInt8)) (ie ielen : Bool) :
    (rtw_get_ie_ex mem in_ie in_len eid oui ie ielen).StaysInside mem (in_ie + in_len : Nat) <->
      Intact (rtw_get_ie_ex_search mem eid oui) (in_ie + in_len) in_ie := by
  unfold rtw_get_ie_ex
  dsimp only
  refine run_search_staysInside_iff rfl (fun place outside => if_neg (Nat.not_lt.mpr outside)) ?_ in_ie
  intro place inside complete
  rw [if_pos inside]
  cases sought : (rtw_get_ie_ex_search mem eid oui).sought place with
  | true =>
      have fits := complete sought
      change place + ie_size mem place ≤ in_ie + in_len at fits
      have header : place + 1 < in_ie + in_len := by
        unfold ie_size at fits
        omega
      have named : (eid == mem place) = true := (Bool.and_eq_true _ _ ▸ sought).1
      have room : (rtw_get_ie_ex_search mem eid oui).room place = 2 + (oui.getD []).length := if_pos named
      rw [if_pos rfl, if_pos named, room, ← forall_id_and_oui_lt header]
      constructor
      · intro all offset member
        exact all offset (List.mem_append_left _ (List.mem_append_right _ member))
      · intro compared offset member
        rcases List.mem_append.mp member with looked | taken
        · rcases List.mem_append.mp looked with id | compare
          · exact List.mem_singleton.mp id ▸ inside
          · exact compared offset compare
        · rcases List.mem_append.mp taken with copied | length
          · cases ie with
            | false => cases copied
            | true =>
                rcases List.mem_cons.mp copied with same | copy
                · exact same ▸ header
                · have bounds := List.mem_range'_1.mp copy
                  omega
          · cases ielen with
            | false => cases length
            | true => exact List.mem_singleton.mp length ▸ header
  | false =>
      rw [if_neg Bool.false_ne_true]
      cases named : eid == mem place with
      | true =>
          have room : (rtw_get_ie_ex_search mem eid oui).room place = 2 + (oui.getD []).length := if_pos named
          rw [if_pos rfl, room]
          constructor
          · intro all
            have header := all (place + 1) (List.mem_append_right _ (List.mem_singleton_self _))
            rw [← forall_id_and_oui_lt header]
            exact fun offset member =>
              all offset (List.mem_append_left _ (List.mem_append_right _ member))
          · intro fits offset member
            rcases List.mem_append.mp member with looked | length
            · rcases List.mem_append.mp looked with id | compare
              · exact List.mem_singleton.mp id ▸ inside
              · exact (forall_id_and_oui_lt (by omega)).mpr fits offset compare
            · have same := List.mem_singleton.mp length
              omega
      | false =>
          have room : (rtw_get_ie_ex_search mem eid oui).room place = 2 :=
            if_neg (by rw [named]; exact Bool.false_ne_true)
          rw [if_neg Bool.false_ne_true, room, List.append_nil]
          exact forall_id_and_length_lt

/-- What `rtw_get_wpa_ie` looks for: the id, the OUI and type behind the length
byte, and version 1 behind these.  The version is compared behind the right OUI only. -/
def rtw_get_wpa_ie_search (mem : Nat -> UInt8) : Search where
  size := ie_size mem
  positive := ie_size_pos mem
  sought := fun pbuf => mem pbuf == _WPA_IE_ID_ && is_wpa_ie mem pbuf
  room := fun pbuf =>
    if mem pbuf == _WPA_IE_ID_ then if bytes_at mem (pbuf + 2) wpa_oui_type then 8 else 6 else 2

theorem rtw_get_ie_sought (mem : Nat -> UInt8) (pbuf : Nat) :
    (rtw_get_ie_search mem _WPA_IE_ID_.toNat).sought pbuf = (mem pbuf == _WPA_IE_ID_) := by
  change decide (((mem pbuf).toNat : Int) = (_WPA_IE_ID_.toNat : Int)) = _
  rw [Bool.eq_iff_iff, decide_eq_true_eq, beq_iff_eq, Int.natCast_inj, UInt8.toNat_inj]

theorem rtw_get_ie_found {mem : Nat -> UInt8} {pbuf ie : Nat} {index limit : Int}
    (found : (rtw_get_ie mem pbuf index limit).result.join = some ie) :
    pbuf ≤ ie ∧ ie < pbuf + limit.toNat ∧ (rtw_get_ie_search mem index).sought ie = true := by
  unfold rtw_get_ie at found
  split_ifs at found
  case pos => cases found
  case neg =>
      have result := Option.join_eq_some_iff.mp found
      rcases Scanner.passes_of_scan result with ⟨last, passes, done⟩
      have forward := ElementSearch.le_of_passes passes
      unfold ElementSearch.body at done
      split_ifs at done
      case pos inside sought =>
          rw [Iteration.done.injEq, Option.some.injEq] at done
          exact ⟨done ▸ forward, done ▸ inside, done ▸ sought⟩
      case neg => cases done

/-- The closer search, in terms of the calls of `rtw_get_ie`: no call reads
outside, and the closer search stays inside from the element that it finds. -/
theorem wpa_staysInside_iff {mem : Nat -> UInt8} {pbuf stop : Nat} (inside : pbuf < stop) :
    let ie := rtw_get_ie mem pbuf _WPA_IE_ID_.toNat ((stop : Int) - pbuf)
    ElementSearch.StaysInside (rtw_get_wpa_ie_search mem) stop pbuf <->
      (∀ found, ie.result.join = some found ->
        ElementSearch.StaysInside (rtw_get_wpa_ie_search mem) stop found) ∧
      ∀ offset ∈ ie.reads, offset < stop := by
  have positive : ¬ ((stop : Int) - pbuf < 1) := by omega
  have last : pbuf + ((stop : Int) - pbuf).toNat = stop := by omega
  unfold rtw_get_ie
  rw [if_neg positive, last]
  dsimp only
  rw [forall_run_loop_reads]
  unfold run_loop
  dsimp only
  rw [@ElementSearch.staysInside_refined (rtw_get_ie_search mem _WPA_IE_ID_.toNat)
    (rtw_get_wpa_ie_search mem) rfl
    (fun place sought => by
      rw [rtw_get_ie_sought]
      exact (Bool.and_eq_true _ _ ▸ sought).1)
    (fun place other => by
      rw [rtw_get_ie_sought] at other
      exact if_neg (by rw [other]; exact Bool.false_ne_true))]
  constructor
  · intro ⟨⟨result, success, found⟩, kept⟩
    rw [success]
    refine ⟨found, fun round visit => ?_⟩
    by_cases below : round < stop
    · rw [if_pos below]
      refine forall_id_and_length_lt.mpr ?_
      cases sought : (rtw_get_ie_search mem _WPA_IE_ID_.toNat).sought round with
      | false => exact kept round visit below sought
      | true =>
          -- the round at which `rtw_get_ie` stops
          have passes := (ElementSearch.mem_visited).mp visit
          have ended := Scanner.scan_passes (fun place => stop - place)
            (ElementSearch.body_decreases _ stop) passes (show stop - pbuf < stop + 1 by omega)
          rw [success, Scanner.scan_done (ElementSearch.body_sought below sought)] at ended
          have closer := found round (Option.some.inj ended)
          have room := ((ElementSearch.staysInside_iff below).mp closer).1
          have least : 2 ≤ (rtw_get_wpa_ie_search mem).room round := by
            unfold rtw_get_wpa_ie_search
            dsimp only
            split_ifs <;> omega
          omega
    · rw [if_neg below]
      exact fun _ impossible => (List.not_mem_nil impossible).elim
  · intro ⟨found, reads⟩
    rcases Scanner.exists_scan (fun place => stop - place)
      (ElementSearch.body_decreases (rtw_get_ie_search mem _WPA_IE_ID_.toNat) stop)
      (show stop - pbuf < stop + 1 by omega) with ⟨result, success⟩
    rw [success] at found
    refine ⟨⟨result, success, found⟩, fun round visit below _ => ?_⟩
    have read := reads round visit
    rw [if_pos below] at read
    exact forall_id_and_length_lt.mp read

theorem forall_wpa_element_lt {mem : Nat -> UInt8} {pbuf stop : Nat} (named : (mem pbuf == _WPA_IE_ID_) = true) :
    (∀ offset, offset ∈ List.range' (pbuf + 2) wpa_oui_type.length ++
        (if bytes_at mem (pbuf + 2) wpa_oui_type then [pbuf + 6, pbuf + 7] else []) ++
        (if is_wpa_ie mem pbuf then [pbuf + 1] else []) -> offset < stop) <->
      pbuf + (rtw_get_wpa_ie_search mem).room pbuf ≤ stop := by
  have room : (rtw_get_wpa_ie_search mem).room pbuf =
      if bytes_at mem (pbuf + 2) wpa_oui_type then 8 else 6 := if_pos named
  rw [room]
  constructor
  · intro all
    have oui := all (pbuf + 5) (List.mem_append_left _ (List.mem_append_left _
      (List.mem_range'_1.mpr ⟨by omega, by change pbuf + 5 < pbuf + 2 + 4; omega⟩)))
    by_cases matched : bytes_at mem (pbuf + 2) wpa_oui_type = true
    · rw [if_pos matched] at all ⊢
      have version := all (pbuf + 7) (List.mem_append_left _ (List.mem_append_right _
        (List.mem_cons_of_mem _ (List.mem_singleton_self _))))
      omega
    · rw [if_neg matched]
      omega
  · intro fits offset member
    have least : pbuf + 6 ≤ stop := by
      split_ifs at fits <;> omega
    rcases List.mem_append.mp member with looked | length
    · rcases List.mem_append.mp looked with oui | version
      · have bounds : pbuf + 2 ≤ offset ∧ offset < pbuf + 2 + 4 := List.mem_range'_1.mp oui
        omega
      · by_cases matched : bytes_at mem (pbuf + 2) wpa_oui_type = true
        · rw [if_pos matched] at version fits
          simp only [List.mem_cons, List.not_mem_nil, or_false] at version
          omega
        · rw [if_neg matched] at version
          cases version
    · by_cases wpa : is_wpa_ie mem pbuf = true
      · rw [if_pos wpa] at length
        have same := List.mem_singleton.mp length
        omega
      · rw [if_neg wpa] at length
        cases length

/-- The bytes of a round and the element it ends with lie before the limit. -/
def WpaRoundInside (mem : Nat -> UInt8) (pie : Nat) (limit : Int) (stop : Nat) (round : WpaRound) : Prop :=
  (∀ offset ∈ rtw_get_wpa_ie_reads mem round, offset < stop) ∧
    ∀ result, rtw_get_wpa_ie_body mem pie limit round = .done result ->
      ∀ ie, result = some ie -> ie + ie_size mem ie ≤ stop

theorem wpa_rounds_inside_iff {mem : Nat -> UInt8} {pie stop : Nat} {limit : Int}
    (last : (stop : Int) = pie + limit) {pbuf : Nat} (inside : pbuf < stop) :
    Scanner.Throughout (rtw_get_wpa_ie_body mem pie limit) (WpaRoundInside mem pie limit stop)
        ⟨pbuf, (stop : Int) - pbuf⟩ <->
      ElementSearch.StaysInside (rtw_get_wpa_ie_search mem) stop pbuf := by
  obtain ⟨left, few⟩ : ∃ left, stop - pbuf ≤ left := ⟨_, Nat.le_refl _⟩
  induction left generalizing pbuf with
  | zero => omega
  | succ left ih =>
      have call := @wpa_staysInside_iff mem pbuf stop inside
      dsimp only at call
      rw [Scanner.throughout_iff, call]
      unfold WpaRoundInside rtw_get_wpa_ie_reads rtw_get_wpa_ie_body
      dsimp only
      cases result : (rtw_get_ie mem pbuf _WPA_IE_ID_.toNat ((stop : Int) - pbuf)).result.join with
      | none =>
          rw [List.append_nil]
          constructor
          · intro ⟨⟨reads, _⟩, _⟩
            exact ⟨fun found impossible => (nomatch impossible), reads⟩
          · intro ⟨_, reads⟩
            refine ⟨⟨reads, ?_⟩, fun next goes => (nomatch goes)⟩
            intro result done ie same
            rw [← Iteration.done.inj done] at same
            cases same
      | some ie =>
          rcases rtw_get_ie_found result with ⟨forward, before, sought⟩
          have below : ie < stop := by omega
          rw [rtw_get_ie_sought] at sought
          have element := @forall_wpa_element_lt mem ie stop sought
          have closer := @ElementSearch.staysInside_iff (rtw_get_wpa_ie_search mem) stop ie below
          have same : (rtw_get_wpa_ie_search mem).sought ie = is_wpa_ie mem ie := by
            change (mem ie == _WPA_IE_ID_ && is_wpa_ie mem ie) = _
            rw [sought, Bool.true_and]
          have size : (rtw_get_wpa_ie_search mem).size ie = ie_size mem ie := rfl
          rw [same, size] at closer
          have found : (∀ found, some ie = some found ->
              ElementSearch.StaysInside (rtw_get_wpa_ie_search mem) stop found) <->
              ElementSearch.StaysInside (rtw_get_wpa_ie_search mem) stop ie :=
            ⟨fun all => all ie rfl, fun stays other equal => Option.some.inj equal ▸ stays⟩
          have split_reads := @List.forall_mem_append Nat (fun offset => offset < stop)
            (rtw_get_ie mem pbuf _WPA_IE_ID_.toNat ((stop : Int) - pbuf)).reads
          dsimp only
          rw [found, closer, split_reads, element]
          cases wpa : is_wpa_ie mem ie with
          | true =>
              rw [if_pos rfl]
              constructor
              · intro ⟨⟨⟨reads, room⟩, complete⟩, _⟩
                exact ⟨⟨room, fun _ => complete _ rfl ie rfl, fun impossible => (nomatch impossible)⟩, reads⟩
              · intro ⟨⟨room, complete, _⟩, reads⟩
                refine ⟨⟨⟨reads, room⟩, ?_⟩, fun next goes => (nomatch goes)⟩
                intro result done other equal
                rw [← Iteration.done.inj done, Option.some.injEq] at equal
                exact equal ▸ complete rfl
          | false =>
              rw [if_neg Bool.false_ne_true]
              have rest : limit - ((ie : Int) - pie) - 2 - (mem (ie + 1)).toNat =
                  (stop : Int) - (ie + ie_size mem ie : Nat) := by
                unfold ie_size
                omega
              have next : ie + (2 + (mem (ie + 1)).toNat) = ie + ie_size mem ie := by
                unfold ie_size
                omega
              rw [rest, next]
              by_cases ended : (stop : Int) - (ie + ie_size mem ie : Nat) ≤ 0
              · rw [if_pos ended]
                have outside : stop ≤ ie + ie_size mem ie := by omega
                constructor
                · intro ⟨⟨⟨reads, room⟩, _⟩, _⟩
                  exact ⟨⟨room, fun impossible => (nomatch impossible),
                    fun _ => ElementSearch.staysInside_ended outside⟩, reads⟩
                · intro ⟨⟨room, _, _⟩, reads⟩
                  refine ⟨⟨⟨reads, room⟩, ?_⟩, fun next goes => (nomatch goes)⟩
                  intro result done other equal
                  rw [← Iteration.done.inj done] at equal
                  cases equal
              · rw [if_neg ended]
                have onward := ie_size_pos mem ie
                have later := @ih (ie + ie_size mem ie) (by omega) (by omega)
                constructor
                · intro ⟨⟨⟨reads, room⟩, _⟩, goes⟩
                  exact ⟨⟨room, fun impossible => (nomatch impossible), fun _ => later.mp (goes _ rfl)⟩, reads⟩
                · intro ⟨⟨room, _, stays⟩, reads⟩
                  refine ⟨⟨⟨reads, room⟩, fun result done => (nomatch done)⟩, ?_⟩
                  intro round goes
                  exact Iteration.more.inj goes ▸ later.mpr (stays rfl)

theorem rtw_get_wpa_ie_decreases (mem : Nat -> UInt8) (pie : Nat) (limit : Int)
    (round next : WpaRound) (more : rtw_get_wpa_ie_body mem pie limit round = .more next) :
    pie + limit.toNat - next.pbuf < pie + limit.toNat - round.pbuf := by
  unfold rtw_get_wpa_ie_body at more
  split at more
  case h_1 pbuf found =>
      have forward := (rtw_get_ie_found found).1
      dsimp only at more
      split_ifs at more
      case neg ended =>
          rw [← Iteration.more.inj more]
          dsimp only
          omega
  case h_2 => cases more

theorem rtw_get_wpa_ie_staysInside_iff (mem : Nat -> UInt8) (pie : Nat) (limit : Int) :
    (rtw_get_wpa_ie mem pie limit).StaysInside mem (pie + limit) <->
      limit < 1 ∨ Intact (rtw_get_wpa_ie_search mem) (pie + limit.toNat) pie := by
  by_cases few : limit < 1
  · have call : rtw_get_ie mem pie _WPA_IE_ID_.toNat limit = ⟨some none, []⟩ := if_pos few
    have done : rtw_get_wpa_ie_body mem pie limit ⟨pie, limit⟩ = .done none := by
      unfold rtw_get_wpa_ie_body
      rw [call]
      rfl
    refine iff_of_true ⟨⟨none, Scanner.scan_done done _, fun ie impossible => (nomatch impossible)⟩, ?_⟩
      (Or.inl few)
    intro offset member
    unfold rtw_get_wpa_ie run_loop at member
    dsimp only at member
    rw [Scanner.visited_done done, List.flatMap_singleton] at member
    unfold rtw_get_wpa_ie_reads at member
    rw [call] at member
    cases member
  · have same : (pie : Int) + limit = (pie + limit.toNat : Nat) := by omega
    have first : limit = ((pie + limit.toNat : Nat) : Int) - pie := by omega
    rw [or_iff_right few, same, IeOutcome.staysInside_iff, ← ElementSearch.staysInside_iff_intact,
      ← wpa_rounds_inside_iff same.symm (by omega), ← first]
    unfold rtw_get_wpa_ie
    rw [forall_run_loop_reads]
    unfold run_loop
    exact Scanner.throughout_iff_scan (rtw_get_wpa_ie_decreases mem pie limit) (by omega)

/-- The elements that `rtw_get_sec_ie` walks over.  It stops at none; an element
that it copies is read to its end. -/
def rtw_get_sec_ie_search (mem : Nat -> UInt8) (rsn_ie wpa_ie : Bool) : Search where
  size := ie_size mem
  positive := ie_size_pos mem
  sought := fun _ => false
  room := fun cnt =>
    max (if mem cnt == _WPA_IE_ID_ then 6 else 2)
      (if sec_ie_copied mem rsn_ie wpa_ie cnt then ie_size mem cnt else 0)

theorem rtw_get_sec_ie_body_cnt (mem : Nat -> UInt8) (stop : Nat) (locals : SecIe) :
    (locals.cnt < stop ∧ ∃ next, rtw_get_sec_ie_body mem stop locals = .more next ∧
        next.cnt = locals.cnt + ie_size mem locals.cnt) ∨
      stop ≤ locals.cnt ∧ rtw_get_sec_ie_body mem stop locals = .done locals := by
  unfold rtw_get_sec_ie_body
  by_cases inside : locals.cnt < stop
  · rw [if_pos inside]
    left
    refine ⟨inside, ?_⟩
    dsimp only
    split_ifs <;> exact ⟨_, rfl, rfl⟩
  · rw [if_neg inside]
    exact Or.inr ⟨Nat.not_lt.mp inside, rfl⟩

theorem rtw_get_sec_ie_decreases (mem : Nat -> UInt8) (stop : Nat) (locals next : SecIe)
    (more : rtw_get_sec_ie_body mem stop locals = .more next) : stop - next.cnt < stop - locals.cnt := by
  have positive := ie_size_pos mem locals.cnt
  rcases rtw_get_sec_ie_body_cnt mem stop locals with ⟨inside, other, goes, cnt⟩ | ⟨_, done⟩
  · rw [goes, Iteration.more.injEq] at more
    rw [← more, cnt]
    omega
  · rw [done] at more
    cases more

theorem sec_rounds_iff {mem : Nat -> UInt8} {stop : Nat} {rsn_ie wpa_ie : Bool} {kept : Nat -> Prop}
    (locals : SecIe) (inside : ∀ place, kept place <->
      ElementSearch.Inside (rtw_get_sec_ie_search mem rsn_ie wpa_ie) stop place) :
    Scanner.Throughout (rtw_get_sec_ie_body mem stop) (fun round => kept round.cnt) locals <->
      ElementSearch.StaysInside (rtw_get_sec_ie_search mem rsn_ie wpa_ie) stop locals.cnt := by
  obtain ⟨left, few⟩ : ∃ left, stop - locals.cnt ≤ left := ⟨_, Nat.le_refl _⟩
  induction left generalizing locals with
  | zero =>
      have outside : stop ≤ locals.cnt := by omega
      refine iff_of_true (Scanner.throughout_iff.mpr ⟨?_, fun next more => ?_⟩)
        (ElementSearch.staysInside_ended outside)
      · exact (inside _).mpr (fun below => absurd below (Nat.not_lt.mpr outside))
      · have smaller := rtw_get_sec_ie_decreases mem stop locals next more
        omega
  | succ left ih =>
      rcases rtw_get_sec_ie_body_cnt mem stop locals with ⟨below, next, goes, cnt⟩ | ⟨outside, done⟩
      · have smaller := rtw_get_sec_ie_decreases mem stop locals next goes
        have later := ih next (by omega)
        unfold ElementSearch.StaysInside at later ⊢
        rw [Scanner.throughout_iff, @Scanner.throughout_iff _ _ (ElementSearch.body _ stop), inside,
          goes, ElementSearch.body_passed below rfl]
        refine and_congr_right (fun _ => ⟨fun rest place more => ?_, fun rest other more => ?_⟩)
        · rw [← Iteration.more.inj more]
          exact cnt ▸ later.mp (rest next rfl)
        · rw [← Iteration.more.inj more]
          exact later.mpr (rest next.cnt (congrArg Iteration.more cnt.symm))
      · refine iff_of_true (Scanner.throughout_iff.mpr ⟨?_, fun next more => ?_⟩)
          (ElementSearch.staysInside_ended outside)
        · exact (inside _).mpr (fun below => absurd below (Nat.not_lt.mpr outside))
        · rw [done] at more
          cases more

theorem forall_sec_element_lt {mem : Nat -> UInt8} {rsn_ie wpa_ie : Bool} {stop cnt : Nat} (inside : cnt < stop) :
    (∀ offset, offset ∈ [cnt] ++
        (if mem cnt == _WPA_IE_ID_ then List.range' (cnt + 2) wpa_oui_type.length else []) ++
        (if sec_ie_copied mem rsn_ie wpa_ie cnt then List.range' cnt (ie_size mem cnt) else []) ++
        [cnt + 1] -> offset < stop) <->
      cnt + (rtw_get_sec_ie_search mem rsn_ie wpa_ie).room cnt ≤ stop := by
  have oui : ∀ header : cnt + 1 < stop, (∀ offset, offset ∈
      (if mem cnt == _WPA_IE_ID_ then List.range' (cnt + 2) wpa_oui_type.length else []) ->
        offset < stop) <-> cnt + (if mem cnt == _WPA_IE_ID_ then 6 else 2) ≤ stop := by
    intro header
    split
    · exact forall_id_and_oui_lt header
    · exact iff_of_true (fun _ impossible => (List.not_mem_nil impossible).elim) header
  have copy : (∀ offset, offset ∈
      (if sec_ie_copied mem rsn_ie wpa_ie cnt then List.range' cnt (ie_size mem cnt) else []) ->
        offset < stop) <->
      cnt + (if sec_ie_copied mem rsn_ie wpa_ie cnt then ie_size mem cnt else 0) ≤ stop := by
    split
    · exact forall_range'_lt inside
    · exact iff_of_true (fun _ impossible => (List.not_mem_nil impossible).elim) (Nat.le_of_lt inside)
  rw [List.forall_mem_append, List.forall_mem_append, List.forall_mem_append,
    List.forall_mem_singleton, List.forall_mem_singleton, copy]
  change _ <-> cnt + max _ _ ≤ stop
  rw [← Nat.add_max_add_left, Nat.max_le]
  constructor
  · intro ⟨⟨⟨_, compared⟩, copied⟩, header⟩
    exact ⟨(oui header).mp compared, copied⟩
  · intro ⟨room, copied⟩
    have header : cnt + 1 < stop := by
      split_ifs at room <;> omega
    exact ⟨⟨⟨inside, (oui header).mpr room⟩, copied⟩, header⟩

theorem rtw_get_sec_ie_readsInside_iff (mem : Nat -> UInt8) (in_ie in_len : Nat) (rsn_ie wpa_ie : Bool)
    (rsn_len wpa_len : Nat) :
    (rtw_get_sec_ie mem in_ie in_len rsn_ie wpa_ie rsn_len wpa_len).ReadsInside (in_ie + in_len) <->
      Intact (rtw_get_sec_ie_search mem rsn_ie wpa_ie) (in_ie + in_len) (in_ie + 12) := by
  have shape : (rtw_get_sec_ie mem in_ie in_len rsn_ie wpa_ie rsn_len wpa_len).ReadsInside
      (in_ie + in_len) <->
      (∃ result,
        (rtw_get_sec_ie mem in_ie in_len rsn_ie wpa_ie rsn_len wpa_len).result = some result ∧ True) ∧
      ∀ offset ∈ (rtw_get_sec_ie mem in_ie in_len rsn_ie wpa_ie rsn_len wpa_len).reads,
        offset < in_ie + in_len :=
    ⟨fun kept => ⟨kept.ended.imp (fun _ ended => ⟨ended, trivial⟩), kept.reads⟩,
      fun kept => ⟨kept.1.imp (fun _ ended => ended.1), kept.2⟩⟩
  rw [shape, ← ElementSearch.staysInside_iff_intact]
  unfold rtw_get_sec_ie
  dsimp only
  rw [forall_run_loop_reads]
  unfold run_loop
  dsimp only
  rw [Scanner.throughout_iff_scan (rtw_get_sec_ie_decreases mem (in_ie + in_len))
    (show in_ie + in_len - (in_ie + 12) < in_ie + in_len + 1 by omega)]
  have rounds := @sec_rounds_iff mem (in_ie + in_len) rsn_ie wpa_ie
    (fun cnt => (∀ offset, offset ∈
      (if cnt < in_ie + in_len then [cnt] ++
        (if mem cnt == _WPA_IE_ID_ then List.range' (cnt + 2) wpa_oui_type.length else []) ++
        (if sec_ie_copied mem rsn_ie wpa_ie cnt then List.range' cnt (ie_size mem cnt) else []) ++
        [cnt + 1] else []) -> offset < in_ie + in_len))
    ⟨in_ie + 12, rsn_len, wpa_len⟩ (fun place => by
      unfold ElementSearch.Inside
      by_cases inside : place < in_ie + in_len
      · rw [if_pos inside, forall_sec_element_lt inside]
        exact ⟨fun room _ => ⟨room, fun impossible => (nomatch impossible)⟩, fun stays => (stays inside).1⟩
      · rw [if_neg inside]
        exact iff_of_true (fun _ impossible => (List.not_mem_nil impossible).elim)
          (fun below => absurd below inside))
  rw [← rounds]
  refine forall_congr' (fun round => imp_congr_right (fun _ => ?_))
  exact ⟨fun both => both.1, fun kept => ⟨kept, fun _ _ => trivial⟩⟩

/-- Each search ends, and it stays inside its limit exactly when the elements
are intact for it. -/
theorem ie_searches_stay_inside_iff (mem : Nat -> UInt8) :
    (∀ pbuf index limit, (rtw_get_ie mem pbuf index limit).StaysInside mem (pbuf + limit) <->
      limit < 1 ∨ Intact (rtw_get_ie_search mem index) (pbuf + limit.toNat) pbuf) ∧
    (∀ in_ie in_len eid oui ie ielen,
      (rtw_get_ie_ex mem in_ie in_len eid oui ie ielen).StaysInside mem (in_ie + in_len : Nat) <->
        Intact (rtw_get_ie_ex_search mem eid oui) (in_ie + in_len) in_ie) ∧
    (∀ pie limit, (rtw_get_wpa_ie mem pie limit).StaysInside mem (pie + limit) <->
      limit < 1 ∨ Intact (rtw_get_wpa_ie_search mem) (pie + limit.toNat) pie) ∧
    (∀ in_ie in_len rsn_ie wpa_ie rsn_len wpa_len,
      (rtw_get_sec_ie mem in_ie in_len rsn_ie wpa_ie rsn_len wpa_len).ReadsInside (in_ie + in_len) <->
        Intact (rtw_get_sec_ie_search mem rsn_ie wpa_ie) (in_ie + in_len) (in_ie + 12)) :=
  ⟨rtw_get_ie_staysInside_iff mem, rtw_get_ie_ex_staysInside_iff mem,
    rtw_get_wpa_ie_staysInside_iff mem, rtw_get_sec_ie_readsInside_iff mem⟩

def cut_wpa_ie (offset : Nat) : UInt8 := [0xdd, 0x16, 0x00, 0x50, 0xf2, 0x01].getD offset 0

/-- A single byte: its length is read behind it.  A vendor element cut off behind
its OUI: it is found, and ends behind the limit. -/
theorem ie_searches_leave_input :
    ¬ (rtw_get_ie (fun _ => 0) 0 0x30 1).StaysInside (fun _ => 0) (0 + 1) ∧
    ¬ (rtw_get_ie_ex cut_wpa_ie 0 6 _WPA_IE_ID_ (some wpa_oui_type) false false).StaysInside
      cut_wpa_ie (6 : Nat) := by
  refine ⟨fun stays => ?_, fun stays => ?_⟩
  · exact absurd (stays.reads 1 (by decide)) (by decide)
  · rcases stays.found with ⟨result, ended, found⟩
    have first : (rtw_get_ie_ex cut_wpa_ie 0 6 _WPA_IE_ID_ (some wpa_oui_type) false false).result =
        some (some 0) := by decide
    rw [first, Option.some.injEq] at ended
    exact absurd (found 0 ended.symm) (by decide)

end Rtl8821ce
