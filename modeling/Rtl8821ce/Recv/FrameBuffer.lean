import Rtl8821ce.Library.Memory
import Rtl8821ce.Recv.Defrag

/-!
# The buffer under defragmentation

`struct recv_frame_hdr` keeps four pointers into the buffer of a frame and the distance
`len` of two of them.  `recvframe_defrag` copies the bytes of a fragment to `rx_tail` of
the first one and only then asks `recvframe_put` whether there is room.

Where all copies have room, the pointers compute what `Rtl8821ce.recvframe_defrag` says
about the bytes.
-/

namespace Rtl8821ce
namespace Buffer

/-- The pointers are addresses; `len` is a `uint`. -/
structure RecvFrameHdr where
  index : Nat
  attrib : RxPktAttrib
  preorder_ctrl : Option (Fin NUM_STA × Fin 16) := none
  len : Nat
  rx_head : Nat
  rx_data : Nat
  rx_tail : Nat
  rx_end : Nat

/-- The pointers are in order, and `len` is the distance between data and tail.  A buffer
has less than 2^31 bytes, so that its lengths are no negative `sint`. -/
structure RecvFrameHdr.Coherent (pfhdr : RecvFrameHdr) : Prop where
  head : pfhdr.rx_head ≤ pfhdr.rx_data
  data : pfhdr.rx_data + pfhdr.len = pfhdr.rx_tail
  tail : pfhdr.rx_tail ≤ pfhdr.rx_end
  small : pfhdr.rx_end < pfhdr.rx_head + 2 ^ 31

def recvframe_pull (precvframe : RecvFrameHdr) (sz : Nat) : Option RecvFrameHdr :=
  if precvframe.rx_tail < precvframe.rx_data + sz then none
  else some { precvframe with
    rx_data := precvframe.rx_data + sz
    len := (precvframe.len + 2 ^ 32 - sz) % 2 ^ 32 }

def recvframe_put (precvframe : RecvFrameHdr) (sz : Nat) : Option RecvFrameHdr :=
  if precvframe.rx_end < precvframe.rx_tail + sz then none
  else some { precvframe with
    rx_tail := precvframe.rx_tail + sz
    len := (precvframe.len + sz) % 2 ^ 32 }

def recvframe_pull_tail (precvframe : RecvFrameHdr) (sz : Nat) : Option RecvFrameHdr :=
  if precvframe.rx_tail < precvframe.rx_data + sz then none
  else some { precvframe with
    rx_tail := precvframe.rx_tail - sz
    len := (precvframe.len + 2 ^ 32 - sz) % 2 ^ 32 }

/-- A call of `_rtw_memcpy`, with the first fragment as it is then. -/
structure Memcpy where
  prframe : RecvFrameHdr
  dst : Nat
  size : Nat

/-- One round of the loop. -/
structure DefragRound where
  mem : Nat -> UInt8
  prframe : RecvFrameHdr
  copy : Memcpy

def defrag_append (mem : Nat -> UInt8) (prframe pnextrframe : RecvFrameHdr) : DefragRound :=
  let wlanhdr_offset := (pnextrframe.attrib.hdrlen + pnextrframe.attrib.iv_len) % 256
  let pnfhdr := (recvframe_pull pnextrframe wlanhdr_offset).getD pnextrframe
  let pfhdr := (recvframe_pull_tail prframe prframe.attrib.icv_len).getD prframe
  let copied := Memory.write mem pfhdr.rx_tail (Memory.read mem pnfhdr.rx_data pnfhdr.len)
  let joined := (recvframe_put pfhdr pnfhdr.len).getD pfhdr
  { mem := copied
    prframe := { joined with attrib := { joined.attrib with icv_len := pnextrframe.attrib.icv_len } }
    copy := ⟨pfhdr, pfhdr.rx_tail, pnfhdr.len⟩ }

structure DefragOutcome where
  mem : Nat -> UInt8
  prtnframe : Option RecvFrameHdr
  copies : List Memcpy

def defrag_loop : Nat -> (Nat -> UInt8) -> RecvFrameHdr -> List RecvFrameHdr -> DefragOutcome
  | _, mem, prframe, [] => ⟨mem, some prframe, []⟩
  | curfragnum, mem, prframe, pnextrframe :: rest =>
      if curfragnum ≠ pnextrframe.attrib.frag_num.val then ⟨mem, none, []⟩
      else
        let round := defrag_append mem prframe pnextrframe
        let later := defrag_loop (curfragnum + 1) round.mem round.prframe rest
        { later with copies := round.copy :: later.copies }

def recvframe_defrag (mem : Nat -> UInt8) : List RecvFrameHdr -> DefragOutcome
  | [] => ⟨mem, none, []⟩
  | prframe :: rest =>
      if prframe.attrib.frag_num ≠ 0 then ⟨mem, none, []⟩ else defrag_loop 1 mem prframe rest

/-! ## Lengths -/

/-- What a pull of `sz` bytes takes off. -/
def taken (len sz : Nat) : Nat := if len < sz then 0 else sz

theorem taken_le (len sz : Nat) : taken len sz ≤ len := by
  unfold taken
  split <;> omega

def RecvFrameHdr.appended (pnextrframe : RecvFrameHdr) : Nat :=
  pnextrframe.len -
    taken pnextrframe.len ((pnextrframe.attrib.hdrlen + pnextrframe.attrib.iv_len) % 256)

/-- The fragments that are appended fit, when `len` bytes of `capacity` are used so far. -/
def Room (capacity : Nat) : (curfragnum len icv_len : Nat) -> List RecvFrameHdr -> Prop
  | _, _, _, [] => True
  | curfragnum, len, icv_len, pnextrframe :: rest =>
      curfragnum = pnextrframe.attrib.frag_num.val ->
        len - taken len icv_len + pnextrframe.appended ≤ capacity ∧
          Room capacity (curfragnum + 1) (len - taken len icv_len + pnextrframe.appended)
            pnextrframe.attrib.icv_len rest

/-- The fragments fit into the buffer of the first one. -/
def RoomFirst : List RecvFrameHdr -> Prop
  | [] => True
  | prframe :: rest =>
      prframe.attrib.frag_num = 0 ->
        Room (prframe.rx_end - prframe.rx_data) 1 prframe.len prframe.attrib.icv_len rest

section

variable {precvframe prframe pnextrframe : RecvFrameHdr}

theorem RecvFrameHdr.Coherent.len_lt (coherent : precvframe.Coherent) : precvframe.len < 2 ^ 31 := by
  have head := coherent.head
  have data := coherent.data
  have tail := coherent.tail
  have small := coherent.small
  omega

theorem recvframe_pull_getD (coherent : precvframe.Coherent) (sz : Nat) :
    (recvframe_pull precvframe sz).getD precvframe = { precvframe with
      rx_data := precvframe.rx_data + taken precvframe.len sz
      len := precvframe.len - taken precvframe.len sz } := by
  have data := coherent.data
  have small := coherent.len_lt
  unfold recvframe_pull taken
  by_cases short : precvframe.len < sz
  · rw [if_pos (by omega), if_pos short]
    rfl
  · have wrapped : (precvframe.len + 2 ^ 32 - sz) % 2 ^ 32 = precvframe.len - sz := by omega
    rw [if_neg (by omega), if_neg short, wrapped]
    rfl

theorem recvframe_pull_tail_getD (coherent : precvframe.Coherent) (sz : Nat) :
    (recvframe_pull_tail precvframe sz).getD precvframe = { precvframe with
      rx_tail := precvframe.rx_tail - taken precvframe.len sz
      len := precvframe.len - taken precvframe.len sz } := by
  have data := coherent.data
  have small := coherent.len_lt
  unfold recvframe_pull_tail taken
  by_cases short : precvframe.len < sz
  · rw [if_pos (by omega), if_pos short]
    rfl
  · have wrapped : (precvframe.len + 2 ^ 32 - sz) % 2 ^ 32 = precvframe.len - sz := by omega
    rw [if_neg (by omega), if_neg short, wrapped]
    rfl

theorem recvframe_put_getD (coherent : precvframe.Coherent) {sz : Nat}
    (room : precvframe.rx_tail + sz ≤ precvframe.rx_end) :
    (recvframe_put precvframe sz).getD precvframe = { precvframe with
      rx_tail := precvframe.rx_tail + sz
      len := precvframe.len + sz } := by
  have head := coherent.head
  have data := coherent.data
  have small := coherent.small
  have wrapped : (precvframe.len + sz) % 2 ^ 32 = precvframe.len + sz := by omega
  unfold recvframe_put
  rw [if_neg (Nat.not_lt.mpr room), wrapped]
  rfl

/-- The first fragment after its ICV has been cut off. -/
def RecvFrameHdr.cut (prframe : RecvFrameHdr) : RecvFrameHdr :=
  (recvframe_pull_tail prframe prframe.attrib.icv_len).getD prframe

theorem RecvFrameHdr.Coherent.cut_len (coherent : prframe.Coherent) :
    prframe.cut.len = prframe.len - taken prframe.len prframe.attrib.icv_len := by
  rw [cut, recvframe_pull_tail_getD coherent]

theorem RecvFrameHdr.Coherent.cut (coherent : prframe.Coherent) : prframe.cut.Coherent := by
  have data := coherent.data
  have tail := coherent.tail
  have fewer := taken_le prframe.len prframe.attrib.icv_len
  rw [RecvFrameHdr.cut, recvframe_pull_tail_getD coherent]
  refine ⟨coherent.head, ?_, ?_, coherent.small⟩ <;> dsimp only <;> omega

theorem cut_same (prframe : RecvFrameHdr) :
    prframe.cut.rx_data = prframe.rx_data ∧ prframe.cut.rx_end = prframe.rx_end := by
  unfold RecvFrameHdr.cut recvframe_pull_tail
  split
  case isTrue short => exact ⟨rfl, rfl⟩
  case isFalse long =>
      rw [Option.getD_some]
      exact ⟨rfl, rfl⟩

theorem defrag_append_copy (mem : Nat -> UInt8) (prframe : RecvFrameHdr) (next : pnextrframe.Coherent) :
    (defrag_append mem prframe pnextrframe).copy =
      ⟨prframe.cut, prframe.cut.rx_tail, pnextrframe.appended⟩ := by
  unfold defrag_append RecvFrameHdr.appended
  dsimp only
  rw [recvframe_pull_getD next]
  rfl

theorem copy_room_iff (first : prframe.Coherent) (sz : Nat) :
    prframe.cut.rx_tail + sz ≤ prframe.cut.rx_end <->
      prframe.len - taken prframe.len prframe.attrib.icv_len + sz ≤ prframe.rx_end - prframe.rx_data := by
  have data := first.cut.data
  have tail := first.cut.tail
  rw [first.cut_len, (cut_same prframe).1] at data
  rw [(cut_same prframe).2] at tail ⊢
  omega

theorem defrag_append_prframe (mem : Nat -> UInt8) (first : prframe.Coherent) (next : pnextrframe.Coherent)
    (room : prframe.cut.rx_tail + pnextrframe.appended ≤ prframe.cut.rx_end) :
    (defrag_append mem prframe pnextrframe).prframe = { prframe with
      attrib := { prframe.attrib with icv_len := pnextrframe.attrib.icv_len }
      rx_tail := prframe.cut.rx_tail + pnextrframe.appended
      len := prframe.cut.len + pnextrframe.appended } := by
  have put := recvframe_put_getD first.cut room
  unfold defrag_append
  dsimp only
  rw [recvframe_pull_getD next]
  dsimp only
  rw [← RecvFrameHdr.cut]
  unfold RecvFrameHdr.appended at put
  rw [put, RecvFrameHdr.cut, recvframe_pull_tail_getD first]
  rfl

theorem defrag_append_no_room (mem : Nat -> UInt8) (prframe : RecvFrameHdr) (next : pnextrframe.Coherent)
    (noRoom : prframe.cut.rx_end < prframe.cut.rx_tail + pnextrframe.appended) :
    (defrag_append mem prframe pnextrframe).prframe =
      { prframe.cut with attrib := { prframe.cut.attrib with icv_len := pnextrframe.attrib.icv_len } } := by
  unfold RecvFrameHdr.appended at noRoom
  unfold defrag_append
  dsimp only
  rw [recvframe_pull_getD next]
  dsimp only
  rw [← RecvFrameHdr.cut, recvframe_put, if_pos noRoom]
  rfl

theorem defrag_append_coherent (mem : Nat -> UInt8) (first : prframe.Coherent) (next : pnextrframe.Coherent) :
    (defrag_append mem prframe pnextrframe).prframe.Coherent := by
  have cut := first.cut
  have data := cut.data
  rcases Nat.lt_or_ge prframe.cut.rx_end (prframe.cut.rx_tail + pnextrframe.appended) with noRoom | room
  · rw [defrag_append_no_room mem prframe next noRoom]
    exact ⟨cut.head, cut.data, cut.tail, cut.small⟩
  · rw [defrag_append_prframe mem first next room]
    rw [(cut_same prframe).1] at data
    rw [(cut_same prframe).2] at room
    exact ⟨first.head, by dsimp only; omega, room, first.small⟩

end

/-- The copy writes between `rx_tail` and `rx_end`. -/
structure Memcpy.Inside (copy : Memcpy) : Prop where
  tail : copy.prframe.rx_tail ≤ copy.dst
  limit : copy.dst + copy.size ≤ copy.prframe.rx_end

/-- What is expected of `recvframe_defrag`. -/
structure NeverOverruns (outcome : DefragOutcome) : Prop where
  copies : ∀ copy ∈ outcome.copies, copy.Inside
  returned : ∀ prtnframe, outcome.prtnframe = some prtnframe ->
    prtnframe.len = prtnframe.rx_tail - prtnframe.rx_data ∧ prtnframe.rx_tail ≤ prtnframe.rx_end

theorem never_overruns_of_none {outcome : DefragOutcome} (copies : outcome.copies = [])
    (dropped : outcome.prtnframe = none) : NeverOverruns outcome where
  copies := by
    rw [copies]
    exact fun _ member => absurd member List.not_mem_nil
  returned := by
    rw [dropped]
    exact fun prtnframe ends => absurd ends.symm (Option.some_ne_none prtnframe)

section

variable {mem : Nat -> UInt8} {prframe : RecvFrameHdr} {curfragnum : Nat} {rest : List RecvFrameHdr}

theorem defrag_loop_coherent (first : prframe.Coherent)
    (others : ∀ fragment ∈ rest, fragment.Coherent) {joined : RecvFrameHdr}
    (ends : (defrag_loop curfragnum mem prframe rest).prtnframe = some joined) : joined.Coherent := by
  induction rest generalizing curfragnum mem prframe with
  | nil =>
      cases ends
      exact first
  | cons pnextrframe rest ih =>
      unfold defrag_loop at ends
      split at ends
      case isTrue outOfOrder => cases ends
      case isFalse inOrder =>
          have next := others pnextrframe List.mem_cons_self
          exact ih (defrag_append_coherent mem first next)
            (fun fragment member => others fragment (List.mem_cons_of_mem _ member)) ends

theorem defrag_loop_inside_iff (first : prframe.Coherent) (others : ∀ fragment ∈ rest, fragment.Coherent) :
    (∀ copy ∈ (defrag_loop curfragnum mem prframe rest).copies, copy.Inside) <->
      Room (prframe.rx_end - prframe.rx_data) curfragnum prframe.len prframe.attrib.icv_len rest := by
  induction rest generalizing curfragnum mem prframe with
  | nil => exact iff_of_true (fun _ member => absurd member List.not_mem_nil) trivial
  | cons pnextrframe rest ih =>
      have next := others pnextrframe List.mem_cons_self
      have later := fun fragment member => others fragment (List.mem_cons_of_mem pnextrframe member)
      unfold defrag_loop Room
      by_cases inOrder : curfragnum = pnextrframe.attrib.frag_num.val
      · rw [if_neg (not_not.mpr inOrder), forall_prop_of_true inOrder]
        dsimp only
        rw [List.forall_mem_cons, defrag_append_copy mem prframe next]
        have here : Memcpy.Inside ⟨prframe.cut, prframe.cut.rx_tail, pnextrframe.appended⟩ <->
            prframe.cut.rx_tail + pnextrframe.appended ≤ prframe.cut.rx_end :=
          ⟨fun inside => inside.limit, fun limit => ⟨Nat.le_refl _, limit⟩⟩
        rw [here, copy_room_iff first]
        refine and_congr_right (fun room => ?_)
        rw [ih (defrag_append_coherent mem first next) later,
          defrag_append_prframe mem first next ((copy_room_iff first _).mpr room), first.cut_len]
      · rw [if_pos inOrder]
        exact iff_of_true (fun _ member => absurd member List.not_mem_nil)
          (fun same => absurd same inOrder)

end

theorem recvframe_defrag_never_overruns_iff (mem : Nat -> UInt8) {defrag_q : List RecvFrameHdr}
    (coherent : ∀ fragment ∈ defrag_q, fragment.Coherent) :
    NeverOverruns (recvframe_defrag mem defrag_q) <-> RoomFirst defrag_q := by
  cases defrag_q with
  | nil => exact iff_of_true (never_overruns_of_none rfl rfl) trivial
  | cons prframe rest =>
      have first := coherent prframe List.mem_cons_self
      have others := fun fragment member => coherent fragment (List.mem_cons_of_mem prframe member)
      rw [recvframe_defrag, RoomFirst]
      by_cases zero : prframe.attrib.frag_num = 0
      · rw [if_neg (not_not.mpr zero), forall_prop_of_true zero, ← defrag_loop_inside_iff first others]
        refine ⟨fun never => never.copies, fun inside => ⟨inside, fun joined ends => ?_⟩⟩
        have joinedCoherent := defrag_loop_coherent first others ends
        have data := joinedCoherent.data
        exact ⟨by omega, joinedCoherent.tail⟩
      · rw [if_pos zero]
        exact iff_of_true (never_overruns_of_none rfl rfl) (fun same => absurd same zero)

/-- A fragment with a header of 24 bytes, eight bytes behind the start of its buffer. -/
def test_fragment (rx_head alloc_sz len : Nat) (frag_num : Fin 16) (mfrag : Bool) : RecvFrameHdr where
  index := frag_num.val
  attrib := { RxPktAttrib.zero with hdrlen := 24, frag_num := frag_num, mfrag := mfrag }
  len := len
  rx_head := rx_head
  rx_data := rx_head + 8
  rx_tail := rx_head + 8 + len
  rx_end := rx_head + alloc_sz

theorem test_fragment_coherent {rx_head alloc_sz len : Nat} (frag_num : Fin 16) (mfrag : Bool)
    (room : 8 + len ≤ alloc_sz) (small : alloc_sz < 2 ^ 31) :
    (test_fragment rx_head alloc_sz len frag_num mfrag).Coherent where
  head := Nat.le_add_right rx_head 8
  data := rfl
  tail := by
    simp only [test_fragment]
    omega
  small := Nat.add_lt_add_left small rx_head

/-- A second fragment of 500 bytes behind a first one of 1000. -/
theorem recvframe_defrag_never_overruns_two :
    NeverOverruns (recvframe_defrag (fun _ => 0)
      [test_fragment 0 1664 1024 0 true, test_fragment 4096 538 524 1 false]) := by
  refine (recvframe_defrag_never_overruns_iff (fun _ => 0) ?_).mpr ?_
  · intro fragment member
    rcases List.mem_cons.mp member with rfl | member
    · exact test_fragment_coherent 0 true (by decide) (by decide)
    · rw [List.mem_singleton.mp member]
      exact test_fragment_coherent 1 false (by decide) (by decide)
  · exact fun _ _ => ⟨by decide, trivial⟩

/-- A first fragment of 1600 bytes has 32 bytes of room for the 1500 of the second one. -/
theorem recvframe_defrag_overruns :
    let outcome := recvframe_defrag (fun _ => 0)
      [test_fragment 0 1664 1624 0 true, test_fragment 4096 1538 1524 1 false]
    outcome.copies.map (fun copy => (copy.dst, copy.size, copy.prframe.rx_end)) = [(1632, 1500, 1664)] ∧
      ¬NeverOverruns outcome := by
  intro outcome
  have copies : outcome.copies.map (fun copy => (copy.dst, copy.size, copy.prframe.rx_end)) =
      [(1632, 1500, 1664)] := by decide
  refine ⟨copies, fun never => ?_⟩
  obtain ⟨copy, member, place⟩ :
      exists copy, copy ∈ outcome.copies ∧ (copy.dst, copy.size, copy.prframe.rx_end) = (1632, 1500, 1664) :=
    List.mem_map.mp (copies ▸ List.mem_singleton_self _)
  have limit := (never.copies copy member).limit
  simp only [Prod.mk.injEq] at place
  omega

def view (mem : Nat -> UInt8) (pfhdr : RecvFrameHdr) : RecvFrame where
  index := pfhdr.index
  attrib := pfhdr.attrib
  rx_data := Memory.read mem pfhdr.rx_data pfhdr.len
  tailroom := pfhdr.rx_end - pfhdr.rx_tail
  preorder_ctrl := pfhdr.preorder_ctrl

section

variable {mem : Nat -> UInt8} {precvframe prframe pnextrframe : RecvFrameHdr}

theorem attrib_view : (view mem precvframe).attrib = precvframe.attrib := rfl

theorem len_view : (view mem precvframe).len = precvframe.len := Memory.length_read _ _ _

theorem view_pull (coherent : precvframe.Coherent) (sz : Nat) :
    view mem ((recvframe_pull precvframe sz).getD precvframe) =
      (Rtl8821ce.recvframe_pull (view mem precvframe) sz).getD (view mem precvframe) := by
  rw [recvframe_pull_getD coherent, Rtl8821ce.recvframe_pull, len_view, taken]
  by_cases short : precvframe.len < sz
  · rw [if_pos short, if_pos short]
    rfl
  · rw [if_neg short, if_neg short, Option.getD_some]
    simp only [view, Memory.read_drop mem precvframe.rx_data (Nat.not_lt.mp short)]

theorem view_pull_tail (coherent : precvframe.Coherent) (sz : Nat) :
    view mem ((recvframe_pull_tail precvframe sz).getD precvframe) =
      (Rtl8821ce.recvframe_pull_tail (view mem precvframe) sz).getD (view mem precvframe) := by
  rw [recvframe_pull_tail_getD coherent, Rtl8821ce.recvframe_pull_tail, len_view, taken]
  by_cases short : precvframe.len < sz
  · rw [if_pos short, if_pos short]
    rfl
  · have data := coherent.data
    have tail := coherent.tail
    have room : precvframe.rx_end - (precvframe.rx_tail - sz) = precvframe.rx_end - precvframe.rx_tail + sz := by
      omega
    rw [if_neg short, if_neg short, Option.getD_some]
    simp only [view, Memory.read_take mem precvframe.rx_data (Nat.sub_le precvframe.len sz), room]

theorem view_put (coherent : precvframe.Coherent) (bytes : List UInt8) :
    view (Memory.write mem precvframe.rx_tail bytes)
        ((recvframe_put precvframe bytes.length).getD precvframe) =
      (Rtl8821ce.recvframe_put (view mem precvframe) bytes).getD (view mem precvframe) := by
  have data := coherent.data
  have tail := coherent.tail
  have before : Memory.read (Memory.write mem precvframe.rx_tail bytes) precvframe.rx_data precvframe.len =
      Memory.read mem precvframe.rx_data precvframe.len :=
    Memory.read_write_of_disjoint mem (Or.inl (Nat.le_of_eq data))
  rcases Nat.lt_or_ge precvframe.rx_end (precvframe.rx_tail + bytes.length) with noRoom | room
  · have full : (view mem precvframe).tailroom < bytes.length := by
      simp only [view]
      omega
    rw [recvframe_put, if_pos noRoom, Rtl8821ce.recvframe_put, if_pos full]
    simp only [Option.getD_none, view, before]
  · have fits : ¬(view mem precvframe).tailroom < bytes.length := by
      simp only [view]
      omega
    rw [recvframe_put_getD coherent room, Rtl8821ce.recvframe_put, if_neg fits]
    simp only [Option.getD_some, view, Memory.read_add, before, data, Memory.read_write, Nat.sub_sub]

theorem view_append (first : prframe.Coherent) (next : pnextrframe.Coherent) :
    view (defrag_append mem prframe pnextrframe).mem (defrag_append mem prframe pnextrframe).prframe =
      Rtl8821ce.defrag_append (view mem prframe) (view mem pnextrframe) := by
  let wlanhdr_offset := (pnextrframe.attrib.hdrlen + pnextrframe.attrib.iv_len) % 256
  let pnfhdr := (recvframe_pull pnextrframe wlanhdr_offset).getD pnextrframe
  have payload : view mem pnfhdr = _ := view_pull next wlanhdr_offset
  have pulled : view mem prframe.cut = _ := view_pull_tail first prframe.attrib.icv_len
  have put := @view_put mem prframe.cut first.cut (view mem pnfhdr).rx_data
  rw [show (view mem pnfhdr).rx_data.length = pnfhdr.len from Memory.length_read _ _ _, payload, pulled] at put
  unfold Rtl8821ce.defrag_append
  dsimp only
  rw [attrib_view, attrib_view, ← put, ← payload]
  rfl

/-- A buffer beside the bytes from `start` to `limit`. -/
def RecvFrameHdr.Beside (fragment : RecvFrameHdr) (start limit : Nat) : Prop :=
  fragment.rx_tail ≤ start ∨ limit ≤ fragment.rx_data

theorem view_append_of_beside {fragment : RecvFrameHdr} (first : prframe.Coherent) (next : pnextrframe.Coherent)
    (coherent : fragment.Coherent) (beside : fragment.Beside prframe.rx_data prframe.rx_end)
    (room : prframe.cut.rx_tail + pnextrframe.appended ≤ prframe.cut.rx_end) :
    view (defrag_append mem prframe pnextrframe).mem fragment = view mem fragment := by
  have data := first.cut.data
  have own := coherent.data
  rw [(cut_same prframe).1] at data
  rw [(cut_same prframe).2] at room
  unfold RecvFrameHdr.appended at room
  unfold RecvFrameHdr.Beside at beside
  have kept : Memory.read (defrag_append mem prframe pnextrframe).mem fragment.rx_data fragment.len =
      Memory.read mem fragment.rx_data fragment.len := by
    unfold defrag_append
    dsimp only
    rw [recvframe_pull_getD next]
    refine Memory.read_write_of_disjoint mem ?_
    rw [Memory.length_read, ← RecvFrameHdr.cut]
    dsimp only
    omega
  simp only [view, kept]

end

theorem defrag_loop_view {mem : Nat -> UInt8} {prframe : RecvFrameHdr} {curfragnum : Nat}
    {rest : List RecvFrameHdr} (first : prframe.Coherent) (others : ∀ fragment ∈ rest, fragment.Coherent)
    (beside : ∀ fragment ∈ rest, fragment.Beside prframe.rx_data prframe.rx_end)
    (room : Room (prframe.rx_end - prframe.rx_data) curfragnum prframe.len prframe.attrib.icv_len rest) :
    (defrag_loop curfragnum mem prframe rest).prtnframe.map (view (defrag_loop curfragnum mem prframe rest).mem) =
      Rtl8821ce.defrag_loop curfragnum (view mem prframe) (rest.map (view mem)) := by
  induction rest generalizing curfragnum mem prframe with
  | nil => rfl
  | cons pnextrframe rest ih =>
      have next := others pnextrframe List.mem_cons_self
      have later := fun fragment member => others fragment (List.mem_cons_of_mem pnextrframe member)
      rw [List.map_cons, defrag_loop, Rtl8821ce.defrag_loop, attrib_view]
      by_cases inOrder : curfragnum = pnextrframe.attrib.frag_num.val
      · rcases room inOrder with ⟨here, behind⟩
        have fits := (copy_room_iff first pnextrframe.appended).mpr here
        have prframe_after := defrag_append_prframe mem first next fits
        have same : rest.map (view (defrag_append mem prframe pnextrframe).mem) = rest.map (view mem) :=
          List.map_congr_left (fun fragment member => view_append_of_beside first next
            (later fragment member) (beside fragment (List.mem_cons_of_mem _ member)) fits)
        rw [if_neg (not_not.mpr inOrder), if_neg (not_not.mpr inOrder), ← view_append first next, ← same]
        dsimp only
        refine ih (defrag_append_coherent mem first next) later ?_ ?_
        · rw [prframe_after]
          exact fun fragment member => beside fragment (List.mem_cons_of_mem _ member)
        · rw [prframe_after, first.cut_len]
          exact behind
      · rw [if_pos inOrder, if_pos inOrder]
        rfl

/-- The fragments lie beside the buffer of the first one. -/
def BesideFirst : List RecvFrameHdr -> Prop
  | [] => True
  | prframe :: rest => ∀ fragment ∈ rest, fragment.Beside prframe.rx_data prframe.rx_end

theorem recvframe_defrag_view {mem : Nat -> UInt8} {defrag_q : List RecvFrameHdr}
    (coherent : ∀ fragment ∈ defrag_q, fragment.Coherent) (beside : BesideFirst defrag_q)
    (room : RoomFirst defrag_q) :
    (recvframe_defrag mem defrag_q).prtnframe.map (view (recvframe_defrag mem defrag_q).mem) =
      (Rtl8821ce.recvframe_defrag (defrag_q.map (view mem))).prtnframe := by
  cases defrag_q with
  | nil => rfl
  | cons prframe rest =>
      rw [List.map_cons, recvframe_defrag, Rtl8821ce.recvframe_defrag, attrib_view]
      by_cases zero : prframe.attrib.frag_num = 0
      · rw [if_neg (not_not.mpr zero), if_neg (not_not.mpr zero),
          defrag_loop_view (coherent prframe List.mem_cons_self)
            (fun fragment member => coherent fragment (List.mem_cons_of_mem _ member)) beside (room zero)]
        cases Rtl8821ce.defrag_loop 1 (view mem prframe) (rest.map (view mem)) <;> rfl
      · rw [if_pos zero, if_pos zero]
        rfl

theorem room_of_fitsBehind {mem : Nat -> UInt8} {capacity curfragnum len icv_len : Nat} {rest : List RecvFrameHdr}
    (used : len ≤ capacity) (icv : icv_len ≤ len) (whole : ∀ fragment ∈ rest, (view mem fragment).Whole)
    (fits : FitsBehind (capacity - len) icv_len (rest.map (view mem))) :
    Room capacity curfragnum len icv_len rest := by
  induction rest generalizing curfragnum len icv_len with
  | nil => trivial
  | cons pnextrframe rest ih =>
      intro _
      rcases whole pnextrframe List.mem_cons_self with ⟨byte, enough⟩
      rcases fits with ⟨here, behind⟩
      rw [RecvFrame.length_body] at here behind
      rw [len_view] at here behind enough
      rw [attrib_view] at here behind byte enough
      have offset : pnextrframe.appended = pnextrframe.len - (pnextrframe.attrib.hdrlen + pnextrframe.attrib.iv_len) := by
        rw [RecvFrameHdr.appended, Nat.mod_eq_of_lt byte, taken, if_neg (by omega)]
      rw [offset, taken, if_neg (by omega)]
      refine ⟨by omega, ih (by omega) (by omega)
        (fun fragment member => whole fragment (List.mem_cons_of_mem _ member)) ?_⟩
      have left : capacity - (len - icv_len + (pnextrframe.len -
          (pnextrframe.attrib.hdrlen + pnextrframe.attrib.iv_len))) =
          capacity - len + icv_len - (pnextrframe.len - (pnextrframe.attrib.hdrlen + pnextrframe.attrib.iv_len)) := by
        omega
      rw [left]
      exact behind

/-- Whole fragments whose bytes fit are joined in memory as they are joined as bytes. -/
theorem recvframe_defrag_view_of_fitsFirst {mem : Nat -> UInt8} {defrag_q : List RecvFrameHdr}
    (coherent : ∀ fragment ∈ defrag_q, fragment.Coherent) (beside : BesideFirst defrag_q)
    (whole : ∀ fragment ∈ defrag_q, (view mem fragment).Whole) (fits : FitsFirst (defrag_q.map (view mem))) :
    (recvframe_defrag mem defrag_q).prtnframe.map (view (recvframe_defrag mem defrag_q).mem) =
      (Rtl8821ce.recvframe_defrag (defrag_q.map (view mem))).prtnframe := by
  refine recvframe_defrag_view coherent beside ?_
  cases defrag_q with
  | nil => trivial
  | cons prframe rest =>
      intro _
      have first := coherent prframe List.mem_cons_self
      have data := first.data
      have tail := first.tail
      have enough := (whole prframe List.mem_cons_self).2
      rw [len_view, attrib_view] at enough
      have room : prframe.rx_end - prframe.rx_data - prframe.len = (view mem prframe).tailroom := by
        simp only [view]
        omega
      refine @room_of_fitsBehind mem _ _ _ _ _ (by omega) (by omega)
        (fun fragment member => whole fragment (List.mem_cons_of_mem _ member)) ?_
      rw [room]
      exact fits

theorem recvframe_defrag_view_two :
    let defrag_q := [test_fragment 0 64 30 0 true, test_fragment 64 64 27 1 false]
    (recvframe_defrag (fun _ => 9) defrag_q).prtnframe.map (view (recvframe_defrag (fun _ => 9) defrag_q).mem) =
      (Rtl8821ce.recvframe_defrag (defrag_q.map (view fun _ => 9))).prtnframe :=
  have first := @test_fragment_coherent 0 64 30 0 true (by decide) (by decide)
  have second := test_fragment_coherent 1 false (by decide) (by decide)
  recvframe_defrag_view_of_fitsFirst (List.forall_mem_cons.mpr ⟨first, List.forall_mem_singleton.mpr second⟩)
    (List.forall_mem_singleton.mpr (Or.inr (by decide))) (by decide) (by decide)

end Buffer
end Rtl8821ce
