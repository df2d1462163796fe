import Rtl8821ce.Library.Custody
import Rtl8821ce.Library.Ring
import Rtl8821ce.Library.Run

/-!
# Transmit rings

`rtl8821ce_dump_xframe` writes one buffer descriptor for each fragment of a
frame, links the `xmit_buf` of the frame into the queue of the ring, and tells
the hardware the new write index.  `rtl8821ce_tx_isr` follows the read index of
the hardware and frees the buffers at the head of the queue.  An `xmit_buf` has
one list node: linking it once more moves it, and does not link it twice.

Both functions hold `irq_th_lock`, the first one for each fragment, the second
one for all turns of its loop.  The model takes each fragment and each turn as a
step of its own, so other steps may come between two turns as well.
-/

namespace Rtl8821ce

variable {pxmitbuf : XmitBuf} {which : Nat}

/-- Which pool an `xmit_buf` belongs to. -/
inductive XmitbufTag
  | XMITBUF_DATA
  | XMITBUF_MGNT
  | XMITBUF_CMD
  deriving DecidableEq

/-- `struct xmit_buf`. -/
structure XmitBuf where
  no : Nat
  buf_tag : XmitbufTag
  deriving DecidableEq

/-- `struct rtw_tx_ring`.  `buf_desc` says whose address a descriptor holds. -/
structure TxRing where
  buf_desc : Nat -> Option XmitBuf
  idx : Nat
  entries : Nat
  queue : List XmitBuf
  qlen : Nat
  hw_rp_cache : Nat

def rtl8821ce_enqueue_xmitbuf (ring : TxRing) (pxmitbuf : XmitBuf) : TxRing :=
  { ring with
    queue := ring.queue.erase pxmitbuf ++ [pxmitbuf]
    qlen := ring.qlen + 1 }

def rtl8821ce_dequeue_xmitbuf (ring : TxRing) : Option XmitBuf × TxRing :=
  match ring.queue with
  | [] => (none, ring)
  | pxmitbuf :: rest => (some pxmitbuf, { ring with queue := rest, qlen := ring.qlen - 1 })

/-- The number of a free descriptor.  The last one is never used. -/
def get_txbd (ring : TxRing) : Option Nat :=
  if ring.qlen = ring.entries - 1 then none
  else some ((ring.idx + ring.qlen) % ring.entries)

/-- The write index that is handed to the hardware, a 16 bit register. -/
def fill_txbd_own (ring : TxRing) : Nat :=
  (ring.idx + ring.qlen) % ring.entries % 2 ^ 16

/-- Whether the descriptor at `idx` is done with.  `hw_rp` is the read index of
the hardware; the code takes 12 bits of its register. -/
def rtl8821ce_check_txdesc_closed (ring : TxRing) (hw_rp : Nat) : Bool × TxRing :=
  if ring.qlen = 0 then (false, ring)
  else
    let synced :=
      if ring.idx = ring.hw_rp_cache then { ring with hw_rp_cache := hw_rp % 2 ^ 12 } else ring
    (synced.idx != synced.hw_rp_cache, synced)

/-- A call of `rtl8821ce_dump_xframe` in its loop over the fragments. -/
structure DumpCall where
  pxmitbuf : XmitBuf
  nr_frags : Nat
  t : Nat
  deriving DecidableEq

/-- A ring with what surrounds it: the two indices of the hardware, the buffers
that are free or with the callers of `rtl8821ce_dump_xframe`, and the buffers
that were handed over and that were freed so far. -/
structure TxState where
  ring : TxRing
  host_wp : Nat
  hw_rp : Nat
  free_xmitbuf_queue : List XmitBuf
  pending : List XmitBuf
  calls : List DumpCall
  handed : List XmitBuf
  freed : List XmitBuf

def rtw_free_xmitbuf (s : TxState) (pxmitbuf : XmitBuf) : TxState :=
  if pxmitbuf.buf_tag = .XMITBUF_CMD then s
  else
    { s with
      ring := { s.ring with queue := s.ring.queue.erase pxmitbuf }
      free_xmitbuf_queue := s.free_xmitbuf_queue.erase pxmitbuf ++ [pxmitbuf]
      freed := s.freed ++ [pxmitbuf] }

/-- What happens around a ring. -/
inductive TxEvent
  /-- A caller takes a free buffer. -/
  | rtw_alloc_xmitbuf (which : Nat)
  /-- A caller hands one of its buffers over. -/
  | rtl8821ce_dump_xframe (which nr_frags : Nat)
  /-- One pass of the loop of `rtl8821ce_dump_xframe`, in one of the calls. -/
  | fragment (which : Nat)
  /-- One turn of the loop of `rtl8821ce_tx_isr`. -/
  | rtl8821ce_tx_isr
  /-- The hardware reads a descriptor. -/
  | hardware

/-- The loop body of `rtl8821ce_dump_xframe`. -/
def dump_fragment (s : TxState) (which : Nat) (call : DumpCall) : TxState :=
  match get_txbd s.ring with
  | none => { rtw_free_xmitbuf s call.pxmitbuf with calls := s.calls.eraseIdx which }
  | some txbd =>
      let described :=
        { s.ring with buf_desc := Function.update s.ring.buf_desc txbd (some call.pxmitbuf) }
      let linked := call.pxmitbuf.buf_tag ≠ .XMITBUF_CMD
      let ring := if linked then rtl8821ce_enqueue_xmitbuf described call.pxmitbuf else described
      { s with
        ring := ring
        host_wp := fill_txbd_own ring
        free_xmitbuf_queue :=
          if linked then s.free_xmitbuf_queue.erase call.pxmitbuf else s.free_xmitbuf_queue
        calls :=
          if call.t + 1 < call.nr_frags then s.calls.set which { call with t := call.t + 1 }
          else s.calls.eraseIdx which }

/-- The loop body of `rtl8821ce_tx_isr`. -/
def tx_isr_turn (s : TxState) : TxState :=
  if s.ring.qlen = 0 then s
  else
    let closed := rtl8821ce_check_txdesc_closed s.ring s.hw_rp
    if closed.1 then
      let next := { closed.2 with idx := (closed.2.idx + 1) % closed.2.entries }
      match rtl8821ce_dequeue_xmitbuf next with
      | (none, ring) => { s with ring := ring }
      | (some pxmitbuf, ring) => rtw_free_xmitbuf { s with ring := ring } pxmitbuf
    else { s with ring := closed.2 }

def TxState.step (s : TxState) : TxEvent -> TxState
  | .rtw_alloc_xmitbuf which =>
      match s.free_xmitbuf_queue[which]? with
      | none => s
      | some pxmitbuf =>
          { s with
            free_xmitbuf_queue := s.free_xmitbuf_queue.eraseIdx which
            pending := s.pending ++ [pxmitbuf] }
  | .rtl8821ce_dump_xframe which nr_frags =>
      match s.pending[which]? with
      | none => s
      | some pxmitbuf =>
          { s with
            pending := s.pending.eraseIdx which
            calls := if 0 < nr_frags then s.calls ++ [⟨pxmitbuf, nr_frags, 0⟩] else s.calls
            handed := s.handed ++ [pxmitbuf] }
  | .fragment which =>
      match s.calls[which]? with
      | none => s
      | some call => dump_fragment s which call
  | .rtl8821ce_tx_isr => tx_isr_turn s
  | .hardware =>
      if s.hw_rp = s.host_wp then s else { s with hw_rp := (s.hw_rp + 1) % s.ring.entries }

/-- A ring and a pool of buffers before the first frame. -/
def TxState.initial (entries : Nat) (pool : List XmitBuf) : TxState where
  ring :=
    { buf_desc := fun _ => none
      idx := 0
      entries := entries
      queue := []
      qlen := 0
      hw_rp_cache := 0 }
  host_wp := 0
  hw_rp := 0
  free_xmitbuf_queue := pool
  pending := []
  calls := []
  handed := []
  freed := []

/-- The hardware has yet to read a descriptor of a buffer. -/
def TxState.Awaits (s : TxState) (pxmitbuf : XmitBuf) : Prop :=
  ∃ k, k < (s.host_wp + s.ring.entries - s.hw_rp) % s.ring.entries ∧
    s.ring.buf_desc (Ring.place s.ring.entries s.hw_rp k) = some pxmitbuf

/-- How often a buffer is with `rtl8821ce_dump_xframe` or in the ring. -/
def TxState.held (s : TxState) (pxmitbuf : XmitBuf) : Nat :=
  (s.calls.map (fun call => call.pxmitbuf)).count pxmitbuf + s.ring.queue.count pxmitbuf

/-- The hardware reads all descriptors, and the interrupt handler follows it. -/
def TxState.drain (s : TxState) : TxState :=
  Run.execute TxState.step s
    (List.replicate ((s.host_wp + s.ring.entries - s.hw_rp) % s.ring.entries) .hardware ++
      List.replicate s.ring.qlen .rtl8821ce_tx_isr)

/-- What a ring promises at any moment. -/
structure TxRingSound (s : TxState) : Prop where
  linked : s.ring.qlen = s.ring.queue.length
  bounded : s.ring.qlen ≤ s.ring.entries - 1
  told : s.host_wp = (s.ring.idx + s.ring.qlen) % s.ring.entries
  unused : ∀ txbd, get_txbd s.ring = some txbd -> ∀ k, k < s.ring.qlen ->
    txbd ≠ (s.ring.idx + k) % s.ring.entries
  once : ∀ pxmitbuf,
    s.handed.count pxmitbuf = s.freed.count pxmitbuf + s.held pxmitbuf ∧ s.held pxmitbuf ≤ 1
  notEarly : ∀ pxmitbuf, s.Awaits pxmitbuf ->
    s.handed.count pxmitbuf = s.freed.count pxmitbuf + 1
  notLost : s.calls = [] -> ∀ pxmitbuf,
    s.drain.freed.count pxmitbuf = s.handed.count pxmitbuf

/-- A frame has one fragment, or it has more and finds the ring full with its first. -/
def OneDescriptor (s : TxState) : TxEvent -> Prop
  | .rtl8821ce_dump_xframe _ nr_frags => 0 < nr_frags
  | .fragment which =>
      ∀ call, s.calls[which]? = some call -> call.nr_frags = 1 ∨ s.ring.qlen = s.ring.entries - 1
  | _ => True

def TxState.dumping (s : TxState) : List XmitBuf := s.calls.map (fun call => call.pxmitbuf)

/-- Every buffer is at one place, and the descriptors from `idx` on belong to
the linked buffers, in order.  The read index of the hardware and its cached copy
follow `idx` at offsets `passed` and `seen`. -/
structure TxInvariant (pool : List XmitBuf) (s : TxState) : Prop where
  wide : 2 ≤ s.ring.entries ∧ s.ring.entries ≤ 2 ^ 12
  custody : ∀ pxmitbuf,
    s.free_xmitbuf_queue.count pxmitbuf + s.pending.count pxmitbuf + s.dumping.count pxmitbuf +
      s.ring.queue.count pxmitbuf = pool.count pxmitbuf
  fresh : ∀ call ∈ s.calls, call.t = 0
  linked : s.ring.qlen = s.ring.queue.length
  room : s.ring.qlen < s.ring.entries
  inside : s.ring.idx < s.ring.entries
  told : s.host_wp = Ring.place s.ring.entries s.ring.idx s.ring.qlen
  read : ∃ passed seen, seen ≤ passed ∧ passed ≤ s.ring.qlen ∧
    s.hw_rp = Ring.place s.ring.entries s.ring.idx passed ∧
    s.ring.hw_rp_cache = Ring.place s.ring.entries s.ring.idx seen
  described : ∀ k pxmitbuf, s.ring.queue[k]? = some pxmitbuf ->
    s.ring.buf_desc (Ring.place s.ring.entries s.ring.idx k) = some pxmitbuf
  once : ∀ pxmitbuf,
    s.handed.count pxmitbuf =
      s.freed.count pxmitbuf + (s.dumping.count pxmitbuf + s.ring.queue.count pxmitbuf)

section

variable {pool : List XmitBuf} {s : TxState}

theorem TxInvariant.held_le_one (sound : TxInvariant pool s) (distinct : pool.Nodup)
    (pxmitbuf : XmitBuf) : s.held pxmitbuf ≤ 1 := by
  have total := sound.custody pxmitbuf
  have single := List.nodup_iff_count_le_one.mp distinct pxmitbuf
  have same : s.held pxmitbuf = s.dumping.count pxmitbuf + s.ring.queue.count pxmitbuf := rfl
  omega

theorem TxInvariant.linked_of_awaits (sound : TxInvariant pool s)
    (awaits : s.Awaits pxmitbuf) : pxmitbuf ∈ s.ring.queue := by
  rcases awaits with ⟨k, unread, described⟩
  rcases sound.read with ⟨passed, seen, -, behind, read, -⟩
  rw [sound.told, read, Ring.distance behind sound.room] at unread
  have inside : passed + k < s.ring.queue.length := by
    rw [← sound.linked]
    omega
  have found := sound.described (passed + k) _ (List.getElem?_eq_getElem inside)
  rw [read, Ring.place_place, found] at described
  rw [← Option.some.inj described]
  exact List.getElem_mem inside

theorem TxInvariant.initial {entries : Nat} (wide : 2 ≤ entries ∧ entries ≤ 2 ^ 12)
    (pool : List XmitBuf) : TxInvariant pool (TxState.initial entries pool) where
  wide := wide
  custody := fun _ => rfl
  fresh := fun _ absent => nomatch absent
  linked := rfl
  room := by
    have positive := wide.1
    show 0 < entries
    omega
  inside := by
    have positive := wide.1
    show 0 < entries
    omega
  told := (Nat.zero_mod entries).symm
  read := ⟨0, 0, Nat.le_refl 0, Nat.le_refl 0, (Nat.zero_mod entries).symm,
    (Nat.zero_mod entries).symm⟩
  described := fun _ _ absent => nomatch absent
  once := fun _ => rfl

/-! ## What an event changes -/

theorem TxInvariant.alloc (sound : TxInvariant pool s) (which : Nat) :
    TxInvariant pool (s.step (.rtw_alloc_xmitbuf which)) := by
  dsimp only [TxState.step]
  split
  case h_1 => exact sound
  case h_2 taken found =>
    refine { sound with custody := ?_ }
    intro pxmitbuf
    have total := sound.custody pxmitbuf
    have moved := Custody.count_eraseIdx found pxmitbuf
    dsimp only [TxState.dumping] at total ⊢
    rw [List.count_append]
    omega

theorem TxInvariant.dump (sound : TxInvariant pool s) (which nr_frags : Nat) (some_frag : 0 < nr_frags) :
    TxInvariant pool (s.step (.rtl8821ce_dump_xframe which nr_frags)) := by
  dsimp only [TxState.step]
  split
  case h_1 => exact sound
  case h_2 taken found =>
    rw [if_pos some_frag]
    refine { sound with custody := ?_, fresh := ?_, once := ?_ }
    · intro pxmitbuf
      have total := sound.custody pxmitbuf
      have moved := Custody.count_eraseIdx found pxmitbuf
      dsimp only [TxState.dumping] at total ⊢
      rw [List.map_append, List.count_append, List.map_singleton]
      dsimp only
      omega
    · intro call member
      rcases List.mem_append.mp member with before | last
      · exact sound.fresh call before
      · rw [List.mem_singleton.mp last]
    · intro pxmitbuf
      have balance := sound.once pxmitbuf
      dsimp only [TxState.dumping] at balance ⊢
      rw [List.map_append, List.count_append, List.count_append, List.map_singleton]
      dsimp only
      omega

theorem TxInvariant.of_call (sound : TxInvariant pool s) (distinct : pool.Nodup)
    (linkable : ∀ pxmitbuf ∈ pool, pxmitbuf.buf_tag ≠ .XMITBUF_CMD) {call : DumpCall} (found : s.calls[which]? = some call) :
    call.pxmitbuf ∉ s.ring.queue ∧ call.pxmitbuf ∉ s.free_xmitbuf_queue ∧
      call.pxmitbuf.buf_tag ≠ .XMITBUF_CMD := by
  have total := sound.custody call.pxmitbuf
  have single := List.nodup_iff_count_le_one.mp distinct call.pxmitbuf
  have member : call.pxmitbuf ∈ s.dumping := List.mem_map.mpr ⟨call, List.mem_of_getElem? found, rfl⟩
  have counted := List.count_pos_iff.mpr member
  have pooled : 0 < pool.count call.pxmitbuf := by omega
  refine ⟨?_, ?_, linkable _ (List.count_pos_iff.mp pooled)⟩
  · exact List.count_eq_zero.mp (by omega)
  · exact List.count_eq_zero.mp (by omega)

theorem count_dumping {call : DumpCall} (found : s.calls[which]? = some call) (pxmitbuf : XmitBuf) :
    ((s.calls.eraseIdx which).map (fun call => call.pxmitbuf)).count pxmitbuf +
      [call.pxmitbuf].count pxmitbuf = s.dumping.count pxmitbuf := by
  have mapped : (s.calls.map (fun call => call.pxmitbuf))[which]? = some call.pxmitbuf := by
    rw [List.getElem?_map, found]
    rfl
  rw [← List.eraseIdx_map]
  exact Custody.count_eraseIdx mapped pxmitbuf

theorem TxInvariant.described_linked (sound : TxInvariant pool s) (pxmitbuf : XmitBuf) (k : Nat)
    (other : XmitBuf) (there : (s.ring.queue ++ [pxmitbuf])[k]? = some other) :
    Function.update s.ring.buf_desc (Ring.place s.ring.entries s.ring.idx s.ring.qlen) (some pxmitbuf)
      (Ring.place s.ring.entries s.ring.idx k) = some other := by
  have room := sound.room
  rw [List.getElem?_append, ← sound.linked] at there
  split at there
  case isTrue below =>
    have elsewhere : Ring.place s.ring.entries s.ring.idx k ≠
        Ring.place s.ring.entries s.ring.idx s.ring.qlen := fun same =>
      Nat.ne_of_lt below (Ring.place_injective (Nat.lt_trans below room) room same)
    exact (Function.update_of_ne elsewhere _ _).trans (sound.described k other there)
  case isFalse behindAll =>
    have here : k = s.ring.qlen := by
      have inside := (List.getElem?_eq_some_iff.mp there).1
      rw [List.length_singleton] at inside
      omega
    rw [here, Nat.sub_self, List.getElem?_cons_zero] at there
    rw [here, ← there]
    exact Function.update_self _ _ _

theorem TxInvariant.fragment_full (sound : TxInvariant pool s) (distinct : pool.Nodup)
    (linkable : ∀ pxmitbuf ∈ pool, pxmitbuf.buf_tag ≠ .XMITBUF_CMD)
    {call : DumpCall} (found : s.calls[which]? = some call)
    (full : s.ring.qlen = s.ring.entries - 1) : TxInvariant pool (dump_fragment s which call) := by
  rcases sound.of_call distinct linkable found with ⟨unlinked, notFree, tagged⟩
  have kept : ∀ other ∈ s.calls.eraseIdx which, other.t = 0 :=
    fun other member => sound.fresh other (List.mem_of_mem_eraseIdx member)
  unfold dump_fragment get_txbd
  rw [if_pos full]
  dsimp only [rtw_free_xmitbuf]
  rw [if_neg tagged, List.erase_of_not_mem unlinked, List.erase_of_not_mem notFree]
  refine { sound with custody := ?_, fresh := kept, once := ?_ }
  · intro pxmitbuf
    have total := sound.custody pxmitbuf
    have removed := count_dumping found pxmitbuf
    dsimp only [TxState.dumping] at total removed ⊢
    rw [List.count_append]
    omega
  · intro pxmitbuf
    have balance := sound.once pxmitbuf
    have removed := count_dumping found pxmitbuf
    dsimp only [TxState.dumping] at balance removed ⊢
    rw [List.count_append]
    omega

theorem TxInvariant.fragment_linked (sound : TxInvariant pool s) (distinct : pool.Nodup)
    (linkable : ∀ pxmitbuf ∈ pool, pxmitbuf.buf_tag ≠ .XMITBUF_CMD)
    {call : DumpCall} (found : s.calls[which]? = some call)
    (free : s.ring.qlen ≠ s.ring.entries - 1) (single : call.nr_frags = 1) :
    TxInvariant pool (dump_fragment s which call) := by
  rcases sound.of_call distinct linkable found with ⟨unlinked, notFree, tagged⟩
  have kept : ∀ other ∈ s.calls.eraseIdx which, other.t = 0 :=
    fun other member => sound.fresh other (List.mem_of_mem_eraseIdx member)
  have before := sound.fresh call (List.mem_of_getElem? found)
  have last : ¬ call.t + 1 < call.nr_frags := by omega
  have room := sound.room
  rcases sound.read with ⟨passed, seen, ordered, behind, read, cached⟩
  unfold dump_fragment get_txbd
  rw [if_neg free]
  dsimp only
  rw [if_pos tagged, if_pos tagged, if_neg last, List.erase_of_not_mem notFree]
  dsimp only [rtl8821ce_enqueue_xmitbuf]
  rw [List.erase_of_not_mem unlinked]
  refine
    { wide := sound.wide, custody := ?_, fresh := kept, linked := ?_, room := ?_,
      inside := sound.inside, told := ?_,
      read := ⟨passed, seen, ordered, Nat.le_succ_of_le behind, read, cached⟩,
      described := sound.described_linked call.pxmitbuf, once := ?_ }
  · intro pxmitbuf
    have total := sound.custody pxmitbuf
    have removed := count_dumping found pxmitbuf
    dsimp only [TxState.dumping] at total removed ⊢
    rw [List.count_append]
    omega
  · dsimp only
    rw [List.length_append, List.length_singleton, sound.linked]
  · dsimp only
    omega
  · dsimp only [fill_txbd_own]
    have below := Ring.place_lt (Nat.zero_lt_of_lt sound.inside) s.ring.idx (s.ring.qlen + 1)
    have wide := sound.wide.2
    exact Nat.mod_eq_of_lt (Nat.lt_of_lt_of_le below (Nat.le_trans wide (by decide)))
  · intro pxmitbuf
    have balance := sound.once pxmitbuf
    have removed := count_dumping found pxmitbuf
    dsimp only [TxState.dumping] at balance removed ⊢
    rw [List.count_append]
    omega

theorem TxInvariant.fragment (sound : TxInvariant pool s) (distinct : pool.Nodup)
    (linkable : ∀ pxmitbuf ∈ pool, pxmitbuf.buf_tag ≠ .XMITBUF_CMD) (which : Nat)
    (one : OneDescriptor s (.fragment which)) : TxInvariant pool (s.step (.fragment which)) := by
  dsimp only [TxState.step]
  split
  case h_1 => exact sound
  case h_2 call found =>
    by_cases full : s.ring.qlen = s.ring.entries - 1
    · exact sound.fragment_full distinct linkable found full
    · exact sound.fragment_linked distinct linkable found full ((one call found).resolve_right full)

theorem TxInvariant.closed (sound : TxInvariant pool s) (waiting : s.ring.qlen ≠ 0) :
    ∃ passed seen, seen ≤ passed ∧ passed ≤ s.ring.qlen ∧
      (seen = 0 -> passed = 0) ∧ s.hw_rp = Ring.place s.ring.entries s.ring.idx passed ∧
      rtl8821ce_check_txdesc_closed s.ring s.hw_rp =
        (seen != 0,
          { s.ring with hw_rp_cache := Ring.place s.ring.entries s.ring.idx seen }) := by
  rcases sound.read with ⟨passed, seen, ordered, behind, read, cached⟩
  have room := sound.room
  have here : Ring.place s.ring.entries s.ring.idx 0 = s.ring.idx := Nat.mod_eq_of_lt sound.inside
  -- an index is that of `idx` only at offset 0, as the ring is never full
  have apart : ∀ offset, offset ≤ s.ring.qlen ->
      (s.ring.idx != Ring.place s.ring.entries s.ring.idx offset) = (offset != 0) := by
    intro offset below
    have same : s.ring.idx = Ring.place s.ring.entries s.ring.idx offset <-> offset = 0 := by
      constructor
      · intro same
        rw [← here] at same
        rw [Ring.place_place, Nat.zero_add] at same
        exact (Ring.place_injective (by omega) (by omega) same).symm
      · intro zero
        rw [zero, here]
    rw [Bool.eq_iff_iff, bne_iff_ne, bne_iff_ne]
    exact not_congr same
  have narrow : s.hw_rp % 2 ^ 12 = s.hw_rp := by
    rw [read]
    have below := Ring.place_lt (Nat.zero_lt_of_lt sound.inside) s.ring.idx passed
    exact Nat.mod_eq_of_lt (Nat.lt_of_lt_of_le below sound.wide.2)
  unfold rtl8821ce_check_txdesc_closed
  rw [if_neg waiting]
  by_cases stale : s.ring.idx = s.ring.hw_rp_cache
  · refine ⟨passed, passed, Nat.le_refl passed, behind, id, read, ?_⟩
    rw [if_pos stale, narrow, read]
    dsimp only
    rw [apart passed behind]
  · have moved : seen ≠ 0 := fun zero => stale (by rw [cached, zero, here])
    refine ⟨passed, seen, ordered, behind, fun zero => absurd zero moved, read, ?_⟩
    rw [if_neg stale]
    dsimp only
    rw [cached, apart seen (Nat.le_trans ordered behind), ← cached]

theorem TxInvariant.of_linked (sound : TxInvariant pool s) (distinct : pool.Nodup)
    (linkable : ∀ pxmitbuf ∈ pool, pxmitbuf.buf_tag ≠ .XMITBUF_CMD) {rest : List XmitBuf} (queued : s.ring.queue = pxmitbuf :: rest) :
    pxmitbuf ∉ rest ∧ pxmitbuf ∉ s.free_xmitbuf_queue ∧ pxmitbuf.buf_tag ≠ .XMITBUF_CMD := by
  have total := sound.custody pxmitbuf
  have single := List.nodup_iff_count_le_one.mp distinct pxmitbuf
  rw [queued, List.count_cons_self] at total
  have pooled : 0 < pool.count pxmitbuf := by omega
  refine ⟨?_, ?_, linkable _ (List.count_pos_iff.mp pooled)⟩
  · exact List.count_eq_zero.mp (by omega)
  · exact List.count_eq_zero.mp (by omega)

/-- The buffer of a descriptor that the hardware has read is freed, and the next descriptor
is the first one. -/
theorem TxInvariant.isr_freed (sound : TxInvariant pool s)
    {rest : List XmitBuf} (queued : s.ring.queue = pxmitbuf :: rest) {passed seen : Nat}
    (ordered : seen ≤ passed) (behind : passed ≤ s.ring.qlen)
    (read : s.hw_rp = Ring.place s.ring.entries s.ring.idx passed) (some_read : seen ≠ 0) :
    TxInvariant pool
      { s with
        ring :=
          { s.ring with
            idx := Ring.place s.ring.entries s.ring.idx 1
            queue := rest
            qlen := s.ring.qlen - 1
            hw_rp_cache := Ring.place s.ring.entries s.ring.idx seen }
        free_xmitbuf_queue := s.free_xmitbuf_queue ++ [pxmitbuf]
        freed := s.freed ++ [pxmitbuf] } := by
  have next : ∀ {offset : Nat}, offset ≠ 0 -> Ring.place s.ring.entries s.ring.idx offset =
      Ring.place s.ring.entries (Ring.place s.ring.entries s.ring.idx 1) (offset - 1) :=
    fun positive => Ring.place_next _ _ positive
  have linked := sound.linked
  rw [queued, List.length_cons] at linked
  have room := sound.room
  refine
    { wide := sound.wide, custody := ?_, fresh := sound.fresh, linked := ?_, room := ?_,
      inside := Ring.place_lt (Nat.zero_lt_of_lt sound.inside) _ _, told := ?_,
      read := ⟨passed - 1, seen - 1, Nat.sub_le_sub_right ordered 1,
        Nat.sub_le_sub_right behind 1, ?_, next some_read⟩,
      described := ?_, once := ?_ }
  · intro other
    have total := sound.custody other
    rw [queued, Custody.count_cons] at total
    dsimp only [TxState.dumping] at total ⊢
    rw [List.count_append]
    omega
  · dsimp only
    omega
  · dsimp only
    omega
  · exact sound.told.trans (next (by omega))
  · exact read.trans (next (by omega))
  · intro k other there
    have later := sound.described (k + 1) other
    rw [queued, List.getElem?_cons_succ, next (Nat.succ_ne_zero k)] at later
    exact later there
  · intro other
    have balance := sound.once other
    rw [queued, Custody.count_cons] at balance
    dsimp only [TxState.dumping] at balance ⊢
    rw [List.count_append]
    omega

theorem TxInvariant.isr (sound : TxInvariant pool s) (distinct : pool.Nodup)
    (linkable : ∀ pxmitbuf ∈ pool, pxmitbuf.buf_tag ≠ .XMITBUF_CMD) :
    TxInvariant pool (s.step .rtl8821ce_tx_isr) := by
  show TxInvariant pool (tx_isr_turn s)
  unfold tx_isr_turn
  by_cases waiting : s.ring.qlen = 0
  · rw [if_pos waiting]
    exact sound
  · rw [if_neg waiting]
    rcases sound.closed waiting with ⟨passed, seen, ordered, behind, -, read, checked⟩
    rw [checked]
    dsimp only
    by_cases none_read : seen = 0
    · rw [none_read]
      exact
        { sound with read := ⟨passed, 0, Nat.zero_le passed, behind, read, rfl⟩ }
    · rw [if_pos (bne_iff_ne.mpr none_read)]
      cases queued : s.ring.queue with
      | nil =>
          have linked := sound.linked
          rw [queued] at linked
          exact absurd linked waiting
      | cons pxmitbuf rest =>
          rcases sound.of_linked distinct linkable queued with ⟨once, notFree, tagged⟩
          dsimp only [rtl8821ce_dequeue_xmitbuf, rtw_free_xmitbuf]
          rw [if_neg tagged, List.erase_of_not_mem once, List.erase_of_not_mem notFree]
          exact sound.isr_freed queued ordered behind read none_read

theorem TxInvariant.hardware (sound : TxInvariant pool s) : TxInvariant pool (s.step .hardware) := by
  dsimp only [TxState.step]
  split
  case isTrue idle => exact sound
  case isFalse busy =>
    rcases sound.read with ⟨passed, seen, ordered, behind, read, cached⟩
    have left : passed ≠ s.ring.qlen := fun all => busy (by rw [read, all, sound.told])
    refine
      { sound with
        read := ⟨passed + 1, seen, Nat.le_succ_of_le ordered, Nat.lt_of_le_of_ne behind left, ?_,
          cached⟩ }
    dsimp only
    rw [read]
    exact Ring.place_place s.ring.entries s.ring.idx passed 1

theorem TxInvariant.step (distinct : pool.Nodup)
    (linkable : ∀ pxmitbuf ∈ pool, pxmitbuf.buf_tag ≠ .XMITBUF_CMD) (s : TxState)
    (event : TxEvent) (one : OneDescriptor s event) (sound : TxInvariant pool s) :
    TxInvariant pool (s.step event) := by
  cases event with
  | rtw_alloc_xmitbuf which => exact sound.alloc which
  | rtl8821ce_dump_xframe which nr_frags => exact sound.dump which nr_frags one
  | fragment which => exact sound.fragment distinct linkable which one
  | rtl8821ce_tx_isr => exact sound.isr distinct linkable
  | hardware => exact sound.hardware

theorem TxInvariant.run (distinct : pool.Nodup) (linkable : ∀ pxmitbuf ∈ pool, pxmitbuf.buf_tag ≠ .XMITBUF_CMD)
    {events : List TxEvent} (ones : Run.Guarded TxState.step OneDescriptor s events)
    (sound : TxInvariant pool s) : TxInvariant pool (Run.execute TxState.step s events) :=
  ones.invariant (fun s event => TxInvariant.step distinct linkable s event) sound

theorem TxInvariant.hardware_all (sound : TxInvariant pool s) {left : Nat}
    (unread : (s.host_wp + s.ring.entries - s.hw_rp) % s.ring.entries = left) :
    Run.execute TxState.step s (List.replicate left .hardware) = { s with hw_rp := s.host_wp } := by
  induction left generalizing s with
  | zero =>
      rcases sound.read with ⟨passed, seen, -, behind, read, -⟩
      rw [sound.told, read, Ring.distance behind sound.room] at unread
      have all : passed = s.ring.qlen := by omega
      rw [all, ← sound.told] at read
      exact congrArg (fun index => { s with hw_rp := index }) read
  | succ left ih =>
      rcases sound.read with ⟨passed, seen, -, behind, read, -⟩
      have room := sound.room
      rw [sound.told, read, Ring.distance behind room] at unread
      have busy : s.hw_rp ≠ s.host_wp := by
        rw [sound.told, read]
        intro same
        have offsets := Ring.place_injective (by omega) room same
        omega
      have stepped : s.step .hardware = { s with hw_rp := (s.hw_rp + 1) % s.ring.entries } := if_neg busy
      have next := ih sound.hardware
      rw [stepped] at next
      rw [List.replicate_succ, Run.execute_cons, stepped]
      refine next ?_
      have forward := Ring.place_place s.ring.entries s.ring.idx passed 1
      have remaining := @Ring.distance s.ring.entries s.ring.idx (passed + 1) s.ring.qlen (by omega) room
      dsimp only
      rw [read, sound.told]
      rw [← forward] at remaining
      exact remaining.trans (by omega)

theorem TxInvariant.isr_frees (sound : TxInvariant pool s)
    (linkable : ∀ pxmitbuf ∈ pool, pxmitbuf.buf_tag ≠ .XMITBUF_CMD)
    (done : s.hw_rp = s.host_wp) {left : Nat} (waiting : s.ring.qlen = left + 1) :
    (s.step .rtl8821ce_tx_isr).ring.qlen = left ∧
      (s.step .rtl8821ce_tx_isr).hw_rp = (s.step .rtl8821ce_tx_isr).host_wp ∧
      (s.step .rtl8821ce_tx_isr).calls = s.calls ∧
      (s.step .rtl8821ce_tx_isr).handed = s.handed := by
  have some_waiting : s.ring.qlen ≠ 0 := by omega
  rcases sound.closed some_waiting with ⟨passed, seen, -, behind, moved, read, checked⟩
  have room := sound.room
  rw [done, sound.told] at read
  have all := Ring.place_injective room (by omega) read
  have closed : seen ≠ 0 := fun zero => some_waiting (all.trans (moved zero))
  have linked := sound.linked
  cases queued : s.ring.queue with
  | nil =>
      rw [queued] at linked
      exact absurd linked some_waiting
  | cons pxmitbuf rest =>
      have total := sound.custody pxmitbuf
      rw [queued, List.count_cons_self] at total
      have pooled : 0 < pool.count pxmitbuf := by omega
      have tagged := linkable pxmitbuf (List.count_pos_iff.mp pooled)
      dsimp only [TxState.step]
      unfold tx_isr_turn
      rw [if_neg some_waiting, checked]
      dsimp only
      rw [if_pos (bne_iff_ne.mpr closed), queued]
      dsimp only [rtl8821ce_dequeue_xmitbuf, rtw_free_xmitbuf]
      rw [if_neg tagged]
      refine ⟨?_, done, rfl, rfl⟩
      dsimp only
      omega

theorem TxInvariant.isr_all (sound : TxInvariant pool s) (distinct : pool.Nodup)
    (linkable : ∀ pxmitbuf ∈ pool, pxmitbuf.buf_tag ≠ .XMITBUF_CMD)
    (done : s.hw_rp = s.host_wp) {left : Nat} (waiting : s.ring.qlen = left) :
    (Run.execute TxState.step s (List.replicate left .rtl8821ce_tx_isr)).ring.qlen = 0 ∧
      (Run.execute TxState.step s (List.replicate left .rtl8821ce_tx_isr)).calls = s.calls ∧
      (Run.execute TxState.step s (List.replicate left .rtl8821ce_tx_isr)).handed = s.handed := by
  induction left generalizing s with
  | zero => exact ⟨waiting, rfl, rfl⟩
  | succ left ih =>
      rcases sound.isr_frees linkable done waiting with ⟨fewer, still, calls, handed⟩
      rcases ih (sound.isr distinct linkable) still fewer with ⟨empty, sameCalls, sameHanded⟩
      exact ⟨empty, sameCalls.trans calls, sameHanded.trans handed⟩

theorem TxInvariant.drained (sound : TxInvariant pool s) (distinct : pool.Nodup)
    (linkable : ∀ pxmitbuf ∈ pool, pxmitbuf.buf_tag ≠ .XMITBUF_CMD) (returned : s.calls = []) (pxmitbuf : XmitBuf) :
    s.drain.freed.count pxmitbuf = s.handed.count pxmitbuf := by
  have readAll := sound.hardware_all rfl
  have idle : Run.Guarded TxState.step OneDescriptor s
      (List.replicate ((s.host_wp + s.ring.entries - s.hw_rp) % s.ring.entries) .hardware) := by
    generalize (s.host_wp + s.ring.entries - s.hw_rp) % s.ring.entries = left
    clear readAll returned sound
    induction left generalizing s with
    | zero => trivial
    | succ left ih => exact ⟨trivial, ih⟩
  have reached := sound.run distinct linkable idle
  rw [readAll] at reached
  have finished := reached.isr_all distinct linkable rfl rfl
  have turns : ∀ (left : Nat) (t : TxState), TxInvariant pool t ->
      TxInvariant pool (Run.execute TxState.step t (List.replicate left .rtl8821ce_tx_isr)) := by
    intro left
    induction left with
    | zero => exact fun t kept => kept
    | succ left ih =>
        exact fun t kept => ih _ (kept.isr distinct linkable)
  have last := turns s.ring.qlen _ reached
  unfold TxState.drain
  rw [Run.execute_append, readAll]
  rcases finished with ⟨empty, calls, handed⟩
  have balance := last.once pxmitbuf
  have unlinked := last.linked
  dsimp only at empty calls handed
  rw [empty] at unlinked
  rw [List.eq_nil_of_length_eq_zero unlinked.symm, handed] at balance
  unfold TxState.dumping at balance
  rw [calls.trans returned] at balance
  exact balance.symm

theorem TxInvariant.sound (sound : TxInvariant pool s) (distinct : pool.Nodup)
    (linkable : ∀ pxmitbuf ∈ pool, pxmitbuf.buf_tag ≠ .XMITBUF_CMD) : TxRingSound s where
  linked := sound.linked
  bounded := Nat.le_sub_one_of_lt sound.room
  told := sound.told
  unused := by
    intro txbd given k below same
    unfold get_txbd at given
    split at given
    case isTrue full => exact nomatch given
    case isFalse free =>
      have room := sound.room
      have repeated := (Option.some.inj given).trans same
      have offsets := Ring.place_injective room (Nat.lt_trans below room) repeated
      exact Nat.ne_of_gt below offsets
  once := fun pxmitbuf => ⟨sound.once pxmitbuf, sound.held_le_one distinct pxmitbuf⟩
  notEarly := by
    intro pxmitbuf awaits
    have linked := List.count_pos_iff.mpr (sound.linked_of_awaits awaits)
    have single := sound.held_le_one distinct pxmitbuf
    have same : s.held pxmitbuf = s.dumping.count pxmitbuf + s.ring.queue.count pxmitbuf := rfl
    have balance := sound.once pxmitbuf
    omega
  notLost := fun returned pxmitbuf => sound.drained distinct linkable returned pxmitbuf

end

/-- The promises hold all along a run in which every frame takes at most one descriptor. -/
theorem tx_ring_sound {entries : Nat} (wide : 2 ≤ entries ∧ entries ≤ 2 ^ 12) {pool : List XmitBuf}
    (distinct : pool.Nodup) (linkable : ∀ pxmitbuf ∈ pool, pxmitbuf.buf_tag ≠ .XMITBUF_CMD) {events : List TxEvent}
    (ones : Run.Guarded TxState.step OneDescriptor (TxState.initial entries pool) events) :
    TxRingSound (Run.execute TxState.step (TxState.initial entries pool) events) :=
  ((TxInvariant.initial wide pool).run distinct linkable ones).sound distinct linkable

/-- One frame on a ring of the driver's size, from the pool to the pool. -/
theorem tx_ring_sound_one_frame :
    TxRingSound (Run.execute TxState.step (TxState.initial 128 [⟨0, .XMITBUF_DATA⟩])
      [.rtw_alloc_xmitbuf 0, .rtl8821ce_dump_xframe 0 1, .fragment 0, .hardware,
        .rtl8821ce_tx_isr]) :=
  tx_ring_sound (by decide) (by decide) (by decide)
    ⟨trivial, Nat.zero_lt_one, fun _ found => Or.inl (by cases found; rfl), trivial, trivial, trivial⟩

/-- A frame with two fragments takes two descriptors and is linked once. -/
theorem tx_ring_two_fragments :
    ¬ TxRingSound (Run.execute TxState.step (TxState.initial 128 [⟨0, .XMITBUF_DATA⟩])
      [.rtw_alloc_xmitbuf 0, .rtl8821ce_dump_xframe 0 2, .fragment 0, .fragment 0]) := by
  intro sound
  have linked := sound.linked
  revert linked
  decide

end Rtl8821ce
