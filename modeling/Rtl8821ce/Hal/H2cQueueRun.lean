import Rtl8821ce.Hal.H2cQueue

/-!
# Packets in the queue stay what they are

The free space is computed from pointers that are apart by the packets that were not read,
since these never fill the ring.  A packet is sent only with room for more than one, so the
ring does not become full either.
-/

namespace Rtl8821ce

namespace H2cQueue

variable {queue : Queue} {pkts slot : Nat}

theorem Ordered.place_eq (ordered : Ordered queue pkts slot) (i : Nat) :
    queue.place i = queue.head + H2C_PKT_SIZE_88XX * Ring.place pkts slot i := by
  unfold Queue.place Ring.place
  rw [ordered.size, ordered.reads, Nat.add_sub_cancel_left, ← Nat.mul_add, Nat.mul_mod_mul_left]

theorem Ordered.next_place (ordered : Ordered queue pkts slot) (i : Nat) :
    queue.next (queue.place i) = queue.place (i + 1) := by
  have reached := Ring.place_place pkts slot i 1
  unfold Ring.place at reached
  rw [ordered.place_eq, ordered.place_eq, Queue.next, ordered.size, Nat.add_sub_cancel_left]
  unfold Ring.place
  rw [← reached]
  have step : H2C_PKT_SIZE_88XX * ((slot + i) % pkts) + H2C_PKT_SIZE_88XX =
      H2C_PKT_SIZE_88XX * ((slot + i) % pkts + 1) := (Nat.mul_succ _ _).symm
  rw [step, Nat.mul_mod_mul_left]

theorem Ordered.place_zero (ordered : Ordered queue pkts slot) : queue.place 0 = queue.rptr := by
  rw [ordered.place_eq, ordered.reads, Ring.place, Nat.add_zero, Nat.mod_eq_of_lt ordered.slot_lt]

theorem Ordered.place_injective (ordered : Ordered queue pkts slot) {i k : Nat} (first : i < pkts) (second : k < pkts)
    (same : queue.place i = queue.place k) : i = k := by
  rw [ordered.place_eq, ordered.place_eq] at same
  have positive : 0 < H2C_PKT_SIZE_88XX := by decide
  exact Ring.place_injective first second (Nat.eq_of_mul_eq_mul_left positive (Nat.add_left_cancel same))

theorem Ordered.apart (ordered : Ordered queue pkts slot) {i k : Nat} (first : i < pkts) (second : k < pkts)
    (other : i ≠ k) :
    queue.place i + H2C_PKT_SIZE_88XX ≤ queue.place k ∨ queue.place k + H2C_PKT_SIZE_88XX ≤ queue.place i := by
  have differ : queue.place i ≠ queue.place k := fun same => other (ordered.place_injective first second same)
  rw [ordered.place_eq, ordered.place_eq] at differ ⊢
  unfold H2C_PKT_SIZE_88XX at differ ⊢
  omega

theorem Ordered.fw_read (ordered : Ordered queue pkts slot) :
    (∃ slot, Ordered queue.fw_read pkts slot) ∧ queue.free ≤ queue.fw_read.free ∧
      queue.fw_read.buf_fs = queue.buf_fs ∧ queue.fw_read.wptr = queue.wptr := by
  unfold Queue.fw_read
  cases waiting : queue.unread with
  | nil => exact ⟨⟨slot, ordered⟩, Nat.le_refl _, rfl, rfl⟩
  | cons pkt rest =>
      let after : Queue := { queue with rptr := queue.next queue.rptr, unread := rest }
      have moved : after.rptr = queue.place 1 := by
        show queue.next queue.rptr = _
        rw [← ordered.place_zero, ordered.next_place]
      have places : ∀ i, after.place i = queue.place (i + 1) := by
        intro i
        have regroup := Ring.place_place pkts slot 1 i
        unfold Queue.place
        rw [moved]
        show queue.head + (queue.place 1 - queue.head + H2C_PKT_SIZE_88XX * i) % queue.buf_size = queue.place (i + 1)
        rw [ordered.place_eq, ordered.place_eq, ordered.size, Nat.add_sub_cancel_left, ← Nat.mul_add,
          Nat.mul_mod_mul_left]
        unfold Ring.place at regroup ⊢
        rw [regroup, Nat.add_comm 1 i]
      have fewer := ordered.not_full
      have length : queue.unread.length = rest.length + 1 := by rw [waiting, List.length_cons]
      refine ⟨⟨Ring.place pkts slot 1, ordered.size, ordered.fits, ?_, ?_, ?_, ?_, fun i pkt found => ?_, ordered.clean⟩, ?_, rfl, rfl⟩
      · exact moved.trans (ordered.place_eq 1)
      · exact Ring.place_lt (by omega) _ _
      · show queue.wptr = after.place rest.length
        rw [places, ordered.writes, length]
      · show rest.length < pkts
        omega
      · show Memory.read queue.cells (after.place i) _ = _
        rw [places]
        refine ordered.intact (i + 1) pkt ?_
        rw [waiting, List.getElem?_cons_succ]
        exact found
      · show queue.buf_size - _ * queue.unread.length ≤ queue.buf_size - _ * rest.length
        unfold H2C_PKT_SIZE_88XX
        omega

theorem Ordered.fw_reads (count : Nat) : ∀ {queue : Queue} {slot : Nat}, Ordered queue pkts slot ->
    (∃ slot, Ordered (queue.fw_reads count) pkts slot) ∧ queue.free ≤ (queue.fw_reads count).free ∧
      (queue.fw_reads count).buf_fs = queue.buf_fs ∧ (queue.fw_reads count).wptr = queue.wptr := by
  induction count with
  | zero => exact fun ordered => ⟨⟨_, ordered⟩, Nat.le_refl _, rfl, rfl⟩
  | succ count later =>
      intro queue slot ordered
      have ⟨⟨next, once⟩, more, same_fs, same_wptr⟩ := ordered.fw_read
      have ⟨reached, still_more, fs, wptr⟩ := later once
      exact ⟨reached, Nat.le_trans more still_more, fs.trans same_fs, wptr.trans same_wptr⟩

/-! ## The driver -/

theorem Ordered.with_fs (ordered : Ordered queue pkts slot) (buf_fs : Nat) :
    Ordered { queue with buf_fs := buf_fs } pkts slot :=
  ⟨ordered.size, ordered.fits, ordered.reads, ordered.slot_lt, ordered.writes, ordered.not_full, ordered.intact,
    ordered.clean⟩

theorem Ordered.pointers (ordered : Ordered queue pkts slot) :
    (if queue.wptr % 2 ^ 18 ≥ queue.rptr % 2 ^ 18 then
        (queue.buf_size + 2 ^ 32 - (queue.wptr % 2 ^ 18 - queue.rptr % 2 ^ 18)) % 2 ^ 32
      else queue.rptr % 2 ^ 18 - queue.wptr % 2 ^ 18) = queue.free := by
  have size := ordered.size
  have fits := ordered.fits
  have fewer := ordered.not_full
  have slot_lt := ordered.slot_lt
  have place := ordered.place_eq queue.unread.length
  rw [← ordered.writes] at place
  have wrapped : Ring.place pkts slot queue.unread.length = slot + queue.unread.length ∨
      Ring.place pkts slot queue.unread.length + pkts = slot + queue.unread.length := by
    unfold Ring.place
    rcases Nat.lt_or_ge (slot + queue.unread.length) pkts with below | around
    · exact Or.inl (Nat.mod_eq_of_lt below)
    · rw [Nat.mod_eq_sub_mod around, Nat.mod_eq_of_lt (by omega)]
      exact Or.inr (by omega)
  have bounded := Ring.place_lt (Nat.zero_lt_of_lt slot_lt) slot queue.unread.length
  have reads := ordered.reads
  unfold Queue.free
  unfold H2C_PKT_SIZE_88XX at *
  rw [Nat.mod_eq_of_lt (by omega), Nat.mod_eq_of_lt (by omega)]
  split <;> omega

theorem Ordered.get_h2c_buf_free_space (ordered : Ordered queue pkts slot) (before between : Nat) :
    (∃ slot, Ordered (get_h2c_buf_free_space before between queue) pkts slot) ∧
      (get_h2c_buf_free_space before between queue).buf_fs = (get_h2c_buf_free_space before between queue).free := by
  have ⟨⟨first, reached⟩, _, _, _⟩ := ordered.fw_reads before
  have ⟨⟨second, settled⟩, _, _, same_wptr⟩ := reached.fw_reads between
  refine ⟨⟨second, settled.with_fs _⟩, ?_⟩
  have apart := settled.pointers
  rw [same_wptr] at apart
  exact apart

def Cached (queue : Queue) (pkts : Nat) : Prop := (∃ slot, Ordered queue pkts slot) ∧ queue.buf_fs ≤ queue.free

theorem Ordered.cached (ordered : Ordered queue pkts slot) {buf_fs : Nat} (below : buf_fs ≤ queue.free) :
    Cached { queue with buf_fs := buf_fs } pkts :=
  ⟨⟨slot, ordered.with_fs buf_fs⟩, below⟩

theorem Cached.fw_reads (cached : Cached queue pkts) (count : Nat) :
    Cached (queue.fw_reads count) pkts ∧ (queue.fw_reads count).buf_fs = queue.buf_fs := by
  have ⟨⟨slot, ordered⟩, below⟩ := cached
  have ⟨reached, more, same_fs, _⟩ := ordered.fw_reads count
  exact ⟨⟨reached, by omega⟩, same_fs⟩

theorem Cached.wait_for_space (reads : Nat -> Nat × Nat) (cnt : Nat) : ∀ {queue : Queue}, Cached queue pkts ->
    Cached (wait_for_space reads cnt queue).2 pkts ∧
      ((wait_for_space reads cnt queue).1 = .ok ⟨⟩ -> H2C_PKT_SIZE_88XX < (wait_for_space reads cnt queue).2.buf_fs) := by
  induction cnt with
  | zero => exact fun cached => ⟨cached, fun full => nomatch full⟩
  | succ cnt later =>
      intro queue cached
      show Cached (if _ then _ else _ : Except H2cRet Unit × Queue).2 pkts ∧
        ((if _ then _ else _ : Except H2cRet Unit × Queue).1 = _ -> _ < (if _ then _ else _ : Except H2cRet Unit × Queue).2.buf_fs)
      by_cases short : queue.buf_fs ≤ H2C_PKT_SIZE_88XX
      · have ⟨⟨slot, ordered⟩, _⟩ := cached
        have ⟨reached, exact⟩ := ordered.get_h2c_buf_free_space (reads cnt).1 (reads cnt).2
        have again : Cached (get_h2c_buf_free_space (reads cnt).1 (reads cnt).2 queue) pkts :=
          ⟨reached, Nat.le_of_eq exact⟩
        rw [if_pos short]
        by_cases last : cnt = 0
        · rw [if_pos last]
          exact ⟨again, fun full => nomatch full⟩
        · rw [if_neg last]
          exact later again
      · rw [if_neg short]
        exact ⟨cached, fun _ => Nat.lt_of_not_le short⟩

theorem Ordered.accept (ordered : Ordered queue pkts slot) (pkt : H2cPkt) (room : queue.unread.length + 1 < pkts) :
    Ordered (queue.accept pkt) pkts slot ∧ (queue.accept pkt).free + H2C_PKT_SIZE_88XX = queue.free := by
  have written : queue.wptr = queue.place queue.unread.length := ordered.writes
  have beside : ∀ i, i < queue.unread.length -> queue.place i ≠ queue.wptr := by
    intro i before same
    rw [written] at same
    exact absurd (ordered.place_injective (by omega) (by omega) same) (by omega)
  refine ⟨⟨ordered.size, ordered.fits, ordered.reads, ordered.slot_lt, ?_, ?_, fun i other found => ?_, ?_⟩, ?_⟩
  · show queue.next queue.wptr = queue.place (queue.unread ++ [pkt]).length
    rw [List.length_append, List.length_singleton, written, ordered.next_place]
  · show (queue.unread ++ [pkt]).length < pkts
    rw [List.length_append, List.length_singleton]
    exact room
  · show Memory.read (Memory.write queue.cells queue.wptr pkt.bytes) (queue.place i) _ = _
    have found_in : (queue.unread ++ [pkt])[i]? = some other := found
    rcases Nat.lt_or_ge i queue.unread.length with before | last
    · rw [List.getElem?_append_left before] at found_in
      have apart := ordered.apart (Nat.lt_trans before ordered.not_full) ordered.not_full (Nat.ne_of_lt before)
      rw [← written] at apart
      rw [Memory.read_write_of_disjoint _ (by rw [pkt.length_eq]; exact apart), ordered.intact i other found_in]
    · have index : i = queue.unread.length := by
        have bounded := (List.getElem?_eq_some_iff.mp found_in).1
        rw [List.length_append, List.length_singleton] at bounded
        omega
      subst index
      rw [List.getElem?_concat_length, Option.some.injEq] at found_in
      rw [← written, ← found_in, ← pkt.length_eq, Memory.read_write]
  · show (queue.overwritten || _) = false
    rw [ordered.clean, Bool.false_or, List.any_eq_false]
    intro i member
    rw [beq_iff_eq]
    exact beside i (List.mem_range.mp member)
  · have size := ordered.size
    show queue.buf_size - _ * (queue.unread ++ [pkt]).length + _ = queue.buf_size - _ * queue.unread.length
    rw [List.length_append, List.length_singleton]
    unfold H2C_PKT_SIZE_88XX at *
    omega

/-- How the second loop leaves the queue: with the packet in it, the cached free space is due
to become smaller by its size. -/
def Handed (pkts : Nat) : Except H2cRet Unit × Queue -> Prop
  | (.error _, queue) => Cached queue pkts
  | (.ok _, queue) =>
      (∃ slot, Ordered queue pkts slot) ∧ H2C_PKT_SIZE_88XX < queue.buf_fs ∧
        queue.buf_fs ≤ queue.free + H2C_PKT_SIZE_88XX

theorem Cached.pltfm_send (pkt : H2cPkt) (sends : Nat -> Nat × Bool) (cnt : Nat) : ∀ {queue : Queue},
    Cached queue pkts -> H2C_PKT_SIZE_88XX < queue.buf_fs -> Handed pkts (pltfm_send pkt sends cnt queue) := by
  induction cnt with
  | zero => exact fun cached _ => cached
  | succ cnt later =>
      intro queue cached room
      have ⟨after, same_fs⟩ := cached.fw_reads (sends cnt).1
      rw [← same_fs] at room
      unfold H2cQueue.pltfm_send
      generalize queue.fw_reads (sends cnt).1 = reached at after room
      by_cases answered : (sends cnt).2 = true
      · have ⟨⟨slot, ordered⟩, below⟩ := after
        have size := ordered.size
        have several : reached.unread.length + 1 < pkts := by
          unfold Queue.free at below
          unfold H2C_PKT_SIZE_88XX at *
          omega
        have ⟨accepted, less⟩ := ordered.accept pkt several
        simp only [if_pos answered]
        refine ⟨⟨slot, accepted⟩, room, ?_⟩
        rw [less]
        exact below
      · simp only [if_neg answered]
        by_cases last : cnt = 0
        · rw [if_pos last]
          exact after
        · rw [if_neg last]
          exact later after room

theorem Cached.send_h2c_pkt (cached : Cached queue pkts) (pkt : H2cPkt) (around : Surroundings) :
    Cached (send_h2c_pkt pkt around queue).2 pkts := by
  have ⟨waited, room⟩ := cached.wait_for_space around.reads 100
  unfold H2cQueue.send_h2c_pkt
  cases first : H2cQueue.wait_for_space around.reads 100 queue with
  | mk answer middle =>
      rw [first] at waited room
      cases answer with
      | error code => exact waited
      | ok value =>
          have handed := waited.pltfm_send pkt around.sends 100 (room rfl)
          dsimp only
          cases second : H2cQueue.pltfm_send pkt around.sends 100 middle with
          | mk status after =>
              rw [second] at handed
              cases status with
              | error code => exact handed
              | ok value =>
                  have ⟨⟨slot, ordered⟩, more, bounded⟩ := handed
                  have fits := ordered.fits
                  have less : (after.buf_fs + 2 ^ 32 - H2C_PKT_SIZE_88XX) % 2 ^ 32 ≤ after.free := by
                    unfold Queue.free at bounded ⊢
                    unfold H2C_PKT_SIZE_88XX at *
                    omega
                  exact ordered.cached less

theorem Cached.step (cached : Cached queue pkts) (op : QueueOp) : Cached (queue.step op) pkts := by
  cases op with
  | send pkt around => exact cached.send_h2c_pkt pkt around
  | fwRead =>
      have ⟨⟨slot, ordered⟩, below⟩ := cached
      have ⟨reached, more, same_fs, _⟩ := ordered.fw_read
      exact ⟨reached, by rw [Queue.step, same_fs]; exact Nat.le_trans below more⟩

theorem rsvd_h2cq_addr_fits (rx_expand_1blk la_mode : Bool) :
    rsvd_h2cq_addr rx_expand_1blk la_mode * 2 ^ TX_PAGE_SIZE_SHIFT_88XX +
      RSVD_PG_H2CQ_NUM * 2 ^ TX_PAGE_SIZE_SHIFT_88XX ≤ 2 ^ 18 := by
  cases rx_expand_1blk <;> cases la_mode <;> decide

theorem init_h2c_cached (rx_expand_1blk la_mode : Bool) (first : Nat) (queue : Queue) :
    (init_h2c rx_expand_1blk la_mode first queue).1 = .ok ⟨⟩ ∧
      Cached (init_h2c rx_expand_1blk la_mode first queue).2 32 := by
  have fits := rsvd_h2cq_addr_fits rx_expand_1blk la_mode
  have size : RSVD_PG_H2CQ_NUM * 2 ^ TX_PAGE_SIZE_SHIFT_88XX = H2C_PKT_SIZE_88XX * 32 := rfl
  rw [size] at fits
  unfold init_h2c
  dsimp only
  rw [size]
  generalize rsvd_h2cq_addr rx_expand_1blk la_mode * 2 ^ TX_PAGE_SIZE_SHIFT_88XX = head at fits
  rw [Nat.mul_mod_mul_left]
  generalize started_is : ({ queue with
    head := head, wptr := head + H2C_PKT_SIZE_88XX * (first % 32), rptr := head + H2C_PKT_SIZE_88XX * (first % 32),
    unread := [], overwritten := false, buf_size := H2C_PKT_SIZE_88XX * 32 } : Queue) = started
  have ordered : Ordered started 32 (first % 32) := by
    subst started_is
    refine ⟨rfl, fits, rfl, Nat.mod_lt _ (by decide), ?_, Nat.zero_lt_succ _, fun _ _ found => (nomatch found), rfl⟩
    show head + H2C_PKT_SIZE_88XX * (first % 32) =
      head + (head + H2C_PKT_SIZE_88XX * (first % 32) - head + 0) % (H2C_PKT_SIZE_88XX * 32)
    rw [Nat.add_sub_cancel_left, Nat.add_zero, Nat.mul_mod_mul_left, Nat.mod_mod]
  have ⟨reached, exact⟩ := ordered.get_h2c_buf_free_space 0 0
  have cached : Cached (get_h2c_buf_free_space 0 0 started) 32 := ⟨reached, Nat.le_of_eq exact⟩
  have whole : (get_h2c_buf_free_space 0 0 started).buf_size = (get_h2c_buf_free_space 0 0 started).buf_fs := by
    rw [exact]
    subst started_is
    rfl
  rw [if_neg (fun differ => differ whole)]
  exact ⟨rfl, cached⟩

/-- In every state that a run of calls and reads reaches, the cached free space is at most the
real one, no packet was overwritten before it was read, the packets lie in the ring as they were
sent, and the pointers are equal only if there are none. -/
theorem h2c_queue_run (rx_expand_1blk la_mode : Bool) (first : Nat) (queue : Queue) (ops : List QueueOp) :
    let reached := Run.execute Queue.step (init_h2c rx_expand_1blk la_mode first queue).2 ops
    reached.buf_fs ≤ reached.free ∧ reached.overwritten = false ∧
      (∀ i pkt, reached.unread[i]? = some pkt ->
        Memory.read reached.cells (reached.place i) H2C_PKT_SIZE_88XX = pkt.bytes) ∧
      (reached.wptr = reached.rptr <-> reached.unread = []) := by
  have guarded := Run.guarded_of_forall Queue.step (fun _ => True) (init_h2c rx_expand_1blk la_mode first queue).2 ops
    fun _ _ => trivial
  have ⟨⟨slot, ordered⟩, below⟩ := @Run.Guarded.invariant _ _ _ _ (fun queue => Cached queue 32)
    (fun _ op _ cached => cached.step op) _ _ guarded (init_h2c_cached rx_expand_1blk la_mode first queue).2
  refine ⟨below, ordered.clean, ordered.intact, ?_⟩
  rw [ordered.writes, ← ordered.place_zero]
  constructor
  · intro same
    exact List.length_eq_zero_iff.mp (ordered.place_injective ordered.not_full (by decide) same)
  · intro empty
    rw [empty]
    rfl

end H2cQueue

end Rtl8821ce
