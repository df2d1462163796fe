import Rtl8821ce.Hal.FifoDumped

/-!
# Exactly which dumps are right

A dump that is let through copies the FIFO if and only if there is something to copy, no word
lies across the end of the window, and the register can name the last page.
-/

namespace Rtl8821ce

namespace FifoDump

variable {adapter : DumpAdapter} {sel : HalFifoSel} {start_addr size : UInt32}

private def zeros : Chip where
  page := fun _ _ => 0
  beside := fun _ => 0

private def empty_handed : DumpState where
  pktbuf_dbg_ctrl := 0
  rcr2 := 0
  data := fun _ => 0
  writes := []

private theorem and_three (size : UInt32) : size &&& (4 - 1) = 0 <-> size.toNat % 4 = 0 := by
  have masked : (size &&& (4 - 1)).toNat = size.toNat % 4 := by
    rw [UInt32.toNat_and]
    exact Nat.and_two_pow_sub_one_eq_mod size.toNat 2
  rw [← masked, ← UInt32.toNat_inj]
  rfl

theorem dump_fifo_checked {chip : Chip} {state : DumpState}
    (tx : (!(sel == .TX && decide (start_addr + size > adapter.tx_fifo_size))) = true)
    (rx : (!(sel == .RX && decide (start_addr + size > adapter.rx_fifo_size))) = true) (words : size.toNat % 4 = 0) :
    let run := read_buf chip adapter start_addr size sel { state with rcr2 := state.rcr2 ||| 0x08 }
    dump_fifo chip adapter sel start_addr size true state = (run.1, { run.2 with rcr2 := state.rcr2 }) := by
  unfold dump_fifo
  rw [tx, rx, decide_eq_true ((and_three size).mpr words)]
  rfl

theorem accepts_facts (accepts : Accepts adapter sel start_addr size) :
    (!(sel == .TX && decide (start_addr + size > adapter.tx_fifo_size))) = true ∧
      (!(sel == .RX && decide (start_addr + size > adapter.rx_fifo_size))) = true ∧
      size.toNat % 4 = 0 ∧ ∃ first_page, sel.first_page = some first_page := by
  have refused := accepts zeros empty_handed
  have tx : (!(sel == .TX && decide (start_addr + size > adapter.tx_fifo_size))) = true := by
    apply Bool.of_not_eq_false
    intro fails
    unfold dump_fifo at refused
    rw [fails] at refused
    exact nomatch refused _ rfl
  have rx : (!(sel == .RX && decide (start_addr + size > adapter.rx_fifo_size))) = true := by
    apply Bool.of_not_eq_false
    intro fails
    unfold dump_fifo at refused
    rw [tx, fails] at refused
    exact nomatch refused _ rfl
  have words : size.toNat % 4 = 0 := by
    refine (and_three size).mp (of_decide_eq_true (Bool.of_not_eq_false fun fails => ?_))
    unfold dump_fifo at refused
    rw [tx, rx, fails] at refused
    exact nomatch refused _ rfl
  refine ⟨tx, rx, words, ?_⟩
  cases pages : sel.first_page with
  | some first_page => exact ⟨first_page, rfl⟩
  | none =>
      have stopped : ∀ state, read_buf zeros adapter start_addr size sel state = (.error .NOT_SUPPORT, state) := by
        intro state
        unfold read_buf
        rw [pages]
        rfl
      rw [dump_fifo_checked tx rx words, stopped] at refused
      exact nomatch refused _ rfl

theorem read_buf_of_page {chip : Chip} {state : DumpState} {first_page : Nat} (pages : sel.first_page = some first_page) :
    let offset :=
      if sel = .RSVD_PAGE then start_addr + (adapter.rsvd_boundary.toUInt32 <<< TX_PAGE_SIZE_SHIFT_88XX) else start_addr
    read_buf chip adapter start_addr size sel state =
      (read_pages chip size.toNat (state.pktbuf_dbg_ctrl &&& 0xF000) MAX_PAGES (offset.toNat / 0x1000 + first_page)
        (offset.toNat % 0x1000) 0 >>= fun _ =>
        Program.update fun after => after.turned (state.pktbuf_dbg_ctrl &&& 0xF000)) state := by
  unfold read_buf
  rw [pages]
  rfl

theorem offset_toNat :
    (if sel = .RSVD_PAGE then start_addr + (adapter.rsvd_boundary.toUInt32 <<< TX_PAGE_SIZE_SHIFT_88XX)
      else start_addr).toNat = (start_addr.toNat + fifo_shift adapter sel) % 2 ^ 32 := by
  unfold fifo_shift
  split
  · have boundary := adapter.rsvd_boundary.toNat_lt
    have shifted : (adapter.rsvd_boundary.toUInt32 <<< TX_PAGE_SIZE_SHIFT_88XX).toNat = adapter.rsvd_boundary.toNat * 128 := by
      rw [UInt32.toNat_shiftLeft]
      show adapter.rsvd_boundary.toNat <<< 7 % 2 ^ 32 = _
      rw [Nat.shiftLeft_eq]
      omega
    rw [UInt32.toNat_add, shifted]
  · exact (Nat.mod_eq_of_lt start_addr.toNat_lt).symm

/-- Words of a FIFO that were copied from its start are those of the FIFO, and no others were written. -/
theorem dumped_of_copied {chip : Chip} {first_page before : Nat} {state after : DumpState} (whole : size.toNat % 4 = 0)
    (unwritten : state.writes = [])
    (copied : after = state.copied (fifo chip adapter sel first_page) start_addr.toNat 0 (size.toNat / 4))
    (register : Nat) (kept : register &&& 0xF000 = before &&& 0xF000) :
    Dumped chip adapter sel first_page start_addr.toNat size.toNat before (.ok ⟨⟩) (after.turned register) := by
  have written : after.writes = (List.range (size.toNat / 4)).map (fun k => 0 + 4 * k) := by
    rw [copied]
    show state.writes ++ _ = _
    rw [unwritten, List.nil_append]
  refine ⟨fun endless => (nomatch endless), fun position => ?_, fun k inside => ?_, kept⟩
  · show (∃ cnt, cnt ∈ after.writes ∧ _) <-> _
    rw [written]
    constructor
    · intro ⟨cnt, member, low, high⟩
      have ⟨k, in_range, place⟩ := List.mem_map.mp member
      have few := List.mem_range.mp in_range
      omega
    · intro within
      exact ⟨0 + 4 * (position / 4), List.mem_map.mpr ⟨position / 4, List.mem_range.mpr (by omega), rfl⟩, by omega,
        by omega⟩
  · refine List.map_congr_left fun i member => ?_
    have few := List.mem_range.mp member
    have length : 4 * k + i < (Memory.read (fifo chip adapter sel first_page) start_addr.toNat (4 * (size.toNat / 4))).length := by
      rw [Memory.length_read]
      omega
    have cell := @Memory.write_of_inside _ state.data 0 (4 * k + i) _ length
    rw [Nat.zero_add, Memory.getElem_read, ← Nat.add_assoc] at cell
    show after.data (4 * k + i) = _
    rw [copied]
    exact cell

theorem dumpsFifo_of_window {first_page : Nat} (accepts : Accepts adapter sel start_addr size)
    (pages : sel.first_page = some first_page) (some_bytes : size.toNat ≠ 0)
    (aligned : start_addr.toNat % 4 = 0 ∨ (start_addr.toNat + fifo_shift adapter sel) % 0x1000 + size.toNat ≤ 0x1000)
    (nameable : first_page + (start_addr.toNat + fifo_shift adapter sel + size.toNat - 1) / 0x1000 < 0x1000) :
    DumpsFifo adapter sel start_addr size := by
  have ⟨tx, rx, whole, _⟩ := accepts_facts accepts
  have shift_words : fifo_shift adapter sel % 4 = 0 := by
    unfold fifo_shift
    split <;> omega
  have most : MAX_PAGES = 1048577 := rfl
  refine ⟨first_page, pages, fun chip state unwritten => ?_⟩
  have ⟨last, copies⟩ := @read_pages_copies chip size.toNat adapter sel first_page start_addr.toNat size.toNat_lt whole
    state.pktbuf_dbg_ctrl nameable MAX_PAGES 0 (start_addr.toNat + fifo_shift adapter sel)
    { state with rcr2 := state.rcr2 ||| 0x08 } rfl (by omega) rfl (by omega) (by omega)
  have place := @offset_toNat adapter sel start_addr
  rw [Nat.mod_eq_of_lt (by omega)] at place
  have run := @read_buf_of_page adapter sel start_addr size chip { state with rcr2 := state.rcr2 ||| 0x08 } first_page pages
  simp only [place] at run
  rw [Nat.add_comm _ first_page, Program.bind_of_ok copies] at run
  simp only [dump_fifo_checked tx rx whole]
  rw [run]
  have kept : (state.pktbuf_dbg_ctrl &&& 0xF000) &&& 0xF000 = state.pktbuf_dbg_ctrl &&& 0xF000 := by
    rw [Nat.and_assoc, Nat.and_self]
  exact dumped_of_copied whole unwritten rfl _ kept

/-! ## Dumps that are wrong -/

private def gated : DumpState := { empty_handed with rcr2 := 0x08 }

private theorem turned_after (program : DumpM Unit) (state : DumpState) (register : Nat) :
    ((program >>= fun _ => Program.update fun after => after.turned register) state).2.data = (program state).2.data ∧
      ((program >>= fun _ => Program.update fun after => after.turned register) state).2.writes =
        (program state).2.writes := by
  rw [Program.bind_apply]
  cases program state with
  | mk answer next => cases answer <;> exact ⟨rfl, rfl⟩

theorem dumpsFifo_run {first_page : Nat} (accepts : Accepts adapter sel start_addr size)
    (pages : sel.first_page = some first_page) (dumps : DumpsFifo adapter sel start_addr size) (chip : Chip) :
    let offset := (start_addr.toNat + fifo_shift adapter sel) % 2 ^ 32
    let after := (read_pages chip size.toNat (0 &&& 0xF000) MAX_PAGES (offset / 0x1000 + first_page) (offset % 0x1000) 0
      gated).2
    (∀ position, (∃ cnt, cnt ∈ after.writes ∧ cnt ≤ position ∧ position < cnt + 4) <->
      position < size.toNat) ∧
      ∀ position, position < size.toNat ->
        after.data position = fifo chip adapter sel first_page (start_addr.toNat + position) := by
  obtain ⟨tx, rx, whole, _⟩ := accepts_facts accepts
  obtain ⟨same_page, found, dumped⟩ := dumps
  rw [pages, Option.some.injEq] at found
  subst found
  have right := dumped chip empty_handed rfl
  simp only [dump_fifo_checked tx rx whole, read_buf_of_page pages, offset_toNat] at right
  obtain ⟨same_data, same_writes⟩ := turned_after
    (read_pages chip size.toNat (0 &&& 0xF000) MAX_PAGES
      ((start_addr.toNat + fifo_shift adapter sel) % 2 ^ 32 / 0x1000 + first_page)
      ((start_addr.toNat + fifo_shift adapter sel) % 2 ^ 32 % 0x1000) 0)
    gated (0 &&& 0xF000)
  have extent := right.extent
  have words := right.words
  refine ⟨fun position => ?_, fun position inside => ?_⟩
  · rw [← extent position]
    show (∃ cnt, cnt ∈ DumpState.writes _ ∧ _) <-> (∃ cnt, cnt ∈ DumpState.writes _ ∧ _)
    rw [← same_writes]
    rfl
  · have word := words (position / 4) (by omega)
    have cell := congrArg (fun bytes => bytes[position % 4]?) word
    rw [Memory.getElem?_read _ (Nat.mod_lt _ (by decide)), Memory.getElem?_read _ (Nat.mod_lt _ (by decide)),
      Option.some.injEq] at cell
    have place : 4 * (position / 4) + position % 4 = position := Nat.div_add_mod position 4
    rw [Nat.add_assoc, place] at cell
    rw [← same_data]
    exact cell

private theorem maintains_written (chip : Chip) (word i cnt : Nat) :
    Program.Maintains (fun state : DumpState => word ∈ state.writes) (copy_word chip i cnt) :=
  fun _ member => List.mem_append_left _ member

theorem some_bytes_of_dumps {first_page : Nat} (accepts : Accepts adapter sel start_addr size)
    (pages : sel.first_page = some first_page) (dumps : DumpsFifo adapter sel start_addr size) : size.toNat ≠ 0 := by
  intro none
  obtain ⟨extent, _⟩ := dumpsFifo_run accepts pages dumps zeros
  generalize (start_addr.toNat + fifo_shift adapter sel) % 2 ^ 32 = offset at extent
  have in_window : ∀ state,
      0 ∈ (read_window zeros size.toNat 1025 (0x8000 + offset % 0x1000) 0 state).2.writes := by
    intro state
    show 0 ∈ ((if 0x8000 + offset % 0x1000 ≤ 0x8FFF then _ else _ : DumpM (Option Nat)) state).2.writes
    rw [if_pos (by omega)]
    have copied : 0 ∈ (copy_word zeros (0x8000 + offset % 0x1000) 0 state).2.writes :=
      List.mem_append_right _ (List.mem_singleton.mpr rfl)
    exact @Program.holds_bind _ _ _ _ (fun state : DumpState => 0 ∈ state.writes) _ _ _ copied fun _ =>
      Program.maintains_ite (Program.maintains_pure _ _) (maintains_read_window (maintains_written zeros 0) _ _ _)
  have written : 0 ∈ (read_pages zeros size.toNat (0 &&& 0xF000) MAX_PAGES (offset / 0x1000 + first_page)
      (offset % 0x1000) 0 gated).2.writes := by
    show 0 ∈ ((read_window zeros size.toNat 1025 (0x8000 + offset % 0x1000) 0 >>= _ : DumpM Unit)
      (gated.turned _)).2.writes
    refine @Program.holds_bind _ _ _ _ (fun state : DumpState => 0 ∈ state.writes) _ _ _ (in_window _) fun left => ?_
    cases left with
    | none => exact Program.maintains_pure _ _
    | some copied => exact maintains_read_pages (maintains_written zeros 0) (fun _ _ member => member) _ _ _ _ _
  have inside := (extent 0).mp ⟨0, written, Nat.le_refl _, Nat.zero_lt_succ _⟩
  omega

private theorem maintains_zero {chip : Chip} (shows : ∀ register position, chip.window register position = 0)
    (i cnt : Nat) :
    Program.Maintains (fun state : DumpState => ∀ position, state.data position = 0) (copy_word chip i cnt) := by
  intro state zero position
  show Memory.write state.data cnt (Memory.read (chip.window state.pktbuf_dbg_ctrl) i 4) position = 0
  by_cases inside : cnt ≤ position ∧ position < cnt + 4
  · obtain ⟨k, rfl⟩ := Nat.exists_eq_add_of_le inside.1
    have within : k < (Memory.read (chip.window state.pktbuf_dbg_ctrl) i 4).length := by
      rw [Memory.length_read]
      omega
    rw [Memory.write_of_inside _ within, Memory.getElem_read, shows]
  · rw [Memory.write_of_outside _ (by rw [Memory.length_read]; omega), zero]

theorem nameable_of_dumps {first_page : Nat} (accepts : Accepts adapter sel start_addr size)
    (pages : sel.first_page = some first_page) (dumps : DumpsFifo adapter sel start_addr size)
    (some_bytes : size.toNat ≠ 0) :
    first_page + (start_addr.toNat + fifo_shift adapter sel + size.toNat - 1) / 0x1000 < 0x1000 := by
  let marked : Chip := { page := fun page _ => if page < 0x1000 then 0 else 1, beside := fun _ => 0 }
  obtain ⟨_, words⟩ := dumpsFifo_run accepts pages dumps marked
  have shows : ∀ register position, marked.window register position = 0 := by
    intro register position
    unfold Chip.window
    split
    · exact if_pos (Nat.mod_lt _ (by decide))
    · rfl
  generalize (start_addr.toNat + fifo_shift adapter sel) % 2 ^ 32 = offset at words
  have zero := @maintains_read_pages marked size.toNat _ (maintains_zero shows) (fun _ _ zero => zero) (0 &&& 0xF000)
    MAX_PAGES (offset / 0x1000 + first_page) (offset % 0x1000) 0 gated (fun _ => rfl)
  have last := words (size.toNat - 1) (by omega)
  rw [zero] at last
  apply Nat.lt_of_not_le
  intro beyond
  have place : start_addr.toNat + (size.toNat - 1) + fifo_shift adapter sel =
      start_addr.toNat + fifo_shift adapter sel + size.toNat - 1 := by omega
  have one : marked.page (first_page + (start_addr.toNat + fifo_shift adapter sel + size.toNat - 1) / 0x1000)
      ((start_addr.toNat + fifo_shift adapter sel + size.toNat - 1) % 0x1000) = 1 := if_neg (Nat.not_lt.mpr beyond)
  unfold fifo at last
  rw [place, one] at last
  exact absurd last (by decide)

private def ones_beside : Chip where
  page := fun _ _ => 0
  beside := fun _ => 1

theorem aligned_of_dumps {first_page : Nat} (accepts : Accepts adapter sel start_addr size)
    (pages : sel.first_page = some first_page) (dumps : DumpsFifo adapter sel start_addr size)
    (nameable : first_page + (start_addr.toNat + fifo_shift adapter sel + size.toNat - 1) / 0x1000 < 0x1000) :
    start_addr.toNat % 4 = 0 ∨ (start_addr.toNat + fifo_shift adapter sel) % 0x1000 + size.toNat ≤ 0x1000 := by
  obtain ⟨_, _, whole, _⟩ := accepts_facts accepts
  have bounded := size.toNat_lt
  obtain ⟨_, words⟩ := dumpsFifo_run accepts pages dumps ones_beside
  rw [Nat.mod_eq_of_lt (by omega)] at words
  by_cases aligned : start_addr.toNat % 4 = 0
  · exact Or.inl aligned
  · refine Or.inr (Nat.le_of_not_lt fun crosses => ?_)
    have shift_words : fifo_shift adapter sel % 4 = 0 := by
      unfold fifo_shift
      split <;> omega
    generalize place_is : start_addr.toNat + fifo_shift adapter sel = place at crosses words
    -- the last word that begins in the window
    generalize count_is : (0xFFF - place % 0x1000) / 4 = count
    have written : ∀ register, ((gated.turned register).copied (ones_beside.window register)
        (0x8000 + place % 0x1000) 0 (count + 1)).data (4 * count + 3) = 1 := by
      intro register
      have length : 4 * count + 3 <
          (Memory.read (ones_beside.window register) (0x8000 + place % 0x1000) (4 * (count + 1))).length := by
        rw [Memory.length_read]
        omega
      have cell := @Memory.write_of_inside _ (gated.turned register).data 0 (4 * count + 3) _ length
      rw [Nat.zero_add, Memory.getElem_read] at cell
      refine cell.trans (if_neg ?_)
      omega
    have kept : (read_pages ones_beside size.toNat (0 &&& 0xF000) MAX_PAGES (place / 0x1000 + first_page) (place % 0x1000) 0
        gated).2.data (4 * count + 3) = 1 := by
      by_cases last : 0 + 4 * (count + 1) = size.toNat
      · have ends := @read_window_ends ones_beside size.toNat 1025 (0x8000 + place % 0x1000) 0 count
          (gated.turned (((place / 0x1000 + first_page) ||| (0 &&& 0xF000)) % 2 ^ 16)) bounded (by omega) (by omega) last
        have run := @read_pages_last ones_beside size.toNat (0 &&& 0xF000) (2 ^ 20) _ _ _ _ _ ends
        show (read_pages ones_beside size.toNat (0 &&& 0xF000) (2 ^ 20 + 1) _ _ 0 gated).2.data _ = 1
        rw [run]
        exact written _
      · have full := @read_window_full ones_beside size.toNat 1025 (0x8000 + place % 0x1000) 0 (count + 1)
          (gated.turned (((place / 0x1000 + first_page) ||| (0 &&& 0xF000)) % 2 ^ 16)) bounded (by omega) (by omega)
          (by omega)
        have run := @read_pages_step ones_beside size.toNat (0 &&& 0xF000) (2 ^ 20) _ _ _ _ _ _ full
        show (read_pages ones_beside size.toNat (0 &&& 0xF000) (2 ^ 20 + 1) _ _ 0 gated).2.data _ = 1
        rw [run, read_pages_keeps bounded whole _ _ _ _ _ _ (by omega) (by omega) _ (by omega)]
        exact written _
    have word := words (4 * count + 3) (by omega)
    have zero : fifo ones_beside adapter sel first_page (start_addr.toNat + (4 * count + 3)) = 0 := rfl
    rw [kept, zero] at word
    exact absurd word (by decide)

/-- A dump that is let through is right if and only if there is something to copy, no word lies
across the end of the window, and the register can name the last page. -/
theorem dumpsFifo_iff (accepts : Accepts adapter sel start_addr size) :
    DumpsFifo adapter sel start_addr size <->
      size.toNat ≠ 0 ∧
        (start_addr.toNat % 4 = 0 ∨ (start_addr.toNat + fifo_shift adapter sel) % 0x1000 + size.toNat ≤ 0x1000) ∧
        sel.first_page.getD 0 + (start_addr.toNat + fifo_shift adapter sel + size.toNat - 1) / 0x1000 < 0x1000 := by
  have ⟨_, _, _, first_page, pages⟩ := accepts_facts accepts
  rw [pages, Option.getD_some]
  constructor
  · intro dumps
    have some_bytes := some_bytes_of_dumps accepts pages dumps
    have nameable := nameable_of_dumps accepts pages dumps some_bytes
    exact ⟨some_bytes, aligned_of_dumps accepts pages dumps nameable, nameable⟩
  · intro ⟨some_bytes, aligned, nameable⟩
    exact dumpsFifo_of_window accepts pages some_bytes aligned nameable

private theorem endless_read_window (chip : Chip) (length turns : Nat) :
    ∀ i cnt, Program.ErrorsIn (fun code => code = .ENDLESS) (read_window chip length turns i cnt) := by
  induction turns with
  | zero =>
      intro i cnt state code next failure
      cases failure
      rfl
  | succ turns later =>
      exact fun i cnt => Program.errorsIn_ite
        ((Program.errorsIn_update _ _).bind fun _ =>
          Program.errorsIn_ite (Program.errorsIn_pure _ _) (later _ _))
        (Program.errorsIn_pure _ _)

private theorem endless_read_pages (chip : Chip) (length value32 turns : Nat) :
    ∀ start_pg residue cnt,
      Program.ErrorsIn (fun code => code = .ENDLESS) (read_pages chip length value32 turns start_pg residue cnt) := by
  induction turns with
  | zero =>
      intro start_pg residue cnt state code next failure
      cases failure
      rfl
  | succ turns later =>
      intro start_pg residue cnt
      refine (Program.errorsIn_update _ _).bind fun _ => (endless_read_window _ _ _ _ _).bind fun left => ?_
      cases left with
      | none => exact Program.errorsIn_pure _ _
      | some copied => exact later _ _ _

theorem accepts_of_checks {first_page : Nat} (pages : sel.first_page = some first_page)
    (tx : (!(sel == .TX && decide (start_addr + size > adapter.tx_fifo_size))) = true)
    (rx : (!(sel == .RX && decide (start_addr + size > adapter.rx_fifo_size))) = true)
    (words : size.toNat % 4 = 0) : Accepts adapter sel start_addr size := by
  intro chip state code failure
  rw [dump_fifo_checked tx rx words, read_buf_of_page pages] at failure
  have errors : ∀ register value32 start_pg residue,
      Program.ErrorsIn (fun code => code = .ENDLESS)
        (read_pages chip size.toNat value32 MAX_PAGES start_pg residue 0 >>= fun _ =>
          Program.update fun after => after.turned register) :=
    fun _ _ _ _ => (endless_read_pages _ _ _ _ _ _ _).bind fun _ => Program.errorsIn_update _ _
  exact errors _ _ _ _ _ code _ (Prod.ext failure rfl)

def DumpAdapter.of8821c : DumpAdapter where
  tx_fifo_size := 65536
  rx_fifo_size := 16384
  rsvd_boundary := 464

/-- The first two pages of the transmit FIFO are dumped. -/
theorem dumpsFifo_two_pages : DumpsFifo .of8821c .TX 0 8192 :=
  (@dumpsFifo_iff .of8821c .TX 0 8192 (@accepts_of_checks .of8821c .TX 0 8192 0x780 rfl rfl rfl rfl)).mpr
    ⟨by decide, by decide, by decide⟩

/-- A dump of no bytes, one that starts in the middle of a word, and one from a page that the
register cannot name are let through, and none of them is right. -/
theorem dumpsFifo_misses :
    (Accepts .of8821c .TX 0 0 ∧ ¬ DumpsFifo .of8821c .TX 0 0) ∧
      (Accepts .of8821c .TX 2 4096 ∧ ¬ DumpsFifo .of8821c .TX 2 4096) ∧
      (Accepts .of8821c .LLT 0x9b0000 4 ∧ ¬ DumpsFifo .of8821c .LLT 0x9b0000 4) := by
  have empty := @accepts_of_checks .of8821c .TX 0 0 0x780 rfl rfl rfl rfl
  have unaligned := @accepts_of_checks .of8821c .TX 2 4096 0x780 rfl rfl rfl rfl
  have beyond := @accepts_of_checks .of8821c .LLT 0x9b0000 4 0x650 rfl rfl rfl rfl
  refine ⟨⟨empty, fun dumps => ?_⟩, ⟨unaligned, fun dumps => ?_⟩, beyond, fun dumps => ?_⟩
  · exact some_bytes_of_dumps empty rfl dumps rfl
  · exact absurd (aligned_of_dumps unaligned rfl dumps (by decide)) (by decide)
  · exact absurd (nameable_of_dumps beyond rfl dumps (by decide)) (by decide)

end FifoDump

end Rtl8821ce
