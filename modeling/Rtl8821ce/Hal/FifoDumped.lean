import Rtl8821ce.Hal.FifoDump

/-!
# What a dump of a FIFO copies

The words of a page follow one another in the window and in the buffer, so a page is copied
as one range.  This needs words that do not lie across the end of the window, and pages that
the twelve bits of the register can name.
-/

namespace Rtl8821ce

namespace FifoDump

open Program (Maintains bind_of_ok maintains_ite maintains_pure maintains_stop)

/-- The state after `count` words from the offset `cnt` on. -/
def DumpState.copied (state : DumpState) (source : ByteMap) (i cnt count : Nat) : DumpState :=
  { state with
    data := Memory.write state.data cnt (Memory.read source i (4 * count))
    writes := state.writes ++ (List.range count).map (fun k => cnt + 4 * k) }

theorem copied_zero (state : DumpState) (source : ByteMap) (i cnt : Nat) : state.copied source i cnt 0 = state := by
  unfold DumpState.copied
  rw [Nat.mul_zero, Memory.read_zero, Memory.write_nil, List.range_zero, List.map_nil, List.append_nil]

theorem copied_register (state : DumpState) (source : ByteMap) (i cnt count : Nat) :
    (state.copied source i cnt count).pktbuf_dbg_ctrl = state.pktbuf_dbg_ctrl := rfl

theorem copied_add (state : DumpState) (source : ByteMap) (i cnt first second : Nat) :
    (state.copied source i cnt first).copied source (i + 4 * first) (cnt + 4 * first) second =
      state.copied source i cnt (first + second) := by
  have joined := Memory.write_append state.data cnt (Memory.read source i (4 * first))
    (Memory.read source (i + 4 * first) (4 * second))
  rw [Memory.length_read, ← Memory.read_add, ← Nat.mul_add] at joined
  have places : ∀ k, cnt + 4 * (first + k) = cnt + 4 * first + 4 * k := fun k => by omega
  unfold DumpState.copied
  simp only [joined, List.append_assoc, List.range_add, List.map_append, List.map_map, Function.comp_def, places]

variable {chip : Chip} {size : Nat}

theorem copy_word_apply (i cnt : Nat) (state : DumpState) :
    copy_word chip i cnt state = (.ok ⟨⟩, state.copied (chip.window state.pktbuf_dbg_ctrl) i cnt 1) := rfl

theorem read_window_step {turns i cnt : Nat} {state : DumpState} (bounded : size < 2 ^ 32) (inside : i ≤ 0x8FFF)
    (before : cnt + 4 < size) :
    read_window chip size (turns + 1) i cnt state =
      read_window chip size turns (i + 4) (cnt + 4) (state.copied (chip.window state.pktbuf_dbg_ctrl) i cnt 1) := by
  have same : (cnt + 4) % 2 ^ 32 = cnt + 4 := Nat.mod_eq_of_lt (by omega)
  show (if i ≤ 0x8FFF then _ else _ : DumpM (Option Nat)) state = _
  rw [if_pos inside, bind_of_ok (copy_word_apply i cnt state)]
  show (if size = (cnt + 4) % 2 ^ 32 then _ else _ : DumpM (Option Nat)) _ = _
  rw [same, if_neg (by omega)]

theorem read_window_last {turns i cnt : Nat} {state : DumpState} (bounded : size < 2 ^ 32) (inside : i ≤ 0x8FFF)
    (last : cnt + 4 = size) :
    read_window chip size (turns + 1) i cnt state =
      (.ok none, state.copied (chip.window state.pktbuf_dbg_ctrl) i cnt 1) := by
  have same : (cnt + 4) % 2 ^ 32 = cnt + 4 := Nat.mod_eq_of_lt (by omega)
  show (if i ≤ 0x8FFF then _ else _ : DumpM (Option Nat)) state = _
  rw [if_pos inside, bind_of_ok (copy_word_apply i cnt state)]
  show (if size = (cnt + 4) % 2 ^ 32 then _ else _ : DumpM (Option Nat)) _ = _
  rw [same, if_pos last.symm]
  rfl

theorem read_window_words {i cnt : Nat} {state : DumpState} (bounded : size < 2 ^ 32) (count : Nat) :
    ∀ turns, i + 4 * count < 0x9000 + 4 -> cnt + 4 * count < size ->
      read_window chip size (count + turns) i cnt state =
        read_window chip size turns (i + 4 * count) (cnt + 4 * count)
          (state.copied (chip.window state.pktbuf_dbg_ctrl) i cnt count) := by
  induction count with
  | zero =>
      intro turns _ _
      rw [copied_zero, Nat.zero_add]
      rfl
  | succ count earlier =>
      intro turns inside before
      have split : count + 1 + turns = count + (turns + 1) := by omega
      rw [split, earlier (turns + 1) (by omega) (by omega)]
      refine (read_window_step bounded (by omega) (by omega)).trans ?_
      rw [copied_register, copied_add]
      rfl

theorem read_window_ends {turns i cnt count : Nat} {state : DumpState} (bounded : size < 2 ^ 32)
    (enough : count < turns) (inside : i + 4 * count < 0x9000) (last : cnt + 4 * (count + 1) = size) :
    read_window chip size turns i cnt state =
      (.ok none, state.copied (chip.window state.pktbuf_dbg_ctrl) i cnt (count + 1)) := by
  obtain ⟨others, rfl⟩ : ∃ others, turns = count + (others + 1) := ⟨turns - count - 1, by omega⟩
  rw [read_window_words bounded count _ (by omega) (by omega)]
  refine (read_window_last bounded (by omega) (by omega)).trans ?_
  rw [copied_register, copied_add]

theorem read_window_full {turns i cnt count : Nat} {state : DumpState} (bounded : size < 2 ^ 32)
    (enough : count < turns) (to_end : 0x9000 ≤ i + 4 * count ∧ i + 4 * count < 0x9004) (before : cnt + 4 * count < size) :
    read_window chip size turns i cnt state =
      (.ok (some (cnt + 4 * count)), state.copied (chip.window state.pktbuf_dbg_ctrl) i cnt count) := by
  obtain ⟨others, rfl⟩ : ∃ others, turns = count + (others + 1) := ⟨turns - count - 1, by omega⟩
  rw [read_window_words bounded count _ to_end.2 before]
  show (if i + 4 * count ≤ 0x8FFF then _ else _ : DumpM (Option Nat)) _ = _
  rw [if_neg (by omega)]
  rfl

def DumpState.turned (state : DumpState) (pktbuf_dbg_ctrl : Nat) : DumpState := { state with pktbuf_dbg_ctrl }

theorem copied_congr (state : DumpState) {source other : ByteMap} {i j : Nat} (cnt : Nat) {count : Nat}
    (same : Memory.read source i (4 * count) = Memory.read other j (4 * count)) :
    state.copied source i cnt count = state.copied other j cnt count := by
  unfold DumpState.copied
  rw [same]

theorem turned_register (state : DumpState) (register : Nat) : (state.turned register).pktbuf_dbg_ctrl = register := rfl

theorem turned_copied (state : DumpState) (source : ByteMap) (i cnt count register other : Nat) :
    ((state.turned register).copied source i cnt count).turned other = (state.copied source i cnt count).turned other := rfl

theorem register_page (start_pg register : Nat) :
    (start_pg ||| (register &&& 0xF000)) % 2 ^ 16 % 0x1000 = start_pg % 0x1000 := by
  have upper : (register &&& 0xF000) % 2 ^ 12 = 0 := by
    rw [Nat.and_mod_two_pow]
    exact Nat.and_zero _
  have low : (start_pg ||| (register &&& 0xF000)) % 2 ^ 12 = start_pg % 2 ^ 12 := by
    rw [Nat.or_mod_two_pow, upper, Nat.or_zero]
  omega

section

variable {adapter : DumpAdapter} {sel : HalFifoSel} {first_page : Nat}

theorem read_window_fifo {register address place length : Nat} (placed : place = address + fifo_shift adapter sel)
    (named : register % 0x1000 = first_page + place / 0x1000) (inside : place % 0x1000 + length ≤ 0x1000) :
    Memory.read (chip.window register) (0x8000 + place % 0x1000) length =
      Memory.read (fifo chip adapter sel first_page) address length := by
  refine List.map_congr_left fun i member => ?_
  have within : i < length := List.mem_range.mp member
  have in_window : 0x8000 ≤ 0x8000 + place % 0x1000 + i ∧ 0x8000 + place % 0x1000 + i ≤ 0x8FFF := by omega
  have same_page : (address + i + fifo_shift adapter sel) / 0x1000 = place / 0x1000 := by omega
  have same_offset : (address + i + fifo_shift adapter sel) % 0x1000 = 0x8000 + place % 0x1000 + i - 0x8000 := by omega
  unfold Chip.window fifo
  rw [if_pos in_window, named, same_page, same_offset]

theorem read_pages_last {value32 turns start_pg residue cnt : Nat} {state next : DumpState}
    (run : read_window chip size 1025 (0x8000 + residue) cnt (state.turned ((start_pg ||| value32) % 2 ^ 16)) =
      (.ok none, next)) :
    read_pages chip size value32 (turns + 1) start_pg residue cnt state = (.ok ⟨⟩, next) := by
  show (read_window chip size 1025 (0x8000 + residue) cnt >>= _ : DumpM Unit)
    (state.turned ((start_pg ||| value32) % 2 ^ 16)) = _
  rw [bind_of_ok run]
  rfl

theorem read_pages_step {value32 turns start_pg residue cnt copied : Nat} {state next : DumpState}
    (run : read_window chip size 1025 (0x8000 + residue) cnt (state.turned ((start_pg ||| value32) % 2 ^ 16)) =
      (.ok (some copied), next)) :
    read_pages chip size value32 (turns + 1) start_pg residue cnt state =
      read_pages chip size value32 turns (start_pg + 1) 0 copied next := by
  show (read_window chip size 1025 (0x8000 + residue) cnt >>= _ : DumpM Unit)
    (state.turned ((start_pg ||| value32) % 2 ^ 16)) = _
  rw [bind_of_ok run]

theorem read_pages_copies {start_addr : Nat} (bounded : size < 2 ^ 32) (whole : size % 4 = 0) (register : Nat)
    (nameable : first_page + (start_addr + fifo_shift adapter sel + size - 1) / 0x1000 < 0x1000) (turns : Nat) :
    ∀ (cnt place : Nat) (state : DumpState), place = start_addr + cnt + fifo_shift adapter sel ->
      cnt < size -> cnt % 4 = 0 -> place % 4 = 0 ∨ place % 0x1000 + (size - cnt) ≤ 0x1000 ->
      (start_addr + fifo_shift adapter sel + size - 1) / 0x1000 < place / 0x1000 + turns ->
      ∃ last,
        read_pages chip size (register &&& 0xF000) turns (first_page + place / 0x1000) (place % 0x1000) cnt state =
          (.ok ⟨⟩, (state.copied (fifo chip adapter sel first_page) (start_addr + cnt) cnt ((size - cnt) / 4)).turned
            last) := by
  induction turns with
  | zero =>
      intro cnt place state placed some_left
      omega
  | succ turns goes_on =>
      intro cnt place state placed some_left words aligned enough
      have named : ((first_page + place / 0x1000) ||| (register &&& 0xF000)) % 2 ^ 16 % 0x1000 =
          first_page + place / 0x1000 := by
        rw [register_page]
        omega
      generalize shown_is : ((first_page + place / 0x1000) ||| (register &&& 0xF000)) % 2 ^ 16 = shown at named
      have placed_from : place = (start_addr + cnt) + fifo_shift adapter sel := placed
      by_cases fits : place % 0x1000 + (size - cnt) ≤ 0x1000
      · have ends := @read_window_ends chip size 1025 (0x8000 + place % 0x1000) cnt ((size - cnt) / 4 - 1)
          (state.turned shown) bounded (by omega) (by omega) (by omega)
        have count : (size - cnt) / 4 - 1 + 1 = (size - cnt) / 4 := by omega
        have same := @read_window_fifo chip adapter sel first_page shown (start_addr + cnt) place
          (4 * ((size - cnt) / 4)) placed_from named (by omega)
        rw [count, turned_register, copied_congr _ cnt same, ← shown_is] at ends
        exact ⟨_, read_pages_last ends⟩
      · have full := @read_window_full chip size 1025 (0x8000 + place % 0x1000) cnt ((0x1000 - place % 0x1000) / 4)
          (state.turned shown) bounded (by omega) (by omega) (by omega)
        have same := @read_window_fifo chip adapter sel first_page shown (start_addr + cnt) place
          (4 * ((0x1000 - place % 0x1000) / 4)) placed_from named (by omega)
        generalize count_is : (0x1000 - place % 0x1000) / 4 = count at full same
        have next_page : (place + 4 * count) / 0x1000 = place / 0x1000 + 1 := by omega
        have next_offset : (place + 4 * count) % 0x1000 = 0 := by omega
        have ⟨last, rest⟩ := goes_on (cnt + 4 * count) (place + 4 * count)
          ((state.turned shown).copied (fifo chip adapter sel first_page) (start_addr + cnt) cnt count) (by omega)
          (by omega) (by omega) (Or.inl (by omega)) (by omega)
        rw [next_page, next_offset, ← Nat.add_assoc, ← Nat.add_assoc, copied_add] at rest
        have whole_count : count + (size - (cnt + 4 * count)) / 4 = (size - cnt) / 4 := by omega
        rw [turned_register, copied_congr _ cnt same] at full
        rw [whole_count, turned_copied] at rest
        rw [← shown_is] at full rest
        exact ⟨last, (read_pages_step full).trans rest⟩

end

theorem read_window_keeps (bounded : size < 2 ^ 32) (whole : size % 4 = 0) (turns : Nat) :
    ∀ (i cnt : Nat) (state : DumpState), cnt < size -> cnt % 4 = 0 ->
      (∀ position, position < cnt ->
        (read_window chip size turns i cnt state).2.data position = state.data position) ∧
        ∀ copied, (read_window chip size turns i cnt state).1 = .ok (some copied) ->
          cnt ≤ copied ∧ copied < size ∧ copied % 4 = 0 := by
  induction turns with
  | zero =>
      intro i cnt state _ _
      exact ⟨fun _ _ => rfl, fun _ found => nomatch found⟩
  | succ turns later =>
      intro i cnt state some_left words
      have written : ∀ position, position < cnt ->
          (state.copied (chip.window state.pktbuf_dbg_ctrl) i cnt 1).data position = state.data position :=
        fun position before => Memory.write_of_outside _ (Or.inl before)
      by_cases inside : i ≤ 0x8FFF
      · by_cases last : cnt + 4 = size
        · rw [read_window_last bounded inside last]
          exact ⟨written, fun _ none => nomatch none⟩
        · rw [read_window_step bounded inside (by omega)]
          have ⟨kept, copies⟩ := later (i + 4) (cnt + 4)
            (state.copied (chip.window state.pktbuf_dbg_ctrl) i cnt 1) (by omega) (by omega)
          refine ⟨fun position before => ?_, fun copied found => ?_⟩
          · rw [kept position (by omega), written position before]
          · have found_facts := copies copied found
            omega
      · have stopped : read_window chip size (turns + 1) i cnt state = (.ok (some cnt), state) := by
          show (if i ≤ 0x8FFF then _ else _ : DumpM (Option Nat)) state = _
          rw [if_neg inside]
          rfl
        rw [stopped]
        refine ⟨fun _ _ => rfl, fun copied found => ?_⟩
        cases found
        omega

theorem read_pages_keeps (bounded : size < 2 ^ 32) (whole : size % 4 = 0) (value32 turns : Nat) :
    ∀ (start_pg residue cnt : Nat) (state : DumpState), cnt < size -> cnt % 4 = 0 ->
      ∀ position, position < cnt ->
        (read_pages chip size value32 turns start_pg residue cnt state).2.data position = state.data position := by
  induction turns with
  | zero =>
      intro start_pg residue cnt state _ _ position _
      rfl
  | succ turns later =>
      intro start_pg residue cnt state some_left words position before
      obtain ⟨kept, copies⟩ := @read_window_keeps chip size bounded whole 1025 (0x8000 + residue) cnt
        (state.turned ((start_pg ||| value32) % 2 ^ 16)) some_left words
      cases run : read_window chip size 1025 (0x8000 + residue) cnt
          (state.turned ((start_pg ||| value32) % 2 ^ 16)) with
      | mk answer next =>
          rw [run] at kept copies
          cases answer with
          | error code =>
              have stopped : read_pages chip size value32 (turns + 1) start_pg residue cnt state = (.error code, next) := by
                show (read_window chip size 1025 (0x8000 + residue) cnt >>= _ : DumpM Unit)
                  (state.turned ((start_pg ||| value32) % 2 ^ 16)) = _
                exact Program.bind_of_error run
              rw [stopped]
              exact kept position before
          | ok left =>
              cases left with
              | none =>
                  rw [read_pages_last run]
                  exact kept position before
              | some copied =>
                  obtain ⟨further, inside, aligned⟩ := copies copied rfl
                  rw [read_pages_step run, later _ _ _ _ inside aligned position (by omega)]
                  exact kept position before

theorem maintains_read_window {invariant : DumpState -> Prop}
    (copies : ∀ i cnt, Maintains invariant (copy_word chip i cnt)) (turns : Nat) :
    ∀ i cnt, Maintains invariant (read_window chip size turns i cnt) := by
  induction turns with
  | zero => exact fun _ _ => maintains_stop _ _
  | succ turns later =>
      exact fun i cnt => maintains_ite
        ((copies i cnt).bind fun _ => maintains_ite (maintains_pure _ _) (later _ _))
        (maintains_pure _ _)

/-- What neither a word nor the register changes holds after all pages. -/
theorem maintains_read_pages {invariant : DumpState -> Prop}
    (copies : ∀ i cnt, Maintains invariant (copy_word chip i cnt))
    (turns_page : ∀ state register, invariant state -> invariant (state.turned register)) (value32 turns : Nat) :
    ∀ start_pg residue cnt,
      Maintains invariant (read_pages chip size value32 turns start_pg residue cnt) := by
  induction turns with
  | zero => exact fun _ _ _ => maintains_stop _ _
  | succ turns later =>
      intro start_pg residue cnt
      refine Maintains.bind (Program.maintains_update fun state holds => turns_page state _ holds) fun _ =>
        (maintains_read_window copies _ _ _).bind fun left => ?_
      cases left with
      | none => exact maintains_pure _ _
      | some copied => exact later _ _ _

end FifoDump

end Rtl8821ce
