import Rtl8821ce.Hal.ScanList

/-!
# Runs of the channel-switch list

The buffer reads as the entries that were accepted since it was cleared.  Two kinds of calls
spoil it: one with a value that is wider than its field, and extra information at the last
bytes of the buffer that is shorter than the word its fields are set in.
-/

namespace Rtl8821ce

namespace ChSwitch

/-- The list with the entries that were accepted since it was cleared. -/
structure History where
  scan : Scan
  accepted : List Entry

def ScanOp.entries (accepted : List Entry) : ScanOp -> List Entry
  | .clear => []
  | .add _ info => accepted ++ [.channel info]
  | .addExtra info => accepted ++ [.extra info]

def History.step (history : History) (op : ScanOp) : History :=
  match op.call history.scan with
  | (.ok _, scan) => ⟨scan, op.entries history.accepted⟩
  | (.error _, scan) => { history with scan }

def History.start (dlfw_state : DlfwState) (cmd_cnstr_state : CmdConstructState) (cells : ByteMap) : History :=
  ⟨⟨dlfw_state, cmd_cnstr_state, ⟨0, 0, 0, 0, 0, 0, 0⟩, cells, false⟩, []⟩

def Entry.isChannel : Entry -> Bool
  | .channel _ => true
  | .extra _ => false

structure Sound (history : History) : Prop where
  buf_wptr : history.scan.ch_sw_info.buf_wptr = history.scan.ch_sw_info.buf + history.scan.ch_sw_info.total_size
  sizes : history.scan.ch_sw_info.avl_buf_size + history.scan.ch_sw_info.total_size = history.scan.ch_sw_info.buf_size
  inside : history.scan.outside = false
  ch_num : history.scan.ch_sw_info.ch_num = history.accepted.countP Entry.isChannel
  entries : read_entries (Memory.read history.scan.cells history.scan.ch_sw_info.buf history.scan.ch_sw_info.total_size) =
    some history.accepted

/-- Besides, nothing is in a list without a buffer, and the flag is that of the last entry. -/
structure Kept (history : History) : Prop extends Sound history where
  null : history.scan.ch_sw_info.buf = 0 -> history.scan.ch_sw_info.total_size = 0
  pending : history.scan.ch_sw_info.extra_info_en = if layout.after false history.accepted then 1 else 0

/-- The call is refused, or its values fit and its fields are set inside the buffer. -/
def Meets (history : History) : ScanOp -> Prop
  | .clear => True
  | .add malloc info => history.scan.TakesChannel malloc -> info.Fits
  | .addExtra info =>
      history.scan.TakesExtra info.extra_info_size.toNat ->
        info.Fits ∧ 4 ≤ history.scan.ch_sw_info.avl_buf_size

theorem read_entries_concat {cells after : ByteMap} {buf total size : Nat} {accepted : List Entry} {entry : Entry}
    (entries : read_entries (Memory.read cells buf total) = some accepted)
    (before : ∀ position, position < buf + total -> after position = cells position)
    (read : read_entry (layout.after false accepted) (Memory.read after (buf + total) size) = some entry)
    (whole : entry.size = size) (positive : 0 < size) :
    read_entries (Memory.read after buf (total + size)) = some (accepted ++ [entry]) := by
  have front : Memory.read after buf total = Memory.read cells buf total :=
    Memory.read_congr (fun i inside => before (buf + i) (Nat.add_lt_add_left inside buf))
  have nonempty : Memory.read after (buf + total) size ≠ [] := by
    rw [← List.length_pos_iff, Memory.length_read]
    exact positive
  have last : entry.size = (Memory.read after (buf + total) size).length := by
    rw [Memory.length_read, whole]
  have longer := layout.readAll_concat entries nonempty read last
  unfold read_entries
  rw [Memory.read_add, front]
  refine layout.readAll_mono ?_ longer
  rw [List.length_append, @Memory.length_read _ after]
  exact Nat.add_le_add_left positive _

variable {scan : Scan} {accepted : List Entry}

theorem within_iff {info : ChSwInfo} {place count : Nat} :
    info.within place count = true <-> info.buf ≤ place ∧ place + count ≤ info.buf + info.buf_size :=
  decide_eq_true_iff

theorem Kept.allocated (kept : Kept ⟨scan, accepted⟩) (malloc : Nat) (cmd_cnstr_state : CmdConstructState) :
    Kept ⟨{ scan.allocated malloc with cmd_cnstr_state }, accepted⟩ := by
  unfold Scan.allocated
  by_cases held : scan.ch_sw_info.buf = 0
  · rw [if_neg (not_not.mpr held)]
    have none_read := kept.entries
    have ch_num := kept.ch_num
    dsimp only at none_read ch_num
    rw [kept.null held] at none_read
    have empty : accepted = [] := (Option.some.inj none_read).symm
    rw [empty]
    exact ⟨⟨rfl, rfl, kept.inside, rfl, rfl⟩, fun _ => rfl, rfl⟩
  · rw [if_pos held]
    exact ⟨⟨kept.buf_wptr, kept.sizes, kept.inside, kept.ch_num, kept.entries⟩, kept.null, kept.pending⟩

theorem Kept.not_pending (kept : Kept ⟨scan, accepted⟩) (flag : scan.ch_sw_info.extra_info_en ≠ 1) :
    layout.after false accepted = false := by
  have same := kept.pending
  cases waiting : layout.after false accepted with
  | false => rfl
  | true =>
      dsimp only at same
      rw [waiting, if_pos rfl] at same
      exact absurd same flag

theorem Kept.is_pending (kept : Kept ⟨scan, accepted⟩) (flag : scan.ch_sw_info.extra_info_en ≠ 0) :
    layout.after false accepted = true := by
  have same := kept.pending
  cases waiting : layout.after false accepted with
  | true => rfl
  | false =>
      dsimp only at same
      rw [waiting, if_neg Bool.false_ne_true] at same
      exact absurd same flag

theorem pending_concat (accepted : List Entry) {entry : Entry} (flag : entry.extra_info.toNat < 2 ^ 1) :
    entry.extra_info = if layout.after false (accepted ++ [entry]) then 1 else 0 := by
  rw [layout.after_concat]
  change entry.extra_info = if decide (entry.extra_info = 1) = true then 1 else 0
  by_cases set : entry.extra_info = 1
  · rw [if_pos (decide_eq_true set), set]
  · rw [if_neg (by rw [decide_eq_true_eq]; exact set)]
    have not_one : entry.extra_info.toNat ≠ 1 := fun one => set (UInt8.toNat_inj.mp one)
    exact UInt8.toNat_inj.mp (show entry.extra_info.toNat = 0 by omega)

section channel

variable (info : ChInfo)

theorem Kept.read_channel (kept : Kept ⟨scan, accepted⟩) (flag : scan.ch_sw_info.extra_info_en ≠ 1) :
    read_entries (Memory.read (scan.put_ch_info info).cells scan.ch_sw_info.buf (scan.ch_sw_info.total_size + 4)) =
      some (accepted ++ [.channel info.stored]) := by
  have place : scan.ch_sw_info.buf_wptr = scan.ch_sw_info.buf + scan.ch_sw_info.total_size := kept.buf_wptr
  refine read_entries_concat kept.entries ?_ ?_ rfl (by decide)
  · intro position below
    rw [← place] at below
    exact info.write_of_outside scan.cells (Or.inl below)
  · rw [kept.not_pending flag, ← place]
    exact read_entry_channel info scan.cells scan.ch_sw_info.buf_wptr

theorem Kept.put_ch_info (kept : Kept ⟨scan, accepted⟩) (flag : scan.ch_sw_info.extra_info_en ≠ 1)
    (room : 4 ≤ scan.ch_sw_info.avl_buf_size) (fits : info.Fits) (null : scan.ch_sw_info.buf ≠ 0) :
    Kept ⟨scan.put_ch_info info, accepted ++ [.channel info]⟩ := by
  have wptr : scan.ch_sw_info.buf_wptr = scan.ch_sw_info.buf + scan.ch_sw_info.total_size := kept.buf_wptr
  have sizes : scan.ch_sw_info.avl_buf_size + scan.ch_sw_info.total_size = scan.ch_sw_info.buf_size := kept.sizes
  refine ⟨⟨?_, ?_, ?_, ?_, ?_⟩, fun none => absurd none null,
    @pending_concat accepted (.channel info) fits.extra_info⟩
  · show scan.ch_sw_info.buf_wptr + 4 = scan.ch_sw_info.buf + (scan.ch_sw_info.total_size + 4)
    rw [wptr, Nat.add_assoc]
  · show scan.ch_sw_info.avl_buf_size - 4 + (scan.ch_sw_info.total_size + 4) = scan.ch_sw_info.buf_size
    omega
  · show (scan.outside || !scan.ch_sw_info.within scan.ch_sw_info.buf_wptr 4) = false
    rw [show scan.outside = false from kept.inside, within_iff.mpr ⟨by omega, by omega⟩]
    rfl
  · show scan.ch_sw_info.ch_num + 1 = _
    rw [List.countP_append, ← show scan.ch_sw_info.ch_num = _ from kept.ch_num]
    rfl
  · have read := kept.read_channel info flag
    rw [ChInfo.stored_eq_iff.mpr fits] at read
    exact read

theorem Kept.fits_of_sound (kept : Kept ⟨scan, accepted⟩) (flag : scan.ch_sw_info.extra_info_en ≠ 1)
    (sound : Sound ⟨scan.put_ch_info info, accepted ++ [.channel info]⟩) : info.Fits := by
  have same := (kept.read_channel info flag).symm.trans sound.entries
  rw [Option.some.injEq, List.append_cancel_left_eq, List.cons.injEq, Entry.channel.injEq] at same
  exact ChInfo.stored_eq_iff.mp same.1

end channel

section extra

variable (info : ChExtraInfo)

theorem Kept.read_extra (kept : Kept ⟨scan, accepted⟩) (flag : scan.ch_sw_info.extra_info_en ≠ 0) :
    read_entries (Memory.read (scan.put_ch_extra_info info).cells scan.ch_sw_info.buf
        (scan.ch_sw_info.total_size + (2 + info.extra_info_size.toNat))) =
      some (accepted ++ [.extra info.stored]) := by
  have place : scan.ch_sw_info.buf_wptr = scan.ch_sw_info.buf + scan.ch_sw_info.total_size := kept.buf_wptr
  refine read_entries_concat kept.entries ?_ ?_ rfl (Nat.add_pos_left Nat.two_pos _)
  · intro position below
    rw [← place] at below
    exact info.write_before scan.cells below
  · rw [kept.is_pending flag, ← place]
    exact read_entry_extra info scan.cells scan.ch_sw_info.buf_wptr

theorem Kept.put_ch_extra_info (kept : Kept ⟨scan, accepted⟩) (takes : scan.TakesExtra info.extra_info_size.toNat)
    (fits : info.Fits) (room : 4 ≤ scan.ch_sw_info.avl_buf_size) :
    Kept ⟨scan.put_ch_extra_info info, accepted ++ [.extra info]⟩ := by
  have wptr : scan.ch_sw_info.buf_wptr = scan.ch_sw_info.buf + scan.ch_sw_info.total_size := kept.buf_wptr
  have sizes : scan.ch_sw_info.avl_buf_size + scan.ch_sw_info.total_size = scan.ch_sw_info.buf_size := kept.sizes
  have enough := takes.avl_buf_size
  refine ⟨⟨?_, ?_, ?_, ?_, ?_⟩, fun none => absurd none takes.buf,
    @pending_concat accepted (.extra info) fits.extra_info⟩
  · show scan.ch_sw_info.buf_wptr + _ = scan.ch_sw_info.buf + (scan.ch_sw_info.total_size + _)
    rw [wptr, Nat.add_assoc]
  · show scan.ch_sw_info.avl_buf_size - (2 + info.extra_info_size.toNat) +
      (scan.ch_sw_info.total_size + (2 + info.extra_info_size.toNat)) = scan.ch_sw_info.buf_size
    omega
  · show (scan.outside || !scan.ch_sw_info.within scan.ch_sw_info.buf_wptr 4 ||
      !scan.ch_sw_info.within (scan.ch_sw_info.buf_wptr + 2) info.extra_info_size.toNat) = false
    rw [show scan.outside = false from kept.inside, within_iff.mpr ⟨by omega, by omega⟩,
      within_iff.mpr ⟨by omega, by omega⟩]
    rfl
  · show scan.ch_sw_info.ch_num = _
    rw [List.countP_append, ← show scan.ch_sw_info.ch_num = _ from kept.ch_num]
    rfl
  · have read := kept.read_extra info takes.extra_info_en
    rw [ChExtraInfo.stored_eq_iff.mpr fits] at read
    exact read

theorem Kept.extra_fits_of_sound (kept : Kept ⟨scan, accepted⟩) (flag : scan.ch_sw_info.extra_info_en ≠ 0)
    (sound : Sound ⟨scan.put_ch_extra_info info, accepted ++ [.extra info]⟩) :
    info.Fits ∧ 4 ≤ scan.ch_sw_info.avl_buf_size := by
  have wptr : scan.ch_sw_info.buf_wptr = scan.ch_sw_info.buf + scan.ch_sw_info.total_size := kept.buf_wptr
  have sizes : scan.ch_sw_info.avl_buf_size + scan.ch_sw_info.total_size = scan.ch_sw_info.buf_size := kept.sizes
  have same := (kept.read_extra info flag).symm.trans sound.entries
  rw [Option.some.injEq, List.append_cancel_left_eq, List.cons.injEq, Entry.extra.injEq] at same
  have inside : (scan.outside || !scan.ch_sw_info.within scan.ch_sw_info.buf_wptr 4 ||
      !scan.ch_sw_info.within (scan.ch_sw_info.buf_wptr + 2) info.extra_info_size.toNat) = false := sound.inside
  rw [Bool.or_eq_false_iff, Bool.or_eq_false_iff, Bool.not_eq_false', within_iff] at inside
  exact ⟨ChExtraInfo.stored_eq_iff.mp same.1, by omega⟩

end extra

theorem step_of_outcome {history : History} {op : ScanOp} {takes : Prop} {next : Scan}
    (outcome : Outcome takes history.scan next (op.call history.scan)) :
    takes ∧ history.step op = ⟨next, op.entries history.accepted⟩ ∨ ¬ takes ∧ history.step op = history := by
  unfold History.step
  cases result : op.call history.scan with
  | mk answer after =>
      rw [result] at outcome
      cases answer with
      | ok value => exact Or.inl ⟨outcome.1, congrArg (History.mk · _) outcome.2⟩
      | error code => exact Or.inr ⟨outcome.1, congrArg (History.mk · _) outcome.2⟩

theorem allocated_facts {malloc : Nat} (takes : scan.TakesChannel malloc) :
    (scan.allocated malloc).ch_sw_info.extra_info_en ≠ 1 ∧ 4 ≤ (scan.allocated malloc).ch_sw_info.avl_buf_size ∧
      (scan.allocated malloc).ch_sw_info.buf ≠ 0 := by
  unfold Scan.allocated
  by_cases held : scan.ch_sw_info.buf = 0
  · rw [if_neg (not_not.mpr held)]
    exact ⟨show (0 : UInt8) ≠ 1 by decide, show 4 ≤ Offload.SCAN_INFO_RSVDPG_SIZE by decide, takes.buf held⟩
  · rw [if_pos held]
    exact ⟨takes.extra_info_en held, takes.avl_buf_size held, held⟩

theorem Kept.step {history : History} (kept : Kept history) {op : ScanOp} (meets : Meets history op) :
    Kept (history.step op) := by
  cases op with
  | clear =>
      rcases @step_of_outcome history .clear _ _ (clear_ch_info_outcome history.scan) with ⟨_, cleared⟩ | ⟨_, same⟩
      · rw [cleared]
        exact ⟨⟨rfl, rfl, kept.inside, rfl, rfl⟩, fun _ => rfl, rfl⟩
      · rw [same]
        exact kept
  | add malloc info =>
      rcases @step_of_outcome history (.add malloc info) _ _ (add_ch_info_outcome malloc info history.scan) with ⟨takes, taken⟩ | ⟨_, same⟩
      · have ⟨flag, room, null⟩ := allocated_facts takes
        rw [taken]
        exact (kept.allocated malloc .CNSTR).put_ch_info info flag room (meets takes) null
      · rw [same]
        exact kept
  | addExtra info =>
      rcases @step_of_outcome history (.addExtra info) _ _ (add_extra_ch_info_outcome info history.scan) with ⟨takes, taken⟩ | ⟨_, same⟩
      · rw [taken]
        exact kept.put_ch_extra_info info takes (meets takes).1 (meets takes).2
      · rw [same]
        exact kept

theorem Kept.meets {history : History} (kept : Kept history) {op : ScanOp} (sound : Sound (history.step op)) :
    Meets history op := by
  cases op with
  | clear => trivial
  | add malloc info =>
      intro takes
      rcases @step_of_outcome history (.add malloc info) _ _ (add_ch_info_outcome malloc info history.scan) with ⟨_, taken⟩ | ⟨refused, _⟩
      · rw [taken] at sound
        exact (kept.allocated malloc .CNSTR).fits_of_sound info (allocated_facts takes).1 sound
      · exact absurd takes refused
  | addExtra info =>
      intro takes
      rcases @step_of_outcome history (.addExtra info) _ _ (add_extra_ch_info_outcome info history.scan) with ⟨_, taken⟩ | ⟨refused, _⟩
      · rw [taken] at sound
        exact kept.extra_fits_of_sound info takes.extra_info_en sound
      · exact absurd takes refused

theorem kept_start (dlfw_state : DlfwState) (cmd_cnstr_state : CmdConstructState) (cells : ByteMap) :
    Kept (History.start dlfw_state cmd_cnstr_state cells) :=
  ⟨⟨rfl, rfl, rfl, rfl, rfl⟩, fun _ => rfl, rfl⟩

/-- The list is sound in every state of a run exactly when every call that is accepted has
values that fit and a whole word left for its fields; and a call that is refused changes
nothing. -/
theorem channel_list_iff (dlfw_state : DlfwState) (cmd_cnstr_state : CmdConstructState) (cells : ByteMap)
    (ops : List ScanOp) :
    ((∀ done, done <+: ops ->
        Sound (Run.execute History.step (History.start dlfw_state cmd_cnstr_state cells) done)) <->
      Run.Guarded History.step Meets (History.start dlfw_state cmd_cnstr_state cells) ops) ∧
      ∀ (scan : Scan) (op : ScanOp) (code : Offload.HalmacRet),
        (op.call scan).1 = .error code -> (op.call scan).2 = scan :=
  ⟨Run.guarded_iff_promised (fun _ kept => kept.toSound) (fun _ _ meets kept => kept.step meets)
    (fun _ _ kept sound => kept.meets sound) (kept_start dlfw_state cmd_cnstr_state cells) ops,
    fun _ _ _ error => unchanged_of_error error⟩

/-- Two pieces of 123 bytes leave two bytes of the buffer, which the last piece takes. -/
def full_list : List ScanOp :=
  let piece (extra_info : UInt8) : ChExtraInfo := ⟨extra_info, 1, 123, List.replicate 123 0, rfl⟩
  [.clear, .add 0x1000 ⟨1, 0, 0, 36, 20, 1⟩, .addExtra (piece 1), .addExtra (piece 1), .addExtra ⟨0, 1, 0, [], rfl⟩]

/-- The fields of the last piece are set in four bytes. -/
theorem channel_list_writes_outside :
    ¬ ∀ ops done, done <+: ops ->
      Sound (Run.execute History.step (History.start .GEN_INFO_SENT .IDLE (fun _ => 0)) done) := by
  intro sound
  have outside : (Run.execute History.step (History.start .GEN_INFO_SENT .IDLE (fun _ => 0)) full_list).scan.outside =
      true := by decide
  exact absurd ((sound full_list full_list (List.prefix_refl _)).inside.symm.trans outside) (by decide)

end ChSwitch

end Rtl8821ce
