import Rtl8821ce.Library.ReorderWindow
import Rtl8821ce.Library.SerialNumber
import Rtl8821ce.Recv.Frame

/-!
# The receive reorder engine

`recv_indicatepkt_reorder` puts the frames of one block-ack session back into
the order of their sequence numbers.  The sequence numbers have twelve bits
and are compared by one bit of their difference, which is an order only for
numbers less than half a circle apart.  `indicate_seq` starts at `0xFFFF`,
which is no sequence number: the first frame sets it.

The second half of the module computes each function on the residues of
unwrapped numbers that are close to each other, and finds there the functions
of the abstract reorder window.
-/

namespace Rtl8821ce

open SerialNumber

variable {preorder_ctrl : RecvReorderCtrl} {prframe : RecvFrame} {wsize : Nat}
  {log : ReorderWindow.Log RecvFrame}

/-- `SN_LESS(a, b)`: `((a-b) & 0x800) != 0` on promoted `int` values. -/
def SN_LESS (a b : Nat) : Bool := bitLess 32 11 a b

/-- `SN_EQUAL(a, b)`. -/
def SN_EQUAL (a b : Nat) : Bool := a == b

/-- `struct recv_reorder_ctrl`.  The timer is kept as whether it is set. -/
structure RecvReorderCtrl where
  enable : Bool
  indicate_seq : Nat
  wsize_b : Nat
  pending_recvframe_queue : List RecvFrame
  bReorderWaiting : Bool
  reordering_ctrl_timer : Bool
deriving DecidableEq

/-- Check a sequence number against the window and move the window.  The answer
is `_FALSE` for a number behind the window.  `wend` is computed before
`indicate_seq` is initialised; the first frame is then equal to `indicate_seq`
and never compared with it. -/
def check_indicate_seq (preorder_ctrl : RecvReorderCtrl) (seq_num : Nat) : Bool × RecvReorderCtrl :=
  let wsize := preorder_ctrl.wsize_b
  let wend := (((preorder_ctrl.indicate_seq : Int) + wsize - 1) % 0x1000).toNat
  let indicate_seq :=
    if preorder_ctrl.indicate_seq = 0xFFFF then seq_num else preorder_ctrl.indicate_seq
  if SN_LESS seq_num indicate_seq then
    (false, { preorder_ctrl with indicate_seq := indicate_seq })
  else if SN_EQUAL seq_num indicate_seq then
    (true, { preorder_ctrl with indicate_seq := (indicate_seq + 1) % 0x1000 })
  else if SN_LESS wend seq_num then
    -- the window end moves to the frame, possibly across 0xFFF
    if (seq_num : Int) >= (wsize : Int) - 1 then
      (true, { preorder_ctrl with indicate_seq := seq_num + 1 - wsize })
    else
      (true, { preorder_ctrl with indicate_seq := 0xFFF - (wsize - (seq_num + 1)) + 1 })
  else
    (true, { preorder_ctrl with indicate_seq := indicate_seq })

/-- Insert a frame into the pending queue; `none` is the `_FALSE` of a duplicate. -/
def enqueue_reorder_recvframe (prframe : RecvFrame) : List RecvFrame -> Option (List RecvFrame)
  | [] => some [prframe]
  | pnextrframe :: rest =>
      if SN_LESS pnextrframe.attrib.seq_num prframe.attrib.seq_num then
        (enqueue_reorder_recvframe prframe rest).map (pnextrframe :: ·)
      else if SN_EQUAL pnextrframe.attrib.seq_num prframe.attrib.seq_num then none
      else some (prframe :: pnextrframe :: rest)

/-- The loop of `recv_indicatepkts_in_order`: the frames given to
`recv_process_mpdu`, then `indicate_seq` and the queue as the loop leaves them. -/
def indicate_loop : Nat -> List RecvFrame -> List RecvFrame × Nat × List RecvFrame
  | indicate_seq, [] => ([], indicate_seq, [])
  | indicate_seq, prframe :: rest =>
      if !SN_LESS indicate_seq prframe.attrib.seq_num then
        let out := indicate_loop
          (if SN_EQUAL indicate_seq prframe.attrib.seq_num then (indicate_seq + 1) % 0x1000
            else indicate_seq) rest
        (prframe :: out.1, out.2)
      else ([], indicate_seq, prframe :: rest)

/-- Indicate what is in order.  The answer is `bPktInBuf`, except that a forced
call on an empty queue answers `_TRUE`.  `recv_process_mpdu` only counts its
failures here, so the frames given to it are returned. -/
def recv_indicatepkts_in_order (preorder_ctrl : RecvReorderCtrl) (bforced : Bool) :
    Bool × RecvReorderCtrl × List RecvFrame :=
  match bforced, preorder_ctrl.pending_recvframe_queue with
  | true, [] => (true, preorder_ctrl, [])
  | true, prframe :: rest =>
      let out := indicate_loop prframe.attrib.seq_num (prframe :: rest)
      (!out.2.2.isEmpty,
        { preorder_ctrl with indicate_seq := out.2.1, pending_recvframe_queue := out.2.2 }, out.1)
  | false, queue =>
      let out := indicate_loop preorder_ctrl.indicate_seq queue
      (!out.2.2.isEmpty,
        { preorder_ctrl with indicate_seq := out.2.1, pending_recvframe_queue := out.2.2 }, out.1)

/-- What a call of the engine answers, leaves behind and passes on. -/
structure ReorderOutcome where
  status : RecvStatus
  preorder_ctrl : RecvReorderCtrl
  processed : List RecvFrame

/-- Receive one frame.  A frame without QoS, or of a session that is not
enabled, is the caller's to process; a refused one is the caller's to free. -/
def recv_indicatepkt_reorder (preorder_ctrl : RecvReorderCtrl) (prframe : RecvFrame) : ReorderOutcome :=
  if !prframe.attrib.qos || !preorder_ctrl.enable then ⟨._SUCCESS, preorder_ctrl, []⟩
  else
    let checked := check_indicate_seq preorder_ctrl prframe.attrib.seq_num
    if !checked.1 then ⟨._FAIL, checked.2, []⟩
    else
      match enqueue_reorder_recvframe prframe checked.2.pending_recvframe_queue with
      | none => ⟨._FAIL, checked.2, []⟩
      | some queue =>
          let indicated :=
            recv_indicatepkts_in_order { checked.2 with pending_recvframe_queue := queue } false
          if indicated.1 then
            ⟨.RTW_RX_HANDLED,
              if !indicated.2.1.bReorderWaiting then
                { indicated.2.1 with bReorderWaiting := true, reordering_ctrl_timer := true }
              else indicated.2.1,
              indicated.2.2⟩
          else
            ⟨.RTW_RX_HANDLED,
              { indicated.2.1 with bReorderWaiting := false, reordering_ctrl_timer := false },
              indicated.2.2⟩

/-- The timer has expired.  It is set again when the forced call answers `_TRUE`. -/
def rtw_reordering_ctrl_timeout_handler (preorder_ctrl : RecvReorderCtrl) (cannot_run : Bool) :
    RecvReorderCtrl × List RecvFrame :=
  let expired := { preorder_ctrl with reordering_ctrl_timer := false }
  if cannot_run then (expired, [])
  else
    let indicated :=
      recv_indicatepkts_in_order { expired with bReorderWaiting := false } true
    (if indicated.1 then { indicated.2.1 with reordering_ctrl_timer := true } else indicated.2.1,
      indicated.2.2)

/-! ## The functions on residues of close numbers -/

open ReorderWindow (place release advance)

theorem SN_LESS_mod {left right : Nat} (ahead : right - left ≤ 2048) (behind : left - right < 2048) :
    SN_LESS (left % 4096) (right % 4096) = decide (left < right) := by
  apply Bool.eq_iff_iff.mpr
  rw [decide_eq_true_eq]
  exact @bitLess_mod_iff 32 11 _ _ (by decide) ahead behind

theorem SN_EQUAL_mod {left right : Nat} (ahead : right - left < 4096) (behind : left - right < 4096) :
    SN_EQUAL (left % 4096) (right % 4096) = decide (left = right) := by
  apply Bool.eq_iff_iff.mpr
  rw [SN_EQUAL, beq_iff_eq, decide_eq_true_eq]
  omega

theorem SN_LESS_eq (a b : Nat) : SN_LESS a b = decide (2048 ≤ distance 4096 b a) := by
  apply Bool.eq_iff_iff.mpr
  rw [decide_eq_true_eq]
  exact @bitLess_iff 32 11 (by decide) a b

theorem check_indicate_seq_behind {seq_num : Nat} (initialised : preorder_ctrl.indicate_seq ≠ 0xFFFF)
    (behind : 2048 ≤ distance 4096 preorder_ctrl.indicate_seq seq_num) :
    check_indicate_seq preorder_ctrl seq_num = (false, preorder_ctrl) := by
  simp only [check_indicate_seq, if_neg initialised, SN_LESS_eq, decide_eq_true_eq, if_pos behind]

theorem check_indicate_seq_first {seq_num : Nat} (fresh : preorder_ctrl.indicate_seq = 0xFFFF) :
    check_indicate_seq preorder_ctrl seq_num =
      (true, { preorder_ctrl with indicate_seq := (seq_num + 1) % 4096 }) := by
  have level : distance 4096 seq_num seq_num = 0 := distance_self (by decide) seq_num
  simp only [check_indicate_seq, if_pos fresh, SN_LESS_eq, level, SN_EQUAL, beq_self_eq_true, if_true]
  rfl

theorem check_indicate_seq_ahead {next key : Nat}
    (tracked : preorder_ctrl.indicate_seq = next % 4096) (positive : 1 ≤ preorder_ctrl.wsize_b)
    (byte : preorder_ctrl.wsize_b ≤ 255) (ordered : next ≤ key) (near : key - next < 2048) :
    check_indicate_seq preorder_ctrl (key % 4096) =
      (true, { preorder_ctrl with
        indicate_seq := advance preorder_ctrl.wsize_b next key % 4096 }) := by
  have initialised : ¬ next % 4096 = 0xFFFF := by omega
  have notBehind : SN_LESS (key % 4096) (next % 4096) = false := by
    rw [SN_LESS_mod (by omega) (by omega)]
    exact decide_eq_false (Nat.not_lt_of_le ordered)
  have windowEnd : (((next % 4096 : Nat) : Int) + preorder_ctrl.wsize_b - 1) % 0x1000 =
      ((next + preorder_ctrl.wsize_b - 1) % 4096 : Nat) := by omega
  simp only [check_indicate_seq, if_neg initialised, tracked, notBehind, windowEnd, Int.toNat_natCast,
    Bool.false_eq_true, if_false]
  rw [SN_EQUAL_mod (by omega) (by omega), SN_LESS_mod (by omega) (by omega)]
  unfold advance
  by_cases expected : key = next
  · rw [if_pos (decide_eq_true expected), if_pos expected]
    congr 2
    omega
  · rw [if_neg (by simpa only [decide_eq_true_eq] using expected), if_neg expected]
    by_cases beyond : next + preorder_ctrl.wsize_b ≤ key
    · rw [if_pos (decide_eq_true (by omega)), if_pos beyond]
      by_cases crosses : ((key % 4096 : Nat) : Int) >= (preorder_ctrl.wsize_b : Int) - 1
      · rw [if_pos crosses]
        congr 2
        omega
      · rw [if_neg crosses]
        congr 2
        omega
    · rw [if_neg (by simp only [decide_eq_true_eq]; omega), if_neg beyond]

/-- Every entry carries the number of which its frame shows the residue. -/
def Tagged (entries : List (Nat × RecvFrame)) : Prop :=
  ∀ entry ∈ entries, entry.2.attrib.seq_num.val = entry.1 % 4096

theorem enqueue_eq_place {key : Nat} {pending : List (Nat × RecvFrame)}
    (tag : prframe.attrib.seq_num.val = key % 4096) (tagged : Tagged pending)
    (near : ∀ entry ∈ pending, entry.1 - key < 2048 ∧ key - entry.1 < 2048) :
    enqueue_reorder_recvframe prframe (pending.map Prod.snd) =
      (place key prframe pending).map (List.map Prod.snd) := by
  induction pending with
  | nil => rfl
  | cons entry rest ih =>
      have closeby := near entry List.mem_cons_self
      have residue := tagged entry List.mem_cons_self
      rw [List.map_cons, enqueue_reorder_recvframe, place, tag, residue,
        SN_LESS_mod (by omega) (by omega), SN_EQUAL_mod (by omega) (by omega)]
      by_cases before : entry.1 < key
      · rw [if_pos (decide_eq_true before), if_pos before,
          ih (fun other member => tagged other (List.mem_cons_of_mem _ member))
            (fun other member => near other (List.mem_cons_of_mem _ member)),
          Option.map_map, Option.map_map]
        rfl
      · simp only [decide_eq_true_eq, if_neg before]
        by_cases same : entry.1 = key
        · rw [if_pos same, if_pos same]
          rfl
        · rw [if_neg same, if_neg same]
          rfl

theorem indicate_loop_eq_release {next : Nat} {queue : List (Nat × RecvFrame)} (tagged : Tagged queue)
    (sorted : queue.Pairwise (fun first second => first.1 < second.1))
    (near : ∀ entry ∈ queue, entry.1 - next < 2048 ∧ next - entry.1 < 2048) :
    indicate_loop (next % 4096) (queue.map Prod.snd) =
      ((release next queue).1.map Prod.snd, (release next queue).2.next % 4096,
        (release next queue).2.pending.map Prod.snd) := by
  induction queue generalizing next with
  | nil => rfl
  | cons entry rest ih =>
      rw [List.pairwise_cons] at sorted
      have closeby := near entry List.mem_cons_self
      have residue := tagged entry List.mem_cons_self
      have restTagged : Tagged rest := fun other member => tagged other (List.mem_cons_of_mem _ member)
      rw [List.map_cons, indicate_loop, release, residue,
        SN_LESS_mod (by omega) (by omega), SN_EQUAL_mod (by omega) (by omega)]
      by_cases reached : entry.1 ≤ next
      · have notLess : (!decide (next < entry.1)) = true := by
          simpa only [Bool.not_eq_true', decide_eq_false_iff_not, Nat.not_lt] using reached
        rw [if_pos notLess, if_pos reached]
        -- the next number to hand out, after this frame has been taken off the queue
        have stepped : (if decide (next = entry.1) = true then (next % 4096 + 1) % 0x1000
            else next % 4096) = (if entry.1 = next then next + 1 else next) % 4096 := by
          by_cases same : entry.1 = next
          · rw [if_pos (decide_eq_true same.symm), if_pos same]
            omega
          · rw [if_neg (by simpa only [decide_eq_true_eq] using Ne.symm same), if_neg same]
        have stillNear : ∀ other ∈ rest,
            other.1 - (if entry.1 = next then next + 1 else next) < 2048 ∧
              (if entry.1 = next then next + 1 else next) - other.1 < 2048 := by
          intro other member
          have old := near other (List.mem_cons_of_mem _ member)
          have later := sorted.1 other member
          by_cases same : entry.1 = next
          · rw [if_pos same]
            omega
          · rw [if_neg same]
            exact old
        rw [stepped, ih restTagged sorted.2 stillNear]
        rfl
      · have less : ¬ (!decide (next < entry.1)) = true := by
          simp only [Bool.not_eq_true', decide_eq_false_iff_not, Nat.not_lt]
          exact reached
        rw [if_neg less, if_neg reached]
        rfl

open ReorderWindow (Window arrive flush InOrder)

/-- The session shows the residues of an abstract window. -/
structure Shows (preorder_ctrl : RecvReorderCtrl) (window : Window RecvFrame) : Prop where
  indicate_seq : preorder_ctrl.indicate_seq = window.next % 4096
  pending : preorder_ctrl.pending_recvframe_queue = window.pending.map Prod.snd
  tagged : Tagged window.pending

theorem Tagged.of_perm {entries placed : List (Nat × RecvFrame)} {key : Nat}
    (tagged : Tagged entries) (tag : prframe.attrib.seq_num.val = key % 4096)
    (permuted : placed.Perm ((key, prframe) :: entries)) : Tagged placed := by
  intro entry member
  rcases List.mem_cons.mp (permuted.mem_iff.mp member) with fresh | old
  · rw [fresh]
    exact tag
  · exact tagged entry old

theorem Tagged.of_release {entries : List (Nat × RecvFrame)} (tagged : Tagged entries) (next : Nat) :
    Tagged (release next entries).2.pending := by
  intro entry member
  apply tagged
  rw [← ReorderWindow.release_append next entries]
  exact List.mem_append_right _ member

theorem reorder_applies (qos : prframe.attrib.qos = true) (enable : preorder_ctrl.enable = true) :
    (!prframe.attrib.qos || !preorder_ctrl.enable) = false := by
  rw [qos, enable]
  rfl

theorem recv_indicatepkt_reorder_status (qos : prframe.attrib.qos = true) (enable : preorder_ctrl.enable = true) :
    (recv_indicatepkt_reorder preorder_ctrl prframe).status ≠ ._SUCCESS := by
  have admitted := reorder_applies qos enable
  unfold recv_indicatepkt_reorder
  simp only [admitted, Bool.false_eq_true, if_false]
  split_ifs
  · exact RecvStatus.noConfusion
  · split
    · exact RecvStatus.noConfusion
    · split_ifs <;> exact RecvStatus.noConfusion

theorem recv_indicatepkts_in_order_forced (shows : Shows preorder_ctrl log.window)
    (order : InOrder wsize log) (byte : wsize ≤ 255) :
    let out := recv_indicatepkts_in_order preorder_ctrl true
    Shows out.2.1 (flush log.window).2 ∧ out.2.2 = (flush log.window).1.map Prod.snd ∧
      out.2.1.enable = preorder_ctrl.enable ∧ out.2.1.wsize_b = preorder_ctrl.wsize_b ∧
      log.window.next ≤ (flush log.window).2.next ∧
      (flush log.window).2.next ≤ log.window.next + wsize := by
  rcases shows with ⟨tracked, queue, tagged⟩
  cases waiting : log.window.pending with
  | nil =>
      rw [waiting, List.map_nil] at queue
      simp only [recv_indicatepkts_in_order, queue, flush, waiting, List.map_nil]
      exact ⟨⟨tracked, by rw [queue, waiting]; rfl, waiting ▸ tagged⟩, trivial, trivial, trivial,
        Nat.le_refl _, Nat.le_add_right _ _⟩
  | cons entry rest =>
      have bounds : ∀ other ∈ entry :: rest,
          log.window.next < other.1 ∧ other.1 < log.window.next + wsize := by
        intro other member
        rw [← waiting] at member
        exact ⟨order.ahead other member, order.inside other member⟩
      have first := bounds entry List.mem_cons_self
      rw [waiting] at queue tagged
      have loop := @indicate_loop_eq_release entry.1 _ tagged (waiting ▸ order.sorted) (by
        intro other member
        have close := bounds other member
        omega)
      rw [List.map_cons] at queue loop
      simp only [recv_indicatepkts_in_order, queue, flush, waiting, tagged entry List.mem_cons_self, loop]
      refine ⟨⟨rfl, rfl, tagged.of_release _⟩, trivial, trivial, trivial, ?_, ?_⟩
      · exact Nat.le_trans (Nat.le_of_lt first.1) (ReorderWindow.le_release_next _ _)
      · exact ReorderWindow.release_next_le (Nat.le_of_lt first.2) (fun other member => (bounds other member).2)

theorem recv_indicatepkt_reorder_refused {key : Nat} (shows : Shows preorder_ctrl log.window)
    (order : InOrder wsize log) (qos : prframe.attrib.qos = true)
    (enable : preorder_ctrl.enable = true) (constant : preorder_ctrl.wsize_b = wsize)
    (positive : 1 ≤ wsize) (byte : wsize ≤ 255) (tag : prframe.attrib.seq_num.val = key % 4096)
    (ordered : log.window.next ≤ key) (near : key - log.window.next < 2048)
    (refused : arrive wsize key prframe log.window = none) :
    recv_indicatepkt_reorder preorder_ctrl prframe = ⟨._FAIL, preorder_ctrl, []⟩ := by
  rcases shows with ⟨tracked, queue, tagged⟩
  unfold arrive at refused
  rw [if_neg (Nat.not_lt_of_le ordered), Option.map_eq_none_iff] at refused
  rcases ReorderWindow.place_eq_none refused with ⟨entry, member, same⟩
  have ahead := order.ahead entry member
  have inside := order.inside entry member
  have still : advance wsize log.window.next key = log.window.next := by
    unfold advance
    rw [if_neg (by omega), if_neg (by omega)]
  have checked := check_indicate_seq_ahead tracked (constant ▸ positive) (constant ▸ byte) ordered near
  rw [constant, still, ← tracked, ← constant] at checked
  have admitted := reorder_applies qos enable
  have enqueued := enqueue_eq_place tag tagged (fun other found => by
    have low := order.ahead other found
    have high := order.inside other found
    omega)
  rw [refused, ← queue, Option.map_none] at enqueued
  simp only [recv_indicatepkt_reorder, admitted, tag, checked, enqueued, Bool.not_true,
    Bool.false_eq_true, if_false]

/-- A frame that the abstract window accepts is taken over, and the session
shows the window afterwards.  The window moves by less than half a circle and
its own size. -/
theorem recv_indicatepkt_reorder_accepted {key : Nat} (shows : Shows preorder_ctrl log.window)
    (order : InOrder wsize log) (qos : prframe.attrib.qos = true)
    (enable : preorder_ctrl.enable = true) (constant : preorder_ctrl.wsize_b = wsize)
    (positive : 1 ≤ wsize) (byte : wsize ≤ 255) (tag : prframe.attrib.seq_num.val = key % 4096)
    (ordered : log.window.next ≤ key) (near : key - log.window.next < 2048)
    {delivered : List (Nat × RecvFrame)} {window : Window RecvFrame}
    (accepted : arrive wsize key prframe log.window = some (delivered, window)) :
    let out := recv_indicatepkt_reorder preorder_ctrl prframe
    out.status = .RTW_RX_HANDLED ∧ Shows out.preorder_ctrl window ∧
      out.processed = delivered.map Prod.snd ∧ out.preorder_ctrl.enable = true ∧
      out.preorder_ctrl.wsize_b = wsize ∧ log.window.next ≤ window.next ∧
      window.next < log.window.next + 4096 := by
  rcases shows with ⟨tracked, queue, tagged⟩
  unfold arrive at accepted
  rw [if_neg (Nat.not_lt_of_le ordered), Option.map_eq_some_iff] at accepted
  rcases accepted with ⟨placed, found, released⟩
  have permuted := ReorderWindow.place_perm found
  have bounds : ∀ entry ∈ placed, entry.1 = key ∨
      (log.window.next < entry.1 ∧ entry.1 < log.window.next + wsize) := by
    intro entry member
    rcases List.mem_cons.mp (permuted.mem_iff.mp member) with fresh | old
    · exact Or.inl (congrArg Prod.fst fresh)
    · exact Or.inr ⟨order.ahead entry old, order.inside entry old⟩
  have moved : log.window.next ≤ advance wsize log.window.next key ∧
      advance wsize log.window.next key ≤ key + 1 ∧
      (key < log.window.next + wsize -> advance wsize log.window.next key ≤ log.window.next + 1) ∧
      key < advance wsize log.window.next key + wsize := by
    unfold advance
    split_ifs <;> omega
  have checked := check_indicate_seq_ahead tracked (constant ▸ positive) (constant ▸ byte) ordered near
  rw [constant] at checked
  have admitted := reorder_applies qos enable
  have enqueued := enqueue_eq_place tag tagged (fun other member => by
    have low := order.ahead other member
    have high := order.inside other member
    omega)
  rw [found, ← queue, Option.map_some] at enqueued
  have placedTagged := tagged.of_perm tag permuted
  have loop := @indicate_loop_eq_release (advance wsize log.window.next key) _ placedTagged
    (ReorderWindow.place_sorted order.sorted found) (by
      intro other member
      rcases bounds other member with fresh | old <;> omega)
  have onward := ReorderWindow.le_release_next (advance wsize log.window.next key) placed
  have bounded : (release (advance wsize log.window.next key) placed).2.next ≤
      max (key + 1) (log.window.next + wsize) := by
    refine ReorderWindow.release_next_le (by omega) ?_
    intro other member
    rcases bounds other member with fresh | old <;> omega
  have staysTagged := placedTagged.of_release (advance wsize log.window.next key)
  rw [released] at loop onward bounded staysTagged
  change window.next ≤ _ at bounded
  simp only [recv_indicatepkt_reorder, admitted, tag, checked, enqueued, recv_indicatepkts_in_order,
    loop, Bool.not_true, Bool.false_eq_true, if_false]
  split_ifs <;>
    exact ⟨rfl, ⟨rfl, rfl, staysTagged⟩, rfl, enable, rfl, Nat.le_trans moved.1 onward, by omega⟩

end Rtl8821ce
