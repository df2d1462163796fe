import Rtl8821ce.Hal.ScanRecord
import Rtl8821ce.Library.Run

/-!
# The channel-switch list

The list is a buffer of 256 bytes that is allocated with the first channel.  A channel is put
behind the records that are there, and after one with its flag set only extra information is
taken.
-/

namespace Rtl8821ce

namespace ChSwitch

open Program (bind_of_ok require_bind_apply)

open Offload (cnv_scan_allowed SCAN_INFO_RSVDPG_SIZE)

/-- `struct halmac_ch_sw_info`.  A pointer is an address, 0 if it is null. -/
structure ChSwInfo where
  buf : Nat
  buf_wptr : Nat
  extra_info_en : UInt8
  buf_size : Nat
  avl_buf_size : Nat
  total_size : Nat
  ch_num : Nat
deriving DecidableEq

/-- The part of the adapter that the list depends on, with the memory.  `outside` records a
write that is not in the buffer. -/
structure Scan where
  dlfw_state : DlfwState
  cmd_cnstr_state : CmdConstructState
  ch_sw_info : ChSwInfo
  cells : ByteMap
  outside : Bool

abbrev ScanM (α : Type) : Type := Program Scan Offload.HalmacRet α

def cnv_scan_state_88xx (dest_state : CmdConstructState) : ScanM Unit := do
  let scan <- Program.get
  Program.require (cnv_scan_allowed scan.cmd_cnstr_state dest_state) .ERROR_STATE
  Program.update ({ · with cmd_cnstr_state := dest_state })

/-- `malloc` is the address that the platform answers. -/
def alloc_scan_buf (malloc : Nat) : ScanM Unit := do
  let scan <- Program.get
  if scan.ch_sw_info.buf ≠ 0 then pure ()
  else do
    Program.require (malloc ≠ 0) .NULL_POINTER
    Program.update ({ · with ch_sw_info := ⟨malloc, malloc, 0, SCAN_INFO_RSVDPG_SIZE, SCAN_INFO_RSVDPG_SIZE, 0, 0⟩ })

/-- Whether a write of so many bytes stays in the buffer. -/
def ChSwInfo.within (info : ChSwInfo) (place count : Nat) : Bool :=
  decide (info.buf ≤ place ∧ place + count ≤ info.buf + info.buf_size)

def Scan.put_ch_info (info : ChInfo) (scan : Scan) : Scan :=
  let list := scan.ch_sw_info
  { scan with
    cells := info.write scan.cells list.buf_wptr
    outside := scan.outside || !list.within list.buf_wptr 4
    ch_sw_info :=
      { list with
        avl_buf_size := list.avl_buf_size - 4
        total_size := list.total_size + 4
        ch_num := list.ch_num + 1
        extra_info_en := info.extra_info
        buf_wptr := list.buf_wptr + 4 } }

/-- The extra information is written: its fields as words, its data as it is. -/
def Scan.put_ch_extra_info (info : ChExtraInfo) (scan : Scan) : Scan :=
  let list := scan.ch_sw_info
  let size := info.extra_info_size.toNat
  { scan with
    cells := info.write scan.cells list.buf_wptr
    outside := scan.outside || !list.within list.buf_wptr 4 || !list.within (list.buf_wptr + 2) size
    ch_sw_info :=
      { list with
        avl_buf_size := list.avl_buf_size - (2 + size)
        total_size := list.total_size + (2 + size)
        extra_info_en := info.extra_info
        buf_wptr := list.buf_wptr + (2 + size) } }

def add_ch_info_88xx (malloc : Nat) (info : ChInfo) : ScanM Unit := do
  let scan <- Program.get
  Program.require (scan.dlfw_state = .GEN_INFO_SENT) .GEN_INFO_NOT_SENT
  Program.require (scan.cmd_cnstr_state = .BUF_CLR ∨ scan.cmd_cnstr_state = .CNSTR) .ERROR_STATE
  alloc_scan_buf malloc
  let scan <- Program.get
  Program.require (scan.ch_sw_info.extra_info_en ≠ 1) .CH_SW_SEQ_WRONG
  Program.require (4 ≤ scan.ch_sw_info.avl_buf_size) .CH_SW_NO_BUF
  cnv_scan_state_88xx .CNSTR
  Program.update (Scan.put_ch_info info)

def add_extra_ch_info_88xx (info : ChExtraInfo) : ScanM Unit := do
  let scan <- Program.get
  Program.require (scan.ch_sw_info.buf ≠ 0) .CH_SW_SEQ_WRONG
  Program.require (scan.ch_sw_info.extra_info_en ≠ 0) .CH_SW_SEQ_WRONG
  Program.require (info.extra_info_size.toNat + 2 ≤ scan.ch_sw_info.avl_buf_size) .CH_SW_NO_BUF
  Program.require (scan.cmd_cnstr_state = .CNSTR) .ERROR_STATE
  cnv_scan_state_88xx .CNSTR
  Program.update (Scan.put_ch_extra_info info)

def clear_ch_info_88xx : ScanM Unit := do
  let scan <- Program.get
  Program.require (scan.cmd_cnstr_state ≠ .H2C_SENT) .ERROR_STATE
  cnv_scan_state_88xx .BUF_CLR
  Program.update ({ · with ch_sw_info := ⟨0, 0, 0, 0, 0, 0, 0⟩ })

inductive ScanOp
  | clear
  | add (malloc : Nat) (info : ChInfo)
  | addExtra (info : ChExtraInfo)

def ScanOp.call : ScanOp -> ScanM Unit
  | .clear => clear_ch_info_88xx
  | .add malloc info => add_ch_info_88xx malloc info
  | .addExtra info => add_extra_ch_info_88xx info

/-- A channel is taken. -/
structure Scan.TakesChannel (malloc : Nat) (scan : Scan) : Prop where
  dlfw_state : scan.dlfw_state = .GEN_INFO_SENT
  cmd_cnstr_state : scan.cmd_cnstr_state = .BUF_CLR ∨ scan.cmd_cnstr_state = .CNSTR
  buf : scan.ch_sw_info.buf = 0 -> malloc ≠ 0
  extra_info_en : scan.ch_sw_info.buf ≠ 0 -> scan.ch_sw_info.extra_info_en ≠ 1
  avl_buf_size : scan.ch_sw_info.buf ≠ 0 -> 4 ≤ scan.ch_sw_info.avl_buf_size

/-- Extra information is taken. -/
structure Scan.TakesExtra (size : Nat) (scan : Scan) : Prop where
  buf : scan.ch_sw_info.buf ≠ 0
  extra_info_en : scan.ch_sw_info.extra_info_en ≠ 0
  avl_buf_size : size + 2 ≤ scan.ch_sw_info.avl_buf_size
  cmd_cnstr_state : scan.cmd_cnstr_state = .CNSTR

def Scan.allocated (malloc : Nat) (scan : Scan) : Scan :=
  if scan.ch_sw_info.buf ≠ 0 then scan
  else { scan with ch_sw_info := ⟨malloc, malloc, 0, SCAN_INFO_RSVDPG_SIZE, SCAN_INFO_RSVDPG_SIZE, 0, 0⟩ }

/-- A call is accepted under a condition and leaves `next`, or is refused and changes nothing. -/
def Outcome (takes : Prop) (scan next : Scan) : Except Offload.HalmacRet Unit × Scan -> Prop
  | (.ok _, after) => takes ∧ after = next
  | (.error _, after) => ¬ takes ∧ after = scan

variable {scan : Scan}

theorem cnv_scan_state_ok {dest_state : CmdConstructState}
    (allowed : cnv_scan_allowed scan.cmd_cnstr_state dest_state = true) :
    cnv_scan_state_88xx dest_state scan = (.ok ⟨⟩, { scan with cmd_cnstr_state := dest_state }) := by
  unfold cnv_scan_state_88xx
  rw [bind_of_ok (Program.get_apply scan), allowed]
  rfl

theorem alloc_scan_buf_eq (malloc : Nat) (scan : Scan) : alloc_scan_buf malloc scan =
    if scan.ch_sw_info.buf = 0 ∧ malloc = 0 then (.error .NULL_POINTER, scan)
    else (.ok ⟨⟩, scan.allocated malloc) := by
  unfold alloc_scan_buf Scan.allocated
  rw [bind_of_ok (Program.get_apply scan)]
  by_cases held : scan.ch_sw_info.buf = 0
  · rw [if_neg (not_not.mpr held), require_bind_apply, if_neg (not_not.mpr held)]
    by_cases refused : malloc = 0
    · rw [if_neg (by rw [decide_eq_true_eq, not_not]; exact refused), if_pos ⟨held, refused⟩]
    · rw [if_pos (decide_eq_true refused), if_neg (fun both => refused both.2)]
      rfl
  · rw [if_pos held, if_pos held, if_neg (fun both => held both.1)]
    rfl

theorem add_ch_info_outcome (malloc : Nat) (info : ChInfo) (scan : Scan) :
    Outcome (scan.TakesChannel malloc) scan
      (Scan.put_ch_info info { scan.allocated malloc with cmd_cnstr_state := .CNSTR })
      (add_ch_info_88xx malloc info scan) := by
  unfold add_ch_info_88xx
  rw [bind_of_ok (Program.get_apply scan), require_bind_apply, require_bind_apply]
  by_cases sent : scan.dlfw_state = .GEN_INFO_SENT
  case neg =>
    rw [if_neg (by rw [decide_eq_true_eq]; exact sent)]
    exact ⟨fun takes => sent takes.dlfw_state, rfl⟩
  rw [if_pos (decide_eq_true sent)]
  by_cases constructing : scan.cmd_cnstr_state = .BUF_CLR ∨ scan.cmd_cnstr_state = .CNSTR
  case neg =>
    rw [if_neg (by rw [decide_eq_true_eq]; exact constructing)]
    exact ⟨fun takes => constructing takes.cmd_cnstr_state, rfl⟩
  rw [if_pos (decide_eq_true constructing)]
  by_cases null : scan.ch_sw_info.buf = 0 ∧ malloc = 0
  case pos =>
    have refused := alloc_scan_buf_eq malloc scan
    rw [if_pos null] at refused
    rw [Program.bind_of_error refused]
    exact ⟨fun takes => takes.buf null.1 null.2, rfl⟩
  have granted := alloc_scan_buf_eq malloc scan
  rw [if_neg null] at granted
  rw [bind_of_ok granted, bind_of_ok (Program.get_apply _), require_bind_apply, require_bind_apply]
  have allowed : cnv_scan_allowed (scan.allocated malloc).cmd_cnstr_state .CNSTR = true := by
    have same : (scan.allocated malloc).cmd_cnstr_state = scan.cmd_cnstr_state := by
      unfold Scan.allocated
      split <;> rfl
    rw [same]
    rcases constructing with clear | building
    · rw [clear]
      rfl
    · rw [building]
      rfl
  by_cases held : scan.ch_sw_info.buf = 0
  · have fresh : scan.allocated malloc = { scan with ch_sw_info := ⟨malloc, malloc, 0, 256, 256, 0, 0⟩ } :=
      if_neg (not_not.mpr held)
    have takes : scan.TakesChannel malloc :=
      ⟨sent, constructing, fun _ failed => null ⟨held, failed⟩, fun other => absurd held other,
        fun other => absurd held other⟩
    rw [if_pos (by rw [fresh]; rfl), if_pos (by rw [fresh]; rfl), bind_of_ok (cnv_scan_state_ok allowed)]
    exact ⟨takes, rfl⟩
  · have same : scan.allocated malloc = scan := if_pos held
    rw [same] at allowed ⊢
    by_cases waiting : scan.ch_sw_info.extra_info_en = 1
    · rw [if_neg (by rw [decide_eq_true_eq, not_not]; exact waiting)]
      exact ⟨fun takes => takes.extra_info_en held waiting, rfl⟩
    rw [if_pos (decide_eq_true waiting)]
    by_cases room : 4 ≤ scan.ch_sw_info.avl_buf_size
    · rw [if_pos (decide_eq_true room), bind_of_ok (cnv_scan_state_ok allowed)]
      exact ⟨⟨sent, constructing, fun none => absurd none held, fun _ => waiting, fun _ => room⟩, rfl⟩
    · rw [if_neg (by rw [decide_eq_true_eq]; exact room)]
      exact ⟨fun takes => room (takes.avl_buf_size held), rfl⟩

theorem add_extra_ch_info_outcome (info : ChExtraInfo) (scan : Scan) :
    Outcome (scan.TakesExtra info.extra_info_size.toNat) scan (Scan.put_ch_extra_info info scan)
      (add_extra_ch_info_88xx info scan) := by
  unfold add_extra_ch_info_88xx
  rw [bind_of_ok (Program.get_apply scan), require_bind_apply, require_bind_apply,
    require_bind_apply, require_bind_apply]
  by_cases null : scan.ch_sw_info.buf = 0
  · rw [if_neg (by rw [decide_eq_true_eq, not_not]; exact null)]
    exact ⟨fun takes => takes.buf null, rfl⟩
  rw [if_pos (decide_eq_true null)]
  by_cases none_due : scan.ch_sw_info.extra_info_en = 0
  · rw [if_neg (by rw [decide_eq_true_eq, not_not]; exact none_due)]
    exact ⟨fun takes => takes.extra_info_en none_due, rfl⟩
  rw [if_pos (decide_eq_true none_due)]
  by_cases room : info.extra_info_size.toNat + 2 ≤ scan.ch_sw_info.avl_buf_size
  case neg =>
    rw [if_neg (by rw [decide_eq_true_eq]; exact room)]
    exact ⟨fun takes => room takes.avl_buf_size, rfl⟩
  rw [if_pos (decide_eq_true room)]
  by_cases building : scan.cmd_cnstr_state = .CNSTR
  case neg =>
    rw [if_neg (by rw [decide_eq_true_eq]; exact building)]
    exact ⟨fun takes => building takes.cmd_cnstr_state, rfl⟩
  have allowed : cnv_scan_allowed scan.cmd_cnstr_state .CNSTR = true := by
    rw [building]
    rfl
  rw [if_pos (decide_eq_true building), bind_of_ok (cnv_scan_state_ok allowed), ← building]
  exact ⟨⟨null, none_due, room, building⟩, rfl⟩

theorem clear_ch_info_outcome (scan : Scan) :
    Outcome (scan.cmd_cnstr_state ≠ .H2C_SENT) scan
      { scan with cmd_cnstr_state := .BUF_CLR, ch_sw_info := ⟨0, 0, 0, 0, 0, 0, 0⟩ } (clear_ch_info_88xx scan) := by
  unfold clear_ch_info_88xx
  rw [bind_of_ok (Program.get_apply scan), require_bind_apply]
  by_cases sent : scan.cmd_cnstr_state = .H2C_SENT
  · rw [if_neg (by rw [decide_eq_true_eq, not_not]; exact sent)]
    exact ⟨fun takes => takes sent, rfl⟩
  · have allowed : cnv_scan_allowed scan.cmd_cnstr_state .BUF_CLR = true := by
      cases known : scan.cmd_cnstr_state with
      | H2C_SENT => exact absurd known sent
      | IDLE | BUSY | CNSTR | BUF_CLR => rfl
    rw [if_pos (decide_eq_true sent), bind_of_ok (cnv_scan_state_ok allowed)]
    exact ⟨sent, rfl⟩

/-- A call that is refused changes nothing. -/
theorem unchanged_of_error {op : ScanOp} {code : Offload.HalmacRet} (error : (op.call scan).1 = .error code) :
    (op.call scan).2 = scan := by
  have unchanged {takes : Prop} {next : Scan} {result : Except Offload.HalmacRet Unit × Scan}
      (outcome : Outcome takes scan next result) (failed : result.1 = .error code) : result.2 = scan := by
    rcases result with ⟨answer, after⟩
    cases failed
    exact outcome.2
  cases op with
  | clear => exact unchanged (clear_ch_info_outcome scan) error
  | add malloc info => exact unchanged (add_ch_info_outcome malloc info scan) error
  | addExtra info => exact unchanged (add_extra_ch_info_outcome info scan) error

end ChSwitch

end Rtl8821ce
