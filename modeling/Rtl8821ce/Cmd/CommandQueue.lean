import Mathlib.Logic.Function.Basic
import Rtl8821ce.Library.Run

/-!
# The command queue

`rtw_enqueue_cmd` checks a command with `rtw_cmd_filter`, links it into the queue, and
counts the semaphore up.  The three steps hold no lock together.  `rtw_cmd_thread` counts
the semaphore down and then empties the queue; when it stops, it clears
`cmdthd_running` and drops what is left.  Any number of callers runs beside it.

A command is known by its number.  What is counted for each command is how often its
waiter was signalled and how often its memory was freed.  `CONFIG_LPS_LCLK` puts a command
back at the head of the queue when `rtw_register_cmd_alive` fails; here it succeeds.
-/

namespace Rtl8821ce

namespace Cmd

def MAX_CMDSZ : Nat := 1024

def _DisConnect : Nat := 15
def _Set_Drv_Extra : Nat := 57
def _SetChannelPlan : Nat := 59

def H2C_SUCCESS : UInt8 := 0
def H2C_DROPPED : UInt8 := 3
def H2C_PARAMETERS_ERROR : UInt8 := 4

/-- `struct cmd_obj`.  `sctx` says whether the caller waits for the command, `pbuf` whether
the parameters of a `_Set_Drv_Extra` command bring a buffer of their own. -/
structure CmdObj where
  cmdcode : Nat
  cmdsz : Nat
  no_io : Bool
  sctx : Bool
  pbuf : Bool
  deriving DecidableEq

/-- The buffers that belong to the parameters of a command. -/
def CmdObj.extra (pcmd : CmdObj) : Nat :=
  if pcmd.cmdcode = _Set_Drv_Extra ∧ pcmd.pbuf = true then 1 else 0

/-- The number of entries of `wlancmds`, and of `rtw_cmd_callback`. -/
def commands : Nat := 67

/-- Whether `wlancmds` has a handler.  `NULL_hdl` is one. -/
def has_cmd_hdl (cmdcode : Nat) : Bool :=
  cmdcode ≤ 5 || (14 ≤ cmdcode && cmdcode ≤ 21) || cmdcode == 45 || cmdcode == 46 ||
    (55 ≤ cmdcode && cmdcode ≤ 66)

/-- Where a call of `rtw_enqueue_cmd` is. -/
inductive Enqueuer
  | idle
  /-- Behind `rtw_cmd_filter` and the check of the size. -/
  | filtered
  /-- Behind `_rtw_enqueue_cmd`. -/
  | inserted
  | returned (success : Bool)
  deriving DecidableEq

/-- Where `rtw_cmd_thread` is. -/
inductive Worker
  | start
  /-- At `_rtw_down_sema`. -/
  | down
  /-- Behind it. -/
  | woken
  /-- At the look whether the queue is empty. -/
  | look
  /-- At the label `_next`. -/
  | next
  | dequeue
  | process (pcmd : Nat)
  /-- At the label `post_process`. -/
  | post_process (pcmd : Nat) (res : UInt8)
  /-- At the call of the callback. -/
  | callback (pcmd : Nat) (res : UInt8)
  /-- Behind the loop. -/
  | leave
  /-- At the head of the loop that frees all commands. -/
  | drain
  | drop (pcmd : Nat)
  | discard (pcmd : Nat)
  | exited
  deriving DecidableEq

/-- `struct cmd_priv` with what it depends on, the callers, and the worker.  `inserted` has
the commands that were linked so far, `handled` those that were post-processed or dropped. -/
structure CmdPriv where
  hw_init_completed : Bool
  cannot_run : Bool
  cmdthd_running : Bool
  cmd_queue_sema : Nat
  cmd_queue : List Nat
  enqueuer : Nat -> Enqueuer
  worker : Worker
  sctx : Nat -> Bool
  inserted : List Nat
  handled : List Nat
  signalled : Nat -> Nat
  freed : Nat -> Nat
  pbuf_freed : Nat -> Nat

/-- What happens around the queue. -/
inductive Operation
  | set_hw_init_completed (completed : Bool)
  /-- `RTW_CANNOT_RUN`: the driver is stopped, or the device is gone. -/
  | set_cannot_run (cannot : Bool)
  /-- `rtw_stop_cmd_thread` counts the semaphore up. -/
  | rtw_stop_cmd_thread
  /-- A caller of `rtw_enqueue_cmd` at the filter. -/
  | filter (pcmd : Nat)
  /-- A caller at `_rtw_enqueue_cmd`. -/
  | insert (pcmd : Nat)
  /-- A caller at `_rtw_up_sema`. -/
  | up (pcmd : Nat)
  /-- One step of the worker: whether `_rtw_down_sema` is interrupted there, and what the
  handler of the command answers. -/
  | work (interrupted : Bool) (ret : UInt8)
  deriving DecidableEq

variable (cmd : Nat -> CmdObj)

def rtw_cmd_filter (s : CmdPriv) (cmd_obj : CmdObj) : Bool :=
  let bAllow := cmd_obj.cmdcode == _SetChannelPlan || cmd_obj.no_io
  !((!s.hw_init_completed && !bAllow) || !s.cmdthd_running)

def rtw_free_cmd_obj (s : CmdPriv) (pcmd : Nat) : CmdPriv :=
  { s with freed := Function.update s.freed pcmd (s.freed pcmd + 1) }

/-- The buffer of the parameters is freed, when there is one. -/
def rtw_free_pbuf (s : CmdPriv) (pcmd : Nat) : CmdPriv :=
  { s with pbuf_freed := Function.update s.pbuf_freed pcmd (s.pbuf_freed pcmd + (cmd pcmd).extra) }

/-- `rtw_sctx_done` and `rtw_sctx_done_err`. -/
def rtw_sctx_done (s : CmdPriv) (pcmd : Nat) : CmdPriv :=
  if s.sctx pcmd then
    { s with
      sctx := Function.update s.sctx pcmd false
      signalled := Function.update s.signalled pcmd (s.signalled pcmd + 1) }
  else s

/-- `rtw_enqueue_cmd` up to the insertion.  A command that is too large is freed, and what
is returned is the answer of the filter. -/
def enqueue_filter (s : CmdPriv) (pcmd : Nat) : CmdPriv :=
  let res := rtw_cmd_filter s (cmd pcmd)
  if res = false ∨ MAX_CMDSZ < (cmd pcmd).cmdsz then
    let freed := rtw_free_cmd_obj (rtw_free_pbuf cmd s pcmd) pcmd
    { freed with enqueuer := Function.update s.enqueuer pcmd (.returned res) }
  else { s with enqueuer := Function.update s.enqueuer pcmd .filtered }

def _rtw_enqueue_cmd (s : CmdPriv) (pcmd : Nat) : CmdPriv :=
  { s with
    cmd_queue := s.cmd_queue ++ [pcmd]
    inserted := s.inserted ++ [pcmd]
    enqueuer := Function.update s.enqueuer pcmd .inserted }

def enqueue_up (s : CmdPriv) (pcmd : Nat) : CmdPriv :=
  { s with
    cmd_queue_sema := s.cmd_queue_sema + 1
    enqueuer := Function.update s.enqueuer pcmd (.returned true) }

/-- `rtw_dequeue_cmd`: the worker goes on with the command, or somewhere else. -/
def rtw_dequeue_cmd (s : CmdPriv) (found : Nat -> Worker) (empty : Worker) : CmdPriv :=
  match s.cmd_queue with
  | [] => { s with worker := empty }
  | pcmd :: rest => { s with cmd_queue := rest, worker := found pcmd }

/-- From the first check of a command to its result.  The handler of `_Set_Drv_Extra` frees
the buffer of the parameters. -/
def process_cmd (s : CmdPriv) (pcmd : Nat) (ret : UInt8) : CmdPriv :=
  if MAX_CMDSZ < (cmd pcmd).cmdsz ∨ commands ≤ (cmd pcmd).cmdcode ∨ has_cmd_hdl (cmd pcmd).cmdcode = false then
    { s with worker := .post_process pcmd H2C_PARAMETERS_ERROR }
  else
    { rtw_free_pbuf cmd s pcmd with
      worker := .post_process pcmd (if rtw_cmd_filter s (cmd pcmd) then ret else H2C_DROPPED) }

/-- The callbacks free the command, those that there are as `rtw_free_cmd_obj` does.  Only
`rtw_disassoc_cmd_callback` returns before it when the command failed. -/
def pcmd_callback (s : CmdPriv) (pcmd : Nat) (res : UInt8) : CmdPriv :=
  if (cmd pcmd).cmdcode = _DisConnect ∧ res ≠ H2C_SUCCESS then s else rtw_free_cmd_obj s pcmd

/-- One step of `rtw_cmd_thread`. -/
def rtw_cmd_thread (s : CmdPriv) (interrupted : Bool) (ret : UInt8) : CmdPriv :=
  match s.worker with
  | .start => { s with cmdthd_running := true, worker := .down }
  | .down =>
      if interrupted then { s with worker := .leave }
      else if s.cmd_queue_sema = 0 then s
      else { s with cmd_queue_sema := s.cmd_queue_sema - 1, worker := .woken }
  | .woken => { s with worker := if s.cannot_run then .leave else .look }
  | .look => { s with worker := if s.cmd_queue = [] then .down else .next }
  | .next => { s with worker := if s.cannot_run then .leave else .dequeue }
  | .dequeue => rtw_dequeue_cmd s .process .down
  | .process pcmd => process_cmd cmd s pcmd ret
  | .post_process pcmd res =>
      { rtw_sctx_done s pcmd with handled := s.handled ++ [pcmd], worker := .callback pcmd res }
  | .callback pcmd res => { pcmd_callback cmd s pcmd res with worker := .next }
  | .leave => { s with cmdthd_running := false, worker := .drain }
  | .drain => rtw_dequeue_cmd s .drop .exited
  | .drop pcmd =>
      { rtw_sctx_done (rtw_free_pbuf cmd s pcmd) pcmd with
        handled := s.handled ++ [pcmd], worker := .discard pcmd }
  | .discard pcmd => { rtw_free_cmd_obj s pcmd with worker := .drain }
  | .exited => s

def CmdPriv.step (s : CmdPriv) : Operation -> CmdPriv
  | .set_hw_init_completed completed => { s with hw_init_completed := completed }
  | .set_cannot_run cannot => { s with cannot_run := cannot }
  | .rtw_stop_cmd_thread => { s with cmd_queue_sema := s.cmd_queue_sema + 1 }
  | .filter pcmd => if s.enqueuer pcmd = .idle then enqueue_filter cmd s pcmd else s
  | .insert pcmd => if s.enqueuer pcmd = .filtered then _rtw_enqueue_cmd s pcmd else s
  | .up pcmd => if s.enqueuer pcmd = .inserted then enqueue_up s pcmd else s
  | .work interrupted ret => rtw_cmd_thread cmd s interrupted ret

def CmdPriv.initial (hw_init_completed cannot_run : Bool) : CmdPriv where
  hw_init_completed := hw_init_completed
  cannot_run := cannot_run
  cmdthd_running := false
  cmd_queue_sema := 0
  cmd_queue := []
  enqueuer := fun _ => .idle
  worker := .start
  sctx := fun pcmd => (cmd pcmd).sctx
  inserted := []
  handled := []
  signalled := fun _ => 0
  freed := fun _ => 0
  pbuf_freed := fun _ => 0

end Cmd

end Rtl8821ce
