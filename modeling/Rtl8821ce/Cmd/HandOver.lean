import Mathlib.Data.List.Nodup
import Rtl8821ce.Cmd.CommandQueue

/-!
# Commands are handed to the worker

A command that was linked into the queue is handled exactly once, in the order of the
insertions, as long as nobody links one behind the back of a worker that has gone.  The
caller checks `cmdthd_running` before it links the command, and the two are not one step.
-/

namespace Rtl8821ce

namespace Cmd

open Function (update_apply update_eq_self)

variable {pcmd : Nat}

/-! ## What the worker holds -/

/-- The command that was taken from the queue and is not handled yet. -/
def Worker.taken : Worker -> List Nat
  | .process pcmd => [pcmd]
  | .post_process pcmd _ => [pcmd]
  | .drop pcmd => [pcmd]
  | _ => []

/-- The command whose buffer of the parameters is freed, and which is not handled yet. -/
def Worker.emptied : Worker -> List Nat
  | .post_process pcmd _ => [pcmd]
  | _ => []

def Worker.kept : Worker -> List Nat
  | .callback pcmd _ => [pcmd]
  | .discard pcmd => [pcmd]
  | _ => []

theorem Worker.taken_of_emptied {worker : Worker} (member : pcmd ∈ worker.emptied) : pcmd ∈ worker.taken := by
  cases worker <;> first | exact member | exact absurd member List.not_mem_nil

def Worker.result : Worker -> Option (Nat × UInt8)
  | .post_process pcmd res => some (pcmd, res)
  | .callback pcmd res => some (pcmd, res)
  | _ => none

/-- Nothing happens any more unless somebody else acts. -/
def CmdPriv.AtRest (s : CmdPriv) : Prop :=
  s.worker = .exited ∨ (s.worker = .down ∧ s.cmd_queue_sema = 0)

variable (cmd : Nat -> CmdObj)

/-- What the callers of `rtw_enqueue_cmd` may rely on. -/
structure HandedOver (s : CmdPriv) : Prop where
  in_order : s.handled ++ s.worker.taken ++ s.cmd_queue = s.inserted
  once : s.inserted.Nodup
  accepted : ∀ pcmd, s.enqueuer pcmd = .returned true -> pcmd ∈ s.inserted
  refused : ∀ pcmd, s.enqueuer pcmd = .returned false ->
    pcmd ∉ s.inserted ∧ s.freed pcmd = 1 ∧ s.pbuf_freed pcmd = (cmd pcmd).extra
  signalled : ∀ pcmd,
    s.signalled pcmd = if (cmd pcmd).sctx = true ∧ pcmd ∈ s.handled then 1 else 0
  freed : ∀ pcmd ∈ s.inserted,
    s.freed pcmd = if pcmd ∈ s.handled ∧ pcmd ∉ s.worker.kept then 1 else 0
  pbuf_freed : ∀ pcmd ∈ s.inserted,
    s.pbuf_freed pcmd = if pcmd ∈ s.handled ++ s.worker.emptied then (cmd pcmd).extra else 0
  /-- Nobody waits for a worker that waits itself, or that has gone. -/
  at_rest : s.AtRest -> (∀ pcmd, s.enqueuer pcmd ≠ .inserted) -> s.handled = s.inserted
  exited : s.worker = .exited -> s.cmd_queue = []

/-- What the steps of a run must meet: the size of a command that passes the filter is in
bounds, a command is linked only while the worker is there, and `_DisConnect` passes the
filter of the worker and succeeds. -/
def Regular (s : CmdPriv) : Operation -> Prop
  | .filter pcmd => s.enqueuer pcmd = .idle -> rtw_cmd_filter s (cmd pcmd) = true ->
      (cmd pcmd).cmdsz ≤ MAX_CMDSZ
  | .insert pcmd => s.enqueuer pcmd = .filtered -> s.worker ≠ .exited
  | .work _ ret =>
      match s.worker with
      | .process pcmd => (cmd pcmd).cmdcode = _DisConnect ->
          rtw_cmd_filter s (cmd pcmd) = true ∧ ret = H2C_SUCCESS
      | _ => True
  | _ => True

instance (s : CmdPriv) (operation : Operation) : Decidable (Regular cmd s operation) := by
  unfold Regular
  split
  · infer_instance
  · infer_instance
  · split <;> infer_instance
  · infer_instance

/-- The commands are on one line from the first handled one to the last linked one. -/
structure Ordered (s : CmdPriv) : Prop where
  in_order : s.handled ++ s.worker.taken ++ s.cmd_queue = s.inserted
  once : s.inserted.Nodup
  linked : ∀ pcmd, pcmd ∈ s.inserted <->
    s.enqueuer pcmd = .inserted ∨ s.enqueuer pcmd = .returned true

/-- What was counted for each command. -/
structure Counted (s : CmdPriv) : Prop where
  sctx : ∀ pcmd, s.sctx pcmd = ((cmd pcmd).sctx && !decide (pcmd ∈ s.handled))
  signalled : ∀ pcmd,
    s.signalled pcmd = if (cmd pcmd).sctx = true ∧ pcmd ∈ s.handled then 1 else 0
  freed : ∀ pcmd, s.freed pcmd =
    if s.enqueuer pcmd = .returned false ∨ (pcmd ∈ s.handled ∧ pcmd ∉ s.worker.kept) then 1 else 0
  pbuf_freed : ∀ pcmd, s.pbuf_freed pcmd =
    if s.enqueuer pcmd = .returned false ∨ pcmd ∈ s.handled ++ s.worker.emptied then (cmd pcmd).extra
    else 0
  kept : ∀ pcmd ∈ s.worker.kept, pcmd ∈ s.handled

/-- What the worker and the callers know where they are. -/
structure Controlled (s : CmdPriv) : Prop where
  start : s.worker = .start -> s.cmdthd_running = false ∧ s.inserted = [] ∧
    ∀ pcmd, s.enqueuer pcmd ≠ .filtered
  small : ∀ pcmd, s.enqueuer pcmd = .filtered ∨ pcmd ∈ s.inserted -> (cmd pcmd).cmdsz ≤ MAX_CMDSZ
  /-- A worker at the semaphore will be woken when there is something to do. -/
  down : s.worker = .down -> s.cmd_queue ≠ [] ->
    0 < s.cmd_queue_sema ∨ ∃ pcmd, s.enqueuer pcmd = .inserted
  exited : s.worker = .exited -> s.cmd_queue = []
  disconnect : ∀ pcmd res, s.worker.result = some (pcmd, res) -> (cmd pcmd).cmdcode = _DisConnect -> res = H2C_SUCCESS

structure CmdInvariant (s : CmdPriv) : Prop where
  ordered : Ordered s
  counted : Counted cmd s
  controlled : Controlled cmd s

variable {cmd} {s : CmdPriv}

theorem CmdInvariant.initial (hw_init_completed cannot_run : Bool) :
    CmdInvariant cmd (.initial cmd hw_init_completed cannot_run) where
  ordered := ⟨rfl, .nil, fun pcmd => by simp [CmdPriv.initial]⟩
  counted := by constructor <;> simp [CmdPriv.initial, Worker.kept, Worker.emptied]
  controlled := by constructor <;> simp [CmdPriv.initial, Worker.result]

theorem Ordered.handled_inserted (order : Ordered s) (member : pcmd ∈ s.handled) : pcmd ∈ s.inserted := by
  rw [← order.in_order]
  exact List.mem_append_left _ (List.mem_append_left _ member)

theorem Ordered.taken_inserted (order : Ordered s) (member : pcmd ∈ s.worker.taken) : pcmd ∈ s.inserted := by
  rw [← order.in_order]
  exact List.mem_append_left _ (List.mem_append_right _ member)

theorem Ordered.taken_not_handled (order : Ordered s) (member : pcmd ∈ s.worker.taken) : pcmd ∉ s.handled := by
  have once := order.once
  rw [← order.in_order] at once
  exact fun handled => (List.nodup_append.mp (List.nodup_append.mp once).1).2.2 pcmd handled pcmd member rfl

theorem Ordered.not_refused (order : Ordered s) (member : pcmd ∈ s.inserted) : s.enqueuer pcmd ≠ .returned false := by
  rcases (order.linked pcmd).mp member with at_up | back
  · rw [at_up]; nofun
  · rw [back]; nofun

theorem Ordered.not_inserted (order : Ordered s) {place : Enqueuer}
    (here : s.enqueuer pcmd = place) (not_up : place ≠ .inserted) (not_back : place ≠ .returned true) :
    pcmd ∉ s.inserted := by
  intro member
  rcases (order.linked pcmd).mp member with at_up | back
  · exact not_up (here.symm.trans at_up)
  · exact not_back (here.symm.trans back)

theorem Ordered.moved (order : Ordered s) {t : CmdPriv}
    (line : t.handled ++ t.worker.taken ++ t.cmd_queue = s.handled ++ s.worker.taken ++ s.cmd_queue)
    (inserted : t.inserted = s.inserted) (enqueuer : t.enqueuer = s.enqueuer) : Ordered t where
  in_order := by rw [line, inserted, order.in_order]
  once := by rw [inserted]; exact order.once
  linked := fun pcmd => by rw [inserted, enqueuer]; exact order.linked pcmd

theorem CmdInvariant.handedOver (inv : CmdInvariant cmd s) : HandedOver cmd s := by
  refine
    { in_order := inv.ordered.in_order
      once := inv.ordered.once
      accepted := fun pcmd back => (inv.ordered.linked pcmd).mpr (.inr back)
      refused := fun pcmd back => ⟨fun member => inv.ordered.not_refused member back, ?_, ?_⟩
      signalled := inv.counted.signalled
      freed := fun pcmd member => ?_
      pbuf_freed := fun pcmd member => ?_
      at_rest := fun rest nobody => ?_
      exited := inv.controlled.exited }
  · rw [inv.counted.freed pcmd, if_pos (.inl back)]
  · rw [inv.counted.pbuf_freed pcmd, if_pos (.inl back)]
  · rw [inv.counted.freed pcmd]
    simp only [inv.ordered.not_refused member, false_or]
  · rw [inv.counted.pbuf_freed pcmd]
    simp only [inv.ordered.not_refused member, false_or]
  · have held : s.worker.taken = [] := by
      rcases rest with gone | ⟨waits, _⟩
      · rw [gone]; rfl
      · rw [waits]; rfl
    have empty : s.cmd_queue = [] := by
      rcases rest with gone | ⟨waits, none⟩
      · exact inv.controlled.exited gone
      · refine Classical.byContradiction fun waiting => ?_
        rcases inv.controlled.down waits waiting with count | ⟨pcmd, at_up⟩
        · omega
        · exact nobody pcmd at_up
    have line := inv.ordered.in_order
    rwa [held, empty, List.append_nil, List.append_nil] at line

theorem CmdInvariant.filtered (inv : CmdInvariant cmd s) (idle : s.enqueuer pcmd = .idle)
    (running : s.cmdthd_running = true) (small : (cmd pcmd).cmdsz ≤ MAX_CMDSZ) :
    CmdInvariant cmd { s with enqueuer := Function.update s.enqueuer pcmd .filtered } where
  ordered := ⟨inv.ordered.in_order, inv.ordered.once, fun other => by
    have linked := inv.ordered.linked other
    grind⟩
  counted :=
    { inv.counted with
      freed := fun other => by
        have freed := inv.counted.freed other
        grind
      pbuf_freed := fun other => by
        have freed := inv.counted.pbuf_freed other
        grind }
  controlled :=
    { inv.controlled with
      start := fun start => absurd (inv.controlled.start start).1 (by rw [running]; nofun)
      small := fun other place => by
        have others := inv.controlled.small other
        grind
      down := fun waits waiting => by
        rcases inv.controlled.down waits waiting with count | ⟨other, at_up⟩
        · exact .inl count
        · exact .inr ⟨other, by grind⟩ }

theorem CmdInvariant.refused (inv : CmdInvariant cmd s) (idle : s.enqueuer pcmd = .idle) :
    CmdInvariant cmd { rtw_free_cmd_obj (rtw_free_pbuf cmd s pcmd) pcmd with
      enqueuer := Function.update s.enqueuer pcmd (.returned false) } := by
  have outside : pcmd ∉ s.inserted := inv.ordered.not_inserted idle nofun nofun
  have unhandled : pcmd ∉ s.handled := fun member => outside (inv.ordered.handled_inserted member)
  have untaken : pcmd ∉ s.worker.emptied := fun member =>
    outside (inv.ordered.taken_inserted (Worker.taken_of_emptied member))
  exact
    { ordered := ⟨inv.ordered.in_order, inv.ordered.once, fun other => by
        have linked := inv.ordered.linked other
        simp only [rtw_free_cmd_obj, rtw_free_pbuf, update_apply]
        grind⟩
      counted :=
        { sctx := inv.counted.sctx
          signalled := inv.counted.signalled
          freed := fun other => by
            have freed := inv.counted.freed other
            simp only [rtw_free_cmd_obj, rtw_free_pbuf, update_apply]
            grind
          pbuf_freed := fun other => by
            have freed := inv.counted.pbuf_freed other
            simp only [rtw_free_cmd_obj, rtw_free_pbuf, update_apply]
            grind
          kept := inv.counted.kept }
      controlled :=
        { start := fun start =>
            ⟨(inv.controlled.start start).1, (inv.controlled.start start).2.1, fun other => by
              have before := (inv.controlled.start start).2.2 other
              grind⟩
          small := fun other place => by
            have others := inv.controlled.small other
            simp only [rtw_free_cmd_obj, rtw_free_pbuf, update_apply] at place
            grind
          down := fun waits waiting => by
            rcases inv.controlled.down waits waiting with count | ⟨other, at_up⟩
            · exact .inl count
            · exact .inr ⟨other, by grind⟩
          exited := inv.controlled.exited
          disconnect := inv.controlled.disconnect } }

theorem CmdInvariant.inserted (inv : CmdInvariant cmd s)
    (here : s.enqueuer pcmd = .filtered) (there : s.worker ≠ .exited) :
    CmdInvariant cmd (_rtw_enqueue_cmd s pcmd) := by
  have outside : pcmd ∉ s.inserted := inv.ordered.not_inserted here nofun nofun
  exact
    { ordered :=
        { in_order := by
            have line := inv.ordered.in_order
            simp only [_rtw_enqueue_cmd]
            rw [← line, List.append_assoc _ s.cmd_queue]
          once := by
            simp only [_rtw_enqueue_cmd]
            exact List.nodup_append.mpr ⟨inv.ordered.once, List.nodup_singleton _, by grind⟩
          linked := fun other => by
            have linked := inv.ordered.linked other
            simp only [_rtw_enqueue_cmd, update_apply]
            grind }
      counted :=
        { sctx := inv.counted.sctx
          signalled := inv.counted.signalled
          freed := fun other => by
            have freed := inv.counted.freed other
            simp only [_rtw_enqueue_cmd, update_apply]
            grind
          pbuf_freed := fun other => by
            have freed := inv.counted.pbuf_freed other
            simp only [_rtw_enqueue_cmd, update_apply]
            grind
          kept := inv.counted.kept }
      controlled :=
        { start := fun start => absurd here ((inv.controlled.start start).2.2 pcmd)
          small := fun other place => by
            have others := inv.controlled.small other
            simp only [_rtw_enqueue_cmd, update_apply] at place
            grind
          down := fun _ _ => .inr ⟨pcmd, Function.update_self _ _ _⟩
          exited := fun gone => absurd gone there
          disconnect := inv.controlled.disconnect } }

theorem CmdInvariant.up (inv : CmdInvariant cmd s) (here : s.enqueuer pcmd = .inserted) :
    CmdInvariant cmd (enqueue_up s pcmd) where
  ordered := ⟨inv.ordered.in_order, inv.ordered.once, fun other => by
    have linked := inv.ordered.linked other
    simp only [enqueue_up, update_apply]
    grind⟩
  counted :=
    { sctx := inv.counted.sctx
      signalled := inv.counted.signalled
      freed := fun other => by
        have freed := inv.counted.freed other
        simp only [enqueue_up, update_apply]
        grind
      pbuf_freed := fun other => by
        have freed := inv.counted.pbuf_freed other
        simp only [enqueue_up, update_apply]
        grind
      kept := inv.counted.kept }
  controlled :=
    { start := fun start => by
        have line := (inv.controlled.start start).2.1
        exact absurd ((inv.ordered.linked pcmd).mpr (.inl here)) (by rw [line]; exact List.not_mem_nil)
      small := fun other place => by
        have others := inv.controlled.small other
        simp only [enqueue_up, update_apply] at place
        grind
      down := fun _ _ => .inl (Nat.succ_pos _)
      exited := inv.controlled.exited
      disconnect := inv.controlled.disconnect }

theorem Controlled.onward (controlled : Controlled cmd s) {t : CmdPriv} (inserted : t.inserted = s.inserted)
    (enqueuer : t.enqueuer = s.enqueuer) (started : t.worker ≠ .start)
    (empty : t.worker = .down ∨ t.worker = .exited -> t.cmd_queue = [])
    (disconnect : ∀ pcmd res, t.worker.result = some (pcmd, res) -> (cmd pcmd).cmdcode = _DisConnect -> res = H2C_SUCCESS) : Controlled cmd t where
  start := fun start => absurd start started
  small := fun pcmd place => controlled.small pcmd (by rwa [inserted, enqueuer] at place)
  down := fun waits waiting => absurd (empty (.inl waits)) waiting
  exited := fun gone => empty (.inr gone)
  disconnect := disconnect

theorem CmdInvariant.quiet (inv : CmdInvariant cmd s) (running : Bool) (sema : Nat) (queue : List Nat)
    (target : Worker) (line : target.taken ++ queue = s.worker.taken ++ s.cmd_queue)
    (kept : target.kept = s.worker.kept) (emptied : target.emptied = s.worker.emptied) (started : target ≠ .start)
    (empty : target = .down ∨ target = .exited -> queue = []) (free : target.result = none) :
    CmdInvariant cmd
      { s with cmdthd_running := running, cmd_queue_sema := sema, cmd_queue := queue, worker := target } where
  ordered := inv.ordered.moved (by simp only [List.append_assoc, line]) rfl rfl
  counted :=
    { sctx := inv.counted.sctx
      signalled := inv.counted.signalled
      freed := fun pcmd => by
        simp only [kept]
        exact inv.counted.freed pcmd
      pbuf_freed := fun pcmd => by
        simp only [emptied]
        exact inv.counted.pbuf_freed pcmd
      kept := fun pcmd member => inv.counted.kept pcmd (by rwa [← kept]) }
  controlled := inv.controlled.onward rfl rfl started empty fun pcmd res here =>
    nomatch free.symm.trans here

theorem extra_of_no_handler {pcmd : CmdObj}
    (none : commands ≤ pcmd.cmdcode ∨ has_cmd_hdl pcmd.cmdcode = false) : pcmd.extra = 0 := by
  refine if_neg fun extra => ?_
  rw [extra.1] at none
  revert none
  decide

theorem process_cmd_eq (s : CmdPriv) (ret : UInt8) (small : (cmd pcmd).cmdsz ≤ MAX_CMDSZ) :
    ∃ res,
      process_cmd cmd s pcmd ret = { rtw_free_pbuf cmd s pcmd with worker := .post_process pcmd res } ∧
        ((cmd pcmd).cmdcode = _DisConnect -> rtw_cmd_filter s (cmd pcmd) = true ∧ ret = H2C_SUCCESS ->
          res = H2C_SUCCESS) := by
  unfold process_cmd
  by_cases no_handler : commands ≤ (cmd pcmd).cmdcode ∨ has_cmd_hdl (cmd pcmd).cmdcode = false
  case pos =>
    refine ⟨H2C_PARAMETERS_ERROR, ?_, fun code => ?_⟩
    · rw [if_pos (.inr no_handler)]
      simp only [rtw_free_pbuf, extra_of_no_handler no_handler, Nat.add_zero, update_eq_self]
    · rw [code] at no_handler
      exact absurd no_handler (by decide)
  case neg =>
    refine ⟨_, if_neg ?_, fun _ regular => ?_⟩
    · exact not_or_intro (Nat.not_lt_of_le small) no_handler
    · rw [if_pos regular.1, regular.2]

theorem CmdInvariant.process (inv : CmdInvariant cmd s) (ret : UInt8) (place : s.worker = .process pcmd)
    (regular : (cmd pcmd).cmdcode = _DisConnect -> rtw_cmd_filter s (cmd pcmd) = true ∧ ret = H2C_SUCCESS) :
    CmdInvariant cmd (process_cmd cmd s pcmd ret) := by
  have taken : pcmd ∈ s.worker.taken := by rw [place]; exact List.mem_singleton_self pcmd
  have unhandled := inv.ordered.taken_not_handled taken
  have linked := inv.ordered.taken_inserted taken
  have accepted := inv.ordered.not_refused linked
  rcases process_cmd_eq s ret (inv.controlled.small pcmd (.inr linked)) with ⟨res, outcome, success⟩
  rw [outcome]
  exact
    { ordered := inv.ordered.moved (by rw [place]; rfl) rfl rfl
      counted :=
        { sctx := inv.counted.sctx
          signalled := inv.counted.signalled
          freed := fun other => by
            have freed := inv.counted.freed other
            rw [place] at freed
            exact freed
          pbuf_freed := fun other => by
            have freed := inv.counted.pbuf_freed other
            rw [place] at freed
            simp only [rtw_free_pbuf, update_apply, Worker.emptied] at freed ⊢
            grind
          kept := fun other member => absurd member List.not_mem_nil }
      controlled := inv.controlled.onward rfl rfl nofun nofun fun other result here => by
        cases here
        exact fun code => success code (regular code) }

theorem rtw_sctx_done_eq (s : CmdPriv) (pcmd : Nat) :
    rtw_sctx_done s pcmd =
      { s with
        sctx := Function.update s.sctx pcmd false
        signalled := Function.update s.signalled pcmd (s.signalled pcmd + if s.sctx pcmd then 1 else 0) } := by
  unfold rtw_sctx_done
  cases waits : s.sctx pcmd with
  | true => rfl
  | false =>
    have still : Function.update s.sctx pcmd false = s.sctx := by
      rw [← waits, update_eq_self]
    simp only [Bool.false_eq_true, if_false, still, Nat.add_zero, update_eq_self]

theorem CmdInvariant.handle (inv : CmdInvariant cmd s) (place : s.worker.taken = [pcmd])
    (not_kept : s.worker.kept = []) {target : Worker} (taken : target.taken = []) (kept : target.kept = [pcmd])
    (emptied : target.emptied = []) (pbuf : Nat -> Nat) (freed : ∀ other, pbuf other =
      if s.enqueuer other = .returned false ∨ other ∈ s.handled ++ [pcmd] then (cmd other).extra else 0)
    (elsewhere : target ≠ .start ∧ target ≠ .down ∧ target ≠ .exited)
    (disconnect : ∀ other res, target.result = some (other, res) -> (cmd other).cmdcode = _DisConnect -> res = H2C_SUCCESS) :
    CmdInvariant cmd
      { rtw_sctx_done { s with pbuf_freed := pbuf } pcmd with
        handled := s.handled ++ [pcmd], worker := target } := by
  have member : pcmd ∈ s.worker.taken := by rw [place]; exact List.mem_singleton_self pcmd
  have unhandled := inv.ordered.taken_not_handled member
  have accepted := inv.ordered.not_refused (inv.ordered.taken_inserted member)
  rw [rtw_sctx_done_eq]
  exact
    { ordered := inv.ordered.moved (by simp only [place, taken, List.append_nil]) rfl rfl
      counted :=
        { sctx := fun other => by
            have sctx := inv.counted.sctx other
            simp only [update_apply, List.mem_append, List.mem_singleton]
            grind
          signalled := fun other => by
            have sctx := inv.counted.sctx other
            have signalled := inv.counted.signalled other
            simp only [update_apply, List.mem_append, List.mem_singleton]
            grind
          freed := fun other => by
            have freed := inv.counted.freed other
            simp only [not_kept, kept, List.mem_append, List.mem_singleton] at freed ⊢
            grind
          pbuf_freed := fun other => by
            simp only [emptied, List.append_nil]
            exact freed other
          kept := fun other held => by
            rw [kept] at held
            exact List.mem_append_right _ held }
      controlled := inv.controlled.onward rfl rfl elsewhere.1
        (fun here => (here.elim elsewhere.2.1 elsewhere.2.2).elim) disconnect }

theorem CmdInvariant.free (inv : CmdInvariant cmd s) (place : s.worker.kept = [pcmd])
    {target : Worker} (nothing : s.worker.taken = [] ∧ s.worker.emptied = [])
    (others : target.taken = [] ∧ target.emptied = [] ∧ target.kept = [])
    (elsewhere : target ≠ .start ∧ target ≠ .down ∧ target ≠ .exited) (free : target.result = none) :
    CmdInvariant cmd { rtw_free_cmd_obj s pcmd with worker := target } := by
  have handled : pcmd ∈ s.handled := inv.counted.kept pcmd (by rw [place]; exact List.mem_singleton_self pcmd)
  have accepted := inv.ordered.not_refused (inv.ordered.handled_inserted handled)
  exact
    { ordered := inv.ordered.moved (by rw [nothing.1, others.1]; rfl) rfl rfl
      counted :=
        { sctx := inv.counted.sctx
          signalled := inv.counted.signalled
          freed := fun other => by
            have freed := inv.counted.freed other
            simp only [place, others.2.2, rtw_free_cmd_obj, update_apply] at freed ⊢
            grind
          pbuf_freed := fun other => by
            have freed := inv.counted.pbuf_freed other
            rw [nothing.2] at freed
            simp only [others.2.1]
            exact freed
          kept := fun other held => by
            rw [others.2.2] at held
            exact absurd held List.not_mem_nil }
      controlled := inv.controlled.onward rfl rfl elsewhere.1
        (fun here => (here.elim elsewhere.2.1 elsewhere.2.2).elim)
        fun other res here => nomatch free.symm.trans here }

theorem CmdInvariant.work (inv : CmdInvariant cmd s) (interrupted : Bool) (ret : UInt8)
    (regular : Regular cmd s (.work interrupted ret)) : CmdInvariant cmd (rtw_cmd_thread cmd s interrupted ret) := by
  unfold rtw_cmd_thread
  unfold Regular at regular
  cases place : s.worker with
  | start =>
    have line := inv.ordered.in_order
    rw [(inv.controlled.start place).2.1] at line
    have empty : s.cmd_queue = [] := (List.append_eq_nil_iff.mp line).2
    exact inv.quiet true s.cmd_queue_sema s.cmd_queue .down (by rw [place]; rfl) (by rw [place]; rfl)
      (by rw [place]; rfl) nofun (fun _ => empty) rfl
  | down =>
    dsimp only
    split
    case isTrue =>
      exact inv.quiet s.cmdthd_running s.cmd_queue_sema s.cmd_queue .leave (by rw [place]; rfl)
        (by rw [place]; rfl) (by rw [place]; rfl) nofun nofun rfl
    split
    case isTrue => exact inv
    case isFalse =>
      exact inv.quiet s.cmdthd_running _ s.cmd_queue .woken (by rw [place]; rfl)
        (by rw [place]; rfl) (by rw [place]; rfl) nofun nofun rfl
  | woken =>
    dsimp only
    split
    all_goals
      exact inv.quiet s.cmdthd_running s.cmd_queue_sema s.cmd_queue _ (by rw [place]; rfl)
        (by rw [place]; rfl) (by rw [place]; rfl) nofun nofun rfl
  | look =>
    dsimp only
    split
    case isTrue empty =>
      exact inv.quiet s.cmdthd_running s.cmd_queue_sema s.cmd_queue .down (by rw [place]; rfl)
        (by rw [place]; rfl) (by rw [place]; rfl) nofun (fun _ => empty) rfl
    case isFalse =>
      exact inv.quiet s.cmdthd_running s.cmd_queue_sema s.cmd_queue .next (by rw [place]; rfl)
        (by rw [place]; rfl) (by rw [place]; rfl) nofun nofun rfl
  | next =>
    dsimp only
    split
    all_goals
      exact inv.quiet s.cmdthd_running s.cmd_queue_sema s.cmd_queue _ (by rw [place]; rfl)
        (by rw [place]; rfl) (by rw [place]; rfl) nofun nofun rfl
  | dequeue =>
    dsimp only [rtw_dequeue_cmd]
    cases queue : s.cmd_queue with
    | nil =>
      exact inv.quiet s.cmdthd_running s.cmd_queue_sema [] .down (by rw [place, queue]; rfl)
        (by rw [place]; rfl) (by rw [place]; rfl) nofun (fun _ => rfl) rfl
    | cons pcmd rest =>
      exact inv.quiet s.cmdthd_running s.cmd_queue_sema rest (.process pcmd) (by rw [place, queue]; rfl)
        (by rw [place]; rfl) (by rw [place]; rfl) nofun nofun rfl
  | process pcmd =>
    rw [place] at regular
    exact inv.process ret place regular
  | post_process pcmd res =>
    refine inv.handle (by rw [place]; rfl) (by rw [place]; rfl) rfl rfl rfl s.pbuf_freed (fun other => ?_)
      ⟨nofun, nofun, nofun⟩ (fun other result here => ?_)
    · have freed := inv.counted.pbuf_freed other
      rwa [place] at freed
    · cases here
      exact inv.controlled.disconnect pcmd res (by rw [place]; rfl)
  | callback pcmd res =>
    have success := inv.controlled.disconnect pcmd res (by rw [place]; rfl)
    have freed : pcmd_callback cmd s pcmd res = rtw_free_cmd_obj s pcmd :=
      if_neg fun failed => failed.2 (success failed.1)
    dsimp only
    rw [freed]
    exact inv.free (by rw [place]; rfl) ⟨by rw [place]; rfl, by rw [place]; rfl⟩ ⟨rfl, rfl, rfl⟩
      ⟨nofun, nofun, nofun⟩ rfl
  | leave =>
    exact inv.quiet false s.cmd_queue_sema s.cmd_queue .drain (by rw [place]; rfl) (by rw [place]; rfl)
      (by rw [place]; rfl) nofun nofun rfl
  | drain =>
    dsimp only [rtw_dequeue_cmd]
    cases queue : s.cmd_queue with
    | nil =>
      exact inv.quiet s.cmdthd_running s.cmd_queue_sema [] .exited (by rw [place, queue]; rfl)
        (by rw [place]; rfl) (by rw [place]; rfl) nofun (fun _ => rfl) rfl
    | cons pcmd rest =>
      exact inv.quiet s.cmdthd_running s.cmd_queue_sema rest (.drop pcmd) (by rw [place, queue]; rfl)
        (by rw [place]; rfl) (by rw [place]; rfl) nofun nofun rfl
  | drop pcmd =>
    refine inv.handle (by rw [place]; rfl) (by rw [place]; rfl) rfl rfl rfl _ (fun other => ?_)
      ⟨nofun, nofun, nofun⟩ nofun
    have freed := inv.counted.pbuf_freed other
    rw [place] at freed
    have taken : pcmd ∈ s.worker.taken := by rw [place]; exact List.mem_singleton_self pcmd
    have unhandled := inv.ordered.taken_not_handled taken
    have accepted := inv.ordered.not_refused (inv.ordered.taken_inserted taken)
    simp only [update_apply, Worker.emptied] at freed ⊢
    grind
  | discard pcmd =>
    exact inv.free (by rw [place]; rfl) ⟨by rw [place]; rfl, by rw [place]; rfl⟩ ⟨rfl, rfl, rfl⟩
      ⟨nofun, nofun, nofun⟩ rfl
  | exited => exact inv

theorem CmdInvariant.outside (inv : CmdInvariant cmd s) (hw_init_completed cannot_run : Bool) (sema : Nat)
    (more : s.cmd_queue_sema ≤ sema) :
    CmdInvariant cmd
      { s with hw_init_completed := hw_init_completed, cannot_run := cannot_run, cmd_queue_sema := sema } where
  ordered := inv.ordered.moved rfl rfl rfl
  counted := { inv.counted with }
  controlled :=
    { inv.controlled with
      down := fun waits waiting =>
        (inv.controlled.down waits waiting).imp_left (fun count => Nat.lt_of_lt_of_le count more) }

theorem CmdInvariant.step (s : CmdPriv) (operation : Operation) (regular : Regular cmd s operation)
    (inv : CmdInvariant cmd s) : CmdInvariant cmd (s.step cmd operation) := by
  cases operation with
  | set_hw_init_completed completed => exact inv.outside completed s.cannot_run _ (Nat.le_refl _)
  | set_cannot_run cannot => exact inv.outside s.hw_init_completed cannot _ (Nat.le_refl _)
  | rtw_stop_cmd_thread => exact inv.outside s.hw_init_completed s.cannot_run _ (Nat.le_succ _)
  | filter pcmd =>
    dsimp only [CmdPriv.step]
    by_cases idle : s.enqueuer pcmd = .idle
    case neg => rwa [if_neg idle]
    case pos =>
      rw [if_pos idle]
      unfold enqueue_filter
      cases res : rtw_cmd_filter s (cmd pcmd) with
      | true =>
        have small := regular idle res
        have running : s.cmdthd_running = true := by
          unfold rtw_cmd_filter at res
          cases up : s.cmdthd_running with
          | true => rfl
          | false => simp [up] at res
        simp only [Bool.true_eq_false, Nat.not_lt_of_le small, or_self, if_false]
        exact inv.filtered idle running small
      | false =>
        simp only [true_or, if_true]
        exact inv.refused idle
  | insert pcmd =>
    dsimp only [CmdPriv.step]
    by_cases here : s.enqueuer pcmd = .filtered
    case pos => rw [if_pos here]; exact inv.inserted here (regular here)
    case neg => rwa [if_neg here]
  | up pcmd =>
    dsimp only [CmdPriv.step]
    by_cases here : s.enqueuer pcmd = .inserted
    case pos => rw [if_pos here]; exact inv.up here
    case neg => rwa [if_neg here]
  | work interrupted ret => exact inv.work interrupted ret regular

/-- How many steps the worker has before it at most: what it does at its place, and a round
for each command and for each count of the semaphore. -/
def Worker.rank : Worker -> Nat
  | .exited => 0
  | .drain => 1
  | .discard _ => 2
  | .leave => 2
  | .drop _ => 3
  | .down => 3
  | .dequeue => 4
  | .start => 4
  | .next => 5
  | .look => 6
  | .callback _ _ => 6
  | .woken => 7
  | .post_process _ _ => 7
  | .process _ => 8

def CmdPriv.rank (s : CmdPriv) : Nat :=
  s.worker.rank + 10 * s.cmd_queue_sema + 10 * s.cmd_queue.length

theorem rank_decreases (s : CmdPriv) (interrupted : Bool) (ret : UInt8) (busy : ¬ s.AtRest) :
    (rtw_cmd_thread cmd s interrupted ret).rank < s.rank := by
  unfold CmdPriv.AtRest at busy
  unfold rtw_cmd_thread CmdPriv.rank
  cases place : s.worker with
  | exited => exact absurd (.inl place) busy
  | down =>
    have count : s.cmd_queue_sema ≠ 0 := fun none => busy (.inr ⟨place, none⟩)
    dsimp only
    split
    · simp only [Worker.rank]; omega
    · simp only [Worker.rank]; omega
  | dequeue => cases queue : s.cmd_queue <;> simp [rtw_dequeue_cmd, queue, Worker.rank]; omega
  | drain => cases queue : s.cmd_queue <;> simp [rtw_dequeue_cmd, queue, Worker.rank]; omega
  | woken => cases s.cannot_run <;> simp [Worker.rank]
  | next => cases s.cannot_run <;> simp [Worker.rank]
  | look => dsimp only; split <;> simp [Worker.rank]
  | process pcmd => simp only [process_cmd, rtw_free_pbuf]; split <;> simp [Worker.rank]
  | post_process pcmd res => simp [rtw_sctx_done_eq, Worker.rank]
  | callback pcmd res => simp only [pcmd_callback, rtw_free_cmd_obj]; split <;> simp [Worker.rank]
  | start => simp [Worker.rank]
  | leave => simp [Worker.rank]
  | drop pcmd => simp [rtw_sctx_done_eq, rtw_free_pbuf, Worker.rank]
  | discard pcmd => simp [rtw_free_cmd_obj, Worker.rank]

theorem comes_to_rest (s : CmdPriv) (inputs : Nat -> Bool × UInt8) :
    ∃ n, (Run.execute (CmdPriv.step cmd) s
      ((List.range n).map fun k => .work (inputs k).1 (inputs k).2)).AtRest := by
  induction bound : s.rank using Nat.strongRecOn generalizing s inputs with
  | ind rank ih =>
    by_cases rest : s.AtRest
    case pos => exact ⟨0, rest⟩
    case neg =>
      have decreases := @rank_decreases cmd s (inputs 0).1 (inputs 0).2 rest
      rcases ih _ (bound ▸ decreases) _ (fun k => inputs (k + 1)) rfl with ⟨n, done⟩
      refine ⟨n + 1, ?_⟩
      rw [List.range_succ_eq_map, List.map_cons, List.map_map]
      exact done

variable (cmd)

/-- In every regular run the commands are handed over, and the worker comes to rest when it
is left alone. -/
theorem commands_handed_over (hw_init_completed cannot_run : Bool) (operations : List Operation)
    (regular : Run.Guarded (CmdPriv.step cmd) (Regular cmd) (.initial cmd hw_init_completed cannot_run)
      operations) :
    HandedOver cmd (Run.execute (CmdPriv.step cmd) (.initial cmd hw_init_completed cannot_run) operations) ∧
      ∀ inputs : Nat -> Bool × UInt8, ∃ n,
        (Run.execute (CmdPriv.step cmd)
          (Run.execute (CmdPriv.step cmd) (.initial cmd hw_init_completed cannot_run) operations)
          ((List.range n).map fun k => .work (inputs k).1 (inputs k).2)).AtRest :=
  ⟨(regular.invariant CmdInvariant.step (.initial hw_init_completed cannot_run)).handedOver,
    comes_to_rest _⟩

/-- Two callers wait for their commands, one of them `_DisConnect`. -/
def twoCommands (pcmd : Nat) : CmdObj where
  cmdcode := if pcmd = 0 then _DisConnect else _Set_Drv_Extra
  cmdsz := 16
  no_io := false
  sctx := true
  pbuf := true

/-- One command is processed, and the other is dropped when the worker stops. -/
def twoCommandsRun : List Operation :=
  [.work false 0, .filter 0, .insert 0, .filter 1, .up 0, .work false 0, .insert 1, .work false 0,
    .work false 0, .work false 0, .work false 0, .work false 0, .set_cannot_run true, .work false 0,
    .up 1, .work false 0, .work false 0, .work false 0, .work false 0, .work false 0, .work false 0,
    .work false 0]

theorem commands_handed_over_two :
    HandedOver twoCommands
        (Run.execute (CmdPriv.step twoCommands) (.initial twoCommands true false) twoCommandsRun) ∧
      ∀ inputs : Nat -> Bool × UInt8, ∃ n,
        (Run.execute (CmdPriv.step twoCommands)
          (Run.execute (CmdPriv.step twoCommands) (.initial twoCommands true false) twoCommandsRun)
          ((List.range n).map fun k => .work (inputs k).1 (inputs k).2)).AtRest :=
  commands_handed_over twoCommands true false twoCommandsRun (by decide)

/-- A caller passes the filter, the worker stops and drains the queue, and then the command
is linked: the call succeeds and nobody is left to signal its waiter. -/
def lateInsertRun : List Operation :=
  [.work false 0, .filter 0, .set_cannot_run true, .rtw_stop_cmd_thread, .work false 0, .work false 0,
    .work false 0, .work false 0, .insert 0, .up 0]

/-- A command that is too large is freed, and the call succeeds. -/
def oversizedRun : List Operation := [.work false 0, .filter 0]

/-- `_DisConnect` is dropped by the filter of the worker, and never freed. -/
def droppedDisConnectRun : List Operation :=
  [.work false 0, .filter 0, .insert 0, .up 0, .set_hw_init_completed false, .work false 0, .work false 0,
    .work false 0, .work false 0, .work false 0, .work false 0, .work false 0, .work false 0]

theorem commands_lost :
    ¬ HandedOver twoCommands
        (Run.execute (CmdPriv.step twoCommands) (.initial twoCommands true false) lateInsertRun) ∧
      ¬ HandedOver (fun _ => ⟨_Set_Drv_Extra, 1025, false, true, false⟩)
        (Run.execute (CmdPriv.step fun _ => ⟨_Set_Drv_Extra, 1025, false, true, false⟩)
          (.initial (fun _ => ⟨_Set_Drv_Extra, 1025, false, true, false⟩) true false) oversizedRun) ∧
      ¬ HandedOver twoCommands
        (Run.execute (CmdPriv.step twoCommands) (.initial twoCommands true false) droppedDisConnectRun) := by
  refine ⟨fun handed => ?_, fun handed => ?_, fun handed => ?_⟩
  · exact absurd (handed.exited (by decide)) (by decide)
  · exact absurd (handed.accepted 0 (by decide)) (by decide)
  · exact absurd (handed.freed 0 (by decide)) (by decide)

end Cmd

end Rtl8821ce
