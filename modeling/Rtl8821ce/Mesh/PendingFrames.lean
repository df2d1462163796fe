import Rtl8821ce.Library.Custody
import Rtl8821ce.Mesh.Pathtbl

/-!
# Frames that wait for a mesh path

When a path cannot be resolved, `rtw_mesh_path_send_to_gates` hands its frames
to the active gates.  The frames go to the first of them, from there to the
second, and so on, each gate keeping what the next one has no room for; then
all active gates pass their queues to `mpath_tx_queue`.  What is left on the
path is freed by `rtw_mesh_path_flush_pending`.

The first round moves the frames with `copy` false, and then drops its list of
frames that found no room.
-/

namespace Rtl8821ce

variable {failq : List Nat} {failq_len : Nat}

/-- `enum mesh_frame_type`. -/
inductive MeshFrameType
  | MESH_UCAST_DATA
  | MESH_BMCAST_DATA
  | MESH_UCAST_PX_DATA
  | MESH_BMCAST_PX_DATA
  | MESH_MHOP_UCAST_ACT
  | MESH_MHOP_BMCAST_ACT
  deriving DecidableEq

/-- The fields of `struct pkt_attrib` that `rtw_prepare_for_gate` uses. -/
structure MeshAttrib where
  mesh_frame_mode : MeshFrameType
  ra : MacAddr
  mda : MacAddr

/-- The paths of an interface, its gates, and the places where frames are. -/
structure MeshQueues (Path : Type) where
  mpath : Path -> MeshPath
  known_gates : List Path
  mpath_tx_queue : List Nat
  mpath_tx_queue_len : Nat
  attrib : Nat -> MeshAttrib
  freed : List Nat
  dropped_frames_no_route : Nat

variable {Path : Type} [DecidableEq Path]

namespace MeshQueues

def modify (s : MeshQueues Path) (p : Path) (change : MeshPath -> MeshPath) : MeshQueues Path :=
  { s with mpath := Function.update s.mpath p (change (s.mpath p)) }

def splice_init (s : MeshQueues Path) (p : Path) : MeshQueues Path :=
  s.modify p (fun mpath => { mpath with frame_queue := [], frame_queue_len := 0 })

/-- Put frames back before those of the queue of a path. -/
def splice (s : MeshQueues Path) (p : Path) (failq : List Nat) (failq_len : Nat) : MeshQueues Path :=
  s.modify p (fun mpath => { mpath with
    frame_queue := failq ++ mpath.frame_queue
    frame_queue_len := mpath.frame_queue_len + failq_len })

end MeshQueues

/-- Address a frame to a gate, by way of the neighbour `next_hop`. -/
def rtw_prepare_for_gate (attrib : MeshAttrib) (dst_addr next_hop : MacAddr) : MeshAttrib where
  mesh_frame_mode :=
    if attrib.mesh_frame_mode = .MESH_UCAST_DATA then .MESH_UCAST_PX_DATA
    else attrib.mesh_frame_mode
  ra := next_hop
  mda := dst_addr

/-- The loop of `rtw_mesh_path_move_to_queue`: what is left of `failq`, of its
length, and the queues. -/
def move_to_queue_loop (gate_mpath : Path) (next_hop : MacAddr) :
    List Nat -> Nat -> MeshQueues Path -> List Nat × Nat × MeshQueues Path
  | [], failq_len, s => ([], failq_len, s)
  | fskb :: failq, failq_len, s =>
      if (s.mpath gate_mpath).frame_queue_len >= RTW_MESH_FRAME_QUEUE_LEN then
        (fskb :: failq, failq_len, s)
      else
        let prepared :=
          rtw_prepare_for_gate (s.attrib fskb) (s.mpath gate_mpath).dst next_hop
        let queued :=
          { s with attrib := Function.update s.attrib fskb prepared }.modify gate_mpath
            (fun mpath => { mpath with
              frame_queue := mpath.frame_queue ++ [fskb]
              frame_queue_len := mpath.frame_queue_len + 1 })
        move_to_queue_loop gate_mpath next_hop failq (failq_len - 1) queued

/-- Move the frames of `from_mpath` to a gate.  With `copy`, frames that find no
room go back to `from_mpath`. -/
def rtw_mesh_path_move_to_queue (s : MeshQueues Path) (gate_mpath from_mpath : Path)
    (copy : Bool) : MeshQueues Path :=
  if gate_mpath = from_mpath then s
  else
    match (s.mpath gate_mpath).next_hop with
    | none => s
    | some next_hop =>
        let moved := move_to_queue_loop gate_mpath next_hop (s.mpath from_mpath).frame_queue
          (s.mpath from_mpath).frame_queue_len (s.splice_init from_mpath)
        if copy then moved.2.2.splice from_mpath moved.1 moved.2.1 else moved.2.2

/-- Pass the queue of an active path to `mpath_tx_queue`. -/
def rtw_mesh_path_tx_pending (s : MeshQueues Path) (p : Path) : MeshQueues Path :=
  if (s.mpath p).flags.ACTIVE then
    if (s.mpath p).frame_queue_len ≠ 0 then
      { s.splice_init p with
        mpath_tx_queue := s.mpath_tx_queue ++ (s.mpath p).frame_queue
        mpath_tx_queue_len := s.mpath_tx_queue_len + (s.mpath p).frame_queue_len }
    else s
  else s

/-- The first loop of `rtw_mesh_path_send_to_gates`, with `from_mpath` and `copy`. -/
def forward_to_gates : List Path -> Path -> Bool -> MeshQueues Path -> Path × MeshQueues Path
  | [], from_mpath, _, s => (from_mpath, s)
  | gate :: rest, from_mpath, copy, s =>
      if (s.mpath gate).flags.ACTIVE then
        forward_to_gates rest gate true (rtw_mesh_path_move_to_queue s gate from_mpath copy)
      else forward_to_gates rest from_mpath copy s

/-- Send the pending frames of a path to all known gates.  The answer is whether
a gate was reachable. -/
def rtw_mesh_path_send_to_gates (s : MeshQueues Path) (mpath : Path) : Bool × MeshQueues Path :=
  let forwarded := forward_to_gates s.known_gates mpath false s
  (forwarded.1 ≠ mpath, s.known_gates.foldl rtw_mesh_path_tx_pending forwarded.2)

def rtw_mesh_path_discard_frame (s : MeshQueues Path) (xframe : Nat) : MeshQueues Path :=
  { s with
    freed := s.freed ++ [xframe]
    dropped_frames_no_route := s.dropped_frames_no_route + 1 }

def rtw_mesh_path_flush_pending (s : MeshQueues Path) (p : Path) : MeshQueues Path :=
  (s.mpath p).frame_queue.foldl rtw_mesh_path_discard_frame (s.splice_init p)

/-- The length fields agree with the lists, and no queue is over its limit. -/
structure QueuesCounted (s : MeshQueues Path) : Prop where
  frame_queue_len : ∀ p, (s.mpath p).frame_queue_len = (s.mpath p).frame_queue.length
  mpath_tx_queue_len : s.mpath_tx_queue_len = s.mpath_tx_queue.length
  limit : ∀ p, (s.mpath p).frame_queue_len ≤ RTW_MESH_FRAME_QUEUE_LEN

def MeshQueues.places [Fintype Path] (s : MeshQueues Path) (xframe : Nat) : Nat :=
  (∑ p, (s.mpath p).frame_queue.count xframe) + s.mpath_tx_queue.count xframe +
    s.freed.count xframe

/-- Every frame that waited on the path or on a gate is in one place afterwards. -/
structure FramesConserved [Fintype Path] (before : MeshQueues Path) (mpath : Path)
    (after : MeshQueues Path) : Prop where
  counted : QueuesCounted after
  once : ∀ p xframe, p = mpath ∨ p ∈ before.known_gates ->
    xframe ∈ (before.mpath p).frame_queue -> after.places xframe = 1

/-- The first active gate takes no frames at all, or has room for all of them. -/
def FirstGateHasRoom (s : MeshQueues Path) (mpath : Path) : Prop :=
  ∀ gate, s.known_gates.find? (fun gate => (s.mpath gate).flags.ACTIVE) = some gate ->
    gate = mpath ∨ (s.mpath gate).next_hop = none ∨
      (s.mpath gate).frame_queue_len + (s.mpath mpath).frame_queue_len ≤ RTW_MESH_FRAME_QUEUE_LEN

section modify

variable (s : MeshQueues Path) (p : Path) (change : MeshPath -> MeshPath)

@[simp] theorem MeshQueues.modify_same : (s.modify p change).mpath p = change (s.mpath p) :=
  Function.update_self _ _ _

theorem MeshQueues.modify_of_ne {p other : Path} (different : other ≠ p) :
    (s.modify p change).mpath other = s.mpath other :=
  Function.update_of_ne different _ _

theorem MeshQueues.places_modify [Fintype Path] (xframe : Nat) :
    (s.modify p change).places xframe + (s.mpath p).frame_queue.count xframe =
      s.places xframe + (change (s.mpath p)).frame_queue.count xframe := by
  have exchanged := Custody.sum_update s.mpath
    (fun mpath => mpath.frame_queue.count xframe) p (change (s.mpath p))
  unfold places modify
  dsimp only at exchanged ⊢
  omega

theorem MeshQueues.modify_forall (holds : MeshPath -> Prop) (all : ∀ p, holds (s.mpath p))
    (kept : holds (change (s.mpath p))) (other : Path) : holds ((s.modify p change).mpath other) := by
  by_cases same : other = p
  · rw [same, modify_same]
    exact kept
  · rw [s.modify_of_ne change same]
    exact all other

end modify

/-! ## Moving frames to one gate -/

def MeshQueues.room (s : MeshQueues Path) (gate_mpath : Path) : Nat :=
  RTW_MESH_FRAME_QUEUE_LEN - (s.mpath gate_mpath).frame_queue_len

def MeshPath.queued (mpath : MeshPath) (frames : List Nat) : MeshPath :=
  { mpath with
    frame_queue := mpath.frame_queue ++ frames
    frame_queue_len := mpath.frame_queue_len + frames.length }

@[simp] theorem MeshPath.queued_nil (mpath : MeshPath) : mpath.queued [] = mpath := by
  unfold queued
  rw [List.append_nil]
  rfl

theorem MeshPath.queued_cons (mpath : MeshPath) (fskb : Nat) (frames : List Nat) :
    (mpath.queued [fskb]).queued frames = mpath.queued (fskb :: frames) := by
  unfold queued
  dsimp only
  rw [List.append_assoc, List.singleton_append, List.length_singleton, List.length_cons,
    Nat.add_assoc, Nat.add_comm 1]

/-- The loop moves what the gate has room for. -/
structure MovedToGate (s : MeshQueues Path) (gate_mpath : Path) (failq : List Nat)
    (failq_len : Nat) (result : List Nat × Nat × MeshQueues Path) : Prop where
  left : result.1 = failq.drop (s.room gate_mpath)
  left_len : result.2.1 = failq_len - min (s.room gate_mpath) failq.length
  mpath : result.2.2.mpath =
    Function.update s.mpath gate_mpath ((s.mpath gate_mpath).queued (failq.take (s.room gate_mpath)))
  mpath_tx_queue : result.2.2.mpath_tx_queue = s.mpath_tx_queue
  mpath_tx_queue_len : result.2.2.mpath_tx_queue_len = s.mpath_tx_queue_len
  freed : result.2.2.freed = s.freed
  known_gates : result.2.2.known_gates = s.known_gates

theorem move_to_queue_loop_moved (gate_mpath : Path) (next_hop : MacAddr) (failq : List Nat)
    (failq_len : Nat) (s : MeshQueues Path) :
    MovedToGate s gate_mpath failq failq_len
      (move_to_queue_loop gate_mpath next_hop failq failq_len s) := by
  induction failq generalizing failq_len s with
  | nil =>
      exact
        { left := List.drop_nil.symm
          left_len := by rw [List.length_nil, Nat.min_zero]; rfl
          mpath := by
            rw [List.take_nil, MeshPath.queued_nil]
            exact (Function.update_eq_self gate_mpath s.mpath).symm
          mpath_tx_queue := rfl, mpath_tx_queue_len := rfl, freed := rfl, known_gates := rfl }
  | cons fskb failq ih =>
      rw [move_to_queue_loop]
      by_cases full : (s.mpath gate_mpath).frame_queue_len >= RTW_MESH_FRAME_QUEUE_LEN
      · have noRoom : s.room gate_mpath = 0 := Nat.sub_eq_zero_of_le full
        rw [if_pos full]
        exact
          { left := by rw [noRoom, List.drop_zero]
            left_len := by rw [noRoom, Nat.zero_min]; rfl
            mpath := by
              rw [noRoom, List.take_zero, MeshPath.queued_nil]
              exact (Function.update_eq_self gate_mpath s.mpath).symm
            mpath_tx_queue := rfl, mpath_tx_queue_len := rfl, freed := rfl, known_gates := rfl }
      · rw [if_neg full]
        dsimp only
        generalize hq : MeshQueues.modify _ gate_mpath _ = queued
        have rest := ih (failq_len - 1) queued
        have there : queued.mpath =
            Function.update s.mpath gate_mpath ((s.mpath gate_mpath).queued [fskb]) := by
          rw [← hq]
          rfl
        have here : queued.mpath gate_mpath = (s.mpath gate_mpath).queued [fskb] := by
          rw [there, Function.update_self]
        have room : s.room gate_mpath = queued.room gate_mpath + 1 := by
          unfold MeshQueues.room
          rw [here, MeshPath.queued, List.length_singleton]
          dsimp only
          omega
        have shorter : min (s.room gate_mpath) (fskb :: failq).length =
            min (queued.room gate_mpath) failq.length + 1 := by
          rw [room, List.length_cons, Nat.add_min_add_right]
        exact
          { left := by rw [rest.left, room, List.drop_succ_cons]
            left_len := by
              rw [rest.left_len, shorter]
              omega
            mpath := by
              rw [rest.mpath, here, there, Function.update_idem, MeshPath.queued_cons, room, List.take_succ_cons]
            mpath_tx_queue := by rw [rest.mpath_tx_queue, ← hq]; rfl
            mpath_tx_queue_len := by rw [rest.mpath_tx_queue_len, ← hq]; rfl
            freed := by rw [rest.freed, ← hq]; rfl
            known_gates := by rw [rest.known_gates, ← hq]; rfl }

theorem MovedToGate.places [Fintype Path] {s : MeshQueues Path} {gate_mpath : Path} {result : List Nat × Nat × MeshQueues Path}
    (moved : MovedToGate s gate_mpath failq failq_len result) (xframe : Nat) :
    result.2.2.places xframe = s.places xframe + (failq.take (s.room gate_mpath)).count xframe := by
  have exchanged := Custody.sum_update s.mpath (fun mpath => mpath.frame_queue.count xframe)
    gate_mpath ((s.mpath gate_mpath).queued (failq.take (s.room gate_mpath)))
  dsimp only [MeshPath.queued] at exchanged
  rw [List.count_append] at exchanged
  unfold MeshQueues.places
  rw [moved.mpath, moved.mpath_tx_queue, moved.freed]
  dsimp only [MeshPath.queued]
  omega

theorem MovedToGate.counted {s : MeshQueues Path} {gate_mpath : Path} {result : List Nat × Nat × MeshQueues Path}
    (moved : MovedToGate s gate_mpath failq failq_len result) (counted : QueuesCounted s) :
    QueuesCounted result.2.2 := by
  have length := counted.frame_queue_len gate_mpath
  have limit := counted.limit gate_mpath
  constructor
  · intro p
    rw [moved.mpath]
    by_cases same : p = gate_mpath
    · rw [same, Function.update_self]
      dsimp only [MeshPath.queued]
      rw [List.length_append, length]
    · rw [Function.update_of_ne same]
      exact counted.frame_queue_len p
  · rw [moved.mpath_tx_queue, moved.mpath_tx_queue_len]
    exact counted.mpath_tx_queue_len
  · intro p
    rw [moved.mpath]
    by_cases same : p = gate_mpath
    · rw [same, Function.update_self]
      have room : s.room gate_mpath =
          RTW_MESH_FRAME_QUEUE_LEN - (s.mpath gate_mpath).frame_queue_len := rfl
      dsimp only [MeshPath.queued]
      rw [List.length_take]
      omega
    · rw [Function.update_of_ne same]
      exact counted.limit p

/-- The frames that a call of `rtw_mesh_path_move_to_queue` leaves in no queue. -/
def MeshQueues.abandoned (s : MeshQueues Path) (gate_mpath from_mpath : Path) (copy : Bool) : List Nat :=
  if gate_mpath = from_mpath ∨ (s.mpath gate_mpath).next_hop = none ∨ copy = true then []
  else (s.mpath from_mpath).frame_queue.drop (s.room gate_mpath)

section round

variable {s : MeshQueues Path} {gate_mpath from_mpath : Path}

theorem MeshQueues.splice_init_places [Fintype Path] (p : Path) (xframe : Nat) :
    (s.splice_init p).places xframe + (s.mpath p).frame_queue.count xframe = s.places xframe :=
  s.places_modify p _ xframe

theorem MeshQueues.splice_places [Fintype Path] (p : Path) (failq : List Nat) (failq_len xframe : Nat) :
    (s.splice p failq failq_len).places xframe = s.places xframe + failq.count xframe := by
  have exchanged := s.places_modify p (fun mpath => { mpath with
    frame_queue := failq ++ mpath.frame_queue
    frame_queue_len := mpath.frame_queue_len + failq_len }) xframe
  rw [List.count_append] at exchanged
  unfold splice
  omega

theorem MeshQueues.splice_init_room (different : gate_mpath ≠ from_mpath) :
    (s.splice_init from_mpath).room gate_mpath = s.room gate_mpath := by
  unfold room splice_init
  rw [s.modify_of_ne _ different]

theorem QueuesCounted.splice_init (counted : QueuesCounted s) (p : Path) : QueuesCounted (s.splice_init p) where
  frame_queue_len := s.modify_forall p _ (fun mpath => mpath.frame_queue_len = mpath.frame_queue.length)
    counted.frame_queue_len rfl
  mpath_tx_queue_len := counted.mpath_tx_queue_len
  limit := s.modify_forall p _ (fun mpath => mpath.frame_queue_len ≤ RTW_MESH_FRAME_QUEUE_LEN)
    counted.limit (Nat.zero_le _)

theorem QueuesCounted.splice (counted : QueuesCounted s) (p : Path) (length : failq_len = failq.length)
    (limit : (s.mpath p).frame_queue_len + failq_len ≤ RTW_MESH_FRAME_QUEUE_LEN) :
    QueuesCounted (s.splice p failq failq_len) where
  frame_queue_len := s.modify_forall p _ (fun mpath => mpath.frame_queue_len = mpath.frame_queue.length)
    counted.frame_queue_len (by
    dsimp only
    rw [List.length_append, counted.frame_queue_len p, length, Nat.add_comm])
  mpath_tx_queue_len := counted.mpath_tx_queue_len
  limit := s.modify_forall p _ (fun mpath => mpath.frame_queue_len ≤ RTW_MESH_FRAME_QUEUE_LEN)
    counted.limit limit

theorem move_to_queue_cases (s : MeshQueues Path) (gate_mpath from_mpath : Path) (copy : Bool) :
    (rtw_mesh_path_move_to_queue s gate_mpath from_mpath copy = s ∧
        s.abandoned gate_mpath from_mpath copy = []) ∨
    ∃ result, gate_mpath ≠ from_mpath ∧
      MovedToGate (s.splice_init from_mpath) gate_mpath (s.mpath from_mpath).frame_queue
        (s.mpath from_mpath).frame_queue_len result ∧
      rtw_mesh_path_move_to_queue s gate_mpath from_mpath copy =
        (if copy then result.2.2.splice from_mpath result.1 result.2.1 else result.2.2) ∧
      s.abandoned gate_mpath from_mpath copy = (if copy then [] else result.1) := by
  unfold rtw_mesh_path_move_to_queue MeshQueues.abandoned
  by_cases same : gate_mpath = from_mpath
  · rw [if_pos same, if_pos (Or.inl same)]
    exact Or.inl ⟨rfl, rfl⟩
  rw [if_neg same]
  split
  case h_1 without =>
    rw [if_pos (Or.inr (Or.inl without))]
    exact Or.inl ⟨rfl, rfl⟩
  case h_2 next_hop known =>
    have moved := move_to_queue_loop_moved gate_mpath next_hop (s.mpath from_mpath).frame_queue
      (s.mpath from_mpath).frame_queue_len (s.splice_init from_mpath)
    refine Or.inr ⟨_, same, moved, rfl, ?_⟩
    cases copy with
    | true => rw [if_pos (Or.inr (Or.inr rfl)), if_pos rfl]
    | false =>
        have kept : ¬ (gate_mpath = from_mpath ∨ (s.mpath gate_mpath).next_hop = none ∨
            false = true) := by
          rw [known]
          simp [same]
        rw [if_neg kept, if_neg (by decide), moved.left, MeshQueues.splice_init_room same]

theorem move_to_queue_places [Fintype Path] (copy : Bool) (xframe : Nat) :
    (rtw_mesh_path_move_to_queue s gate_mpath from_mpath copy).places xframe +
        (s.abandoned gate_mpath from_mpath copy).count xframe = s.places xframe := by
  rcases move_to_queue_cases s gate_mpath from_mpath copy with
    ⟨unmoved, none⟩ | ⟨result, different, moved, outcome, abandoned⟩
  · rw [unmoved, none]
    rfl
  · have emptied := s.splice_init_places from_mpath xframe
    have reached := moved.places xframe
    have split := congrArg (List.count xframe) (List.take_append_drop
      ((s.splice_init from_mpath).room gate_mpath) (s.mpath from_mpath).frame_queue)
    rw [List.count_append, ← moved.left] at split
    rw [outcome, abandoned]
    cases copy with
    | true =>
        rw [if_pos rfl, if_pos rfl, MeshQueues.splice_places, List.count_nil]
        omega
    | false =>
        rw [if_neg (by decide), if_neg (by decide)]
        omega

theorem QueuesCounted.move_to_queue (counted : QueuesCounted s) (copy : Bool) :
    QueuesCounted (rtw_mesh_path_move_to_queue s gate_mpath from_mpath copy) := by
  rcases move_to_queue_cases s gate_mpath from_mpath copy with
    ⟨unmoved, _⟩ | ⟨result, different, moved, outcome, _⟩
  · rw [unmoved]
    exact counted
  · have reached := moved.counted (counted.splice_init from_mpath)
    rw [outcome]
    cases copy with
    | false => exact reached
    | true =>
        have length := counted.frame_queue_len from_mpath
        have limit := counted.limit from_mpath
        have empty : (result.2.2.mpath from_mpath).frame_queue_len = 0 := by
          rw [moved.mpath, Function.update_of_ne (Ne.symm different), MeshQueues.splice_init,
            MeshQueues.modify_same]
        refine reached.splice from_mpath ?_ ?_
        · rw [moved.left, moved.left_len, List.length_drop]
          omega
        · rw [empty, moved.left_len]
          omega

end round

/-! ## The whole call -/

section call

variable {s : MeshQueues Path}

theorem QueuesCounted.forward_to_gates (counted : QueuesCounted s) (gates : List Path)
    (from_mpath : Path) (copy : Bool) : QueuesCounted (Rtl8821ce.forward_to_gates gates from_mpath copy s).2 := by
  induction gates generalizing s from_mpath copy with
  | nil => exact counted
  | cons gate rest ih =>
      rw [Rtl8821ce.forward_to_gates]
      split
      · exact ih (counted.move_to_queue copy) gate true
      · exact ih counted from_mpath copy

theorem forward_to_gates_copy_places [Fintype Path] (gates : List Path) (from_mpath : Path)
    (xframe : Nat) : (forward_to_gates gates from_mpath true s).2.places xframe = s.places xframe := by
  induction gates generalizing s from_mpath with
  | nil => rfl
  | cons gate rest ih =>
      rw [forward_to_gates]
      split
      · have moved : (rtw_mesh_path_move_to_queue s gate from_mpath true).places xframe +
            (s.abandoned gate from_mpath true).count xframe = s.places xframe :=
          move_to_queue_places true xframe
        have none : s.abandoned gate from_mpath true = [] := if_pos (Or.inr (Or.inr rfl))
        rw [none, List.count_nil, Nat.add_zero] at moved
        rw [ih, moved]
      · exact ih from_mpath

/-- The frames that the first active gate has no room for. -/
def MeshQueues.lost (s : MeshQueues Path) (mpath : Path) : List Nat :=
  match s.known_gates.find? (fun gate => (s.mpath gate).flags.ACTIVE) with
  | none => []
  | some gate => s.abandoned gate mpath false

theorem forward_to_gates_places [Fintype Path] (gates : List Path) (mpath : Path) (xframe : Nat) :
    (forward_to_gates gates mpath false s).2.places xframe +
      (match gates.find? (fun gate => (s.mpath gate).flags.ACTIVE) with
        | none => []
        | some gate => s.abandoned gate mpath false).count xframe = s.places xframe := by
  induction gates with
  | nil => rfl
  | cons gate rest ih =>
      rw [forward_to_gates, List.find?_cons]
      cases active : (s.mpath gate).flags.ACTIVE with
      | true =>
          rw [if_pos rfl, forward_to_gates_copy_places]
          exact move_to_queue_places false xframe
      | false =>
          rw [if_neg (by decide)]
          exact ih

theorem tx_pending_places [Fintype Path] (p : Path) (xframe : Nat) :
    (rtw_mesh_path_tx_pending s p).places xframe = s.places xframe := by
  have emptied := s.splice_init_places p xframe
  unfold rtw_mesh_path_tx_pending
  split_ifs with active waiting
  · unfold MeshQueues.places at emptied ⊢
    dsimp only
    rw [List.count_append]
    have same : (s.splice_init p).mpath_tx_queue = s.mpath_tx_queue := rfl
    rw [same] at emptied
    omega
  · rfl
  · rfl

theorem QueuesCounted.tx_pending (counted : QueuesCounted s) (p : Path) :
    QueuesCounted (rtw_mesh_path_tx_pending s p) := by
  have emptied := counted.splice_init p
  unfold rtw_mesh_path_tx_pending
  split_ifs with active waiting
  · exact
      { frame_queue_len := emptied.frame_queue_len
        mpath_tx_queue_len := by
          dsimp only
          rw [List.length_append, counted.mpath_tx_queue_len, counted.frame_queue_len p]
        limit := emptied.limit }
  · exact counted
  · exact counted

theorem tx_pending_all [Fintype Path] (counted : QueuesCounted s) (gates : List Path) :
    QueuesCounted (gates.foldl rtw_mesh_path_tx_pending s) ∧
      ∀ xframe, (gates.foldl rtw_mesh_path_tx_pending s).places xframe = s.places xframe := by
  induction gates generalizing s with
  | nil => exact ⟨counted, fun _ => rfl⟩
  | cons gate rest ih =>
      have later := ih (counted.tx_pending gate)
      refine ⟨later.1, fun xframe => ?_⟩
      rw [List.foldl_cons, later.2, tx_pending_places]

omit [DecidableEq Path] in
theorem discard_all [Fintype Path] (frames : List Nat) (s : MeshQueues Path) :
    (QueuesCounted s -> QueuesCounted (frames.foldl rtw_mesh_path_discard_frame s)) ∧
      ∀ xframe, (frames.foldl rtw_mesh_path_discard_frame s).places xframe =
        s.places xframe + frames.count xframe := by
  induction frames generalizing s with
  | nil => exact ⟨fun counted => counted, fun _ => rfl⟩
  | cons first rest ih =>
      have later := ih (rtw_mesh_path_discard_frame s first)
      refine ⟨fun counted => later.1 ⟨counted.1, counted.2, counted.3⟩, fun xframe => ?_⟩
      have discarded : (rtw_mesh_path_discard_frame s first).places xframe =
          s.places xframe + [first].count xframe := by
        unfold rtw_mesh_path_discard_frame MeshQueues.places
        dsimp only
        rw [List.count_append, Nat.add_assoc _ (s.freed.count xframe)]
      rw [List.foldl_cons, later.2, discarded, Custody.count_cons first rest, Nat.add_assoc]

theorem flush_pending_places [Fintype Path] (p : Path) (xframe : Nat) :
    (rtw_mesh_path_flush_pending s p).places xframe = s.places xframe := by
  unfold rtw_mesh_path_flush_pending
  rw [(discard_all _ _).2]
  exact s.splice_init_places p xframe

theorem QueuesCounted.flush_pending [Fintype Path] (counted : QueuesCounted s) (p : Path) :
    QueuesCounted (rtw_mesh_path_flush_pending s p) :=
  (discard_all _ _).1 (counted.splice_init p)

/-- Send a path's frames to the gates, and free what is left on the path. -/
def give_up_path (s : MeshQueues Path) (mpath : Path) : MeshQueues Path :=
  rtw_mesh_path_flush_pending (rtw_mesh_path_send_to_gates s mpath).2 mpath

theorem QueuesCounted.give_up_path [Fintype Path] (counted : QueuesCounted s) (mpath : Path) :
    QueuesCounted (Rtl8821ce.give_up_path s mpath) :=
  (tx_pending_all (counted.forward_to_gates s.known_gates mpath false)
    s.known_gates).1.flush_pending mpath

theorem give_up_path_places [Fintype Path] (counted : QueuesCounted s) (mpath : Path) (xframe : Nat) :
    (give_up_path s mpath).places xframe + (s.lost mpath).count xframe = s.places xframe := by
  have passed := tx_pending_all (counted.forward_to_gates s.known_gates mpath false) s.known_gates
  unfold give_up_path rtw_mesh_path_send_to_gates
  dsimp only
  rw [flush_pending_places, passed.2]
  exact forward_to_gates_places s.known_gates mpath xframe

theorem lost_eq_nil_iff (counted : QueuesCounted s) (mpath : Path) :
    s.lost mpath = [] <-> FirstGateHasRoom s mpath := by
  unfold MeshQueues.lost FirstGateHasRoom
  cases found : s.known_gates.find? (fun gate => (s.mpath gate).flags.ACTIVE) with
  | none => exact iff_of_true rfl (fun gate impossible => nomatch impossible)
  | some first =>
      have length := counted.frame_queue_len mpath
      have limit := counted.limit first
      have room : s.room first =
        RTW_MESH_FRAME_QUEUE_LEN - (s.mpath first).frame_queue_len := rfl
      have left := @List.drop_eq_nil_iff _ (s.mpath mpath).frame_queue (s.room first)
      change s.abandoned first mpath false = [] <-> _
      unfold MeshQueues.abandoned
      by_cases unmoved :
        first = mpath ∨ (s.mpath first).next_hop = none ∨ false = true
      · rw [if_pos unmoved]
        refine iff_of_true rfl (fun gate same => ?_)
        rw [← Option.some.inj same]
        rcases unmoved with same | without | impossible
        · exact Or.inl same
        · exact Or.inr (Or.inl without)
        · cases impossible
      · rw [if_neg unmoved, left]
        constructor
        · intro short gate same
          rw [← Option.some.inj same]
          exact Or.inr (Or.inr (by omega))
        · intro hasRoom
          rcases hasRoom first rfl with same | without | enough
          · exact absurd (Or.inl same) unmoved
          · exact absurd (Or.inr (Or.inl without)) unmoved
          · omega

/-- The frames of a path that is given up and of the gates are each in one place
afterwards exactly when the first active gate has room for those of the path. -/
theorem give_up_path_conserves_iff [Fintype Path] (s : MeshQueues Path) (mpath : Path)
    (counted : QueuesCounted s) (once : ∀ xframe, s.places xframe ≤ 1) :
    FramesConserved s mpath (give_up_path s mpath) <-> FirstGateHasRoom s mpath := by
  rw [← lost_eq_nil_iff counted mpath]
  have balance := give_up_path_places counted mpath
  have present : ∀ p xframe, xframe ∈ (s.mpath p).frame_queue -> s.places xframe = 1 := by
    intro p xframe waiting
    have single := Custody.le_sum (fun p => (s.mpath p).frame_queue.count xframe) p
    have positive := List.count_pos_iff.mpr waiting
    have atMost := once xframe
    unfold MeshQueues.places at atMost ⊢
    omega
  constructor
  · intro conserved
    by_contra some
    rcases List.exists_mem_of_ne_nil _ some with ⟨xframe, dropped⟩
    have positive := List.count_pos_iff.mpr dropped
    have waiting : xframe ∈ (s.mpath mpath).frame_queue := by
      unfold MeshQueues.lost at dropped
      split at dropped
      case h_1 => cases dropped
      case h_2 gate first =>
        unfold MeshQueues.abandoned at dropped
        split at dropped
        · cases dropped
        · exact List.mem_of_mem_drop dropped
    have after := conserved.once mpath xframe (Or.inl rfl) waiting
    have before := present mpath xframe waiting
    have total := balance xframe
    omega
  · intro nothing
    refine ⟨counted.give_up_path mpath, fun p xframe _ waiting => ?_⟩
    have total := balance xframe
    rw [nothing, List.count_nil, Nat.add_zero] at total
    rw [total]
    exact present p xframe waiting

end call

/-- A path, for which `true` stands, with `frames` waiting, and one active gate
whose queue holds the frames below `queued`. -/
def oneGate (queued : Nat) (frames : List Nat) : MeshQueues Bool where
  mpath := fun p =>
    if p then { rtw_mesh_path_new 0 .zero with
      frame_queue := frames
      frame_queue_len := frames.length }
    else { rtw_mesh_path_new 0 mesh_bcast_addr with
      next_hop := some .zero
      flags := ⟨true, false, false, false, true, false⟩
      frame_queue := List.range queued
      frame_queue_len := queued }
  known_gates := [false]
  mpath_tx_queue := []
  mpath_tx_queue_len := 0
  attrib := fun _ => ⟨.MESH_UCAST_DATA, .zero, .zero⟩
  freed := []
  dropped_frames_no_route := 0

theorem oneGate_counted (queued : Nat) (frames : List Nat)
    (limit : queued ≤ RTW_MESH_FRAME_QUEUE_LEN ∧ frames.length ≤ RTW_MESH_FRAME_QUEUE_LEN) :
    QueuesCounted (oneGate queued frames) where
  frame_queue_len := by
    intro p
    cases p
    · exact List.length_range.symm
    · rfl
  mpath_tx_queue_len := rfl
  limit := by
    intro p
    cases p
    · exact limit.1
    · exact limit.2

theorem oneGate_places (queued : Nat) (frames : List Nat) (xframe : Nat) :
    (oneGate queued frames).places xframe = (frames ++ List.range queued).count xframe := by
  have sum := Fintype.sum_bool (fun p => ((oneGate queued frames).mpath p).frame_queue.count xframe)
  rw [List.count_append]
  exact sum

theorem oneGate_once {queued : Nat} {frames : List Nat}
    (distinct : (frames ++ List.range queued).Nodup) (xframe : Nat) : (oneGate queued frames).places xframe ≤ 1 := by
  rw [oneGate_places]
  exact List.nodup_iff_count_le_one.mp distinct xframe

/-- With eight frames on the gate, two more have room. -/
theorem give_up_path_conserves_oneGate :
    FirstGateHasRoom (oneGate 8 [8, 9]) true ∧
      FramesConserved (oneGate 8 [8, 9]) true (give_up_path (oneGate 8 [8, 9]) true) := by
  have hasRoom : FirstGateHasRoom (oneGate 8 [8, 9]) true := by
    intro gate found
    cases gate with
    | true => cases found
    | false => exact Or.inr (Or.inr (by decide))
  exact ⟨hasRoom, (give_up_path_conserves_iff (oneGate 8 [8, 9]) true
    (oneGate_counted 8 [8, 9] (by decide)) (oneGate_once (by decide))).mpr hasRoom⟩

/-- With ten frames on the gate, a frame of the path ends up nowhere. -/
theorem give_up_path_loses_frame :
    QueuesCounted (oneGate 10 [10]) ∧ (∀ xframe, (oneGate 10 [10]).places xframe ≤ 1) ∧
      ((oneGate 10 [10]).mpath true).flags.ACTIVE = false ∧
      ¬ FramesConserved (oneGate 10 [10]) true (give_up_path (oneGate 10 [10]) true) := by
  refine ⟨oneGate_counted 10 [10] (by decide), oneGate_once (by decide), rfl, fun conserved => ?_⟩
  have nowhere : (give_up_path (oneGate 10 [10]) true).places 10 = 0 := by decide
  have once := conserved.once true 10 (Or.inl rfl) (by decide)
  rw [nowhere] at once
  exact Nat.zero_ne_one once

end Rtl8821ce
