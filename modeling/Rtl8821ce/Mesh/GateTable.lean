import Rtl8821ce.Library.CachedMax
import Rtl8821ce.Mesh.Pathtbl
import Mathlib.Tactic.Ring

/-!
# The table of mesh gates

A path to a mesh gate is in the list `known_gates`, and the interface keeps the gate with the
largest address, and whether that address is larger than its own.  Paths are known by the places
of their memory.  A function answers `none` where the source reads through a pointer behind which
there is no path.
-/

namespace Rtl8821ce
namespace Gates

/-- The fields of `struct rtw_mesh_path` that the functions below use. -/
structure GatePath where
  dst : MacAddr
  gate_ann_int : BitVec 32
  gate_timeout : Systime
  is_gate : Bool

/-- The interface with its table of mesh paths.  `mesh_paths` is whether there is a table, `path`
is the memory of the paths, and `beacons` counts the calls of `update_beacon`. -/
structure GateInfo where
  adapter_mac_addr : MacAddr
  path_gate_timeout_factor : BitVec 8
  mesh_paths : Bool
  path : Nat -> Option GatePath
  known_gates : List Nat
  num_gates : Int
  max_addr_gate : Option Nat
  max_addr_gate_is_larger_than_self : Bool
  beacons : Nat
  carrier : Bool

inductive AddGateResult
  | success
  | ENOENT
  | EEXIST
deriving DecidableEq

/-- Bytes as a number, the first one being the highest. -/
def be_value (bytes : List UInt8) : Nat :=
  bytes.foldl (fun value byte => 256 * value + byte.toNat) 0

/-- The source compares the first four bytes, and then the last two. -/
def rtw_macaddr_is_larger (a b : MacAddr) : Bool :=
  let va := be_value (a.bytes.take 4)
  let vb := be_value (b.bytes.take 4)
  if va > vb then true
  else if va < vb then false
  else decide (be_value (a.bytes.drop 4) > be_value (b.bytes.drop 4))

def address_value (addr : MacAddr) : Nat := be_value addr.bytes

theorem be_value_append (high low : List UInt8) :
    be_value (high ++ low) = be_value high * 256 ^ low.length + be_value low := by
  induction low using List.reverseRecOn with
  | nil => simp [be_value]
  | append_singleton low byte ih =>
      have last : ∀ bytes, be_value (bytes ++ [byte]) = 256 * be_value bytes + byte.toNat :=
        fun bytes => by simp [be_value]
      rw [<- List.append_assoc, last, last, ih, List.length_append, List.length_singleton, Nat.pow_succ]
      ring

theorem be_value_lt (bytes : List UInt8) : be_value bytes < 256 ^ bytes.length := by
  induction bytes using List.reverseRecOn with
  | nil => exact Nat.one_pos
  | append_singleton bytes byte ih =>
      have small : byte.toNat < 256 := byte.toNat_lt
      have last : be_value (bytes ++ [byte]) = 256 * be_value bytes + byte.toNat := by
        simp [be_value]
      rw [last, List.length_append, List.length_singleton, Nat.pow_succ]
      omega

theorem rtw_macaddr_is_larger_iff (a b : MacAddr) :
    rtw_macaddr_is_larger a b = true <-> address_value b < address_value a := by
  have split : ∀ addr : MacAddr, address_value addr =
      be_value (addr.bytes.take 4) * 65536 + be_value (addr.bytes.drop 4) /\
        be_value (addr.bytes.drop 4) < 65536 := by
    intro addr
    have two : (addr.bytes.drop 4).length = 2 := by rw [List.length_drop, addr.length_eq]
    have parts := be_value_append (addr.bytes.take 4) (addr.bytes.drop 4)
    have bound := be_value_lt (addr.bytes.drop 4)
    rw [List.take_append_drop, two] at parts
    rw [two] at bound
    exact ⟨parts, bound⟩
  rcases split a with ⟨whole, small⟩
  rcases split b with ⟨whole', small'⟩
  rw [whole, whole', rtw_macaddr_is_larger]
  by_cases larger : be_value (a.bytes.take 4) > be_value (b.bytes.take 4)
  · rw [if_pos larger]
    exact iff_of_true rfl (by omega)
  · rw [if_neg larger]
    by_cases smaller : be_value (a.bytes.take 4) < be_value (b.bytes.take 4)
    · rw [if_pos smaller]
      exact iff_of_false Bool.false_ne_true (by omega)
    · rw [if_neg smaller, decide_eq_true_iff]
      omega

/-! ## The source -/

def GateInfo.set (minfo : GateInfo) (mpath : Nat) (path : GatePath) : GateInfo :=
  { minfo with path := Function.update minfo.path mpath (some path) }

def GateInfo.dst (minfo : GateInfo) (mpath : Nat) : Option MacAddr :=
  (minfo.path mpath).map GatePath.dst

/-- The flag is set and the path put at the head of the list. -/
def link_gate (minfo : GateInfo) (mpath : Nat) (path : GatePath) : GateInfo :=
  { minfo.set mpath { path with is_gate := true } with
    num_gates := minfo.num_gates + 1
    known_gates := mpath :: minfo.known_gates }

/-- The flag is cleared and the path taken out of the list. -/
def unlink_gate (minfo : GateInfo) (mpath : Nat) (path : GatePath) : GateInfo :=
  { minfo.set mpath { path with is_gate := false } with
    known_gates := minfo.known_gates.erase mpath
    num_gates := minfo.num_gates - 1 }

/-- A path whose gate was announced at `now`; `rtw_ms_to_systime` counts the ticks of some
milliseconds. -/
def renewed (rtw_ms_to_systime : BitVec 32 -> Systime) (minfo : GateInfo) (now : Systime)
    (path : GatePath) : GatePath :=
  { path with
    gate_timeout := now +
      rtw_ms_to_systime (minfo.path_gate_timeout_factor.zeroExtend 32 * path.gate_ann_int) }

/-- Whether a new gate is remembered as the one with the largest address. -/
def is_new_max (minfo : GateInfo) (ori_num_gates : Int) (dst : MacAddr) : Option Bool :=
  if ori_num_gates = 0 then some true
  else (minfo.max_addr_gate.bind minfo.dst).map (rtw_macaddr_is_larger dst)

/-- The first gate has come.  `required` is the answer of `rtw_mesh_cto_mgate_required`. -/
def gates_appeared (minfo : GateInfo) (required : Bool) : GateInfo :=
  { minfo with beacons := minfo.beacons + 1, carrier := if required then minfo.carrier else true }

def gates_vanished (minfo : GateInfo) (required : Bool) : GateInfo :=
  { minfo with beacons := minfo.beacons + 1, carrier := if required then false else minfo.carrier }

def rtw_mesh_path_add_gate (rtw_ms_to_systime : BitVec 32 -> Systime) (minfo : GateInfo)
    (mpath : Nat) (now : Systime) (required : Bool) : Option (AddGateResult × GateInfo) :=
  if minfo.mesh_paths = false then some (.ENOENT, minfo)
  else
    match minfo.path mpath with
    | none => none
    | some path =>
        let path := renewed rtw_ms_to_systime minfo now path
        if path.is_gate then some (.EEXIST, minfo.set mpath path)
        else
          let ori_num_gates := minfo.num_gates
          let minfo := link_gate minfo mpath path
          match is_new_max minfo ori_num_gates path.dst with
          | none => none
          | some larger =>
              let minfo := if larger then { minfo with
                  max_addr_gate := some mpath
                  max_addr_gate_is_larger_than_self :=
                    rtw_macaddr_is_larger path.dst minfo.adapter_mac_addr }
                else minfo
              some (.success, if ori_num_gates = 0 then gates_appeared minfo required else minfo)

/-- The loop over `known_gates` that looks for the largest address. -/
def search_max_addr_gate (minfo : GateInfo) : List Nat -> Option Nat -> Option (Option Nat)
  | [], max_addr_gate => some max_addr_gate
  | gate :: rest, none => search_max_addr_gate minfo rest (some gate)
  | gate :: rest, some max_addr_gate =>
      match minfo.dst gate, minfo.dst max_addr_gate with
      | some dst, some max_dst =>
          if rtw_macaddr_is_larger dst max_dst then search_max_addr_gate minfo rest (some gate)
          else search_max_addr_gate minfo rest (some max_addr_gate)
      | _, _ => none

def rtw_mesh_gate_del (minfo : GateInfo) (mpath : Nat) (required : Bool) : Option GateInfo :=
  match minfo.path mpath with
  | none => none
  | some path =>
      if path.is_gate = false then some minfo
      else
        let ori_num_gates := minfo.num_gates
        let minfo := unlink_gate minfo mpath path
        if ori_num_gates = 1 then
          some (gates_vanished { minfo with
            max_addr_gate := none
            max_addr_gate_is_larger_than_self := false } required)
        else if minfo.max_addr_gate = some mpath then
          match search_max_addr_gate minfo minfo.known_gates none with
          | none => none
          | some max_addr_gate =>
              (max_addr_gate.bind minfo.dst).map (fun dst => { minfo with
                max_addr_gate := max_addr_gate
                max_addr_gate_is_larger_than_self :=
                  rtw_macaddr_is_larger dst minfo.adapter_mac_addr })
        else some minfo

/-- A path is deleted: it stops being a gate, and its memory is given back. -/
def rtw_mesh_path_free_rcu (minfo : GateInfo) (mpath : Nat) (required : Bool) : Option GateInfo :=
  (rtw_mesh_gate_del minfo mpath required).map (fun minfo =>
    { minfo with path := Function.update minfo.path mpath none })

/-- What happens to the table between two states.  A path is made in memory that is free. -/
inductive GateOperation
  | rtw_mesh_path_new (mpath : Nat) (dst : MacAddr)
  | gate_announced (mpath : Nat) (gate_ann_int : BitVec 32)
  | rtw_mesh_path_add_gate (mpath : Nat) (now : Systime) (required : Bool)
  | rtw_mesh_gate_del (mpath : Nat) (required : Bool)
  | rtw_mesh_path_free_rcu (mpath : Nat) (required : Bool)

def GateInfo.step (rtw_ms_to_systime : BitVec 32 -> Systime) (minfo : GateInfo) :
    GateOperation -> Option GateInfo
  | .rtw_mesh_path_new mpath dst =>
      match minfo.path mpath with
      | none => some (minfo.set mpath ⟨dst, 0, 0, false⟩)
      | some _ => some minfo
  | .gate_announced mpath gate_ann_int =>
      match minfo.path mpath with
      | none => some minfo
      | some path => some (minfo.set mpath { path with gate_ann_int := gate_ann_int })
  | .rtw_mesh_path_add_gate mpath now required =>
      match minfo.path mpath with
      | none => some minfo
      | some _ =>
          (Gates.rtw_mesh_path_add_gate rtw_ms_to_systime minfo mpath now required).map Prod.snd
  | .rtw_mesh_gate_del mpath required =>
      match minfo.path mpath with
      | none => some minfo
      | some _ => Gates.rtw_mesh_gate_del minfo mpath required
  | .rtw_mesh_path_free_rcu mpath required =>
      match minfo.path mpath with
      | none => some minfo
      | some _ => Gates.rtw_mesh_path_free_rcu minfo mpath required

def GateInfo.initial (adapter_mac_addr : MacAddr) (path_gate_timeout_factor : BitVec 8)
    (mesh_paths : Bool) : GateInfo where
  adapter_mac_addr := adapter_mac_addr
  path_gate_timeout_factor := path_gate_timeout_factor
  mesh_paths := mesh_paths
  path := fun _ => none
  known_gates := []
  num_gates := 0
  max_addr_gate := none
  max_addr_gate_is_larger_than_self := false
  beacons := 0
  carrier := true

def GateInfo.addr (minfo : GateInfo) (mpath : Nat) : Nat :=
  ((minfo.dst mpath).map address_value).getD 0

def GateInfo.IsGate (minfo : GateInfo) (mpath : Nat) : Prop :=
  ∃ path, minfo.path mpath = some path ∧ path.is_gate = true

structure GatesKept (minfo : GateInfo) : Prop where
  counted : minfo.num_gates = minfo.known_gates.length
  once : minfo.known_gates.Nodup
  flagged : ∀ mpath, mpath ∈ minfo.known_gates <-> minfo.IsGate mpath
  largest : CachedMax.Cached minfo.addr minfo.known_gates minfo.max_addr_gate
  compared : minfo.max_addr_gate_is_larger_than_self =
    minfo.max_addr_gate.any (fun gate => address_value minfo.adapter_mac_addr < minfo.addr gate)

variable {minfo : GateInfo} {mpath : Nat} {path new : GatePath}

theorem GateInfo.IsGate.flag (gate : minfo.IsGate mpath) (there : minfo.path mpath = some path) :
    path.is_gate = true := by
  rcases gate with ⟨found, at_, flag⟩
  rw [there] at at_
  exact Option.some.inj at_ ▸ flag

theorem GateInfo.addr_eq (there : minfo.path mpath = some path) : minfo.addr mpath = address_value path.dst := by
  simp [GateInfo.addr, GateInfo.dst, there]

theorem GateInfo.addr_set (there : minfo.path mpath = some path) (same : new.dst = path.dst) :
    (minfo.set mpath new).addr = minfo.addr := by
  funext other
  by_cases here : other = mpath
  · rw [here, GateInfo.addr_eq there, <- same]
    exact GateInfo.addr_eq (Function.update_self ..)
  · have untouched : (minfo.set mpath new).path other = minfo.path other := Function.update_of_ne here ..
    simp [GateInfo.addr, GateInfo.dst, untouched]

theorem GatesKept.path_of_mem (kept : GatesKept minfo) (known : mpath ∈ minfo.known_gates) :
    ∃ path, minfo.path mpath = some path :=
  let ⟨path, there, _⟩ := (kept.flagged mpath).mp known
  ⟨path, there⟩

theorem GatesKept.update (kept : GatesKept minfo) (mpath : Nat) (written : Option GatePath)
    (sameFlag : (∃ path, written = some path ∧ path.is_gate = true) <->
      minfo.IsGate mpath)
    (sameAddr : minfo.IsGate mpath ->
      ((written.map GatePath.dst).map address_value).getD 0 = minfo.addr mpath) :
    GatesKept { minfo with path := Function.update minfo.path mpath written } := by
  let next : GateInfo := { minfo with path := Function.update minfo.path mpath written }
  have addr : ∀ gate ∈ minfo.known_gates, next.addr gate = minfo.addr gate := by
    intro gate known
    by_cases here : gate = mpath
    · rw [here, <- sameAddr ((kept.flagged mpath).mp (here ▸ known))]
      simp [next, GateInfo.addr, GateInfo.dst]
    · simp [next, GateInfo.addr, GateInfo.dst, Function.update_of_ne here]
  refine ⟨kept.counted, kept.once, ?_, kept.largest.congr addr, ?_⟩
  · intro gate
    refine (kept.flagged gate).trans ?_
    by_cases here : gate = mpath
    · rw [here]
      refine sameFlag.symm.trans ?_
      simp [GateInfo.IsGate]
    · simp [GateInfo.IsGate, Function.update_of_ne here]
  · refine kept.compared.trans ?_
    cases best : minfo.max_addr_gate with
    | none => rfl
    | some gate =>
        have largest := kept.largest
        rw [best] at largest
        change decide (_ < minfo.addr gate) = decide (_ < next.addr gate)
        rw [addr gate largest.1]

theorem GatesKept.link (kept : GatesKept minfo) (there : minfo.path mpath = some path)
    (notGate : path.is_gate = false) (same : new.dst = path.dst) {best : Option Nat}
    (largest : CachedMax.Cached minfo.addr (mpath :: minfo.known_gates) best) {larger : Bool} (compared : larger =
      best.any (fun gate => address_value minfo.adapter_mac_addr < minfo.addr gate)) :
    GatesKept { link_gate minfo mpath new with
      max_addr_gate := best
      max_addr_gate_is_larger_than_self := larger } := by
  have absent : mpath ∉ minfo.known_gates := by
    intro known
    have flag := ((kept.flagged mpath).mp known).flag there
    exact absurd (notGate.symm.trans flag) Bool.false_ne_true
  have addr : (minfo.set mpath { new with is_gate := true }).addr = minfo.addr := GateInfo.addr_set there same
  refine ⟨?_, List.nodup_cons.mpr ⟨absent, kept.once⟩, ?_, ?_, ?_⟩
  · change minfo.num_gates + 1 = ((minfo.known_gates.length + 1 : Nat) : Int)
    rw [kept.counted]
    rfl
  · intro other
    by_cases here : other = mpath
    · rw [here]
      exact iff_of_true List.mem_cons_self ⟨_, Function.update_self .., rfl⟩
    · refine (List.mem_cons.trans (or_iff_right here)).trans ((kept.flagged other).trans ?_)
      simp [GateInfo.IsGate, link_gate, GateInfo.set, Function.update_of_ne here]
  · exact addr.symm ▸ largest
  · exact addr.symm ▸ compared

theorem GatesKept.unlink (kept : GatesKept minfo) (there : minfo.path mpath = some path)
    (wasGate : path.is_gate = true) {best : Option Nat}
    (largest : CachedMax.Cached minfo.addr (minfo.known_gates.erase mpath) best) {larger : Bool} (compared : larger =
      best.any (fun gate => address_value minfo.adapter_mac_addr < minfo.addr gate)) :
    GatesKept { unlink_gate minfo mpath path with
      max_addr_gate := best
      max_addr_gate_is_larger_than_self := larger } := by
  have known : mpath ∈ minfo.known_gates := (kept.flagged mpath).mpr ⟨path, there, wasGate⟩
  have addr : (minfo.set mpath { path with is_gate := false }).addr = minfo.addr := GateInfo.addr_set there rfl
  refine ⟨?_, kept.once.erase mpath, ?_, ?_, ?_⟩
  · change minfo.num_gates - 1 = ((minfo.known_gates.erase mpath).length : Int)
    have positive : 0 < minfo.known_gates.length := List.length_pos_of_mem known
    rw [kept.counted, List.length_erase_of_mem known]
    omega
  · intro other
    change other ∈ minfo.known_gates.erase mpath <-> _
    rw [kept.once.mem_erase_iff, kept.flagged other]
    by_cases here : other = mpath
    · simp [here, GateInfo.IsGate, unlink_gate, GateInfo.set]
    · simp [here, GateInfo.IsGate, unlink_gate, GateInfo.set]
  · exact addr.symm ▸ largest
  · exact addr.symm ▸ compared

theorem search_max_addr_gate_eq (gates : List Nat) (best : Option Nat)
    (there : ∀ gate ∈ gates, ∃ path, minfo.path gate = some path)
    (bestThere : ∀ gate, best = some gate -> ∃ path, minfo.path gate = some path) :
    search_max_addr_gate minfo gates best =
      some (gates.foldl (List.argAux (fun gate best => minfo.addr best < minfo.addr gate)) best) := by
  induction gates generalizing best with
  | nil => rfl
  | cons gate rest ih =>
      rcases there gate List.mem_cons_self with ⟨path, at_⟩
      have later : ∀ gate ∈ rest, ∃ path, minfo.path gate = some path :=
        fun gate member => there gate (List.mem_cons_of_mem _ member)
      cases best with
      | none => exact ih (some gate) later (fun _ same => ⟨path, Option.some.inj same ▸ at_⟩)
      | some best =>
          rcases bestThere best rfl with ⟨bestPath, bestAt⟩
          have dst : minfo.dst gate = some path.dst := congrArg (Option.map GatePath.dst) at_
          have bestDst : minfo.dst best = some bestPath.dst := congrArg (Option.map GatePath.dst) bestAt
          simp only [search_max_addr_gate, dst, bestDst, List.foldl_cons, List.argAux,
            GateInfo.addr_eq at_, GateInfo.addr_eq bestAt, rtw_macaddr_is_larger_iff]
          split
          · exact ih (some gate) later (fun _ same => ⟨path, Option.some.inj same ▸ at_⟩)
          · exact ih (some best) later (fun _ same => ⟨bestPath, Option.some.inj same ▸ bestAt⟩)

theorem is_new_max_link {best : Nat} {bestPath : GatePath}
    (remembered : minfo.max_addr_gate = some best) (there : minfo.path best = some bestPath)
    (other : best ≠ mpath) {ori_num_gates : Int} (some_ : ori_num_gates ≠ 0) (dst : MacAddr) :
    is_new_max (link_gate minfo mpath new) ori_num_gates dst =
      some (decide (minfo.addr best < address_value dst)) := by
  have bestDst : (link_gate minfo mpath new).dst best = some bestPath.dst :=
    congrArg (Option.map GatePath.dst) ((Function.update_of_ne other ..).trans there)
  have larger : rtw_macaddr_is_larger dst bestPath.dst =
      decide (address_value bestPath.dst < address_value dst) := by
    rw [Bool.eq_iff_iff, rtw_macaddr_is_larger_iff, decide_eq_true_iff]
  have same : (link_gate minfo mpath new).max_addr_gate = some best := remembered
  rw [is_new_max, if_neg some_, same, Option.bind_some, bestDst, Option.map_some, larger, GateInfo.addr_eq there]

theorem larger_than_self (there : minfo.path mpath = some path) :
    rtw_macaddr_is_larger path.dst minfo.adapter_mac_addr =
      (some mpath).any (fun gate => address_value minfo.adapter_mac_addr < minfo.addr gate) := by
  rw [Bool.eq_iff_iff, rtw_macaddr_is_larger_iff, <- GateInfo.addr_eq there]
  simp

theorem GatesKept.no_gate (kept : GatesKept minfo) (zero : minfo.num_gates = 0) :
    minfo.known_gates = [] ∧ minfo.max_addr_gate = none := by
  have empty : minfo.known_gates = [] := by
    have counted := kept.counted
    rw [zero] at counted
    exact List.length_eq_zero_iff.mp (by omega)
  refine ⟨empty, ?_⟩
  have largest := kept.largest
  cases best : minfo.max_addr_gate with
  | none => rfl
  | some gate =>
      rw [best, empty] at largest
      exact absurd largest.1 List.not_mem_nil

theorem GatesKept.some_gate (kept : GatesKept minfo) (nonzero : minfo.num_gates ≠ 0) :
    ∃ best, minfo.max_addr_gate = some best ∧
      CachedMax.Cached minfo.addr minfo.known_gates (some best) := by
  have largest := kept.largest
  cases best : minfo.max_addr_gate with
  | none =>
      rw [best] at largest
      refine absurd ?_ nonzero
      rw [kept.counted, show minfo.known_gates = [] from largest]
      rfl
  | some gate => exact ⟨gate, rfl, best ▸ largest⟩

theorem GatesKept.appeared (kept : GatesKept minfo) (required : Bool) : GatesKept (gates_appeared minfo required) :=
  ⟨kept.counted, kept.once, kept.flagged, kept.largest, kept.compared⟩

theorem GatesKept.vanished (kept : GatesKept minfo) (required : Bool) : GatesKept (gates_vanished minfo required) :=
  ⟨kept.counted, kept.once, kept.flagged, kept.largest, kept.compared⟩

theorem rtw_mesh_path_add_gate_kept (rtw_ms_to_systime : BitVec 32 -> Systime)
    (kept : GatesKept minfo) (there : minfo.path mpath = some path) (now : Systime) (required : Bool) :
    ∃ result,
      rtw_mesh_path_add_gate rtw_ms_to_systime minfo mpath now required = some result ∧
        GatesKept result.2 := by
  have sameDst : (renewed rtw_ms_to_systime minfo now path).dst = path.dst := rfl
  have sameFlag : (renewed rtw_ms_to_systime minfo now path).is_gate = path.is_gate := rfl
  unfold rtw_mesh_path_add_gate
  by_cases table : minfo.mesh_paths = false
  · rw [if_pos table]
    exact ⟨_, rfl, kept⟩
  rw [if_neg table, there]
  by_cases gate : path.is_gate = true
  · -- only the time is new
    simp only [sameFlag, gate, if_true]
    refine ⟨_, rfl, kept.update mpath (some _) ?_ ?_⟩
    · exact iff_of_true ⟨_, rfl, sameFlag.trans gate⟩ ⟨path, there, gate⟩
    · exact fun _ => (GateInfo.addr_eq there).symm
  have notGate : path.is_gate = false := Bool.eq_false_of_not_eq_true gate
  simp only [sameFlag, notGate, Bool.false_eq_true, if_false]
  by_cases first : minfo.num_gates = 0
  · rcases kept.no_gate first with ⟨_, none_⟩
    simp only [is_new_max, if_pos first, if_true]
    have largest : CachedMax.Cached minfo.addr (mpath :: minfo.known_gates) (some mpath) :=
      kept.largest.insert_new (fun old same => absurd (none_.symm.trans same) nofun)
    exact ⟨_, rfl, (kept.link there notGate sameDst largest (larger_than_self there)).appeared required⟩
  · rcases kept.some_gate first with ⟨best, remembered, greatest⟩
    rcases kept.path_of_mem greatest.1 with ⟨bestPath, bestThere⟩
    have other : best ≠ mpath := fun same =>
      gate (((kept.flagged best).mp greatest.1).flag (same ▸ there))
    rw [is_new_max_link remembered bestThere other first]
    simp only [if_neg first]
    refine ⟨_, rfl, ?_⟩
    by_cases larger : minfo.addr best < address_value path.dst
    · rw [if_pos (decide_eq_true (sameDst.symm ▸ larger))]
      refine kept.link there notGate sameDst (kept.largest.insert_new (fun old same => ?_))
        (larger_than_self there)
      rw [GateInfo.addr_eq there, <- Option.some.inj (remembered.symm.trans same)]
      exact larger
    · rw [if_neg (fun greater => larger (sameDst ▸ of_decide_eq_true greater))]
      have largest : CachedMax.Cached minfo.addr (mpath :: minfo.known_gates)
          minfo.max_addr_gate := by
        rw [remembered]
        refine greatest.insert_other ?_
        rw [GateInfo.addr_eq there]
        exact Nat.le_of_not_lt larger
      exact kept.link there notGate sameDst largest kept.compared

theorem search_after_unlink (kept : GatesKept minfo) (there : minfo.path mpath = some path)
    (gate : path.is_gate = true) (others : minfo.num_gates ≠ 1) :
    ∃ best, ∃ bestPath,
      search_max_addr_gate (unlink_gate minfo mpath path)
        (unlink_gate minfo mpath path).known_gates none = some (some best) ∧
      (unlink_gate minfo mpath path).dst best = some bestPath.dst ∧
      minfo.path best = some bestPath ∧
      CachedMax.Cached minfo.addr (minfo.known_gates.erase mpath) (some best) := by
  have known : mpath ∈ minfo.known_gates := (kept.flagged mpath).mpr ⟨path, there, gate⟩
  have addr : (unlink_gate minfo mpath path).addr = minfo.addr := GateInfo.addr_set there rfl
  have left : ∀ other ∈ minfo.known_gates.erase mpath,
      ∃ path', minfo.path other = some path' ∧
        (unlink_gate minfo mpath path).path other = some path' := by
    intro other member
    rcases kept.once.mem_erase_iff.mp member with ⟨different, before⟩
    rcases kept.path_of_mem before with ⟨path', at_⟩
    exact ⟨path', at_, (Function.update_of_ne different ..).trans at_⟩
  have found := search_max_addr_gate_eq
    (minfo.known_gates.erase mpath) none
    (fun other member => let ⟨path', _, at_⟩ := left other member; ⟨path', at_⟩) nofun
  rw [addr] at found
  have largest := CachedMax.Cached.argmax minfo.addr (minfo.known_gates.erase mpath)
  cases greatest : (minfo.known_gates.erase mpath).argmax minfo.addr with
  | none =>
      refine absurd ?_ others
      have size : (minfo.known_gates.erase mpath).length = minfo.known_gates.length - 1 :=
        List.length_erase_of_mem known
      have some_ : 0 < minfo.known_gates.length := List.length_pos_of_mem known
      rw [List.argmax_eq_none.mp greatest, List.length_nil] at size
      rw [kept.counted]
      omega
  | some best =>
      rw [greatest] at largest
      rcases left best largest.1 with ⟨bestPath, before, at_⟩
      refine ⟨best, bestPath, ?_, congrArg (Option.map GatePath.dst) at_, before, largest⟩
      exact found.trans (congrArg some greatest)

theorem rtw_mesh_gate_del_kept (kept : GatesKept minfo) (there : minfo.path mpath = some path) (required : Bool) :
    ∃ next, rtw_mesh_gate_del minfo mpath required = some next ∧ GatesKept next ∧
      ¬ next.IsGate mpath := by
  unfold rtw_mesh_gate_del
  rw [there]
  by_cases notGate : path.is_gate = false
  · simp only [if_pos notGate]
    refine ⟨minfo, rfl, kept, fun gate => ?_⟩
    exact absurd (notGate.symm.trans (gate.flag there)) Bool.false_ne_true
  have gate : path.is_gate = true := Bool.eq_true_of_not_eq_false notGate
  have known : mpath ∈ minfo.known_gates := (kept.flagged mpath).mpr ⟨path, there, gate⟩
  have unflagged : ¬ (unlink_gate minfo mpath path).IsGate mpath := fun still =>
    absurd (still.flag (Function.update_self ..)) Bool.false_ne_true
  simp only [if_neg notGate]
  by_cases last : minfo.num_gates = 1
  · -- no gate is left
    have empty : minfo.known_gates.erase mpath = [] := by
      have counted := kept.counted
      rw [last] at counted
      have none_left : (minfo.known_gates.erase mpath).length = 0 := by
        rw [List.length_erase_of_mem known]
        omega
      exact List.length_eq_zero_iff.mp none_left
    rw [if_pos last]
    have largest : CachedMax.Cached minfo.addr (minfo.known_gates.erase mpath) none := empty
    exact ⟨_, rfl, (kept.unlink there gate largest rfl).vanished required, unflagged⟩
  rw [if_neg last]
  by_cases remembered : minfo.max_addr_gate = some mpath
  · rw [if_pos (show (unlink_gate minfo mpath path).max_addr_gate = some mpath from remembered)]
    rcases search_after_unlink kept there gate last with
      ⟨best, bestPath, found, bestDst, before, largest⟩
    simp only [found, Option.bind_some, bestDst, Option.map_some]
    exact ⟨_, rfl, kept.unlink there gate largest (larger_than_self before), unflagged⟩
  · rw [if_neg (show ¬ (unlink_gate minfo mpath path).max_addr_gate = some mpath from remembered)]
    refine ⟨_, rfl, ?_, unflagged⟩
    have nonzero : minfo.num_gates ≠ 0 := fun zero =>
      absurd ((kept.no_gate zero).1 ▸ known) List.not_mem_nil
    rcases kept.some_gate nonzero with ⟨best, same, greatest⟩
    have largest : CachedMax.Cached minfo.addr (minfo.known_gates.erase mpath)
        minfo.max_addr_gate := by
      rw [same]
      exact greatest.erase_other (fun here => remembered (here ▸ same))
    exact kept.unlink there gate largest kept.compared

theorem rtw_mesh_path_free_rcu_kept (kept : GatesKept minfo) (there : minfo.path mpath = some path)
    (required : Bool) :
    ∃ next, rtw_mesh_path_free_rcu minfo mpath required = some next ∧
      GatesKept next := by
  rcases rtw_mesh_gate_del_kept kept there required with ⟨next, deleted, keptNext, notGate⟩
  refine ⟨_, congrArg (Option.map _) deleted, keptNext.update mpath none ?_ ?_⟩
  · exact iff_of_false (fun still => absurd still.choose_spec.1 nofun) notGate
  · exact fun gate => absurd gate notGate

theorem GatesKept.step (rtw_ms_to_systime : BitVec 32 -> Systime) (kept : GatesKept minfo)
    (operation : GateOperation) : ∃ next, minfo.step rtw_ms_to_systime operation = some next ∧ GatesKept next := by
  cases operation with
  | rtw_mesh_path_new mpath dst =>
      cases there : minfo.path mpath with
      | some path => exact ⟨minfo, by simp only [GateInfo.step, there], kept⟩
      | none =>
          have notGate : ¬ minfo.IsGate mpath := by
            rintro ⟨path, at_, _⟩
            exact absurd (there.symm.trans at_) nofun
          refine ⟨_, by simp only [GateInfo.step, there]; rfl, kept.update mpath (some _) ?_ ?_⟩
          · refine iff_of_false ?_ notGate
            rintro ⟨path, same, flag⟩
            rw [<- Option.some.inj same] at flag
            exact absurd flag Bool.false_ne_true
          · exact fun gate => absurd gate notGate
  | gate_announced mpath gate_ann_int =>
      cases there : minfo.path mpath with
      | none => exact ⟨minfo, by simp only [GateInfo.step, there], kept⟩
      | some path =>
          refine ⟨_, by simp only [GateInfo.step, there]; rfl, kept.update mpath (some _) ?_ ?_⟩
          · constructor
            · rintro ⟨written, same, flag⟩
              rw [<- Option.some.inj same] at flag
              exact ⟨path, there, flag⟩
            · intro gate
              have flag := gate.flag there
              exact ⟨_, rfl, flag⟩
          · exact fun _ => (GateInfo.addr_eq there).symm
  | rtw_mesh_path_add_gate mpath now required =>
      cases there : minfo.path mpath with
      | none => exact ⟨minfo, by simp only [GateInfo.step, there], kept⟩
      | some path =>
          rcases rtw_mesh_path_add_gate_kept rtw_ms_to_systime kept there now required with
            ⟨result, returned, keptNext⟩
          exact ⟨result.2, by simp only [GateInfo.step, there, returned, Option.map_some], keptNext⟩
  | rtw_mesh_gate_del mpath required =>
      cases there : minfo.path mpath with
      | none => exact ⟨minfo, by simp only [GateInfo.step, there], kept⟩
      | some path =>
          rcases rtw_mesh_gate_del_kept kept there required with ⟨next, deleted, keptNext, _⟩
          exact ⟨next, by simp only [GateInfo.step, there, deleted], keptNext⟩
  | rtw_mesh_path_free_rcu mpath required =>
      cases there : minfo.path mpath with
      | none => exact ⟨minfo, by simp only [GateInfo.step, there], kept⟩
      | some path =>
          rcases rtw_mesh_path_free_rcu_kept kept there required with ⟨next, freed, keptNext⟩
          exact ⟨next, by simp only [GateInfo.step, there, freed], keptNext⟩

theorem GateInfo.initial_kept (adapter_mac_addr : MacAddr) (path_gate_timeout_factor : BitVec 8) (mesh_paths : Bool) :
    GatesKept (GateInfo.initial adapter_mac_addr path_gate_timeout_factor mesh_paths) where
  counted := rfl
  once := List.nodup_nil
  flagged := fun _ => iff_of_false List.not_mem_nil (fun gate => absurd gate.choose_spec.1 nofun)
  largest := rfl
  compared := rfl

/-- No run reads through a pointer to nothing, and the table is right after each. -/
theorem gate_table_kept (rtw_ms_to_systime : BitVec 32 -> Systime) (adapter_mac_addr : MacAddr)
    (path_gate_timeout_factor : BitVec 8) (mesh_paths : Bool) (operations : List GateOperation) :
    ∃ minfo,
      operations.foldlM (GateInfo.step rtw_ms_to_systime)
        (GateInfo.initial adapter_mac_addr path_gate_timeout_factor mesh_paths) = some minfo ∧
      GatesKept minfo := by
  have run : ∀ start, GatesKept start -> ∃ minfo,
      operations.foldlM (GateInfo.step rtw_ms_to_systime) start = some minfo ∧
        GatesKept minfo := by
    induction operations with
    | nil => exact fun start kept => ⟨start, rfl, kept⟩
    | cons operation rest ih =>
        intro start kept
        rcases kept.step rtw_ms_to_systime operation with ⟨next, stepped, keptNext⟩
        rw [List.foldlM_cons, stepped]
        exact ih next keptNext
  exact run _ (GateInfo.initial_kept adapter_mac_addr path_gate_timeout_factor mesh_paths)

end Gates
end Rtl8821ce
