import Rtl8821ce.Library.Memory
import Rtl8821ce.Library.Program
import Rtl8821ce.Recv.Frame

/-!
# Checked access to a socket buffer

A socket buffer has `len` bytes from `skb->data` on, and room for `tailroom` more.
What is behind them belongs to others.  Each access of a program is checked; the
first one outside stops it.
-/

namespace Rtl8821ce
namespace BrExt

/-- Why a program does not end well: it uses a byte that it has no right to, or it
has not ended after the iterations it was given. -/
inductive Fault
  | outside
  | endless
deriving DecidableEq

structure SkBuff where
  data : Nat -> UInt8
  len : Nat
  tailroom : Nat

/-- An entry of the NAT2.5 database. -/
structure NetworkDbEntry where
  networkAddr : List UInt8
  macAddr : MacAddr
  use_count : Int
  ageing_timer : BitVec 64

/-- The fields of `_adapter` that the bridge extension uses. -/
structure Priv where
  nethash : Nat -> List NetworkDbEntry
  mac_addr : MacAddr
  br_mac : MacAddr
  pppoe_addr : MacAddr
  pppoe_connection_in_progress : Nat
  addPPPoETag : Bool

structure Bridge where
  priv : Priv
  skb : SkBuff

abbrev BrProgram (Value : Type) : Type := Program Bridge Fault Value

/-! ## Accesses -/

def be16 (data : Nat -> UInt8) (place : Nat) : Nat := (data place).toNat * 256 + (data (place + 1)).toNat

theorem be16_lt (data : Nat -> UInt8) (place : Nat) : be16 data place < 65536 := by
  have high := (data place).toNat_lt
  have low := (data (place + 1)).toNat_lt
  unfold be16
  omega

def mac_at (data : Nat -> UInt8) (place : Nat) : MacAddr :=
  ⟨Memory.read data place 6, Memory.length_read data place 6⟩

/-- The bytes before `stop` may be used. -/
def inside (stop : Nat) : BrProgram PUnit := do
  let s ← Program.get
  Program.require (decide (stop ≤ s.skb.len)) .outside

def load (place : Nat) : BrProgram UInt8 := do
  inside (place + 1)
  let s ← Program.get
  pure (s.skb.data place)

def load_be16 (place : Nat) : BrProgram Nat := do
  inside (place + 2)
  let s ← Program.get
  pure (be16 s.skb.data place)

def load_mac (place : Nat) : BrProgram MacAddr := do
  inside (place + 6)
  let s ← Program.get
  pure (mac_at s.skb.data place)

def loads (start length : Nat) : BrProgram (List UInt8) := do
  inside (start + length)
  let s ← Program.get
  pure (Memory.read s.skb.data start length)

def Bridge.write (s : Bridge) (start : Nat) (bytes : List UInt8) : Bridge :=
  { s with skb := { s.skb with data := Memory.write s.skb.data start bytes } }

def stores (start : Nat) (bytes : List UInt8) : BrProgram PUnit := do
  inside (start + bytes.length)
  Program.update (fun s => s.write start bytes)

section rules

variable {Value : Type} {s : Bridge}

@[simp] theorem succeeds_inside {stop : Nat} {rest : PUnit -> BrProgram Value} :
    (inside stop >>= rest).Succeeds s <-> stop ≤ s.skb.len ∧ (rest ⟨⟩).Succeeds s := by
  rw [inside, Program.bind_assoc, Program.succeeds_get_bind, Program.succeeds_require_bind, decide_eq_true_eq]

@[simp] theorem succeeds_load {place : Nat} {rest : UInt8 -> BrProgram Value} :
    (load place >>= rest).Succeeds s <-> place + 1 ≤ s.skb.len ∧ (rest (s.skb.data place)).Succeeds s := by
  rw [load, Program.bind_assoc, succeeds_inside, Program.bind_assoc, Program.succeeds_get_bind]
  exact Iff.rfl

@[simp] theorem succeeds_load_be16 {place : Nat} {rest : Nat -> BrProgram Value} :
    (load_be16 place >>= rest).Succeeds s <->
      place + 2 ≤ s.skb.len ∧ (rest (be16 s.skb.data place)).Succeeds s := by
  rw [load_be16, Program.bind_assoc, succeeds_inside, Program.bind_assoc, Program.succeeds_get_bind]
  exact Iff.rfl

@[simp] theorem succeeds_load_mac {place : Nat} {rest : MacAddr -> BrProgram Value} :
    (load_mac place >>= rest).Succeeds s <->
      place + 6 ≤ s.skb.len ∧ (rest (mac_at s.skb.data place)).Succeeds s := by
  rw [load_mac, Program.bind_assoc, succeeds_inside, Program.bind_assoc, Program.succeeds_get_bind]
  exact Iff.rfl

@[simp] theorem succeeds_loads {start length : Nat} {rest : List UInt8 -> BrProgram Value} :
    (loads start length >>= rest).Succeeds s <->
      start + length ≤ s.skb.len ∧ (rest (Memory.read s.skb.data start length)).Succeeds s := by
  rw [loads, Program.bind_assoc, succeeds_inside, Program.bind_assoc, Program.succeeds_get_bind]
  exact Iff.rfl

@[simp] theorem succeeds_stores {start : Nat} {bytes : List UInt8} {rest : PUnit -> BrProgram Value} :
    (stores start bytes >>= rest).Succeeds s <->
      start + bytes.length ≤ s.skb.len ∧ (rest ⟨⟩).Succeeds (s.write start bytes) := by
  rw [stores, Program.bind_assoc, succeeds_inside, Program.succeeds_update_bind]

theorem load_ok {place : Nat} (room : place + 1 ≤ s.skb.len) : load place s = (.ok (s.skb.data place), s) := by
  rw [load, inside, Program.bind_assoc, Program.bind_of_ok (Program.get_apply s), decide_eq_true room]
  rfl

theorem load_be16_ok {place : Nat} (room : place + 2 ≤ s.skb.len) :
    load_be16 place s = (.ok (be16 s.skb.data place), s) := by
  rw [load_be16, inside, Program.bind_assoc, Program.bind_of_ok (Program.get_apply s), decide_eq_true room]
  rfl

theorem loads_ok {start length : Nat} (room : start + length ≤ s.skb.len) :
    loads start length s = (.ok (Memory.read s.skb.data start length), s) := by
  rw [loads, inside, Program.bind_assoc, Program.bind_of_ok (Program.get_apply s), decide_eq_true room]
  rfl

theorem stores_ok {start : Nat} {bytes : List UInt8} (room : start + bytes.length ≤ s.skb.len) :
    stores start bytes s = (.ok ⟨⟩, s.write start bytes) := by
  rw [stores, inside, Program.bind_assoc, Program.bind_of_ok (Program.get_apply s), decide_eq_true room]
  rfl

@[simp] theorem write_len (start : Nat) (bytes : List UInt8) : (s.write start bytes).skb.len = s.skb.len := rfl

end rules

end BrExt
end Rtl8821ce
