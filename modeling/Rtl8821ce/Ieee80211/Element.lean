import Rtl8821ce.Ieee80211.GetIe
import Rtl8821ce.Library.Memory

/-!
# Elements as lists

An information element with its whole body, and a list of them as it lies in memory.
-/

namespace Rtl8821ce

structure Element where
  id : UInt8
  body : List UInt8
  small : body.length < 256

namespace Element

def bytes (element : Element) : List UInt8 :=
  element.id :: UInt8.ofNat element.body.length :: element.body

theorem length_bytes (element : Element) : element.bytes.length = element.body.length + 2 := rfl

end Element

def elements_bytes (elements : List Element) : List UInt8 := elements.flatMap Element.bytes

theorem elements_bytes_cons (element : Element) (rest : List Element) :
    elements_bytes (element :: rest) = element.bytes ++ elements_bytes rest := List.flatMap_cons

theorem elements_bytes_append (first second : List Element) :
    elements_bytes (first ++ second) = elements_bytes first ++ elements_bytes second := List.flatMap_append

theorem length_elements_bytes_append (first second : List Element) :
    (elements_bytes (first ++ second)).length = (elements_bytes first).length + (elements_bytes second).length := by
  rw [elements_bytes_append, List.length_append]

theorem length_le_length_elements_bytes (elements : List Element) :
    elements.length ≤ (elements_bytes elements).length := by
  induction elements with
  | nil => exact Nat.le_refl _
  | cons element rest ih =>
      rw [elements_bytes_cons, List.length_append, List.length_cons, Element.length_bytes]
      omega

def HoldsBytes (mem : Nat -> UInt8) (place : Nat) (bytes : List UInt8) : Prop :=
  Memory.read mem place bytes.length = bytes

instance (mem : Nat -> UInt8) (place : Nat) (bytes : List UInt8) : Decidable (HoldsBytes mem place bytes) :=
  inferInstanceAs (Decidable (Memory.read mem place bytes.length = bytes))

namespace HoldsBytes

variable {mem : Nat -> UInt8} {place : Nat}

theorem append_iff {first second : List UInt8} :
    HoldsBytes mem place (first ++ second) <->
      HoldsBytes mem place first ∧ HoldsBytes mem (place + first.length) second := by
  unfold HoldsBytes
  rw [List.length_append, Memory.read_add]
  constructor
  · intro both
    exact List.append_inj both (Memory.length_read _ _ _)
  · intro ⟨front, behind⟩
    rw [front, behind]

theorem cons_iff {byte : UInt8} {rest : List UInt8} :
    HoldsBytes mem place (byte :: rest) <-> mem place = byte ∧ HoldsBytes mem (place + 1) rest := by
  have split := @append_iff mem place [byte] rest
  rw [List.singleton_append] at split
  rw [split]
  refine and_congr_left (fun _ => ?_)
  unfold HoldsBytes
  change [mem (place + 0)] = [byte] <-> _
  rw [List.singleton_inj, Nat.add_zero]

theorem of_front {bytes pattern : List UInt8} (holds : HoldsBytes mem place bytes) (front : pattern <+: bytes) :
    HoldsBytes mem place pattern := by
  rcases front with ⟨rest, rfl⟩
  exact (append_iff.mp holds).1

theorem prefix_of {bytes pattern : List UInt8} (holds : HoldsBytes mem place bytes)
    (pattern_holds : HoldsBytes mem place pattern) (short : pattern.length ≤ bytes.length) : pattern <+: bytes := by
  unfold HoldsBytes at holds pattern_holds
  rw [← holds, ← pattern_holds, ← Memory.read_take mem place short]
  exact List.take_prefix _ _

theorem drop {bytes : List UInt8} (holds : HoldsBytes mem place bytes) {count : Nat} (within : count ≤ bytes.length) :
    HoldsBytes mem (place + count) (bytes.drop count) := by
  rw [← List.take_append_drop count bytes, append_iff, List.length_take_of_le within] at holds
  exact holds.2

theorem written (bytes : List UInt8) : HoldsBytes (Memory.write mem place bytes) place bytes :=
  Memory.read_write mem place bytes

theorem write_of_disjoint {bytes cells : List UInt8} {position : Nat} (holds : HoldsBytes mem place bytes)
    (beside : place + bytes.length ≤ position ∨ position + cells.length ≤ place) :
    HoldsBytes (Memory.write mem position cells) place bytes :=
  (Memory.read_write_of_disjoint mem beside).trans holds

theorem congr {other : Nat -> UInt8} {bytes : List UInt8} (holds : HoldsBytes mem place bytes)
    (same : ∀ position, place ≤ position -> position < place + bytes.length -> other position = mem position) :
    HoldsBytes other place bytes := by
  refine (Memory.read_congr (fun i inside => ?_)).trans holds
  exact same (place + i) (by omega) (by omega)

theorem same_cell {other : Nat -> UInt8} {bytes : List UInt8} {position : Nat}
    (holds : HoldsBytes mem place bytes) (holds' : HoldsBytes other place bytes) (behind : place ≤ position)
    (inside : position < place + bytes.length) : mem position = other position := by
  have within : position - place < bytes.length := by omega
  have cell := congrArg (fun cells => cells[position - place]?) (Eq.trans holds holds'.symm)
  simp only [Memory.getElem?_read _ within, Nat.add_sub_cancel' behind] at cell
  exact Option.some.inj cell

end HoldsBytes

theorem bytes_at_iff {mem : Nat -> UInt8} {place : Nat} {pattern : List UInt8} :
    bytes_at mem place pattern = true <-> HoldsBytes mem place pattern := by
  induction pattern generalizing place with
  | nil => exact iff_of_true rfl rfl
  | cons byte rest ih =>
      rw [bytes_at, Bool.and_eq_true, beq_iff_eq, ih, HoldsBytes.cons_iff]

/-- The header of an element in memory, its body and what follows. -/
structure ElementAt (mem : Nat -> UInt8) (place : Nat) (element : Element) (behind : List UInt8) : Prop where
  id : mem place = element.id
  size : ie_size mem place = element.bytes.length
  body : HoldsBytes mem (place + 2) (element.body ++ behind)
  behind : HoldsBytes mem (place + element.bytes.length) behind

theorem elementAt {mem : Nat -> UInt8} {place : Nat} {element : Element} {behind : List UInt8}
    (holds : HoldsBytes mem place (element.bytes ++ behind)) : ElementAt mem place element behind := by
  have later := (HoldsBytes.append_iff.mp holds).2
  have cells := HoldsBytes.cons_iff.mp holds
  have header := HoldsBytes.cons_iff.mp cells.2
  refine ⟨cells.1, ?_, header.2, later⟩
  have small := element.small
  rw [ie_size, header.1, UInt8.toNat_ofNat', Element.length_bytes, Nat.mod_eq_of_lt small]

end Rtl8821ce
