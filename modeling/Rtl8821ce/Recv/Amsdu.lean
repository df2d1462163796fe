import Rtl8821ce.Ieee80211.GetIe
import Rtl8821ce.Library.Memory
import Rtl8821ce.Recv.EthHeader

/-!
# A-MSDU deaggregation

`amsdu_to_msdu` splits the `a_len` bytes behind the 802.11 header and the IV into packets.
An offset counts from there.  The kernel may have no memory for a packet; if it has none
for a copy of the body, the packet can still be a clone that shares the bytes of the frame.
The interface is not a mesh point, and the observers in `rtw_recv_indicatepkt_check`, which
look into whole packets and accept all of them, are left out.
-/

namespace Rtl8821ce
namespace Amsdu

open Scanner (Iteration Passes)

def ETH_HLEN : Nat := 14
def MAX_SUBFRAME_COUNT : Nat := 64

/-- `RTW_GET_BE16`. -/
def RTW_GET_BE16 (mem : Nat -> UInt8) (a : Nat) : Nat := 256 * (mem a).toNat + (mem (a + 1)).toNat

/-- What the kernel gives for a packet, if anything. -/
inductive Skb
  | copied
  | cloned
deriving DecidableEq

/-- The Ethernet frame for a body.  An LLC header whose EtherType is that of the Ethernet
frame is taken off; any other body gets its length in front. -/
def msdu_frame (da sa body : List UInt8) : List UInt8 :=
  if 8 ≤ body.length ∧ bsnaphdr body 0 = true then da ++ sa ++ body.drop SNAP_SIZE
  else da ++ sa ++ htons body.length ++ body

/-- A packet, with the place of its body in the frame. -/
structure SubPkt where
  msdu : Nat
  msdu_len : Nat
  data : List UInt8

/-- The subframe at `pdata`, as a packet. -/
def rtw_os_alloc_msdu_pkt (mem : Nat -> UInt8) (pdata msdu_len : Nat) : SubPkt where
  msdu := pdata + ETH_HLEN
  msdu_len
  data := msdu_frame (Memory.read mem pdata 6) (Memory.read mem (pdata + 6) 6)
    (Memory.read mem (pdata + ETH_HLEN) msdu_len)

/-- What is read of the frame for a packet.  The EtherType of a clone is read before its
length is looked at; the one of a copy is no part of the frame. -/
def alloc_msdu_pkt_reads (skb : Skb) (pdata msdu_len : Nat) : List Nat :=
  List.range' pdata 12 ++
    match skb with
    | .copied => List.range' (pdata + ETH_HLEN) msdu_len
    | .cloned =>
        [pdata + ETH_HLEN + SNAP_SIZE, pdata + ETH_HLEN + SNAP_SIZE + 1] ++
          if 8 ≤ msdu_len then List.range' (pdata + ETH_HLEN) SNAP_SIZE else []

def padding_len (nSubframe_Length : Nat) : Nat :=
  let padding_len := 4 - (nSubframe_Length + ETH_HLEN) % 4
  if padding_len = 4 then 0 else padding_len

/-- The locals of the loop. -/
structure Locals where
  pdata : Nat
  a_len : Nat
  subframes : List SubPkt

/-- One round; `skb` says what the kernel gives for the packets of this frame. -/
def amsdu_to_msdu_body (mem : Nat -> UInt8) (skb : Nat -> Option Skb) (s : Locals) : Iteration Locals (List SubPkt) :=
  if ETH_HLEN < s.a_len then
    let nSubframe_Length := RTW_GET_BE16 mem (s.pdata + 12)
    if s.a_len < ETH_HLEN + nSubframe_Length then .done s.subframes
    else if skb s.subframes.length = none then .done s.subframes
    else
      let subframes := s.subframes ++ [rtw_os_alloc_msdu_pkt mem s.pdata nSubframe_Length]
      if MAX_SUBFRAME_COUNT ≤ subframes.length then .done subframes
      else
        let pdata := s.pdata + ETH_HLEN + nSubframe_Length
        let a_len := s.a_len - ETH_HLEN - nSubframe_Length
        if a_len = 0 then .more ⟨pdata, a_len, subframes⟩
        else if a_len < padding_len nSubframe_Length then .done subframes
        else
          .more ⟨pdata + padding_len nSubframe_Length, a_len - padding_len nSubframe_Length, subframes⟩
  else .done s.subframes

def amsdu_to_msdu_reads (mem : Nat -> UInt8) (skb : Nat -> Option Skb) (s : Locals) : List Nat :=
  if ETH_HLEN < s.a_len then
    let nSubframe_Length := RTW_GET_BE16 mem (s.pdata + 12)
    [s.pdata + 12, s.pdata + 13] ++
      if s.a_len < ETH_HLEN + nSubframe_Length then []
      else
        match skb s.subframes.length with
        | none => []
        | some skb => alloc_msdu_pkt_reads skb s.pdata nSubframe_Length
  else []

/-- The bytes of a subframe with its padding, if more follows. -/
def subframe_size (mem : Nat -> UInt8) (a_len place : Nat) : Nat :=
  let size := ETH_HLEN + RTW_GET_BE16 mem (place + 12)
  if place + size = a_len then size else size + padding_len (RTW_GET_BE16 mem (place + 12))

def WholeSubframe (mem : Nat -> UInt8) (a_len place : Nat) : Prop :=
  place + ETH_HLEN < a_len ∧ place + ETH_HLEN + RTW_GET_BE16 mem (place + 12) ≤ a_len

/-- Where a subframe may begin, behind a number of whole ones with their padding. -/
inductive SubframeAt (mem : Nat -> UInt8) (a_len : Nat) : Nat -> Nat -> Prop
  | first : SubframeAt mem a_len 0 0
  | next {count place : Nat} (earlier : SubframeAt mem a_len count place)
      (whole : WholeSubframe mem a_len place)
      (padded : place + subframe_size mem a_len place ≤ a_len) :
      SubframeAt mem a_len (count + 1) (place + subframe_size mem a_len place)

section Walk

variable {mem : Nat -> UInt8} {skb : Nat -> Option Skb} {a_len : Nat}

/-- What the locals say in the middle of the frame. -/
structure Locals.At (mem : Nat -> UInt8) (skb : Nat -> Option Skb) (a_len : Nat) (s : Locals) : Prop where
  rest : s.pdata + s.a_len = a_len
  place : SubframeAt mem a_len s.subframes.length s.pdata
  few : s.subframes.length < MAX_SUBFRAME_COUNT
  allocated : ∀ k, k < s.subframes.length -> skb k ≠ none
  bodies : ∀ pkt ∈ s.subframes, pkt.msdu + pkt.msdu_len ≤ a_len

theorem body_more {s next : Locals} (more : amsdu_to_msdu_body mem skb s = .more next) :
    WholeSubframe mem (s.pdata + s.a_len) s.pdata ∧ skb s.subframes.length ≠ none ∧
      s.pdata + subframe_size mem (s.pdata + s.a_len) s.pdata ≤ s.pdata + s.a_len ∧
      s.subframes.length + 1 < MAX_SUBFRAME_COUNT ∧
      next = ⟨s.pdata + subframe_size mem (s.pdata + s.a_len) s.pdata,
        s.a_len - subframe_size mem (s.pdata + s.a_len) s.pdata,
        s.subframes ++ [rtw_os_alloc_msdu_pkt mem s.pdata (RTW_GET_BE16 mem (s.pdata + 12))]⟩ := by
  unfold amsdu_to_msdu_body at more
  unfold WholeSubframe subframe_size
  dsimp only at more ⊢
  split_ifs at more with room short none many ended padding
  · have size : s.a_len = ETH_HLEN + RTW_GET_BE16 mem (s.pdata + 12) := by omega
    rw [List.length_append, List.length_singleton] at many
    rw [if_pos (by omega), ← Iteration.more.inj more, Locals.mk.injEq]
    exact ⟨⟨by omega, by omega⟩, none, by omega, by omega, by omega, by omega, rfl⟩
  · rw [List.length_append, List.length_singleton] at many
    rw [if_neg (by omega), ← Iteration.more.inj more, Locals.mk.injEq]
    exact ⟨⟨by omega, by omega⟩, none, by omega, by omega, by omega, by omega, rfl⟩

theorem subframe_size_pos (place : Nat) : ETH_HLEN ≤ subframe_size mem a_len place := by
  unfold subframe_size
  dsimp only
  split_ifs <;> omega

theorem body_decreases (s next : Locals) (more : amsdu_to_msdu_body mem skb s = .more next) :
    next.a_len < s.a_len := by
  obtain ⟨whole, -, padded, -, same⟩ := body_more more
  have positive : ETH_HLEN ≤ subframe_size mem (s.pdata + s.a_len) s.pdata := subframe_size_pos s.pdata
  have room := whole.1
  rw [same]
  simp only [ETH_HLEN] at positive room ⊢
  omega

theorem Locals.At.more {s next : Locals} (at_place : s.At mem skb a_len)
    (more : amsdu_to_msdu_body mem skb s = .more next) : next.At mem skb a_len := by
  obtain ⟨whole, allocated, padded, few, rfl⟩ := body_more more
  rw [at_place.rest] at whole padded
  have length : (s.subframes ++ [rtw_os_alloc_msdu_pkt mem s.pdata (RTW_GET_BE16 mem (s.pdata + 12))]).length =
      s.subframes.length + 1 := by
    rw [List.length_append, List.length_singleton]
  have rest := at_place.rest
  refine {
    rest := ?_
    place := ?_
    few := ?_
    allocated := fun k before => ?_
    bodies := fun pkt member => ?_ }
  · dsimp only
    rw [at_place.rest]
    omega
  · dsimp only
    rw [length, at_place.rest]
    exact .next at_place.place whole padded
  · dsimp only
    rw [length]
    exact few
  · dsimp only at before
    rw [length] at before
    by_cases last : k = s.subframes.length
    · rw [last]
      exact allocated
    · exact at_place.allocated k (by omega)
  · rcases List.mem_append.mp member with earlier | here
    · exact at_place.bodies pkt earlier
    · rw [List.mem_singleton.mp here]
      exact whole.2

theorem Locals.At.passes {s later : Locals} (at_place : s.At mem skb a_len)
    (passes : Passes (amsdu_to_msdu_body mem skb) s later) : later.At mem skb a_len := by
  induction passes with
  | refl => exact at_place
  | tail _ more ih => exact ih.more more

/-- What a finished loop indicates. -/
theorem Locals.At.done {s : Locals} (at_place : s.At mem skb a_len) {subframes : List SubPkt}
    (done : amsdu_to_msdu_body mem skb s = .done subframes) {pkt : SubPkt} (member : pkt ∈ subframes) :
    pkt.msdu + pkt.msdu_len ≤ a_len := by
  have rest := at_place.rest
  have here (room : ETH_HLEN < s.a_len) (fits : ¬s.a_len < ETH_HLEN + RTW_GET_BE16 mem (s.pdata + 12))
      (inside : pkt ∈ s.subframes ++
        [rtw_os_alloc_msdu_pkt mem s.pdata (RTW_GET_BE16 mem (s.pdata + 12))]) :
      pkt.msdu + pkt.msdu_len ≤ a_len := by
    rcases List.mem_append.mp inside with earlier | last
    · exact at_place.bodies pkt earlier
    · rw [List.mem_singleton.mp last]
      simp only [rtw_os_alloc_msdu_pkt]
      omega
  unfold amsdu_to_msdu_body at done
  dsimp only at done
  split_ifs at done with room short none many ended padding <;> rw [← Iteration.done.inj done] at member
  · exact at_place.bodies pkt member
  · exact at_place.bodies pkt member
  · exact here room short member
  · exact here room short member
  · exact at_place.bodies pkt member

end Walk

end Amsdu
end Rtl8821ce
