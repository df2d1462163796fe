import Rtl8821ce.Library.CheckedStep
import Rtl8821ce.Recv.IntegrityGate

/-!
# Which bytes software CCMP uses

`rtw_aes_decrypt` and `aes_decipher` again, for a frame of `len` bytes, with every use of
the frame and every write to the static buffer.  The first one outside ends the run, and
so does a payload length below zero.  What `aes_decipher` reads back from its buffer is
what it wrote there, or older bytes.
-/

namespace Rtl8821ce
namespace Decrypt
namespace Access

/-- The frame, and the static buffer. -/
structure Buffers where
  pframe : Nat -> UInt8
  message : Nat -> UInt8

/-- What a run can do wrong. -/
inductive Fault
  | frame
  | message
  | plen
deriving DecidableEq

abbrev AesM (Value : Type) : Type := Program Buffers Fault Value

section Model

variable (CONFIG_IEEE80211W : Bool) (aes128k128d : List UInt8 -> Block -> Block) (len : Nat)

/-- `count` bytes of the frame from `start` on are read or written. -/
def frame_bytes (start count : Nat) : AesM PUnit :=
  Program.require (decide (start + count ≤ len)) .frame

/-- `count` bytes of `message` from `start` on are written. -/
def message_bytes (start count : Nat) : AesM PUnit :=
  Program.require (decide (start + count ≤ MAX_MSG_SIZE)) .message

def pn_vector_bytes (hdrlen : Nat) : AesM PUnit := do
  frame_bytes len hdrlen 2
  frame_bytes len (hdrlen + 4) 4

/-- What `construct_ctr_preload` reads of the frame. -/
def ctr_preload_bytes (header : CcmpHeader) : AesM PUnit := do
  frame_bytes len 10 6
  if header.qc_exists then frame_bytes len (if header.a4_exists then 30 else 24) 1 else pure ⟨⟩

def mask_frame (key : List UInt8) (header : CcmpHeader) (pn_vector : Vector UInt8 6)
    (index count c : Nat) : AesM PUnit := do
  ctr_preload_bytes len header
  frame_bytes len index count
  Program.update (fun s => { s with
    pframe := mask_block CONFIG_IEEE80211W aes128k128d key header pn_vector s.pframe index count c })

/-- Mask a block of `message` in place. -/
def mask_message (key : List UInt8) (header : CcmpHeader) (pn_vector : Vector UInt8 6)
    (index count c : Nat) : AesM PUnit := do
  message_bytes index count
  Program.update (fun s => { s with
    message := mask_block CONFIG_IEEE80211W aes128k128d key header pn_vector s.message index count c })

/-- The loop over the whole blocks of a payload, and the block that is left. -/
def mask_blocks (mask : (index count c : Nat) -> AesM PUnit) (payload_index length : Nat) :
    AesM PUnit := do
  Program.counted (fun i => mask (payload_index + 16 * i) 16 (i + 1)) (length / 16)
  if 0 < length % 16 then mask (payload_index + 16 * (length / 16)) (length % 16) (length / 16 + 1)
  else pure ⟨⟩

/-- `_rtw_memcpy` of the decrypted frame, if it fits. -/
def copy_message (size : Nat) : AesM PUnit :=
  if size ≤ MAX_MSG_SIZE then do
    frame_bytes len 0 size
    message_bytes 0 size
    Program.update (fun s => { s with
      message := Memory.write s.message 0 (Memory.read s.pframe 0 size) })
  else pure ⟨⟩

/-- Insert the MIC behind the payload of `message`. -/
def insert_mic (key : List UInt8) (header : CcmpHeader) (pn_vector : Vector UInt8 6) (length : Nat) : AesM PUnit := do
  message_bytes (header.hdrlen + 8 + length) 8
  Program.update (fun s => { s with
    message := Memory.write s.message (header.hdrlen + 8 + length)
      ((calculate_mic CONFIG_IEEE80211W aes128k128d key header pn_vector s.message length).toList.take
        8) })

/-- `plen - 8` is a difference of unsigned numbers. -/
def aes_decipher (key : List UInt8) (hdrlen : Nat) (plen : UInt32) : AesM RecvStatus := do
  frame_bytes len 0 2
  let s <- Program.get
  let header := ccmp_header s.pframe hdrlen
  let length := (plen - 8).toNat
  let payload_index := header.hdrlen + 8
  pn_vector_bytes len hdrlen
  let pn_vector := pn_vector_at s.pframe hdrlen
  mask_blocks (mask_frame CONFIG_IEEE80211W aes128k128d len key header pn_vector) payload_index length
  copy_message len (header.hdrlen + plen.toNat + 8)
  pn_vector_bytes len header.hdrlen
  let s <- Program.get
  let pn_vector := pn_vector_at s.pframe header.hdrlen
  insert_mic CONFIG_IEEE80211W aes128k128d key header pn_vector length
  mask_blocks (mask_message CONFIG_IEEE80211W aes128k128d key header pn_vector) payload_index length
  mask_message CONFIG_IEEE80211W aes128k128d key header pn_vector (payload_index + length) 8 0
  frame_bytes len (header.hdrlen + plen.toNat) 8
  let s <- Program.get
  let mic_index := header.hdrlen + 8 + plen.toNat - 8
  pure (if Memory.read s.pframe mic_index 8 = Memory.read s.message mic_index 8 then ._SUCCESS
    else ._FAIL)

end Model

/-- `length` is negative for a frame that ends before its payload, and `plen` wraps. -/
def rtw_aes_decrypt (env : DecryptEnv) (psecuritypriv : RxSecurity) (prxattrib : RxPktAttrib)
    (len : Nat) : AesM RecvStatus :=
  match aes_prwskey env psecuritypriv prxattrib with
  | none => pure ._FAIL
  | some prwskey => do
      Program.require (decide (payload_index prxattrib ≤ len)) .plen
      aes_decipher env.CONFIG_IEEE80211W env.aes128k128d len prwskey prxattrib.hdrlen
        (UInt32.ofNat (len - payload_index prxattrib))

end Access
end Decrypt
end Rtl8821ce
