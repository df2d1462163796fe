import Rtl8821ce.Library.Memory

/-!
# RC4 and the integrity check value

WEP and TKIP mask payload and ICV with one RC4 stream.  The ICV is the CRC-32 of
the payload.
-/

namespace Rtl8821ce

structure Arc4Context where
  x : UInt8
  y : UInt8
  state : Vector UInt8 256

/-- One round of the key schedule, at the position `counter` of the state. -/
def arcfour_init_round (key : List UInt8) (state : Vector UInt8 256) (keyindex : Nat)
    (stateindex : UInt8) (counter : Fin 256) : Vector UInt8 256 × Nat × UInt8 :=
  let t := state.get counter
  let stateindex := stateindex + key.getD keyindex 0 + t
  let u := state.get stateindex.toFin
  let state := state.set stateindex.toNat t stateindex.toNat_lt
  let state := state.set counter.val u counter.isLt
  (state, if keyindex + 1 ≥ key.length then 0 else keyindex + 1, stateindex)

def arcfour_init (key : List UInt8) : Arc4Context :=
  let scheduled := (List.finRange 256).foldl
    (fun (round : Vector UInt8 256 × Nat × UInt8) counter =>
      arcfour_init_round key round.1 round.2.1 round.2.2 counter)
    (Vector.ofFn (fun counter : Fin 256 => UInt8.ofNat counter.val), 0, 0)
  { x := 0, y := 0, state := scheduled.1 }

def arcfour_byte (parc4ctx : Arc4Context) : UInt8 × Arc4Context :=
  let x := parc4ctx.x + 1
  let sx := parc4ctx.state.get x.toFin
  let y := sx + parc4ctx.y
  let sy := parc4ctx.state.get y.toFin
  let state := parc4ctx.state.set y.toNat sx y.toNat_lt
  let state := state.set x.toNat sy x.toNat_lt
  (state.get (sx + sy).toFin, { x := x, y := y, state := state })

def arcfour_encrypt (parc4ctx : Arc4Context) : List UInt8 -> List UInt8 × Arc4Context
  | [] => ([], parc4ctx)
  | src :: rest =>
      let byte := arcfour_byte parc4ctx
      let encrypted := arcfour_encrypt byte.2 rest
      ((src ^^^ byte.1) :: encrypted.1, encrypted.2)

def CRC32_POLY : UInt32 := 0x04c11db7

def crc32_reverseBit (data : UInt8) : UInt8 :=
  let bit (shifted mask : UInt8) : UInt8 := shifted &&& mask
  bit (data <<< 7) 0x80 ||| bit (data <<< 5) 0x40 ||| bit (data <<< 3) 0x20 |||
    bit (data <<< 1) 0x10 ||| bit (data >>> 1) 0x08 ||| bit (data >>> 3) 0x04 |||
    bit (data >>> 5) 0x02 ||| bit (data >>> 7) 0x01

/-- Byte `k` of a word in memory, the lowest first. -/
def u32_byte (word : UInt32) (k : Nat) : UInt8 := (word >>> UInt32.ofNat (8 * k)).toUInt8

def u32_of_bytes (b0 b1 b2 b3 : UInt8) : UInt32 :=
  b0.toUInt32 ||| (b1.toUInt32 <<< 8) ||| (b2.toUInt32 <<< 16) ||| (b3.toUInt32 <<< 24)

/-- One entry of the table that `crc32_init` fills. -/
def crc32_table (i : UInt8) : UInt32 :=
  let k := crc32_reverseBit i
  let c := (List.range 8).foldl
    (fun (c : UInt32) _ => if c &&& 0x80000000 ≠ 0 then (c <<< 1) ^^^ CRC32_POLY else c <<< 1)
    (k.toUInt32 <<< 24)
  u32_of_bytes (crc32_reverseBit (u32_byte c 3)) (crc32_reverseBit (u32_byte c 2))
    (crc32_reverseBit (u32_byte c 1)) (crc32_reverseBit (u32_byte c 0))

def getcrc32 (buf : List UInt8) : UInt32 :=
  ~~~(buf.foldl (fun crc p => crc32_table (crc ^^^ p.toUInt32).toUInt8 ^^^ (crc >>> 8)) 0xffffffff)

def icv_bytes (payload : List UInt8) : List UInt8 :=
  let crc := getcrc32 payload
  [u32_byte crc 0, u32_byte crc 1, u32_byte crc 2, u32_byte crc 3]

/-- The check value of the nine digits that implementations are compared by. -/
example : getcrc32 [0x31, 0x32, 0x33, 0x34, 0x35, 0x36, 0x37, 0x38, 0x39] = 0xcbf43926 := by
  decide +kernel

theorem length_arcfour_encrypt (parc4ctx : Arc4Context) (src : List UInt8) :
    (arcfour_encrypt parc4ctx src).1.length = src.length := by
  induction src generalizing parc4ctx with
  | nil => rfl
  | cons byte rest ih =>
    show (arcfour_encrypt (arcfour_byte parc4ctx).2 rest).1.length + 1 = rest.length + 1
    rw [ih]

theorem length_icv_bytes (payload : List UInt8) : (icv_bytes payload).length = 4 := rfl

theorem arcfour_encrypt_append (parc4ctx : Arc4Context) (first second : List UInt8) :
    (arcfour_encrypt parc4ctx (first ++ second)).1 =
      (arcfour_encrypt parc4ctx first).1 ++
        (arcfour_encrypt (arcfour_encrypt parc4ctx first).2 second).1 := by
  induction first generalizing parc4ctx with
  | nil => rfl
  | cons byte rest ih =>
    exact congrArg (List.cons _) (ih (arcfour_byte parc4ctx).2)

/-- One stream combined twice leaves the bytes as they were. -/
theorem arcfour_encrypt_twice (parc4ctx : Arc4Context) (src : List UInt8) :
    (arcfour_encrypt parc4ctx (arcfour_encrypt parc4ctx src).1).1 = src := by
  induction src generalizing parc4ctx with
  | nil => rfl
  | cons byte rest ih =>
    have restored : byte ^^^ (arcfour_byte parc4ctx).1 ^^^ (arcfour_byte parc4ctx).1 = byte := by
      rw [UInt8.xor_assoc, UInt8.xor_self, UInt8.xor_zero]
    show (byte ^^^ (arcfour_byte parc4ctx).1 ^^^ (arcfour_byte parc4ctx).1) ::
      (arcfour_encrypt (arcfour_byte parc4ctx).2
        (arcfour_encrypt (arcfour_byte parc4ctx).2 rest).1).1 = byte :: rest
    rw [restored, ih]

end Rtl8821ce
