import Mathlib.Data.List.Basic

/-!
# TKIP key mixing

The RC4 key of a TKIP frame is mixed from the temporal key, the address of the
transmitter and the packet number.
-/

namespace Rtl8821ce

def Sbox1_first : Array UInt16 :=
  #[0xC6A5, 0xF884, 0xEE99, 0xF68D, 0xFF0D, 0xD6BD, 0xDEB1, 0x9154, 0x6050, 0x0203, 0xCEA9, 0x567D,
  0xE719, 0xB562, 0x4DE6, 0xEC9A, 0x8F45, 0x1F9D, 0x8940, 0xFA87, 0xEF15, 0xB2EB, 0x8EC9, 0xFB0B,
  0x41EC, 0xB367, 0x5FFD, 0x45EA, 0x23BF, 0x53F7, 0xE496, 0x9B5B, 0x75C2, 0xE11C, 0x3DAE, 0x4C6A,
  0x6C5A, 0x7E41, 0xF502, 0x834F, 0x685C, 0x51F4, 0xD134, 0xF908, 0xE293, 0xAB73, 0x6253, 0x2A3F,
  0x080C, 0x9552, 0x4665, 0x9D5E, 0x3028, 0x37A1, 0x0A0F, 0x2FB5, 0x0E09, 0x2436, 0x1B9B, 0xDF3D,
  0xCD26, 0x4E69, 0x7FCD, 0xEA9F, 0x121B, 0x1D9E, 0x5874, 0x342E, 0x362D, 0xDCB2, 0xB4EE, 0x5BFB,
  0xA4F6, 0x764D, 0xB761, 0x7DCE, 0x527B, 0xDD3E, 0x5E71, 0x1397, 0xA6F5, 0xB968, 0x0000, 0xC12C,
  0x4060, 0xE31F, 0x79C8, 0xB6ED, 0xD4BE, 0x8D46, 0x67D9, 0x724B, 0x94DE, 0x98D4, 0xB0E8, 0x854A,
  0xBB6B, 0xC52A, 0x4FE5, 0xED16, 0x86C5, 0x9AD7, 0x6655, 0x1194, 0x8ACF, 0xE910, 0x0406, 0xFE81,
  0xA0F0, 0x7844, 0x25BA, 0x4BE3, 0xA2F3, 0x5DFE, 0x80C0, 0x058A, 0x3FAD, 0x21BC, 0x7048, 0xF104,
  0x63DF, 0x77C1, 0xAF75, 0x4263, 0x2030, 0xE51A, 0xFD0E, 0xBF6D, 0x814C, 0x1814, 0x2635, 0xC32F,
  0xBEE1, 0x35A2, 0x88CC, 0x2E39, 0x9357, 0x55F2, 0xFC82, 0x7A47, 0xC8AC, 0xBAE7, 0x322B, 0xE695,
  0xC0A0, 0x1998, 0x9ED1, 0xA37F, 0x4466, 0x547E, 0x3BAB, 0x0B83, 0x8CCA, 0xC729, 0x6BD3, 0x283C,
  0xA779, 0xBCE2, 0x161D, 0xAD76, 0xDB3B, 0x6456, 0x744E, 0x141E, 0x92DB, 0x0C0A, 0x486C, 0xB8E4,
  0x9F5D, 0xBD6E, 0x43EF, 0xC4A6, 0x39A8, 0x31A4, 0xD337, 0xF28B, 0xD532, 0x8B43, 0x6E59, 0xDAB7,
  0x018C, 0xB164, 0x9CD2, 0x49E0, 0xD8B4, 0xACFA, 0xF307, 0xCF25, 0xCAAF, 0xF48E, 0x47E9, 0x1018,
  0x6FD5, 0xF088, 0x4A6F, 0x5C72, 0x3824, 0x57F1, 0x73C7, 0x9751, 0xCB23, 0xA17C, 0xE89C, 0x3E21,
  0x96DD, 0x61DC, 0x0D86, 0x0F85, 0xE090, 0x7C42, 0x71C4, 0xCCAA, 0x90D8, 0x0605, 0xF701, 0x1C12,
  0xC2A3, 0x6A5F, 0xAEF9, 0x69D0, 0x1791, 0x9958, 0x3A27, 0x27B9, 0xD938, 0xEB13, 0x2BB3, 0x2233,
  0xD2BB, 0xA970, 0x0789, 0x33A7, 0x2DB6, 0x3C22, 0x1592, 0xC920, 0x8749, 0xAAFF, 0x5078, 0xA57A,
  0x038F, 0x59F8, 0x0980, 0x1A17, 0x65DA, 0xD731, 0x84C6, 0xD0B8, 0x82C3, 0x29B0, 0x5A77, 0x1E11,
  0x7BCB, 0xA8FC, 0x6DD6, 0x2C3A]

def RotR1 (v16 : UInt16) : UInt16 :=
  (v16 >>> 1 &&& (0x7fff : UInt16)) ^^^ ((v16 &&& (1 : UInt16)) <<< 15)
def Lo8 (v16 : UInt16) : UInt8 := v16.toUInt8
def Hi8 (v16 : UInt16) : UInt8 := (v16 >>> 8).toUInt8
def Mk16 (hi lo : UInt8) : UInt16 := lo.toUInt16 ^^^ (hi.toUInt16 <<< 8)

/-- The substitution table, whose second half has the bytes of the first exchanged. -/
def Sbox1 (half : Bool) (index : UInt8) : UInt16 :=
  let entry := Sbox1_first.getD index.toNat 0
  if half then (entry <<< 8) ||| (entry >>> 8) else entry

/-- `_S_`. -/
def tkip_sbox (v16 : UInt16) : UInt16 := Sbox1 false (Lo8 v16) ^^^ Sbox1 true (Hi8 v16)

def TK16 (tk : List UInt8) (n : Nat) : UInt16 := Mk16 (tk.getD (2 * n + 1) 0) (tk.getD (2 * n) 0)

/-- The five words of the first phase. -/
structure P1K where
  p0 : UInt16
  p1 : UInt16
  p2 : UInt16
  p3 : UInt16
  p4 : UInt16

def phase1_round (tk : List UInt8) (p1k : P1K) (i : Nat) : P1K :=
  let p0 := p1k.p0 + tkip_sbox (p1k.p4 ^^^ TK16 tk (i % 2 + 0))
  let p1 := p1k.p1 + tkip_sbox (p0 ^^^ TK16 tk (i % 2 + 2))
  let p2 := p1k.p2 + tkip_sbox (p1 ^^^ TK16 tk (i % 2 + 4))
  let p3 := p1k.p3 + tkip_sbox (p2 ^^^ TK16 tk (i % 2 + 6))
  let p4 := p1k.p4 + tkip_sbox (p3 ^^^ TK16 tk (i % 2 + 0))
  ⟨p0, p1, p2, p3, p4 + UInt16.ofNat i⟩

def phase1 (tk ta : List UInt8) (iv32 : UInt32) : P1K :=
  (List.range 8).foldl (phase1_round tk)
    { p0 := iv32.toUInt16
      p1 := (iv32 >>> 16).toUInt16
      p2 := Mk16 (ta.getD 1 0) (ta.getD 0 0)
      p3 := Mk16 (ta.getD 3 0) (ta.getD 2 0)
      p4 := Mk16 (ta.getD 5 0) (ta.getD 4 0) }

def phase2 (tk : List UInt8) (p1k : P1K) (iv16 : UInt16) : List UInt8 :=
  let p5 := p1k.p4 + iv16
  let p0 := p1k.p0 + tkip_sbox (p5 ^^^ TK16 tk 0)
  let p1 := p1k.p1 + tkip_sbox (p0 ^^^ TK16 tk 1)
  let p2 := p1k.p2 + tkip_sbox (p1 ^^^ TK16 tk 2)
  let p3 := p1k.p3 + tkip_sbox (p2 ^^^ TK16 tk 3)
  let p4 := p1k.p4 + tkip_sbox (p3 ^^^ TK16 tk 4)
  let p5 := p5 + tkip_sbox (p4 ^^^ TK16 tk 5)
  let p0 := p0 + RotR1 (p5 ^^^ TK16 tk 6)
  let p1 := p1 + RotR1 (p0 ^^^ TK16 tk 7)
  let p2 := p2 + RotR1 p1
  let p3 := p3 + RotR1 p2
  let p4 := p4 + RotR1 p3
  let p5 := p5 + RotR1 p4
  [Hi8 iv16, (Hi8 iv16 ||| 0x20) &&& 0x7f, Lo8 iv16, Lo8 ((p5 ^^^ TK16 tk 0) >>> 1),
    Lo8 p0, Hi8 p0, Lo8 p1, Hi8 p1, Lo8 p2, Hi8 p2, Lo8 p3, Hi8 p3, Lo8 p4, Hi8 p4, Lo8 p5, Hi8 p5]

/-- The RC4 key of a frame, from the eight bytes of its IV. -/
def tkip_rc4key (tk ta iv : List UInt8) : List UInt8 :=
  let pnl := Mk16 (iv.getD 0 0) (iv.getD 2 0)
  let pnh := (Mk16 (iv.getD 5 0) (iv.getD 4 0)).toUInt32 |||
    ((Mk16 (iv.getD 7 0) (iv.getD 6 0)).toUInt32 <<< 16)
  phase2 tk (phase1 tk ta pnh) pnl

/-- The key of the first packet of a transmitter. -/
example : tkip_rc4key [0, 1, 2, 3, 4, 5, 6, 7, 8, 9, 10, 11, 12, 13, 14, 15]
      [0x10, 0x22, 0x33, 0x44, 0x55, 0x66] [0, 0x20, 0, 0x20, 0, 0, 0, 0] =
    [0x00, 0x20, 0x00, 0x33, 0xea, 0x8d, 0x2f, 0x60, 0xca, 0x6d, 0x13, 0x74, 0x23, 0x4a, 0x66,
      0x0b] := by
  decide +kernel

end Rtl8821ce
