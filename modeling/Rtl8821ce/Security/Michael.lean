import Mathlib.Data.List.Basic

/-!
# The Michael code of TKIP

`rtw_secmicappendbyte` collects the bytes of a message into words and mixes
each full word into the two halves of the state.  `michael` says what the code
of a whole message is: the block function folded over the words of the padded
message.  The streaming functions compute exactly this, for any way of cutting
the message into calls.
-/

namespace Rtl8821ce

/-- `ROL32(A, n)`. -/
def ROL32 (A n : UInt32) : UInt32 :=
  (A <<< n) ||| ((A >>> (32 - n)) &&& ((1 <<< n) - 1))

/-- `ROR32(A, n)`. -/
def ROR32 (A n : UInt32) : UInt32 := ROL32 A (32 - n)

/-! ## What the code of a message is -/

namespace Michael

/-- The block function: mix one word of the message into the halves. -/
def block (state : UInt32 × UInt32) (word : UInt32) : UInt32 × UInt32 :=
  let L := state.1 ^^^ word
  let R := state.2 ^^^ ROL32 L 17
  let L := L + R
  let R := R ^^^ (((L &&& 0xff00ff00) >>> 8) ||| ((L &&& 0x00ff00ff) <<< 8))
  let L := L + R
  let R := R ^^^ ROL32 L 3
  let L := L + R
  let R := R ^^^ ROR32 L 2
  (L + R, R)

def word (b0 b1 b2 b3 : UInt8) : UInt32 :=
  b0.toUInt32 ||| (b1.toUInt32 <<< 8) ||| (b2.toUInt32 <<< 16) ||| (b3.toUInt32 <<< 24)

/-- The words of a message; what is left over at the end makes no word. -/
def words : List UInt8 -> List UInt32
  | b0 :: b1 :: b2 :: b3 :: rest => word b0 b1 b2 b3 :: words rest
  | _ => []

/-- The end marker, four zeros, and zeros up to a whole number of words. -/
def padded (message : List UInt8) : List UInt8 :=
  message ++ 0x5a :: List.replicate (7 - message.length % 4) 0

theorem length_padded (message : List UInt8) : (padded message).length % 4 = 0 := by
  simp only [padded, List.length_append, List.length_cons, List.length_replicate]
  omega

end Michael

def secmicgetuint32 (p : List UInt8) : UInt32 :=
  Michael.word (p.getD 0 0) (p.getD 1 0) (p.getD 2 0) (p.getD 3 0)

def secmicputuint32 (val : UInt32) : List UInt8 :=
  [(val &&& 0xff).toUInt8, ((val >>> 8) &&& 0xff).toUInt8, ((val >>> 16) &&& 0xff).toUInt8,
    ((val >>> 24) &&& 0xff).toUInt8]

/-- The code of a message under the eight bytes of a key. -/
def michael (key message : List UInt8) : List UInt8 :=
  let out := (Michael.words (Michael.padded message)).foldl Michael.block
    (secmicgetuint32 key, secmicgetuint32 (key.drop 4))
  secmicputuint32 out.1 ++ secmicputuint32 out.2

theorem length_michael (key message : List UInt8) : (michael key message).length = 8 := rfl

/-- `struct mic_data`. -/
structure MicData where
  K0 : UInt32
  K1 : UInt32
  L : UInt32
  R : UInt32
  M : UInt32
  nBytesInM : Nat

def rtw_secmicsetkey (key : List UInt8) : MicData where
  K0 := secmicgetuint32 key
  K1 := secmicgetuint32 (key.drop 4)
  L := secmicgetuint32 key
  R := secmicgetuint32 (key.drop 4)
  M := 0
  nBytesInM := 0

/-- Append a byte to the word buffer, and process the word if it is full. -/
def rtw_secmicappendbyte (pmicdata : MicData) (b : UInt8) : MicData :=
  let M := pmicdata.M ||| (b.toUInt32 <<< UInt32.ofNat (8 * pmicdata.nBytesInM))
  if pmicdata.nBytesInM + 1 >= 4 then
    let L := pmicdata.L ^^^ M
    let R := pmicdata.R ^^^ ROL32 L 17
    let L := L + R
    let R := R ^^^ (((L &&& 0xff00ff00) >>> 8) ||| ((L &&& 0x00ff00ff) <<< 8))
    let L := L + R
    let R := R ^^^ ROL32 L 3
    let L := L + R
    let R := R ^^^ ROR32 L 2
    let L := L + R
    { pmicdata with L := L, R := R, M := 0, nBytesInM := 0 }
  else { pmicdata with M := M, nBytesInM := pmicdata.nBytesInM + 1 }

def rtw_secmicappend (pmicdata : MicData) (src : List UInt8) : MicData :=
  src.foldl rtw_secmicappendbyte pmicdata

/-- The loop of `rtw_secgetmic`: zeros until the word buffer is empty, which
takes at most three. -/
def secmic_fill : Nat -> MicData -> MicData
  | 0, pmicdata => pmicdata
  | fuel + 1, pmicdata =>
      if pmicdata.nBytesInM ≠ 0 then secmic_fill fuel (rtw_secmicappendbyte pmicdata 0)
      else pmicdata

def rtw_secgetmic (pmicdata : MicData) : List UInt8 :=
  let filled := secmic_fill 3 (rtw_secmicappend pmicdata [0x5a, 0, 0, 0, 0])
  secmicputuint32 filled.L ++ secmicputuint32 filled.R

/-- The destination and the source address at their places in the header. -/
def seccalctkipmic_addresses (header : List UInt8) : List UInt8 :=
  let flags := header.getD 1 0
  if flags &&& 1 != 0 then
    (header.drop 16).take 6 ++
      (if flags &&& 2 != 0 then (header.drop 24).take 6 else (header.drop 10).take 6)
  else
    (header.drop 4).take 6 ++
      (if flags &&& 2 != 0 then (header.drop 16).take 6 else (header.drop 10).take 6)

def rtw_seccalctkipmic (key header data : List UInt8) (pri : UInt8) : List UInt8 :=
  let micdata := rtw_secmicappend (rtw_secmicsetkey key) (seccalctkipmic_addresses header)
  let micdata := rtw_secmicappend micdata [pri, 0, 0, 0]
  rtw_secgetmic (rtw_secmicappend micdata data)

theorem rtw_secmicappend_append (pmicdata : MicData) (first second : List UInt8) :
    rtw_secmicappend pmicdata (first ++ second) =
      rtw_secmicappend (rtw_secmicappend pmicdata first) second :=
  List.foldl_append

theorem nBytesInM_appendbyte {pmicdata : MicData} (room : pmicdata.nBytesInM < 4) (b : UInt8) :
    (rtw_secmicappendbyte pmicdata b).nBytesInM = (pmicdata.nBytesInM + 1) % 4 := by
  unfold rtw_secmicappendbyte
  dsimp only
  split <;> dsimp only <;> omega

theorem nBytesInM_append {pmicdata : MicData} (room : pmicdata.nBytesInM < 4) (src : List UInt8) :
    (rtw_secmicappend pmicdata src).nBytesInM = (pmicdata.nBytesInM + src.length) % 4 := by
  induction src generalizing pmicdata with
  | nil => exact (Nat.mod_eq_of_lt room).symm
  | cons b rest ih =>
      have next := nBytesInM_appendbyte room b
      have tail := @ih (rtw_secmicappendbyte pmicdata b) (by omega)
      simp only [rtw_secmicappend, List.foldl_cons] at tail ⊢
      rw [tail, next, List.length_cons]
      omega

theorem append_word (pmicdata : MicData) (empty : pmicdata.nBytesInM = 0) (clear : pmicdata.M = 0)
    (b0 b1 b2 b3 : UInt8) :
    rtw_secmicappend pmicdata [b0, b1, b2, b3] =
      { pmicdata with
        L := (Michael.block (pmicdata.L, pmicdata.R) (Michael.word b0 b1 b2 b3)).1
        R := (Michael.block (pmicdata.L, pmicdata.R) (Michael.word b0 b1 b2 b3)).2 } := by
  rcases pmicdata with ⟨K0, K1, L, R, M, nBytesInM⟩
  subst empty clear
  have first : (0 : UInt32) ||| b0.toUInt32 <<< UInt32.ofNat (8 * 0) = b0.toUInt32 := by simp
  simp only [rtw_secmicappend, List.foldl_cons, List.foldl_nil, rtw_secmicappendbyte, first]
  rfl

theorem append_words (pmicdata : MicData) (empty : pmicdata.nBytesInM = 0)
    (clear : pmicdata.M = 0) (src : List UInt8) (whole : src.length % 4 = 0) :
    rtw_secmicappend pmicdata src =
      { pmicdata with
        L := ((Michael.words src).foldl Michael.block (pmicdata.L, pmicdata.R)).1
        R := ((Michael.words src).foldl Michael.block (pmicdata.L, pmicdata.R)).2 } := by
  induction src using Michael.words.induct generalizing pmicdata with
  | case1 b0 b1 b2 b3 rest ih =>
      have wholeRest : rest.length % 4 = 0 := by
        simp only [List.length_cons] at whole
        omega
      have cut : b0 :: b1 :: b2 :: b3 :: rest = [b0, b1, b2, b3] ++ rest := rfl
      have first := append_word pmicdata empty clear b0 b1 b2 b3
      have tail := ih (rtw_secmicappend pmicdata [b0, b1, b2, b3])
        (by rw [first]; exact empty) (by rw [first]; exact clear) wholeRest
      rw [cut, rtw_secmicappend_append, tail, first]
      rfl
  | case2 src short =>
      -- a message of whole words and less than four bytes is empty
      match src, short, whole with
      | [], _, _ => rfl
      | b0 :: b1 :: b2 :: b3 :: rest, short, _ => exact absurd rfl (short b0 b1 b2 b3 rest)

theorem secmic_fill_eq (count : Nat) (pmicdata : MicData)
    (full : count = (4 - pmicdata.nBytesInM) % 4) (room : pmicdata.nBytesInM < 4) (fuel : Nat)
    (enough : count ≤ fuel) : secmic_fill fuel pmicdata = rtw_secmicappend pmicdata (List.replicate count 0) := by
  induction fuel generalizing count pmicdata with
  | zero =>
      have none : count = 0 := by omega
      rw [none]
      rfl
  | succ fuel ih =>
      rw [secmic_fill]
      split
      case isTrue filling =>
          have next := nBytesInM_appendbyte room 0
          obtain ⟨fewer, rfl⟩ : ∃ fewer, count = fewer + 1 := ⟨count - 1, by omega⟩
          rw [ih fewer (rtw_secmicappendbyte pmicdata 0) (by omega) (by omega)
            (by omega)]
          rfl
      case isFalse filled =>
          have none : count = 0 := by omega
          rw [none]
          rfl

theorem rtw_secgetmic_append (key message : List UInt8) :
    rtw_secgetmic (rtw_secmicappend (rtw_secmicsetkey key) message) = michael key message := by
  have padding : Michael.padded message = message ++ ([0x5a, 0, 0, 0, 0] ++
      List.replicate (3 - message.length % 4) 0) := by
    have count : 7 - message.length % 4 = 4 + (3 - message.length % 4) := by omega
    rw [Michael.padded, count, List.replicate_add]
    rfl
  have filling : (rtw_secmicappend (rtw_secmicsetkey key)
      (message ++ [0x5a, 0, 0, 0, 0])).nBytesInM = (message.length + 5) % 4 := by
    rw [nBytesInM_append (show 0 < 4 by decide)]
    simp only [rtw_secmicsetkey, List.length_append, List.length_cons, List.length_nil]
    omega
  simp only [rtw_secgetmic, michael]
  rw [← rtw_secmicappend_append, secmic_fill_eq (3 - message.length % 4) _ (by omega) (by omega) 3 (by omega),
    ← rtw_secmicappend_append, List.append_assoc, ← padding,
    append_words _ rfl rfl _ (Michael.length_padded message)]
  rfl

/-- However the message is cut over the calls, the code is that of the standard for the whole. -/
theorem rtw_secgetmic_pieces (key : List UInt8) (pieces : List (List UInt8)) :
    rtw_secgetmic (pieces.foldl rtw_secmicappend (rtw_secmicsetkey key)) = michael key pieces.flatten := by
  have whole : ∀ pmicdata, pieces.foldl rtw_secmicappend pmicdata = rtw_secmicappend pmicdata pieces.flatten := by
    induction pieces with
    | nil => exact fun _ => rfl
    | cons piece rest ih =>
        intro pmicdata
        rw [List.foldl_cons, ih, List.flatten_cons, rtw_secmicappend_append]
  rw [whole, rtw_secgetmic_append]

end Rtl8821ce
