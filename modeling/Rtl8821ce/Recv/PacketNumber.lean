import Rtl8821ce.Library.Run
import Rtl8821ce.Library.SerialNumber
import Rtl8821ce.Recv.Frame
import Mathlib.Data.List.TakeWhile

/-!
# Replay check of group frames

`recv_bcast_pn_decache` reads the 48-bit packet number and the key id from the
CCMP header of a group frame and compares the number with the one stored for
the key.  `VALID_PN_CHK` promises to accept what is larger than the stored
number; it tests bit 47 of the difference, which is that order only as long as
the two numbers are less than half of the number range apart.
-/

namespace Rtl8821ce

open SerialNumber

variable {psecuritypriv : SecurityPriv} {precv_frame : RecvFrame}

/-- `PN_LESS_CHK(a, b)`: `((a-b) & 0x800000000000) != 0` on `u64` values. -/
def PN_LESS_CHK (a b : Nat) : Bool := bitLess 64 47 a b

/-- `VALID_PN_CHK(new, old)`. -/
def VALID_PN_CHK (new old : Nat) : Bool := old == 0 || PN_LESS_CHK old new

/-- The packet number in the eight bytes of a CCMP header. -/
def CCMPH_2_PN (ch : BitVec 64) : BitVec 64 :=
  (ch &&& 0x000000000000ffff#64) ||| ((ch &&& 0xffffffff00000000#64) >>> 16)

def CCMPH_2_KEYID (ch : BitVec 64) : Fin 4 :=
  Fin.ofNat 4 (((ch &&& 0x00000000c0000000#64) >>> 30).toNat)

/-- `le64_to_cpu` of the first eight bytes. -/
def le64_to_cpu (pdata : List UInt8) : BitVec 64 :=
  BitVec.ofNat 64 ((pdata.take 8).foldr (fun byte rest => byte.toNat + 256 * rest) 0)

/-- The packet numbers that `struct security_priv` keeps for the group keys. -/
structure SecurityPriv where
  iv_seq : Fin 4 -> BitVec 64

/-- The number that `recv_bcast_pn_decache` compares with. -/
def SecurityPriv.curr_pn (psecuritypriv : SecurityPriv) (key_id : Fin 4) : Nat :=
  (psecuritypriv.iv_seq key_id &&& 0x0000ffffffffffff#64).toNat

def RecvFrame.tmp_iv_hdr (precv_frame : RecvFrame) : BitVec 64 :=
  le64_to_cpu (precv_frame.rx_data.drop precv_frame.attrib.hdrlen)

def RecvFrame.key_id (precv_frame : RecvFrame) : Fin 4 := CCMPH_2_KEYID precv_frame.tmp_iv_hdr

def RecvFrame.pkt_pn (precv_frame : RecvFrame) : Nat := (CCMPH_2_PN precv_frame.tmp_iv_hdr).toNat

def SecurityPriv.set_iv_seq (psecuritypriv : SecurityPriv) (key_id : Fin 4) (value : BitVec 64) : SecurityPriv where
  iv_seq := fun id => if id = key_id then value else psecuritypriv.iv_seq id

/-- Check a group frame against the stored number and store its own. -/
def recv_bcast_pn_decache (psecuritypriv : SecurityPriv) (station_state : Bool)
    (precv_frame : RecvFrame) : RecvStatus × SecurityPriv :=
  if precv_frame.attrib.encrypt = ._AES_ ∧ station_state = true then
    let key_id := precv_frame.key_id
    if !VALID_PN_CHK precv_frame.pkt_pn (psecuritypriv.curr_pn key_id) then (._FAIL, psecuritypriv)
    else
      (._SUCCESS, psecuritypriv.set_iv_seq key_id (CCMPH_2_PN precv_frame.tmp_iv_hdr))
  else (._SUCCESS, psecuritypriv)

/-- The order that the comment of `VALID_PN_CHK` states. -/
def LegalPn (new old : Nat) : Prop := old = 0 ∨ old < new

/-- The two numbers are close enough for the tested bit to be their order. -/
def WithinHalfRange (new old : Nat) : Prop :=
  old = 0 ∨ (old < new ∧ new - old ≤ 2 ^ 47) ∨ (new ≤ old ∧ old - new < 2 ^ 47)

instance (new old : Nat) : Decidable (WithinHalfRange new old) :=
  inferInstanceAs (Decidable (_ ∨ _))

/-- What the check decides: a number up to half the range ahead is accepted, and
so is one that lies half the range or more behind. -/
theorem VALID_PN_CHK_iff {new old : Nat} (newLt : new < 2 ^ 48) (oldLt : old < 2 ^ 48) :
    VALID_PN_CHK new old = true <->
      old = 0 ∨ (old < new ∧ new - old ≤ 2 ^ 47) ∨ (new ≤ old ∧ 2 ^ 47 ≤ old - new) := by
  have ring : PN_LESS_CHK old new = true <-> 2 ^ 47 ≤ distance (2 ^ 48) new old :=
    @bitLess_iff 64 47 (by decide) old new
  rw [VALID_PN_CHK, Bool.or_eq_true, beq_iff_eq, ring, distance_eq newLt oldLt]
  by_cases ordered : new ≤ old
  · rw [if_pos ordered]
    omega
  · rw [if_neg ordered]
    omega

theorem VALID_PN_CHK_legal_iff {new old : Nat} (newLt : new < 2 ^ 48) (oldLt : old < 2 ^ 48) :
    (VALID_PN_CHK new old = true <-> LegalPn new old) <-> WithinHalfRange new old := by
  rw [VALID_PN_CHK_iff newLt oldLt]
  unfold LegalPn WithinHalfRange
  omega

theorem CCMPH_2_PN_lt (ch : BitVec 64) : (CCMPH_2_PN ch).toNat < 2 ^ 48 := by
  unfold CCMPH_2_PN
  rw [BitVec.toNat_or]
  apply Nat.or_lt_two_pow
  · refine Nat.lt_of_le_of_lt (m := 0xffff) ?_ (by decide)
    rw [BitVec.toNat_and]
    exact Nat.and_le_right
  · rw [BitVec.toNat_ushiftRight, Nat.shiftRight_eq_div_pow]
    exact Nat.div_lt_of_lt_mul (Nat.lt_of_lt_of_le (BitVec.isLt _) (by decide))

theorem pkt_pn_lt (precv_frame : RecvFrame) : precv_frame.pkt_pn < 2 ^ 48 :=
  CCMPH_2_PN_lt _

theorem mask48_toNat (number : BitVec 64) : (number &&& 0x0000ffffffffffff#64).toNat = number.toNat % 2 ^ 48 := by
  rw [BitVec.toNat_and]
  exact Nat.and_two_pow_sub_one_eq_mod number.toNat 48

theorem curr_pn_lt (psecuritypriv : SecurityPriv) (key_id : Fin 4) : psecuritypriv.curr_pn key_id < 2 ^ 48 := by
  rw [SecurityPriv.curr_pn, mask48_toNat]
  exact Nat.mod_lt _ (Nat.two_pow_pos 48)

/-! ## Runs in station mode -/

/-- The stored numbers between two key installations, and the numbers accepted
so far with their key ids, oldest first. -/
structure PnRun where
  psecuritypriv : SecurityPriv
  accepted : List (Fin 4 × Nat)

def PnRun.step (run : PnRun) (precv_frame : RecvFrame) : PnRun :=
  let outcome := recv_bcast_pn_decache run.psecuritypriv true precv_frame
  { psecuritypriv := outcome.2
    accepted :=
      if precv_frame.attrib.encrypt = ._AES_ ∧ outcome.1 = ._SUCCESS then
        run.accepted ++ [(precv_frame.key_id, precv_frame.pkt_pn)]
      else run.accepted }

def acceptedFor (key_id : Fin 4) (accepted : List (Fin 4 × Nat)) : List Nat :=
  (accepted.filter (fun entry => entry.1 == key_id)).map Prod.snd

/-- From the first number on that is not zero, the numbers increase strictly. -/
def IncreasingOnceNonzero (numbers : List Nat) : Prop :=
  (numbers.dropWhile (fun number => number == 0)).Pairwise (fun earlier later => earlier < later)

instance (numbers : List Nat) : Decidable (IncreasingOnceNonzero numbers) :=
  inferInstanceAs (Decidable (List.Pairwise _ _))

/-- The frame is accepted exactly when its number is legal. -/
def DecidesLegally (run : PnRun) (precv_frame : RecvFrame) : Prop :=
  precv_frame.attrib.encrypt = ._AES_ ->
    ((recv_bcast_pn_decache run.psecuritypriv true precv_frame).1 = ._SUCCESS <->
      LegalPn precv_frame.pkt_pn (run.psecuritypriv.curr_pn precv_frame.key_id))

/-- The frame's number is within half the range of the stored one. -/
def ArrivesWithinHalfRange (run : PnRun) (precv_frame : RecvFrame) : Prop :=
  precv_frame.attrib.encrypt = ._AES_ ->
    WithinHalfRange precv_frame.pkt_pn (run.psecuritypriv.curr_pn precv_frame.key_id)

/-- Replay protection of a whole run: each frame is judged by the documented
order, and the accepted numbers of each key increase. -/
def ReplayProtected (psecuritypriv : SecurityPriv) (frames : List RecvFrame) : Prop :=
  Run.Guarded PnRun.step DecidesLegally ⟨psecuritypriv, []⟩ frames ∧
    ∀ key_id, IncreasingOnceNonzero
      (acceptedFor key_id (Run.execute PnRun.step ⟨psecuritypriv, []⟩ frames).accepted)

theorem recv_bcast_pn_decache_valid (ccmp : precv_frame.attrib.encrypt = ._AES_)
    (valid : VALID_PN_CHK precv_frame.pkt_pn (psecuritypriv.curr_pn precv_frame.key_id) = true) :
    recv_bcast_pn_decache psecuritypriv true precv_frame =
      (._SUCCESS,
        psecuritypriv.set_iv_seq precv_frame.key_id (CCMPH_2_PN precv_frame.tmp_iv_hdr)) := by
  simp only [recv_bcast_pn_decache, ccmp, valid, and_self, if_true, Bool.not_true, Bool.false_eq_true, if_false]

theorem recv_bcast_pn_decache_invalid (ccmp : precv_frame.attrib.encrypt = ._AES_)
    (invalid : VALID_PN_CHK precv_frame.pkt_pn (psecuritypriv.curr_pn precv_frame.key_id) = false) :
    recv_bcast_pn_decache psecuritypriv true precv_frame = (._FAIL, psecuritypriv) := by
  simp only [recv_bcast_pn_decache, ccmp, invalid, and_self, if_true, Bool.not_false]

theorem recv_bcast_pn_decache_status (ccmp : precv_frame.attrib.encrypt = ._AES_) :
    (recv_bcast_pn_decache psecuritypriv true precv_frame).1 = ._SUCCESS <->
      VALID_PN_CHK precv_frame.pkt_pn (psecuritypriv.curr_pn precv_frame.key_id) = true := by
  cases valid : VALID_PN_CHK precv_frame.pkt_pn (psecuritypriv.curr_pn precv_frame.key_id) with
  | true =>
      rw [recv_bcast_pn_decache_valid ccmp valid]
      exact iff_of_true rfl rfl
  | false =>
      rw [recv_bcast_pn_decache_invalid ccmp valid]
      exact iff_of_false RecvStatus.noConfusion Bool.noConfusion

theorem decidesLegally_iff (run : PnRun) (precv_frame : RecvFrame) :
    DecidesLegally run precv_frame <-> ArrivesWithinHalfRange run precv_frame := by
  apply forall_congr'
  intro ccmp
  rw [recv_bcast_pn_decache_status ccmp]
  exact VALID_PN_CHK_legal_iff (pkt_pn_lt precv_frame) (curr_pn_lt run.psecuritypriv precv_frame.key_id)

theorem curr_pn_accepted (ccmp : precv_frame.attrib.encrypt = ._AES_)
    (success : (recv_bcast_pn_decache psecuritypriv true precv_frame).1 = ._SUCCESS) (key_id : Fin 4) :
    (recv_bcast_pn_decache psecuritypriv true precv_frame).2.curr_pn key_id =
      if key_id = precv_frame.key_id then precv_frame.pkt_pn else psecuritypriv.curr_pn key_id := by
  have bounded := CCMPH_2_PN_lt precv_frame.tmp_iv_hdr
  rw [recv_bcast_pn_decache_valid ccmp ((recv_bcast_pn_decache_status ccmp).mp success)]
  simp only [SecurityPriv.curr_pn, SecurityPriv.set_iv_seq]
  by_cases same : key_id = precv_frame.key_id
  · rw [if_pos same, if_pos same, mask48_toNat, Nat.mod_eq_of_lt bounded]
    rfl
  · rw [if_neg same, if_neg same]

theorem recv_bcast_pn_decache_kept (notTaken : ¬ (precv_frame.attrib.encrypt = ._AES_ ∧
      (recv_bcast_pn_decache psecuritypriv true precv_frame).1 = ._SUCCESS)) :
    (recv_bcast_pn_decache psecuritypriv true precv_frame).2 = psecuritypriv := by
  by_cases ccmp : precv_frame.attrib.encrypt = ._AES_
  · cases valid : VALID_PN_CHK precv_frame.pkt_pn (psecuritypriv.curr_pn precv_frame.key_id) with
    | true => exact absurd ⟨ccmp, (recv_bcast_pn_decache_status ccmp).mpr valid⟩ notTaken
    | false => rw [recv_bcast_pn_decache_invalid ccmp valid]
  · rw [recv_bcast_pn_decache, if_neg (fun applies => ccmp applies.1)]

/-- The invariant: the accepted numbers increase up to the stored one. -/
def UpToStored (run : PnRun) : Prop :=
  ∀ key_id, IncreasingOnceNonzero (acceptedFor key_id run.accepted) ∧
    ∀ number ∈ acceptedFor key_id run.accepted,
      number ≤ run.psecuritypriv.curr_pn key_id

theorem IncreasingOnceNonzero.append {numbers : List Nat} {stored number : Nat}
    (increasing : IncreasingOnceNonzero numbers) (below : ∀ old ∈ numbers, old ≤ stored)
    (legal : LegalPn number stored) : IncreasingOnceNonzero (numbers ++ [number]) := by
  unfold IncreasingOnceNonzero at increasing ⊢
  rw [List.dropWhile_append]
  by_cases zeros : (numbers.dropWhile (fun number => number == 0)).isEmpty = true
  · rw [if_pos zeros]
    exact (List.pairwise_singleton _ number).sublist (List.dropWhile_sublist _)
  · rw [if_neg zeros, List.pairwise_append]
    refine ⟨increasing, List.pairwise_singleton _ _, ?_⟩
    intro earlier member later last
    rw [List.mem_singleton] at last
    have old := below earlier ((List.dropWhile_sublist _).subset member)
    rcases legal with blank | larger
    · -- a stored zero leaves only zeros in the list
      have allZero : ∀ entry ∈ numbers, (entry == 0) = true := by
        intro entry found
        have bound := below entry found
        rw [beq_iff_eq]
        omega
      rw [List.isEmpty_iff, List.dropWhile_eq_nil_iff] at zeros
      exact absurd allZero zeros
    · omega

theorem UpToStored.step {run : PnRun} (legally : DecidesLegally run precv_frame) (upTo : UpToStored run) :
    UpToStored (run.step precv_frame) := by
  by_cases taken : precv_frame.attrib.encrypt = ._AES_ ∧
      (recv_bcast_pn_decache run.psecuritypriv true precv_frame).1 = ._SUCCESS
  · intro key_id
    have legal := (legally taken.1).mp taken.2
    have stored := curr_pn_accepted taken.1 taken.2 key_id
    simp only [PnRun.step, if_pos taken, acceptedFor, List.filter_append, List.map_append]
    rw [stored]
    by_cases same : precv_frame.key_id = key_id
    · rw [if_pos same.symm]
      simp only [List.filter_cons, same, beq_self_eq_true, if_true, List.filter_nil, List.map_cons, List.map_nil]
      rw [same] at legal
      have old := upTo key_id
      refine ⟨old.1.append old.2 legal, ?_⟩
      intro number member
      rcases List.mem_append.mp member with earlier | last
      · have bound := old.2 number earlier
        rcases legal with blank | larger <;> omega
      · rw [List.mem_singleton.mp last]
    · have other : (precv_frame.key_id == key_id) = false := beq_eq_false_iff_ne.mpr same
      rw [if_neg (Ne.symm same)]
      simp only [List.filter_cons, other, Bool.false_eq_true, if_false, List.filter_nil, List.map_nil,
        List.append_nil]
      exact upTo key_id
  · simp only [UpToStored, PnRun.step, if_neg taken, recv_bcast_pn_decache_kept taken]
    exact upTo

/-- A run is protected against replays exactly when every packet number lies
within half the range of the number stored at its arrival. -/
theorem replayProtected_iff (psecuritypriv : SecurityPriv) (frames : List RecvFrame) :
    ReplayProtected psecuritypriv frames <->
      Run.Guarded PnRun.step ArrivesWithinHalfRange ⟨psecuritypriv, []⟩ frames := by
  have decisions := @Run.guarded_congr _ _ PnRun.step _ _ decidesLegally_iff ⟨psecuritypriv, []⟩ frames
  constructor
  · intro isProtected
    exact decisions.mp isProtected.1
  · intro within
    have legally := decisions.mpr within
    have upTo := @Run.Guarded.invariant _ _ _ _ UpToStored
      (fun _ _ decides old => UpToStored.step decides old) _ _ legally
      (fun _ => ⟨List.Pairwise.nil, fun _ member => nomatch member⟩)
    exact ⟨legally, fun key_id => (upTo key_id).1⟩

/-- A CCMP frame with an empty body behind a 24-byte header. -/
def RecvFrame.ofPn (index : Nat) (pn0 pn1 pn2 pn3 pn4 pn5 : UInt8) : RecvFrame where
  index := index
  attrib := { RxPktAttrib.zero with encrypt := ._AES_, hdrlen := 24 }
  rx_data := List.replicate 24 0 ++ [pn0, pn1, 0, 0x20, pn2, pn3, pn4, pn5]
  tailroom := 0

/-- A frame whose number is more than half the range behind the stored one is
accepted again. -/
theorem replay_accepted_behind_half_range :
    ¬ ReplayProtected ⟨fun _ => 0⟩ [.ofPn 0 5 0 0 0 0 0x80, .ofPn 1 3 0 0 0 0 0] := by
  intro isProtected
  have increasing := isProtected.2 0
  revert increasing
  decide

end Rtl8821ce
