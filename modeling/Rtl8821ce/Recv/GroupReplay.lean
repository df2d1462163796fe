import Rtl8821ce.Recv.IntegrityGate
import Rtl8821ce.Recv.PacketNumber

/-!
# Replay counters and frames that are not authentic

A station takes the packet number of a group frame into `iv_seq` while it validates
the header, and decrypts the frame afterwards.  The counters stand at the numbers of
authentic frames only as long as no other frame passes the check of its number.
-/

namespace Rtl8821ce

namespace Decrypt

variable {precv_frame : RecvFrame} {network : CcmpStation} {arrived : GroupCcmpFrame}

/-- The answer of `validate_recv_data_frame` for a protected frame. -/
structure ProtectedValidated where
  status : RecvStatus
  precv_frame : RecvFrame
  pstapriv : StaPriv
  psecuritypriv : SecurityPriv

/-- The frame as `recv_bcast_pn_decache` sees it: its cipher is still the one of the
descriptor. -/
def descriptor_frame (precv_frame validated : RecvFrame) : RecvFrame :=
  { validated with attrib := { validated.attrib with encrypt := precv_frame.attrib.encrypt } }

/-- The cipher of a protected frame and the lengths that belong to it. -/
def set_encry_algo (encry_algo : Algorithm) (precv_frame : RecvFrame) : RecvFrame :=
  if precv_frame.attrib.privacy then
    { precv_frame with
      attrib :=
        { precv_frame.attrib with
          encrypt := encry_algo
          iv_len := encry_algo.iv_len
          icv_len := encry_algo.icv_len } }
  else precv_frame

/-- `validate_recv_data_frame` with the check of group packet numbers.  `encry_algo` is
what `GET_ENCRY_ALGO` gives for the frame. -/
def validate_protected_data_frame (pmlmepriv : MlmePriv) (encry_algo : Algorithm)
    (pstapriv : StaPriv) (psecuritypriv : SecurityPriv) (precv_frame : RecvFrame) : ProtectedValidated :=
  let validated := validate_recv_data_frame pmlmepriv pstapriv precv_frame
  match validated.status with
  | ._SUCCESS =>
      let checked :=
        if IS_MCAST validated.precv_frame.attrib.ra then
          recv_bcast_pn_decache psecuritypriv pmlmepriv.station_state
            (descriptor_frame precv_frame validated.precv_frame)
        else (._SUCCESS, psecuritypriv)
      { status := checked.1
        precv_frame :=
          if checked.1 = ._SUCCESS then set_encry_algo encry_algo validated.precv_frame
          else validated.precv_frame
        pstapriv := validated.pstapriv
        psecuritypriv := checked.2 }
  | status =>
      { status := status
        precv_frame := validated.precv_frame
        pstapriv := validated.pstapriv
        psecuritypriv := psecuritypriv }

/-! ## Runs of a station -/

/-- A station of a network whose group cipher is CCMP. -/
structure CcmpStation where
  pmlmepriv : MlmePriv
  station : pmlmepriv.station_state = true
  CONFIG_IEEE80211W : Bool
  aes128k128d : List UInt8 -> Block -> Block
  dot118021x_UncstKey : Fin NUM_STA -> List UInt8

/-- A received group frame that is encrypted with CCMP, and the memory behind it. -/
structure GroupCcmpFrame where
  precv_frame : RecvFrame
  behind : Nat -> UInt8
  group : IS_MCAST (GetAddr1Ptr precv_frame.rx_data) = true
  privacy : precv_frame.attrib.privacy = true
  ccmp : precv_frame.attrib.encrypt = ._AES_

/-- The stations, counters, keys and static memory between two frames, and the numbers
of the frames that were decrypted, oldest first. -/
structure GroupRun where
  pstapriv : StaPriv
  psecuritypriv : SecurityPriv
  keys : RxSecurity
  message : Nat -> UInt8
  authentic : List (Fin 4 × BitVec 64)

def GroupRun.env (network : CcmpStation) (run : GroupRun) (arrived : GroupCcmpFrame) : DecryptEnv where
  CONFIG_IEEE80211W := network.CONFIG_IEEE80211W
  aes128k128d := network.aes128k128d
  dot118021x_UncstKey := fun ta =>
    (rtw_get_stainfo run.pstapriv ta).map network.dot118021x_UncstKey
  behind := arrived.behind

def GroupRun.validated (network : CcmpStation) (run : GroupRun) (arrived : GroupCcmpFrame) : ProtectedValidated :=
  validate_protected_data_frame network.pmlmepriv ._AES_ run.pstapriv run.psecuritypriv
    arrived.precv_frame

/-- The answer of `decryptor` for a frame that passed the checks. -/
def GroupRun.decrypted (network : CcmpStation) (run : GroupRun) (arrived : GroupCcmpFrame) :
    Option DecryptorOutcome :=
  let validated := run.validated network arrived
  decryptor ({ run with pstapriv := validated.pstapriv }.env network arrived) run.keys run.message
    validated.precv_frame

def GroupRun.step (network : CcmpStation) (run : GroupRun) (arrived : GroupCcmpFrame) : GroupRun :=
  let validated := run.validated network arrived
  let checked :=
    { run with pstapriv := validated.pstapriv, psecuritypriv := validated.psecuritypriv }
  if validated.status = ._SUCCESS then
    match run.decrypted network arrived with
    | none => checked
    | some outcome =>
        { checked with
          keys := outcome.psecuritypriv
          message := outcome.message
          authentic :=
            if outcome.return_packet.isSome then
              run.authentic ++ [(validated.precv_frame.key_id,
                CCMPH_2_PN validated.precv_frame.tmp_iv_hdr)]
            else run.authentic }
  else checked

/-- The frame passes the checks, and then its decryption fails. -/
def FailsDecryption (network : CcmpStation) (run : GroupRun) (arrived : GroupCcmpFrame) : Prop :=
  (run.validated network arrived).status = ._SUCCESS ∧
    ∀ outcome : DecryptorOutcome, run.decrypted network arrived = some outcome ->
      outcome.return_packet = none

def authentic_counters (start : SecurityPriv) (authentic : List (Fin 4 × BitVec 64)) : SecurityPriv :=
  authentic.foldl (fun psecuritypriv entry => psecuritypriv.set_iv_seq entry.1 entry.2) start

theorem validated_ra {pmlmepriv : MlmePriv} {pstapriv : StaPriv}
    (success : (validate_recv_data_frame pmlmepriv pstapriv precv_frame).status = ._SUCCESS) :
    (validate_recv_data_frame pmlmepriv pstapriv precv_frame).precv_frame.attrib.ra =
      GetAddr1Ptr precv_frame.rx_data := by
  rcases validate_recv_data_frame_success success with ⟨⟨preorder_ctrl, validated⟩, supported⟩
  rw [validated]
  unfold data_frame_lengths data_frame_addresses
  dsimp only
  split
  · rfl
  · split
    · rfl
    · split
      · rfl
      · omega

theorem data_frame_attrib_kept (ptr : List UInt8) (pattrib : RxPktAttrib) :
    (data_frame_lengths ptr (data_frame_addresses ptr pattrib)).privacy = pattrib.privacy ∧
      (data_frame_lengths ptr (data_frame_addresses ptr pattrib)).bdecrypted =
        pattrib.bdecrypted ∧
      24 ≤ (data_frame_lengths ptr (data_frame_addresses ptr pattrib)).hdrlen := by
  rcases data_frame_addresses_eq ptr pattrib with ⟨dst, src, ta, ra, bssid, addressed⟩
  rw [addressed]
  refine ⟨rfl, rfl, ?_⟩
  unfold data_frame_lengths
  dsimp only
  split
  · omega
  · omega

def GroupRun.seen (network : CcmpStation) (run : GroupRun) (arrived : GroupCcmpFrame) : RecvFrame :=
  descriptor_frame arrived.precv_frame
    (validate_recv_data_frame network.pmlmepriv run.pstapriv arrived.precv_frame).precv_frame

/-- The first checks pass, and so does the check of the number. -/
def GroupRun.PassesChecks (network : CcmpStation) (run : GroupRun) (arrived : GroupCcmpFrame) : Prop :=
  (validate_recv_data_frame network.pmlmepriv run.pstapriv arrived.precv_frame).status = ._SUCCESS ∧
    VALID_PN_CHK (run.seen network arrived).pkt_pn
      (run.psecuritypriv.curr_pn (run.seen network arrived).key_id) = true

theorem validated_cases (network : CcmpStation) (run : GroupRun) (arrived : GroupCcmpFrame) :
    (run.PassesChecks network arrived ∧
      (run.validated network arrived).status = ._SUCCESS ∧
      (run.validated network arrived).psecuritypriv =
        run.psecuritypriv.set_iv_seq (run.seen network arrived).key_id
          (CCMPH_2_PN (run.seen network arrived).tmp_iv_hdr) ∧
      (run.validated network arrived).precv_frame = set_encry_algo ._AES_
        (validate_recv_data_frame network.pmlmepriv run.pstapriv
          arrived.precv_frame).precv_frame) ∨
    (¬ run.PassesChecks network arrived ∧
      (run.validated network arrived).status ≠ ._SUCCESS ∧
      (run.validated network arrived).psecuritypriv = run.psecuritypriv) := by
  let first := validate_recv_data_frame network.pmlmepriv run.pstapriv arrived.precv_frame
  cases status : first.status with
  | _SUCCESS =>
    have group : IS_MCAST first.precv_frame.attrib.ra = true := by
      rw [validated_ra status]
      exact arrived.group
    have ccmp : (run.seen network arrived).attrib.encrypt = ._AES_ := arrived.ccmp
    have unfolded : run.validated network arrived =
        { status := (recv_bcast_pn_decache run.psecuritypriv true (run.seen network arrived)).1
          precv_frame :=
            if (recv_bcast_pn_decache run.psecuritypriv true (run.seen network arrived)).1 =
              ._SUCCESS then set_encry_algo ._AES_ first.precv_frame else first.precv_frame
          pstapriv := first.pstapriv
          psecuritypriv :=
            (recv_bcast_pn_decache run.psecuritypriv true (run.seen network arrived)).2 } := by
      unfold GroupRun.validated validate_protected_data_frame
      dsimp only
      rw [status]
      dsimp only
      rw [if_pos group, network.station]
      rfl
    rw [unfolded]
    dsimp only
    cases valid : VALID_PN_CHK (run.seen network arrived).pkt_pn
        (run.psecuritypriv.curr_pn (run.seen network arrived).key_id) with
    | true =>
      left
      rw [recv_bcast_pn_decache_valid ccmp valid]
      exact ⟨⟨status, valid⟩, rfl, rfl, if_pos rfl⟩
    | false =>
      right
      rw [recv_bcast_pn_decache_invalid ccmp valid]
      refine ⟨fun passes => ?_, nofun, rfl⟩
      exact absurd (passes.2.symm.trans valid) (by decide)
  | _FAIL =>
    right
    have unfolded : (run.validated network arrived).status = ._FAIL ∧
        (run.validated network arrived).psecuritypriv = run.psecuritypriv := by
      unfold GroupRun.validated validate_protected_data_frame
      dsimp only
      rw [status]
      exact ⟨rfl, rfl⟩
    refine ⟨fun passes => ?_, ?_, unfolded.2⟩
    · exact nomatch status.symm.trans passes.1
    · rw [unfolded.1]
      exact nofun
  | RTW_RX_HANDLED =>
    right
    have unfolded : (run.validated network arrived).status = .RTW_RX_HANDLED ∧
        (run.validated network arrived).psecuritypriv = run.psecuritypriv := by
      unfold GroupRun.validated validate_protected_data_frame
      dsimp only
      rw [status]
      exact ⟨rfl, rfl⟩
    refine ⟨fun passes => ?_, ?_, unfolded.2⟩
    · exact nomatch status.symm.trans passes.1
    · rw [unfolded.1]
      exact nofun

/-- The key of the frame is there, the frame has a MIC and fits into the static buffer, and
its MIC is the CBC-MAC of its unmasked payload. -/
def Authentic (env : DecryptEnv) (keys : RxSecurity) (precv_frame : RecvFrame) : Prop :=
  let pframe := frame_memory precv_frame env.behind
  let hdrlen := precv_frame.attrib.hdrlen
  let plen := body_len precv_frame - 8
  ∃ prwskey : List UInt8,
    aes_prwskey env keys precv_frame.attrib = some prwskey ∧
    payload_index precv_frame.attrib ≤ precv_frame.len ∧ 8 ≤ body_len precv_frame ∧
    (ccmp_header pframe hdrlen).hdrlen + body_len precv_frame + 8 ≤ MAX_MSG_SIZE ∧
    carried_mic env.CONFIG_IEEE80211W env.aes128k128d prwskey hdrlen pframe plen =
      computed_mic env.CONFIG_IEEE80211W env.aes128k128d prwskey hdrlen
        (Rtl8821ce.decrypted env.CONFIG_IEEE80211W env.aes128k128d prwskey hdrlen pframe plen) plen

theorem authentic_returned {env : DecryptEnv} {keys : RxSecurity} {message : Nat -> UInt8} (isProtected : Protected precv_frame.attrib)
    (aes : precv_frame.attrib.encrypt = ._AES_) (authentic : Authentic env keys (set_key_index env precv_frame)) :
    ∃ outcome : DecryptorOutcome,
      decryptor env keys message precv_frame = some outcome ∧
      outcome.return_packet.isSome = true := by
  rcases authentic with ⟨prwskey, key, whole, hasMic, fits, matching⟩
  let frame := set_key_index env precv_frame
  let pframe := frame_memory frame env.behind
  have hdrlenGe : 24 ≤ frame.attrib.hdrlen := isProtected.hdrlen_ge
  have fitsPayload : (ccmp_header pframe frame.attrib.hdrlen).hdrlen + (body_len frame - 8) + 16 ≤
      MAX_MSG_SIZE := by
    replace fits : (ccmp_header pframe frame.attrib.hdrlen).hdrlen + body_len frame + 8 ≤
      MAX_MSG_SIZE := fits
    replace hasMic : 8 ≤ body_len frame := hasMic
    omega
  have accepted : ∃ after : Deciphered,
      aes_decipher env.CONFIG_IEEE80211W env.aes128k128d prwskey frame.attrib.hdrlen message pframe
        (body_len frame) = some after ∧ after.res = ._SUCCESS := by
    rcases @aes_decipher_eq env.CONFIG_IEEE80211W env.aes128k128d prwskey
      frame.attrib.hdrlen (body_len frame - 8) hdrlenGe message pframe fitsPayload with ⟨left, run⟩
    have success := (aes_decipher_success_iff hdrlenGe message pframe fitsPayload run).mpr matching
    rw [Nat.sub_add_cancel hasMic] at run
    exact ⟨_, run, success⟩
  rcases accepted with ⟨after, run, success⟩
  have decrypted : ∀ flag : Bool,
      sw_decrypt env { keys with hw_decrypted := flag } message frame = some after := by
    intro flag
    have cipher : frame.attrib.encrypt = ._AES_ := aes
    have sameKey : aes_prwskey env { keys with hw_decrypted := flag } frame.attrib =
        some prwskey := key
    unfold sw_decrypt
    dsimp only
    rw [cipher]
    unfold rtw_aes_decrypt
    dsimp only
    rw [sameKey]
    dsimp only
    rw [if_neg (Nat.not_lt.mpr whole)]
    exact run
  have passed : after.res ≠ ._FAIL := by
    rw [success]
    exact nofun
  rcases decryptor_passes isProtected decrypted passed with ⟨outcome, isRun, returned⟩
  refine ⟨outcome, isRun, ?_⟩
  rw [returned]
  rfl

/-- The condition on a frame that arrives: unless its decryption is left to the hardware, it
is authentic when its number passes the check and is not the one that is stored. -/
def ArrivesAuthentic (network : CcmpStation) (run : GroupRun) (arrived : GroupCcmpFrame) : Prop :=
  let validated := validate_recv_data_frame network.pmlmepriv run.pstapriv arrived.precv_frame
  let env := { run with pstapriv := validated.pstapriv }.env network arrived
  run.PassesChecks network arrived ->
  run.psecuritypriv.iv_seq (run.seen network arrived).key_id ≠
    CCMPH_2_PN (run.seen network arrived).tmp_iv_hdr ->
  arrived.precv_frame.attrib.bdecrypted = false ->
  Authentic env run.keys (set_key_index env (set_encry_algo ._AES_ validated.precv_frame))

theorem set_iv_seq_same {psecuritypriv : SecurityPriv} {key_id : Fin 4} {value : BitVec 64}
    (same : psecuritypriv.iv_seq key_id = value) : psecuritypriv.set_iv_seq key_id value = psecuritypriv := by
  have sameNumbers : (psecuritypriv.set_iv_seq key_id value).iv_seq = psecuritypriv.iv_seq := by
    funext id
    show (if id = key_id then value else psecuritypriv.iv_seq id) = psecuritypriv.iv_seq id
    split
    case isTrue isKey => rw [isKey, same]
    case isFalse other => rfl
  exact congrArg SecurityPriv.mk sameNumbers

theorem tmp_iv_hdr_set_encry_algo (encry_algo : Algorithm) (precv_frame : RecvFrame) :
    (set_encry_algo encry_algo precv_frame).tmp_iv_hdr = precv_frame.tmp_iv_hdr := by
  unfold set_encry_algo
  split
  case isTrue privacy => rfl
  case isFalse plain => rfl

theorem validated_attrib {run : GroupRun} (passes : run.PassesChecks network arrived) :
    let validated := set_encry_algo ._AES_
      (validate_recv_data_frame network.pmlmepriv run.pstapriv arrived.precv_frame).precv_frame
    validated.attrib.encrypt = ._AES_ ∧ validated.attrib.iv_len = 8 ∧
      validated.attrib.bdecrypted = arrived.precv_frame.attrib.bdecrypted ∧
      24 ≤ validated.attrib.hdrlen := by
  rcases validate_recv_data_frame_success passes.1 with ⟨⟨preorder_ctrl, validated⟩, -⟩
  rcases data_frame_attrib_kept arrived.precv_frame.rx_data arrived.precv_frame.attrib
    with ⟨privacy, bdecrypted, hdrlen⟩
  unfold set_encry_algo
  rw [validated, if_pos (privacy.trans arrived.privacy)]
  exact ⟨rfl, rfl, bdecrypted, hdrlen⟩

/-- A frame that meets the condition and passes the checks is returned, or its number is the
one that is stored. -/
theorem returned_or_stored {run : GroupRun} (authentic : ArrivesAuthentic network run arrived)
    (passes : run.PassesChecks network arrived) :
    (∃ outcome : DecryptorOutcome,
      run.decrypted network arrived = some outcome ∧ outcome.return_packet.isSome = true) ∨
    run.psecuritypriv.iv_seq (run.seen network arrived).key_id =
      CCMPH_2_PN (run.seen network arrived).tmp_iv_hdr := by
  by_cases stored : run.psecuritypriv.iv_seq (run.seen network arrived).key_id =
      CCMPH_2_PN (run.seen network arrived).tmp_iv_hdr
  · exact Or.inr stored
  · left
    rcases validated_attrib passes with ⟨encrypt, iv_len, bdecrypted, hdrlen⟩
    rcases validated_cases network run arrived with
      ⟨-, status, -, isFrame⟩ | ⟨refused, -, -⟩
    · have stations : (run.validated network arrived).pstapriv =
          (validate_recv_data_frame network.pmlmepriv run.pstapriv
            arrived.precv_frame).pstapriv := by
        unfold GroupRun.validated validate_protected_data_frame
        dsimp only
        rw [passes.1]
      unfold GroupRun.decrypted
      dsimp only
      rw [isFrame, stations]
      cases software : arrived.precv_frame.attrib.bdecrypted with
      | false =>
        refine authentic_returned ⟨?_, ?_, hdrlen, ?_⟩ encrypt (authentic passes stored software)
        · rw [encrypt]
          exact nofun
        · exact bdecrypted.trans software
        · rw [encrypt, iv_len]
          rfl
      | true =>
        have encrypted : (set_encry_algo ._AES_ (validate_recv_data_frame network.pmlmepriv
            run.pstapriv arrived.precv_frame).precv_frame).attrib.encrypt ≠ ._NO_PRIVACY_ := by
          rw [encrypt]
          exact nofun
        unfold decryptor
        rw [if_neg encrypted]
        exact ⟨_, if_pos (bdecrypted.trans software), rfl⟩
    · exact absurd passes refused

theorem step_psecuritypriv (network : CcmpStation) (run : GroupRun) (arrived : GroupCcmpFrame) :
    (run.step network arrived).psecuritypriv = (run.validated network arrived).psecuritypriv := by
  unfold GroupRun.step
  dsimp only
  split
  · split
    · rfl
    · rfl
  · rfl

theorem step_authentic_list (network : CcmpStation) (run : GroupRun) (arrived : GroupCcmpFrame) :
    ((run.validated network arrived).status = ._SUCCESS ∧
        (∃ outcome : DecryptorOutcome,
          run.decrypted network arrived = some outcome ∧ outcome.return_packet.isSome = true) ∧
        (run.step network arrived).authentic = run.authentic ++
          [((run.validated network arrived).precv_frame.key_id,
            CCMPH_2_PN (run.validated network arrived).precv_frame.tmp_iv_hdr)]) ∨
      (((run.validated network arrived).status = ._SUCCESS -> FailsDecryption network run arrived) ∧
        (run.step network arrived).authentic = run.authentic) := by
  unfold GroupRun.step
  dsimp only
  split
  case isTrue success =>
    cases decrypted : run.decrypted network arrived with
    | none =>
      right
      refine ⟨fun _ => ⟨success, fun outcome some => ?_⟩, rfl⟩
      exact nomatch decrypted.symm.trans some
    | some outcome =>
      dsimp only
      cases returned : outcome.return_packet with
      | none =>
        right
        refine ⟨fun _ => ⟨success, fun other same => ?_⟩, if_neg Bool.false_ne_true⟩
        rw [← Option.some.inj (decrypted.symm.trans same)]
        exact returned
      | some frame =>
        left
        exact ⟨success, ⟨outcome, rfl, by rw [returned]; rfl⟩, if_pos rfl⟩
  case isFalse refused =>
    right
    exact ⟨fun success => absurd success refused, rfl⟩

/-- A step under the condition: a frame whose decryption fails leaves the counters, and a
frame that is decrypted stores its number. -/
theorem step_authentic {run : GroupRun} (authentic : ArrivesAuthentic network run arrived) :
    (FailsDecryption network run arrived ->
      (run.step network arrived).psecuritypriv = run.psecuritypriv) ∧
    Exists fun added : List (Fin 4 × BitVec 64) =>
      (run.step network arrived).authentic = run.authentic ++ added ∧
      (run.step network arrived).psecuritypriv =
        authentic_counters run.psecuritypriv added := by
  rw [step_psecuritypriv]
  rcases validated_cases network run arrived with
    ⟨passes, status, counters, isFrame⟩ | ⟨refused, status, counters⟩
  · have kept : FailsDecryption network run arrived ->
        (run.validated network arrived).psecuritypriv = run.psecuritypriv := by
      intro fails
      rcases returned_or_stored authentic passes with ⟨outcome, decrypted, returned⟩ | stored
      · rw [fails.2 outcome decrypted] at returned
        exact nomatch returned
      · rw [counters, set_iv_seq_same stored]
    refine ⟨kept, ?_⟩
    have sameHeader : (run.validated network arrived).precv_frame.tmp_iv_hdr =
        (run.seen network arrived).tmp_iv_hdr := by
      rw [isFrame, tmp_iv_hdr_set_encry_algo]
      rfl
    have sameKey : (run.validated network arrived).precv_frame.key_id =
        (run.seen network arrived).key_id := congrArg CCMPH_2_KEYID sameHeader
    rcases step_authentic_list network run arrived with ⟨-, -, added⟩ | ⟨fails, same⟩
    · refine ⟨_, added, ?_⟩
      rw [counters, sameHeader, sameKey]
      rfl
    · refine ⟨[], ?_, kept (fails status)⟩
      rw [same, List.append_nil]
  · refine ⟨fun fails => absurd fails.1 status, [], ?_, counters⟩
    rcases step_authentic_list network run arrived with ⟨success, -⟩ | ⟨-, same⟩
    · exact absurd success status
    · rw [same, List.append_nil]

theorem run_authentic {start : GroupRun} {frames : List GroupCcmpFrame}
    (authentic : Run.Guarded (GroupRun.step network) (ArrivesAuthentic network) start frames) :
    Exists fun added : List (Fin 4 × BitVec 64) =>
      (Run.execute (GroupRun.step network) start frames).authentic = start.authentic ++ added ∧
      (Run.execute (GroupRun.step network) start frames).psecuritypriv =
        authentic_counters start.psecuritypriv added := by
  apply @Run.Guarded.invariant _ _ (GroupRun.step network) (ArrivesAuthentic network)
    (fun run => Exists fun added : List (Fin 4 × BitVec 64) =>
      run.authentic = start.authentic ++ added ∧
      run.psecuritypriv = authentic_counters start.psecuritypriv added)
  · rintro run arrived arrives ⟨before, isBefore, counters⟩
    rcases step_authentic arrives with ⟨-, added, isAdded, after⟩
    refine ⟨before ++ added, ?_, ?_⟩
    · rw [isAdded, isBefore, List.append_assoc]
    · rw [after, counters, authentic_counters, authentic_counters, authentic_counters, List.foldl_append]
  · exact authentic
  · exact ⟨[], (List.append_nil _).symm, rfl⟩

theorem recv_bcast_pn_decache_ahead {psecuritypriv : SecurityPriv} (ccmp : precv_frame.attrib.encrypt = ._AES_)
    (larger : psecuritypriv.curr_pn precv_frame.key_id < precv_frame.pkt_pn)
    (near : precv_frame.pkt_pn - psecuritypriv.curr_pn precv_frame.key_id ≤ 2 ^ 47) :
    (recv_bcast_pn_decache psecuritypriv true precv_frame).1 = ._SUCCESS :=
  (recv_bcast_pn_decache_status ccmp).mpr
    ((VALID_PN_CHK_iff (pkt_pn_lt precv_frame) (curr_pn_lt psecuritypriv _)).mpr
      (Or.inr (Or.inl ⟨larger, near⟩)))

/-- In a run in which only authentic frames pass the check of their number, a frame whose
decryption fails leaves `iv_seq` as it was, and the counters of every state reached are those
of the decrypted frames alone: a later frame whose number is larger than theirs passes. -/
theorem group_counters_authentic (network : CcmpStation) (start : GroupRun) (frames : List GroupCcmpFrame)
    (authentic : Run.Guarded (GroupRun.step network) (ArrivesAuthentic network) start frames) :
    Run.Guarded (GroupRun.step network)
        (fun run arrived => FailsDecryption network run arrived ->
          (run.step network arrived).psecuritypriv.iv_seq = run.psecuritypriv.iv_seq)
        start frames ∧
      Exists fun added : List (Fin 4 × BitVec 64) =>
        (Run.execute (GroupRun.step network) start frames).authentic = start.authentic ++ added ∧
        (Run.execute (GroupRun.step network) start frames).psecuritypriv =
          authentic_counters start.psecuritypriv added ∧
        ∀ later : RecvFrame, later.attrib.encrypt = ._AES_ ->
          (authentic_counters start.psecuritypriv added).curr_pn later.key_id < later.pkt_pn ->
          later.pkt_pn - (authentic_counters start.psecuritypriv added).curr_pn later.key_id ≤
            2 ^ 47 ->
          (recv_bcast_pn_decache
            (Run.execute (GroupRun.step network) start frames).psecuritypriv true later).1 =
              ._SUCCESS := by
  refine ⟨?_, ?_⟩
  · refine @Run.Guarded.of_invariant _ _ (GroupRun.step network) (ArrivesAuthentic network) _
      (fun _ => True) (fun _ _ _ _ => trivial) ?_ start frames authentic trivial
    intro run arrived arrives _ fails
    rw [(step_authentic arrives).1 fails]
  · rcases run_authentic authentic with ⟨added, isAdded, counters⟩
    refine ⟨added, isAdded, counters, ?_⟩
    intro later ccmp larger near
    rw [counters]
    exact recv_bcast_pn_decache_ahead ccmp larger near

/-- A block cipher for small examples, which adds the first byte of the key. -/
def adding_cipher (key : List UInt8) (block : Block) : Block :=
  block.map (fun byte => byte + key.headD 0)

def test_station : CcmpStation where
  pmlmepriv :=
    { adhoc_state := false
      station_state := true
      ap_state := false
      fw_linked := true
      bssid := test_addr 1
      adapter_mac_addr := test_addr 2
      dot11AuthAlgrthm_8021X := true }
  station := rfl
  CONFIG_IEEE80211W := false
  aes128k128d := adding_cipher
  dot118021x_UncstKey := fun _ => []

/-- The group key 1 is installed, and the last authentic frame had the number 4. -/
def test_group_run : GroupRun where
  pstapriv := rtw_alloc_stainfo _rtw_init_sta_priv (test_addr 1)
  psecuritypriv := ⟨fun _ => 4⟩
  keys :=
    { dot11DefKey := fun _ => []
      binstallGrpkey := true
      dot118021XGrpKeyid := 1
      dot118021XGrpKey := fun _ => List.replicate 16 7
      busetkipkey := true
      hw_decrypted := false }
  message := fun _ => 0
  authentic := []

/-- Header, IV and payload of a broadcast frame of the access point. -/
def test_group_bytes (pn0 : UInt8) : List UInt8 :=
  ([0x08, 0x42, 0, 0, 0xff, 0xff, 0xff, 0xff, 0xff, 0xff] : List UInt8) ++ (test_addr 1).bytes ++
    (test_addr 3).bytes ++ [0, 0] ++ [pn0, 0, 0, 0x60, 0, 0, 0, 0] ++ List.replicate 8 0x45

def test_group_attrib (seq_num : Fin 4096) : RxPktAttrib :=
  { RxPktAttrib.zero with to_fr_ds := 1, seq_num := seq_num, privacy := true, encrypt := ._AES_ }

def forged_frame : GroupCcmpFrame where
  precv_frame :=
    { index := 0
      attrib := test_group_attrib 1
      rx_data := test_group_bytes 100 ++ List.replicate 8 0
      tailroom := 0 }
  behind := fun _ => 0
  group := by decide +kernel
  privacy := rfl
  ccmp := rfl

/-- The next frame as the access point seals it, with the number 5. -/
def sealed_frame : GroupCcmpFrame where
  precv_frame :=
    { index := 1
      attrib := test_group_attrib 2
      rx_data := Memory.read (aes_cipher false adding_cipher (List.replicate 16 7) 24
        (fun i => (test_group_bytes 5).getD i 0) 8) 0 48
      tailroom := 0 }
  behind := fun _ => 0
  group := by decide +kernel
  privacy := rfl
  ccmp := rfl

theorem sealed_frame_authentic : ArrivesAuthentic test_station test_group_run sealed_frame :=
  fun _ _ _ => ⟨List.replicate 16 7, by decide +kernel, by decide +kernel, by decide +kernel,
    by decide +kernel, by decide +kernel⟩

theorem group_counters_authentic_sealed :
    Run.Guarded (GroupRun.step test_station) (ArrivesAuthentic test_station) test_group_run
        [sealed_frame] ∧
      Exists fun added : List (Fin 4 × BitVec 64) =>
        (Run.execute (GroupRun.step test_station) test_group_run [sealed_frame]).authentic =
          test_group_run.authentic ++ added ∧
        (Run.execute (GroupRun.step test_station) test_group_run [sealed_frame]).psecuritypriv =
          authentic_counters test_group_run.psecuritypriv added := by
  have authentic : Run.Guarded (GroupRun.step test_station) (ArrivesAuthentic test_station)
      test_group_run [sealed_frame] := ⟨sealed_frame_authentic, trivial⟩
  rcases (group_counters_authentic test_station test_group_run [sealed_frame] authentic).2
    with ⟨added, isAdded, counters, -⟩
  exact ⟨authentic, added, isAdded, counters⟩

/-- A forged frame moves the counter, and the next frame of the access point is dropped. -/
theorem forged_frame_moves_counter :
    FailsDecryption test_station test_group_run forged_frame ∧
      (test_group_run.step test_station forged_frame).psecuritypriv.iv_seq 1 ≠
        test_group_run.psecuritypriv.iv_seq 1 ∧
      (test_group_run.step test_station sealed_frame).authentic = [(1, 5)] ∧
      ((test_group_run.step test_station forged_frame).step test_station
        sealed_frame).authentic = [] := by
  have refused : (test_group_run.decrypted test_station forged_frame).all
      (fun outcome => outcome.return_packet.isNone) = true := by decide +kernel
  refine ⟨⟨by decide +kernel, ?_⟩, by decide +kernel, by decide +kernel, by decide +kernel⟩
  intro outcome decrypted
  rw [decrypted] at refused
  exact Option.isNone_iff_eq_none.mp refused

end Decrypt

end Rtl8821ce
