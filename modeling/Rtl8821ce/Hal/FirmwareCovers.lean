import Rtl8821ce.Hal.FirmwareDownload
import Rtl8821ce.Library.Triple

/-!
# What a download of the firmware transfers

A section of the image is delivered when the transfers take its bytes one after the other, in
pieces that the configured size bounds.  Every download ends; one with packets that are not
empty delivers the sections that the driver's sums of 32 bits describe.
-/

namespace Rtl8821ce

namespace Firmware

open Program (ErrorsIn Triple errorsIn_get errorsIn_ite errorsIn_pure errorsIn_update triple_exists
  triple_get triple_ite triple_of_fact triple_pure triple_update)

/-- The transfers put the bytes from `start` on, up to `stop`, to `dest` and what follows.  The
first of them starts the checksum if `restart` says so, the others go on with it. -/
inductive Delivers (fw_bin : ByteMap) (limit : Nat) (page : UInt16) (src : UInt32) :
    Nat -> Nat -> UInt32 -> Bool -> List Transfer -> Prop
  | done (start : Nat) (dest : UInt32) (restart : Bool) : Delivers fw_bin limit page src start start dest restart []
  | piece {start stop : Nat} {buf : List UInt8} {dest len : UInt32} {restart : Bool} {rest : List Transfer}
      (positive : 0 < len.toNat) (bounded : len.toNat ≤ limit)
      (taken : buf.take len.toNat = Memory.read fw_bin start len.toNat)
      (others : Delivers fw_bin limit page src (start + len.toNat) stop (dest + len) false rest) :
      Delivers fw_bin limit page src start stop dest restart ({ page, buf, src, dest, len, restart } :: rest)

/-- The number that the header has at `offset`. -/
def headerField (fw_bin : ByteMap) (offset : Nat) : Nat := le_to_cpu (Memory.read fw_bin offset 4)

def sectionAddr (fw_bin : ByteMap) (offset : Nat) : UInt32 := UInt32.ofNat (headerField fw_bin offset) &&& 0x7fffffff

/-- Every request is granted, and a register that is waited for gets its value in time. -/
def Platform.Succeeds (platform : Platform) : Prop :=
  (∀ steps step, platform.accepts steps step = true) ∧
    ∀ steps step cnt, 0 < cnt -> poll (platform.ready steps step) cnt = true

/-! ## Every download ends -/

private def Returned (code : DlfwRet) : Prop := code ≠ .ENDLESS

private theorem returned_readImage (fw_bin : ByteMap) (offset length : Nat) :
    ErrorsIn Returned (readImage fw_bin offset length) :=
  (errorsIn_update _ _).bind fun _ => errorsIn_pure _ _

private theorem returned_attempt (step : Step) (outcome : List (Step × Bool) -> Bool) {code : DlfwRet}
    (returned : code ≠ .ENDLESS) : ErrorsIn Returned (attempt step outcome code) :=
  (errorsIn_get _).bind fun _ => (errorsIn_update _ _).bind fun _ =>
    Program.errorsIn_require _ returned

private theorem returned_dl_rsvd_page (platform : Platform) (pg_addr : UInt16) (buf : List UInt8) :
    ErrorsIn Returned (dl_rsvd_page platform pg_addr buf) := by
  have filling : ErrorsIn Returned (fill_rsvd_page platform (pg_addr &&& 0xfff) buf) :=
    (errorsIn_update _ _).bind fun _ => (returned_attempt _ _ (by decide)).bind fun _ =>
      (errorsIn_update _ _).bind fun _ => returned_attempt _ _ (by decide)
  intro state code next failure
  unfold dl_rsvd_page at failure
  split at failure
  · cases failure
    exact fun same => nomatch same
  · split at failure
    · cases failure
      exact fun same => nomatch same
    · rw [Prod.mk.injEq] at failure
      exact filling state code _ (Prod.ext failure.1 rfl)

private theorem returned_send_fwpkt (platform : Platform) (fw_bin : ByteMap) (pg_addr : UInt16) (offset : Nat)
    (size : UInt32) : ErrorsIn Returned (send_fwpkt platform fw_bin pg_addr offset size) := by
  refine (errorsIn_get _).bind fun state => errorsIn_ite ?_ ?_
  · exact (returned_attempt _ _ (by decide)).bind fun _ => (returned_readImage _ _ _).bind fun _ =>
      returned_dl_rsvd_page _ _ _
  · exact (returned_readImage _ _ _).bind fun _ => returned_dl_rsvd_page _ _ _

private theorem returned_iddma_dlfw (platform : Platform) (src dest len : UInt32) (first : Bool) :
    ErrorsIn Returned (iddma_dlfw platform src dest len first) :=
  (returned_attempt _ _ (by decide)).bind fun _ => (errorsIn_update _ _).bind fun _ =>
    returned_attempt _ _ (by decide)

private theorem send_fwpkt_ne_ok {platform : Platform} {fw_bin : ByteMap} {pg_addr : UInt16} {offset : Nat}
    (state next : Download) : send_fwpkt platform fw_bin pg_addr offset 0 state ≠ (.ok ⟨⟩, next) := by
  intro success
  have never : ¬ (state.adapter.intf = .USB ∧ (0 + TX_DESC_SIZE_88XX) &&& (512 - 1) = 0) :=
    fun both => absurd both.2 (by decide)
  unfold send_fwpkt at success
  rw [Program.get_bind_eq_ok, if_neg never] at success
  exact nomatch congrArg Prod.fst success

private theorem returned_dlfw_pieces (platform : Platform) (fw_bin : ByteMap) (start : Nat) (src dest : UInt32)
    (turns : Nat) : ∀ (mem_offset residue_size : UInt32) (first_part : Bool), residue_size.toNat ≤ turns ->
      ErrorsIn Returned
        (dlfw_pieces platform fw_bin start src dest turns mem_offset residue_size first_part) := by
  induction turns with
  | zero =>
      intro mem_offset residue_size first_part enough
      have none_left : residue_size = 0 := UInt32.toNat_inj.mp (Nat.le_zero.mp enough)
      subst none_left
      exact errorsIn_pure _ _
  | succ turns goes_on =>
      intro mem_offset residue_size first_part enough
      refine errorsIn_ite (errorsIn_pure _ _) ((errorsIn_get _).bind fun state => ?_)
      generalize sized : (if residue_size ≥ state.adapter.dlfw_pkt_size then state.adapter.dlfw_pkt_size
        else residue_size) = pkt_size
      have fits : pkt_size ≤ residue_size := by
        rw [← sized]
        split <;> first | assumption | exact UInt32.le_refl _
      by_cases empty : pkt_size = 0
      · rw [empty]
        intro before code next failure
        rw [Program.bind_apply] at failure
        cases sent : send_fwpkt platform fw_bin (src >>> 7).toUInt16 (start + mem_offset.toNat) 0 before with
        | mk answer middle =>
            rw [sent] at failure
            cases answer with
            | ok value => exact absurd sent (send_fwpkt_ne_ok before middle)
            | error early =>
                cases failure
                exact returned_send_fwpkt _ _ _ _ _ _ _ _ sent
      · have less : (residue_size - pkt_size).toNat ≤ turns := by
          have positive : pkt_size.toNat ≠ 0 := fun zero => empty (UInt32.toNat_inj.mp zero)
          rw [UInt32.toNat_sub_of_le _ _ fits]
          omega
        exact (returned_send_fwpkt _ _ _ _ _).bind fun _ => (returned_iddma_dlfw _ _ _ _ _).bind fun _ =>
          goes_on _ _ _ less

private theorem returned_dlfw_to_mem (platform : Platform) (fw_bin : ByteMap) (start : Nat) (src dest size : UInt32) :
    ErrorsIn Returned (dlfw_to_mem platform fw_bin start src dest size) :=
  (returned_dlfw_pieces _ _ _ _ _ _ _ _ _ (Nat.le_refl _)).bind fun _ => (errorsIn_get _).bind fun _ =>
    (errorsIn_update _ _).bind fun _ => returned_attempt _ _ (by decide)

private theorem returned_readLe32 (fw_bin : ByteMap) (offset : Nat) : ErrorsIn Returned (readLe32 fw_bin offset) :=
  (returned_readImage _ _ _).bind fun _ => errorsIn_pure _ _

private theorem returned_readField (fw_bin : ByteMap) (offset length : Nat) :
    ErrorsIn Returned (readField fw_bin offset length) :=
  (returned_readImage _ _ _).bind fun _ => errorsIn_pure _ _

private theorem returned_readAddr (fw_bin : ByteMap) (offset : Nat) : ErrorsIn Returned (readAddr fw_bin offset) :=
  (returned_readLe32 _ _).bind fun _ => errorsIn_pure _ _

private theorem returned_dlfw_emem (platform : Platform) (fw_bin : ByteMap)
    (dl_addr dmem_size imem_size emem_size : UInt32) :
    ErrorsIn Returned (dlfw_emem platform fw_bin dl_addr dmem_size imem_size emem_size) :=
  errorsIn_ite (errorsIn_pure _ _) ((returned_readAddr _ _).bind fun _ => returned_dlfw_to_mem _ _ _ _ _ _)

private theorem returned_section_sizes (fw_bin : ByteMap) : ErrorsIn Returned (section_sizes fw_bin) :=
  (returned_readLe32 _ _).bind fun _ => (returned_readLe32 _ _).bind fun _ =>
    ErrorsIn.bind
      ((returned_readField _ _ _).bind fun _ =>
        errorsIn_ite (returned_readLe32 _ _) (errorsIn_pure _ _))
      fun _ => errorsIn_pure _ _

private theorem returned_update_fw_info (fw_bin : ByteMap) : ErrorsIn Returned (update_fw_info fw_bin) :=
  (returned_readField _ _ _).bind fun _ => (returned_readField _ _ _).bind fun _ =>
    (returned_readField _ _ _).bind fun _ => (returned_readField _ _ _).bind fun _ =>
    (returned_readField _ _ _).bind fun _ => (returned_readField _ _ _).bind fun _ =>
    (returned_readField _ _ _).bind fun _ => (returned_readField _ _ _).bind fun _ =>
    (returned_readField _ _ _).bind fun _ => errorsIn_update _ _

theorem start_dlfw_ends (platform : Platform) (fw_bin : ByteMap) (dl_addr : UInt32) (emem_only : Bool)
    (state : Download) : (start_dlfw platform fw_bin dl_addr emem_only state).1 ≠ .error .ENDLESS := by
  have returned : ErrorsIn Returned (start_dlfw platform fw_bin dl_addr emem_only) := by
    refine (returned_section_sizes _).bind fun ⟨dmem_size, imem_size, emem_size⟩ => errorsIn_ite ?_ ?_
    · exact returned_dlfw_emem _ _ _ _ _ _
    · exact (errorsIn_update _ _).bind fun _ => (returned_readAddr _ _).bind fun _ =>
        (returned_dlfw_to_mem _ _ _ _ _ _).bind fun _ => (returned_readAddr _ _).bind fun _ =>
        (returned_dlfw_to_mem _ _ _ _ _ _).bind fun _ => (returned_dlfw_emem _ _ _ _ _ _).bind fun _ =>
        returned_update_fw_info _
  intro endless
  exact returned state .ENDLESS _ (Prod.ext endless rfl) rfl

/-! ## What a download has done so far -/

/-- Where the reads of the image end, but not less than the header's size. -/
def reach (reads : List (Nat × Nat)) : Nat := reads.foldl (fun top access => max top (access.1 + access.2)) 64

theorem reach_append (reads : List (Nat × Nat)) (offset length : Nat) :
    reach (reads ++ [(offset, length)]) = max (reach reads) (offset + length) := by
  unfold reach
  rw [List.foldl_append, List.foldl_cons, List.foldl_nil]

private theorem foldl_reach_le_iff (reads : List (Nat × Nat)) (bound : Nat) : ∀ top,
    reads.foldl (fun top access => max top (access.1 + access.2)) top ≤ bound <->
      top ≤ bound ∧ ∀ access ∈ reads, access.1 + access.2 ≤ bound := by
  induction reads with
  | nil =>
      intro top
      exact ⟨fun below => ⟨below, fun _ mem => nomatch mem⟩, fun both => both.1⟩
  | cons access rest others =>
      intro top
      rw [List.foldl_cons, others, Nat.max_le, List.forall_mem_cons, and_assoc]

theorem reach_le_iff {reads : List (Nat × Nat)} {bound : Nat} (header : 64 ≤ bound) :
    reach reads ≤ bound <-> ∀ access ∈ reads, access.1 + access.2 ≤ bound :=
  (foldl_reach_le_iff reads bound 64).trans ⟨fun both => both.2, fun inside => ⟨header, inside⟩⟩

/-- The image has been read up to a place between `low` and `high`, and `made` are the
transfers. -/
structure Running (adapter : DlfwAdapter) (low high : Nat) (made : List Transfer) (state : Download) : Prop where
  pkt_size : state.adapter.dlfw_pkt_size = adapter.dlfw_pkt_size
  txdesc_size : state.adapter.txdesc_size = adapter.txdesc_size
  idle : state.adapter.rsvd_pg_state = .IDLE
  least : low ≤ reach state.reads
  most : reach state.reads ≤ high
  transfers : state.transfers = made

/-- The platform refused something, and nothing was read behind `bound`. -/
def Failed (platform : Platform) (bound : Nat) (state : Download) : Prop :=
  reach state.reads ≤ bound ∧ ¬ platform.Succeeds

def Download.rested (state : Download) : Download :=
  { state with adapter := { state.adapter with rsvd_pg_state := .IDLE } }

section

variable {platform : Platform} {fw_bin : ByteMap} {adapter : DlfwAdapter} {low high bound : Nat}
  {made : List Transfer}

theorem triple_attempt {step : Step} {outcome : List (Step × Bool) -> Bool} {code : DlfwRet}
    {pre : Download -> Prop} (granted : platform.Succeeds -> ∀ steps, outcome steps = true)
    (within : ∀ state, pre state -> reach state.reads ≤ bound)
    (unchanged : ∀ state steps, pre state -> pre { state with steps := steps }) :
    Triple pre (attempt step outcome code) (fun _ => pre) (Failed platform bound) := by
  intro state before
  have same : attempt step outcome code state =
      (Program.require (outcome state.steps) code : DlfwM Unit)
        { state with steps := state.steps ++ [(step, outcome state.steps)] } := rfl
  rw [same]
  cases answer : outcome state.steps with
  | true =>
      refine ⟨fun value next success => ?_, fun _ _ failure => nomatch congrArg Prod.fst failure⟩
      cases success
      exact unchanged state _ before
  | false =>
      refine ⟨fun _ _ success => (nomatch congrArg Prod.fst success), fun other next failure => ?_⟩
      cases failure
      refine ⟨within state before, fun succeeds => ?_⟩
      rw [granted succeeds] at answer
      cases answer

theorem Running.with_steps {state : Download} (running : Running adapter low high made state)
    (steps : List (Step × Bool)) : Running adapter low high made { state with steps := steps } :=
  ⟨running.pkt_size, running.txdesc_size, running.idle, running.least, running.most, running.transfers⟩

theorem triple_readImage {failed : Download -> Prop} (offset length : Nat) :
    Triple (Running adapter low high made) (readImage fw_bin offset length)
      (fun bytes state => bytes = Memory.read fw_bin offset length ∧
        Running adapter (max low (offset + length)) (max high (offset + length)) made state) failed := by
  have marked : Triple (Running adapter low high made)
      (Program.update (fun state => { state with reads := state.reads ++ [(offset, length)] }) : DlfwM PUnit)
      (fun _ => Running adapter (max low (offset + length)) (max high (offset + length)) made) failed := by
    refine triple_update fun state running => ?_
    have least := running.least
    have most := running.most
    refine ⟨running.pkt_size, running.txdesc_size, running.idle, ?_, ?_, running.transfers⟩
    · rw [reach_append]
      omega
    · rw [reach_append]
      omega
  exact marked.bind fun _ => triple_pure fun state running => ⟨rfl, running⟩

private theorem triple_fill_rsvd_page (pg_addr : UInt16) (buf : List UInt8) (below : high ≤ bound) :
    Triple (Running adapter low high made) (fill_rsvd_page platform pg_addr buf)
      (fun _ state => Running adapter low high made state.rested ∧ state.page = (pg_addr, buf))
      (Failed platform bound) := by
  have within : ∀ state : Download, Running adapter low high made state.rested -> reach state.reads ≤ bound :=
    fun state running => Nat.le_trans running.most below
  have started : Triple (Running adapter low high made)
      (Program.update (fun state =>
        { state with adapter := { state.adapter with rsvd_pg_state := .BUSY } }) : DlfwM PUnit)
      (fun _ state => Running adapter low high made state.rested) (Failed platform bound) :=
    triple_update fun state running =>
      ⟨running.pkt_size, running.txdesc_size, rfl, running.least, running.most, running.transfers⟩
  have placed : Triple (fun state => Running adapter low high made state.rested)
      (Program.update (fun state => { state with page := (pg_addr, buf) }) : DlfwM PUnit)
      (fun _ state => Running adapter low high made state.rested ∧ state.page = (pg_addr, buf))
      (Failed platform bound) :=
    triple_update fun state running =>
      ⟨⟨running.pkt_size, running.txdesc_size, rfl, running.least, running.most, running.transfers⟩, rfl⟩
  refine started.bind fun _ => Triple.bind ?_ fun _ => placed.bind fun _ => ?_
  · exact triple_attempt (fun succeeds steps => succeeds.1 steps _) within fun state steps running =>
      running.with_steps steps
  · exact triple_attempt (fun succeeds steps => succeeds.2 steps _ _ (by decide))
      (fun state both => within state both.1) fun state steps both => ⟨both.1.with_steps steps, both.2⟩

theorem triple_dl_rsvd_page (pg_addr : UInt16) {buf : List UInt8} (filled : buf.length ≠ 0) (below : high ≤ bound) :
    Triple (Running adapter low high made) (dl_rsvd_page platform pg_addr buf)
      (fun _ state => Running adapter low high made state ∧ state.page = (pg_addr &&& 0xfff, buf))
      (Failed platform bound) := by
  intro state running
  have free : state.adapter.rsvd_pg_state ≠ .BUSY := by
    rw [running.idle]
    exact fun same => nomatch same
  have ⟨succeeds, fails⟩ := @triple_fill_rsvd_page platform adapter low high bound made (pg_addr &&& 0xfff) buf below state
    running
  unfold dl_rsvd_page
  rw [if_neg filled, if_neg free]
  refine ⟨fun value next success => ?_, fun code next failure => ?_⟩
  · rw [Prod.mk.injEq] at success
    have filling := succeeds value _ (Prod.ext success.1 rfl)
    rw [← success.2]
    exact filling
  · rw [Prod.mk.injEq] at failure
    have refused := fails code _ (Prod.ext failure.1 rfl)
    rw [← failure.2]
    exact refused

theorem triple_send_fwpkt (pg_addr : UInt16) (offset : Nat) {size : UInt32} (positive : size ≠ 0)
    (below : max high (offset + size.toNat) ≤ bound) :
    Triple (Running adapter low high made) (send_fwpkt platform fw_bin pg_addr offset size)
      (fun _ state => ∃ buf : List UInt8,
        buf.take size.toNat = Memory.read fw_bin offset size.toNat ∧
        Running adapter (max low (offset + size.toNat)) (max high (offset + size.toNat)) made state ∧
        state.page = (pg_addr &&& 0xfff, buf))
      (Failed platform bound) := by
  have length : (Memory.read fw_bin offset size.toNat).length = size.toNat := Memory.length_read _ _ _
  have some_bytes : size.toNat ≠ 0 := fun zero => positive (UInt32.toNat_inj.mp zero)
  have got : Triple (Running adapter low high made) (Program.get : DlfwM Download)
      (fun _ => Running adapter low high made) (Failed platform bound) :=
    triple_get fun _ running => running
  refine got.bind fun state => triple_ite (fun _ => ?_) fun _ => ?_
  · have granted : Triple (Running adapter low high made)
        (attempt (.malloc (size + 1)) (fun steps => platform.accepts steps (.malloc (size + 1))) .MALLOC_FAIL)
        (fun _ => Running adapter low high made) (Failed platform bound) :=
      triple_attempt (fun succeeds steps => succeeds.1 steps _)
        (fun _ running => Nat.le_trans running.most (Nat.le_trans (Nat.le_max_left _ _) below))
        fun _ steps running => running.with_steps steps
    refine granted.bind fun _ => (triple_readImage offset size.toNat).bind fun copy =>
      triple_of_fact fun copied => ?_
    have taken : (copy ++ [platform.dummy]).take size.toNat = Memory.read fw_bin offset size.toNat := by
      rw [copied, List.take_left' length]
    refine (triple_dl_rsvd_page pg_addr ?_ below).weaken (fun _ running => running) fun _ _ both => ⟨_, taken, both⟩
    rw [List.length_append]
    exact Nat.succ_ne_zero _
  · refine (triple_readImage offset size.toNat).bind fun buf => triple_of_fact fun copied => ?_
    have taken : buf.take size.toNat = Memory.read fw_bin offset size.toNat := by
      rw [copied, List.take_of_length_le (Nat.le_of_eq length)]
    refine (triple_dl_rsvd_page pg_addr ?_ below).weaken (fun _ running => running) fun _ _ both => ⟨_, taken, both⟩
    rw [copied, length]
    exact some_bytes

private theorem or_and (first second mask : UInt32) : (first ||| second) &&& mask = (first &&& mask) ||| (second &&& mask) :=
  UInt32.toBitVec_inj.mp BitVec.and_or_distrib_right

private theorem ctrl_fields {len : UInt32} (bounded : len ≤ DLFW_PKT_SIZE_LIMIT) (first : Bool) {ctrl : UInt32}
    (built : ctrl =
      if first then (BIT_DDMACH0_CHKSUM_EN ||| BIT_DDMACH0_OWN) ||| (len &&& BIT_MASK_DDMACH0_DLEN)
      else ((BIT_DDMACH0_CHKSUM_EN ||| BIT_DDMACH0_OWN) ||| (len &&& BIT_MASK_DDMACH0_DLEN)) |||
        BIT_DDMACH0_CHKSUM_CONT) :
    ctrl &&& BIT_MASK_DDMACH0_DLEN = len ∧ decide (ctrl &&& BIT_DDMACH0_CHKSUM_CONT = 0) = first := by
  have kept : len &&& BIT_MASK_DDMACH0_DLEN = len := by
    apply UInt32.toNat_inj.mp
    have small : len.toNat ≤ 31744 := bounded
    rw [UInt32.toNat_and]
    show len.toNat &&& (2 ^ 18 - 1) = len.toNat
    rw [Nat.and_two_pow_sub_one_eq_mod]
    omega
  have length : ((BIT_DDMACH0_CHKSUM_EN ||| BIT_DDMACH0_OWN) ||| (len &&& BIT_MASK_DDMACH0_DLEN)) &&&
      BIT_MASK_DDMACH0_DLEN = len := by
    have apart : (BIT_DDMACH0_CHKSUM_EN ||| BIT_DDMACH0_OWN) &&& BIT_MASK_DDMACH0_DLEN = 0 := by decide
    rw [or_and, apart, UInt32.and_assoc, UInt32.and_self, kept, UInt32.zero_or]
  have begins : ((BIT_DDMACH0_CHKSUM_EN ||| BIT_DDMACH0_OWN) ||| (len &&& BIT_MASK_DDMACH0_DLEN)) &&&
      BIT_DDMACH0_CHKSUM_CONT = 0 := by
    have apart : (BIT_DDMACH0_CHKSUM_EN ||| BIT_DDMACH0_OWN) &&& BIT_DDMACH0_CHKSUM_CONT = 0 := by decide
    have beyond : BIT_MASK_DDMACH0_DLEN &&& BIT_DDMACH0_CHKSUM_CONT = 0 := by decide
    rw [or_and, apart, UInt32.and_assoc, beyond, UInt32.and_zero, UInt32.or_zero]
  cases first with
  | true =>
      rw [built, if_pos rfl]
      exact ⟨length, decide_eq_true begins⟩
  | false =>
      have apart : BIT_DDMACH0_CHKSUM_CONT &&& BIT_MASK_DDMACH0_DLEN = 0 := by decide
      rw [built, if_neg (by decide), or_and, or_and _ _ BIT_DDMACH0_CHKSUM_CONT, length, begins, apart, UInt32.or_zero,
        UInt32.and_self]
      exact ⟨rfl, by decide⟩

theorem triple_iddma_dlfw {page : UInt16 × List UInt8} (src dest : UInt32) {len : UInt32} (first : Bool)
    (bounded : len ≤ DLFW_PKT_SIZE_LIMIT) (below : high ≤ bound) :
    Triple (fun state => Running adapter low high made state ∧ state.page = page)
      (iddma_dlfw platform src dest len first)
      (fun _ => Running adapter low high
        (made ++ [{ page := page.1, buf := page.2, src, dest, len, restart := first }]))
      (Failed platform bound) := by
  have ⟨length, restarts⟩ := ctrl_fields bounded first rfl
  have readied : Triple (fun state => Running adapter low high made state ∧ state.page = page)
      (attempt .ddmaReady (fun steps => poll (platform.ready steps .ddmaReady) HALMC_DDMA_POLLING_COUNT) .DDMA_FAIL)
      (fun _ state => Running adapter low high made state ∧ state.page = page) (Failed platform bound) :=
    triple_attempt (fun succeeds steps => succeeds.2 steps _ _ (by decide))
      (fun _ both => Nat.le_trans both.1.most below) fun _ steps both => ⟨both.1.with_steps steps, both.2⟩
  refine readied.bind fun _ => Triple.bind (triple_update fun state both => ?_) fun _ =>
    triple_attempt (fun succeeds steps => succeeds.2 steps _ _ (by decide))
      (fun _ running => Nat.le_trans running.most below) fun _ steps running => running.with_steps steps
  have ⟨running, filled⟩ := both
  refine ⟨running.pkt_size, running.txdesc_size, running.idle, running.least, running.most, ?_⟩
  rw [running.transfers, filled, length, restarts]

theorem triple_check_fw_chksum (mem_addr : UInt32) (below : high ≤ bound) :
    Triple (Running adapter low high made) (check_fw_chksum platform mem_addr)
      (fun _ => Running adapter low high made) (Failed platform bound) := by
  have got : Triple (Running adapter low high made) (Program.get : DlfwM Download)
      (fun _ => Running adapter low high made) (Failed platform bound) :=
    triple_get fun _ running => running
  refine got.bind fun _ => Triple.bind (triple_update fun state running => ?_) fun _ =>
    triple_attempt (fun succeeds steps => succeeds.1 steps _) (fun _ running => Nat.le_trans running.most below)
      fun _ steps running => running.with_steps steps
  exact ⟨running.pkt_size, running.txdesc_size, running.idle, running.least, running.most, running.transfers⟩

private theorem pkt_size_facts {configured residue_size : UInt32} (progress : configured ≠ 0)
    (some_left : residue_size ≠ 0) :
    (if residue_size ≥ configured then configured else residue_size) ≠ 0 ∧
      (if residue_size ≥ configured then configured else residue_size) ≤ residue_size ∧
      (if residue_size ≥ configured then configured else residue_size) ≤ configured := by
  by_cases enough : residue_size ≥ configured
  · rw [if_pos enough]
    exact ⟨progress, enough, UInt32.le_refl _⟩
  · rw [if_neg enough]
    exact ⟨some_left, UInt32.le_refl _, UInt32.le_of_lt (UInt32.not_le.mp enough)⟩

/-- The pieces of what is left of a section.  The reads end where the section does, if there
was anything left to read. -/
theorem triple_dlfw_pieces (start : Nat) (src dest : UInt32) (limited : adapter.dlfw_pkt_size ≤ DLFW_PKT_SIZE_LIMIT)
    (progress : adapter.dlfw_pkt_size ≠ 0) (turns : Nat) :
    ∀ (mem_offset residue_size : UInt32) (first_part : Bool) (low high final : Nat) (made : List Transfer),
      residue_size.toNat ≤ turns -> mem_offset.toNat + residue_size.toNat < 2 ^ 32 ->
      high ≤ start + mem_offset.toNat -> start + mem_offset.toNat + residue_size.toNat ≤ bound ->
      (residue_size = 0 -> final ≤ low) -> final ≤ start + mem_offset.toNat + residue_size.toNat ->
      Triple (Running adapter low high made)
        (dlfw_pieces platform fw_bin start src dest turns mem_offset residue_size first_part)
        (fun _ state => ∃ pieces,
          Delivers fw_bin adapter.dlfw_pkt_size.toNat ((src >>> 7).toUInt16 &&& 0xfff)
            (OCPBASE_TXBUF_88XX + src + adapter.txdesc_size) (start + mem_offset.toNat)
            (start + mem_offset.toNat + residue_size.toNat) (dest + mem_offset) first_part pieces ∧
          Running adapter final (start + mem_offset.toNat + residue_size.toNat) (made ++ pieces) state)
        (Failed platform bound) := by
  have finished : ∀ (mem_offset : UInt32) (first_part : Bool) (low high final : Nat) (made : List Transfer)
      (state : Download), high ≤ start + mem_offset.toNat -> final ≤ low -> Running adapter low high made state ->
      ∃ pieces,
        Delivers fw_bin adapter.dlfw_pkt_size.toNat ((src >>> 7).toUInt16 &&& 0xfff)
          (OCPBASE_TXBUF_88XX + src + adapter.txdesc_size) (start + mem_offset.toNat)
          (start + mem_offset.toNat + (0 : UInt32).toNat) (dest + mem_offset) first_part pieces ∧
        Running adapter final (start + mem_offset.toNat + (0 : UInt32).toNat) (made ++ pieces) state := by
    intro mem_offset first_part low high final made state within reached running
    refine ⟨[], .done _ _ _, running.pkt_size, running.txdesc_size, running.idle, Nat.le_trans reached running.least,
      Nat.le_trans running.most within, ?_⟩
    rw [List.append_nil]
    exact running.transfers
  induction turns with
  | zero =>
      intro mem_offset residue_size first_part low high final made enough _ within _ reached _
      have none_left : residue_size = 0 := UInt32.toNat_inj.mp (Nat.le_zero.mp enough)
      subst none_left
      exact triple_pure fun state running =>
        finished mem_offset first_part low high final made state within (reached rfl) running
  | succ turns goes_on =>
      intro mem_offset residue_size first_part low high final made enough fits within below reached ends
      refine triple_ite (fun none_left => ?_) fun some_left => ?_
      · subst none_left
        exact triple_pure fun state running =>
          finished mem_offset first_part low high final made state within (reached rfl) running
      · have got : Triple (Running adapter low high made) (Program.get : DlfwM Download)
            (fun seen state => (seen.adapter.dlfw_pkt_size = adapter.dlfw_pkt_size ∧
              seen.adapter.txdesc_size = adapter.txdesc_size) ∧ Running adapter low high made state)
            (Failed platform bound) :=
          triple_get fun _ running => ⟨⟨running.pkt_size, running.txdesc_size⟩, running⟩
        refine got.bind fun seen => triple_of_fact fun same => ?_
        rw [same.1, same.2]
        have ⟨positive, part, limit⟩ := pkt_size_facts progress some_left
        generalize (if residue_size ≥ adapter.dlfw_pkt_size then adapter.dlfw_pkt_size else residue_size) = pkt_size
          at positive part limit ⊢
        have bounded : pkt_size ≤ DLFW_PKT_SIZE_LIMIT := UInt32.le_trans limit limited
        have some_bytes : 0 < pkt_size.toNat := Nat.pos_of_ne_zero fun zero => positive (UInt32.toNat_inj.mp zero)
        have part_nat : pkt_size.toNat ≤ residue_size.toNat := part
        have offset_nat : (mem_offset + pkt_size).toNat = mem_offset.toNat + pkt_size.toNat := by
          rw [UInt32.toNat_add, Nat.mod_eq_of_lt (by omega)]
        have residue_nat : (residue_size - pkt_size).toNat = residue_size.toNat - pkt_size.toNat :=
          UInt32.toNat_sub_of_le _ _ part
        have stop_nat : start + (mem_offset + pkt_size).toNat + (residue_size - pkt_size).toNat =
            start + mem_offset.toNat + residue_size.toNat := by omega
        refine (triple_send_fwpkt _ _ positive (by omega)).bind fun _ => triple_exists fun buf =>
          triple_of_fact fun taken => (triple_iddma_dlfw _ _ _ bounded (by omega)).bind fun _ => ?_
        have others := goes_on (mem_offset + pkt_size) (residue_size - pkt_size) false
          (max low (start + mem_offset.toNat + pkt_size.toNat)) (max high (start + mem_offset.toNat + pkt_size.toNat))
          final
          (made ++ [{ page := (src >>> 7).toUInt16 &&& 0xfff, buf, src := OCPBASE_TXBUF_88XX + src + adapter.txdesc_size,
                      dest := dest + mem_offset, len := pkt_size, restart := first_part }])
          (by omega) (by omega) (by omega) (by omega)
          (fun none_left => by
            rw [none_left, UInt32.toNat_zero] at residue_nat
            omega)
          (by omega)
        refine others.weaken (fun _ running => running) fun _ state ⟨pieces, delivers, running⟩ => ?_
        rw [stop_nat] at delivers running
        rw [offset_nat, ← Nat.add_assoc, ← UInt32.add_assoc] at delivers
        rw [List.append_assoc] at running
        exact ⟨_, .piece some_bytes limit taken delivers, running⟩

theorem triple_dlfw_to_mem {start final : Nat} {src dest size : UInt32}
    (limited : adapter.dlfw_pkt_size ≤ DLFW_PKT_SIZE_LIMIT) (progress : adapter.dlfw_pkt_size ≠ 0) (within : high ≤ start)
    (below : start + size.toNat ≤ bound) (reached : size = 0 -> final ≤ low) (ends : final ≤ start + size.toNat) :
    Triple (Running adapter low high made) (dlfw_to_mem platform fw_bin start src dest size)
      (fun _ state => ∃ pieces,
        Delivers fw_bin adapter.dlfw_pkt_size.toNat ((src >>> 7).toUInt16 &&& 0xfff)
          (OCPBASE_TXBUF_88XX + src + adapter.txdesc_size) start (start + size.toNat) dest true pieces ∧
        Running adapter final (start + size.toNat) (made ++ pieces) state)
      (Failed platform bound) := by
  have fits : (0 : UInt32).toNat + size.toNat < 2 ^ 32 := by
    rw [UInt32.toNat_zero, Nat.zero_add]
    exact size.toNat_lt
  have pieces := @triple_dlfw_pieces platform fw_bin adapter bound start src dest limited progress size.toNat 0 size true
    low high final made (Nat.le_refl _) fits within below reached ends
  rw [UInt32.toNat_zero, Nat.add_zero, UInt32.add_zero] at pieces
  refine pieces.bind fun _ => triple_exists fun made => triple_of_fact fun delivers => ?_
  exact (triple_check_fw_chksum dest below).weaken (fun _ running => running) fun _ _ running => ⟨_, delivers, running⟩

theorem Running.widen {wider : Nat} {state : Download} (running : Running adapter low high made state)
    (more : high ≤ wider) : Running adapter low wider made state :=
  ⟨running.pkt_size, running.txdesc_size, running.idle, running.least, Nat.le_trans running.most more,
    running.transfers⟩

theorem triple_read_header {failed : Download -> Prop} {offset length : Nat} (in_header : offset + length ≤ 64)
    (behind : 64 ≤ high) :
    Triple (Running adapter low high made) (readImage fw_bin offset length)
      (fun bytes state => bytes = Memory.read fw_bin offset length ∧ Running adapter low high made state) failed := by
  refine (triple_readImage offset length).weaken (fun _ running => running) fun _ _ both => ⟨both.1, ?_⟩
  have running := both.2
  have most := running.most
  exact ⟨running.pkt_size, running.txdesc_size, running.idle, Nat.le_trans (Nat.le_max_left _ _) running.least,
    by omega, running.transfers⟩

theorem triple_readLe32 {failed : Download -> Prop} {offset : Nat} (in_header : offset + 4 ≤ 64) (behind : 64 ≤ high) :
    Triple (Running adapter low high made) (readLe32 fw_bin offset)
      (fun value state => value = UInt32.ofNat (headerField fw_bin offset) ∧ Running adapter low high made state)
      failed :=
  (triple_read_header in_header behind).bind fun _ => triple_of_fact fun same =>
    triple_pure fun _ running => ⟨congrArg (fun bytes => UInt32.ofNat (le_to_cpu bytes)) same, running⟩

theorem triple_readField {failed : Download -> Prop} {offset length : Nat} (in_header : offset + length ≤ 64)
    (behind : 64 ≤ high) :
    Triple (Running adapter low high made) (readField fw_bin offset length)
      (fun value state => value = le_to_cpu (Memory.read fw_bin offset length) ∧ Running adapter low high made state)
      failed :=
  (triple_read_header in_header behind).bind fun _ => triple_of_fact fun same =>
    triple_pure fun _ running => ⟨congrArg le_to_cpu same, running⟩

theorem triple_readAddr {failed : Download -> Prop} {offset : Nat} (in_header : offset + 4 ≤ 64) (behind : 64 ≤ high) :
    Triple (Running adapter low high made) (readAddr fw_bin offset)
      (fun value state => value = sectionAddr fw_bin offset ∧ Running adapter low high made state) failed :=
  (triple_readLe32 in_header behind).bind fun _ => triple_of_fact fun same =>
    triple_pure fun _ running => ⟨congrArg (fun addr => addr &&& 0x7fffffff) same, running⟩

def dmem_size (fw_bin : ByteMap) : UInt32 :=
  UInt32.ofNat (headerField fw_bin WLAN_FW_HDR_DMEM_SIZE) + WLAN_FW_HDR_CHKSUM_SIZE

def imem_size (fw_bin : ByteMap) : UInt32 :=
  UInt32.ofNat (headerField fw_bin WLAN_FW_HDR_IMEM_SIZE) + WLAN_FW_HDR_CHKSUM_SIZE

def emem_field (fw_bin : ByteMap) : UInt32 :=
  if (fw_bin WLAN_FW_HDR_MEM_USAGE).toNat.testBit 4 then UInt32.ofNat (headerField fw_bin WLAN_FW_HDR_EMEM_SIZE) else 0

def emem_size (fw_bin : ByteMap) : UInt32 :=
  if emem_field fw_bin ≠ 0 then emem_field fw_bin + WLAN_FW_HDR_CHKSUM_SIZE else emem_field fw_bin

theorem triple_readEmemSize {failed : Download -> Prop} (behind : 64 ≤ high) :
    Triple (Running adapter low high made) (readEmemSize fw_bin)
      (fun value state => value = emem_field fw_bin ∧ Running adapter low high made state) failed := by
  refine (triple_readField (by decide) behind).bind fun mem_usage => triple_of_fact fun usage_is => ?_
  have usage : mem_usage = (fw_bin WLAN_FW_HDR_MEM_USAGE).toNat := usage_is
  unfold emem_field
  rw [usage]
  split
  · exact triple_readLe32 (by decide) behind
  · exact triple_pure fun _ running => ⟨rfl, running⟩

theorem triple_section_sizes {failed : Download -> Prop} (behind : 64 ≤ high) :
    Triple (Running adapter low high made) (section_sizes fw_bin)
      (fun sizes state => sizes = (dmem_size fw_bin, imem_size fw_bin, emem_size fw_bin) ∧
        Running adapter low high made state) failed := by
  refine (triple_readLe32 (by decide) behind).bind fun dmem => triple_of_fact fun dmem_is =>
    (triple_readLe32 (by decide) behind).bind fun imem => triple_of_fact fun imem_is =>
    (triple_readEmemSize behind).bind fun field => triple_of_fact fun field_is => ?_
  rw [dmem_is, imem_is, field_is]
  exact triple_pure fun _ running => ⟨rfl, running⟩

theorem triple_update_fw_info {failed : Download -> Prop} (behind : 64 ≤ high) :
    Triple (Running adapter low high made) (update_fw_info fw_bin) (fun _ => Running adapter low high made)
      failed := by
  have field : ∀ (offset length : Nat), offset + length ≤ 64 ->
      Triple (Running adapter low high made) (readField fw_bin offset length)
        (fun _ => Running adapter low high made) failed :=
    fun _ _ in_header => (triple_readField in_header behind).weaken (fun _ running => running) fun _ _ both => both.2
  refine (field _ _ (by decide)).bind fun _ => (field _ _ (by decide)).bind fun _ =>
    (field _ _ (by decide)).bind fun _ => (field _ _ (by decide)).bind fun _ => (field _ _ (by decide)).bind fun _ =>
    (field _ _ (by decide)).bind fun _ => (field _ _ (by decide)).bind fun _ => (field _ _ (by decide)).bind fun _ =>
    (field _ _ (by decide)).bind fun _ => triple_update fun _ running => ?_
  exact ⟨running.pkt_size, running.txdesc_size, running.idle, running.least, running.most, running.transfers⟩

def imageEnd (fw_bin : ByteMap) : Nat :=
  64 + (dmem_size fw_bin).toNat + (imem_size fw_bin).toNat + (emem_size fw_bin).toNat

theorem triple_dlfw_emem {dl_addr : UInt32} {start final : Nat} (limited : adapter.dlfw_pkt_size ≤ DLFW_PKT_SIZE_LIMIT)
    (progress : adapter.dlfw_pkt_size ≠ 0) (behind : 64 ≤ high)
    (begins : 64 + (dmem_size fw_bin).toNat + (imem_size fw_bin).toNat = start) (within : high ≤ start)
    (reached : emem_size fw_bin = 0 -> final ≤ low) (ends : final ≤ imageEnd fw_bin) :
    Triple (Running adapter low high made)
      (dlfw_emem platform fw_bin dl_addr (dmem_size fw_bin) (imem_size fw_bin) (emem_size fw_bin))
      (fun _ state => ∃ pieces,
        Delivers fw_bin adapter.dlfw_pkt_size.toNat ((dl_addr <<< 7 >>> 7).toUInt16 &&& 0xfff)
          (OCPBASE_TXBUF_88XX + dl_addr <<< 7 + adapter.txdesc_size) start (start + (emem_size fw_bin).toNat)
          (sectionAddr fw_bin WLAN_FW_HDR_EMEM_ADDR) true pieces ∧
        Running adapter final (imageEnd fw_bin) (made ++ pieces) state)
      (Failed platform (imageEnd fw_bin)) := by
  have last : start + (emem_size fw_bin).toNat = imageEnd fw_bin := by rw [← begins]; rfl
  refine triple_ite (fun none => ?_) fun _ => ?_
  · refine triple_pure fun state running => ⟨[], ?_, ?_⟩
    · rw [none]
      exact .done _ _ _
    · rw [List.append_nil]
      have least := running.least
      have most := running.most
      have low_final := reached none
      exact ⟨running.pkt_size, running.txdesc_size, running.idle, by omega, by omega, running.transfers⟩
  · refine (triple_readAddr (by decide) behind).bind fun addr => triple_of_fact fun addr_is => ?_
    rw [addr_is, ← last]
    show Triple _ (dlfw_to_mem platform fw_bin (64 + _ + _) _ _ _) _ _
    rw [begins]
    exact triple_dlfw_to_mem limited progress within (Nat.le_refl _) reached (by omega)

theorem triple_start_emem {dl_addr : UInt32} (limited : adapter.dlfw_pkt_size ≤ DLFW_PKT_SIZE_LIMIT)
    (progress : adapter.dlfw_pkt_size ≠ 0) :
    Triple (Running adapter 0 64 made) (start_dlfw platform fw_bin dl_addr true)
      (fun _ state => reach state.reads ≤ imageEnd fw_bin) (Failed platform (imageEnd fw_bin)) := by
  refine (triple_section_sizes (Nat.le_refl _)).bind fun sizes => triple_of_fact fun sizes_are => ?_
  subst sizes_are
  have whole := @triple_dlfw_emem platform fw_bin adapter 0 64 made dl_addr _ 0 limited progress (Nat.le_refl _) rfl
    (by omega) (fun _ => Nat.le_refl _) (Nat.zero_le _)
  exact whole.weaken (fun _ running => running) fun _ _ ⟨_, _, running⟩ => running.most

/-- All sections, one behind the other. -/
theorem triple_start_dlfw {dl_addr : UInt32} (limited : adapter.dlfw_pkt_size ≤ DLFW_PKT_SIZE_LIMIT)
    (progress : adapter.dlfw_pkt_size ≠ 0) :
    Triple (Running adapter 64 64 []) (start_dlfw platform fw_bin dl_addr false)
      (fun _ state => ∃ dmem imem, ∃ emem,
        let delivers := Delivers fw_bin adapter.dlfw_pkt_size.toNat
        let imem_start := 64 + (dmem_size fw_bin).toNat
        let emem_start := imem_start + (imem_size fw_bin).toNat
        (delivers 0 (OCPBASE_TXBUF_88XX + adapter.txdesc_size) 64 imem_start
            (sectionAddr fw_bin WLAN_FW_HDR_DMEM_ADDR) true dmem ∧
          delivers 0 (OCPBASE_TXBUF_88XX + adapter.txdesc_size) imem_start emem_start
            (sectionAddr fw_bin WLAN_FW_HDR_IMEM_ADDR) true imem ∧
          delivers ((dl_addr <<< 7 >>> 7).toUInt16 &&& 0xfff)
            (OCPBASE_TXBUF_88XX + dl_addr <<< 7 + adapter.txdesc_size) emem_start
            (emem_start + (emem_size fw_bin).toNat) (sectionAddr fw_bin WLAN_FW_HDR_EMEM_ADDR) true emem) ∧
        Running adapter (imageEnd fw_bin) (imageEnd fw_bin) (dmem ++ imem ++ emem) state)
      (Failed platform (imageEnd fw_bin)) := by
  have zero_page : ((0 : UInt32) >>> 7).toUInt16 &&& 0xfff = 0 := rfl
  have dmem_end : 64 + (dmem_size fw_bin).toNat ≤ imageEnd fw_bin := by unfold imageEnd; omega
  have imem_end : 64 + (dmem_size fw_bin).toNat + (imem_size fw_bin).toNat ≤ imageEnd fw_bin := by
    unfold imageEnd
    omega
  have zero_size : ∀ {size : UInt32} (start : Nat), size = 0 -> start + size.toNat ≤ start := by
    intro size start none
    rw [none]
    exact Nat.le_refl _
  have enabled : Triple (Running adapter 64 64 [])
      (Program.update (fun state => { state with mcufw_ctrl := (state.mcufw_ctrl &&& 0x3800) ||| 1 }) : DlfwM PUnit)
      (fun _ => Running adapter 64 64 []) (Failed platform (imageEnd fw_bin)) :=
    triple_update fun _ running =>
      ⟨running.pkt_size, running.txdesc_size, running.idle, running.least, running.most, running.transfers⟩
  refine (triple_section_sizes (Nat.le_refl _)).bind fun sizes => triple_of_fact fun sizes_are => ?_
  subst sizes_are
  refine enabled.bind fun _ => (triple_readAddr (by decide) (Nat.le_refl _)).bind fun addr =>
    triple_of_fact fun addr_is => ?_
  subst addr_is
  refine (triple_dlfw_to_mem limited progress (Nat.le_refl 64) dmem_end (zero_size 64) (Nat.le_refl _)).bind fun _ =>
    triple_exists fun dmem => triple_of_fact fun dmem_delivers => ?_
  refine (triple_readAddr (by decide) (Nat.le_add_right 64 _)).bind fun addr =>
    triple_of_fact fun addr_is => ?_
  subst addr_is
  refine (triple_dlfw_to_mem limited progress (Nat.le_refl _) imem_end (zero_size _) (Nat.le_refl _)).bind fun _ =>
    triple_exists fun imem => triple_of_fact fun imem_delivers => ?_
  rw [zero_page, UInt32.add_zero] at dmem_delivers imem_delivers
  refine (triple_dlfw_emem limited progress (by omega) rfl (Nat.le_refl _) (fun none => ?_) (Nat.le_refl _)).bind
    fun _ => triple_exists fun emem => triple_of_fact fun emem_delivers => ?_
  · exact zero_size _ none
  · refine (triple_update_fw_info (by omega)).weaken (fun _ running => running) fun _ state running => ?_
    exact ⟨dmem, imem, emem, ⟨dmem_delivers, imem_delivers, emem_delivers⟩, running⟩

end

end Firmware

end Rtl8821ce
