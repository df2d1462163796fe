import Rtl8821ce.Hal.FirmwareCovers

/-!
# Whether a download covers the image

The driver adds the sizes of the sections in 32 bits, when it checks the image and when it
downloads it, and it lets the packet size be configured as zero.  A download covers exactly
the image that was checked where neither matters.
-/

namespace Rtl8821ce

namespace Firmware

open Program (Maintains Triple maintains_get maintains_ite maintains_pure maintains_update
  require_bind_eq_ok triple_iff_maintains)

def sectionSize (fw_bin : ByteMap) (offset : Nat) : Nat := headerField fw_bin offset + 8

/-- The size of the extended memory with its checksum, or zero where the image has none. -/
def ememSize (fw_bin : ByteMap) : Nat :=
  if (fw_bin WLAN_FW_HDR_MEM_USAGE).toNat.testBit 4 ∧ headerField fw_bin WLAN_FW_HDR_EMEM_SIZE ≠ 0 then
    sectionSize fw_bin WLAN_FW_HDR_EMEM_SIZE
  else 0

def imageSize (fw_bin : ByteMap) : Nat :=
  64 + sectionSize fw_bin WLAN_FW_HDR_DMEM_SIZE + sectionSize fw_bin WLAN_FW_HDR_IMEM_SIZE + ememSize fw_bin

/-- The whole image is transferred, section by section. -/
def CoversImage (fw_bin : ByteMap) (adapter : DlfwAdapter) (transfers : List Transfer) : Prop :=
  ∃ dmem imem, ∃ emem,
    transfers = dmem ++ imem ++ emem ∧
    let delivers := Delivers fw_bin adapter.dlfw_pkt_size.toNat 0 (OCPBASE_TXBUF_88XX + adapter.txdesc_size)
    let imem_start := 64 + sectionSize fw_bin WLAN_FW_HDR_DMEM_SIZE
    let emem_start := imem_start + sectionSize fw_bin WLAN_FW_HDR_IMEM_SIZE
    delivers 64 imem_start (sectionAddr fw_bin WLAN_FW_HDR_DMEM_ADDR) true dmem ∧
    delivers imem_start emem_start (sectionAddr fw_bin WLAN_FW_HDR_IMEM_ADDR) true imem ∧
    delivers emem_start (emem_start + ememSize fw_bin) (sectionAddr fw_bin WLAN_FW_HDR_EMEM_ADDR) true emem

def Download.begin (adapter : DlfwAdapter) (mcufw_ctrl : UInt16) (page : UInt16 × List UInt8) : Download where
  adapter := adapter
  mcufw_ctrl := mcufw_ctrl
  page := page
  reads := []
  steps := []
  transfers := []

/-- Whatever the platform answers, the download ends and reads only below `size`; where all
goes well, it covers the image. -/
structure DownloadsImage (fw_bin : ByteMap) (size : UInt32) (state : Download) : Prop where
  terminates : ∀ platform dl_addr emem_only,
    (start_dlfw platform fw_bin dl_addr emem_only state).1 ≠ .error .ENDLESS
  inside : ∀ platform dl_addr emem_only,
    ∀ access ∈ (start_dlfw platform fw_bin dl_addr emem_only state).2.reads,
      access.1 + access.2 ≤ size.toNat
  covers : ∀ platform, platform.Succeeds ->
    CoversImage fw_bin state.adapter (start_dlfw platform fw_bin 0 false state).2.transfers

private theorem le_to_cpu_lt (bytes : List UInt8) : le_to_cpu bytes < 256 ^ bytes.length := by
  induction bytes with
  | nil => decide
  | cons byte rest shorter =>
      show byte.toNat + 0x100 * le_to_cpu rest < 256 ^ (rest.length + 1)
      have small := byte.toNat_lt
      rw [Nat.pow_succ]
      omega

theorem headerField_lt (fw_bin : ByteMap) (offset : Nat) : headerField fw_bin offset < 2 ^ 32 := by
  have bounded := le_to_cpu_lt (Memory.read fw_bin offset 4)
  rw [Memory.length_read] at bounded
  exact bounded

private theorem field_add_toNat (fw_bin : ByteMap) (offset : Nat) :
    (UInt32.ofNat (headerField fw_bin offset) + WLAN_FW_HDR_CHKSUM_SIZE).toNat =
      sectionSize fw_bin offset % 2 ^ 32 := by
  rw [UInt32.toNat_add, UInt32.toNat_ofNat', Nat.mod_eq_of_lt (headerField_lt fw_bin offset)]
  rfl

theorem dmem_size_toNat (fw_bin : ByteMap) :
    (dmem_size fw_bin).toNat = sectionSize fw_bin WLAN_FW_HDR_DMEM_SIZE % 2 ^ 32 := field_add_toNat _ _

theorem imem_size_toNat (fw_bin : ByteMap) :
    (imem_size fw_bin).toNat = sectionSize fw_bin WLAN_FW_HDR_IMEM_SIZE % 2 ^ 32 := field_add_toNat _ _

theorem emem_size_toNat (fw_bin : ByteMap) : (emem_size fw_bin).toNat = ememSize fw_bin % 2 ^ 32 := by
  unfold emem_size emem_field ememSize
  by_cases used : (fw_bin WLAN_FW_HDR_MEM_USAGE).toNat.testBit 4 = true
  · by_cases empty : headerField fw_bin WLAN_FW_HDR_EMEM_SIZE = 0
    · rw [if_pos used, empty, if_neg fun both => both rfl, if_neg fun both => both.2 rfl]
      rfl
    · have some_bytes : UInt32.ofNat (headerField fw_bin WLAN_FW_HDR_EMEM_SIZE) ≠ 0 := fun zero => empty <| by
        have zero_nat := congrArg UInt32.toNat zero
        rwa [UInt32.toNat_ofNat', Nat.mod_eq_of_lt (headerField_lt _ _)] at zero_nat
      rw [if_pos used, if_pos some_bytes, if_pos ⟨used, empty⟩]
      exact field_add_toNat _ _
  · rw [if_neg used, if_neg fun both => both rfl, if_neg fun both => used both.1]
    rfl

theorem sizes_of_fits {fw_bin : ByteMap} (fits : imageSize fw_bin < 2 ^ 32) :
    (dmem_size fw_bin).toNat = sectionSize fw_bin WLAN_FW_HDR_DMEM_SIZE ∧
      (imem_size fw_bin).toNat = sectionSize fw_bin WLAN_FW_HDR_IMEM_SIZE ∧
      (emem_size fw_bin).toNat = ememSize fw_bin ∧ imageEnd fw_bin = imageSize fw_bin := by
  have dmem := dmem_size_toNat fw_bin
  have imem := imem_size_toNat fw_bin
  have emem := emem_size_toNat fw_bin
  unfold imageEnd
  unfold imageSize at fits ⊢
  omega

private theorem section_sizes_run (fw_bin : ByteMap) (state : Download) :
    ∃ next,
      section_sizes fw_bin state = (.ok (dmem_size fw_bin, imem_size fw_bin, emem_size fw_bin), next) := by
  have usage : le_to_cpu (Memory.read fw_bin WLAN_FW_HDR_MEM_USAGE 1) = (fw_bin WLAN_FW_HDR_MEM_USAGE).toNat := rfl
  have emem : ∀ before, ∃ next, readEmemSize fw_bin before = (.ok (emem_field fw_bin), next) := by
    intro before
    refine ⟨(readEmemSize fw_bin before).2, Prod.ext ?_ rfl⟩
    show ((if (le_to_cpu (Memory.read fw_bin WLAN_FW_HDR_MEM_USAGE 1)).testBit 4 then
      readLe32 fw_bin WLAN_FW_HDR_EMEM_SIZE else pure 0 : DlfwM UInt32) _).1 = _
    unfold emem_field
    rw [usage]
    by_cases used : (fw_bin WLAN_FW_HDR_MEM_USAGE).toNat.testBit 4 = true
    · rw [if_pos used, if_pos used]
      rfl
    · rw [if_neg used, if_neg used]
      rfl
  have ⟨next, run⟩ := emem (readLe32 fw_bin WLAN_FW_HDR_IMEM_SIZE (readLe32 fw_bin WLAN_FW_HDR_DMEM_SIZE state).2).2
  refine ⟨next, ?_⟩
  show (readEmemSize fw_bin >>= fun field => (pure (dmem_size fw_bin, imem_size fw_bin,
    if field ≠ 0 then field + WLAN_FW_HDR_CHKSUM_SIZE else field) : DlfwM (UInt32 × UInt32 × UInt32))) _ = _
  exact Program.bind_of_ok run

theorem chk_fw_size_ok {fw_bin : ByteMap} {size : UInt32} {state : Download}
    (accepted : (chk_fw_size fw_bin size state).1 = .ok ⟨⟩) :
    64 ≤ size.toNat ∧ size.toNat = imageEnd fw_bin % 2 ^ 32 := by
  have success : chk_fw_size fw_bin size state = (.ok ⟨⟩, (chk_fw_size fw_bin size state).2) := Prod.ext accepted rfl
  have ⟨large, checked⟩ := require_bind_eq_ok.mp success
  have ⟨sizes, next, found, compared⟩ := Program.bind_eq_ok.mp checked
  have ⟨other, run⟩ := section_sizes_run fw_bin state
  rw [run, Prod.mk.injEq, Except.ok.injEq] at found
  rw [← found.1] at compared
  have same := of_decide_eq_true (Program.require_eq_ok.mp compared).1
  refine ⟨of_decide_eq_true large, ?_⟩
  have sum := congrArg UInt32.toNat same
  rw [UInt32.toNat_add, UInt32.toNat_add, UInt32.toNat_add] at sum
  have header : WLAN_FW_HDR_SIZE.toNat = 64 := rfl
  unfold imageEnd
  omega

theorem Delivers.length {fw_bin : ByteMap} {limit : Nat} {page : UInt16} {src dest : UInt32} {start stop : Nat}
    {restart : Bool} {transfers : List Transfer}
    (delivers : Delivers fw_bin limit page src start stop dest restart transfers) :
    start + (transfers.map fun transfer => transfer.len.toNat).sum = stop := by
  induction delivers with
  | done start dest restart => exact Nat.add_zero start
  | piece positive bounded taken others total =>
      rw [List.map_cons, List.sum_cons, ← Nat.add_assoc]
      exact total

theorem Delivers.limit_ne_zero {fw_bin : ByteMap} {limit : Nat} {page : UInt16} {src dest : UInt32} {start stop : Nat}
    {restart : Bool} {transfers : List Transfer}
    (delivers : Delivers fw_bin limit page src start stop dest restart transfers) (some_bytes : start < stop) :
    limit ≠ 0 ∧ transfers ≠ [] := by
  cases delivers with
  | done => exact absurd some_bytes (Nat.lt_irrefl _)
  | piece positive bounded taken others => exact ⟨by omega, List.cons_ne_nil _ _⟩

theorem CoversImage.length {fw_bin : ByteMap} {adapter : DlfwAdapter} {transfers : List Transfer}
    (covers : CoversImage fw_bin adapter transfers) :
    64 + (transfers.map fun transfer => transfer.len.toNat).sum = imageSize fw_bin := by
  obtain ⟨dmem, imem, emem, rfl, dmem_delivers, imem_delivers, emem_delivers⟩ := covers
  have first := dmem_delivers.length
  have second := imem_delivers.length
  have third := emem_delivers.length
  rw [List.map_append, List.map_append, List.sum_append, List.sum_append]
  unfold imageSize
  omega

private def Blocked (state : Download) : Prop := state.adapter.rsvd_pg_state = .BUSY ∧ state.transfers = []

private theorem blocked_readImage (fw_bin : ByteMap) (offset length : Nat) :
    Maintains Blocked (readImage fw_bin offset length) :=
  Maintains.bind (maintains_update fun _ blocked => blocked) fun _ => maintains_pure _ _

private theorem blocked_attempt (step : Step) (outcome : List (Step × Bool) -> Bool) (code : DlfwRet) :
    Maintains Blocked (attempt step outcome code) :=
  (maintains_get _).bind fun _ =>
    Maintains.bind (maintains_update fun _ blocked => blocked) fun _ => Program.maintains_require _ _ _

private theorem blocked_dl_rsvd_page {platform : Platform} (pg_addr : UInt16) (buf : List UInt8) {state : Download}
    (blocked : Blocked state) : ∃ code, dl_rsvd_page platform pg_addr buf state = (.error code, state) := by
  unfold dl_rsvd_page
  split
  · exact ⟨_, rfl⟩
  · rw [if_pos blocked.1]
    exact ⟨_, rfl⟩

private theorem blocked_send_fwpkt (platform : Platform) (fw_bin : ByteMap) (pg_addr : UInt16) (offset : Nat)
    (size : UInt32) : Triple Blocked (send_fwpkt platform fw_bin pg_addr offset size) (fun _ _ => False) Blocked := by
  have page : ∀ buf, Triple Blocked (dl_rsvd_page platform pg_addr buf) (fun _ _ => False) Blocked := by
    intro buf state blocked
    have ⟨code, refused⟩ := @blocked_dl_rsvd_page platform pg_addr buf state blocked
    rw [refused]
    refine ⟨fun _ _ success => (nomatch congrArg Prod.fst success), fun _ _ failure => ?_⟩
    cases failure
    exact blocked
  refine (triple_iff_maintains.mpr (maintains_get _)).bind fun _ => Program.triple_ite (fun _ => ?_) fun _ => ?_
  · exact (triple_iff_maintains.mpr (blocked_attempt _ _ _)).bind fun _ =>
      (triple_iff_maintains.mpr (blocked_readImage _ _ _)).bind fun _ => page _
  · exact (triple_iff_maintains.mpr (blocked_readImage _ _ _)).bind fun _ => page _

private theorem blocked_dlfw_pieces (platform : Platform) (fw_bin : ByteMap) (start : Nat) (src dest : UInt32)
    (turns : Nat) (mem_offset residue_size : UInt32) (first_part : Bool) :
    Maintains Blocked
      (dlfw_pieces platform fw_bin start src dest turns mem_offset residue_size first_part) := by
  cases turns with
  | zero => exact Program.maintains_require _ _ _
  | succ turns =>
      refine maintains_ite (maintains_pure _ _) ((maintains_get _).bind fun seen => ?_)
      exact triple_iff_maintains.mp <|
        (blocked_send_fwpkt _ _ _ _ _).bind fun _ _ impossible => impossible.elim

private theorem blocked_dlfw_to_mem (platform : Platform) (fw_bin : ByteMap) (start : Nat) (src dest size : UInt32) :
    Maintains Blocked (dlfw_to_mem platform fw_bin start src dest size) :=
  (blocked_dlfw_pieces _ _ _ _ _ _ _ _ _).bind fun _ => (maintains_get _).bind fun _ =>
    Maintains.bind (maintains_update fun _ blocked => blocked) fun _ => blocked_attempt _ _ _

private theorem blocked_readLe32 (fw_bin : ByteMap) (offset : Nat) : Maintains Blocked (readLe32 fw_bin offset) :=
  (blocked_readImage _ _ _).bind fun _ => maintains_pure _ _

private theorem blocked_readField (fw_bin : ByteMap) (offset length : Nat) :
    Maintains Blocked (readField fw_bin offset length) :=
  (blocked_readImage _ _ _).bind fun _ => maintains_pure _ _

private theorem blocked_readAddr (fw_bin : ByteMap) (offset : Nat) : Maintains Blocked (readAddr fw_bin offset) :=
  (blocked_readLe32 _ _).bind fun _ => maintains_pure _ _

private theorem blocked_section_sizes (fw_bin : ByteMap) : Maintains Blocked (section_sizes fw_bin) :=
  (blocked_readLe32 _ _).bind fun _ => (blocked_readLe32 _ _).bind fun _ =>
    Maintains.bind
      ((blocked_readField _ _ _).bind fun _ => maintains_ite (blocked_readLe32 _ _) (maintains_pure _ _))
      fun _ => maintains_pure _ _

private theorem blocked_dlfw_emem (platform : Platform) (fw_bin : ByteMap)
    (dl_addr dmem_size imem_size emem_size : UInt32) :
    Maintains Blocked (dlfw_emem platform fw_bin dl_addr dmem_size imem_size emem_size) :=
  maintains_ite (maintains_pure _ _) ((blocked_readAddr _ _).bind fun _ => blocked_dlfw_to_mem _ _ _ _ _ _)

private theorem blocked_update_fw_info (fw_bin : ByteMap) : Maintains Blocked (update_fw_info fw_bin) :=
  (blocked_readField _ _ _).bind fun _ => (blocked_readField _ _ _).bind fun _ =>
    (blocked_readField _ _ _).bind fun _ => (blocked_readField _ _ _).bind fun _ =>
    (blocked_readField _ _ _).bind fun _ => (blocked_readField _ _ _).bind fun _ =>
    (blocked_readField _ _ _).bind fun _ => (blocked_readField _ _ _).bind fun _ =>
    (blocked_readField _ _ _).bind fun _ => maintains_update fun _ blocked => blocked

private theorem blocked_start_dlfw (platform : Platform) (fw_bin : ByteMap) (dl_addr : UInt32) (emem_only : Bool) :
    Maintains Blocked (start_dlfw platform fw_bin dl_addr emem_only) := by
  refine (blocked_section_sizes _).bind fun ⟨dmem_size, imem_size, emem_size⟩ => maintains_ite ?_ ?_
  · exact blocked_dlfw_emem _ _ _ _ _ _
  · exact Maintains.bind (maintains_update fun _ blocked => blocked) fun _ =>
      (blocked_readAddr _ _).bind fun _ => (blocked_dlfw_to_mem _ _ _ _ _ _).bind fun _ =>
      (blocked_readAddr _ _).bind fun _ => (blocked_dlfw_to_mem _ _ _ _ _ _).bind fun _ =>
      (blocked_dlfw_emem _ _ _ _ _ _).bind fun _ => blocked_update_fw_info _

def Platform.granting : Platform where
  accepts := fun _ _ => true
  ready := fun _ _ _ => true
  dummy := 0

theorem Platform.granting_succeeds : Platform.granting.Succeeds := by
  refine ⟨fun _ _ => rfl, fun _ _ cnt some_reads => ?_⟩
  obtain ⟨fewer, rfl⟩ : ∃ fewer, cnt = fewer + 1 := ⟨cnt - 1, by omega⟩
  rfl

theorem cfg_max_dl_size_ok {size : UInt32} {state next : Download} (success : cfg_max_dl_size size state = (.ok ⟨⟩, next)) :
    size ≤ DLFW_PKT_SIZE_LIMIT ∧ next = { state with adapter := { state.adapter with dlfw_pkt_size := size } } := by
  have ⟨bounded, evens⟩ := require_bind_eq_ok.mp success
  have ⟨_, updates⟩ := require_bind_eq_ok.mp evens
  exact ⟨of_decide_eq_true bounded, (congrArg Prod.snd updates).symm⟩

section

variable {fw_bin : ByteMap} {size : UInt32} {adapter : DlfwAdapter} {mcufw_ctrl : UInt16} {page : UInt16 × List UInt8}

private theorem running_begin (low : Nat) (below : low ≤ 64) (idle : adapter.rsvd_pg_state = .IDLE) :
    Running adapter low 64 [] (Download.begin adapter mcufw_ctrl page) :=
  ⟨rfl, rfl, idle, below, Nat.le_refl _, rfl⟩

theorem start_dlfw_granted {platform : Platform} (succeeds : platform.Succeeds)
    (limited : adapter.dlfw_pkt_size ≤ DLFW_PKT_SIZE_LIMIT) (progress : adapter.dlfw_pkt_size ≠ 0)
    (idle : adapter.rsvd_pg_state = .IDLE) :
    ∃ dmem imem, ∃ emem,
      let delivers := Delivers fw_bin adapter.dlfw_pkt_size.toNat 0 (OCPBASE_TXBUF_88XX + adapter.txdesc_size)
      let imem_start := 64 + (dmem_size fw_bin).toNat
      let emem_start := imem_start + (imem_size fw_bin).toNat
      (delivers 64 imem_start (sectionAddr fw_bin WLAN_FW_HDR_DMEM_ADDR) true dmem ∧
        delivers imem_start emem_start (sectionAddr fw_bin WLAN_FW_HDR_IMEM_ADDR) true imem ∧
        delivers emem_start (emem_start + (emem_size fw_bin).toNat) (sectionAddr fw_bin WLAN_FW_HDR_EMEM_ADDR) true
          emem) ∧
      Running adapter (imageEnd fw_bin) (imageEnd fw_bin) (dmem ++ imem ++ emem)
        (start_dlfw platform fw_bin 0 false (Download.begin adapter mcufw_ctrl page)).2 := by
  have ⟨ends, fails⟩ := @triple_start_dlfw platform fw_bin adapter 0 limited progress _
    (@running_begin adapter mcufw_ctrl page 64 (Nat.le_refl _) idle)
  cases outcome : start_dlfw platform fw_bin 0 false (Download.begin adapter mcufw_ctrl page) with
  | mk answer final =>
      cases answer with
      | ok value =>
          have ⟨dmem, imem, emem, delivers, running⟩ := ends value final outcome
          have source : OCPBASE_TXBUF_88XX + (0 : UInt32) <<< 7 = OCPBASE_TXBUF_88XX := rfl
          rw [source] at delivers
          exact ⟨dmem, imem, emem, delivers, running⟩
      | error code => exact absurd succeeds (fails code final outcome).2

theorem downloadsImage_of_fits (limited : adapter.dlfw_pkt_size ≤ DLFW_PKT_SIZE_LIMIT)
    (progress : adapter.dlfw_pkt_size ≠ 0) (idle : adapter.rsvd_pg_state = .IDLE) (fits : imageSize fw_bin < 2 ^ 32)
    (whole : size.toNat = imageEnd fw_bin % 2 ^ 32) :
    DownloadsImage fw_bin size (Download.begin adapter mcufw_ctrl page) := by
  have ⟨dmem_is, imem_is, emem_is, end_is⟩ := sizes_of_fits fits
  have size_is : size.toNat = imageEnd fw_bin := by omega
  have header : 64 ≤ imageEnd fw_bin := by unfold imageEnd; omega
  refine ⟨fun platform dl_addr emem_only => start_dlfw_ends _ _ _ _ _, fun platform dl_addr emem_only => ?_,
    fun platform succeeds => ?_⟩
  · rw [size_is]
    refine (reach_le_iff header).mp ?_
    cases emem_only with
    | true =>
        have ⟨ends, fails⟩ := @triple_start_emem platform fw_bin adapter [] dl_addr limited progress _
          (@running_begin adapter mcufw_ctrl page 0 (Nat.zero_le _) idle)
        cases outcome : start_dlfw platform fw_bin dl_addr true (Download.begin adapter mcufw_ctrl page) with
        | mk answer final =>
            cases answer with
            | ok value => exact ends value final outcome
            | error code => exact (fails code final outcome).1
    | false =>
        have ⟨ends, fails⟩ := @triple_start_dlfw platform fw_bin adapter dl_addr limited progress _
          (@running_begin adapter mcufw_ctrl page 64 (Nat.le_refl _) idle)
        cases outcome : start_dlfw platform fw_bin dl_addr false (Download.begin adapter mcufw_ctrl page) with
        | mk answer final =>
            cases answer with
            | ok value =>
                have ⟨_, _, _, _, running⟩ := ends value final outcome
                exact running.most
            | error code => exact (fails code final outcome).1
  · have ⟨dmem, imem, emem, delivers, running⟩ := @start_dlfw_granted fw_bin adapter mcufw_ctrl page platform succeeds
      limited progress idle
    rw [dmem_is, imem_is, emem_is] at delivers
    exact ⟨dmem, imem, emem, running.transfers, delivers⟩

private theorem sectionSize_pos (fw_bin : ByteMap) (offset : Nat) : 0 < sectionSize fw_bin offset := by
  unfold sectionSize
  omega

theorem fits_of_downloadsImage (limited : adapter.dlfw_pkt_size ≤ DLFW_PKT_SIZE_LIMIT) (header : 64 ≤ size.toNat)
    (downloads : DownloadsImage fw_bin size (Download.begin adapter mcufw_ctrl page)) :
    adapter.dlfw_pkt_size ≠ 0 ∧ adapter.rsvd_pg_state = .IDLE ∧ imageSize fw_bin < 2 ^ 32 := by
  have covers := downloads.covers .granting Platform.granting_succeeds
  have ⟨dmem, imem, emem, transferred, dmem_delivers, _, _⟩ := covers
  have ⟨limit_pos, some_transfer⟩ := dmem_delivers.limit_ne_zero (Nat.lt_add_of_pos_right (sectionSize_pos _ _))
  have progress : adapter.dlfw_pkt_size ≠ 0 := fun zero => limit_pos (congrArg UInt32.toNat zero)
  have idle : adapter.rsvd_pg_state = .IDLE := by
    cases state : adapter.rsvd_pg_state with
    | IDLE => rfl
    | BUSY =>
        have blocked := blocked_start_dlfw .granting fw_bin 0 false (Download.begin adapter mcufw_ctrl page) ⟨state, rfl⟩
        rw [blocked.2] at transferred
        have none := List.append_eq_nil_iff.mp (List.append_eq_nil_iff.mp transferred.symm).1
        exact absurd none.1 some_transfer
  refine ⟨progress, idle, ?_⟩
  have ⟨dmem32, imem32, emem32, ⟨dmem_made, imem_made, emem_made⟩, running⟩ :=
    @start_dlfw_granted fw_bin adapter mcufw_ctrl page _ Platform.granting_succeeds limited progress idle
  have total := covers.length
  have dmem_length := dmem_made.length
  have imem_length := imem_made.length
  have emem_length := emem_made.length
  rw [running.transfers, List.map_append, List.map_append, List.sum_append, List.sum_append] at total
  have read_end := Nat.le_trans running.least ((reach_le_iff header).mpr (downloads.inside .granting 0 false))
  have small := size.toNat_lt
  unfold imageEnd at read_end
  omega

end

/-- A download covers exactly the image that was checked if and only if the packet size is not
zero, no other page is under way, and the sum of the header's sizes needs no more than 32 bits. -/
theorem start_dlfw_covers_iff {fw_bin : ByteMap} {size pkt_size : UInt32} {adapter : DlfwAdapter}
    {mcufw_ctrl : UInt16} {page : UInt16 × List UInt8} {configured : Download}
    (configures : cfg_max_dl_size pkt_size (Download.begin adapter mcufw_ctrl page) = (.ok ⟨⟩, configured))
    (accepted : (chk_fw_size fw_bin size configured).1 = .ok ⟨⟩) :
    DownloadsImage fw_bin size configured <->
      pkt_size ≠ 0 ∧ adapter.rsvd_pg_state = .IDLE ∧ imageSize fw_bin < 2 ^ 32 := by
  obtain ⟨limited, configured_is⟩ := cfg_max_dl_size_ok configures
  obtain ⟨header, whole⟩ := chk_fw_size_ok accepted
  subst configured_is
  constructor
  · intro downloads
    exact @fits_of_downloadsImage fw_bin size { adapter with dlfw_pkt_size := pkt_size } mcufw_ctrl page limited header
      downloads
  · rintro ⟨progress, idle, fits⟩
    exact @downloadsImage_of_fits fw_bin size { adapter with dlfw_pkt_size := pkt_size } mcufw_ctrl page limited
      progress idle fits whole

def DlfwAdapter.fresh : DlfwAdapter where
  intf := .PCIE
  txdesc_size := TX_DESC_SIZE_88XX
  dlfw_pkt_size := DLFW_PKT_SIZE_LIMIT
  rsvd_pg_state := .IDLE
  fw_ver := ⟨0, 0, 0, 0, 0, 0, 0, 0, 0⟩

/-- An image with two empty sections, in packets of sixteen bytes. -/
theorem start_dlfw_covers_empty_sections :
    DownloadsImage (fun _ => 0) 80 (Download.begin { DlfwAdapter.fresh with dlfw_pkt_size := 16 } 0 (0, [])) :=
  (@start_dlfw_covers_iff (fun _ => 0) 80 16 DlfwAdapter.fresh 0 (0, []) _ rfl (by decide)).mpr
    ⟨by decide, rfl, by decide⟩

/-- The header of an image whose data memory has `0xfffffff0` bytes without its checksum. -/
def wrappingImage : ByteMap := fun offset =>
  if offset = WLAN_FW_HDR_DMEM_SIZE then 0xf0
  else if WLAN_FW_HDR_DMEM_SIZE < offset ∧ offset < WLAN_FW_HDR_DMEM_SIZE + 4 then 0xff
  else 0

/-- Packets of zero bytes are configured, and an image of 64 bytes is accepted whose header
describes more than four gigabytes; neither download covers the image. -/
theorem start_dlfw_misses_image :
    (cfg_max_dl_size 0 (Download.begin .fresh 0 (0, []))).1 = .ok ⟨⟩ ∧
      (chk_fw_size (fun _ => 0) 80 (cfg_max_dl_size 0 (Download.begin .fresh 0 (0, []))).2).1 = .ok ⟨⟩ ∧
      ¬ DownloadsImage (fun _ => 0) 80 (cfg_max_dl_size 0 (Download.begin .fresh 0 (0, []))).2 ∧
      (chk_fw_size wrappingImage 64 (Download.begin .fresh 0 (0, []))).1 = .ok ⟨⟩ ∧
      ¬ DownloadsImage wrappingImage 64 (Download.begin .fresh 0 (0, [])) := by
  refine ⟨rfl, by decide, fun downloads => ?_, by decide, fun downloads => ?_⟩
  · exact absurd rfl (@fits_of_downloadsImage (fun _ => 0) 80 { DlfwAdapter.fresh with dlfw_pkt_size := 0 } 0 (0, [])
      (by decide) (by decide) downloads).1
  · exact absurd (@fits_of_downloadsImage wrappingImage 64 .fresh 0 (0, []) (by decide) (by decide) downloads).2.2
      (by decide)

end Firmware

end Rtl8821ce
