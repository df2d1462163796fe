import Rtl8821ce.Ap.SleepQueues

/-!
# Power save in every run

The steps of a run, seen by one station.  Only a PS-Poll treats a frame by
anything else than the category of that frame, so a fact about single stations
has to be proved for a PS-Poll and is kept by all other steps.
-/

namespace Rtl8821ce
namespace ApXmit

open Placement

variable {cfg : AssocConfig} {s t : XmitPriv} {psta : Sta} {pxmitframe : Frame}

/-! ## All frames of a station leave -/

theorem bmp_clear_eq (bmp : Nat -> Bool) {bmp_len id : Nat} (inside : id / 8 < bmp_len) (other : Nat) :
    rtw_bmp_clear bmp bmp_len id other = (bmp other && !decide (other = id)) := by
  rw [rtw_bmp_clear, if_pos inside]
  by_cases same : other = id
  · rw [same, Function.update_self]
    simp
  · rw [Function.update_of_ne same]
    simp [same]

theorem bmp_clear_of_ne (bmp : Nat -> Bool) (bmp_len : Nat) {id other : Nat} (different : other ≠ id) :
    rtw_bmp_clear bmp bmp_len id other = bmp other := by
  unfold rtw_bmp_clear
  split
  · rw [Function.update_of_ne different]
  · rfl

theorem Unconcerned.tim_map_clear (s : XmitPriv) {id : Nat}
    (different : HasAid cfg psta -> (cfg.sta psta).aid ≠ id) : Unconcerned cfg s (s.tim_map_clear id) psta :=
  ⟨Iff.rfl, ⟨rfl, rfl, rfl, rfl⟩, fun asleep => asleep, rfl, rfl, rfl, fun _ _ => rfl,
    fun own => bmp_clear_of_ne _ _ (different own)⟩

theorem Unconcerned.modify_other (s : XmitPriv) {sta : Sta} (different : sta ≠ psta) (change : TxSta -> TxSta) :
    Unconcerned cfg s (s.modify_sta psta change) sta := by
  have record : (s.modify_sta psta change).sta sta = s.sta sta := Function.update_of_ne different _ _
  constructor
  case sta_hash => exact Iff.rfl
  case settings =>
    rw [record]
    exact ⟨rfl, rfl, rfl, rfl⟩
  case sleeping =>
    rw [record]
    exact id
  case sleepq_len => rw [record]
  case sleepq_ac_len => rw [record]
  case sleep_q => rfl
  case priority => exact fun _ _ => rfl
  case tim => exact fun _ => rfl

/-- The frames of one station have left, and its bit is clear. -/
structure Drained (cfg : AssocConfig) (s : XmitPriv) (psta : Sta) (t : XmitPriv) : Prop where
  buffering : Buffering cfg t
  others : ∀ sta, sta ≠ psta -> Unconcerned cfg s t sta
  counts : Counts s psta -> Counts t psta
  empty : t.queue (.sleep_q psta) = []
  tim : HasAid cfg psta -> t.tim_bitmap (cfg.sta psta).aid = false

/-- They leave one by one. -/
structure Draining (cfg : AssocConfig) (s : XmitPriv) (psta : Sta) (u : XmitPriv) : Prop where
  buffering : Buffering cfg u
  others : ∀ sta, sta ≠ psta -> Unconcerned cfg s u sta
  counts : Counts s psta -> Counts u psta
  sta_hash : u.sta_hash = s.sta_hash

theorem Buffering.release (buffering : Buffering cfg s) (there : pxmitframe ∈ s.queue (.sleep_q psta))
    {wmmps_ac : Bool} (kind : (s.sta psta).has_legacy_ac = false -> wmmps_ac = delivery_enabled s psta pxmitframe) :
    Buffering cfg (release_frame s psta pxmitframe wmmps_ac) := by
  have placed := buffering.accounted.counted.placed
  have gone := released placed there wmmps_ac
  constructor
  case accounted => exact (buffering.accounted.release_step there wmmps_ac).1
  case nodup =>
    rw [gone.sta_hash]
    exact buffering.nodup
  case buffered =>
    intro sta
    by_cases same : sta = psta
    · rw [same]
      exact gone.buffered (buffering.buffered psta) kind
    · exact (gone.unconcerned placed same).buffered (buffering.buffered sta)

theorem Draining.release {u : XmitPriv} (draining : Draining cfg s psta u) {rest : List Frame}
    (first : u.queue (.sleep_q psta) = pxmitframe :: rest) {wmmps_ac : Bool}
    (kind : wmmps_ac = delivery_enabled u psta pxmitframe) :
    Draining cfg s psta (release_frame u psta pxmitframe wmmps_ac) ∧
      (release_frame u psta pxmitframe wmmps_ac).queue (.sleep_q psta) = rest := by
  have placed := draining.buffering.accounted.counted.placed
  have there : pxmitframe ∈ u.queue (.sleep_q psta) := by
    rw [first]
    exact List.mem_cons_self
  have gone := released placed there wmmps_ac
  constructor
  · constructor
    case buffering => exact draining.buffering.release there (fun _ => kind)
    case others => exact fun sta different => (draining.others sta different).trans (gone.unconcerned placed different)
    case counts => exact fun counts => gone.counts (draining.counts counts) kind
    case sta_hash => exact gone.sta_hash.trans draining.sta_hash
  · rw [gone.sleep_q, first, List.erase_cons_head]

theorem Draining.loop {u : XmitPriv} (kind : XmitPriv -> Frame -> Bool)
    (right : ∀ {u pxmitframe}, Draining cfg s psta u -> pxmitframe ∈ u.queue (.sleep_q psta) ->
      kind u pxmitframe = delivery_enabled u psta pxmitframe)
    (frames : List Frame) (draining : Draining cfg s psta u) (all : u.queue (.sleep_q psta) = frames) :
    Draining cfg s psta (frames.foldl (fun s pxmitframe => release_frame s psta pxmitframe (kind s pxmitframe)) u) ∧
      (frames.foldl (fun s pxmitframe => release_frame s psta pxmitframe (kind s pxmitframe)) u).queue
        (.sleep_q psta) = [] := by
  induction frames generalizing u with
  | nil => exact ⟨draining, all⟩
  | cons pxmitframe rest ih =>
      have there : pxmitframe ∈ u.queue (.sleep_q psta) := by
        rw [all]
        exact List.mem_cons_self
      rcases draining.release all (right draining there) with ⟨next, left⟩
      exact ih next left

theorem Draining.start (buffering : Buffering cfg s) (psta : Sta) : Draining cfg s psta s :=
  ⟨buffering, fun sta _ => Unconcerned.refl s sta, id, rfl⟩

theorem counts_empty (empty : s.queue (.sleep_q psta) = []) : Counts s psta <-> (s.sta psta).sleepq_ac_len = 0 := by
  rw [Counts, empty, List.countP_nil]

theorem Buffering.wakeup_sta (buffering : Buffering cfg s) (here : psta ∈ s.sta_hash) :
    Drained cfg s psta (wakeup_sta s psta) := by
  have accounted := buffering.accounted.wakeup_sta psta
  rcases Draining.loop (fun s pxmitframe => delivery_enabled s psta pxmitframe) (fun _ _ => rfl) _
    (Draining.start buffering psta) rfl with ⟨left, empty⟩
  unfold ApXmit.wakeup_sta at accounted ⊢
  dsimp only at accounted ⊢
  generalize (s.queue (.sleep_q psta)).foldl (fun s pxmitframe =>
    ApXmit.release_frame s psta pxmitframe (delivery_enabled s psta pxmitframe)) s = u at *
  have buffered := left.buffering.buffered psta
  rw [← left.sta_hash] at here
  have len : (u.sta psta).sleepq_len = 0 := by
    rw [buffered.len, empty]
    rfl
  rw [if_pos len] at accounted ⊢
  have awake : (u.modify_sta psta (fun sta => { sta with sleeping := false })).sta psta =
      { u.sta psta with sleeping := false } := Function.update_self _ _ _
  generalize final : ((u.tim_map_clear (u.sta psta).aid).modify_sta psta (fun sta =>
    { sta with sleeping := false })).dz_map_clear (u.sta psta).aid = t at *
  have record : t.sta psta = { u.sta psta with sleeping := false } := by
    rw [← final]
    exact awake
  have queue : t.queue = u.queue := by
    rw [← final]
    rfl
  have sta_hash : t.sta_hash = u.sta_hash := by
    rw [← final]
    rfl
  have others : ∀ sta, sta ≠ psta -> Unconcerned cfg u t sta := by
    intro sta different
    rw [← final]
    have cleared := Unconcerned.tim_map_clear u (buffered.aid_ne here different)
    have changed := @Unconcerned.modify_other cfg psta (u.tim_map_clear (u.sta psta).aid) sta different
      (fun sta => { sta with sleeping := false })
    exact (cleared.trans changed).trans (Unconcerned.of_eq rfl rfl rfl rfl rfl)
  constructor
  case buffering =>
    refine ⟨accounted, by rw [sta_hash]; exact left.buffering.nodup, fun sta => ?_⟩
    by_cases same : sta = psta
    · rw [same]
      constructor
      case mac_addr =>
        rw [record]
        exact buffered.mac_addr
      case known =>
        intro _
        rw [record]
        exact buffered.known_of_same here ⟨rfl, rfl, rfl, rfl⟩
      case gone =>
        rw [sta_hash]
        exact fun absent => absurd here absent
      case len =>
        rw [record, queue]
        exact buffered.len
      case asleep =>
        rw [queue]
        exact fun _ nonempty => absurd empty nonempty
      case delivered =>
        rw [record, counts_empty (queue ▸ empty), record]
        exact fun _ all => (counts_empty empty).mp (buffered.delivered here all)
    · exact (others sta same).buffered (left.buffering.buffered sta)
  case others => exact fun sta different => (left.others sta different).trans (others sta different)
  case counts =>
    intro counts
    rw [counts_empty (queue ▸ empty), record]
    exact (counts_empty empty).mp (left.counts counts)
  case empty => exact queue ▸ empty
  case tim =>
    intro _
    rw [← final]
    show rtw_bmp_clear u.tim_bitmap u.aid_bmp_len (u.sta psta).aid (cfg.sta psta).aid = false
    rw [bmp_clear_eq _ (left.buffering.accounted.ids psta), buffered.aid here]
    simp

theorem Buffering.wakeup_bmc (buffering : Buffering cfg s) {psta_bmc : Sta}
    (mcast : IS_MCAST (cfg.sta psta_bmc).mac_addr = true) :
    wakeup_bmc s psta_bmc = s ∨ Drained cfg s psta_bmc (wakeup_bmc s psta_bmc) := by
  have accounted := buffering.accounted.wakeup_bmc psta_bmc
  have noAid : ¬ HasAid cfg psta_bmc := fun own => own.2 (cfg.bcmc psta_bmc mcast).2
  rcases Draining.loop (fun _ _ => false) (fun {u _} draining there => by
      have buffered := draining.buffering.buffered psta_bmc
      rw [← buffered.mac_addr] at mcast
      rw [delivery_enabled, buffered.group (buffered.here there) mcast]) _
    (Draining.start buffering psta_bmc) rfl with ⟨left, empty⟩
  unfold ApXmit.wakeup_bmc at accounted ⊢
  split
  case isTrue => exact Or.inl rfl
  case isFalse nobody =>
    rw [if_neg nobody] at accounted
    refine Or.inr ?_
    dsimp only at accounted ⊢
    generalize (s.queue (.sleep_q psta_bmc)).foldl (fun s pxmitframe =>
      ApXmit.release_frame s psta_bmc pxmitframe false) s = u at *
    have len : (u.sta psta_bmc).sleepq_len = 0 := by
      rw [(left.buffering.buffered psta_bmc).len, empty]
      rfl
    rw [if_pos len] at accounted ⊢
    have all : ∀ sta, Unconcerned cfg u ((u.tim_map_clear 0).dz_map_clear 0) sta := fun sta =>
      (Unconcerned.tim_map_clear u (fun own => own.2)).trans (Unconcerned.of_eq rfl rfl rfl rfl rfl)
    constructor
    case buffering => exact ⟨accounted, left.buffering.nodup, fun sta => (all sta).buffered (left.buffering.buffered sta)⟩
    case others => exact fun sta different => (left.others sta different).trans (all sta)
    case counts => exact fun counts => (all psta_bmc).counts (left.counts counts)
    case empty => exact empty
    case tim => exact fun own => absurd own noAid

/-- What freeing lists of frames leaves alone. -/
structure SameStations (s t : XmitPriv) : Prop where
  placed : Placed t.queue
  sta_hash : t.sta_hash = s.sta_hash
  sta : t.sta = s.sta
  attrib : t.attrib = s.attrib
  tim_bitmap : t.tim_bitmap = s.tim_bitmap
  aid_bmp_len : t.aid_bmp_len = s.aid_bmp_len

theorem SameStations.trans {u : XmitPriv} (one : SameStations s t) (two : SameStations t u) : SameStations s u :=
  ⟨two.placed, two.sta_hash.trans one.sta_hash, two.sta.trans one.sta, two.attrib.trans one.attrib,
    two.tim_bitmap.trans one.tim_bitmap, two.aid_bmp_len.trans one.aid_bmp_len⟩

theorem Emptied.same_stations {place : Place} (emptied : Emptied s place t) : SameStations s t := by
  refine ⟨emptied.placed, ?_, ?_, ?_, ?_, ?_⟩
  all_goals
    rw [emptied.rest]

theorem free_servqs (categories : List Ac) (placed : Placed s.queue) (psta : Sta) :
    SameStations s (categories.foldl (fun s ac => free_servq s psta ac) s) ∧ ∀ sta,
      (categories.foldl (fun s ac => free_servq s psta ac) s).queue (.sleep_q sta) = s.queue (.sleep_q sta) := by
  induction categories generalizing s with
  | nil => exact ⟨⟨placed, rfl, rfl, rfl, rfl, rfl⟩, fun _ => rfl⟩
  | cons ac rest ih =>
      have emptied : Emptied s (.sta_pending psta ac) _ := free_xmitframe_queue placed nofun
      have freed : SameStations s (free_servq s psta ac) :=
        emptied.same_stations.trans ⟨emptied.placed, rfl, rfl, rfl, rfl, rfl⟩
      rcases ih freed.placed with ⟨same, kept⟩
      exact ⟨freed.trans same, fun sta => (kept sta).trans (emptied.kept _ nofun nofun)⟩

theorem Unconcerned.forget (s : XmitPriv) {sta : Sta} (different : sta ≠ psta) :
    Unconcerned cfg s (s.forget psta) sta := by
  have changed : Unconcerned cfg s (s.modify_sta psta (fun sta => { sta with fw_linked := false })) sta :=
    Unconcerned.modify_other s different _
  refine { changed with sta_hash := ?_ }
  exact List.mem_erase_of_ne different

/-- The last step takes the id away, after the bits of the id are cleared. -/
structure FreesAid (s : XmitPriv) (psta : Sta) (t : XmitPriv) : Prop where
  sta_hash : t.sta_hash = s.sta_hash
  queue : t.queue = s.queue
  mac_addr : (t.sta psta).mac_addr = (s.sta psta).mac_addr
  sleepq_len : (t.sta psta).sleepq_len = (s.sta psta).sleepq_len
  sleepq_ac_len : (t.sta psta).sleepq_ac_len = (s.sta psta).sleepq_ac_len
  tim_bitmap : t.tim_bitmap = rtw_bmp_clear s.tim_bitmap s.aid_bmp_len (s.sta psta).aid
  others : ∀ {cfg : AssocConfig} sta, sta ≠ psta -> (HasAid cfg sta -> (cfg.sta sta).aid ≠ (s.sta psta).aid) ->
    Unconcerned cfg s t sta

theorem frees_aid (s : XmitPriv) (psta : Sta) : FreesAid s psta (free_aid s psta) := by
  unfold free_aid
  dsimp only
  have bits : ∀ {cfg : AssocConfig} sta, (HasAid cfg sta -> (cfg.sta sta).aid ≠ (s.sta psta).aid) ->
      Unconcerned cfg s ((s.dz_map_clear (s.sta psta).aid).tim_map_clear (s.sta psta).aid) sta := by
    intro cfg sta different
    have dozing : Unconcerned cfg s (s.dz_map_clear (s.sta psta).aid) sta :=
      Unconcerned.of_eq rfl rfl rfl rfl rfl
    exact dozing.trans (Unconcerned.tim_map_clear (s.dz_map_clear (s.sta psta).aid) different)
  split
  case isTrue =>
    constructor
    case sta_hash => rfl
    case queue => rfl
    case mac_addr => simp [XmitPriv.modify_sta, XmitPriv.tim_map_clear, XmitPriv.dz_map_clear]
    case sleepq_len => simp [XmitPriv.modify_sta, XmitPriv.tim_map_clear, XmitPriv.dz_map_clear]
    case sleepq_ac_len => simp [XmitPriv.modify_sta, XmitPriv.tim_map_clear, XmitPriv.dz_map_clear]
    case tim_bitmap => rfl
    case others =>
      intro cfg sta elsewhere different
      have cleared := bits sta different
      generalize (s.dz_map_clear (s.sta psta).aid).tim_map_clear (s.sta psta).aid = u at *
      have taken : Unconcerned cfg u
          { u with sta_aid := Function.update u.sta_aid ((s.sta psta).aid - 1) none } sta :=
        Unconcerned.of_eq rfl rfl rfl rfl rfl
      exact (cleared.trans taken).trans (Unconcerned.modify_other _ elsewhere _)
  case isFalse => exact ⟨rfl, rfl, rfl, rfl, rfl, rfl, fun sta _ different => bits sta different⟩

theorem Buffering.free_stainfo (buffering : Buffering cfg s) (here : psta ∈ s.sta_hash) :
    Drained cfg s psta (rtw_free_stainfo s psta) := by
  have accounted := buffering.accounted.free_stainfo psta
  have buffered := buffering.buffered psta
  have emptied := @free_xmitframe_queue (s.forget psta) buffering.accounted.counted.placed (.sleep_q psta) nofun
  unfold ApXmit.rtw_free_stainfo at accounted ⊢
  dsimp only at accounted ⊢
  generalize rtw_free_xmitframe_queue (s.forget psta) (.sleep_q psta) = u at *
  have left : Placed (u.modify_sta psta (fun sta => { sta with sleepq_len := 0 })).queue := emptied.placed
  rcases free_servqs [Ac.vo, .vi, .be, .bk] left psta with ⟨same, kept⟩
  generalize List.foldl (fun s ac => free_servq s psta ac) (u.modify_sta psta
    (fun sta => { sta with sleepq_len := 0 })) [Ac.vo, .vi, .be, .bk] = v at *
  have freed := frees_aid (v.modify_sta psta TxSta.reset) psta
  generalize free_aid (v.modify_sta psta TxSta.reset) psta = t at *
  have record : (v.modify_sta psta TxSta.reset).sta psta =
      TxSta.reset { s.sta psta with fw_linked := false, sleepq_len := 0 } := by
    have first : u.sta psta = { s.sta psta with fw_linked := false } := by
      rw [emptied.same_stations.sta]
      exact Function.update_self _ _ _
    simp [XmitPriv.modify_sta, same.sta, first]
  have sta_hash : t.sta_hash = s.sta_hash.erase psta := by
    rw [freed.sta_hash]
    exact same.sta_hash.trans emptied.same_stations.sta_hash
  have absent : psta ∉ t.sta_hash := by
    rw [sta_hash]
    exact buffering.nodup.not_mem_erase
  have empty : t.queue (.sleep_q psta) = [] := by
    rw [freed.queue]
    exact (kept psta).trans emptied.empty
  have ac_len : (t.sta psta).sleepq_ac_len = 0 := by
    rw [freed.sleepq_ac_len, record]
    rfl
  have others : ∀ sta, sta ≠ psta -> Unconcerned cfg s t sta := by
    intro sta different
    have listed : Unconcerned cfg (s.forget psta) u sta := by
      have same := emptied.same_stations
      refine Unconcerned.of_eq same.sta_hash same.sta same.attrib same.tim_bitmap (emptied.kept _ ?_ nofun)
      exact fun clash => different (Place.sleep_q.inj clash)
    have queues : Unconcerned cfg (u.modify_sta psta (fun sta => { sta with sleepq_len := 0 })) v sta :=
      Unconcerned.of_eq same.sta_hash same.sta same.attrib same.tim_bitmap (kept sta)
    have last : Unconcerned cfg (v.modify_sta psta TxSta.reset) t sta := by
      refine freed.others sta different ?_
      rw [record]
      exact buffered.aid_ne here different
    exact ((((Unconcerned.forget s different).trans listed).trans (Unconcerned.modify_other u different _)).trans
      queues).trans ((Unconcerned.modify_other v different _).trans last)
  constructor
  case buffering =>
    refine ⟨accounted, by rw [sta_hash]; exact buffering.nodup.erase psta, fun sta => ?_⟩
    by_cases own : sta = psta
    · rw [own]
      constructor
      case mac_addr =>
        rw [freed.mac_addr, record]
        exact buffered.mac_addr
      case known => exact fun there => absurd there absent
      case gone => exact fun _ => ⟨empty, ac_len⟩
      case len =>
        rw [freed.sleepq_len, record, empty]
        rfl
      case asleep => exact fun _ nonempty => absurd empty nonempty
      case delivered => exact fun there => absurd there absent
    · exact (others sta own).buffered (buffering.buffered sta)
  case others => exact others
  case counts => exact fun _ => (counts_empty empty).mpr ac_len
  case empty => exact empty
  case tim =>
    intro _
    have id : ((v.modify_sta psta TxSta.reset).sta psta).aid = (cfg.sta psta).aid := by
      rw [record]
      exact buffered.aid here
    have inside : (cfg.sta psta).aid / 8 < (v.modify_sta psta TxSta.reset).aid_bmp_len := by
      have room := buffering.accounted.ids psta
      rw [buffered.aid here] at room
      have long : v.aid_bmp_len = s.aid_bmp_len := same.aid_bmp_len.trans emptied.same_stations.aid_bmp_len
      show _ < v.aid_bmp_len
      rw [long]
      exact room
    rw [freed.tim_bitmap, id, bmp_clear_eq _ inside]
    simp

theorem Buffering.tim_map_clear (buffering : Buffering cfg s) (id : Nat) : Buffering cfg (s.tim_map_clear id) where
  accounted := buffering.accounted.congr (SameLists.bits rfl rfl rfl rfl rfl rfl rfl rfl)
  nodup := buffering.nodup
  buffered psta :=
    have buffered := buffering.buffered psta
    ⟨buffered.mac_addr, buffered.known, buffered.gone, buffered.len, buffered.asleep, buffered.delivered⟩

/-- What a service to one station keeps. -/
structure Served (cfg : AssocConfig) (s : XmitPriv) (psta : Sta) (t : XmitPriv) : Prop where
  buffering : Buffering cfg t
  others : ∀ sta, sta ≠ psta -> Unconcerned cfg s t sta
  sta_hash : t.sta_hash = s.sta_hash

theorem Served.tim_map_clear (served : Served cfg s psta t) (here : psta ∈ s.sta_hash) :
    Served cfg s psta (t.tim_map_clear (t.sta psta).aid) where
  buffering := served.buffering.tim_map_clear _
  others sta different := (served.others sta different).trans (Unconcerned.tim_map_clear t
    ((served.buffering.buffered psta).aid_ne (served.sta_hash ▸ here) different))
  sta_hash := served.sta_hash

theorem Buffering.served (buffering : Buffering cfg s) (there : pxmitframe ∈ s.queue (.sleep_q psta))
    {wmmps_ac : Bool} (kind : (s.sta psta).has_legacy_ac = false -> wmmps_ac = delivery_enabled s psta pxmitframe) :
    Served cfg s psta (release_frame s psta pxmitframe wmmps_ac) where
  buffering := buffering.release there kind
  others _ different :=
    (released buffering.accounted.counted.placed there wmmps_ac).unconcerned buffering.accounted.counted.placed
      different
  sta_hash := (released buffering.accounted.counted.placed there wmmps_ac).sta_hash

theorem Buffering.deliver (buffering : Buffering cfg s) (here : psta ∈ s.sta_hash)
    (there : pxmitframe ∈ s.queue (.sleep_q psta)) : Served cfg s psta (deliver psta s pxmitframe) := by
  unfold ApXmit.deliver
  split
  case isTrue enabled =>
    have served := buffering.served there (fun _ => enabled.symm)
    dsimp only
    split
    case isTrue => exact served.tim_map_clear here
    case isFalse => exact served
  case isFalse => exact ⟨buffering, fun sta _ => Unconcerned.refl s sta, rfl⟩

theorem Buffered.legacy (buffered : Buffered cfg s psta) (here : psta ∈ s.sta_hash) {aid priority : Nat}
    (accepted : accepts_ps_poll s psta aid priority = true) : (s.sta psta).has_legacy_ac = true := by
  cases legacy : (s.sta psta).has_legacy_ac with
  | true => rfl
  | false =>
      have enabled := buffered.all here legacy priority
      rw [← buffered.bits here] at enabled
      rw [accepts_ps_poll, enabled, Bool.not_true, Bool.and_false] at accepted
      cases accepted

theorem Buffering.serve_ps_poll (buffering : Buffering cfg s) (here : psta ∈ s.sta_hash)
    (legacy : (s.sta psta).has_legacy_ac = true) : Served cfg s psta (serve_ps_poll s psta) := by
  have accounted := buffering.accounted.serve_ps_poll psta
  unfold ApXmit.serve_ps_poll at accounted ⊢
  split
  case h_1 pxmitframe rest first =>
    have there : pxmitframe ∈ s.queue (.sleep_q psta) := by
      rw [first]
      exact List.mem_cons_self
    have served : Served cfg s psta (release_frame s psta pxmitframe false) :=
      buffering.served there (fun all => absurd (legacy.symm.trans all) nofun)
    dsimp only
    split
    case isTrue => exact served.tim_map_clear here
    case isFalse => exact served
  case h_2 empty =>
    split
    case isFalse => exact ⟨buffering, fun sta _ => Unconcerned.refl s sta, rfl⟩
    case isTrue set =>
      simp only [empty, set, if_true] at accounted
      have buffered := buffering.buffered psta
      have record : (s.modify_sta psta (fun sta => { sta with sleepq_len := 0 })).sta psta =
          { s.sta psta with sleepq_len := 0 } := Function.update_self _ _ _
      have others : ∀ sta, sta ≠ psta -> Unconcerned cfg s ((s.modify_sta psta
          (fun sta => { sta with sleepq_len := 0 })).tim_map_clear (s.sta psta).aid) sta :=
        fun sta different => (Unconcerned.modify_other s different _).trans
          (Unconcerned.tim_map_clear _ (buffered.aid_ne here different))
      refine ⟨⟨accounted, buffering.nodup, fun sta => ?_⟩, others, rfl⟩
      by_cases same : sta = psta
      · rw [same]
        constructor
        case mac_addr => exact record ▸ buffered.mac_addr
        case known =>
          intro _
          apply buffered.known_of_same here
          show SameSettings _ ((s.modify_sta psta (fun sta => { sta with sleepq_len := 0 })).sta psta)
          rw [record]
          exact ⟨rfl, rfl, rfl, rfl⟩
        case gone => exact fun absent => absurd here absent
        case len =>
          show ((s.modify_sta psta (fun sta => { sta with sleepq_len := 0 })).sta psta).sleepq_len =
            (s.queue (.sleep_q psta)).length
          rw [record, empty]
          rfl
        case asleep => exact fun _ nonempty => absurd empty nonempty
        case delivered =>
          intro _ all
          have all : ((s.modify_sta psta (fun sta => { sta with sleepq_len := 0 })).sta psta).has_legacy_ac =
            false := all
          rw [record, legacy] at all
          cases all
      · exact (others sta same).buffered (buffering.buffered sta)

/-! ## Every step -/

/-- A fact about single stations that only a PS-Poll can break. -/
structure Kept (cfg : AssocConfig) (P : XmitPriv -> Sta -> Prop) : Prop where
  unconcerned : ∀ {s t psta}, Unconcerned cfg s t psta -> P s psta -> P t psta
  entered : ∀ {s t psta pxmitframe wmmps_ac}, Entered s psta pxmitframe wmmps_ac t ->
    Buffered cfg s psta -> P s psta -> P t psta
  drained : ∀ {s t psta}, Drained cfg s psta t -> P s psta -> P t psta
  deliver : ∀ {s psta pxmitframe}, Buffering cfg s -> psta ∈ s.sta_hash ->
    pxmitframe ∈ s.queue (.sleep_q psta) -> P s psta -> P (deliver psta s pxmitframe) psta

/-- The stations of a state, apart from the other queues. -/
structure Stations (cfg : AssocConfig) (P : XmitPriv -> Sta -> Prop) (s : XmitPriv) : Prop where
  nodup : s.sta_hash.Nodup
  buffered : ∀ psta, Buffered cfg s psta
  all : ∀ psta, P s psta

variable {P : XmitPriv -> Sta -> Prop}

theorem Stations.unconcerned (stations : Stations cfg P s) (kept : Kept cfg P) (sta_hash : t.sta_hash = s.sta_hash)
    (same : ∀ psta, Unconcerned cfg s t psta) : Stations cfg P t where
  nodup := sta_hash ▸ stations.nodup
  buffered psta := (same psta).buffered (stations.buffered psta)
  all psta := kept.unconcerned (same psta) (stations.all psta)

theorem Unconcerned.move (placed : Placed s.queue) {source target : Place} (there : pxmitframe ∈ s.queue source)
    (leaves : ∀ sta, source ≠ .sleep_q sta) (arrives : ∀ sta, target ≠ .sleep_q sta) (psta : Sta) :
    Unconcerned cfg s (rtw_list_insert_tail s pxmitframe target) psta :=
  Unconcerned.of_eq rfl rfl rfl rfl
    (move_outside (placed.not_mem there (leaves psta).symm) (arrives psta).symm)

theorem Stations.entered (stations : Stations cfg P s) (kept : Kept cfg P) {wmmps_ac : Bool}
    (entered : Entered s psta pxmitframe wmmps_ac t) : Stations cfg P t where
  nodup := entered.sta_hash ▸ stations.nodup
  buffered sta := by
    by_cases same : sta = psta
    · rw [same]
      exact entered.buffered (stations.buffered psta)
    · exact (entered.unconcerned (stations.buffered psta) same).buffered (stations.buffered sta)
  all sta := by
    by_cases same : sta = psta
    · rw [same]
      exact kept.entered entered (stations.buffered psta) (stations.all psta)
    · exact kept.unconcerned (entered.unconcerned (stations.buffered psta) same) (stations.all sta)

theorem Stations.drained (stations : Stations cfg P s) (kept : Kept cfg P) (drained : Drained cfg s psta t) :
    Stations cfg P t where
  nodup := drained.buffering.nodup
  buffered := drained.buffering.buffered
  all sta := by
    by_cases same : sta = psta
    · rw [same]
      exact kept.drained drained (stations.all psta)
    · exact kept.unconcerned (drained.others sta same) (stations.all sta)

theorem Stations.served (stations : Stations cfg P s) (kept : Kept cfg P) (served : Served cfg s psta t)
    (own : P t psta) : Stations cfg P t where
  nodup := served.buffering.nodup
  buffered := served.buffering.buffered
  all sta := by
    by_cases same : sta = psta
    · rw [same]
      exact own
    · exact kept.unconcerned (served.others sta same) (stations.all sta)

theorem Stations.sleeping_enqueue (stations : Stations cfg P s) (kept : Kept cfg P) (placed : Placed s.queue)
    (ids : ∀ sta, (s.sta sta).aid / 8 < s.aid_bmp_len) (elsewhere : ∀ sta, pxmitframe ∉ s.queue (.sleep_q sta)) :
    Stations cfg P (xmitframe_enqueue_for_sleeping_sta s pxmitframe).1 := by
  rcases sleeping_enqueue_cases s pxmitframe with refused | ⟨sta, t, result, slept⟩
  · rw [refused]
    exact stations
  · have taken : (xmitframe_enqueue_for_sleeping_sta s pxmitframe).2 = true := by rw [result]
    rcases ApXmit.entered placed (ids sta) elsewhere slept.bound taken with ⟨wmmps_ac, entered⟩
    exact stations.entered kept entered

theorem Stations.stop_sta_xmit (stations : Stations cfg P s) (kept : Kept cfg P) (accounted : Accounted s)
    (psta : Sta) : Stations cfg P (stop_sta_xmit s psta) := by
  refine accounted.stop_sta_xmit_keep ?_ ?_ ?_
  · intro u sta ac queued goes there stations
    have untriggered : Stations cfg P (u.set_attrib queued (fun pattrib => { pattrib with triggered := false })) := by
      refine stations.unconcerned kept rfl (fun other => ?_)
      have same := (SameRoutes.untrigger u queued).priority
      exact ⟨Iff.rfl, ⟨rfl, rfl, rfl, rfl⟩, fun asleep => asleep, rfl, rfl, rfl, fun frame _ => same frame, fun _ => rfl⟩
    have elsewhere : ∀ other, queued ∉ u.queue (.sleep_q other) :=
      fun other => goes.counted.placed.not_mem there nofun
    have next := untriggered.sleeping_enqueue kept goes.counted.placed goes.ids elsewhere
    unfold dequeue_to_sleeping_queue
    dsimp only
    split
    case h_1 v moved =>
      rw [moved] at next
      exact next.unconcerned kept rfl (fun _ => Unconcerned.of_eq rfl rfl rfl rfl rfl)
    case h_2 v stayed =>
      rw [stayed] at next
      exact next
  · intro u sta ac stations
    exact stations.unconcerned kept rfl (fun _ => Unconcerned.of_eq rfl rfl rfl rfl rfl)
  · refine stations.unconcerned kept rfl (fun sta => ?_)
    by_cases same : sta = psta
    · rw [same]
      have record : (s.lull psta).sta psta = { s.sta psta with sleeping := true } := Function.update_self _ _ _
      constructor
      case sta_hash => exact Iff.rfl
      case settings =>
        rw [record]
        exact ⟨rfl, rfl, rfl, rfl⟩
      case sleeping =>
        rw [record]
        exact fun _ => rfl
      case sleepq_len => rw [record]
      case sleepq_ac_len => rw [record]
      case sleep_q => rfl
      case priority => exact fun _ _ => rfl
      case tim => exact fun _ => rfl
    · have lulled := @Unconcerned.modify_other cfg psta s sta same (fun sta => { sta with sleeping := true })
      exact lulled.trans (Unconcerned.of_eq rfl rfl rfl rfl rfl)

theorem Stations.xmit_delivery_enabled_frames (stations : Stations cfg P s) (kept : Kept cfg P)
    (accounted : Accounted s) (here : psta ∈ s.sta_hash) : Stations cfg P (xmit_delivery_enabled_frames s psta) := by
  have all : Buffering cfg (ApXmit.xmit_delivery_enabled_frames s psta) ∧
      psta ∈ (ApXmit.xmit_delivery_enabled_frames s psta).sta_hash ∧
        Stations cfg P (ApXmit.xmit_delivery_enabled_frames s psta) := by
    refine @release_loop s (fun u => Buffering cfg u ∧ psta ∈ u.sta_hash ∧ Stations cfg P u) _ psta ?_ _
      (accounted.counted.placed.nodup _) ⟨⟨accounted, stations.nodup, stations.buffered⟩, here, stations⟩
      (fun _ there => there)
    rintro u queued ⟨buffering, here, stations⟩ there
    have served := buffering.deliver here there
    refine ⟨⟨served.buffering, served.sta_hash ▸ here,
      stations.served kept served (kept.deliver buffering here there (stations.all psta))⟩, fun other different member => ?_⟩
    unfold deliver
    split
    case isTrue =>
      have left := (buffering.accounted.release_step there true).2 other different member
      dsimp only
      split
      case isTrue => exact left
      case isFalse => exact left
    case isFalse => exact member
  exact all.2.2

theorem Stations.wakeup_sta_to_xmit (stations : Stations cfg P s) (kept : Kept cfg P)
    (accounted : Accounted s) (here : psta ∈ s.sta_hash) : Stations cfg P (wakeup_sta_to_xmit s psta) := by
  have drained := (Buffering.mk accounted stations.nodup stations.buffered).wakeup_sta here
  have next := stations.drained kept drained
  unfold ApXmit.wakeup_sta_to_xmit
  split
  case h_1 => exact next
  case h_2 psta_bmc found =>
    have mcast : IS_MCAST (cfg.sta psta_bmc).mac_addr = true := by
      rw [← (stations.buffered psta_bmc).mac_addr, found_mac_addr found]
      rfl
    rcases drained.buffering.wakeup_bmc mcast with same | alsoDrained
    · rw [same]
      exact next
    · exact next.drained kept alsoDrained

theorem next_xframe_mem {categories : List Ac} {ac : Ac}
    (search : categories.findSome? (next_xframe s) = some (psta, ac, pxmitframe)) :
    pxmitframe ∈ s.queue (.sta_pending psta ac) := by
  rcases List.exists_of_findSome?_eq_some search with ⟨category, _, found⟩
  rcases List.exists_of_findSome?_eq_some found with ⟨sta, _, head⟩
  rcases Option.map_eq_some_iff.mp head with ⟨frame, taken, same⟩
  cases same
  exact List.mem_of_mem_head? taken

def Polled (s : XmitPriv) (event : XmitEvent) (psta : Sta) : Prop :=
  ∃ addr2 aid priority, event = .ps_poll addr2 aid priority ∧
    rtw_get_stainfo s addr2 = some psta ∧ accepts_ps_poll s psta aid priority = true

theorem Stations.step (stations : Stations cfg P s) (kept : Kept cfg P) (accounted : Accounted s)
    (event : XmitEvent) (polled : ∀ psta, Polled s event psta -> P (serve_ps_poll s psta) psta) :
    Stations cfg P (s.step event) := by
  have buffering : Buffering cfg s := ⟨accounted, stations.nodup, stations.buffered⟩
  have placed := accounted.counted.placed
  cases event with
  | rtw_alloc_xmitframe ra psta priority =>
      unfold XmitPriv.step rtw_alloc_xmitframe
      dsimp only
      split
      case h_1 => exact stations
      case h_2 pxframe rest first =>
        have there : pxframe ∈ s.queue .free_xmit_queue := by
          rw [first]
          exact List.mem_cons_self
        have moved : Stations cfg P (rtw_list_delete s pxframe) :=
          stations.unconcerned kept rfl (Unconcerned.move placed there (fun _ => by rintro ⟨⟩) (fun _ => by rintro ⟨⟩))
        have held := mem_insert_tail placed pxframe .held
        refine moved.unconcerned kept rfl (fun sta => ?_)
        refine ⟨Iff.rfl, ⟨rfl, rfl, rfl, rfl⟩, fun asleep => asleep, rfl, rfl, rfl, fun other member => ?_, fun _ => rfl⟩
        have different : other ≠ pxframe := by
          rintro rfl
          have gone : other ∉ (rtw_list_delete s other).queue (.sleep_q sta) :=
            Placed.not_mem (placed.move other .held) held (by rintro ⟨⟩)
          exact gone member
        exact congrArg PktAttrib.priority (Function.update_of_ne different _ _)
  | rtw_free_xmitframe pxmitframe =>
      unfold XmitPriv.step
      dsimp only
      split
      case isTrue held =>
        rw [free_xmitframe_eq placed]
        exact stations.unconcerned kept rfl (Unconcerned.move placed held (fun _ => by rintro ⟨⟩) (fun _ => by rintro ⟨⟩))
      case isFalse => exact stations
  | rtw_xmit_classifier pxmitframe =>
      unfold XmitPriv.step
      dsimp only
      split
      case isTrue held =>
        cases bound : linked_sta s pxmitframe with
        | none =>
            rw [ApXmit.rtw_xmit_classifier, bound]
            exact stations
        | some psta =>
            have passed := passed_on_classifier bound
            exact stations.unconcerned kept passed.sta_hash (fun sta => Unconcerned.of_eq passed.sta_hash
              passed.sta passed.attrib passed.tim_bitmap (passed.sleep_q placed held sta))
      case isFalse => exact stations
  | xmitframe_enqueue_for_sleeping_sta pxmitframe =>
      unfold XmitPriv.step
      dsimp only
      split
      case isTrue held =>
        exact stations.sleeping_enqueue kept placed accounted.ids (fun sta => placed.not_mem held (by rintro ⟨⟩))
      case isFalse => exact stations
  | rtw_dequeue_xframe =>
      unfold XmitPriv.step rtw_dequeue_xframe
      dsimp only
      split
      case h_1 => exact stations
      case h_2 psta ac pxmitframe search =>
        have there : pxmitframe ∈ s.queue (.sta_pending psta ac) := next_xframe_mem search
        have moved : Stations cfg P (rtw_list_delete s pxmitframe) :=
          stations.unconcerned kept rfl (Unconcerned.move placed there (fun _ => by rintro ⟨⟩) (fun _ => by rintro ⟨⟩))
        split
        · exact moved.unconcerned kept rfl (fun _ => Unconcerned.of_eq rfl rfl rfl rfl rfl)
        · exact moved.unconcerned kept rfl (fun _ => Unconcerned.of_eq rfl rfl rfl rfl rfl)
  | stop_sta_xmit psta =>
      unfold XmitPriv.step
      dsimp only
      split
      case isTrue => exact stations.stop_sta_xmit kept accounted psta
      case isFalse => exact stations
  | wakeup_sta_to_xmit psta =>
      unfold XmitPriv.step
      dsimp only
      split
      case isTrue here => exact stations.wakeup_sta_to_xmit kept accounted here
      case isFalse => exact stations
  | ps_poll addr2 aid priority =>
      unfold XmitPriv.step validate_recv_ctrl_frame
      dsimp only
      split
      case h_1 => exact stations
      case h_2 psta found =>
        have here := get_stainfo_mem found
        split
        case isTrue accepted =>
          exact stations.served kept (buffering.serve_ps_poll here ((stations.buffered psta).legacy here accepted))
            (polled psta ⟨addr2, aid, priority, rfl, found, accepted⟩)
        case isFalse => exact stations
  | process_wmmps_data psta priority =>
      unfold XmitPriv.step ApXmit.process_wmmps_data
      dsimp only
      split
      case isTrue here =>
        split
        case isTrue => exact stations.xmit_delivery_enabled_frames kept accounted here
        case isFalse => exact stations
      case isFalse => exact stations
  | rtw_free_stainfo psta =>
      unfold XmitPriv.step
      dsimp only
      split
      case isTrue here => exact stations.drained kept (buffering.free_stainfo here)
      case isFalse => exact stations

theorem Buffering.step (buffering : Buffering cfg s) (event : XmitEvent) : Buffering cfg (s.step event) := by
  have always : Kept cfg (fun _ _ => True) := ⟨fun _ _ => trivial, fun _ _ _ => trivial, fun _ _ => trivial,
    fun _ _ _ _ => trivial⟩
  have stations : Stations cfg (fun _ _ => True) s := ⟨buffering.nodup, buffering.buffered, fun _ => trivial⟩
  have next := stations.step always buffering.accounted event (fun _ _ => trivial)
  exact ⟨buffering.accounted.step event, next.nodup, next.buffered⟩

theorem Buffering.initial (cfg : AssocConfig) : Buffering cfg (XmitPriv.initial cfg.toApConfig) where
  accounted := Accounted.initial cfg.toApConfig
  nodup := cfg.nodup
  buffered psta := by
    constructor
    case mac_addr => rfl
    case known => exact fun here => ⟨here, rfl, rfl, rfl, rfl⟩
    case gone => exact fun _ => ⟨rfl, rfl⟩
    case len => rfl
    case asleep => exact fun _ nonempty => absurd rfl nonempty
    case delivered => exact fun _ _ => rfl

theorem Buffering.run (cfg : AssocConfig) (events : List XmitEvent) :
    Buffering cfg (Run.execute XmitPriv.step (XmitPriv.initial cfg.toApConfig) events) := by
  have all : Run.Guarded XmitPriv.step (fun _ _ => True) (XmitPriv.initial cfg.toApConfig) events :=
    Run.guarded_of_forall XmitPriv.step (fun _ => True) _ events (fun _ _ => trivial)
  exact all.invariant (fun s event _ buffering => buffering.step event) (Buffering.initial cfg)

theorem guarded_iff_all {guard : XmitPriv -> XmitEvent -> Prop}
    (step : ∀ {s}, Buffering cfg s -> (∀ psta, P s psta) -> ∀ event,
      (∀ psta, P (s.step event) psta) <-> guard s event)
    (initial : ∀ psta, P (XmitPriv.initial cfg.toApConfig) psta) (events : List XmitEvent) :
    (∀ done, done <+: events -> ∀ psta,
      P (Run.execute XmitPriv.step (XmitPriv.initial cfg.toApConfig) done) psta) <->
        Run.Guarded XmitPriv.step guard (XmitPriv.initial cfg.toApConfig) events := by
  have exactly : ∀ s event, (Buffering cfg s ∧ ∀ psta, P s psta) ->
      ((Buffering cfg (s.step event) ∧ ∀ psta, P (s.step event) psta) <-> guard s event) := by
    rintro s event ⟨buffering, all⟩
    rw [and_iff_right (buffering.step event)]
    exact step buffering all event
  rw [← Run.guarded_iff_invariant exactly ⟨Buffering.initial cfg, initial⟩]
  exact forall_congr' (fun done => imp_congr_right (fun _ => (and_iff_right (Buffering.run cfg done)).symm))

def bmcSta : Sta := ⟨0, zero_lt_NUM_STA⟩

def firstSta : Sta := ⟨1, one_lt_NUM_STA⟩

def firstAddr : MacAddr := .ofLast 1

/-- The broadcast station, and a station that sends a WMM element. -/
def twoStations (wmm : BitVec 8) (psta : Sta) : ApSta :=
  if psta = bmcSta then ⟨bc_addr, 0, true, none⟩
  else if psta = firstSta then ⟨firstAddr, 1, true, some wmm⟩
  else ⟨.zero, 0, false, none⟩

theorem twoStations_aid (wmm : BitVec 8) (psta : Sta) :
    (twoStations wmm psta).aid = if psta = firstSta then 1 else 0 := by
  unfold twoStations
  split
  case isTrue same => rw [same, if_neg (by decide)]
  case isFalse => split <;> rfl

def oneStation (wmm : BitVec 8) : AssocConfig where
  max_aid := 7
  wifi_spec := false
  wmm_para_seq := fun _ => .vo
  sta_hash := [bmcSta, firstSta]
  sta := twoStations wmm
  sta_aid := fun i => if i = 0 then some firstSta else none
  nodup := by decide
  aid_le := by
    intro psta
    rw [twoStations_aid]
    split <;> decide
  unshared := by
    intro psta other _ _ same own
    rw [twoStations_aid] at same own
    rw [twoStations_aid] at same
    split at own
    case isTrue first =>
      rw [if_pos first] at same
      split at same
      case isTrue alsoFirst => exact first.trans alsoFirst.symm
      case isFalse => cases same
    case isFalse => exact absurd rfl own
  bcmc := by
    intro psta group
    unfold twoStations at group ⊢
    split
    case isTrue => exact ⟨rfl, rfl⟩
    case isFalse different =>
      rw [if_neg different] at group
      have first : IS_MCAST firstAddr = false := by decide
      have none : IS_MCAST MacAddr.zero = false := by decide
      split at group
      · exact absurd (first.symm.trans group) nofun
      · exact absurd (none.symm.trans group) nofun

end ApXmit
end Rtl8821ce
