import Rtl8821ce.Ap.PowerSave

/-!
# The traffic indication map

The bit of a sleeping station announces frames that it has to poll for.  A PS-Poll
clears the bit only with the last frame of `sleep_q`, also when the frames that are
left need no PS-Poll.
-/

namespace Rtl8821ce
namespace ApXmit

open Placement

variable {cfg : AssocConfig} {s t : XmitPriv} {psta : Sta} {pxmitframe : Frame}

/-- The bits of the stations with an id tell the truth. -/
structure TimTruthful (cfg : AssocConfig) (s : XmitPriv) : Prop where
  asleep : ∀ psta ∈ s.sta_hash, (s.sta psta).aid ≠ 0 -> (s.sta psta).sleeping = true ->
    (s.tim_bitmap (s.sta psta).aid = true <->
      if (s.sta psta).has_legacy_ac then
        ∃ pxmitframe, pxmitframe ∈ s.queue (.sleep_q psta) ∧ delivery_enabled s psta pxmitframe = false
      else s.queue (.sleep_q psta) ≠ [])
  awake : ∀ psta ∈ s.sta_hash, (s.sta psta).aid ≠ 0 -> (s.sta psta).sleeping = false ->
    s.tim_bitmap (s.sta psta).aid = false
  freed : ∀ psta ∈ cfg.sta_hash, (cfg.sta psta).aid ≠ 0 -> psta ∉ s.sta_hash ->
    s.tim_bitmap (cfg.sta psta).aid = false

/-- A PS-Poll does not take the only legacy frame from others. -/
def PollsLastLegacy (s : XmitPriv) (event : XmitEvent) : Prop :=
  ∀ psta pxmitframe rest, Polled s event psta -> (s.sta psta).aid ≠ 0 ->
    s.queue (.sleep_q psta) = pxmitframe :: rest -> rest ≠ [] -> delivery_enabled s psta pxmitframe = false ->
      ∃ other, other ∈ rest ∧ delivery_enabled s psta other = false

def announced (s : XmitPriv) (psta : Sta) (pxmitframe : Frame) : Bool :=
  !(s.sta psta).has_legacy_ac || !delivery_enabled s psta pxmitframe

def TimAt (cfg : AssocConfig) (s : XmitPriv) (psta : Sta) : Prop :=
  HasAid cfg psta -> s.tim_bitmap (cfg.sta psta).aid = (s.queue (.sleep_q psta)).any (announced s psta)

theorem any_announced : (s.queue (.sleep_q psta)).any (announced s psta) = true <->
    if (s.sta psta).has_legacy_ac then
      ∃ pxmitframe, pxmitframe ∈ s.queue (.sleep_q psta) ∧ delivery_enabled s psta pxmitframe = false
    else s.queue (.sleep_q psta) ≠ [] := by
  unfold announced
  cases (s.sta psta).has_legacy_ac with
  | true => simp
  | false =>
      cases s.queue (.sleep_q psta) with
      | nil => simp
      | cons head rest => simp

theorem Buffered.unicast (buffered : Buffered cfg s psta) (own : (cfg.sta psta).aid ≠ 0) :
    IS_MCAST (s.sta psta).mac_addr = false := by
  cases mcast : IS_MCAST (s.sta psta).mac_addr with
  | false => rfl
  | true =>
      rw [buffered.mac_addr] at mcast
      exact absurd (cfg.bcmc psta mcast).2 own

theorem Buffered.empty_of_awake (buffered : Buffered cfg s psta) (own : (cfg.sta psta).aid ≠ 0)
    (awake : (s.sta psta).sleeping = false) : s.queue (.sleep_q psta) = [] := by
  by_contra nonempty
  exact absurd ((buffered.asleep (buffered.unicast own) nonempty).symm.trans awake) nofun

theorem tim_truthful_iff (buffering : Buffering cfg s) : TimTruthful cfg s <-> ∀ psta, TimAt cfg s psta := by
  constructor
  · intro truthful psta own
    have buffered := buffering.buffered psta
    by_cases here : psta ∈ s.sta_hash
    · have aid := buffered.aid here
      have nonzero : (s.sta psta).aid ≠ 0 := aid ▸ own.2
      rw [← aid]
      cases sleeps : (s.sta psta).sleeping with
      | true => exact Bool.eq_iff_iff.mpr ((truthful.asleep psta here nonzero sleeps).trans any_announced.symm)
      | false =>
          rw [truthful.awake psta here nonzero sleeps, buffered.empty_of_awake own.2 sleeps]
          rfl
    · rw [truthful.freed psta own.1 own.2 here, (buffered.gone here).1]
      rfl
  · intro all
    have known : ∀ psta ∈ s.sta_hash, (s.sta psta).aid ≠ 0 ->
        s.tim_bitmap (s.sta psta).aid = (s.queue (.sleep_q psta)).any (announced s psta) := by
      intro psta here nonzero
      have buffered := buffering.buffered psta
      rw [buffered.aid here] at nonzero ⊢
      exact all psta ⟨(buffered.known here).1, nonzero⟩
    constructor
    case asleep =>
      intro psta here nonzero _
      rw [known psta here nonzero]
      exact any_announced
    case awake =>
      intro psta here nonzero awake
      have buffered := buffering.buffered psta
      rw [known psta here nonzero, buffered.empty_of_awake (buffered.aid here ▸ nonzero) awake]
      rfl
    case freed =>
      intro psta member nonzero absent
      rw [all psta ⟨member, nonzero⟩, ((buffering.buffered psta).gone absent).1]
      rfl

/-! ## Steps -/

theorem Unconcerned.announced (same : Unconcerned cfg s t psta) (there : pxmitframe ∈ s.queue (.sleep_q psta)) :
    announced t psta pxmitframe = announced s psta pxmitframe := by
  rw [ApXmit.announced, same.settings.has_legacy_ac, same.delivery_enabled there]
  rfl

theorem Unconcerned.tim_at (same : Unconcerned cfg s t psta) (before : TimAt cfg s psta) : TimAt cfg t psta := by
  intro own
  rw [same.tim own, same.sleep_q, before own, Bool.eq_iff_iff, List.any_eq_true, List.any_eq_true]
  exact exists_congr (fun pxmitframe => and_congr_right (fun there => by rw [same.announced there]))

theorem Entered.tim_at {wmmps_ac : Bool} (entered : Entered s psta pxmitframe wmmps_ac t)
    (buffered : Buffered cfg s psta) (before : TimAt cfg s psta) : TimAt cfg t psta := by
  intro own
  have same : announced t psta = announced s psta := by
    funext other
    rw [announced, announced, entered.delivery_enabled, entered.record]
    rfl
  have new : announces (s.sta psta) wmmps_ac = announced s psta pxmitframe := by
    rw [announces, announced, ← entered.kind_eq buffered]
    cases legacy : (s.sta psta).has_legacy_ac with
    | true => simp
    | false =>
        have enabled : wmmps_ac = true := (entered.kind_eq buffered).trans (buffered.all entered.here legacy _)
        rw [enabled]
        rfl
  rw [entered.tim _ own.2, buffered.aid entered.here, buffered.unicast own.2, before own, entered.own,
    List.any_append, List.any_cons, List.any_nil, same, new]
  simp

theorem Released.announced {wmmps_ac : Bool} (released : Released s psta pxmitframe wmmps_ac t) :
    announced t psta = announced s psta := by
  funext other
  rw [ApXmit.announced, ApXmit.announced, released.delivery_enabled, released.own]
  rfl

theorem any_erase_of_neg {frames : List Frame} {wanted : Frame -> Bool} (unwanted : wanted pxmitframe = false) :
    (frames.erase pxmitframe).any wanted = frames.any wanted := by
  induction frames with
  | nil => rfl
  | cons head rest ih =>
      rw [List.erase_cons]
      split
      case isTrue same =>
        rw [beq_iff_eq] at same
        rw [List.any_cons, same, unwanted, Bool.false_or]
      case isFalse => rw [List.any_cons, List.any_cons, ih]

theorem Buffered.sleepq_ac_len (buffered : Buffered cfg s psta) (here : psta ∈ s.sta_hash)
    (legacy : (s.sta psta).has_legacy_ac = false) :
    (s.sta psta).sleepq_ac_len = (s.queue (.sleep_q psta)).length := by
  rw [buffered.delivered here legacy, List.countP_eq_length]
  exact fun pxmitframe _ => buffered.all here legacy _

theorem any_announced_all (legacy : (s.sta psta).has_legacy_ac = false) (frames : List Frame) :
    frames.any (announced s psta) = decide (frames ≠ []) := by
  unfold announced
  rw [legacy]
  cases frames <;> simp

theorem tim_deliver (buffering : Buffering cfg s) (here : psta ∈ s.sta_hash)
    (there : pxmitframe ∈ s.queue (.sleep_q psta)) (before : TimAt cfg s psta) :
    TimAt cfg (deliver psta s pxmitframe) psta := by
  unfold deliver
  split
  case isFalse => exact before
  case isTrue enabled =>
    have gone := released buffering.accounted.counted.placed there true
    have next := buffering.release there (fun _ => enabled.symm)
    intro own
    have set := before own
    dsimp only
    generalize release_frame s psta pxmitframe true = u at *
    have here : psta ∈ u.sta_hash := gone.sta_hash ▸ here
    have legacy_eq : (u.sta psta).has_legacy_ac = (s.sta psta).has_legacy_ac := by
      rw [gone.own]
      rfl
    split
    case isTrue last =>
      have empty : u.queue (.sleep_q psta) = [] := by
        rw [← List.length_eq_zero_iff, ← (next.buffered psta).sleepq_ac_len here last.2]
        exact last.1
      show rtw_bmp_clear u.tim_bitmap u.aid_bmp_len (u.sta psta).aid (cfg.sta psta).aid =
        (u.queue (.sleep_q psta)).any _
      rw [bmp_clear_eq _ (next.accounted.ids psta), (next.buffered psta).aid here, empty]
      simp
    case isFalse more =>
      rw [gone.tim_bitmap, set, gone.announced]
      cases legacy : (s.sta psta).has_legacy_ac with
      | true =>
          have quiet : announced s psta pxmitframe = false := by
            rw [announced, legacy, enabled]
            rfl
          rw [gone.sleep_q, any_erase_of_neg quiet]
      | false =>
          have left : u.queue (.sleep_q psta) ≠ [] := by
            intro empty
            have none := (next.buffered psta).sleepq_ac_len here (legacy_eq.trans legacy)
            rw [empty] at none
            exact more ⟨none, legacy_eq.trans legacy⟩
          rw [any_announced_all legacy, any_announced_all legacy, decide_eq_true left,
            decide_eq_true (List.ne_nil_of_mem there)]

theorem kept_tim : Kept cfg (TimAt cfg) where
  unconcerned same before := same.tim_at before
  entered entered buffered before := entered.tim_at buffered before
  drained drained _ own := by
    rw [drained.tim own, drained.empty]
    rfl
  deliver := tim_deliver

theorem tim_at_clear (buffering : Buffering cfg s) (here : psta ∈ s.sta_hash)
    (empty : s.queue (.sleep_q psta) = []) : TimAt cfg (s.tim_map_clear (s.sta psta).aid) psta := by
  intro _
  show rtw_bmp_clear s.tim_bitmap s.aid_bmp_len (s.sta psta).aid (cfg.sta psta).aid =
    (s.queue (.sleep_q psta)).any _
  rw [bmp_clear_eq _ (buffering.accounted.ids psta), (buffering.buffered psta).aid here, empty]
  simp

theorem tim_released_iff (buffering : Buffering cfg s) (here : psta ∈ s.sta_hash)
    (legacy : (s.sta psta).has_legacy_ac = true) (before : TimAt cfg s psta) {rest : List Frame}
    (first : s.queue (.sleep_q psta) = pxmitframe :: rest) {wmmps_ac : Bool}
    (gone : Released s psta pxmitframe wmmps_ac t) :
    TimAt cfg t psta <-> ((s.sta psta).aid ≠ 0 -> delivery_enabled s psta pxmitframe = false ->
      ∃ other, other ∈ rest ∧ delivery_enabled s psta other = false) := by
  have known := (buffering.buffered psta).known here
  have own : HasAid cfg psta <-> (s.sta psta).aid ≠ 0 := by
    rw [(buffering.buffered psta).aid here]
    exact and_iff_right known.1
  have kinds : announced s psta = fun other => !delivery_enabled s psta other := by
    funext other
    rw [announced, legacy]
    rfl
  unfold TimAt at before ⊢
  rw [gone.tim_bitmap, gone.announced, gone.sleep_q, first, List.erase_cons_head, ← own]
  refine forall_congr' (fun hasAid => ?_)
  rw [before hasAid, first, List.any_cons, kinds]
  cases kind : delivery_enabled s psta pxmitframe <;> simp [kind]

theorem tim_serve_ps_poll_iff (buffering : Buffering cfg s) (here : psta ∈ s.sta_hash)
    (legacy : (s.sta psta).has_legacy_ac = true) (before : TimAt cfg s psta) :
    TimAt cfg (serve_ps_poll s psta) psta <-> ∀ pxmitframe rest, (s.sta psta).aid ≠ 0 ->
      s.queue (.sleep_q psta) = pxmitframe :: rest -> rest ≠ [] -> delivery_enabled s psta pxmitframe = false ->
        ∃ other, other ∈ rest ∧ delivery_enabled s psta other = false := by
  have served := buffering.serve_ps_poll here legacy
  unfold serve_ps_poll at served ⊢
  split
  case h_1 pxmitframe rest first =>
    have there : pxmitframe ∈ s.queue (.sleep_q psta) := by
      rw [first]
      exact List.mem_cons_self
    have gone := released buffering.accounted.counted.placed there false
    have next : Buffering cfg (release_frame s psta pxmitframe false) :=
      buffering.release there (fun all => absurd (legacy.symm.trans all) nofun)
    have left : (release_frame s psta pxmitframe false).queue (.sleep_q psta) = rest := by
      rw [gone.sleep_q, first, List.erase_cons_head]
    have inHash : psta ∈ (release_frame s psta pxmitframe false).sta_hash := gone.sta_hash ▸ here
    dsimp only
    generalize release_frame s psta pxmitframe false = u at *
    have len := (next.buffered psta).len
    rw [left] at len
    split
    case isTrue none =>
      have empty : rest = [] := List.length_eq_zero_iff.mp (len.symm.trans none)
      refine iff_of_true (tim_at_clear next inHash (left.trans empty)) ?_
      intro other behind _ same nonempty
      rw [first] at same
      cases same
      exact absurd empty nonempty
    case isFalse some =>
      have nonempty : rest ≠ [] := fun empty => some (len.trans (List.length_eq_zero_iff.mpr empty))
      rw [tim_released_iff buffering here legacy before first gone]
      constructor
      · intro only other behind hasAid same _
        rw [first] at same
        cases same
        exact only hasAid
      · exact fun all hasAid => all pxmitframe rest hasAid first nonempty
  case h_2 empty =>
    refine iff_of_true ?_ (fun _ _ _ first => absurd (empty.symm.trans first) nofun)
    simp only [empty] at served
    split
    case isTrue set =>
      intro _
      show rtw_bmp_clear s.tim_bitmap s.aid_bmp_len (s.sta psta).aid (cfg.sta psta).aid =
        (s.queue (.sleep_q psta)).any _
      rw [bmp_clear_eq _ (buffering.accounted.ids psta), (buffering.buffered psta).aid here, empty]
      simp
    case isFalse => exact before

theorem tim_step_iff (buffering : Buffering cfg s) (before : ∀ psta, TimAt cfg s psta)
    (event : XmitEvent) : (∀ psta, TimAt cfg (s.step event) psta) <-> PollsLastLegacy s event := by
  constructor
  · intro after psta pxmitframe rest polled
    rcases polled with ⟨addr2, aid, priority, rfl, found, accepted⟩
    have here := get_stainfo_mem found
    have same : s.step (.ps_poll addr2 aid priority) = serve_ps_poll s psta := by
      simp only [XmitPriv.step, validate_recv_ctrl_frame, found, accepted, if_true]
    rw [same] at after
    exact (tim_serve_ps_poll_iff buffering here ((buffering.buffered psta).legacy here accepted)
      (before psta)).mp (after psta) pxmitframe rest
  · intro guard
    have stations : Stations cfg (TimAt cfg) s := ⟨buffering.nodup, buffering.buffered, before⟩
    refine (stations.step kept_tim buffering.accounted event (fun psta polled => ?_)).all
    rcases polled with ⟨addr2, aid, priority, same, found, accepted⟩
    have here := get_stainfo_mem found
    refine (tim_serve_ps_poll_iff buffering here ((buffering.buffered psta).legacy here accepted)
      (before psta)).mpr (fun pxmitframe rest => ?_)
    exact guard psta pxmitframe rest ⟨addr2, aid, priority, same, found, accepted⟩

/-- The bits are right in every state of a run exactly when no PS-Poll takes the only legacy frame
from delivery enabled ones. -/
theorem tim_truthful_run_iff (cfg : AssocConfig) (events : List XmitEvent) :
    (∀ done, done <+: events ->
      TimTruthful cfg (Run.execute XmitPriv.step (XmitPriv.initial cfg.toApConfig) done)) <->
        Run.Guarded XmitPriv.step PollsLastLegacy (XmitPriv.initial cfg.toApConfig) events := by
  rw [← @guarded_iff_all cfg (TimAt cfg) PollsLastLegacy (fun buffering before => tim_step_iff buffering before)
    (fun _ _ => rfl) events]
  exact forall_congr' (fun done => imp_congr_right (fun _ => tim_truthful_iff (Buffering.run cfg done)))

/-- A legacy frame and a delivery enabled one go to sleep, and the station asks for the first. -/
def polledBestEffort : List XmitEvent :=
  [.stop_sta_xmit firstSta, .rtw_alloc_xmitframe firstAddr (some firstSta) 0,
    .xmitframe_enqueue_for_sleeping_sta ⟨0, zero_lt_NR_XMITFRAME⟩, .rtw_alloc_xmitframe firstAddr (some firstSta) 6,
    .xmitframe_enqueue_for_sleeping_sta ⟨1, one_lt_NR_XMITFRAME⟩, .ps_poll firstAddr 1 0]

/-- The frame that is left waits for a trigger, but the bit tells the station to poll. -/
theorem tim_untruthful_after_ps_poll :
    ¬ TimTruthful (oneStation 1)
      (Run.execute XmitPriv.step (XmitPriv.initial (oneStation 1).toApConfig) polledBestEffort) := by
  intro truthful
  generalize final : Run.execute XmitPriv.step (XmitPriv.initial (oneStation 1).toApConfig) polledBestEffort = s
    at truthful
  have here : firstSta ∈ s.sta_hash := by
    rw [← final]
    decide +kernel
  have aid : (s.sta firstSta).aid = 1 := by
    rw [← final]
    decide +kernel
  have sleeps : (s.sta firstSta).sleeping = true := by
    rw [← final]
    decide +kernel
  have legacy : (s.sta firstSta).has_legacy_ac = true := by
    rw [← final]
    decide +kernel
  have set : s.tim_bitmap 1 = true := by
    rw [← final]
    decide +kernel
  have enabled : (s.queue (.sleep_q firstSta)).all (delivery_enabled s firstSta) = true := by
    rw [← final]
    decide +kernel
  have own := truthful.asleep firstSta here (by rw [aid]; decide) sleeps
  rw [aid, legacy, if_pos rfl] at own
  rcases own.mp set with ⟨pxmitframe, there, kind⟩
  exact absurd ((List.all_eq_true.mp enabled pxmitframe there).symm.trans kind) nofun

end ApXmit
end Rtl8821ce
