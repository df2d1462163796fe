import Rtl8821ce.Ap.XmitAccounting

/-!
# The frames kept for sleeping stations

What each operation does to one station: a frame enters its `sleep_q`, a frame is
released, or nothing that concerns it changes.  Whatever a PS-Poll releases,
`sleepq_len` is the length of `sleep_q`, and an awake station has no frames there.
-/

namespace Rtl8821ce
namespace ApXmit

open Function (update_of_ne update_self)
open Placement

/-- Stations as association leaves them: each has an id of its own.  The broadcast
station does not associate. -/
structure AssocConfig extends ApConfig where
  unshared : ∀ psta other, psta ∈ sta_hash -> other ∈ sta_hash -> (sta psta).aid = (sta other).aid ->
    (sta psta).aid ≠ 0 -> psta = other
  bcmc : ∀ psta, IS_MCAST (sta psta).mac_addr = true -> (sta psta).wmm = none ∧ (sta psta).aid = 0

/-- `sleepq_ac_len` is the number of frames that may be delivered in service periods. -/
def Counts (s : XmitPriv) (psta : Sta) : Prop :=
  (s.sta psta).sleepq_ac_len = (s.queue (.sleep_q psta)).countP (delivery_enabled s psta)

/-- What association settles about a station. -/
structure SameSettings (sta other : TxSta) : Prop where
  mac_addr : other.mac_addr = sta.mac_addr
  aid : other.aid = sta.aid
  has_legacy_ac : other.has_legacy_ac = sta.has_legacy_ac
  uapsd : other.uapsd = sta.uapsd

theorem SameSettings.trans {first second third : TxSta} (one : SameSettings first second)
    (two : SameSettings second third) : SameSettings first third :=
  ⟨two.mac_addr.trans one.mac_addr, two.aid.trans one.aid, two.has_legacy_ac.trans one.has_legacy_ac,
    two.uapsd.trans one.uapsd⟩

/-- A station with its `sleep_q`. -/
structure Buffered (cfg : AssocConfig) (s : XmitPriv) (psta : Sta) : Prop where
  mac_addr : (s.sta psta).mac_addr = (cfg.sta psta).mac_addr
  known : psta ∈ s.sta_hash -> psta ∈ cfg.sta_hash ∧
    SameSettings (rtw_ap_parse_sta_wmm_ie (cfg.sta psta)) (s.sta psta)
  gone : psta ∉ s.sta_hash -> s.queue (.sleep_q psta) = [] ∧ (s.sta psta).sleepq_ac_len = 0
  len : (s.sta psta).sleepq_len = (s.queue (.sleep_q psta)).length
  asleep : IS_MCAST (s.sta psta).mac_addr = false -> s.queue (.sleep_q psta) ≠ [] ->
    (s.sta psta).sleeping = true
  delivered : psta ∈ s.sta_hash -> (s.sta psta).has_legacy_ac = false -> Counts s psta

structure Buffering (cfg : AssocConfig) (s : XmitPriv) : Prop where
  accounted : Accounted s
  nodup : s.sta_hash.Nodup
  buffered : ∀ psta, Buffered cfg s psta

variable {cfg : AssocConfig} {s t : XmitPriv} {psta : Sta} {pxmitframe : Frame}

theorem Buffered.known_of_same (buffered : Buffered cfg s psta) (here : psta ∈ s.sta_hash) {sta : TxSta}
    (same : SameSettings (s.sta psta) sta) :
    psta ∈ cfg.sta_hash ∧ SameSettings (rtw_ap_parse_sta_wmm_ie (cfg.sta psta)) sta :=
  ⟨(buffered.known here).1, (buffered.known here).2.trans same⟩

def HasAid (cfg : AssocConfig) (psta : Sta) : Prop := psta ∈ cfg.sta_hash ∧ (cfg.sta psta).aid ≠ 0

/-- Nothing that concerns the buffered frames of a station changes, though it may go
to sleep. -/
structure Unconcerned (cfg : AssocConfig) (s t : XmitPriv) (psta : Sta) : Prop where
  sta_hash : psta ∈ t.sta_hash <-> psta ∈ s.sta_hash
  settings : SameSettings (s.sta psta) (t.sta psta)
  sleeping : (s.sta psta).sleeping = true -> (t.sta psta).sleeping = true
  sleepq_len : (t.sta psta).sleepq_len = (s.sta psta).sleepq_len
  sleepq_ac_len : (t.sta psta).sleepq_ac_len = (s.sta psta).sleepq_ac_len
  sleep_q : t.queue (.sleep_q psta) = s.queue (.sleep_q psta)
  priority : ∀ pxmitframe ∈ s.queue (.sleep_q psta),
    (t.attrib pxmitframe).priority = (s.attrib pxmitframe).priority
  tim : HasAid cfg psta -> t.tim_bitmap (cfg.sta psta).aid = s.tim_bitmap (cfg.sta psta).aid

namespace Unconcerned

theorem refl (s : XmitPriv) (psta : Sta) : Unconcerned cfg s s psta :=
  ⟨Iff.rfl, ⟨rfl, rfl, rfl, rfl⟩, id, rfl, rfl, rfl, fun _ _ => rfl, fun _ => rfl⟩

theorem trans {u : XmitPriv} (one : Unconcerned cfg s t psta) (two : Unconcerned cfg t u psta) :
    Unconcerned cfg s u psta where
  sta_hash := two.sta_hash.trans one.sta_hash
  settings := one.settings.trans two.settings
  sleeping asleep := two.sleeping (one.sleeping asleep)
  sleepq_len := two.sleepq_len.trans one.sleepq_len
  sleepq_ac_len := two.sleepq_ac_len.trans one.sleepq_ac_len
  sleep_q := two.sleep_q.trans one.sleep_q
  priority pxmitframe there :=
    (two.priority pxmitframe (one.sleep_q ▸ there)).trans (one.priority pxmitframe there)
  tim own := (two.tim own).trans (one.tim own)

theorem delivery_enabled (same : Unconcerned cfg s t psta) (there : pxmitframe ∈ s.queue (.sleep_q psta)) :
    delivery_enabled t psta pxmitframe = delivery_enabled s psta pxmitframe := by
  rw [ApXmit.delivery_enabled, wmmps_ac, same.priority pxmitframe there, same.settings.uapsd]
  rfl

theorem counts (same : Unconcerned cfg s t psta) (counts : Counts s psta) : Counts t psta := by
  unfold Counts at counts ⊢
  rw [same.sleepq_ac_len, same.sleep_q, counts]
  exact List.countP_congr (fun pxmitframe there => by rw [same.delivery_enabled there])

theorem buffered (same : Unconcerned cfg s t psta) (buffered : Buffered cfg s psta) : Buffered cfg t psta where
  mac_addr := same.settings.mac_addr.trans buffered.mac_addr
  known here := buffered.known_of_same (same.sta_hash.mp here) same.settings
  gone absent := by
    rw [same.sleep_q, same.sleepq_ac_len]
    exact buffered.gone (fun here => absent (same.sta_hash.mpr here))
  len := by
    rw [same.sleepq_len, same.sleep_q]
    exact buffered.len
  asleep := by
    rw [same.settings.mac_addr, same.sleep_q]
    exact fun unicast nonempty => same.sleeping (buffered.asleep unicast nonempty)
  delivered here := by
    rw [same.settings.has_legacy_ac]
    exact fun all => same.counts (buffered.delivered (same.sta_hash.mp here) all)

theorem of_eq (sta_hash : t.sta_hash = s.sta_hash) (sta : t.sta = s.sta) (attrib : t.attrib = s.attrib)
    (tim_bitmap : t.tim_bitmap = s.tim_bitmap)
    (sleep_q : t.queue (.sleep_q psta) = s.queue (.sleep_q psta)) : Unconcerned cfg s t psta := by
  constructor
  case sta_hash => rw [sta_hash]
  case settings =>
    rw [sta]
    exact ⟨rfl, rfl, rfl, rfl⟩
  case sleeping =>
    rw [sta]
    exact id
  case sleepq_len => rw [sta]
  case sleepq_ac_len => rw [sta]
  case sleep_q => exact sleep_q
  case priority =>
    rw [attrib]
    exact fun _ _ => rfl
  case tim =>
    rw [tim_bitmap]
    exact fun _ => rfl

end Unconcerned

theorem Buffered.here (buffered : Buffered cfg s psta) (there : pxmitframe ∈ s.queue (.sleep_q psta)) :
    psta ∈ s.sta_hash := by
  by_contra absent
  rw [(buffered.gone absent).1] at there
  cases there

structure Released (s : XmitPriv) (psta : Sta) (pxmitframe : Frame) (wmmps_ac : Bool) (t : XmitPriv) : Prop where
  there : pxmitframe ∈ s.queue (.sleep_q psta)
  sta_hash : t.sta_hash = s.sta_hash
  sta : t.sta = Function.update s.sta psta ((s.sta psta).dequeue wmmps_ac)
  attrib : t.attrib = Function.update s.attrib pxmitframe
    ((s.attrib pxmitframe).release ((s.sta psta).dequeue wmmps_ac) wmmps_ac)
  sleep_q : ∀ sta, t.queue (.sleep_q sta) = (s.queue (.sleep_q sta)).erase pxmitframe
  tim_bitmap : t.tim_bitmap = s.tim_bitmap

theorem released (placed : Placed s.queue) (there : pxmitframe ∈ s.queue (.sleep_q psta)) (wmmps_ac : Bool) :
    Released s psta pxmitframe wmmps_ac (release_frame s psta pxmitframe wmmps_ac) := by
  have passed := passed_on (s := s.take psta pxmitframe wmmps_ac) (placed.move pxmitframe .held) pxmitframe
  have record : (Function.update s.sta psta ((s.sta psta).dequeue wmmps_ac)) psta =
      (s.sta psta).dequeue wmmps_ac := update_self _ _ _
  constructor
  case there => exact there
  case sta_hash => exact passed.sta_hash
  case sta => exact passed.sta
  case attrib =>
    refine passed.attrib.trans ?_
    rw [← record]
    rfl
  case sleep_q => exact fun sta => sleep_q_release_frame placed psta pxmitframe wmmps_ac sta
  case tim_bitmap => exact passed.tim_bitmap

namespace Released

variable {wmmps_ac : Bool}

theorem own (released : Released s psta pxmitframe wmmps_ac t) : t.sta psta = (s.sta psta).dequeue wmmps_ac := by
  rw [released.sta, update_self]

theorem priority (released : Released s psta pxmitframe wmmps_ac t) (other : Frame) :
    (t.attrib other).priority = (s.attrib other).priority := by
  rw [released.attrib]
  by_cases same : other = pxmitframe
  · rw [same, update_self]
    rfl
  · rw [update_of_ne same]

theorem delivery_enabled (released : Released s psta pxmitframe wmmps_ac t) :
    delivery_enabled t psta = delivery_enabled s psta := by
  funext other
  rw [ApXmit.delivery_enabled, released.priority, released.own]
  rfl

theorem unconcerned (released : Released s psta pxmitframe wmmps_ac t) (placed : Placed s.queue) {sta : Sta}
    (different : sta ≠ psta) : Unconcerned cfg s t sta := by
  have record : t.sta sta = s.sta sta := by
    rw [released.sta, update_of_ne different]
  have absent : pxmitframe ∉ s.queue (.sleep_q sta) := by
    refine placed.not_mem released.there ?_
    intro same
    exact different (Place.sleep_q.inj same)
  constructor
  case sta_hash => rw [released.sta_hash]
  case settings =>
    rw [record]
    exact ⟨rfl, rfl, rfl, rfl⟩
  case sleeping =>
    rw [record]
    exact id
  case sleepq_len => rw [record]
  case sleepq_ac_len => rw [record]
  case sleep_q => rw [released.sleep_q, List.erase_of_not_mem absent]
  case priority => exact fun other _ => released.priority other
  case tim =>
    rw [released.tim_bitmap]
    exact fun _ => rfl

theorem countP (released : Released s psta pxmitframe wmmps_ac t) :
    (t.queue (.sleep_q psta)).countP (ApXmit.delivery_enabled t psta) =
      (s.queue (.sleep_q psta)).countP (ApXmit.delivery_enabled s psta) -
        if ApXmit.delivery_enabled s psta pxmitframe then 1 else 0 := by
  rw [released.delivery_enabled, released.sleep_q, List.countP_erase]
  simp only [released.there, true_and]

theorem counts (released : Released s psta pxmitframe wmmps_ac t) (counts : Counts s psta)
    (kind : wmmps_ac = ApXmit.delivery_enabled s psta pxmitframe) : Counts t psta := by
  unfold Counts at counts ⊢
  rw [released.countP, released.own, ← counts, ← kind]
  cases wmmps_ac <;> rfl

theorem buffered (released : Released s psta pxmitframe wmmps_ac t) (buffered : Buffered cfg s psta)
    (kind : (s.sta psta).has_legacy_ac = false -> wmmps_ac = ApXmit.delivery_enabled s psta pxmitframe) :
    Buffered cfg t psta := by
  have here := buffered.here released.there
  constructor
  case mac_addr =>
    rw [released.own]
    exact buffered.mac_addr
  case known =>
    intro _
    rw [released.own]
    exact buffered.known_of_same here ⟨rfl, rfl, rfl, rfl⟩
  case gone =>
    rw [released.sta_hash]
    exact fun absent => absurd here absent
  case len =>
    rw [released.own, released.sleep_q, List.length_erase_of_mem released.there, ← buffered.len]
    rfl
  case asleep =>
    rw [released.own]
    intro unicast _
    exact buffered.asleep unicast (List.ne_nil_of_mem released.there)
  case delivered =>
    intro _ all
    rw [released.own] at all
    exact released.counts (buffered.delivered here all) (kind all)

end Released

/-! ## A frame enters -/

theorem parse_bits (sta : ApSta) (priority : Nat) :
    wmmps_ac (rtw_ap_parse_sta_wmm_ie sta) priority 0 = wmmps_ac (rtw_ap_parse_sta_wmm_ie sta) priority 1 := by
  unfold wmmps_ac rtw_ap_parse_sta_wmm_ie
  dsimp only
  split <;> rfl

theorem parse_all {sta : ApSta} (all : (rtw_ap_parse_sta_wmm_ie sta).has_legacy_ac = false) (priority : Nat) :
    wmmps_ac (rtw_ap_parse_sta_wmm_ie sta) priority 1 = true := by
  unfold rtw_ap_parse_sta_wmm_ie at all
  rw [decide_eq_false_iff_not, not_not] at all
  have bit : ∀ ac : Ac, (sta.wmm.getD 0).getLsbD ac.qos_bit = true := by
    intro ac
    have masked := congrArg (fun info : BitVec 8 => info.getLsbD ac.qos_bit) all
    cases ac <;> simpa [Ac.qos_bit] using masked
  unfold wmmps_ac rtw_ap_parse_sta_wmm_ie
  dsimp only
  rw [if_pos (bit _)]
  rfl

theorem SameSettings.wmmps_ac {sta other : TxSta} (same : SameSettings sta other) (priority bit : Nat) :
    wmmps_ac other priority bit = wmmps_ac sta priority bit := by
  rw [ApXmit.wmmps_ac, same.uapsd]
  rfl

namespace Buffered

theorem bits (buffered : Buffered cfg s psta) (here : psta ∈ s.sta_hash) (priority : Nat) :
    wmmps_ac (s.sta psta) priority 0 = wmmps_ac (s.sta psta) priority 1 := by
  rw [(buffered.known here).2.wmmps_ac, (buffered.known here).2.wmmps_ac, parse_bits]

theorem all (buffered : Buffered cfg s psta) (here : psta ∈ s.sta_hash)
    (all : (s.sta psta).has_legacy_ac = false) (priority : Nat) : wmmps_ac (s.sta psta) priority 1 = true := by
  have known := (buffered.known here).2
  rw [known.has_legacy_ac] at all
  rw [known.wmmps_ac]
  exact parse_all all priority

theorem group (buffered : Buffered cfg s psta) (here : psta ∈ s.sta_hash)
    (mcast : IS_MCAST (s.sta psta).mac_addr = true) (priority : Nat) : wmmps_ac (s.sta psta) priority 1 = false := by
  rw [buffered.mac_addr] at mcast
  rw [(buffered.known here).2.wmmps_ac, wmmps_ac, rtw_ap_parse_sta_wmm_ie, (cfg.bcmc psta mcast).1]
  simp

theorem aid (buffered : Buffered cfg s psta) (here : psta ∈ s.sta_hash) :
    (s.sta psta).aid = (cfg.sta psta).aid := (buffered.known here).2.aid

theorem aid_ne (buffered : Buffered cfg s psta) (here : psta ∈ s.sta_hash) {sta : Sta} (different : sta ≠ psta)
    (own : HasAid cfg sta) : (cfg.sta sta).aid ≠ (s.sta psta).aid := by
  rw [buffered.aid here]
  intro same
  exact different (cfg.unshared sta psta own.1 (buffered.known here).1 same own.2)

end Buffered

/-- A frame from elsewhere enters `sleep_q`. -/
structure Entered (s : XmitPriv) (psta : Sta) (pxmitframe : Frame) (wmmps_ac : Bool) (t : XmitPriv) : Prop where
  here : psta ∈ s.sta_hash
  kind : wmmps_ac = (!IS_MCAST (s.sta psta).mac_addr &&
    ApXmit.wmmps_ac (s.sta psta) (s.attrib pxmitframe).priority 0)
  asleep : IS_MCAST (s.sta psta).mac_addr = false -> (s.sta psta).sleeping = true
  sta_hash : t.sta_hash = s.sta_hash
  sta : t.sta = Function.update s.sta psta ((s.sta psta).enqueue wmmps_ac)
  attrib : t.attrib = s.attrib
  own : t.queue (.sleep_q psta) = s.queue (.sleep_q psta) ++ [pxmitframe]
  other : ∀ sta, sta ≠ psta -> t.queue (.sleep_q sta) = s.queue (.sleep_q sta)
  tim : ∀ id, id ≠ 0 -> t.tim_bitmap id =
    (s.tim_bitmap id || (decide (id = (s.sta psta).aid) && !IS_MCAST (s.sta psta).mac_addr &&
      announces (s.sta psta) wmmps_ac))

theorem bmp_set_eq (bmp : Nat -> Bool) {bmp_len id : Nat} (inside : id / 8 < bmp_len) (other : Nat) :
    rtw_bmp_set bmp bmp_len id other = (bmp other || decide (other = id)) := by
  rw [rtw_bmp_set, if_pos inside]
  by_cases same : other = id
  · rw [same, update_self]
    simp
  · rw [update_of_ne same]
    simp [same]

theorem get_stainfo_mem {hwaddr : MacAddr} (found : rtw_get_stainfo s hwaddr = some psta) :
    psta ∈ s.sta_hash := List.mem_of_find?_eq_some found

theorem sleep_queues_entered (placed : Placed s.queue) (psta : Sta)
    (elsewhere : ∀ sta, pxmitframe ∉ s.queue (.sleep_q sta)) :
    Placement.move (Placement.move s.queue pxmitframe .held) pxmitframe (.sleep_q psta) (.sleep_q psta) =
        s.queue (.sleep_q psta) ++ [pxmitframe] ∧
      ∀ sta, sta ≠ psta ->
        Placement.move (Placement.move s.queue pxmitframe .held) pxmitframe (.sleep_q psta) (.sleep_q sta) =
          s.queue (.sleep_q sta) := by
  have moved : Placement.move (Placement.move s.queue pxmitframe .held) pxmitframe (.sleep_q psta) =
      Placement.move s.queue pxmitframe (.sleep_q psta) := placed.move_move _ _ _
  rw [moved]
  exact ⟨move_target (elsewhere psta),
    fun sta different => move_outside (elsewhere sta) (fun same => different (Place.sleep_q.inj same))⟩

theorem entered (placed : Placed s.queue) (inside : (s.sta psta).aid / 8 < s.aid_bmp_len)
    (elsewhere : ∀ sta, pxmitframe ∉ s.queue (.sleep_q sta)) (bound : linked_sta s pxmitframe = some psta)
    (taken : (xmitframe_enqueue_for_sleeping_sta s pxmitframe).2 = true) :
    ∃ wmmps_ac,
      Entered s psta pxmitframe wmmps_ac (xmitframe_enqueue_for_sleeping_sta s pxmitframe).1 := by
  have here := get_stainfo_mem (linked_sta_eq_some.mp bound).2.1
  have mcast := mcast_of_linked bound
  rcases sleep_queues_entered placed psta elsewhere with ⟨own, other⟩
  unfold xmitframe_enqueue_for_sleeping_sta at taken ⊢
  rw [bound] at taken ⊢
  dsimp only at taken ⊢
  split at taken
  case isTrue => cases taken
  case isFalse fresh =>
    rw [if_neg fresh]
    split at taken
    case isTrue group =>
      rw [if_pos group]
      rw [mcast] at group
      split at taken
      case isFalse => cases taken
      case isTrue anyone =>
        rw [if_pos anyone]
        refine ⟨false, here, by rw [group]; rfl, fun unicast => absurd (group.symm.trans unicast) nofun, rfl, rfl,
          rfl, own, other, fun id nonzero => ?_⟩
        show rtw_bmp_set s.tim_bitmap s.aid_bmp_len 0 id = _
        rw [rtw_bmp_set, group]
        split
        · rw [update_of_ne nonzero]
          simp
        · simp
    case isFalse unicast =>
      rw [if_neg unicast]
      rw [mcast, Bool.not_eq_true] at unicast
      split at taken
      case isFalse => cases taken
      case isTrue sleeps =>
        rw [if_pos sleeps]
        rw [Bool.and_eq_true] at sleeps
        refine ⟨ApXmit.wmmps_ac (s.sta psta) (s.attrib pxmitframe).priority 0, ?_⟩
        split
        case isTrue announced =>
          refine ⟨here, by rw [unicast]; rfl, fun _ => sleeps.1, rfl, rfl, rfl, own, other, fun id _ => ?_⟩
          show rtw_bmp_set s.tim_bitmap s.aid_bmp_len (s.sta psta).aid id = _
          rw [bmp_set_eq _ inside, announced, unicast]
          simp
        case isFalse quiet =>
          refine ⟨here, by rw [unicast]; rfl, fun _ => sleeps.1, rfl, rfl, rfl, own, other, fun id _ => ?_⟩
          show s.tim_bitmap id = _
          rw [Bool.not_eq_true] at quiet
          rw [quiet]
          simp

namespace Entered

variable {wmmps_ac : Bool}

theorem record (entered : Entered s psta pxmitframe wmmps_ac t) : t.sta psta = (s.sta psta).enqueue wmmps_ac := by
  rw [entered.sta, update_self]

theorem delivery_enabled (entered : Entered s psta pxmitframe wmmps_ac t) :
    delivery_enabled t psta = delivery_enabled s psta := by
  funext other
  rw [ApXmit.delivery_enabled, entered.attrib, entered.record]
  rfl

theorem kind_eq (entered : Entered s psta pxmitframe wmmps_ac t) (buffered : Buffered cfg s psta) :
    wmmps_ac = ApXmit.delivery_enabled s psta pxmitframe := by
  rw [entered.kind, ApXmit.delivery_enabled, buffered.bits entered.here]
  cases mcast : IS_MCAST (s.sta psta).mac_addr with
  | false => rfl
  | true => rw [buffered.group entered.here mcast, Bool.and_false]

theorem unconcerned (entered : Entered s psta pxmitframe wmmps_ac t) (buffered : Buffered cfg s psta) {sta : Sta}
    (different : sta ≠ psta) : Unconcerned cfg s t sta := by
  have record : t.sta sta = s.sta sta := by
    rw [entered.sta, update_of_ne different]
  constructor
  case sta_hash => rw [entered.sta_hash]
  case settings =>
    rw [record]
    exact ⟨rfl, rfl, rfl, rfl⟩
  case sleeping =>
    rw [record]
    exact id
  case sleepq_len => rw [record]
  case sleepq_ac_len => rw [record]
  case sleep_q => exact entered.other sta different
  case priority =>
    rw [entered.attrib]
    exact fun _ _ => rfl
  case tim =>
    intro own
    rw [entered.tim _ own.2, decide_eq_false (buffered.aid_ne entered.here different own)]
    simp

theorem counts (entered : Entered s psta pxmitframe wmmps_ac t) (buffered : Buffered cfg s psta)
    (counts : Counts s psta) : Counts t psta := by
  unfold Counts at counts ⊢
  rw [entered.own, entered.record, entered.delivery_enabled, List.countP_append, List.countP_singleton, ← counts,
    ← entered.kind_eq buffered]
  cases wmmps_ac <;> rfl

theorem buffered (entered : Entered s psta pxmitframe wmmps_ac t) (buffered : Buffered cfg s psta) :
    Buffered cfg t psta := by
  have here := entered.here
  constructor
  case mac_addr =>
    rw [entered.record]
    exact buffered.mac_addr
  case known =>
    intro _
    rw [entered.record]
    exact buffered.known_of_same here ⟨rfl, rfl, rfl, rfl⟩
  case gone =>
    rw [entered.sta_hash]
    exact fun absent => absurd here absent
  case len =>
    rw [entered.record, entered.own, List.length_append, ← buffered.len]
    rfl
  case asleep =>
    rw [entered.record]
    exact fun unicast _ => entered.asleep unicast
  case delivered =>
    intro _ all
    rw [entered.record] at all
    exact entered.counts buffered (buffered.delivered here all)

end Entered

end ApXmit
end Rtl8821ce
