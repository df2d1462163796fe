import Mathlib.Algebra.BigOperators.Fin
import Rtl8821ce.Ap.XmitQueues

/-!
# Counters and links of the software queues

`qcnt`, `accnt` and the links of `tx_pending` follow from the lists of frames.
The sleep transition unlinks a queue whether or not it is empty; it is, because a
queued frame still has the station it was queued for, and that station sleeps.
-/

namespace Rtl8821ce
namespace ApXmit

open Function (update_of_ne update_self)
open Placement

variable {source : Place} {sta : Sta} {category : Ac}

variable {s t : XmitPriv}

/-- The redundant records agree with the lists, and each frame is in one place. -/
structure QueuesAccounted (s : XmitPriv) : Prop where
  qcnt : ∀ psta ac, s.qcnt psta ac = (s.queue (.sta_pending psta ac)).length
  accnt : ∀ ac, s.accnt ac = ∑ psta, s.qcnt psta ac
  linked : ∀ psta ac, psta ∈ s.sta_queue ac <-> s.queue (.sta_pending psta ac) ≠ []
  placed : Placed s.queue

/-- What does not depend on the links. -/
structure Counted (s : XmitPriv) : Prop where
  placed : Placed s.queue
  qcnt : ∀ psta ac, s.qcnt psta ac = (s.queue (.sta_pending psta ac)).length
  accnt : ∀ ac, s.accnt ac = ∑ psta, s.qcnt psta ac
  nodup : ∀ ac, (s.sta_queue ac).Nodup

def Linked (s : XmitPriv) (psta : Sta) (ac : Ac) : Prop :=
  psta ∈ s.sta_queue ac <-> s.queue (.sta_pending psta ac) ≠ []

def Routed (s : XmitPriv) (psta : Sta) (ac : Ac) : Prop :=
  ∀ pxmitframe ∈ s.queue (.sta_pending psta ac),
    linked_sta s pxmitframe = some psta ∧ rtw_get_sta_pending (s.attrib pxmitframe).priority = ac

structure Accounted (s : XmitPriv) : Prop where
  counted : Counted s
  linked : ∀ psta ac, Linked s psta ac
  routed : ∀ psta ac, Routed s psta ac
  ids : ∀ psta, (s.sta psta).aid / 8 < s.aid_bmp_len

theorem Accounted.queues (accounted : Accounted s) : QueuesAccounted s :=
  ⟨accounted.counted.qcnt, accounted.counted.accnt, accounted.linked, accounted.counted.placed⟩

/-- Where a frame is bound for is the same in both states. -/
structure SameRoutes (s t : XmitPriv) : Prop where
  sta_hash : t.sta_hash = s.sta_hash
  mac_addr : ∀ psta, (t.sta psta).mac_addr = (s.sta psta).mac_addr
  fw_linked : ∀ psta, (t.sta psta).fw_linked = (s.sta psta).fw_linked
  ra : ∀ pxmitframe, (t.attrib pxmitframe).ra = (s.attrib pxmitframe).ra
  psta : ∀ pxmitframe, (t.attrib pxmitframe).psta = (s.attrib pxmitframe).psta
  priority : ∀ pxmitframe, (t.attrib pxmitframe).priority = (s.attrib pxmitframe).priority

namespace SameRoutes

theorem refl (s : XmitPriv) : SameRoutes s s :=
  ⟨rfl, fun _ => rfl, fun _ => rfl, fun _ => rfl, fun _ => rfl, fun _ => rfl⟩

theorem of_eq (sta_hash : t.sta_hash = s.sta_hash) (sta : t.sta = s.sta) (attrib : t.attrib = s.attrib) :
    SameRoutes s t :=
  ⟨sta_hash, fun _ => by rw [sta], fun _ => by rw [sta], fun _ => by rw [attrib], fun _ => by rw [attrib],
    fun _ => by rw [attrib]⟩

theorem trans {u : XmitPriv} (first : SameRoutes s t) (second : SameRoutes t u) : SameRoutes s u where
  sta_hash := second.sta_hash.trans first.sta_hash
  mac_addr psta := (second.mac_addr psta).trans (first.mac_addr psta)
  fw_linked psta := (second.fw_linked psta).trans (first.fw_linked psta)
  ra pxmitframe := (second.ra pxmitframe).trans (first.ra pxmitframe)
  psta pxmitframe := (second.psta pxmitframe).trans (first.psta pxmitframe)
  priority pxmitframe := (second.priority pxmitframe).trans (first.priority pxmitframe)

theorem get_stainfo (same : SameRoutes s t) (hwaddr : MacAddr) :
    rtw_get_stainfo t hwaddr = rtw_get_stainfo s hwaddr := by
  simp only [rtw_get_stainfo, same.sta_hash, same.mac_addr]

theorem linked_sta (same : SameRoutes s t) (pxmitframe : Frame) :
    linked_sta t pxmitframe = linked_sta s pxmitframe := by
  simp only [ApXmit.linked_sta, same.ra, same.psta, same.get_stainfo, same.fw_linked]

theorem modify_sta (s : XmitPriv) (psta : Sta) {change : TxSta -> TxSta}
    (mac_addr : (change (s.sta psta)).mac_addr = (s.sta psta).mac_addr)
    (fw_linked : (change (s.sta psta)).fw_linked = (s.sta psta).fw_linked) :
    SameRoutes s (s.modify_sta psta change) := by
  refine ⟨rfl, fun other => ?_, fun other => ?_, fun _ => rfl, fun _ => rfl, fun _ => rfl⟩
  all_goals
    by_cases same : other = psta
    · subst same
      simpa [XmitPriv.modify_sta]
    · simp [XmitPriv.modify_sta, same]

theorem set_attrib (s : XmitPriv) (pxmitframe : Frame) {change : PktAttrib -> PktAttrib}
    (ra : (change (s.attrib pxmitframe)).ra = (s.attrib pxmitframe).ra)
    (psta : (change (s.attrib pxmitframe)).psta = (s.attrib pxmitframe).psta)
    (priority : (change (s.attrib pxmitframe)).priority = (s.attrib pxmitframe).priority) :
    SameRoutes s (s.set_attrib pxmitframe change) := by
  refine ⟨rfl, fun _ => rfl, fun _ => rfl, fun other => ?_, fun other => ?_, fun other => ?_⟩
  all_goals
    by_cases same : other = pxmitframe
    · subst same
      simpa [XmitPriv.set_attrib]
    · simp [XmitPriv.set_attrib, same]

end SameRoutes

theorem Routed.congr {psta : Sta} {ac : Ac} (routed : Routed s psta ac) (same : SameRoutes s t)
    (subset : ∀ pxmitframe ∈ t.queue (.sta_pending psta ac),
      pxmitframe ∈ s.queue (.sta_pending psta ac)) : Routed t psta ac := by
  intro pxmitframe there
  rw [same.linked_sta, same.priority]
  exact routed pxmitframe (subset pxmitframe there)

theorem aid_modify_sta (s : XmitPriv) (psta : Sta) {change : TxSta -> TxSta}
    (aid : (change (s.sta psta)).aid = (s.sta psta).aid) (other : Sta) :
    ((s.modify_sta psta change).sta other).aid = (s.sta other).aid := by
  by_cases same : other = psta
  · subst same
    simpa [XmitPriv.modify_sta]
  · simp [XmitPriv.modify_sta, same]

/-- The lists, the counters and the links are the same in both states. -/
structure SameLists (s t : XmitPriv) : Prop where
  routes : SameRoutes s t
  aid : ∀ psta, (t.sta psta).aid = (s.sta psta).aid
  aid_bmp_len : t.aid_bmp_len = s.aid_bmp_len
  queue : t.queue = s.queue
  qcnt : t.qcnt = s.qcnt
  sta_queue : t.sta_queue = s.sta_queue
  accnt : t.accnt = s.accnt

theorem Accounted.congr (accounted : Accounted s) (same : SameLists s t) : Accounted t where
  counted := by
    constructor
    case placed => exact same.queue ▸ accounted.counted.placed
    case qcnt =>
      rw [same.qcnt, same.queue]
      exact accounted.counted.qcnt
    case accnt =>
      rw [same.accnt, same.qcnt]
      exact accounted.counted.accnt
    case nodup => exact same.sta_queue ▸ accounted.counted.nodup
  linked psta ac := by
    rw [Linked, same.sta_queue, same.queue]
    exact accounted.linked psta ac
  routed psta ac := (accounted.routed psta ac).congr same.routes (fun _ there => same.queue ▸ there)
  ids psta := by
    rw [same.aid, same.aid_bmp_len]
    exact accounted.ids psta

/-! ## Moves of one frame -/

def Place.Outside (place : Place) : Prop := ∀ psta ac, place ≠ .sta_pending psta ac

theorem outside_held : Place.Outside .held := fun _ _ => nofun

theorem outside_free : Place.Outside .free_xmit_queue := fun _ _ => nofun

theorem outside_sleep_q (psta : Sta) : Place.Outside (.sleep_q psta) := fun _ _ => nofun

theorem Accounted.move (accounted : Accounted s) {pxmitframe : Frame} {target : Place}
    (there : pxmitframe ∈ s.queue source) (leaves : source.Outside) (arrives : target.Outside) :
    Accounted (rtw_list_insert_tail s pxmitframe target) := by
  have pending : ∀ psta ac, (rtw_list_insert_tail s pxmitframe target).queue (.sta_pending psta ac) =
      s.queue (.sta_pending psta ac) := fun psta ac =>
    move_outside (accounted.counted.placed.not_mem there (leaves psta ac).symm) (arrives psta ac).symm
  constructor
  case counted =>
    constructor
    case placed => exact accounted.counted.placed.move pxmitframe target
    case qcnt =>
      intro psta ac
      rw [pending]
      exact accounted.counted.qcnt psta ac
    case accnt => exact accounted.counted.accnt
    case nodup => exact accounted.counted.nodup
  case linked =>
    intro psta ac
    rw [Linked, pending]
    exact accounted.linked psta ac
  case routed =>
    intro psta ac other member
    rw [pending] at member
    exact accounted.routed psta ac other member
  case ids => exact accounted.ids

theorem mem_insert_tail (placed : Placed s.queue) (pxmitframe : Frame) (target : Place) :
    pxmitframe ∈ (rtw_list_insert_tail s pxmitframe target).queue target :=
  placed.mem_move.mpr (by rw [if_pos rfl])

theorem Accounted.list_delete (accounted : Accounted s) {pxmitframe : Frame}
    (there : pxmitframe ∈ s.queue source) (leaves : source.Outside) :
    Accounted (rtw_list_delete s pxmitframe) := accounted.move there leaves outside_held

theorem Accounted.free_xmitframe (accounted : Accounted s) {pxmitframe : Frame}
    (there : pxmitframe ∈ s.queue source) (leaves : source.Outside) : Accounted (rtw_free_xmitframe s pxmitframe) :=
  (accounted.list_delete there leaves).move (mem_insert_tail accounted.counted.placed pxmitframe .held)
    outside_held outside_free

theorem link_self (s : XmitPriv) (psta : Sta) (ac : Ac) : (s.link psta ac).sta_queue ac =
    if psta ∈ s.sta_queue ac then s.sta_queue ac else s.sta_queue ac ++ [psta] :=
  update_self _ _ _

theorem mem_link {psta other : Sta} {ac : Ac} :
    other ∈ (s.link psta ac).sta_queue ac <-> other = psta ∨ other ∈ s.sta_queue ac := by
  rw [link_self]
  split
  case isTrue linked =>
    exact ⟨Or.inr, fun either => either.elim (fun same => same ▸ linked) id⟩
  case isFalse => rw [List.mem_append, List.mem_singleton, or_comm]

theorem link_of_ne {psta : Sta} {ac other : Ac} (different : other ≠ ac) :
    (s.link psta ac).sta_queue other = s.sta_queue other := update_of_ne different _ _

theorem link_nodup {psta : Sta} {ac : Ac} (nodup : ∀ other, (s.sta_queue other).Nodup) (other : Ac) :
    ((s.link psta ac).sta_queue other).Nodup := by
  by_cases same : other = ac
  · subst same
    rw [link_self]
    split
    case isTrue => exact nodup other
    case isFalse absent =>
      refine List.nodup_append.mpr ⟨nodup other, List.pairwise_singleton _ _, ?_⟩
      rintro before there last here rfl
      rw [List.mem_singleton] at here
      exact absent (here ▸ there)
  · rw [link_of_ne same]
    exact nodup other

theorem sum_count (s : XmitPriv) (psta : Sta) (ac : Ac) (change : Int)
    (accnt : ∀ other, s.accnt other = ∑ sta, s.qcnt sta other) (other : Ac) :
    (s.count psta ac change).accnt other = ∑ sta, (s.count psta ac change).qcnt sta other := by
  by_cases same : other = ac
  · subst same
    have rest : ∀ sta ∈ Finset.univ.erase psta,
        (s.count psta other change).qcnt sta other = s.qcnt sta other := by
      intro sta member
      simp [XmitPriv.count, Finset.ne_of_mem_erase member]
    have first : (s.count psta other change).qcnt psta other = s.qcnt psta other + change := by
      simp [XmitPriv.count]
    have total : (s.count psta other change).accnt other = s.accnt other + change := by
      simp [XmitPriv.count]
    rw [total, accnt other, ← Finset.add_sum_erase Finset.univ _ (Finset.mem_univ psta),
      ← Finset.add_sum_erase Finset.univ (fun sta => (s.count psta other change).qcnt sta other)
        (Finset.mem_univ psta), first, Finset.sum_congr rfl rest]
    omega
  · have unchanged : ∀ sta, (s.count psta ac change).qcnt sta other = s.qcnt sta other := by
      intro sta
      by_cases own : sta = psta
      · subst own
        simp [XmitPriv.count, same]
      · simp [XmitPriv.count, own]
    rw [Finset.sum_congr rfl (fun sta _ => unchanged sta), ← accnt other]
    simp [XmitPriv.count, same]

theorem qcnt_count (s : XmitPriv) (psta : Sta) (ac : Ac) (change : Int) (sta : Sta) (other : Ac) :
    (s.count psta ac change).qcnt sta other =
      if sta = psta ∧ other = ac then s.qcnt psta ac + change else s.qcnt sta other := by
  by_cases own : sta = psta
  · subst own
    by_cases same : other = ac
    · subst same
      simp [XmitPriv.count]
    · simp [XmitPriv.count, same]
  · simp [XmitPriv.count, own]

theorem Accounted.classifier (accounted : Accounted s) {pxmitframe : Frame}
    (there : pxmitframe ∈ s.queue .held) : Accounted (rtw_xmit_classifier s pxmitframe).1 := by
  unfold rtw_xmit_classifier
  split
  case h_1 => exact accounted
  case h_2 psta bound =>
    generalize chosen : rtw_get_sta_pending (s.attrib pxmitframe).priority = ac
    have absent : pxmitframe ∉ s.queue (.sta_pending psta ac) :=
      accounted.counted.placed.not_mem there nofun
    have own : Placement.move s.queue pxmitframe (.sta_pending psta ac) (.sta_pending psta ac) =
        s.queue (.sta_pending psta ac) ++ [pxmitframe] := move_target absent
    have other : ∀ sta category, ¬ (sta = psta ∧ category = ac) ->
        Placement.move s.queue pxmitframe (.sta_pending psta ac) (.sta_pending sta category) =
          s.queue (.sta_pending sta category) := by
      intro sta category different
      refine move_outside (accounted.counted.placed.not_mem there nofun) ?_
      rintro same
      cases same
      exact different ⟨rfl, rfl⟩
    constructor
    case counted =>
      constructor
      case placed => exact accounted.counted.placed.move pxmitframe _
      case qcnt =>
        intro sta category
        rw [qcnt_count]
        by_cases same : sta = psta ∧ category = ac
        · rw [if_pos same, same.1, same.2]
          show s.qcnt psta ac + 1 = ((Placement.move s.queue pxmitframe _ _).length : Int)
          rw [own, List.length_append, List.length_singleton, accounted.counted.qcnt psta ac]
          omega
        · rw [if_neg same]
          show s.qcnt sta category = ((Placement.move s.queue pxmitframe _ _).length : Int)
          rw [other sta category same]
          exact accounted.counted.qcnt sta category
      case accnt => exact fun category => sum_count _ psta ac 1 accounted.counted.accnt category
      case nodup => exact fun category => link_nodup accounted.counted.nodup category
    case linked =>
      intro sta category
      show sta ∈ (s.link psta ac).sta_queue category <-> Placement.move s.queue pxmitframe _ _ ≠ []
      by_cases same : category = ac
      · subst same
        rw [mem_link]
        by_cases first : sta = psta
        · subst first
          simp [own]
        · rw [other sta category (fun both => first both.1), or_iff_right first]
          exact accounted.linked sta category
      · rw [link_of_ne same, other sta category (fun both => same both.2)]
        exact accounted.linked sta category
    case routed =>
      intro sta category queued member
      have routes : SameRoutes s ((rtw_list_insert_tail (s.link psta ac) pxmitframe
          (.sta_pending psta ac)).count psta ac 1) := SameRoutes.of_eq rfl rfl rfl
      rw [routes.linked_sta, routes.priority]
      change queued ∈ Placement.move s.queue pxmitframe _ _ at member
      by_cases same : sta = psta ∧ category = ac
      · rw [same.1, same.2, own, List.mem_append, List.mem_singleton] at member
        rw [same.1, same.2]
        rcases member with before | new
        · exact accounted.routed psta ac queued before
        · rw [new]
          exact ⟨bound, chosen⟩
      · rw [other sta category same] at member
        exact accounted.routed sta category queued member
    case ids => exact accounted.ids

theorem Accounted.hal_xmitframe_enqueue (accounted : Accounted s) {pxmitframe : Frame}
    (there : pxmitframe ∈ s.queue .held) : Accounted (rtw_hal_xmitframe_enqueue s pxmitframe) := by
  have classified := accounted.classifier there
  unfold rtw_hal_xmitframe_enqueue
  unfold rtw_xmit_classifier at classified ⊢
  cases bound : linked_sta s pxmitframe with
  | none => exact accounted.free_xmitframe there outside_held
  | some psta =>
      rw [bound] at classified
      exact classified

/-- The first frame of a queue goes to a place that is not counted. -/
structure Leaves (s : XmitPriv) (psta : Sta) (ac : Ac) (pxmitframe : Frame) (t : XmitPriv) : Prop where
  first : ∃ rest, s.queue (.sta_pending psta ac) = pxmitframe :: rest
  queue : ∃ target, target.Outside ∧ t.queue = Placement.move s.queue pxmitframe target
  qcnt : t.qcnt = s.qcnt
  sta_queue : t.sta_queue = s.sta_queue
  accnt : t.accnt = s.accnt

namespace Leaves

variable {psta : Sta} {ac : Ac} {pxmitframe : Frame}

theorem own (leaves : Leaves s psta ac pxmitframe t) :
    s.queue (.sta_pending psta ac) = pxmitframe :: t.queue (.sta_pending psta ac) := by
  rcases leaves.first with ⟨rest, first⟩
  rcases leaves.queue with ⟨target, outside, moved⟩
  rw [moved, move_head first (outside psta ac).symm, first]

theorem other (leaves : Leaves s psta ac pxmitframe t) (placed : Placed s.queue) (different : ¬ (sta = psta ∧ category = ac)) :
    t.queue (.sta_pending sta category) = s.queue (.sta_pending sta category) := by
  rcases leaves.queue with ⟨target, outside, moved⟩
  have there : pxmitframe ∈ s.queue (.sta_pending psta ac) := by
    rw [leaves.own]
    exact List.mem_cons_self
  rw [moved]
  refine move_outside (placed.not_mem there ?_) (outside sta category).symm
  intro same
  cases same
  exact different ⟨rfl, rfl⟩

theorem counted (leaves : Leaves s psta ac pxmitframe t) (counted : Counted s) : Counted (t.count psta ac (-1)) := by
  constructor
  case placed =>
    rcases leaves.queue with ⟨target, _, moved⟩
    show Placed t.queue
    rw [moved]
    exact counted.placed.move pxmitframe target
  case qcnt =>
    intro sta category
    rw [qcnt_count, leaves.qcnt]
    show _ = ((t.queue (.sta_pending sta category)).length : Int)
    by_cases same : sta = psta ∧ category = ac
    · rw [if_pos same, same.1, same.2, counted.qcnt psta ac, leaves.own, List.length_cons]
      omega
    · rw [if_neg same, leaves.other counted.placed same]
      exact counted.qcnt sta category
  case accnt =>
    intro category
    refine sum_count t psta ac (-1) ?_ category
    intro other
    rw [leaves.accnt, leaves.qcnt]
    exact counted.accnt other
  case nodup =>
    show ∀ category, (t.sta_queue category).Nodup
    rw [leaves.sta_queue]
    exact counted.nodup

theorem mem (leaves : Leaves s psta ac pxmitframe t) (placed : Placed s.queue) {queued : Frame} (there : queued ∈ t.queue (.sta_pending sta category)) :
    queued ∈ s.queue (.sta_pending sta category) := by
  by_cases same : sta = psta ∧ category = ac
  · rw [same.1, same.2] at there ⊢
    rw [leaves.own]
    exact List.mem_cons_of_mem _ there
  · rwa [leaves.other placed same] at there

end Leaves

theorem mem_unlink (nodup : ∀ other, (s.sta_queue other).Nodup) {psta other : Sta} {ac : Ac} :
    other ∈ (s.unlink psta ac).sta_queue category <->
      other ∈ s.sta_queue category ∧ ¬ (other = psta ∧ category = ac) := by
  unfold XmitPriv.unlink
  by_cases same : category = ac
  · subst same
    simp only [update_self, (nodup category).mem_erase_iff, and_true]
    exact and_comm
  · simp [same]

theorem Counted.unlink (counted : Counted s) (psta : Sta) (ac : Ac) : Counted (s.unlink psta ac) := by
  refine ⟨counted.placed, counted.qcnt, counted.accnt, fun category => ?_⟩
  unfold XmitPriv.unlink
  by_cases same : category = ac
  · subst same
    simp only [update_self]
    exact (counted.nodup category).erase psta
  · simp only [update_of_ne same]
    exact counted.nodup category

theorem linked_unlink (nodup : ∀ other, (s.sta_queue other).Nodup) {psta : Sta} {ac : Ac}
    (empty : s.queue (.sta_pending psta ac) = [])
    (others : ∀ sta category, ¬ (sta = psta ∧ category = ac) -> Linked s sta category)
    (sta : Sta) (category : Ac) : Linked (s.unlink psta ac) sta category := by
  show sta ∈ (s.unlink psta ac).sta_queue category <-> s.queue (.sta_pending sta category) ≠ []
  rw [mem_unlink nodup]
  by_cases same : sta = psta ∧ category = ac
  · rw [same.1, same.2]
    simp [empty]
  · rw [and_iff_left same]
    exact others sta category same

theorem Accounted.dequeue_xframe (accounted : Accounted s) : Accounted (rtw_dequeue_xframe s).1 := by
  unfold rtw_dequeue_xframe
  split
  case h_1 => exact accounted
  case h_2 psta ac pxmitframe search =>
    have leaves : Leaves s psta ac pxmitframe (rtw_list_delete s pxmitframe) := by
      refine ⟨?_, ⟨.held, outside_held, rfl⟩, rfl, rfl, rfl⟩
      rcases List.exists_of_findSome?_eq_some search with ⟨category, _, found⟩
      rcases List.exists_of_findSome?_eq_some found with ⟨sta, _, head⟩
      rcases Option.map_eq_some_iff.mp head with ⟨frame, taken, same⟩
      cases same
      exact ⟨_, List.eq_cons_of_mem_head? taken⟩
    have counted := leaves.counted accounted.counted
    have others : ∀ sta category, ¬ (sta = psta ∧ category = ac) ->
        Linked ((rtw_list_delete s pxmitframe).count psta ac (-1)) sta category := by
      intro sta category different
      show sta ∈ s.sta_queue category <-> (rtw_list_delete s pxmitframe).queue (.sta_pending sta category) ≠ []
      rw [leaves.other accounted.counted.placed different]
      exact accounted.linked sta category
    have routed : ∀ sta category,
        Routed ((rtw_list_delete s pxmitframe).count psta ac (-1)) sta category :=
      fun sta category => (accounted.routed sta category).congr (SameRoutes.of_eq rfl rfl rfl)
        (fun _ there => leaves.mem accounted.counted.placed there)
    dsimp only
    split
    case isTrue empty =>
      exact ⟨counted.unlink psta ac, linked_unlink counted.nodup empty others, routed, accounted.ids⟩
    case isFalse nonempty =>
      refine ⟨counted, fun sta category => ?_, routed, accounted.ids⟩
      by_cases same : sta = psta ∧ category = ac
      · rw [same.1, same.2]
        refine iff_of_true ((accounted.linked psta ac).mpr ?_) nonempty
        rw [leaves.own]
        exact List.cons_ne_nil _ _
      · exact others sta category same

/-! ## To sleep -/

/-- What the sleep queue takes, and what it leaves alone. -/
structure Slept (s : XmitPriv) (pxmitframe : Frame) (psta : Sta) (t : XmitPriv) : Prop where
  bound : linked_sta s pxmitframe = some psta
  routes : SameRoutes s t
  aid : ∀ sta, (t.sta sta).aid = (s.sta sta).aid
  sleeping : ∀ sta, (t.sta sta).sleeping = (s.sta sta).sleeping
  aid_bmp_len : t.aid_bmp_len = s.aid_bmp_len
  dozing : ∀ id, s.sta_dz_bitmap id = true -> t.sta_dz_bitmap id = true
  queue : t.queue =
    Placement.move (Placement.move s.queue pxmitframe .held) pxmitframe (.sleep_q psta)
  qcnt : t.qcnt = s.qcnt
  sta_queue : t.sta_queue = s.sta_queue
  accnt : t.accnt = s.accnt

theorem bmp_set_mono (bmp : Nat -> Bool) (bmp_len id : Nat) {other : Nat} (set : bmp other = true) :
    rtw_bmp_set bmp bmp_len id other = true := by
  unfold rtw_bmp_set
  split
  · by_cases same : other = id
    · rw [same, update_self]
    · rwa [update_of_ne same]
  · exact set

namespace Slept

variable {pxmitframe : Frame} {psta : Sta}

theorem enter (bound : linked_sta s pxmitframe = some psta) (wmmps_ac : Bool) :
    Slept s pxmitframe psta (enter_sleep_q s pxmitframe psta wmmps_ac) where
  bound := bound
  routes := (@SameRoutes.modify_sta s psta (fun sta => sta.enqueue wmmps_ac) rfl rfl).trans
    (SameRoutes.of_eq rfl rfl rfl)
  aid := @aid_modify_sta s psta (fun sta => sta.enqueue wmmps_ac) rfl
  sleeping := by
    intro other
    show (Function.update s.sta psta ((s.sta psta).enqueue wmmps_ac) other).sleeping = _
    by_cases same : other = psta
    · rw [same, update_self]
      rfl
    · rw [update_of_ne same]
  aid_bmp_len := rfl
  dozing _ set := set
  queue := rfl
  qcnt := rfl
  sta_queue := rfl
  accnt := rfl

theorem tim_map_set (slept : Slept s pxmitframe psta t) (id : Nat) : Slept s pxmitframe psta (t.tim_map_set id) :=
  { slept with routes := slept.routes.trans (SameRoutes.of_eq rfl rfl rfl) }

theorem dz_map_set (slept : Slept s pxmitframe psta t) (id : Nat) : Slept s pxmitframe psta (t.dz_map_set id) :=
  { slept with
    routes := slept.routes.trans (SameRoutes.of_eq rfl rfl rfl)
    dozing := fun other set => bmp_set_mono _ _ _ (slept.dozing other set) }

end Slept

/-- The station of a frame takes frames into `sleep_q`. -/
def Dozing (s : XmitPriv) (psta : Sta) : Prop :=
  rtw_bmp_not_empty s.sta_dz_bitmap s.aid_bmp_len = true ∧
    (IS_MCAST (s.sta psta).mac_addr = false -> (s.sta psta).sleeping = true ∧
      rtw_bmp_is_set s.sta_dz_bitmap s.aid_bmp_len (s.sta psta).aid = true)

theorem sleeping_enqueue_cases (s : XmitPriv) (pxmitframe : Frame) :
    xmitframe_enqueue_for_sleeping_sta s pxmitframe = (s, false) ∨
      ∃ psta, ∃ t,
        xmitframe_enqueue_for_sleeping_sta s pxmitframe = (t, true) ∧ Slept s pxmitframe psta t := by
  unfold xmitframe_enqueue_for_sleeping_sta
  cases bound : linked_sta s pxmitframe with
  | none => exact Or.inl rfl
  | some psta =>
      dsimp only
      split
      case isTrue => exact Or.inl rfl
      case isFalse =>
        split
        case isTrue =>
          split
          case isTrue =>
            exact Or.inr ⟨psta, _, rfl, ((Slept.enter bound false).tim_map_set 0).dz_map_set 0⟩
          case isFalse => exact Or.inl rfl
        case isFalse =>
          split
          case isTrue =>
            refine Or.inr ⟨psta, _, rfl, ?_⟩
            split
            · exact (Slept.enter bound _).tim_map_set _
            · exact Slept.enter bound _
          case isFalse => exact Or.inl rfl

theorem found_mac_addr {hwaddr : MacAddr} {psta : Sta} (found : rtw_get_stainfo s hwaddr = some psta) :
    (s.sta psta).mac_addr = if IS_MCAST hwaddr then bc_addr else hwaddr := by
  have matched := List.find?_some found
  rwa [decide_eq_true_eq] at matched

theorem linked_sta_eq_some {pxmitframe : Frame} {psta : Sta} :
    linked_sta s pxmitframe = some psta <-> (s.attrib pxmitframe).psta = some psta ∧
      rtw_get_stainfo s (s.attrib pxmitframe).ra = some psta ∧ (s.sta psta).fw_linked = true := by
  unfold linked_sta
  dsimp only
  split
  case isTrue different =>
    refine iff_of_false nofun ?_
    rintro ⟨own, found, _⟩
    exact different (own.trans found.symm)
  case isFalse same =>
    rw [ne_eq, Decidable.not_not] at same
    rw [Option.filter_eq_some_iff, ← same]
    exact ⟨fun both => ⟨both.1, both.1, both.2⟩, fun all => ⟨all.1, all.2.2⟩⟩

theorem mcast_of_linked {pxmitframe : Frame} {psta : Sta} (bound : linked_sta s pxmitframe = some psta) :
    IS_MCAST (s.attrib pxmitframe).ra = IS_MCAST (s.sta psta).mac_addr := by
  rw [found_mac_addr (linked_sta_eq_some.mp bound).2.1]
  split
  case isTrue group =>
    rw [group]
    rfl
  case isFalse => rfl

theorem sleeping_enqueue_of_dozing {pxmitframe : Frame} {psta : Sta}
    (bound : linked_sta s pxmitframe = some psta) (dozing : Dozing s psta)
    (untriggered : (s.attrib pxmitframe).triggered = false) :
    (xmitframe_enqueue_for_sleeping_sta s pxmitframe).2 = true := by
  unfold xmitframe_enqueue_for_sleeping_sta
  rw [bound]
  simp only [untriggered, Bool.false_eq_true, if_false]
  split
  case isTrue => rw [if_pos dozing.1]
  case isFalse unicast =>
    rw [mcast_of_linked bound, Bool.not_eq_true] at unicast
    rw [if_pos (Bool.and_eq_true_iff.mpr (dozing.2 unicast))]

theorem Slept.leaves {pxmitframe : Frame} {psta : Sta} {ac : Ac} (slept : Slept s pxmitframe psta t)
    (placed : Placed s.queue) {rest : List Frame}
    (first : s.queue (.sta_pending sta ac) = pxmitframe :: rest) : Leaves s sta ac pxmitframe t where
  first := ⟨rest, first⟩
  queue := ⟨.sleep_q psta, outside_sleep_q psta, slept.queue.trans (placed.move_move _ _ _)⟩
  qcnt := slept.qcnt
  sta_queue := slept.sta_queue
  accnt := slept.accnt

theorem Accounted.sleeping_enqueue (accounted : Accounted s) {pxmitframe : Frame}
    (there : pxmitframe ∈ s.queue .held) : Accounted (xmitframe_enqueue_for_sleeping_sta s pxmitframe).1 := by
  rcases sleeping_enqueue_cases s pxmitframe with same | ⟨psta, t, result, slept⟩
  · rw [same]
    exact accounted
  · rw [result]
    have moved := accounted.move there outside_held (outside_sleep_q psta)
    have routes : SameRoutes (rtw_list_insert_tail s pxmitframe (.sleep_q psta)) t :=
      @SameRoutes.trans _ s t (SameRoutes.of_eq rfl rfl rfl) slept.routes
    refine moved.congr ⟨routes, slept.aid, slept.aid_bmp_len, ?_, slept.qcnt, slept.sta_queue, slept.accnt⟩
    exact slept.queue.trans (accounted.counted.placed.move_move _ _ _)

theorem Dozing.slept {pxmitframe : Frame} {psta : Sta} (dozing : Dozing s sta)
    (slept : Slept s pxmitframe psta t) : Dozing t sta := by
  constructor
  · have anyone := dozing.1
    rw [rtw_bmp_not_empty, List.any_eq_true] at anyone ⊢
    rcases anyone with ⟨id, inside, set⟩
    exact ⟨id, slept.aid_bmp_len ▸ inside, slept.dozing id set⟩
  · intro unicast
    rw [slept.routes.mac_addr] at unicast
    have own := dozing.2 unicast
    rw [slept.sleeping, slept.aid, rtw_bmp_is_set, slept.aid_bmp_len]
    refine ⟨own.1, ?_⟩
    have set := own.2
    unfold rtw_bmp_is_set at set
    split at set
    case isTrue => cases set
    case isFalse inside =>
      rw [if_neg inside]
      exact slept.dozing _ set

/-- While the frames of a queue go to sleep, the rest of the queue and all others
are in order, but for the link of the queue itself. -/
structure GoesToSleep (s : XmitPriv) (psta : Sta) (ac : Ac) : Prop where
  counted : Counted s
  others : ∀ sta category, ¬ (sta = psta ∧ category = ac) -> Linked s sta category
  routed : ∀ sta category, Routed s sta category
  ids : ∀ sta, (s.sta sta).aid / 8 < s.aid_bmp_len
  dozing : Dozing s psta

theorem SameRoutes.untrigger (s : XmitPriv) (pxmitframe : Frame) :
    SameRoutes s (s.set_attrib pxmitframe (fun pattrib => { pattrib with triggered := false })) :=
  @SameRoutes.set_attrib s pxmitframe (fun pattrib => { pattrib with triggered := false }) rfl rfl rfl

theorem GoesToSleep.untrigger {psta : Sta} {ac : Ac} (goes : GoesToSleep s psta ac) (pxmitframe : Frame) :
    GoesToSleep (s.set_attrib pxmitframe (fun pattrib => { pattrib with triggered := false })) psta ac where
  counted := ⟨goes.counted.placed, goes.counted.qcnt, goes.counted.accnt, goes.counted.nodup⟩
  others := goes.others
  routed sta category :=
    (goes.routed sta category).congr (SameRoutes.untrigger s pxmitframe) (fun _ there => there)
  ids := goes.ids
  dozing := goes.dozing

def KeepsDozing (s t : XmitPriv) : Prop := ∀ psta, Dozing s psta -> Dozing t psta

theorem GoesToSleep.round {psta : Sta} {ac : Ac} (goes : GoesToSleep s psta ac) {pxmitframe : Frame}
    {rest : List Frame} (first : s.queue (.sta_pending psta ac) = pxmitframe :: rest) :
    GoesToSleep (dequeue_to_sleeping_queue psta s pxmitframe) psta ac ∧
      (dequeue_to_sleeping_queue psta s pxmitframe).queue (.sta_pending psta ac) = rest ∧
        KeepsDozing s (dequeue_to_sleeping_queue psta s pxmitframe) := by
  unfold dequeue_to_sleeping_queue
  have untriggered : ((s.set_attrib pxmitframe
      (fun pattrib => { pattrib with triggered := false })).attrib pxmitframe).triggered = false := by
    simp [XmitPriv.set_attrib]
  have goes := goes.untrigger pxmitframe
  have first : (s.set_attrib pxmitframe
      (fun pattrib => { pattrib with triggered := false })).queue (.sta_pending psta ac) =
        pxmitframe :: rest := first
  have kept : KeepsDozing s (s.set_attrib pxmitframe
      (fun pattrib => { pattrib with triggered := false })) := fun _ dozing => dozing
  generalize s.set_attrib pxmitframe (fun pattrib => { pattrib with triggered := false }) = u at *
  have there : pxmitframe ∈ u.queue (.sta_pending psta ac) := by
    rw [first]
    exact List.mem_cons_self
  have route := goes.routed psta ac pxmitframe there
  have taken := sleeping_enqueue_of_dozing route.1 goes.dozing untriggered
  rcases sleeping_enqueue_cases u pxmitframe with same | ⟨sta, t, result, slept⟩
  · rw [same] at taken
    cases taken
  · have own : sta = psta := Option.some.inj (slept.bound.symm.trans route.1)
    subst own
    have leaves := slept.leaves goes.counted.placed first
    have dozing : KeepsDozing u (t.count sta ac (-1)) := fun other dozing => by
      have later := dozing.slept slept
      exact later
    simp only [result]
    rw [slept.routes.priority, route.2]
    refine ⟨?_, ?_, fun other asleep => dozing other (kept other asleep)⟩
    · constructor
      case counted => exact leaves.counted goes.counted
      case others =>
        intro other category different
        show other ∈ t.sta_queue category <-> t.queue (.sta_pending other category) ≠ []
        rw [slept.sta_queue, leaves.other goes.counted.placed different]
        exact goes.others other category different
      case routed =>
        intro other category
        exact (goes.routed other category).congr (slept.routes.trans (SameRoutes.of_eq rfl rfl rfl))
          (fun _ there => leaves.mem goes.counted.placed there)
      case ids =>
        intro other
        show (t.sta other).aid / 8 < t.aid_bmp_len
        rw [slept.aid, slept.aid_bmp_len]
        exact goes.ids other
      case dozing => exact dozing sta goes.dozing
    · show t.queue (.sta_pending sta ac) = rest
      have own := leaves.own
      rw [first] at own
      exact (List.cons.inj own).2.symm

theorem GoesToSleep.rounds {psta : Sta} {ac : Ac} (frames : List Frame) (goes : GoesToSleep s psta ac)
    (all : s.queue (.sta_pending psta ac) = frames) :
    GoesToSleep (frames.foldl (dequeue_to_sleeping_queue psta) s) psta ac ∧
      (frames.foldl (dequeue_to_sleeping_queue psta) s).queue (.sta_pending psta ac) = [] ∧
        KeepsDozing s (frames.foldl (dequeue_to_sleeping_queue psta) s) := by
  induction frames generalizing s with
  | nil => exact ⟨goes, all, fun _ asleep => asleep⟩
  | cons pxmitframe rest ih =>
      rcases goes.round all with ⟨next, left, kept⟩
      rcases ih next left with ⟨last, empty, keptToo⟩
      exact ⟨last, empty, fun sta asleep => keptToo sta (kept sta asleep)⟩

theorem GoesToSleep.rounds_keep {Invariant : XmitPriv -> Prop} {psta : Sta} {ac : Ac}
    (step : ∀ {u : XmitPriv} {pxmitframe}, GoesToSleep u psta ac ->
      pxmitframe ∈ u.queue (.sta_pending psta ac) -> Invariant u ->
        Invariant (dequeue_to_sleeping_queue psta u pxmitframe))
    (frames : List Frame) (goes : GoesToSleep s psta ac) (all : s.queue (.sta_pending psta ac) = frames)
    (initial : Invariant s) : Invariant (frames.foldl (dequeue_to_sleeping_queue psta) s) := by
  induction frames generalizing s with
  | nil => exact initial
  | cons pxmitframe rest ih =>
      have there : pxmitframe ∈ s.queue (.sta_pending psta ac) := by
        rw [all]
        exact List.mem_cons_self
      rcases goes.round all with ⟨next, left, _⟩
      exact ih next left (step goes there initial)

theorem Accounted.goes_to_sleep (accounted : Accounted s) {psta : Sta} (dozing : Dozing s psta) (ac : Ac) :
    GoesToSleep s psta ac :=
  ⟨accounted.counted, fun sta category _ => accounted.linked sta category, accounted.routed, accounted.ids,
    dozing⟩

theorem Accounted.stop_queue (accounted : Accounted s) {psta : Sta} (dozing : Dozing s psta) (ac : Ac) :
    Accounted ((dequeue_xmitframes_to_sleeping_queue s psta ac).unlink psta ac) ∧
      KeepsDozing s ((dequeue_xmitframes_to_sleeping_queue s psta ac).unlink psta ac) := by
  rcases (accounted.goes_to_sleep dozing ac).rounds _ rfl with ⟨last, empty, kept⟩
  refine ⟨⟨last.counted.unlink psta ac, linked_unlink last.counted.nodup empty last.others, last.routed,
    last.ids⟩, kept⟩

theorem Accounted.stop_queues (accounted : Accounted s) {psta : Sta} (dozing : Dozing s psta) :
    Accounted (stop_queues s psta) ∧ KeepsDozing s (stop_queues s psta) := by
  unfold ApXmit.stop_queues
  generalize [Ac.vo, .vi, .be, .bk] = categories
  induction categories generalizing s with
  | nil => exact ⟨accounted, fun _ asleep => asleep⟩
  | cons ac rest ih =>
      rcases accounted.stop_queue dozing ac with ⟨next, kept⟩
      rcases ih next (kept psta dozing) with ⟨last, keptToo⟩
      exact ⟨last, fun sta asleep => keptToo sta (kept sta asleep)⟩

theorem Accounted.stop_queues_keep {Invariant : XmitPriv -> Prop} {psta : Sta}
    (step : ∀ {u : XmitPriv} {ac pxmitframe}, GoesToSleep u psta ac ->
      pxmitframe ∈ u.queue (.sta_pending psta ac) -> Invariant u ->
        Invariant (dequeue_to_sleeping_queue psta u pxmitframe))
    (unlink : ∀ {u : XmitPriv} {ac}, Invariant u -> Invariant (u.unlink psta ac))
    (accounted : Accounted s) (dozing : Dozing s psta) (initial : Invariant s) :
    Invariant (ApXmit.stop_queues s psta) := by
  unfold ApXmit.stop_queues
  generalize [Ac.vo, .vi, .be, .bk] = categories
  induction categories generalizing s with
  | nil => exact initial
  | cons ac rest ih =>
      rcases accounted.stop_queue dozing ac with ⟨next, kept⟩
      refine ih next (kept psta dozing) (unlink ?_)
      exact (accounted.goes_to_sleep dozing ac).rounds_keep step _ rfl initial

theorem SameRoutes.lull (s : XmitPriv) (psta : Sta) : SameRoutes s (s.lull psta) :=
  (@SameRoutes.modify_sta s psta (fun sta => { sta with sleeping := true }) rfl rfl).trans
    (SameRoutes.of_eq rfl rfl rfl)

theorem Accounted.lull (accounted : Accounted s) (psta : Sta) : Accounted (s.lull psta) := by
  exact accounted.congr ⟨SameRoutes.lull s psta, @aid_modify_sta s psta (fun sta => { sta with sleeping := true }) rfl, rfl, rfl,
    rfl, rfl, rfl⟩

theorem Accounted.dozing_lull (accounted : Accounted s) (psta : Sta) : Dozing (s.lull psta) psta := by
  have inside := accounted.ids psta
  have set : (s.lull psta).sta_dz_bitmap (s.sta psta).aid = true := by
    show rtw_bmp_set s.sta_dz_bitmap s.aid_bmp_len (s.sta psta).aid (s.sta psta).aid = true
    rw [rtw_bmp_set, if_pos inside, update_self]
  have record : (s.lull psta).sta psta = { s.sta psta with sleeping := true } := update_self _ _ _
  constructor
  · rw [rtw_bmp_not_empty, List.any_eq_true]
    refine ⟨(s.sta psta).aid, List.mem_range.mpr ?_, set⟩
    show (s.sta psta).aid < 8 * s.aid_bmp_len
    omega
  · intro _
    rw [record]
    refine ⟨rfl, ?_⟩
    rw [rtw_bmp_is_set, if_neg (Nat.not_le.mpr (show (s.sta psta).aid / 8 < (s.lull psta).aid_bmp_len from inside))]
    exact set

theorem Dozing.bcmc {psta psta_bmc : Sta} (dozing : Dozing s psta)
    (found : rtw_get_bcmc_stainfo s = some psta_bmc) : Dozing s psta_bmc := by
  refine ⟨dozing.1, fun unicast => ?_⟩
  rw [found_mac_addr found] at unicast
  cases unicast

theorem Accounted.stop_sta_xmit (accounted : Accounted s) (psta : Sta) : Accounted (stop_sta_xmit s psta) := by
  unfold ApXmit.stop_sta_xmit
  have lulled := accounted.lull psta
  have dozing := accounted.dozing_lull psta
  have stopped := lulled.stop_queues dozing
  dsimp only
  split
  case h_1 => exact stopped.1
  case h_2 psta_bmc found =>
    have routes : SameRoutes s (s.lull psta) := SameRoutes.lull s psta
    have asleep := dozing.bcmc ((routes.get_stainfo bc_addr).trans found)
    exact (stopped.1.stop_queues (stopped.2 psta_bmc asleep)).1

theorem Accounted.stop_sta_xmit_keep {Invariant : XmitPriv -> Prop}
    (step : ∀ {u : XmitPriv} {psta ac pxmitframe}, GoesToSleep u psta ac ->
      pxmitframe ∈ u.queue (.sta_pending psta ac) -> Invariant u ->
        Invariant (dequeue_to_sleeping_queue psta u pxmitframe))
    (unlink : ∀ {u : XmitPriv} {psta ac}, Invariant u -> Invariant (u.unlink psta ac))
    (accounted : Accounted s) {psta : Sta} (initial : Invariant (s.lull psta)) :
    Invariant (ApXmit.stop_sta_xmit s psta) := by
  have dozing := accounted.dozing_lull psta
  have stopped := (accounted.lull psta).stop_queues dozing
  have kept := (accounted.lull psta).stop_queues_keep step unlink dozing initial
  unfold ApXmit.stop_sta_xmit
  dsimp only
  split
  case h_1 => exact kept
  case h_2 psta_bmc found =>
    have asleep := dozing.bcmc (((SameRoutes.lull s psta).get_stainfo bc_addr).trans found)
    exact stopped.1.stop_queues_keep step unlink (stopped.2 psta_bmc asleep) kept

/-! ## From sleep -/

theorem SameRoutes.take (s : XmitPriv) (psta : Sta) (pxmitframe : Frame) (wmmps_ac : Bool) :
    SameRoutes s (s.take psta pxmitframe wmmps_ac) := by
  have record := @SameRoutes.modify_sta s psta (fun sta => sta.dequeue wmmps_ac) rfl rfl
  generalize sta_eq : ((rtw_list_delete s pxmitframe).modify_sta psta
    (fun sta => sta.dequeue wmmps_ac)).sta psta = sta
  have attributes := @SameRoutes.set_attrib (s.modify_sta psta (fun sta => sta.dequeue wmmps_ac)) pxmitframe
    (fun pattrib => pattrib.release sta wmmps_ac) rfl rfl rfl
  refine (record.trans attributes).trans ?_
  rw [XmitPriv.take, sta_eq]
  exact SameRoutes.of_eq rfl rfl rfl

theorem Accounted.release_frame (accounted : Accounted s) {psta : Sta} {pxmitframe : Frame}
    (there : pxmitframe ∈ s.queue source) (outside : source.Outside) (wmmps_ac : Bool) :
    Accounted (release_frame s psta pxmitframe wmmps_ac) := by
  have deleted := accounted.list_delete there outside
  have held := mem_insert_tail accounted.counted.placed pxmitframe .held
  have routes : SameRoutes (rtw_list_delete s pxmitframe) (s.take psta pxmitframe wmmps_ac) :=
    @SameRoutes.trans _ s _ (SameRoutes.of_eq rfl rfl rfl) (SameRoutes.take s psta pxmitframe wmmps_ac)
  have taken : Accounted (s.take psta pxmitframe wmmps_ac) :=
    deleted.congr ⟨routes, @aid_modify_sta s psta (fun sta => sta.dequeue wmmps_ac) rfl, rfl, rfl, rfl, rfl, rfl⟩
  exact taken.hal_xmitframe_enqueue held

/-- What a frame that is passed on to the hardware leaves alone. -/
structure PassedOn (s : XmitPriv) (pxmitframe : Frame) (t : XmitPriv) : Prop where
  sta : t.sta = s.sta
  attrib : t.attrib = s.attrib
  sta_hash : t.sta_hash = s.sta_hash
  tim_bitmap : t.tim_bitmap = s.tim_bitmap
  sta_dz_bitmap : t.sta_dz_bitmap = s.sta_dz_bitmap
  aid_bmp_len : t.aid_bmp_len = s.aid_bmp_len
  queue : ∃ target, (∀ psta, target ≠ .sleep_q psta) ∧
    t.queue = Placement.move s.queue pxmitframe target

theorem passed_on_classifier {pxmitframe : Frame} {psta : Sta} (bound : linked_sta s pxmitframe = some psta) :
    PassedOn s pxmitframe (rtw_xmit_classifier s pxmitframe).1 := by
  rw [rtw_xmit_classifier, bound]
  exact ⟨rfl, rfl, rfl, rfl, rfl, rfl, .sta_pending psta _, fun _ => nofun, rfl⟩

theorem passed_on (placed : Placed s.queue) (pxmitframe : Frame) :
    PassedOn s pxmitframe (rtw_hal_xmitframe_enqueue s pxmitframe) := by
  unfold rtw_hal_xmitframe_enqueue
  cases bound : linked_sta s pxmitframe with
  | none =>
      rw [rtw_xmit_classifier, bound]
      exact ⟨rfl, rfl, rfl, rfl, rfl, rfl, .free_xmit_queue, fun _ => nofun, placed.move_move _ _ _⟩
  | some psta =>
      have passed := passed_on_classifier bound
      rw [rtw_xmit_classifier, bound] at passed ⊢
      exact passed

theorem PassedOn.sleep_q {pxmitframe : Frame} (passed : PassedOn s pxmitframe t) (placed : Placed s.queue)
    (held : pxmitframe ∈ s.queue .held) (psta : Sta) : t.queue (.sleep_q psta) = s.queue (.sleep_q psta) := by
  rcases passed.queue with ⟨target, elsewhere, moved⟩
  rw [moved]
  exact move_outside (placed.not_mem held nofun) (elsewhere psta).symm

theorem sleep_q_release_frame (placed : Placed s.queue) (psta : Sta) (pxmitframe : Frame) (wmmps_ac : Bool)
    (sta : Sta) : (release_frame s psta pxmitframe wmmps_ac).queue (.sleep_q sta) =
      (s.queue (.sleep_q sta)).erase pxmitframe := by
  have taken : Placed (s.take psta pxmitframe wmmps_ac).queue := placed.move pxmitframe .held
  have held : pxmitframe ∈ (s.take psta pxmitframe wmmps_ac).queue .held :=
    mem_insert_tail placed pxmitframe .held
  rw [release_frame, (passed_on taken pxmitframe).sleep_q taken held]
  have elsewhere : Place.sleep_q sta ≠ .held := nofun
  exact move_source elsewhere

theorem release_loop {Invariant : XmitPriv -> Prop} {round : XmitPriv -> Frame -> XmitPriv} {psta : Sta}
    (step : ∀ {u : XmitPriv} {pxmitframe}, Invariant u -> pxmitframe ∈ u.queue (.sleep_q psta) ->
      Invariant (round u pxmitframe) ∧ ∀ other, other ≠ pxmitframe ->
        other ∈ u.queue (.sleep_q psta) -> other ∈ (round u pxmitframe).queue (.sleep_q psta))
    {frames : List Frame} (nodup : frames.Nodup) (initial : Invariant s)
    (there : ∀ pxmitframe ∈ frames, pxmitframe ∈ s.queue (.sleep_q psta)) : Invariant (frames.foldl round s) := by
  induction frames generalizing s with
  | nil => exact initial
  | cons pxmitframe rest ih =>
      rw [List.nodup_cons] at nodup
      rcases step initial (there pxmitframe List.mem_cons_self) with ⟨next, left⟩
      refine ih nodup.2 next (fun other member => ?_)
      refine left other ?_ (there other (List.mem_cons_of_mem _ member))
      rintro rfl
      exact nodup.1 member

theorem Accounted.release_step (accounted : Accounted s) {psta : Sta} {pxmitframe : Frame}
    (there : pxmitframe ∈ s.queue (.sleep_q psta)) (wmmps_ac : Bool) :
    Accounted (ApXmit.release_frame s psta pxmitframe wmmps_ac) ∧ ∀ other, other ≠ pxmitframe ->
      other ∈ s.queue (.sleep_q psta) ->
        other ∈ (ApXmit.release_frame s psta pxmitframe wmmps_ac).queue (.sleep_q psta) := by
  refine ⟨accounted.release_frame there (outside_sleep_q psta) wmmps_ac, fun other different member => ?_⟩
  rw [sleep_q_release_frame accounted.counted.placed]
  exact (List.mem_erase_of_ne different).mpr member

theorem Accounted.wakeup_sta (accounted : Accounted s) (psta : Sta) : Accounted (wakeup_sta s psta) := by
  have released : Accounted ((s.queue (.sleep_q psta)).foldl (fun s pxmitframe =>
      ApXmit.release_frame s psta pxmitframe (delivery_enabled s psta pxmitframe)) s) :=
    release_loop (fun accounted there => accounted.release_step there _)
      (accounted.counted.placed.nodup _) accounted (fun _ there => there)
  unfold ApXmit.wakeup_sta
  dsimp only
  generalize (s.queue (.sleep_q psta)).foldl (fun s pxmitframe =>
    ApXmit.release_frame s psta pxmitframe (delivery_enabled s psta pxmitframe)) s = u at *
  split
  case isTrue =>
    refine released.congr ⟨(@SameRoutes.modify_sta u psta (fun sta => { sta with sleeping := false }) rfl
      rfl).trans (SameRoutes.of_eq rfl rfl rfl),
      @aid_modify_sta u psta (fun sta => { sta with sleeping := false }) rfl, rfl, rfl, rfl, rfl, rfl⟩
  case isFalse => exact released

theorem SameLists.bits (sta_hash : t.sta_hash = s.sta_hash) (sta : t.sta = s.sta) (attrib : t.attrib = s.attrib)
    (aid_bmp_len : t.aid_bmp_len = s.aid_bmp_len) (queue : t.queue = s.queue) (qcnt : t.qcnt = s.qcnt)
    (sta_queue : t.sta_queue = s.sta_queue) (accnt : t.accnt = s.accnt) : SameLists s t :=
  ⟨SameRoutes.of_eq sta_hash sta attrib, fun _ => by rw [sta], aid_bmp_len, queue, qcnt, sta_queue, accnt⟩

theorem Accounted.wakeup_bmc (accounted : Accounted s) (psta_bmc : Sta) : Accounted (wakeup_bmc s psta_bmc) := by
  have released : Accounted ((s.queue (.sleep_q psta_bmc)).foldl (fun s pxmitframe =>
      ApXmit.release_frame s psta_bmc pxmitframe false) s) :=
    release_loop (fun accounted there => accounted.release_step there _)
      (accounted.counted.placed.nodup _) accounted (fun _ there => there)
  unfold ApXmit.wakeup_bmc
  dsimp only
  split
  case isTrue => exact accounted
  case isFalse =>
    split
    case isTrue => exact released.congr (SameLists.bits rfl rfl rfl rfl rfl rfl rfl rfl)
    case isFalse => exact released

theorem Accounted.wakeup_sta_to_xmit (accounted : Accounted s) (psta : Sta) :
    Accounted (wakeup_sta_to_xmit s psta) := by
  unfold ApXmit.wakeup_sta_to_xmit
  split
  case h_1 => exact accounted.wakeup_sta psta
  case h_2 psta_bmc _ => exact (accounted.wakeup_sta psta).wakeup_bmc psta_bmc

theorem Accounted.xmit_delivery_enabled_frames (accounted : Accounted s) (psta : Sta) :
    Accounted (xmit_delivery_enabled_frames s psta) := by
  refine release_loop ?_ (accounted.counted.placed.nodup _) accounted (fun _ there => there)
  intro u pxmitframe accounted there
  unfold deliver
  split
  case isTrue =>
    rcases accounted.release_step there true with ⟨released, left⟩
    dsimp only
    split
    case isTrue => exact ⟨released.congr (SameLists.bits rfl rfl rfl rfl rfl rfl rfl rfl), left⟩
    case isFalse => exact ⟨released, left⟩
  case isFalse => exact ⟨accounted, fun _ _ there => there⟩

theorem Accounted.serve_ps_poll (accounted : Accounted s) (psta : Sta) : Accounted (serve_ps_poll s psta) := by
  unfold ApXmit.serve_ps_poll
  split
  case h_1 pxmitframe rest first =>
    have there : pxmitframe ∈ s.queue (.sleep_q psta) := by
      rw [first]
      exact List.mem_cons_self
    have released := (accounted.release_step there false).1
    dsimp only
    split
    case isTrue => exact released.congr (SameLists.bits rfl rfl rfl rfl rfl rfl rfl rfl)
    case isFalse => exact released
  case h_2 =>
    split
    case isTrue =>
      exact accounted.congr ⟨(@SameRoutes.modify_sta s psta (fun sta => { sta with sleepq_len := 0 }) rfl
        rfl).trans (SameRoutes.of_eq rfl rfl rfl),
        @aid_modify_sta s psta (fun sta => { sta with sleepq_len := 0 }) rfl, rfl, rfl, rfl, rfl, rfl⟩
    case isFalse => exact accounted

/-! ## Removal of a station -/

/-- The frames of one place are freed, and nothing else changes. -/
structure Emptied (s : XmitPriv) (place : Place) (t : XmitPriv) : Prop where
  rest : t = { s with queue := t.queue }
  placed : Placed t.queue
  empty : t.queue place = []
  kept : ∀ other, other ≠ place -> other ≠ .free_xmit_queue -> t.queue other = s.queue other

theorem free_xmitframe_eq (placed : Placed s.queue) (pxmitframe : Frame) :
    rtw_free_xmitframe s pxmitframe =
      { s with queue := Placement.move s.queue pxmitframe .free_xmit_queue } := by
  rw [rtw_free_xmitframe, rtw_list_insert_tail, rtw_list_delete, placed.move_move]

theorem free_loop {place : Place} (busy : place ≠ .free_xmit_queue) (frames : List Frame)
    (placed : Placed s.queue) (all : s.queue place = frames) :
    Emptied s place (frames.foldl rtw_free_xmitframe s) := by
  induction frames generalizing s with
  | nil => exact ⟨rfl, placed, all, fun _ _ _ => rfl⟩
  | cons pxmitframe rest ih =>
      have there : pxmitframe ∈ s.queue place := by
        rw [all]
        exact List.mem_cons_self
      have left : Placement.move s.queue pxmitframe .free_xmit_queue place = rest := move_head all busy
      rw [List.foldl_cons, free_xmitframe_eq placed]
      have emptied := ih (s := { s with
        queue := Placement.move s.queue pxmitframe .free_xmit_queue })
        (placed.move pxmitframe .free_xmit_queue) left
      refine ⟨emptied.rest, emptied.placed, emptied.empty, fun other different inUse => ?_⟩
      rw [emptied.kept other different inUse]
      exact move_outside (placed.not_mem there different) inUse

theorem free_xmitframe_queue (placed : Placed s.queue) {place : Place} (busy : place ≠ .free_xmit_queue) :
    Emptied s place (rtw_free_xmitframe_queue s place) := free_loop busy _ placed rfl

/-- The accounts while a station is removed: its own frames have lost their station. -/
structure Removing (s : XmitPriv) (psta : Sta) : Prop where
  counted : Counted s
  linked : ∀ sta ac, Linked s sta ac
  routed : ∀ sta ac, sta ≠ psta -> Routed s sta ac
  ids : ∀ sta, (s.sta sta).aid / 8 < s.aid_bmp_len

theorem find?_erase_of_ne {found gone : Sta} {known : List Sta} {matched : Sta -> Bool}
    (first : known.find? matched = some found) (different : found ≠ gone) :
    (known.erase gone).find? matched = some found := by
  induction known with
  | nil => cases first
  | cons head rest ih =>
      rw [List.find?_cons] at first
      rw [List.erase_cons]
      split at first
      case h_1 hit =>
        rw [Option.some.injEq] at first
        subst first
        rw [if_neg (by simpa using different), List.find?_cons, hit]
      case h_2 miss =>
        split
        case isTrue => exact first
        case isFalse =>
          rw [List.find?_cons, miss]
          exact ih first

theorem linked_sta_forget {psta other : Sta} {pxmitframe : Frame} (different : other ≠ psta)
    (bound : linked_sta s pxmitframe = some other) : linked_sta (s.forget psta) pxmitframe = some other := by
  rw [linked_sta_eq_some] at bound ⊢
  have record : (s.forget psta).sta other = s.sta other := update_of_ne different _ _
  have addresses : ∀ sta, ((s.forget psta).sta sta).mac_addr = (s.sta sta).mac_addr := by
    intro sta
    by_cases same : sta = psta
    · subst same
      simp [XmitPriv.forget, XmitPriv.modify_sta]
    · simp [XmitPriv.forget, XmitPriv.modify_sta, same]
  refine ⟨bound.1, ?_, by rw [record]; exact bound.2.2⟩
  have found := bound.2.1
  rw [rtw_get_stainfo] at found ⊢
  simp only [addresses]
  exact find?_erase_of_ne found different

theorem Accounted.forget (accounted : Accounted s) (psta : Sta) : Removing (s.forget psta) psta where
  counted := ⟨accounted.counted.placed, accounted.counted.qcnt, accounted.counted.accnt, accounted.counted.nodup⟩
  linked := accounted.linked
  routed sta ac different pxmitframe there := by
    have route := accounted.routed sta ac pxmitframe there
    exact ⟨linked_sta_forget different route.1, route.2⟩
  ids := by
    intro sta
    by_cases same : sta = psta
    · subst same
      simpa [XmitPriv.forget, XmitPriv.modify_sta] using accounted.ids sta
    · simpa [XmitPriv.forget, XmitPriv.modify_sta, same] using accounted.ids sta

theorem Emptied.routes {place : Place} (emptied : Emptied s place t) : SameRoutes s t := by
  rw [emptied.rest]
  exact SameRoutes.of_eq rfl rfl rfl

theorem Removing.free_sleep_q {psta : Sta} (removing : Removing s psta) :
    Removing ((rtw_free_xmitframe_queue s (.sleep_q psta)).modify_sta psta
      (fun sta => { sta with sleepq_len := 0 })) psta := by
  have emptied : Emptied s (.sleep_q psta) _ := free_xmitframe_queue removing.counted.placed nofun
  generalize rtw_free_xmitframe_queue s (.sleep_q psta) = t at *
  have pending : ∀ sta ac, t.queue (.sta_pending sta ac) = s.queue (.sta_pending sta ac) :=
    fun sta ac => emptied.kept _ nofun nofun
  have routes : SameRoutes s (t.modify_sta psta (fun sta => { sta with sleepq_len := 0 })) :=
    emptied.routes.trans (@SameRoutes.modify_sta t psta (fun sta => { sta with sleepq_len := 0 }) rfl rfl)
  have same : t.qcnt = s.qcnt ∧ t.accnt = s.accnt ∧ t.sta_queue = s.sta_queue ∧ t.sta = s.sta ∧
      t.aid_bmp_len = s.aid_bmp_len := by
    rw [emptied.rest]
    exact ⟨rfl, rfl, rfl, rfl, rfl⟩
  rcases same with ⟨qcnt, accnt, sta_queue, sta_eq, aid_bmp_len⟩
  constructor
  case counted =>
    constructor
    case placed => exact emptied.placed
    case qcnt =>
      intro sta ac
      show t.qcnt sta ac = ((t.queue (.sta_pending sta ac)).length : Int)
      rw [qcnt, pending]
      exact removing.counted.qcnt sta ac
    case accnt =>
      intro ac
      show t.accnt ac = ∑ sta, t.qcnt sta ac
      rw [accnt, qcnt]
      exact removing.counted.accnt ac
    case nodup =>
      show ∀ ac, (t.sta_queue ac).Nodup
      rw [sta_queue]
      exact removing.counted.nodup
  case linked =>
    intro sta ac
    show sta ∈ t.sta_queue ac <-> t.queue (.sta_pending sta ac) ≠ []
    rw [sta_queue, pending]
    exact removing.linked sta ac
  case routed =>
    intro sta ac different
    exact (removing.routed sta ac different).congr routes (fun _ there => pending sta ac ▸ there)
  case ids =>
    intro sta
    rw [@aid_modify_sta t psta (fun sta => { sta with sleepq_len := 0 }) rfl, sta_eq]
    show _ < t.aid_bmp_len
    rw [aid_bmp_len]
    exact removing.ids sta

theorem Removing.free_servq {psta : Sta} (removing : Removing s psta) (ac : Ac) :
    Removing (free_servq s psta ac) psta ∧ (free_servq s psta ac).queue (.sta_pending psta ac) = [] ∧
      ∀ category, category ≠ ac ->
        (free_servq s psta ac).queue (.sta_pending psta category) = s.queue (.sta_pending psta category) := by
  have emptied : Emptied s (.sta_pending psta ac) _ := free_xmitframe_queue removing.counted.placed nofun
  unfold ApXmit.free_servq
  generalize rtw_free_xmitframe_queue s (.sta_pending psta ac) = t at *
  have pending : ∀ sta category, ¬ (sta = psta ∧ category = ac) ->
      t.queue (.sta_pending sta category) = s.queue (.sta_pending sta category) := by
    intro sta category different
    refine emptied.kept _ ?_ nofun
    intro same
    cases same
    exact different ⟨rfl, rfl⟩
  have same : t.qcnt = s.qcnt ∧ t.accnt = s.accnt ∧ t.sta_queue = s.sta_queue ∧ t.sta = s.sta ∧
      t.aid_bmp_len = s.aid_bmp_len := by
    rw [emptied.rest]
    exact ⟨rfl, rfl, rfl, rfl, rfl⟩
  rcases same with ⟨qcnt, accnt, sta_queue, sta_eq, aid_bmp_len⟩
  have nodup : ∀ other, (t.sta_queue other).Nodup := by
    rw [sta_queue]
    exact removing.counted.nodup
  refine ⟨?_, emptied.empty, fun category different => pending psta category (fun both => different both.2)⟩
  constructor
  case counted =>
    constructor
    case placed => exact emptied.placed
    case qcnt =>
      intro sta category
      rw [qcnt_count]
      show _ = ((t.queue (.sta_pending sta category)).length : Int)
      by_cases same : sta = psta ∧ category = ac
      · rw [if_pos same, same.1, same.2, emptied.empty]
        show t.qcnt psta ac + -t.qcnt psta ac = 0
        omega
      · rw [if_neg same, pending sta category same]
        show t.qcnt sta category = _
        rw [qcnt]
        exact removing.counted.qcnt sta category
    case accnt =>
      refine sum_count _ psta ac _ ?_
      intro category
      show t.accnt category = ∑ sta, t.qcnt sta category
      rw [accnt, qcnt]
      exact removing.counted.accnt category
    case nodup =>
      intro category
      show ((t.unlink psta ac).sta_queue category).Nodup
      unfold XmitPriv.unlink
      by_cases same : category = ac
      · subst same
        simp only [update_self]
        exact (nodup category).erase psta
      · simp only [update_of_ne same]
        exact nodup category
  case linked =>
    refine linked_unlink nodup emptied.empty ?_
    intro sta category different
    rw [Linked, sta_queue, pending sta category different]
    exact removing.linked sta category
  case routed =>
    intro sta category different
    refine (removing.routed sta category different).congr (emptied.routes.trans (SameRoutes.of_eq rfl rfl rfl)) ?_
    intro pxmitframe there
    rwa [← pending sta category (fun both => different both.1)]
  case ids =>
    intro sta
    show (t.sta sta).aid / 8 < t.aid_bmp_len
    rw [sta_eq, aid_bmp_len]
    exact removing.ids sta

theorem Removing.free_servqs {psta : Sta} (removing : Removing s psta) (categories : List Ac) :
    Removing (categories.foldl (fun s ac => ApXmit.free_servq s psta ac) s) psta ∧
      ∀ category, category ∈ categories ∨ s.queue (.sta_pending psta category) = [] ->
        (categories.foldl (fun s ac => ApXmit.free_servq s psta ac) s).queue (.sta_pending psta category) = [] := by
  induction categories generalizing s with
  | nil => exact ⟨removing, fun category either => either.resolve_left (List.not_mem_nil)⟩
  | cons ac rest ih =>
      rcases removing.free_servq ac with ⟨next, empty, kept⟩
      rcases ih next with ⟨last, all⟩
      refine ⟨last, fun category either => all category ?_⟩
      by_cases same : category = ac
      · exact Or.inr (same ▸ empty)
      · rw [kept category same]
        exact either.imp_left (fun member => (List.mem_cons.mp member).resolve_left same)

theorem Accounted.release_id (accounted : Accounted s) (psta : Sta) :
    Accounted (free_aid (s.modify_sta psta TxSta.reset) psta) := by
  have reset : Accounted (s.modify_sta psta TxSta.reset) :=
    accounted.congr ⟨SameRoutes.modify_sta s psta rfl rfl, aid_modify_sta s psta rfl, rfl, rfl, rfl, rfl, rfl⟩
  generalize s.modify_sta psta TxSta.reset = u at *
  unfold free_aid
  dsimp only
  split
  case isFalse => exact reset.congr (SameLists.bits rfl rfl rfl rfl rfl rfl rfl rfl)
  case isTrue =>
    have routes : SameRoutes u (u.modify_sta psta (fun sta => { sta with aid := 0 })) :=
      @SameRoutes.modify_sta u psta (fun sta => { sta with aid := 0 }) rfl rfl
    refine ⟨⟨reset.counted.placed, reset.counted.qcnt, reset.counted.accnt, reset.counted.nodup⟩, reset.linked,
      fun sta ac => (reset.routed sta ac).congr (routes.trans (SameRoutes.of_eq rfl rfl rfl)) (fun _ there => there),
      fun sta => ?_⟩
    have inside := reset.ids sta
    show ((u.modify_sta psta (fun sta => { sta with aid := 0 })).sta sta).aid / 8 < u.aid_bmp_len
    by_cases same : sta = psta
    · rw [same, XmitPriv.modify_sta]
      simp only [update_self]
      omega
    · rw [XmitPriv.modify_sta]
      simpa only [update_of_ne same] using inside

theorem Accounted.free_stainfo (accounted : Accounted s) (psta : Sta) : Accounted (rtw_free_stainfo s psta) := by
  have removing := (accounted.forget psta).free_sleep_q
  rcases removing.free_servqs [.vo, .vi, .be, .bk] with ⟨last, empty⟩
  have drained : ∀ ac, ((rtw_free_xmitframe_queue (s.forget psta) (.sleep_q psta)).modify_sta psta
      (fun sta => { sta with sleepq_len := 0 }) |> [Ac.vo, .vi, .be, .bk].foldl
        (fun s ac => free_servq s psta ac)).queue (.sta_pending psta ac) = [] := by
    intro ac
    refine empty ac (Or.inl ?_)
    cases ac <;> decide
  refine Accounted.release_id ⟨last.counted, last.linked, fun sta ac => ?_, last.ids⟩ psta
  by_cases same : sta = psta
  · intro pxmitframe there
    rw [same] at there
    rw [drained ac] at there
    cases there
  · exact last.routed sta ac same

theorem Accounted.alloc_xmitframe (accounted : Accounted s) (ra : MacAddr) (psta : Option Sta) (priority : Nat) :
    Accounted (rtw_alloc_xmitframe s ra psta priority) := by
  unfold rtw_alloc_xmitframe
  split
  case h_1 => exact accounted
  case h_2 pxframe rest first =>
    have there : pxframe ∈ s.queue .free_xmit_queue := by
      rw [first]
      exact List.mem_cons_self
    have deleted := accounted.list_delete there outside_free
    have held := mem_insert_tail accounted.counted.placed pxframe .held
    refine ⟨⟨deleted.counted.placed, deleted.counted.qcnt, deleted.counted.accnt, deleted.counted.nodup⟩,
      deleted.linked, fun sta ac pxmitframe member => ?_, deleted.ids⟩
    -- only the attributes of the new frame change, and it is not queued
    have other : pxmitframe ≠ pxframe := by
      rintro rfl
      have queued : pxmitframe ∈ (rtw_list_delete s pxmitframe).queue (.sta_pending sta ac) := member
      cases deleted.counted.placed.once held queued
    have attributes : ((rtw_list_delete s pxframe).set_attrib pxframe
        (fun _ => ⟨ra, psta, priority, false, false, false⟩)).attrib pxmitframe = s.attrib pxmitframe :=
      update_of_ne other _ _
    have route := deleted.routed sta ac pxmitframe member
    rw [linked_sta_eq_some] at route ⊢
    rw [attributes]
    exact route

theorem Accounted.step (accounted : Accounted s) (event : XmitEvent) : Accounted (s.step event) := by
  cases event with
  | rtw_alloc_xmitframe ra psta priority => exact accounted.alloc_xmitframe ra psta priority
  | rtw_free_xmitframe pxmitframe =>
      unfold XmitPriv.step
      dsimp only
      split
      case isTrue held => exact accounted.free_xmitframe held outside_held
      case isFalse => exact accounted
  | rtw_xmit_classifier pxmitframe =>
      unfold XmitPriv.step
      dsimp only
      split
      case isTrue held => exact accounted.classifier held
      case isFalse => exact accounted
  | xmitframe_enqueue_for_sleeping_sta pxmitframe =>
      unfold XmitPriv.step
      dsimp only
      split
      case isTrue held => exact accounted.sleeping_enqueue held
      case isFalse => exact accounted
  | rtw_dequeue_xframe => exact accounted.dequeue_xframe
  | stop_sta_xmit psta =>
      unfold XmitPriv.step
      dsimp only
      split
      case isTrue => exact accounted.stop_sta_xmit psta
      case isFalse => exact accounted
  | wakeup_sta_to_xmit psta =>
      unfold XmitPriv.step
      dsimp only
      split
      case isTrue => exact accounted.wakeup_sta_to_xmit psta
      case isFalse => exact accounted
  | ps_poll addr2 aid priority =>
      unfold XmitPriv.step validate_recv_ctrl_frame
      dsimp only
      split
      case h_1 => exact accounted
      case h_2 psta _ =>
        split
        case isTrue => exact accounted.serve_ps_poll psta
        case isFalse => exact accounted
  | process_wmmps_data psta priority =>
      unfold XmitPriv.step ApXmit.process_wmmps_data
      dsimp only
      split
      case isTrue =>
        split
        case isTrue => exact accounted.xmit_delivery_enabled_frames psta
        case isFalse => exact accounted
      case isFalse => exact accounted
  | rtw_free_stainfo psta =>
      unfold XmitPriv.step
      dsimp only
      split
      case isTrue => exact accounted.free_stainfo psta
      case isFalse => exact accounted

theorem lt_aid_bmp_len {aid max_aid : Nat} (inside : aid ≤ max_aid) : aid / 8 < AID_BMP_LEN max_aid := by
  unfold AID_BMP_LEN
  split <;> omega

theorem Accounted.initial (cfg : ApConfig) : Accounted (XmitPriv.initial cfg) where
  counted := by
    refine ⟨placed_of_single Place.free_xmit_queue (List.nodup_finRange _) List.mem_finRange, fun _ _ => rfl, ?_,
      fun _ => List.nodup_nil⟩
    intro ac
    exact Finset.sum_const_zero.symm
  linked _ _ := iff_of_false (List.not_mem_nil) (fun nonempty => nonempty rfl)
  routed _ _ _ there := absurd there List.not_mem_nil
  ids psta := lt_aid_bmp_len (cfg.aid_le psta)

/-- In every state of every run the counters and the links agree with the lists, and
each frame is in one place. -/
theorem tx_queues_accounted (cfg : ApConfig) (events : List XmitEvent) :
    QueuesAccounted (Run.execute XmitPriv.step (XmitPriv.initial cfg) events) := by
  have all : Run.Guarded XmitPriv.step (fun _ _ => True) (XmitPriv.initial cfg) events :=
    Run.guarded_of_forall XmitPriv.step (fun _ => True) _ events (fun _ _ => trivial)
  have accounted : Accounted (Run.execute XmitPriv.step (XmitPriv.initial cfg) events) :=
    all.invariant (fun s event _ accounted => accounted.step event) (Accounted.initial cfg)
  exact accounted.queues

end ApXmit
end Rtl8821ce
