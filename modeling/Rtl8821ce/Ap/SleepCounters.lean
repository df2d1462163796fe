import Rtl8821ce.Ap.PowerSave

/-!
# The counters of a sleeping station

A PS-Poll takes the first frame of `sleep_q` whatever its category is, and does not
count it in `sleepq_ac_len`.  Then the next service period is longer than the
frames there are, and no frame ends it.
-/

namespace Rtl8821ce
namespace ApXmit

open Placement

variable {cfg : AssocConfig} {s t : XmitPriv} {psta : Sta} {pxmitframe : Frame}

/-- The counters of all stations agree with the lists. -/
structure CountersTrue (s : XmitPriv) : Prop where
  sleepq_len : ∀ psta, (s.sta psta).sleepq_len = (s.queue (.sleep_q psta)).length
  sleepq_ac_len : ∀ psta, Counts s psta

/-- Of the frames released one after the other, exactly the last one ends the period. -/
def Marked (s : XmitPriv) (period : List Frame) : Prop :=
  ∀ before pxmitframe after, period = before ++ pxmitframe :: after ->
    (s.attrib pxmitframe).eosp = after.isEmpty ∧ (s.attrib pxmitframe).mdata = !after.isEmpty

/-- A service period releases all frames of delivery enabled categories. -/
def ServicePeriodEnds (s : XmitPriv) : XmitEvent -> Prop
  | .process_wmmps_data psta priority =>
      psta ∈ s.sta_hash -> starts_service_period s psta priority = true ->
        (process_wmmps_data s psta priority).queue (.sleep_q psta) =
          (s.queue (.sleep_q psta)).filter (fun pxmitframe => !delivery_enabled s psta pxmitframe) ∧
        (s.queue (.sleep_q psta)).filter (delivery_enabled s psta) ≠ [] ∧
        Marked (process_wmmps_data s psta priority)
          ((s.queue (.sleep_q psta)).filter (delivery_enabled s psta))
  | _ => True

def PollsLegacy (s : XmitPriv) (event : XmitEvent) : Prop :=
  ∀ psta pxmitframe rest, Polled s event psta -> s.queue (.sleep_q psta) = pxmitframe :: rest ->
    delivery_enabled s psta pxmitframe = false

theorem counts_deliver (buffering : Buffering cfg s) (there : pxmitframe ∈ s.queue (.sleep_q psta))
    (counts : Counts s psta) : Counts (deliver psta s pxmitframe) psta := by
  unfold ApXmit.deliver
  split
  case isTrue enabled =>
    have next := (released buffering.accounted.counted.placed there true).counts counts enabled.symm
    dsimp only
    split
    case isTrue => exact next
    case isFalse => exact next
  case isFalse => exact counts

theorem kept_counts : Kept cfg Counts where
  unconcerned same counts := same.counts counts
  entered entered buffered counts := entered.counts buffered counts
  drained drained counts := drained.counts counts
  deliver buffering _ there counts := counts_deliver buffering there counts

theorem counts_serve_ps_poll_iff (buffering : Buffering cfg s) (counts : Counts s psta) :
    Counts (serve_ps_poll s psta) psta <-> ∀ pxmitframe rest,
      s.queue (.sleep_q psta) = pxmitframe :: rest -> delivery_enabled s psta pxmitframe = false := by
  unfold serve_ps_poll
  split
  case h_1 pxmitframe rest first =>
    have there : pxmitframe ∈ s.queue (.sleep_q psta) := by
      rw [first]
      exact List.mem_cons_self
    have gone := released buffering.accounted.counted.placed there false
    have taken : Counts (release_frame s psta pxmitframe false) psta <->
        delivery_enabled s psta pxmitframe = false := by
      constructor
      · intro after
        cases kind : delivery_enabled s psta pxmitframe with
        | false => rfl
        | true =>
            -- The frame was counted, and it still is.
            have some : 0 < (s.queue (.sleep_q psta)).countP (delivery_enabled s psta) :=
              List.countP_pos_iff.mpr ⟨pxmitframe, there, kind⟩
            have same : (s.sta psta).sleepq_ac_len =
                (s.queue (.sleep_q psta)).countP (delivery_enabled s psta) - 1 := by
              rw [Counts, gone.countP, gone.own, kind] at after
              exact after
            unfold Counts at counts
            omega
      · exact fun legacy => gone.counts counts legacy.symm
    have head : (∀ other left, s.queue (.sleep_q psta) = other :: left ->
        delivery_enabled s psta other = false) <-> delivery_enabled s psta pxmitframe = false := by
      constructor
      · exact fun all => all pxmitframe rest first
      · intro legacy other left same
        rw [first] at same
        cases same
        exact legacy
    rw [head, ← taken]
    dsimp only
    split
    case isTrue => exact Iff.rfl
    case isFalse => exact Iff.rfl
  case h_2 empty =>
    refine iff_of_true ?_ (fun _ _ first => absurd (empty.symm.trans first) (by rintro ⟨⟩))
    split
    case isTrue =>
      have none := (counts_empty empty).mp counts
      show Counts (s.modify_sta psta (fun sta => { sta with sleepq_len := 0 })) psta
      have same : (s.modify_sta psta (fun sta => { sta with sleepq_len := 0 })).queue (.sleep_q psta) = [] := empty
      rw [counts_empty same]
      simpa [XmitPriv.modify_sta] using none
    case isFalse => exact counts

theorem counts_step_iff (buffering : Buffering cfg s) (counts : ∀ psta, Counts s psta)
    (event : XmitEvent) : (∀ psta, Counts (s.step event) psta) <-> PollsLegacy s event := by
  constructor
  · intro after psta pxmitframe rest polled first
    rcases polled with ⟨addr2, aid, priority, rfl, found, accepted⟩
    have same : s.step (.ps_poll addr2 aid priority) = serve_ps_poll s psta := by
      simp only [XmitPriv.step, validate_recv_ctrl_frame, found, accepted, if_true]
    rw [same] at after
    exact (counts_serve_ps_poll_iff buffering (counts psta)).mp (after psta) pxmitframe rest first
  · intro legacy
    have stations : Stations cfg Counts s := ⟨buffering.nodup, buffering.buffered, counts⟩
    refine (stations.step kept_counts buffering.accounted event (fun psta polled => ?_)).all
    exact (counts_serve_ps_poll_iff buffering (counts psta)).mpr (fun pxmitframe rest => legacy psta pxmitframe rest polled)

theorem marked_cons {period : List Frame} (first : (s.attrib pxmitframe).eosp = period.isEmpty)
    (more : (s.attrib pxmitframe).mdata = !period.isEmpty) (marked : Marked s period) :
    Marked s (pxmitframe :: period) := by
  intro before other after split
  cases before with
  | nil =>
      cases split
      exact ⟨first, more⟩
  | cons head behind =>
      rw [List.cons_append, List.cons.injEq] at split
      exact marked behind other after split.2

/-- A round of a service period that takes its frame. -/
structure Delivers (s : XmitPriv) (psta : Sta) (pxmitframe : Frame) (t : XmitPriv) : Prop where
  kinds : delivery_enabled t psta = delivery_enabled s psta
  sleep_q : t.queue (.sleep_q psta) = (s.queue (.sleep_q psta)).erase pxmitframe
  eosp : (t.attrib pxmitframe).eosp = !decide (0 < (t.sta psta).sleepq_ac_len)
  mdata : (t.attrib pxmitframe).mdata = decide (0 < (t.sta psta).sleepq_ac_len)
  other : ∀ frame, frame ≠ pxmitframe -> t.attrib frame = s.attrib frame

theorem delivers (placed : Placed s.queue) (there : pxmitframe ∈ s.queue (.sleep_q psta))
    (enabled : delivery_enabled s psta pxmitframe = true) : Delivers s psta pxmitframe (deliver psta s pxmitframe) := by
  have gone := released placed there true
  have taken : Delivers s psta pxmitframe (release_frame s psta pxmitframe true) := by
    constructor
    case kinds => exact gone.delivery_enabled
    case sleep_q => exact gone.sleep_q psta
    case eosp =>
      rw [gone.attrib, Function.update_self, gone.own]
      rfl
    case mdata =>
      rw [gone.attrib, Function.update_self, gone.own]
      rfl
    case other =>
      intro frame different
      rw [gone.attrib, Function.update_of_ne different]
  unfold deliver
  rw [if_pos enabled]
  dsimp only
  split
  case isTrue => exact ⟨taken.kinds, taken.sleep_q, taken.eosp, taken.mdata, taken.other⟩
  case isFalse => exact taken

/-- The induction is on the frames that the loop has not seen; those it has seen and left are of
legacy categories. -/
theorem service_loop (frames : List Frame) {kept : List Frame} (buffering : Buffering cfg s)
    (here : psta ∈ s.sta_hash) (queue : s.queue (.sleep_q psta) = kept ++ frames)
    (legacy : ∀ pxmitframe ∈ kept, delivery_enabled s psta pxmitframe = false) (counts : Counts s psta) :
    (frames.foldl (deliver psta) s).queue (.sleep_q psta) =
        kept ++ frames.filter (fun pxmitframe => !delivery_enabled s psta pxmitframe) ∧
      (∀ pxmitframe, pxmitframe ∉ frames ->
        (frames.foldl (deliver psta) s).attrib pxmitframe = s.attrib pxmitframe) ∧
      Marked (frames.foldl (deliver psta) s) (frames.filter (delivery_enabled s psta)) := by
  induction frames generalizing s kept with
  | nil =>
      refine ⟨queue, fun _ _ => rfl, ?_⟩
      intro before pxmitframe after split
      cases before <;> cases split
  | cons pxmitframe rest ih =>
      have there : pxmitframe ∈ s.queue (.sleep_q psta) := by
        rw [queue]
        exact List.mem_append_right _ List.mem_cons_self
      have nodup : (kept ++ pxmitframe :: rest).Nodup := queue ▸ buffering.accounted.counted.placed.nodup _
      have served := buffering.deliver here there
      have nextCounts := counts_deliver buffering there counts
      rw [List.foldl_cons]
      cases enabled : delivery_enabled s psta pxmitframe with
      | false =>
          have same : deliver psta s pxmitframe = s := by
            unfold deliver
            rw [if_neg (by rw [enabled]; exact Bool.false_ne_true)]
          rw [same]
          have queue : s.queue (.sleep_q psta) = (kept ++ [pxmitframe]) ++ rest := by
            rw [queue, List.append_assoc, List.singleton_append]
          have legacy : ∀ other ∈ kept ++ [pxmitframe], delivery_enabled s psta other = false := by
            intro other member
            rcases List.mem_append.mp member with before | last
            · exact legacy other before
            · rw [List.mem_singleton.mp last]
              exact enabled
          rcases ih buffering here queue legacy counts with ⟨left, others, marked⟩
          refine ⟨?_, fun other absent => others other (fun member => absent (List.mem_cons_of_mem _ member)), ?_⟩
          · rw [left, List.filter_cons_of_pos (by rw [enabled]; rfl), List.append_assoc, List.singleton_append]
          · rw [List.filter_cons_of_neg (by rw [enabled]; exact Bool.false_ne_true)]
            exact marked
      | true =>
          have round := delivers buffering.accounted.counted.placed there enabled
          generalize deliver psta s pxmitframe = u at *
          have absent : pxmitframe ∉ kept := fun member =>
            absurd ((legacy pxmitframe member).symm.trans enabled) (by rintro ⟨⟩)
          have queue : u.queue (.sleep_q psta) = kept ++ rest := by
            rw [round.sleep_q, queue, List.erase_append_right _ absent, List.erase_cons_head]
          have legacy : ∀ other ∈ kept, delivery_enabled u psta other = false := by
            rw [round.kinds]
            exact legacy
          rcases ih served.buffering (served.sta_hash ▸ here) queue legacy nextCounts with
            ⟨left, others, marked⟩
          rw [round.kinds] at left marked legacy
          have last : pxmitframe ∉ rest := (List.nodup_cons.mp (List.nodup_append.mp nodup).2.1).1
          have count : (u.sta psta).sleepq_ac_len = (rest.filter (delivery_enabled s psta)).length := by
            rw [Counts, queue, round.kinds, List.countP_append] at nextCounts
            rw [nextCounts, List.countP_eq_length_filter, List.countP_eq_length_filter]
            have none : kept.filter (delivery_enabled s psta) = [] := by
              rw [List.filter_eq_nil_iff]
              intro other member
              rw [legacy other member]
              exact Bool.false_ne_true
            rw [none, List.length_nil, Nat.zero_add]
          have more : decide (0 < (u.sta psta).sleepq_ac_len) =
              !(rest.filter (delivery_enabled s psta)).isEmpty := by
            rw [count]
            cases rest.filter (delivery_enabled s psta) <;> simp
          refine ⟨?_, fun other outside => ?_, ?_⟩
          · rw [left, List.filter_cons_of_neg (by rw [enabled]; exact Bool.false_ne_true)]
          · rw [List.mem_cons, not_or] at outside
            rw [others other outside.2, round.other other outside.1]
          · rw [List.filter_cons_of_pos enabled]
            refine marked_cons ?_ ?_ marked
            · rw [others pxmitframe last, round.eosp, more, Bool.not_not]
            · rw [others pxmitframe last, round.mdata, more]

theorem service_period_ends (buffering : Buffering cfg s) (counts : ∀ psta, Counts s psta)
    (event : XmitEvent) : ServicePeriodEnds s event := by
  cases event with
  | process_wmmps_data psta priority =>
      intro here starts
      rcases service_loop (s.queue (.sleep_q psta)) buffering here (List.nil_append _).symm nofun (counts psta)
        with ⟨left, _, marked⟩
      rw [process_wmmps_data, if_pos starts]
      refine ⟨left, ?_, marked⟩
      -- The counter that lets the period start counts its frames.
      have some : 0 < (s.sta psta).sleepq_ac_len := by
        rw [starts_service_period, Bool.and_eq_true, decide_eq_true_eq] at starts
        exact starts.2
      rw [counts psta, List.countP_eq_length_filter] at some
      exact List.ne_nil_of_length_pos some
  | _ => trivial

/-- The counters are true in every state of a run and every service period ends with its last
frame, exactly when each PS-Poll that is served finds a frame of a legacy category first. -/
theorem sleep_counters_iff (cfg : AssocConfig) (events : List XmitEvent) :
    ((∀ done, done <+: events -> CountersTrue (Run.execute XmitPriv.step (XmitPriv.initial cfg.toApConfig) done)) ∧
      Run.Guarded XmitPriv.step ServicePeriodEnds (XmitPriv.initial cfg.toApConfig) events) <->
        Run.Guarded XmitPriv.step PollsLegacy (XmitPriv.initial cfg.toApConfig) events := by
  have states := @guarded_iff_all cfg Counts PollsLegacy (fun buffering counts => counts_step_iff buffering counts)
    (fun _ => rfl) events
  constructor
  · rintro ⟨all, _⟩
    exact states.mp (fun done before => (all done before).sleepq_ac_len)
  · intro guarded
    refine ⟨fun done before => ⟨fun psta => ((Buffering.run cfg done).buffered psta).len,
      states.mpr guarded done before⟩, ?_⟩
    have preserved : ∀ s event, PollsLegacy s event -> (Buffering cfg s ∧ ∀ psta, Counts s psta) ->
        Buffering cfg (s.step event) ∧ ∀ psta, Counts (s.step event) psta := by
      rintro s event legacy ⟨buffering, counts⟩
      exact ⟨buffering.step event, (counts_step_iff buffering counts event).mpr legacy⟩
    have promised : ∀ s event, PollsLegacy s event -> (Buffering cfg s ∧ ∀ psta, Counts s psta) ->
        ServicePeriodEnds s event :=
      fun s event _ both => service_period_ends both.1 both.2 event
    exact guarded.of_invariant preserved promised ⟨Buffering.initial cfg, fun _ => rfl⟩

/-- A frame of the only delivery enabled category goes to sleep, and the station asks for it with a
PS-Poll. -/
def polledVoice : List XmitEvent :=
  [.stop_sta_xmit firstSta, .rtw_alloc_xmitframe firstAddr (some firstSta) 6,
    .xmitframe_enqueue_for_sleeping_sta ⟨0, zero_lt_NR_XMITFRAME⟩, .ps_poll firstAddr 1 0]

/-- The frame is gone, but still counted. -/
theorem sleepq_ac_len_after_ps_poll :
    ¬ CountersTrue (Run.execute XmitPriv.step (XmitPriv.initial (oneStation 1).toApConfig) polledVoice) := by
  intro true
  have counts := true.sleepq_ac_len firstSta
  have stale : ¬ Counts (Run.execute XmitPriv.step (XmitPriv.initial (oneStation 1).toApConfig) polledVoice)
      firstSta := by
    unfold Counts
    decide +kernel
  exact stale counts

end ApXmit
end Rtl8821ce
