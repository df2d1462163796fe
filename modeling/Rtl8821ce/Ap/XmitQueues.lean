import Rtl8821ce.Library.Placement
import Rtl8821ce.Library.Run
import Rtl8821ce.Recv.Station

/-!
# The software queues of an access point

A frame waits in the queue of its station and access category until
`rtw_dequeue_xframe` takes it to the hardware.  When the station sleeps, its
frames wait in `sleep_q` until it wakes up, polls for them or triggers a service
period.  Queued frames carry their own list links; a frame that is on no list is
held by the code that works on it.

The interface is an access point, and its stations are those of the beginning:
they sleep, wake up and are freed.
-/

namespace Rtl8821ce
namespace ApXmit

open Placement

def NR_XMITFRAME : Nat := 256

theorem zero_lt_NR_XMITFRAME : 0 < NR_XMITFRAME := by decide
theorem one_lt_NR_XMITFRAME : 1 < NR_XMITFRAME := by decide

abbrev Sta : Type := Fin NUM_STA

abbrev Frame : Type := Fin NR_XMITFRAME

/-- The access categories, in the order of `hwxmits`. -/
inductive Ac
  | vo
  | vi
  | be
  | bk
deriving DecidableEq

/-- The category whose `tx_servq` `rtw_get_sta_pending` returns. -/
def rtw_get_sta_pending (up : Nat) : Ac :=
  match up with
  | 1 => .bk
  | 2 => .bk
  | 4 => .vi
  | 5 => .vi
  | 6 => .vo
  | 7 => .vo
  | _ => .be

/-- Where a frame can be. -/
inductive Place
  | free_xmit_queue
  | held
  | sleep_q (psta : Sta)
  | sta_pending (psta : Sta) (ac : Ac)
deriving DecidableEq

/-- The fields of `struct pkt_attrib` that the queues use. -/
structure PktAttrib where
  ra : MacAddr
  psta : Option Sta
  priority : Nat
  triggered : Bool
  mdata : Bool
  eosp : Bool

/-- The fields of `struct sta_info` that the queues use.  `fw_linked` and
`sleeping` are `_FW_LINKED` and `WIFI_SLEEP_STATE` of `state`. -/
structure TxSta where
  mac_addr : MacAddr
  aid : Nat
  fw_linked : Bool
  sleeping : Bool
  qos_option : Bool
  qos_info : BitVec 8
  has_legacy_ac : Bool
  uapsd : Ac -> BitVec 8
  sleepq_len : Nat
  sleepq_ac_len : Nat

/-- The fields of `struct xmit_priv` and `struct sta_priv`.  `sta_queue` has the
stations whose `tx_pending` is linked. -/
structure XmitPriv where
  wifi_spec : Bool
  wmm_para_seq : Fin 4 -> Ac
  aid_bmp_len : Nat
  tim_bitmap : Nat -> Bool
  sta_dz_bitmap : Nat -> Bool
  sta_aid : Nat -> Option Sta
  sta_hash : List Sta
  sta : Sta -> TxSta
  attrib : Frame -> PktAttrib
  queue : Place -> List Frame
  qcnt : Sta -> Ac -> Int
  sta_queue : Ac -> List Sta
  accnt : Ac -> Int

/-! ## Bitmaps of association ids -/

def rtw_bmp_is_set (bmp : Nat -> Bool) (bmp_len id : Nat) : Bool :=
  if bmp_len ≤ id / 8 then false else bmp id

def rtw_bmp_set (bmp : Nat -> Bool) (bmp_len id : Nat) : Nat -> Bool :=
  if id / 8 < bmp_len then Function.update bmp id true else bmp

def rtw_bmp_clear (bmp : Nat -> Bool) (bmp_len id : Nat) : Nat -> Bool :=
  if id / 8 < bmp_len then Function.update bmp id false else bmp

def rtw_bmp_not_empty (bmp : Nat -> Bool) (bmp_len : Nat) : Bool :=
  (List.range (8 * bmp_len)).any bmp

def rtw_bmp_not_empty_exclude_bit0 (bmp : Nat -> Bool) (bmp_len : Nat) : Bool :=
  (List.range (8 * bmp_len)).any (fun i => decide (i ≠ 0) && bmp i)

/-- `AID_BMP_LEN`. -/
def AID_BMP_LEN (max_aid : Nat) : Nat :=
  (max_aid + 1) / 8 + if (max_aid + 1) % 8 = 0 then 0 else 1

namespace XmitPriv

def modify_sta (s : XmitPriv) (psta : Sta) (change : TxSta -> TxSta) : XmitPriv :=
  { s with sta := Function.update s.sta psta (change (s.sta psta)) }

def set_attrib (s : XmitPriv) (pxmitframe : Frame) (change : PktAttrib -> PktAttrib) : XmitPriv :=
  { s with attrib := Function.update s.attrib pxmitframe (change (s.attrib pxmitframe)) }

def tim_map_set (s : XmitPriv) (id : Nat) : XmitPriv :=
  { s with tim_bitmap := rtw_bmp_set s.tim_bitmap s.aid_bmp_len id }

def tim_map_clear (s : XmitPriv) (id : Nat) : XmitPriv :=
  { s with tim_bitmap := rtw_bmp_clear s.tim_bitmap s.aid_bmp_len id }

def dz_map_set (s : XmitPriv) (id : Nat) : XmitPriv :=
  { s with sta_dz_bitmap := rtw_bmp_set s.sta_dz_bitmap s.aid_bmp_len id }

def dz_map_clear (s : XmitPriv) (id : Nat) : XmitPriv :=
  { s with sta_dz_bitmap := rtw_bmp_clear s.sta_dz_bitmap s.aid_bmp_len id }

/-- `tx_pending` of one queue is taken out of the list of its category. -/
def unlink (s : XmitPriv) (psta : Sta) (ac : Ac) : XmitPriv :=
  { s with sta_queue := Function.update s.sta_queue ac ((s.sta_queue ac).erase psta) }

/-- `tx_pending` is linked unless it is already. -/
def link (s : XmitPriv) (psta : Sta) (ac : Ac) : XmitPriv :=
  let sta_queue := s.sta_queue ac
  { s with
    sta_queue :=
      Function.update s.sta_queue ac (if psta ∈ sta_queue then sta_queue else sta_queue ++ [psta]) }

/-- Add to `qcnt` of a queue and to `accnt` of its category. -/
def count (s : XmitPriv) (psta : Sta) (ac : Ac) (change : Int) : XmitPriv :=
  { s with
    qcnt := Function.update s.qcnt psta (Function.update (s.qcnt psta) ac (s.qcnt psta ac + change))
    accnt := Function.update s.accnt ac (s.accnt ac + change) }

end XmitPriv

def rtw_list_delete (s : XmitPriv) (pxmitframe : Frame) : XmitPriv :=
  { s with queue := move s.queue pxmitframe .held }

def rtw_list_insert_tail (s : XmitPriv) (pxmitframe : Frame) (place : Place) : XmitPriv :=
  { s with queue := move s.queue pxmitframe place }

def rtw_free_xmitframe (s : XmitPriv) (pxmitframe : Frame) : XmitPriv :=
  rtw_list_insert_tail (rtw_list_delete s pxmitframe) pxmitframe .free_xmit_queue

def rtw_free_xmitframe_queue (s : XmitPriv) (place : Place) : XmitPriv :=
  (s.queue place).foldl rtw_free_xmitframe s

def rtw_get_stainfo (s : XmitPriv) (hwaddr : MacAddr) : Option Sta :=
  let addr := if IS_MCAST hwaddr then bc_addr else hwaddr
  s.sta_hash.find? (fun psta => (s.sta psta).mac_addr = addr)

def rtw_get_bcmc_stainfo (s : XmitPriv) : Option Sta := rtw_get_stainfo s bc_addr

/-- The station of a frame, if it is still the one of the attributes and linked. -/
def linked_sta (s : XmitPriv) (pxmitframe : Frame) : Option Sta :=
  let pattrib := s.attrib pxmitframe
  let psta := rtw_get_stainfo s pattrib.ra
  if pattrib.psta ≠ psta then none else psta.filter (fun psta => (s.sta psta).fw_linked)

def rtw_xmit_classifier (s : XmitPriv) (pxmitframe : Frame) : XmitPriv × Bool :=
  match linked_sta s pxmitframe with
  | none => (s, false)
  | some psta =>
      let ac := rtw_get_sta_pending (s.attrib pxmitframe).priority
      ((rtw_list_insert_tail (s.link psta ac) pxmitframe (.sta_pending psta ac)).count psta ac 1, true)

/-- `rtl8821ce_hal_xmitframe_enqueue`. -/
def rtw_hal_xmitframe_enqueue (s : XmitPriv) (pxmitframe : Frame) : XmitPriv :=
  match rtw_xmit_classifier s pxmitframe with
  | (s, true) => s
  | (s, false) => rtw_free_xmitframe s pxmitframe

def XmitPriv.inx (s : XmitPriv) : List Ac :=
  if s.wifi_spec then List.ofFn s.wmm_para_seq else [.vo, .vi, .be, .bk]

/-- The first linked queue of a category that has a frame. -/
def next_xframe (s : XmitPriv) (ac : Ac) : Option (Sta × Ac × Frame) :=
  (s.sta_queue ac).findSome? (fun psta =>
    (s.queue (.sta_pending psta ac)).head?.map (fun pxmitframe => (psta, ac, pxmitframe)))

def rtw_dequeue_xframe (s : XmitPriv) : XmitPriv × Option Frame :=
  match s.inx.findSome? (next_xframe s) with
  | none => (s, none)
  | some (psta, ac, pxmitframe) =>
      let s := (rtw_list_delete s pxmitframe).count psta ac (-1)
      (if s.queue (.sta_pending psta ac) = [] then s.unlink psta ac else s, some pxmitframe)

/-- Whether the category of a priority is delivery enabled (`BIT(1)`) or trigger
enabled (`BIT(0)`). -/
def wmmps_ac (psta : TxSta) (priority bit : Nat) : Bool :=
  (psta.uapsd (rtw_get_sta_pending priority)).getLsbD bit

/-- One more frame in `sleep_q`. -/
def TxSta.enqueue (sta : TxSta) (wmmps_ac : Bool) : TxSta :=
  { sta with
    sleepq_len := sta.sleepq_len + 1
    sleepq_ac_len := if wmmps_ac then sta.sleepq_ac_len + 1 else sta.sleepq_ac_len }

/-- Move a frame to the tail of `sleep_q`. -/
def enter_sleep_q (s : XmitPriv) (pxmitframe : Frame) (psta : Sta) (wmmps_ac : Bool) : XmitPriv :=
  (rtw_list_insert_tail (rtw_list_delete s pxmitframe) pxmitframe (.sleep_q psta)).modify_sta psta
    (fun sta => sta.enqueue wmmps_ac)

/-- Only some of the frames buffered for a station are announced. -/
def announces (psta : TxSta) (wmmps_ac : Bool) : Bool :=
  (psta.has_legacy_ac && !wmmps_ac) || (!psta.has_legacy_ac && wmmps_ac)

def xmitframe_enqueue_for_sleeping_sta (s : XmitPriv) (pxmitframe : Frame) : XmitPriv × Bool :=
  let pattrib := s.attrib pxmitframe
  match linked_sta s pxmitframe with
  | none => (s, false)
  | some psta =>
      if pattrib.triggered then (s, false)
      else if IS_MCAST pattrib.ra then
        if rtw_bmp_not_empty s.sta_dz_bitmap s.aid_bmp_len then
          (((enter_sleep_q s pxmitframe psta false).tim_map_set 0).dz_map_set 0, true)
        else (s, false)
      else if (s.sta psta).sleeping && rtw_bmp_is_set s.sta_dz_bitmap s.aid_bmp_len (s.sta psta).aid then
        let wmmps_ac := wmmps_ac (s.sta psta) pattrib.priority 0
        let t := enter_sleep_q s pxmitframe psta wmmps_ac
        (if announces (s.sta psta) wmmps_ac then t.tim_map_set (s.sta psta).aid else t, true)
      else (s, false)

/-- One round of `dequeue_xmitframes_to_sleeping_queue`. -/
def dequeue_to_sleeping_queue (psta : Sta) (s : XmitPriv) (pxmitframe : Frame) : XmitPriv :=
  let s := s.set_attrib pxmitframe (fun pattrib => { pattrib with triggered := false })
  match xmitframe_enqueue_for_sleeping_sta s pxmitframe with
  | (s, true) => s.count psta (rtw_get_sta_pending (s.attrib pxmitframe).priority) (-1)
  | (s, false) => s

def dequeue_xmitframes_to_sleeping_queue (s : XmitPriv) (psta : Sta) (ac : Ac) : XmitPriv :=
  (s.queue (.sta_pending psta ac)).foldl (dequeue_to_sleeping_queue psta) s

def stop_queues (s : XmitPriv) (psta : Sta) : XmitPriv :=
  [Ac.vo, .vi, .be, .bk].foldl
    (fun s ac => (dequeue_xmitframes_to_sleeping_queue s psta ac).unlink psta ac) s

def XmitPriv.lull (s : XmitPriv) (psta : Sta) : XmitPriv :=
  (s.modify_sta psta (fun sta => { sta with sleeping := true })).dz_map_set (s.sta psta).aid

def stop_sta_xmit (s : XmitPriv) (psta : Sta) : XmitPriv :=
  let psta_bmc := rtw_get_bcmc_stainfo s
  let s := stop_queues (s.lull psta) psta
  match psta_bmc with
  | none => s
  | some psta_bmc => stop_queues s psta_bmc

/-! ## From sleep -/

/-- One frame less in `sleep_q`.  Only frames of delivery enabled categories count in
`sleepq_ac_len`. -/
def TxSta.dequeue (sta : TxSta) (wmmps_ac : Bool) : TxSta :=
  { sta with
    sleepq_len := sta.sleepq_len - 1
    sleepq_ac_len := if wmmps_ac then sta.sleepq_ac_len - 1 else sta.sleepq_ac_len }

/-- The attributes of a frame that leaves `sleep_q`, with the record of its station. -/
def PktAttrib.release (pattrib : PktAttrib) (sta : TxSta) (wmmps_ac : Bool) : PktAttrib :=
  { pattrib with
    mdata := if wmmps_ac then decide (0 < sta.sleepq_ac_len) else decide (0 < sta.sleepq_len)
    eosp := if wmmps_ac then !decide (0 < sta.sleepq_ac_len) else pattrib.eosp
    triggered := true }

/-- Take a frame out of `sleep_q`. -/
def XmitPriv.take (s : XmitPriv) (psta : Sta) (pxmitframe : Frame) (wmmps_ac : Bool) : XmitPriv :=
  let s := (rtw_list_delete s pxmitframe).modify_sta psta (fun sta => sta.dequeue wmmps_ac)
  s.set_attrib pxmitframe (fun pattrib => pattrib.release (s.sta psta) wmmps_ac)

/-- Take a frame out of `sleep_q` and pass it on. -/
def release_frame (s : XmitPriv) (psta : Sta) (pxmitframe : Frame) (wmmps_ac : Bool) : XmitPriv :=
  rtw_hal_xmitframe_enqueue (s.take psta pxmitframe wmmps_ac) pxmitframe

/-- `BIT(1)` for the category of a frame. -/
def delivery_enabled (s : XmitPriv) (psta : Sta) (pxmitframe : Frame) : Bool :=
  wmmps_ac (s.sta psta) (s.attrib pxmitframe).priority 1

/-- The frames of the station itself, in `wakeup_sta_to_xmit`. -/
def wakeup_sta (s : XmitPriv) (psta : Sta) : XmitPriv :=
  let s := (s.queue (.sleep_q psta)).foldl
    (fun s pxmitframe => release_frame s psta pxmitframe (delivery_enabled s psta pxmitframe)) s
  if (s.sta psta).sleepq_len = 0 then
    ((s.tim_map_clear (s.sta psta).aid).modify_sta psta (fun sta => { sta with sleeping := false })).dz_map_clear
      (s.sta psta).aid
  else s

/-- The frames of the broadcast station, when nobody sleeps any more. -/
def wakeup_bmc (s : XmitPriv) (psta_bmc : Sta) : XmitPriv :=
  if rtw_bmp_not_empty_exclude_bit0 s.sta_dz_bitmap s.aid_bmp_len then s
  else
    let s := (s.queue (.sleep_q psta_bmc)).foldl
      (fun s pxmitframe => release_frame s psta_bmc pxmitframe false) s
    if (s.sta psta_bmc).sleepq_len = 0 then (s.tim_map_clear 0).dz_map_clear 0 else s

def wakeup_sta_to_xmit (s : XmitPriv) (psta : Sta) : XmitPriv :=
  match rtw_get_bcmc_stainfo s with
  | none => wakeup_sta s psta
  | some psta_bmc => wakeup_bmc (wakeup_sta s psta) psta_bmc

/-- One round of `xmit_delivery_enabled_frames`. -/
def deliver (psta : Sta) (s : XmitPriv) (pxmitframe : Frame) : XmitPriv :=
  if delivery_enabled s psta pxmitframe then
    let s := release_frame s psta pxmitframe true
    if (s.sta psta).sleepq_ac_len = 0 ∧ (s.sta psta).has_legacy_ac = false then
      s.tim_map_clear (s.sta psta).aid
    else s
  else s

def xmit_delivery_enabled_frames (s : XmitPriv) (psta : Sta) : XmitPriv :=
  (s.queue (.sleep_q psta)).foldl (deliver psta) s

/-- Whether a received frame starts a service period with buffered frames; otherwise
`process_wmmps_data` answers with a null frame at most. -/
def starts_service_period (s : XmitPriv) (psta : Sta) (priority : Nat) : Bool :=
  (s.sta psta).qos_option && decide ((s.sta psta).qos_info &&& 0xf ≠ 0) && (s.sta psta).sleeping &&
    wmmps_ac (s.sta psta) priority 1 && decide (0 < (s.sta psta).sleepq_ac_len)

def process_wmmps_data (s : XmitPriv) (psta : Sta) (priority : Nat) : XmitPriv :=
  if starts_service_period s psta priority then xmit_delivery_enabled_frames s psta else s

/-- Whether a PS-Poll is served: it has the id of the station and a priority that
is not trigger enabled, and the station sleeps. -/
def accepts_ps_poll (s : XmitPriv) (psta : Sta) (aid priority : Nat) : Bool :=
  decide ((s.sta psta).aid = aid) && !wmmps_ac (s.sta psta) priority 0 && (s.sta psta).sleeping &&
    rtw_bmp_is_set s.sta_dz_bitmap s.aid_bmp_len (s.sta psta).aid

/-- The part of `validate_recv_ctrl_frame` for a PS-Poll.  When there is no frame
left, a null frame says so. -/
def serve_ps_poll (s : XmitPriv) (psta : Sta) : XmitPriv :=
  match s.queue (.sleep_q psta) with
  | pxmitframe :: _ =>
      let s := release_frame s psta pxmitframe false
      if (s.sta psta).sleepq_len = 0 then s.tim_map_clear (s.sta psta).aid else s
  | [] =>
      if rtw_bmp_is_set s.tim_bitmap s.aid_bmp_len (s.sta psta).aid then
        (s.modify_sta psta (fun sta => { sta with sleepq_len := 0 })).tim_map_clear (s.sta psta).aid
      else s

def validate_recv_ctrl_frame (s : XmitPriv) (addr2 : MacAddr) (aid priority : Nat) : XmitPriv :=
  match rtw_get_stainfo s addr2 with
  | none => s
  | some psta => if accepts_ps_poll s psta aid priority then serve_ps_poll s psta else s

def free_servq (s : XmitPriv) (psta : Sta) (ac : Ac) : XmitPriv :=
  let s := (rtw_free_xmitframe_queue s (.sta_pending psta ac)).unlink psta ac
  s.count psta ac (-(s.qcnt psta ac))

def TxSta.reset (sta : TxSta) : TxSta :=
  { sta with
    sleepq_ac_len := 0
    qos_info := 0
    uapsd := fun _ => 0
    has_legacy_ac := false }

def free_aid (s : XmitPriv) (psta : Sta) : XmitPriv :=
  let aid := (s.sta psta).aid
  let s := (s.dz_map_clear aid).tim_map_clear aid
  if 0 < aid ∧ s.sta_aid (aid - 1) = some psta then
    { s with sta_aid := Function.update s.sta_aid (aid - 1) none }.modify_sta psta
      (fun sta => { sta with aid := 0 })
  else s

def XmitPriv.forget (s : XmitPriv) (psta : Sta) : XmitPriv :=
  { s with sta_hash := s.sta_hash.erase psta }.modify_sta psta (fun sta => { sta with fw_linked := false })

def rtw_free_stainfo (s : XmitPriv) (psta : Sta) : XmitPriv :=
  let s := (rtw_free_xmitframe_queue (s.forget psta) (.sleep_q psta)).modify_sta psta
    (fun sta => { sta with sleepq_len := 0 })
  let s := [Ac.vo, .vi, .be, .bk].foldl (fun s ac => free_servq s psta ac) s
  free_aid (s.modify_sta psta TxSta.reset) psta

/-- Take a frame from the pool; `update_attrib` fills in its attributes. -/
def rtw_alloc_xmitframe (s : XmitPriv) (ra : MacAddr) (psta : Option Sta) (priority : Nat) : XmitPriv :=
  match s.queue .free_xmit_queue with
  | [] => s
  | pxframe :: _ =>
      (rtw_list_delete s pxframe).set_attrib pxframe (fun _ => ⟨ra, psta, priority, false, false, false⟩)

/-- What happens between two states.  The functions that take a frame are called
by those who hold it, and a station is looked up in the hash table first. -/
inductive XmitEvent
  | rtw_alloc_xmitframe (ra : MacAddr) (psta : Option Sta) (priority : Nat)
  | rtw_free_xmitframe (pxmitframe : Frame)
  | rtw_xmit_classifier (pxmitframe : Frame)
  | xmitframe_enqueue_for_sleeping_sta (pxmitframe : Frame)
  | rtw_dequeue_xframe
  | stop_sta_xmit (psta : Sta)
  | wakeup_sta_to_xmit (psta : Sta)
  | ps_poll (addr2 : MacAddr) (aid priority : Nat)
  | process_wmmps_data (psta : Sta) (priority : Nat)
  | rtw_free_stainfo (psta : Sta)

def XmitPriv.step (s : XmitPriv) : XmitEvent -> XmitPriv
  | .rtw_alloc_xmitframe ra psta priority => ApXmit.rtw_alloc_xmitframe s ra psta priority
  | .rtw_free_xmitframe pxmitframe =>
      if pxmitframe ∈ s.queue .held then ApXmit.rtw_free_xmitframe s pxmitframe else s
  | .rtw_xmit_classifier pxmitframe =>
      if pxmitframe ∈ s.queue .held then (ApXmit.rtw_xmit_classifier s pxmitframe).1 else s
  | .xmitframe_enqueue_for_sleeping_sta pxmitframe =>
      if pxmitframe ∈ s.queue .held then (ApXmit.xmitframe_enqueue_for_sleeping_sta s pxmitframe).1 else s
  | .rtw_dequeue_xframe => (ApXmit.rtw_dequeue_xframe s).1
  | .stop_sta_xmit psta => if psta ∈ s.sta_hash then ApXmit.stop_sta_xmit s psta else s
  | .wakeup_sta_to_xmit psta => if psta ∈ s.sta_hash then ApXmit.wakeup_sta_to_xmit s psta else s
  | .ps_poll addr2 aid priority => validate_recv_ctrl_frame s addr2 aid priority
  | .process_wmmps_data psta priority =>
      if psta ∈ s.sta_hash then ApXmit.process_wmmps_data s psta priority else s
  | .rtw_free_stainfo psta => if psta ∈ s.sta_hash then ApXmit.rtw_free_stainfo s psta else s

/-- A station as it is known at first.  `wmm` is the QoS info byte of its WMM
element, if it has one. -/
structure ApSta where
  mac_addr : MacAddr
  aid : Nat
  fw_linked : Bool
  wmm : Option (BitVec 8)

/-- An access point and its stations.  `rtw_aid_alloc` gives out the ids up to
`max_aid`, the number of MAC ids. -/
structure ApConfig where
  max_aid : Nat
  wifi_spec : Bool
  wmm_para_seq : Fin 4 -> Ac
  sta_hash : List Sta
  sta : Sta -> ApSta
  sta_aid : Nat -> Option Sta
  nodup : sta_hash.Nodup
  aid_le : ∀ psta, (sta psta).aid ≤ max_aid

def Ac.qos_bit : Ac -> Nat
  | .vo => 0
  | .vi => 1
  | .bk => 2
  | .be => 3

/-- `rtw_ap_parse_sta_wmm_ie`, and an awake station without frames. -/
def rtw_ap_parse_sta_wmm_ie (sta : ApSta) : TxSta where
  mac_addr := sta.mac_addr
  aid := sta.aid
  fw_linked := sta.fw_linked
  sleeping := false
  qos_option := sta.wmm.isSome
  qos_info := sta.wmm.getD 0
  has_legacy_ac := decide (sta.wmm.getD 0 &&& 0xf ≠ 0xf)
  uapsd := fun ac => if (sta.wmm.getD 0).getLsbD ac.qos_bit then 0b11 else 0
  sleepq_len := 0
  sleepq_ac_len := 0

/-- No frame is on its way, and all stations are awake. -/
def XmitPriv.initial (cfg : ApConfig) : XmitPriv where
  wifi_spec := cfg.wifi_spec
  wmm_para_seq := cfg.wmm_para_seq
  aid_bmp_len := AID_BMP_LEN cfg.max_aid
  tim_bitmap := fun _ => false
  sta_dz_bitmap := fun _ => false
  sta_aid := cfg.sta_aid
  sta_hash := cfg.sta_hash
  sta := fun psta => rtw_ap_parse_sta_wmm_ie (cfg.sta psta)
  attrib := fun _ => ⟨.zero, none, 0, false, false, false⟩
  queue := fun place => if place = .free_xmit_queue then List.finRange NR_XMITFRAME else []
  qcnt := fun _ _ => 0
  sta_queue := fun _ => []
  accnt := fun _ => 0

end ApXmit
end Rtl8821ce
