import Rtl8821ce.Recv.Validate

/-!
# The pool of receive frames

All `recv_frame`s come from `free_recv_queue` and go back there.  In between a
frame is in the hands of the function that received it, or in a queue of a
station.  `rtw_free_recvframe` takes a frame out of whatever list it is in and
appends it to the free queue; `free_recvframe_cnt` is counted along with it.

Two fields are not in the source.  `held` are the frames that the interrupt
handler has taken and not yet passed on.  `freed_twice` records that a frame
was freed while it was in the free queue.
-/

namespace Rtl8821ce

def NR_RECVFRAME : Nat := 256

/-- The parts of the adapter that the receive path works on. -/
structure RecvAdapter where
  free_recv_queue : List Nat
  free_recvframe_cnt : Nat
  stapriv : StaPriv
  mlmepriv : MlmePriv
  micKeys : MicKeys
  held : List Nat
  freed_twice : Bool

/-- `_rtw_init_recv_priv`, on an adapter whose stations have been initialised. -/
def _rtw_init_recv_priv (mlmepriv : MlmePriv) (micKeys : MicKeys) : RecvAdapter where
  free_recv_queue := List.range NR_RECVFRAME
  free_recvframe_cnt := NR_RECVFRAME
  stapriv := _rtw_init_sta_priv
  mlmepriv := mlmepriv
  micKeys := micKeys
  held := []
  freed_twice := false

def rtw_alloc_recvframe (adapter : RecvAdapter) : RecvAdapter :=
  match adapter.free_recv_queue with
  | [] => adapter
  | precvframe :: rest =>
      { adapter with
        free_recv_queue := rest
        free_recvframe_cnt := adapter.free_recvframe_cnt - 1
        held := adapter.held ++ [precvframe] }

def queue_delete (precvframe : Nat) (queue : List RecvFrame) : List RecvFrame :=
  queue.filter (fun frame => frame.index != precvframe)

/-- `rtw_list_delete`, as far as the queues of a station are concerned. -/
def StaInfo.rtw_list_delete (psta : StaInfo) (precvframe : Nat) : StaInfo :=
  { psta with
    defrag_q := queue_delete precvframe psta.defrag_q
    recvreorder_ctrl := fun tid =>
      { psta.recvreorder_ctrl tid with
        pending_recvframe_queue :=
          queue_delete precvframe (psta.recvreorder_ctrl tid).pending_recvframe_queue } }

/-- Take a frame out of the list it is in and append it to the free queue. -/
def rtw_free_recvframe (adapter : RecvAdapter) (precvframe : Nat) : RecvAdapter :=
  { adapter with
    free_recv_queue :=
      adapter.free_recv_queue.filter (fun frame => frame != precvframe) ++ [precvframe]
    free_recvframe_cnt := adapter.free_recvframe_cnt + 1
    stapriv := { adapter.stapriv with
      pstainfo_buf := fun psta =>
        (adapter.stapriv.pstainfo_buf psta).rtw_list_delete precvframe }
    freed_twice := adapter.freed_twice || adapter.free_recv_queue.contains precvframe }

def rtw_free_recvframe_queue (adapter : RecvAdapter) (frames : List RecvFrame) : RecvAdapter :=
  frames.foldl (fun adapter frame => rtw_free_recvframe adapter frame.index) adapter

/-- `recvframe_chk_defrag` on the adapter: what it gives back is freed. -/
def RecvAdapter.chk_defrag (adapter : RecvAdapter) (precv_frame : RecvFrame) : Option RecvFrame × RecvAdapter :=
  let outcome := recvframe_chk_defrag adapter.micKeys adapter.stapriv precv_frame
  (outcome.prtnframe,
    rtw_free_recvframe_queue { adapter with stapriv := outcome.pstapriv } outcome.freed)

/-- A frame without encryption passes, marked as decrypted. -/
def decryptor (precv_frame : RecvFrame) : RecvFrame :=
  { precv_frame with attrib := { precv_frame.attrib with bdecrypted := true } }

def frame_ether_type (precv_frame : RecvFrame) : Nat :=
  let ptr := precv_frame.rx_data.drop (precv_frame.attrib.hdrlen + precv_frame.attrib.iv_len + 6)
  256 * (ptr.getD 0 0).toNat + (ptr.getD 1 0).toNat

/-- `portctrl` drops the frame: under 802.1X its station is blocked and it is
not an EAPOL frame. -/
def portctrl_drops (adapter : RecvAdapter) (precv_frame : RecvFrame) : Bool :=
  adapter.mlmepriv.dot11AuthAlgrthm_8021X &&
    ((rtw_get_stainfo adapter.stapriv precv_frame.attrib.ta).any
      (fun psta => (adapter.stapriv.pstainfo_buf psta).ieee8021x_blocked)) &&
    frame_ether_type precv_frame != 0x888e

/-- The frame is delivered or dropped; either way it is freed once. -/
def recv_process_mpdu (adapter : RecvAdapter) (prframe : RecvFrame) : RecvAdapter :=
  rtw_free_recvframe adapter prframe.index

def RecvAdapter.reorder_ctrl (adapter : RecvAdapter) (session : Fin NUM_STA × Fin 16) : RecvReorderCtrl :=
  (adapter.stapriv.pstainfo_buf session.1).recvreorder_ctrl session.2

def StaInfo.set_reorder_ctrl (tid : Fin 16) (preorder_ctrl : RecvReorderCtrl) (psta : StaInfo) : StaInfo :=
  { psta with recvreorder_ctrl := Function.update psta.recvreorder_ctrl tid preorder_ctrl }

def RecvAdapter.set_reorder_ctrl (adapter : RecvAdapter) (session : Fin NUM_STA × Fin 16)
    (preorder_ctrl : RecvReorderCtrl) : RecvAdapter :=
  { adapter with
    stapriv := adapter.stapriv.modify session.1 (.set_reorder_ctrl session.2 preorder_ctrl) }

/-- Process the frames that the reorder engine passes on. -/
def recv_process_mpdus (adapter : RecvAdapter) (frames : List RecvFrame) : RecvAdapter :=
  frames.foldl recv_process_mpdu adapter

/-- `recv_indicatepkt_reorder` on the adapter. -/
def RecvAdapter.indicatepkt_reorder (adapter : RecvAdapter) (prframe : RecvFrame) : RecvStatus × RecvAdapter :=
  match prframe.preorder_ctrl with
  | none => (._SUCCESS, adapter)
  | some session =>
      let outcome := recv_indicatepkt_reorder (adapter.reorder_ctrl session) prframe
      (outcome.status,
        recv_process_mpdus (adapter.set_reorder_ctrl session outcome.preorder_ctrl)
          outcome.processed)

/-- `recv_set_iseq_before_mpdu_process` and, behind the processing,
`recv_set_iseq_after_mpdu_process`. -/
def RecvAdapter.set_iseq (adapter : RecvAdapter) (prframe : RecvFrame) (seq_num : Nat) : RecvAdapter :=
  match prframe.preorder_ctrl with
  | none => adapter
  | some session =>
      adapter.set_reorder_ctrl session
        { adapter.reorder_ctrl session with indicate_seq := (seq_num + 1) % 4096 }

/-- The second half of the receive path.  `pattrib` points to the attributes of
the original frame all along. -/
def recv_func_posthandle (adapter : RecvAdapter) (prframe : RecvFrame) : RecvAdapter :=
  let orig_prframe := prframe
  match adapter.chk_defrag (decryptor prframe) with
  | (none, adapter) => adapter
  | (some prframe, adapter) =>
      if portctrl_drops adapter prframe then rtw_free_recvframe adapter prframe.index
      else
        match adapter.indicatepkt_reorder prframe with
        | (._FAIL, adapter) => rtw_free_recvframe adapter orig_prframe.index
        | (.RTW_RX_HANDLED, adapter) => adapter
        | (._SUCCESS, adapter) =>
            recv_process_mpdu (adapter.set_iseq prframe orig_prframe.attrib.seq_num.val) prframe

/-- A block ack request moves `indicate_seq` of its session. -/
def rtw_process_bar_frame (adapter : RecvAdapter) (ptr : List UInt8) : RecvAdapter :=
  match rtw_get_stainfo adapter.stapriv (get_addr2_ptr ptr) with
  | none => adapter
  | some psta =>
      let tid : Fin 16 := Fin.ofNat 16 (le16_to_cpu (ptr.drop 16) / 4096)
      adapter.set_reorder_ctrl (psta, tid)
        { adapter.reorder_ctrl (psta, tid) with
          indicate_seq := le16_to_cpu (ptr.drop 18) / 16 }

/-- Control frames: only block ack requests matter here. -/
def validate_recv_ctrl_frame (adapter : RecvAdapter) (precv_frame : RecvFrame) : RecvAdapter :=
  let ptr := precv_frame.rx_data
  if GetAddr1Ptr ptr = adapter.mlmepriv.adapter_mac_addr ∧ get_frame_sub_type ptr = 0x84 then
    rtw_process_bar_frame adapter ptr
  else adapter

/-- Check a frame.  Only a data frame can succeed; the answer for a management
frame is `_FAIL` whatever has become of it. -/
def validate_recv_frame (adapter : RecvAdapter) (precv_frame : RecvFrame) : RecvStatus × RecvFrame × RecvAdapter :=
  let ptr := precv_frame.rx_data
  let type := GetFrameType ptr
  let framed := { precv_frame with attrib := frame_control_attrib ptr precv_frame.attrib }
  if (ptr.getD 0 0) &&& 0x03 != 0 then (._FAIL, precv_frame, adapter)
  else if type = WIFI_MGT_TYPE then (._FAIL, framed, (adapter.chk_defrag framed).2)
  else if type = WIFI_CTRL_TYPE then (._FAIL, framed, validate_recv_ctrl_frame adapter framed)
  else if type = WIFI_DATA_TYPE then
    let qos := get_frame_sub_type ptr &&& 0x80 != 0
    let validated := validate_recv_data_frame adapter.mlmepriv adapter.stapriv
      { framed with attrib := { framed.attrib with qos := qos } }
    (validated.status, validated.precv_frame, { adapter with stapriv := validated.pstapriv })
  else (._FAIL, framed, adapter)

/-- The whole receive path: `recv_func_prehandle`, which frees every frame that
is not a valid data frame, and then `recv_func_posthandle`. -/
def recv_func (adapter : RecvAdapter) (rframe : RecvFrame) : RecvAdapter :=
  match validate_recv_frame adapter rframe with
  | (._SUCCESS, rframe, adapter) => recv_func_posthandle adapter rframe
  | (_, rframe, adapter) => rtw_free_recvframe adapter rframe.index

def RecvFrame.arriving (index : Nat) (rx_data : List UInt8) (tailroom : Nat) : RecvFrame where
  index := index
  attrib := .zero
  rx_data := rx_data
  tailroom := tailroom

/-- What can happen between two states.  `add_ba_rsp_hdl` opens or closes a
session; `mlme_update` stands for everything that changes the connection or
the 802.1X state of a station. -/
inductive RecvEvent
  | rtw_alloc_recvframe
  | rtw_free_recvframe (precvframe : Nat)
  | recv_func (precvframe : Nat) (rx_data : List UInt8) (tailroom : Nat)
  | rtw_reordering_ctrl_timeout_handler (session : Fin NUM_STA × Fin 16) (cannot_run : Bool)
  | rtw_alloc_stainfo (hwaddr : MacAddr)
  | rtw_free_stainfo (psta : Fin NUM_STA)
  | add_ba_rsp_hdl (addr : MacAddr) (tid : Fin 16) (status : Nat)
  | mlme_update (mlmepriv : MlmePriv) (psta : Fin NUM_STA) (ieee8021x_blocked : Bool)

/-- Open a session for `status` 0, close it for 37. -/
def add_ba_rsp_hdl (adapter : RecvAdapter) (addr : MacAddr) (tid : Fin 16) (status : Nat) : RecvAdapter :=
  match rtw_get_stainfo adapter.stapriv addr with
  | none => adapter
  | some psta =>
      let preorder_ctrl := adapter.reorder_ctrl (psta, tid)
      adapter.set_reorder_ctrl (psta, tid)
        { preorder_ctrl with
          indicate_seq := 0xffff
          enable := if status = 0 then true else if status = 37 then false
            else preorder_ctrl.enable }

def StaInfo.set_blocked (ieee8021x_blocked : Bool) (psta : StaInfo) : StaInfo :=
  { psta with ieee8021x_blocked := ieee8021x_blocked }

/-- One operation.  Only a held frame can be freed or received, and only a
station in the hash table can be freed. -/
def RecvAdapter.step (adapter : RecvAdapter) : RecvEvent -> RecvAdapter
  | .rtw_alloc_recvframe => Rtl8821ce.rtw_alloc_recvframe adapter
  | .rtw_free_recvframe precvframe =>
      if precvframe ∈ adapter.held then
        Rtl8821ce.rtw_free_recvframe { adapter with held := adapter.held.erase precvframe }
          precvframe
      else adapter
  | .recv_func precvframe rx_data tailroom =>
      if precvframe ∈ adapter.held then
        Rtl8821ce.recv_func { adapter with held := adapter.held.erase precvframe }
          (.arriving precvframe rx_data tailroom)
      else adapter
  | .rtw_reordering_ctrl_timeout_handler session cannot_run =>
      let outcome := Rtl8821ce.rtw_reordering_ctrl_timeout_handler
        (adapter.reorder_ctrl session) cannot_run
      recv_process_mpdus (adapter.set_reorder_ctrl session outcome.1) outcome.2
  | .rtw_alloc_stainfo hwaddr =>
      { adapter with stapriv := Rtl8821ce.rtw_alloc_stainfo adapter.stapriv hwaddr }
  | .rtw_free_stainfo psta =>
      if psta ∈ adapter.stapriv.sta_hash then
        let outcome := Rtl8821ce.rtw_free_stainfo adapter.stapriv psta
        rtw_free_recvframe_queue { adapter with stapriv := outcome.1 } outcome.2
      else adapter
  | .add_ba_rsp_hdl addr tid status => Rtl8821ce.add_ba_rsp_hdl adapter addr tid status
  | .mlme_update mlmepriv psta ieee8021x_blocked =>
      { adapter with
        mlmepriv := mlmepriv
        stapriv := adapter.stapriv.modify psta (.set_blocked ieee8021x_blocked) }

end Rtl8821ce
