import Rtl8723du.Ap.Station

/-!
# The transmit queues

A frame that is not sent at once waits in the `sta_pending` queue of its station and
access category.  A station with waiting frames is linked in the hardware queue of the
access category, from which `rtw_dequeue_xframe` serves the stations.
-/

namespace Rtl8723du

variable {n : ℕ}

/-- Link a station in a hardware queue, unless it is linked already. -/
def HwXmit.link (h : HwXmit n) (i : Fin n) : HwXmit n :=
  if i ∈ h.staQueue then h else { h with staQueue := h.staQueue ++ [i] }

/-- `rtw_list_delete` of the `tx_pending` of a station. -/
def HwXmit.unlink (h : HwXmit n) (i : Fin n) : HwXmit n :=
  { h with staQueue := h.staQueue.filter (· ≠ i) }

/-- Count a frame in or off. -/
def HwXmit.count (h : HwXmit n) (d : ℤ) : HwXmit n := { h with accnt := h.accnt + d }

/-- Change the hardware queue of management frames. -/
def ApPriv.modMgmtHw (s : ApPriv n) (g : HwXmit n → HwXmit n) : ApPriv n :=
  { s with mgmtHwxmit := g s.mgmtHwxmit }

@[simp] lemma ApPriv.modMgmtHw_sta (s : ApPriv n) (g : HwXmit n → HwXmit n) :
    (s.modMgmtHw g).sta = s.sta := rfl

/-- `rtw_xmit_classifier`: append the frame to the queue of its station and access
category; `none` when it fails. -/
def rtwXmitClassifier (s : ApPriv n) (f : XmitFrame n) : Option (ApPriv n) :=
  match rtwGetStainfo s f.ra with
  | none => none
  | some i =>
      if f.psta = i ∧ (s.sta i).asocState then
        some ((s.modXmit i fun p => p.modAcQ (acOf f.priority) fun q => q.push f).modHw
          (acOf f.priority) fun h => (h.link i).count 1)
      else none

/-- `rtw_free_xmitframe`: a frame goes back to the pool. -/
def rtwFreeXmitframe (s : ApPriv n) : ApPriv n :=
  { s with freeXmitframeCnt := s.freeXmitframeCnt + 1 }

/-- `rtl8723du_hal_xmitframe_enqueue`: a frame that cannot be queued is freed. -/
def rtwHalXmitframeEnqueue (s : ApPriv n) (f : XmitFrame n) : ApPriv n :=
  (rtwXmitClassifier s f).getD (rtwFreeXmitframe s)

/-- `rtw_mgmt_xmitframe_enqueue`, the same for a management frame. -/
def rtwMgmtXmitframeEnqueue (s : ApPriv n) (f : XmitFrame n) : Option (ApPriv n) :=
  match rtwGetStainfo s f.ra with
  | none => none
  | some i =>
      if f.psta = i ∧ (s.sta i).asocState then
        some ((s.modXmit i fun p => p.modMgmtQ fun q => q.push f).modMgmtHw
          fun h => (h.link i).count 1)
      else none

/-- `rtl8723du_hal_mgmt_xmitframe_enqueue`.  Management frames are of another pool. -/
def rtwHalMgmtXmitframeEnqueue (s : ApPriv n) (f : XmitFrame n) : ApPriv n :=
  (rtwMgmtXmitframeEnqueue s f).getD s

/-- `dequeue_one_xmitframe`, with what `rtw_dequeue_xframe` does when it got a frame: count
it off and unlink the station once its queue is empty. -/
def dequeueOneXmitframe (s : ApPriv n) (ac : Ac) (i : Fin n) :
    Option (XmitFrame n × ApPriv n) :=
  match ((s.staXmitpriv i).acQ ac).staPending with
  | [] => none
  | f :: rest =>
      some (f, (s.modXmit i fun p => p.modAcQ ac fun q => q.pop).modHw ac fun h =>
        (if rest = [] then h.unlink i else h).count (-1))

/-- `rtw_dequeue_xframe`: the first frame of the first station, in the order of the
hardware queues. -/
def rtwDequeueXframe (conf : ApConf) (s : ApPriv n) : Option (XmitFrame n × ApPriv n) :=
  (if conf.wifiSpec then conf.wmmParaSeq else [.vo, .vi, .be, .bk]).findSome? fun ac =>
    (s.hwxmits ac).staQueue.findSome? fun i => dequeueOneXmitframe s ac i

/-- `k` frames are being sent. -/
def ApPriv.send (s : ApPriv n) (k : ℕ) : ApPriv n := { s with sending := s.sending + k }

@[simp] lemma ApPriv.send_sta (s : ApPriv n) (k : ℕ) : (s.send k).sta = s.sta := rfl

/-- The loop of `rtl8723du_xmitframe_complete` that puts up to `k` more frames of the same
queue into the transfer. -/
def aggregate (ac : Ac) (i : Fin n) : ℕ → ApPriv n → List (XmitFrame n) × ApPriv n
  | 0, s => ([], s)
  | k + 1, s =>
      match dequeueOneXmitframe s ac i with
      | none => ([], s)
      | some (f, s') => ((f :: (aggregate ac i k s').1), (aggregate ac i k s').2)

/-- `rtl8723du_xmitframe_complete`: the frames of one transfer, and the station put last in
its hardware queue when it is not alone there and has more frames.  How many frames fit
into the transfer is `1 + k`. -/
def xmitframeComplete (conf : ApConf) (k : ℕ) (s : ApPriv n) :
    List (XmitFrame n) × ApPriv n :=
  match rtwDequeueXframe conf s with
  | none => ([], s)
  | some (f, s') =>
      let ac := acOf f.priority
      let single := (s'.hwxmits ac).staQueue.length ≤ 1
      let (fs, s'') := aggregate ac f.psta k s'
      let s'' := s''.send (f :: fs).length
      if ((s''.staXmitpriv f.psta).acQ ac).staPending = [] then
        (f :: fs, s''.modHw ac fun h => h.unlink f.psta)
      else if single then (f :: fs, s'')
      else
        (f :: fs, s''.modHw ac fun h =>
          { h with staQueue := (h.unlink f.psta).staQueue ++ [f.psta] })

end Rtl8723du
