import Mathlib.Data.BitVec
import Mathlib.Logic.Function.Basic
import Rtl8723du.Lib.Machine

/-!
# Block Ack agreements

A station agrees with its peer, for each traffic identifier, that frames are sent as A-MPDUs.  The
frames for this are handled in three places: `OnAction_back` of `core/rtw_mlme_ext.c` receives
them, the command thread sends the requests (`add_ba_hdl`) and the responses (`add_ba_rsp_hdl`),
and a response is sent up to three times.  Frames may come in between at any time.

What happens is written to a log: the requests and responses that are sent and received, and
whether a frame was read beyond its end.  A byte behind the end of a frame can be anything.  The
starting sequence number of a request is left out.
-/

namespace Rtl8723du.Ba

/-! ### Frames -/

/-- `struct ADDBA_request` without the starting sequence control. -/
structure AddbaRequest where
  dialogToken : BitVec 8
  baParaSet : BitVec 16
  baTimeoutValue : BitVec 16
  baStartingSeqctrl : BitVec 16
deriving DecidableEq

/-- A byte of a frame. -/
def byteAt (f : List UInt8) (i : ℕ) : BitVec 8 := (f.getD i 0).toBitVec

/-- A field of two bytes, in little endian. -/
def le16At (f : List UInt8) (i : ℕ) : BitVec 16 := byteAt f (i + 1) ++ byteAt f i

/-- The request that is at byte 2 of the frame body. -/
def AddbaRequest.ofFrame (f : List UInt8) : AddbaRequest where
  dialogToken := byteAt f 26
  baParaSet := le16At f 27
  baTimeoutValue := le16At f 29
  baStartingSeqctrl := le16At f 31

/-- The TID of a Block Ack parameter set. -/
def tidOf (param : BitVec 16) : ℕ := ((param >>> 2) &&& 0x0f).toNat

/-- The bit for the policy, `IEEE80211_ADDBA_PARAM_POLICY_MASK`. -/
def policyOf (param : BitVec 16) : Bool := param.getLsbD 1

/-! ### The state -/

/-- What a station has of the agreements. -/
structure Sta where
  aggEnableBitmap : BitVec 8 := 0
  candidateTidBitmap : BitVec 8 := 0
  txAmsduEnable : Bool := false
  /-- `WLAN_STA_AMSDU_DISABLE`. -/
  amsduDisable : Bool := false
  /-- `WIFI_STA_ALIVE_CHK_STATE`. -/
  aliveChk : Bool := false
  /-- `WIFI_ASOC_STATE`. -/
  asoc : Bool := false
  /-- `ht_option` and `ampdu_enable`. -/
  ampduEnable : Bool := false
  expireTo : ℕ := 0
  /-- `enable` of the reordering control of each TID. -/
  enable : ℕ → Bool := fun _ => false
  /-- `ampdu_size`, with 0xff for `RX_AMPDU_SIZE_INVALID`. -/
  ampduSize : ℕ → BitVec 8 := fun _ => 0xff
  /-- `RTW_RECV_ACK_OR_TIMEOUT` of each TID. -/
  recAbbaRspAck : ℕ → Bool := fun _ => false

/-- `struct addBaRsp_parm`, and the request that it is made for. -/
structure AddBaRspParm where
  addr : List UInt8
  tid : ℕ
  status : BitVec 8
  size : BitVec 8
  startSeq : BitVec 16
  /-- The source has no such field, and no step depends on it. -/
  cause : AddbaRequest
deriving DecidableEq

/-- The commands that concern the agreements. -/
inductive Cmd where
  | addBaReq (addr : List UInt8) (tid : ℕ)
  | addBaRsp (parm : AddBaRspParm)
deriving DecidableEq

/-- The adapter. -/
structure Adapter where
  myMac : List UInt8
  /-- `WIFI_FW_AP_STATE`. -/
  apState : Bool
  /-- `WIFI_FW_ASSOC_SUCCESS`. -/
  assocSuccess : Bool
  htEnable : Bool
  wifiSpec : Bool
  txAmpduAmsdu : ℕ
  rxAmpduAmsdu : ℕ
  /-- `expire_to` of the stations. -/
  expireTo : ℕ
  /-- `ADDBA_req`. -/
  addbaReq : AddbaRequest
  dialogToken : BitVec 8
  sta : List UInt8 → Option Sta
  cmdQueue : List Cmd
  /-- The response that the command thread is sending, and how often it was sent. -/
  running : Option (AddBaRspParm × ℕ)

/-- What is logged. -/
inductive Log where
  /-- A request is sent. -/
  | req (addr : List UInt8) (tid : ℕ) (token : BitVec 8)
  /-- A response is received. -/
  | resp (addr : List UInt8) (tid : ℕ) (token : BitVec 8) (status : BitVec 16)
  /-- A DELBA of the recipient is received. -/
  | delba (addr : List UInt8) (tid : ℕ)
  /-- A request is received. -/
  | got (addr : List UInt8) (req : AddbaRequest)
  /-- A response is sent. -/
  | rsp (parm : AddBaRspParm) (token : BitVec 8) (param timeout : BitVec 16)
  /-- A frame is read beyond its end. -/
  | outside
deriving DecidableEq

/-- A station is written back. -/
def Adapter.setSta (ad : Adapter) (addr : List UInt8) (s : Sta) : Adapter :=
  { ad with sta := Function.update ad.sta addr (some s) }

/-- `BIT(n)` of a byte. -/
def bit8 (n : ℕ) : BitVec 8 := 1#8 <<< n

/-! ### Sending -/

/-- The token of the next request: the loop leaves out 0. -/
def nextToken (token : BitVec 8) : BitVec 8 := if token + 1 = 0 then 1 else token + 1

/-- `issue_addba_req`. -/
def issueAddbaReq (ad : Adapter) (raddr : List UInt8) (tid : ℕ) (sent : Bool) :
    Adapter × List Log :=
  if sent then
    ({ ad with dialogToken := nextToken ad.dialogToken },
      [.req raddr (tid % 16) (nextToken ad.dialogToken)])
  else (ad, [])

/-- The parameter set of a response. -/
def rspParamSet (ad : Adapter) (param : BitVec 16) (raddr : List UInt8) (tid : ℕ)
    (size : BitVec 8) : BitVec 16 :=
  let param := param &&& ~~~0x003C#16 ||| (BitVec.ofNat 16 tid <<< 2) &&& 0x003C#16
  let param := param &&& ~~~0xFFC0#16 ||| (size.setWidth 16 <<< 6) &&& 0xFFC0#16
  let param :=
    if ad.wifiSpec then param
    else if ad.rxAmpduAmsdu = 0 then param &&& ~~~1#16
    else if ad.rxAmpduAmsdu = 1 then param ||| 1#16
    else param
  if ((ad.sta raddr).map Sta.amsduDisable).getD false then param &&& ~~~1#16 else param

/-- `issue_action_ba` for a response. -/
def issueAddbaRsp (ad : Adapter) (parm : AddBaRspParm) : Log :=
  .rsp parm ad.addbaReq.dialogToken
    (rspParamSet ad ad.addbaReq.baParaSet parm.addr parm.tid parm.size) ad.addbaReq.baTimeoutValue

/-- `add_ba_hdl`. -/
def addBaHdl (ad : Adapter) (addr : List UInt8) (tid : ℕ) (sent : Bool) : Adapter × List Log :=
  match ad.sta addr with
  | none => (ad, [])
  | some psta =>
      if ad.assocSuccess && ad.htEnable || ad.apState then issueAddbaReq ad addr tid sent
      else
        (ad.setSta addr
          { psta with candidateTidBitmap := psta.candidateTidBitmap &&& ~~~bit8 tid }, [])

/-- `add_ba_rsp_hdl` after the response has been sent. -/
def addBaRspEnd (ad : Adapter) (parm : AddBaRspParm) : Adapter :=
  let ad := { ad with running := none }
  match ad.sta parm.addr with
  | none => ad
  | some psta =>
      let psta := { psta with recAbbaRspAck := Function.update psta.recAbbaRspAck parm.tid true }
      ad.setSta parm.addr <|
        if parm.status = 0 then
          { psta with
            enable := Function.update psta.enable parm.tid true
            ampduSize := Function.update psta.ampduSize parm.tid parm.size }
        else if parm.status = 37 then
          { psta with enable := Function.update psta.enable parm.tid false }
        else psta

/-- The command thread takes the next command; `sent` says that a request goes out, `blocked` that
`issue_addba_rsp_wait_ack` finds the channel blocked. -/
def nextCmd (ad : Adapter) (sent blocked : Bool) : Adapter × List Log :=
  match ad.running, ad.cmdQueue with
  | some _, _ => (ad, [])
  | none, [] => (ad, [])
  | none, .addBaReq addr tid :: cmds => addBaHdl { ad with cmdQueue := cmds } addr tid sent
  | none, .addBaRsp parm :: cmds =>
      let ad := { ad with cmdQueue := cmds }
      match ad.sta parm.addr with
      | none => (ad, [])
      | some _ =>
          if blocked then (addBaRspEnd ad parm, [])
          else ({ ad with running := some (parm, 0) }, [])

/-- A pass of the loop of `issue_addba_rsp_wait_ack`. -/
def attempt (ad : Adapter) (sent acked cannotRun : Bool) : Adapter × List Log :=
  match ad.running with
  | none => (ad, [])
  | some (parm, i) =>
      let log := if sent then [issueAddbaRsp ad parm] else []
      if cannotRun || 3 ≤ i + 1 || sent && acked then (addBaRspEnd ad parm, log)
      else ({ ad with running := some (parm, i + 1) }, log)

/-- `rtw_issue_addbareq_cmd`, after `rtw_issue_addbareq_check`. -/
def issueAddbareqCmd (ad : Adapter) (ra : List UInt8) (priority : ℕ) (queued : Bool) : Adapter :=
  match ad.sta ra with
  | none => ad
  | some psta =>
      if psta.asoc && psta.ampduEnable &&
          !(psta.aggEnableBitmap ||| psta.candidateTidBitmap).getLsbD priority then
        let ad := ad.setSta ra
          { psta with candidateTidBitmap := psta.candidateTidBitmap ||| bit8 priority }
        if queued then { ad with cmdQueue := ad.cmdQueue ++ [.addBaReq ra priority] } else ad
      else ad

/-- The check of `expire_timeout_chk` whether a station is alive. -/
def aliveCheck (ad : Adapter) (addr : List UInt8) (expireTo : ℕ) (sent : Bool) :
    Adapter × List Log :=
  match ad.sta addr with
  | none => (ad, [])
  | some psta =>
      if psta.ampduEnable && !psta.candidateTidBitmap.getLsbD 1 && !psta.aliveChk then
        issueAddbaReq (ad.setSta addr { psta with
          candidateTidBitmap := psta.candidateTidBitmap ||| bit8 1
          expireTo := expireTo
          aliveChk := true }) addr 1 sent
      else (ad, [])

/-! ### Receiving -/

/-- `process_addba_req`; `queued` says that the command comes to the queue. -/
def processAddbaReq (ad : Adapter) (addr : List UInt8) (accept : Bool) (size : BitVec 8)
    (queued : Bool) : Adapter :=
  match ad.sta addr with
  | none => ad
  | some _ =>
      if queued then
        { ad with cmdQueue := ad.cmdQueue ++ [.addBaRsp {
            addr := addr
            tid := tidOf ad.addbaReq.baParaSet
            status := if accept then 0 else 37
            size := size
            startSeq := ad.addbaReq.baStartingSeqctrl >>> 4
            cause := ad.addbaReq }] }
      else ad

/-- The TID of an ADDBA response, as `OnAction_back` takes it. -/
def respTid (f : List UInt8) : ℕ := ((byteAt f 29 >>> 2) &&& 0x7).toNat

/-- An ADDBA response. -/
def addbaResp (ad : Adapter) (psta : Sta) (f : List UInt8) : Sta :=
  let tid := respTid f
  let psta :=
    if le16At f 27 = 0 then
      { psta with
        aggEnableBitmap := psta.aggEnableBitmap ||| bit8 tid
        candidateTidBitmap := psta.candidateTidBitmap &&& ~~~bit8 tid
        txAmsduEnable :=
          if ad.txAmpduAmsdu = 0 then false
          else if ad.txAmpduAmsdu = 1 then true
          else psta.txAmsduEnable || (byteAt f 29).getLsbD 0 }
    else { psta with aggEnableBitmap := psta.aggEnableBitmap &&& ~~~bit8 tid }
  if psta.aliveChk then
    { psta with
      aggEnableBitmap := psta.aggEnableBitmap &&& ~~~bit8 tid
      expireTo := ad.expireTo
      aliveChk := false }
  else psta

/-- The TID of a DELBA. -/
def delbaTid (f : List UInt8) : ℕ := ((byteAt f 27 >>> 4) &&& 0xf).toNat

/-- A DELBA. -/
def delba (psta : Sta) (f : List UInt8) : Sta :=
  if (byteAt f 27).getLsbD 3 then
    { psta with
      enable := Function.update psta.enable (delbaTid f) false
      ampduSize := Function.update psta.ampduSize (delbaTid f) 0xff }
  else
    { psta with
      aggEnableBitmap := psta.aggEnableBitmap &&& ~~~bit8 (delbaTid f)
      candidateTidBitmap := psta.candidateTidBitmap &&& ~~~bit8 (delbaTid f) }

/-- `OnAction_back`, with the log and how many bytes of the frame are read up to the last.  The
token and the four bits of the TID of a response are in the log only. -/
def onActionBack (ad : Adapter) (f : List UInt8) (accept : Bool) (size : BitVec 8)
    (queued : Bool) : Adapter × List Log × ℕ :=
  let addr := (f.drop 10).take 6
  if (f.drop 4).take 6 ≠ ad.myMac then (ad, [], 10)
  else if !ad.apState && !ad.assocSuccess then (ad, [], 10)
  else
    match ad.sta addr with
    | none => (ad, [], 16)
    | some psta =>
        if byteAt f 24 ≠ 3 then (ad, [], 25)
        else if !ad.htEnable then (ad, [], 25)
        else if byteAt f 25 = 0 then
          let ad := { ad with addbaReq := .ofFrame f }
          (processAddbaReq ad addr accept size queued, [.got addr (.ofFrame f)], 33)
        else if byteAt f 25 = 1 then
          (ad.setSta addr (addbaResp ad psta f),
            [.resp addr (tidOf (le16At f 29)) (byteAt f 26) (le16At f 27)], 30)
        else if byteAt f 25 = 2 then
          if (byteAt f 27).getLsbD 3 then (ad.setSta addr (delba psta f), [], 28)
          else (ad.setSta addr (delba psta f), [.delba addr (delbaTid f)], 30)
        else (ad, [], 26)

/-! ### Runs -/

/-- What can happen. -/
inductive Event where
  /-- A frame, what is behind it in memory, and what `process_addba_req` comes to. -/
  | recv (frame behind : List UInt8) (accept : Bool) (size : BitVec 8) (queued : Bool)
  | nextCmd (sent blocked : Bool)
  | attempt (sent acked cannotRun : Bool)
  | issueReq (ra : List UInt8) (priority : ℕ) (queued : Bool)
  | aliveCheck (addr : List UInt8) (expireTo : ℕ) (sent : Bool)
  /-- `addba_timer_hdl`. -/
  | timer (addr : List UInt8)
  /-- The driver ends its agreement for a TID, `send_delba_sta_tid`. -/
  | sendDelba (addr : List UInt8) (tid : ℕ)
  /-- A station comes, is associated anew or leaves. -/
  | station (addr : List UInt8) (psta : Option Sta)
  /-- Another measurement request takes a token. -/
  | takeToken
  /-- The state of the interface changes. -/
  | iface (apState assocSuccess htEnable : Bool)

/-- What a station is after an event that concerns it alone. -/
def Adapter.modify (ad : Adapter) (addr : List UInt8) (g : Sta → Sta) : Adapter :=
  match ad.sta addr with
  | none => ad
  | some psta => ad.setSta addr (g psta)

/-- An event. -/
def act (ad : Adapter) : Event → Adapter × List Log
  | .recv frame behind accept size queued =>
      let r := onActionBack ad (frame ++ behind) accept size queued
      (r.1, r.2.1 ++ if frame.length < r.2.2 then [.outside] else [])
  | .nextCmd sent blocked => nextCmd ad sent blocked
  | .attempt sent acked cannotRun => attempt ad sent acked cannotRun
  | .issueReq ra priority queued => (issueAddbareqCmd ad ra priority queued, [])
  | .aliveCheck addr expireTo sent => aliveCheck ad addr expireTo sent
  | .timer addr =>
      (ad.modify addr fun psta =>
        if psta.ampduEnable then { psta with candidateTidBitmap := 0 } else psta, [])
  | .sendDelba addr tid =>
      (ad.modify addr fun psta =>
        { psta with
          aggEnableBitmap := psta.aggEnableBitmap &&& ~~~bit8 tid
          candidateTidBitmap := psta.candidateTidBitmap &&& ~~~bit8 tid }, [])
  | .station addr psta =>
      -- the bitmaps of a station that comes are reset
      ({ ad with sta := Function.update ad.sta addr (psta.map fun psta =>
          { psta with aggEnableBitmap := 0, candidateTidBitmap := 0 }) }, [])
  | .takeToken => ({ ad with dialogToken := nextToken ad.dialogToken }, [])
  | .iface apState assocSuccess htEnable =>
      ({ ad with apState := apState, assocSuccess := assocSuccess, htEnable := htEnable }, [])

/-- The adapter and all that was logged. -/
structure World where
  ad : Adapter
  log : List Log

/-- An event, in the world. -/
def step (w : World) (e : Event) : World × List Log :=
  (⟨(act w.ad e).1, w.log ++ (act w.ad e).2⟩, (act w.ad e).2)

/-- Nothing has happened: there is no command, and no station has an agreement. -/
structure Fresh (w : World) : Prop where
  log : w.log = []
  cmdQueue : w.ad.cmdQueue = []
  running : w.ad.running = none
  bitmap : ∀ addr psta, w.ad.sta addr = some psta → psta.aggEnableBitmap = 0

/-! ### An AP with two stations -/

/-- The address of a peer. -/
def peer (n : UInt8) : List UInt8 := [2, 0, 0, 0, 0, n]

/-- An AP with two stations. -/
def twoPeers : World where
  ad := {
    myMac := peer 1
    apState := true
    assocSuccess := false
    htEnable := true
    wifiSpec := false
    txAmpduAmsdu := 0
    rxAmpduAmsdu := 0
    expireTo := 0
    addbaReq := ⟨0, 0, 0, 0⟩
    dialogToken := 0
    sta := fun addr => if addr = peer 2 ∨ addr = peer 3 then
      some { asoc := true, ampduEnable := true } else none
    cmdQueue := []
    running := none }
  log := []

lemma fresh_twoPeers : Fresh twoPeers where
  log := rfl
  cmdQueue := rfl
  running := rfl
  bitmap addr psta h := by
    simp only [twoPeers] at h
    split at h
    · rw [← Option.some.inj h]
    · cases h

end Rtl8723du.Ba
