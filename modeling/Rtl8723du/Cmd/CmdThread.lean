import Rtl8723du.Lib.Machine

/-!
# The command queue and its thread

`rtw_enqueue_cmd` takes a command from any caller, `rtw_cmd_thread` takes commands from the queue
and is to free each with all that hangs on it and to tell the one who waits.  A caller looks at
`cmdthd_running` first, takes the lock of the queue after that and raises the semaphore at last, so
these are steps of their own here, and the thread may go anywhere between them.  The thread goes
one step at a time; what it does with a command that it has taken is one step, since the command is
its own then.

`rtw_disassoc_cmd_callback` frees the object that it gets only with the result `H2C_SUCCESS`, the
other callbacks in any case.  The handler of `CMD_SET_DRV_EXTRA` is taken to free the buffer of the
command that it runs.
-/

namespace Rtl8723du.Cmd

open Lib.Machine

/-- `MAX_CMDSZ`. -/
abbrev maxCmdsz : ℕ := 1536

/-- `CMD_DISCONNECT`. -/
abbrev cmdDisconnect : ℕ := 1

/-- `CMD_SET_DRV_EXTRA`. -/
abbrev cmdSetDrvExtra : ℕ := 12

/-- `CMD_SET_CHANPLAN`. -/
abbrev cmdSetChanplan : ℕ := 13

/-- `cmd_obj`, with the number of its allocation. -/
structure CmdObj where
  id : ℕ
  cmdcode : ℕ
  cmdsz : ℕ
  parmbuf : Bool
  /-- `pbuf` of the `drvextra_cmd_parm` in `parmbuf` is there and has a size. -/
  pbuf : Bool
  /-- `rsp` is there and has a size. -/
  rsp : Bool
  sctx : Bool
  noIo : Bool
deriving DecidableEq

/-- The callbacks, by what they do with the object. -/
inductive CmdCallback
  /-- `rtw_joinbss_cmd_callback`, `rtw_survey_cmd_callback`, `rtw_setstaKey_cmdrsp_callback`. -/
  | frees
  /-- `rtw_disassoc_cmd_callback`. -/
  | disassoc
deriving DecidableEq

/-- `rtw_cmd`: whether there is a handler, and the callback. -/
structure RtwCmd where
  cmdHdl : Bool
  callback : Option CmdCallback

/-- `wlancmds`. -/
def wlancmds : List RtwCmd :=
  [⟨true, some .frees⟩, ⟨true, some .disassoc⟩, ⟨true, none⟩, ⟨true, none⟩, ⟨true, some .frees⟩,
    ⟨true, none⟩, ⟨true, none⟩, ⟨true, some .frees⟩, ⟨true, none⟩, ⟨true, none⟩, ⟨true, none⟩,
    ⟨true, none⟩, ⟨true, none⟩, ⟨true, none⟩, ⟨true, none⟩, ⟨true, none⟩, ⟨true, none⟩,
    ⟨true, none⟩, ⟨true, none⟩, ⟨true, none⟩, ⟨true, none⟩, ⟨true, none⟩, ⟨true, none⟩,
    ⟨true, none⟩, ⟨true, none⟩]

/-! ### What is done to a command -/

/-- A part of a command. -/
inductive Part
  | obj
  | parmbuf
  | pbuf
  | rsp
deriving DecidableEq

/-- What happens to a command. -/
inductive Out
  /-- `rtw_enqueue_cmd` puts it in the queue. -/
  | queued (obj : CmdObj)
  | executed (obj : CmdObj)
  | freed (obj : CmdObj) (part : Part)
  /-- `rtw_sctx_done` or `rtw_sctx_done_err`. -/
  | signalled (obj : CmdObj)
deriving DecidableEq

/-- `rtw_free_cmd_obj`. -/
def rtwFreeCmdObj (obj : CmdObj) : List Out :=
  (if obj.parmbuf then [.freed obj .parmbuf] else []) ++
    (if obj.rsp then [.freed obj .rsp] else []) ++ [.freed obj .obj]

/-- The buffer of a command for `CMD_SET_DRV_EXTRA` is freed. -/
def freeExtra (obj : CmdObj) : List Out :=
  if obj.cmdcode = cmdSetDrvExtra ∧ obj.pbuf = true then [.freed obj .pbuf] else []

/-- `rtw_sctx_done_err`, which clears `sctx`. -/
def rtwSctxDoneErr (obj : CmdObj) : List Out := if obj.sctx then [.signalled obj] else []

/-- `rtw_disassoc_cmd_callback`; whether `res` is `H2C_SUCCESS`. -/
def rtwDisassocCmdCallback (obj : CmdObj) (success : Bool) : List Out :=
  if success then rtwFreeCmdObj obj else []

/-- From `post_process` on; whether `res` is `H2C_SUCCESS`. -/
def postProcess (obj : CmdObj) (success : Bool) : List Out :=
  rtwSctxDoneErr obj ++
    match wlancmds[obj.cmdcode]? with
    | some ⟨_, some .disassoc⟩ => rtwDisassocCmdCallback obj success
    | _ => rtwFreeCmdObj obj

/-! ### The queue and the thread -/

/-- Where `rtw_cmd_thread` is. -/
inductive Pc
  /-- There is no thread, or it has left. -/
  | stopped
  /-- At `_rtw_down_sema`. -/
  | wait
  | woken
  /-- At the label `_next`. -/
  | next
  /-- A command is taken from the queue. -/
  | taken (obj : CmdObj)
  /-- Behind the loop. -/
  | leaving
  /-- In the loop that frees all commands. -/
  | drain
  | dropping (obj : CmdObj)
deriving DecidableEq

/-- `cmd_priv`, and the commands that callers of `rtw_enqueue_cmd` are about to queue. -/
structure CmdPriv where
  cmdQueue : List CmdObj := []
  cmdQueueSema : ℕ := 0
  cmdthdRunning : Bool := false
  pc : Pc := .stopped
  pending : List CmdObj := []
  /-- The callers that have queued a command and are about to raise the semaphore. -/
  raising : ℕ := 0
  /-- The number of the next allocation. -/
  nextId : ℕ := 0

/-- `rtw_cmd_filter`. -/
def rtwCmdFilter (s : CmdPriv) (hwInitCompleted : Bool) (obj : CmdObj) : Bool :=
  s.cmdthdRunning && (hwInitCompleted || obj.cmdcode == cmdSetChanplan || obj.noIo)

/-- `rtw_enqueue_cmd` as far as the lock of the queue. -/
def rtwEnqueueCmd (s : CmdPriv) (hwInitCompleted : Bool) (obj : CmdObj) : CmdPriv × List Out :=
  let obj := { obj with id := s.nextId }
  let s := { s with nextId := s.nextId + 1 }
  if rtwCmdFilter s hwInitCompleted obj = false ∨ maxCmdsz < obj.cmdsz then
    (s, freeExtra obj ++ rtwFreeCmdObj obj)
  else ({ s with pending := s.pending ++ [obj] }, [])

/-- `_rtw_enqueue_cmd` of one of the callers. -/
def rtwEnqueueCmdTail (s : CmdPriv) (i : ℕ) : CmdPriv × List Out :=
  match s.pending[i]? with
  | none => (s, [])
  | some obj =>
      ({ s with
          pending := s.pending.eraseIdx i
          cmdQueue := s.cmdQueue ++ [obj]
          raising := s.raising + 1 }, [.queued obj])

/-- `_rtw_up_sema` of one of the callers, with which it returns. -/
def rtwEnqueueCmdUp (s : CmdPriv) : CmdPriv :=
  if s.raising = 0 then s
  else { s with raising := s.raising - 1, cmdQueueSema := s.cmdQueueSema + 1 }

/-- What the thread finds at a step. -/
structure TurnEnv where
  /-- `_rtw_down_sema` is interrupted. -/
  downFails : Bool
  /-- `RTW_CANNOT_RUN`. -/
  cannotRun : Bool
  hwInitCompleted : Bool
  /-- `rtw_register_cmd_alive` succeeds. -/
  alive : Bool
  /-- The handler gives `H2C_SUCCESS`. -/
  success : Bool

/-- The handler of a command, if there is one and the command has a good size. -/
def canHandle (obj : CmdObj) : Bool :=
  decide (obj.cmdsz ≤ maxCmdsz) && (wlancmds[obj.cmdcode]?.map RtwCmd.cmdHdl).getD false

/-- What the thread does with a command that it has taken. -/
def handleCmd (s : CmdPriv) (env : TurnEnv) (obj : CmdObj) : CmdPriv × List Out :=
  if canHandle obj = false then ({ s with pc := .next }, postProcess obj false)
  else if rtwCmdFilter s env.hwInitCompleted obj = false then
    ({ s with pc := .next }, freeExtra obj ++ postProcess obj false)
  else if obj.noIo = false ∧ env.alive = false then
    -- `H2C_ENQ_HEAD`
    ({ s with pc := .wait, cmdQueue := obj :: s.cmdQueue }, [])
  else ({ s with pc := .next }, .executed obj :: freeExtra obj ++ postProcess obj env.success)

/-- A step of `rtw_cmd_thread`. -/
def threadTurn (s : CmdPriv) (env : TurnEnv) : CmdPriv × List Out :=
  match s.pc with
  | .stopped => (s, [])
  | .wait =>
      if env.downFails then ({ s with pc := .leaving }, [])
      else if s.cmdQueueSema = 0 then (s, [])
      else ({ s with pc := .woken, cmdQueueSema := s.cmdQueueSema - 1 }, [])
  | .woken =>
      if env.cannotRun then ({ s with pc := .leaving }, [])
      else if s.cmdQueue = [] then ({ s with pc := .wait }, [])
      else ({ s with pc := .next }, [])
  | .next =>
      if env.cannotRun then ({ s with pc := .leaving }, [])
      else
        match s.cmdQueue with
        | [] => ({ s with pc := .wait }, [])
        | obj :: queue => ({ s with pc := .taken obj, cmdQueue := queue }, [])
  | .taken obj => handleCmd s env obj
  | .leaving => ({ s with pc := .drain, cmdthdRunning := false }, [])
  | .drain =>
      match s.cmdQueue with
      | [] => ({ s with pc := .stopped }, [])
      | obj :: queue => ({ s with pc := .dropping obj, cmdQueue := queue }, [])
  | .dropping obj =>
      ({ s with pc := .drain }, freeExtra obj ++ rtwSctxDoneErr obj ++ rtwFreeCmdObj obj)

/-- The steps of the callers and of the thread, in any order. -/
inductive CmdEvent
  /-- A caller is in `rtw_enqueue_cmd` as far as the lock of the queue. -/
  | enqueue (hwInitCompleted : Bool) (obj : CmdObj)
  /-- A caller that is there goes on. -/
  | enqueueTail (i : ℕ)
  /-- A caller that has queued its command goes on. -/
  | enqueueUp
  /-- `_rtw_up_sema`, of `rtw_stop_cmd_thread` or others. -/
  | upSema
  /-- `rtw_cmd_thread` is started. -/
  | start
  | turn (env : TurnEnv)

/-- One step. -/
def cmdStep (s : CmdPriv) : CmdEvent → CmdPriv × List Out
  | .enqueue hwInitCompleted obj => rtwEnqueueCmd s hwInitCompleted obj
  | .enqueueTail i => rtwEnqueueCmdTail s i
  | .enqueueUp => (rtwEnqueueCmdUp s, [])
  | .upSema => ({ s with cmdQueueSema := s.cmdQueueSema + 1 }, [])
  | .start =>
      if s.pc = .stopped then ({ s with pc := .wait, cmdthdRunning := true }, []) else (s, [])
  | .turn env => threadTurn s env

end Rtl8723du.Cmd
