import HexrotPxiCom.CircularBuffer
import HexrotPxiCom.Lib.MsgQueue

/-!
# The command and telemetry server

`cmdTlmServer.c` with what it uses of `tcpServer.c`. The answers of the sockets and of the
message queues, and what the uninitialised locals hold, come from outside; what the
threads do to the outside is kept in a trace.
-/

namespace HexrotPxiCom.CmdTlmServer

set_option autoImplicit false

open CircularBuffer

universe u

inductive ServerStatus where
  | disconnected
  | connected
  | exit
  deriving Repr, DecidableEq

/-- `serverInfo_t`. A message queue that is not open is `none`. -/
structure ServerInfo where
  sizeMsgTlm : Nat
  socketListen : Int
  socketConnect : Int
  isReadyServer : Bool
  isReadyTlm : Bool
  isCloseConnDetected : Bool
  serverStatus : ServerStatus
  msgQueueCmdStatus : Option (MsgQueue CommandStatus)
  pMsgCmdStatus : Option CommandStatus
  msgQueueTlm : Option (MsgQueue (List UInt8))
  pMsgTlm : Option (List UInt8)
  isCommander : Bool
  cmdMsgBuffer : CircularBuf

/-- `cmdTlmServer_init`, where the socket and the queues are there; `pMsgTlm` has room for
two messages. -/
def ServerInfo.init (sizeMsgTlm : Nat) (socketListen : Int) (maxNumQueueTlm : Nat)
    (cmdMsgBuffer : CircularBuf) : ServerInfo where
  sizeMsgTlm := sizeMsgTlm
  socketListen := socketListen
  socketConnect := -1
  isReadyServer := false
  isReadyTlm := false
  isCloseConnDetected := false
  serverStatus := .disconnected
  msgQueueCmdStatus := some (.empty 4)
  pMsgCmdStatus := some default
  msgQueueTlm := some (.empty maxNumQueueTlm)
  pMsgTlm := some (List.replicate (2 * sizeMsgTlm) 0)
  isCommander := false
  cmdMsgBuffer := cmdMsgBuffer

/-- What the threads do to the outside: the calls on sockets and queues, the checks and puts
of commands, and the call of `cmdTlmServer_close`. -/
inductive Event where
  | accept (fd : Int)
  | connect
  | recvZero
  | recv (bytes : List UInt8)
  | check (cmdMsg : CommandStream) (isCommander : Bool)
  | put (cmdMsg : CommandStream)
  | notOK (cmdStatus : CommandStatus) (error : Int)
  | close (fd : Int)
  | sendCmdStatus (fd : Int) (msg : CommandStatus) (error : Int)
  | sendTlm (fd : Int) (msg : List UInt8) (error : Int)
  | closeServer
  deriving DecidableEq

/-- What one `recv` takes: at most as many bytes as the structure has, 0 at the end. -/
def Segment : Type := { bytes : List UInt8 // bytes.length ≤ sizeofCommandStream }

/-- The answers to one turn of the loop of `cmdTlmServer_run`, and the bytes of its locals. -/
structure RunEnv where
  pollAccept : Int := 1
  accept : Int := -1
  setsockopt : Int := 0
  poll : Int := 1
  recv : Option Segment := none
  mqSend : Bool := true
  cmdMsg : Vector UInt8 sizeofCommandStream := default
  cmdStatus : CommandStatus := default

/-- The answers to one turn of the loop of `cmdTlmServer_sendTlmAndCmdStatus`. -/
structure TlmEnv where
  mqReceiveCmdStatus : Bool := true
  sendCmdStatus : Int := 1
  mqReceiveTlm : Bool := true
  sendTlm : Int := 1

/-- `tcpServer_accept`, by the answers of `poll` and `accept`. -/
def tcpServerAccept (numEvent accept : Int) : Int :=
  let socketConnect := if numEvent = 0 ∨ numEvent = -1 then -1 else accept
  if socketConnect < 0 ∨ numEvent ≤ 0 then -1 else socketConnect

/-- The memory after its first bytes are overwritten. -/
def overwrite (bytes memory : List UInt8) : List UInt8 := bytes ++ memory.drop bytes.length

/-- `strncpy`, where `src` is what stands before the NUL. -/
def strncpy (n : Nat) (src : List UInt8) : Vector UInt8 n := Vector.ofFn fun i => src.getD i 0

def cString (s : String) : List UInt8 := s.toList.map fun c => UInt8.ofNat c.toNat

/-- `mq_send`; a queue that is full or not open takes nothing. -/
def mqSend {α : Type u} (ok : Bool) (queue : Option (MsgQueue α)) (msg : α) :
    Int × Option (MsgQueue α) :=
  match (if ok then queue else none).bind fun q => q.send msg with
  | some q => (0, some q)
  | none => (-1, queue)

/-- `mq_receive`. -/
def mqReceive {α : Type u} (ok : Bool) (queue : Option (MsgQueue α)) : Option (α × MsgQueue α) :=
  (if ok then queue else none).bind MsgQueue.receive

/-- `cmdTlmServer_recv`: its result, and the bytes of `cmdMsg` afterwards. -/
def recv (env : RunEnv) : Int × List UInt8 :=
  if env.poll ≤ 0 then (-1, env.cmdMsg.toList)
  else
    match env.recv with
    | none => (-1, env.cmdMsg.toList)
    | some bytes => (bytes.val.length, overwrite bytes.val env.cmdMsg.toList)

/-- `cmdTlmServer_isCmdAuthorized`: its result, and `*pCmdStatus` afterwards. -/
def isCmdAuthorized (cmdStatus : CommandStatus) (cmdMsg : CommandStream) (isCommander : Bool) :
    Bool × CommandStatus :=
  let isAuthorized := true
  let reasonCmdFail := ""
  let (isAuthorized, reasonCmdFail) :=
    if isAuthorized && !(cmdMsg.commander == Commander.gui.toUInt32 ||
        cmdMsg.commander == Commander.csc.toUInt32) then
      (false, "Unrecognized commander; must be one of GUI or CSC")
    else (isAuthorized, reasonCmdFail)
  let (isAuthorized, reasonCmdFail) :=
    if isAuthorized && !isCommander && cmdMsg.commander == Commander.csc.toUInt32 then
      (false, "The CSC is not the commander")
    else (isAuthorized, reasonCmdFail)
  if !isAuthorized then
    (isAuthorized, {
      header := { cmdStatus.header with
        frameId := FrameId.cmdStatus.toUInt32
        counter := cmdMsg.counter }
      cmdStatus := CmdStatus.notOK.toUInt32
      duration := 0
      reason := (strncpy lengthCmdStatusReason (cString reasonCmdFail)).set
        (lengthCmdStatusReason - 1) 0 (by decide) })
  else (isAuthorized, cmdStatus)

namespace ServerInfo

/-- `cmdTlmServer_sendCmdStatusToMsgQueue`, with the bytes of its local. -/
def sendCmdStatusToMsgQueue (ok : Bool) (cmdStatusSend : CommandStatus)
    (counter cmdStatus : UInt32) (duration : UInt64) (pReason : List UInt8) (info : ServerInfo) :
    Int × ServerInfo :=
  let cmdStatusSend : CommandStatus :=
    { header := { cmdStatusSend.header with
        frameId := FrameId.cmdStatus.toUInt32
        counter := counter }
      cmdStatus := cmdStatus
      duration := duration
      reason := (strncpy lengthCmdStatusReason pReason).set (lengthCmdStatusReason - 1) 0
        (by decide) }
  let r := mqSend ok info.msgQueueCmdStatus cmdStatusSend
  (r.1, { info with msgQueueCmdStatus := r.2 })

/-- `cmdTlmServer_sendTlmToMsgQueue`; the queue takes no message above its message size. -/
def sendTlmToMsgQueue (ok : Bool) (msg : List UInt8) (info : ServerInfo) : Int × ServerInfo :=
  let r := mqSend (ok && decide (msg.length ≤ info.sizeMsgTlm)) info.msgQueueTlm msg
  (r.1, { info with msgQueueTlm := r.2 })

end ServerInfo

/-- Where a thread is: in the wait before its loop, in the loop or after it. -/
inductive ThreadState where
  | startWait
  | loop
  | done
  deriving Repr, DecidableEq

/-- Where the caller of `cmdTlmServer_close` is. -/
inductive CloseState where
  | notCalled
  | joinTlm
  | clearServer
  | joinServer
  | basicClose
  | closed
  deriving Repr, DecidableEq

/-- The server information, the locals that the two threads keep between their turns, and
what has happened. -/
structure Server where
  info : ServerInfo
  server : ThreadState
  fdsFd : Int
  tlm : ThreadState
  lastServerStatus : ServerStatus
  closing : CloseState
  trace : List Event

namespace Server

/-- `cmdTlmServer_runInNewThread` has returned 0; `fds.fd` is not set yet. -/
def start (fdsFd : Int) (info : ServerInfo) : Server where
  info := { info with isReadyServer := true, isReadyTlm := true }
  server := .startWait
  fdsFd := fdsFd
  tlm := .startWait
  lastServerStatus := .disconnected
  closing := .notCalled
  trace := []

def emit (e : Event) (s : Server) : Server := { s with trace := s.trace ++ [e] }

def closeConn (s : Server) : Server :=
  { s.emit (.close s.info.socketConnect) with
    info := { s.info with socketConnect := -1, serverStatus := .disconnected }
    fdsFd := -1 }

def closeSocketConnect (s : Server) : Server :=
  if s.info.socketConnect ≠ -1 then
    { s.emit (.close s.info.socketConnect) with info := { s.info with socketConnect := -1 } }
  else s

def closeSocketListen (s : Server) : Server :=
  if s.info.socketListen ≠ -1 then
    { s.emit (.close s.info.socketListen) with info := { s.info with socketListen := -1 } }
  else s

def closeMsgQueueTlm (s : Server) : Server :=
  if s.info.pMsgTlm ≠ none then
    { s with info := { s.info with pMsgTlm := none, msgQueueTlm := none } }
  else s

def closeMsgQueueCmdStatus (s : Server) : Server :=
  if s.info.pMsgCmdStatus ≠ none then
    { s with info := { s.info with pMsgCmdStatus := none, msgQueueCmdStatus := none } }
  else s

/-- `cmdTlmServer_basicClose`, block by block. -/
def basicClose (s : Server) : Server :=
  s.closeSocketConnect.closeSocketListen.closeMsgQueueTlm.closeMsgQueueCmdStatus

/-- `case ServerStatus_Disconnected` of `cmdTlmServer_run`. -/
def acceptConn (env : RunEnv) (s : Server) : Server :=
  let fd := tcpServerAccept env.pollAccept env.accept
  let s := { s with info := { s.info with socketConnect := fd } }
  if fd = -1 then s
  else
    let s := s.emit (.accept fd)
    if env.setsockopt = -1 then s.closeConn
    else
      { s.emit .connect with
        info := { s.info with serverStatus := .connected }
        fdsFd := fd }

/-- A command that has been received in `cmdTlmServer_run`; no value where
`circular_buf_put` has none. -/
def handleCmd (env : RunEnv) (cmdMsg : CommandStream) (s : Server) : Option Server :=
  let a := isCmdAuthorized env.cmdStatus cmdMsg s.info.isCommander
  let s := s.emit (.check cmdMsg s.info.isCommander)
  if a.1 then
    (circularBufPut s.info.cmdMsgBuffer cmdMsg).map fun r =>
      { s.emit (.put cmdMsg) with info := { s.info with cmdMsgBuffer := r.2 } }
  else
    let r := mqSend env.mqSend s.info.msgQueueCmdStatus a.2
    some { s.emit (.notOK a.2 r.1) with info := { s.info with msgQueueCmdStatus := r.2 } }

/-- `case ServerStatus_Connected` of `cmdTlmServer_run`. -/
def lookForCmd (env : RunEnv) (s : Server) : Option Server :=
  if s.info.isCloseConnDetected then some s.closeConn
  else
    let r := recv env
    if r.1 < 0 then some s
    else if r.1 = 0 then some (s.emit .recvZero).closeConn
    else (s.emit (.recv (r.2.take r.1.toNat))).handleCmd env (CommandStream.ofBytes r.2)

/-- One turn of `cmdTlmServer_run`. -/
def run (env : RunEnv) (s : Server) : Option Server :=
  match s.server with
  | .startWait => some (if s.info.isReadyServer then { s with server := .loop } else s)
  | .loop =>
    if s.info.isReadyServer then
      match s.info.serverStatus with
      | .disconnected => some (s.acceptConn env)
      | .connected => s.lookForCmd env
      | .exit => some s
    else
      let s := s.basicClose
      some { s with info := { s.info with serverStatus := .exit }, server := .done }
  | .done => none

def sendLastCmdStateInMsgQueue (env : TlmEnv) (s : Server) : Int × Server :=
  match mqReceive env.mqReceiveCmdStatus s.info.msgQueueCmdStatus with
  | none => (0, s)
  | some (msg, queue) =>
    let s := { s with
      info := { s.info with msgQueueCmdStatus := some queue, pMsgCmdStatus := some msg } }
    if s.info.serverStatus = .connected then
      (if env.sendCmdStatus < 0 then -1 else 0,
        s.emit (.sendCmdStatus s.info.socketConnect msg env.sendCmdStatus))
    else (0, s)

/-- `cmdTlmServer_sendLastTlmInMsgQueue`; the message lies in front of the old bytes of the
buffer. -/
def sendLastTlmInMsgQueue (env : TlmEnv) (s : Server) : Int × Server :=
  match mqReceive env.mqReceiveTlm s.info.msgQueueTlm with
  | none => (0, s)
  | some (msg, queue) =>
    let buffer := overwrite msg (s.info.pMsgTlm.getD [])
    let s := { s with info := { s.info with msgQueueTlm := some queue, pMsgTlm := some buffer } }
    if 0 < msg.length ∧ s.info.serverStatus = .connected then
      (if env.sendTlm < 0 then -1 else 0,
        s.emit (.sendTlm s.info.socketConnect (buffer.take msg.length) env.sendTlm))
    else (0, s)

/-- The head of the loop of `cmdTlmServer_sendTlmAndCmdStatus`. -/
def updateLastServerStatus (s : Server) : Server :=
  let s :=
    if s.lastServerStatus = .disconnected ∧ s.info.serverStatus = .connected then
      { s with info := { s.info with isCloseConnDetected := false } }
    else s
  { s with lastServerStatus := s.info.serverStatus }

/-- One turn of the loop of `cmdTlmServer_sendTlmAndCmdStatus`. -/
def tlmTurn (env : TlmEnv) (s : Server) : Server :=
  let s := s.updateLastServerStatus
  let (error, s) :=
    if !s.info.isCloseConnDetected then s.sendLastCmdStateInMsgQueue env else (0, s)
  let (error, s) :=
    if !s.info.isCloseConnDetected && error == 0 then s.sendLastTlmInMsgQueue env else (error, s)
  if error = -1 then { s with info := { s.info with isCloseConnDetected := true } } else s

/-- One turn of `cmdTlmServer_sendTlmAndCmdStatus`. -/
def sendTlmAndCmdStatus (env : TlmEnv) (s : Server) : Option Server :=
  match s.tlm with
  | .startWait => some (if s.info.isReadyTlm then { s with tlm := .loop } else s)
  | .loop => some (if s.info.isReadyTlm then s.tlmTurn env else { s with tlm := .done })
  | .done => none

/-- One step of `cmdTlmServer_close`, where the joins succeed. -/
def close (s : Server) : Option Server :=
  match s.closing with
  | .notCalled =>
    let s := s.emit .closeServer
    if s.info.isReadyTlm then
      some { s with info := { s.info with isReadyTlm := false }, closing := .joinTlm }
    else some { s with closing := .clearServer }
  | .joinTlm => if s.tlm = .done then some { s with closing := .clearServer } else none
  | .clearServer =>
    if s.info.isReadyServer then
      some { s with info := { s.info with isReadyServer := false }, closing := .joinServer }
    else some { s with closing := .basicClose }
  | .joinServer => if s.server = .done then some { s with closing := .basicClose } else none
  | .basicClose => some { s.basicClose with closing := .closed }
  | .closed => none

/-- `circular_buf_get` by the consumer of the commands. -/
def getCmd (data : CommandStream) (s : Server) : Option Server :=
  (circularBufGet s.info.cmdMsgBuffer data).map fun r =>
    { s with info := { s.info with cmdMsgBuffer := r.2.2 } }

end Server

/-- One step: a turn of one of the two threads, or a call by another thread. -/
inductive Action where
  | run (env : RunEnv)
  | tlm (env : TlmEnv)
  | sendCmdStatus (ok : Bool) (cmdStatusSend : CommandStatus) (counter cmdStatus : UInt32)
    (duration : UInt64) (pReason : List UInt8)
  | sendTlm (ok : Bool) (msg : List UInt8)
  | getCmd (data : CommandStream)
  | setCommander (isCommander : Bool)
  | close

def Server.step (s : Server) : Action → Option Server
  | .run env => s.run env
  | .tlm env => s.sendTlmAndCmdStatus env
  | .sendCmdStatus ok cmdStatusSend counter cmdStatus duration pReason =>
    some { s with
      info := (s.info.sendCmdStatusToMsgQueue ok cmdStatusSend counter cmdStatus duration
        pReason).2 }
  | .sendTlm ok msg => some { s with info := (s.info.sendTlmToMsgQueue ok msg).2 }
  | .getCmd data => s.getCmd data
  | .setCommander isCommander => some { s with info := { s.info with isCommander := isCommander } }
  | .close => s.close

/-- A server with a buffer for two commands, for the runs on fixed inputs. -/
def started : Server :=
  .start 0 (.init 64 3 10 ⟨[default, default, default], 0, 0, 3⟩)

end HexrotPxiCom.CmdTlmServer
