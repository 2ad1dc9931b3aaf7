import HexrotPxiCom.Interface.ServerSteps
import HexrotPxiCom.Lib.Runs

/-!
# The threads of the server, step by step

Every access of `cmdTlmServer_run` and `cmdTlmServer_sendTlmAndCmdStatus` to the shared
`serverInfo_t` and every call on a socket or a queue is one step. A thread that runs alone
takes the turns of `Server.run` and `Server.sendTlmAndCmdStatus`.
-/

namespace HexrotPxiCom.CmdTlmServer

set_option autoImplicit false

open CircularBuffer

/-- Where the server thread is in its loop, with what its locals hold. -/
inductive ServerPc where
  | loopTest
  | accept
  | setsockopt
  | setConnected
  | testFlag
  | recv
  | check (cmdMsg : CommandStream)
  | put (cmdMsg : CommandStream)
  | mqSend (cmdStatus : CommandStatus)
  | closeSocket
  | clearSocket
  | setDisconnected
  | setExit
  deriving DecidableEq

/-- Where the telemetry thread is in its loop; a number is `bytesReceived`. -/
inductive TlmPc where
  | loopTest
  | testEdge
  | clearFlag
  | setLast
  | testFlag
  | receive
  | testConnected
  | send
  | testFlagTlm
  | receiveTlm
  | testConnectedTlm (bytesReceived : Nat)
  | sendTlm (bytesReceived : Nat)
  | setFlag
  deriving Repr, DecidableEq

/-- The server with its two threads inside their turns. Connections are numbered as they are
accepted, and one is current from its `accept` to its `close`. `origins` says for each command
status in the queue which connection was current when it was put there, `inHand` says it for
the one in `pMsgCmdStatus`, and `sent` pairs it with the connection that it was sent to. -/
structure Threads extends Server where
  serverPc : ServerPc
  tlmPc : TlmPc
  connections : Nat
  current : Option Nat
  origins : List (Option Nat)
  inHand : Option Nat
  sent : List (Option Nat × Nat)

namespace Threads

def start (fdsFd : Int) (info : ServerInfo) : Threads where
  toServer := .start fdsFd info
  serverPc := .loopTest
  tlmPc := .loopTest
  connections := 0
  current := none
  origins := []
  inHand := none
  sent := []

/-- The origins after an `mq_send` on the queue of command statuses. -/
def posted (error : Int) (t : Threads) : List (Option Nat) :=
  if error = 0 then t.origins ++ [t.current] else t.origins

def basicClose (t : Threads) : Threads :=
  { t with
    toServer := t.toServer.basicClose
    current := none
    origins := if t.toServer.basicClose.info.msgQueueCmdStatus.isSome then t.origins else [] }

def serverStep (env : RunEnv) (t : Threads) : Option Threads :=
  match t.server with
  | .startWait => some (if t.info.isReadyServer then { t with server := .loop } else t)
  | .done => none
  | .loop =>
    match t.serverPc with
    | .loopTest =>
      if t.info.isReadyServer then
        match t.info.serverStatus with
        | .disconnected => some { t with serverPc := .accept }
        | .connected => some { t with serverPc := .testFlag }
        | .exit => some t
      else some { t.basicClose with serverPc := .setExit }
    | .accept =>
      let fd := tcpServerAccept env.pollAccept env.accept
      let t := { t with info := { t.info with socketConnect := fd } }
      if fd = -1 then some { t with serverPc := .loopTest }
      else some { t with
        toServer := t.toServer.emit (.accept fd)
        serverPc := .setsockopt
        connections := t.connections + 1
        current := some (t.connections + 1) }
    | .setsockopt =>
      if env.setsockopt = -1 then some { t with serverPc := .closeSocket }
      else some { t with serverPc := .setConnected }
    | .setConnected => some { t with
        toServer := { t.toServer.emit .connect with
          info := { t.info with serverStatus := .connected }
          fdsFd := t.info.socketConnect }
        serverPc := .loopTest }
    | .testFlag =>
      if t.info.isCloseConnDetected then some { t with serverPc := .closeSocket }
      else some { t with serverPc := .recv }
    | .recv =>
      let r := CmdTlmServer.recv env
      if r.1 < 0 then some { t with serverPc := .loopTest }
      else if r.1 = 0 then
        some { t with toServer := t.toServer.emit .recvZero, serverPc := .closeSocket }
      else some { t with
        toServer := t.toServer.emit (.recv (r.2.take r.1.toNat))
        serverPc := .check (CommandStream.ofBytes r.2) }
    | .check cmdMsg =>
      let a := isCmdAuthorized env.cmdStatus cmdMsg t.info.isCommander
      let t := { t with toServer := t.toServer.emit (.check cmdMsg t.info.isCommander) }
      if a.1 then some { t with serverPc := .put cmdMsg }
      else some { t with serverPc := .mqSend a.2 }
    | .put cmdMsg =>
      (circularBufPut t.info.cmdMsgBuffer cmdMsg).map fun r =>
        { t with
          toServer := { t.toServer.emit (.put cmdMsg) with
            info := { t.info with cmdMsgBuffer := r.2 } }
          serverPc := .loopTest }
    | .mqSend cmdStatus =>
      let r := CmdTlmServer.mqSend env.mqSend t.info.msgQueueCmdStatus cmdStatus
      some { t with
        toServer := { t.toServer.emit (.notOK cmdStatus r.1) with
          info := { t.info with msgQueueCmdStatus := r.2 } }
        serverPc := .loopTest
        origins := t.posted r.1 }
    | .closeSocket => some { t with
        toServer := t.toServer.emit (.close t.info.socketConnect)
        serverPc := .clearSocket
        current := none }
    | .clearSocket => some { t with
        info := { t.info with socketConnect := -1 }
        fdsFd := -1
        serverPc := .setDisconnected }
    | .setDisconnected => some { t with
        info := { t.info with serverStatus := .disconnected }
        serverPc := .loopTest }
    | .setExit => some { t with
        info := { t.info with serverStatus := .exit }
        server := .done }

def tlmStep (env : TlmEnv) (t : Threads) : Option Threads :=
  match t.tlm with
  | .startWait => some (if t.info.isReadyTlm then { t with tlm := .loop } else t)
  | .done => none
  | .loop =>
    match t.tlmPc with
    | .loopTest =>
      if t.info.isReadyTlm then some { t with tlmPc := .testEdge } else some { t with tlm := .done }
    | .testEdge =>
      if t.lastServerStatus = .disconnected ∧ t.info.serverStatus = .connected then
        some { t with tlmPc := .clearFlag }
      else some { t with tlmPc := .setLast }
    | .clearFlag => some { t with
        info := { t.info with isCloseConnDetected := false }
        tlmPc := .setLast }
    | .setLast => some { t with
        lastServerStatus := t.info.serverStatus
        tlmPc := .testFlag }
    | .testFlag =>
      if !t.info.isCloseConnDetected then some { t with tlmPc := .receive }
      else some { t with tlmPc := .testFlagTlm }
    | .receive =>
      match mqReceive env.mqReceiveCmdStatus t.info.msgQueueCmdStatus with
      | none => some { t with tlmPc := .testFlagTlm }
      | some (msg, queue) => some { t with
          info := { t.info with msgQueueCmdStatus := some queue, pMsgCmdStatus := some msg }
          tlmPc := .testConnected
          origins := t.origins.tail
          inHand := t.origins.head?.join }
    | .testConnected =>
      if t.info.serverStatus = .connected then some { t with tlmPc := .send }
      else some { t with tlmPc := .testFlagTlm }
    | .send => some { t with
        toServer := t.toServer.emit (.sendCmdStatus t.info.socketConnect
          (t.info.pMsgCmdStatus.getD default) env.sendCmdStatus)
        tlmPc := if env.sendCmdStatus < 0 then .setFlag else .testFlagTlm
        sent := t.sent ++ (t.current.map fun c => (t.inHand, c)).toList }
    | .testFlagTlm =>
      if !t.info.isCloseConnDetected then some { t with tlmPc := .receiveTlm }
      else some { t with tlmPc := .loopTest }
    | .receiveTlm =>
      match mqReceive env.mqReceiveTlm t.info.msgQueueTlm with
      | none => some { t with tlmPc := .loopTest }
      | some (msg, queue) => some { t with
          info := { t.info with
            msgQueueTlm := some queue
            pMsgTlm := some (overwrite msg (t.info.pMsgTlm.getD [])) }
          tlmPc := .testConnectedTlm msg.length }
    | .testConnectedTlm n =>
      if 0 < n ∧ t.info.serverStatus = .connected then some { t with tlmPc := .sendTlm n }
      else some { t with tlmPc := .loopTest }
    | .sendTlm n => some { t with
        toServer := t.toServer.emit (.sendTlm t.info.socketConnect
          ((t.info.pMsgTlm.getD []).take n) env.sendTlm)
        tlmPc := if env.sendTlm < 0 then .setFlag else .loopTest }
    | .setFlag => some { t with
        info := { t.info with isCloseConnDetected := true }
        tlmPc := .loopTest }

def step (t : Threads) : Action → Option Threads
  | .run env => t.serverStep env
  | .tlm env => t.tlmStep env
  | .sendCmdStatus ok cmdStatusSend counter cmdStatus duration pReason =>
    let r := t.info.sendCmdStatusToMsgQueue ok cmdStatusSend counter cmdStatus duration pReason
    some { t with info := r.2, origins := t.posted r.1 }
  | .sendTlm ok msg => some { t with info := (t.info.sendTlmToMsgQueue ok msg).2 }
  | .getCmd data => (t.toServer.getCmd data).map fun s => { t with toServer := s }
  | .setCommander isCommander => some { t with info := { t.info with isCommander := isCommander } }
  | .close =>
    if t.closing = .basicClose then some { t.basicClose with closing := .closed }
    else t.toServer.close.map fun s => { t with toServer := s }

/-- What a step of the server thread does. -/
inductive ServerStep (env : RunEnv) (t : Threads) : Threads → Prop where
  | wait (hserver : t.server = .startWait) :
      ServerStep env t (if t.info.isReadyServer then { t with server := .loop } else t)
  | toAccept (hserver : t.server = .loop) (hpc : t.serverPc = .loopTest)
      (hstatus : t.info.serverStatus = .disconnected) :
      ServerStep env t { t with serverPc := .accept }
  | toTestFlag (hserver : t.server = .loop) (hpc : t.serverPc = .loopTest)
      (hstatus : t.info.serverStatus = .connected) :
      ServerStep env t { t with serverPc := .testFlag }
  | exited (hserver : t.server = .loop) (hpc : t.serverPc = .loopTest)
      (hstatus : t.info.serverStatus = .exit) : ServerStep env t t
  | basicClose (hserver : t.server = .loop) (hpc : t.serverPc = .loopTest)
      (hready : t.info.isReadyServer = false) :
      ServerStep env t { t.basicClose with serverPc := .setExit }
  | noClient (hserver : t.server = .loop) (hpc : t.serverPc = .accept) :
      ServerStep env t { t with
        info := { t.info with socketConnect := -1 }
        serverPc := .loopTest }
  | accept (fd : Int) (hserver : t.server = .loop) (hpc : t.serverPc = .accept)
      (hfd : tcpServerAccept env.pollAccept env.accept = fd) (hne : fd ≠ -1) :
      ServerStep env t { t with
        toServer := { t.toServer with
          info := { t.info with socketConnect := fd } }.emit (.accept fd)
        serverPc := .setsockopt
        connections := t.connections + 1
        current := some (t.connections + 1) }
  | refused (hserver : t.server = .loop) (hpc : t.serverPc = .setsockopt) :
      ServerStep env t { t with serverPc := .closeSocket }
  | toSetConnected (hserver : t.server = .loop) (hpc : t.serverPc = .setsockopt) :
      ServerStep env t { t with serverPc := .setConnected }
  | setConnected (hserver : t.server = .loop) (hpc : t.serverPc = .setConnected) :
      ServerStep env t { t with
        toServer := { t.toServer.emit .connect with
          info := { t.info with serverStatus := .connected }
          fdsFd := t.info.socketConnect }
        serverPc := .loopTest }
  | detected (hserver : t.server = .loop) (hpc : t.serverPc = .testFlag)
      (hflag : t.info.isCloseConnDetected = true) :
      ServerStep env t { t with serverPc := .closeSocket }
  | toRecv (hserver : t.server = .loop) (hpc : t.serverPc = .testFlag)
      (hflag : t.info.isCloseConnDetected = false) : ServerStep env t { t with serverPc := .recv }
  | nothing (hserver : t.server = .loop) (hpc : t.serverPc = .recv) :
      ServerStep env t { t with serverPc := .loopTest }
  | ended (hserver : t.server = .loop) (hpc : t.serverPc = .recv) :
      ServerStep env t { t with
        toServer := t.toServer.emit .recvZero
        serverPc := .closeSocket }
  | recv (hserver : t.server = .loop) (hpc : t.serverPc = .recv)
      (hpos : 0 < (CmdTlmServer.recv env).1) :
      ServerStep env t { t with
        toServer := t.toServer.emit
          (.recv ((CmdTlmServer.recv env).2.take (CmdTlmServer.recv env).1.toNat))
        serverPc := .check (CommandStream.ofBytes (CmdTlmServer.recv env).2) }
  | permit (cmdMsg : CommandStream) (hserver : t.server = .loop)
      (hpc : t.serverPc = .check cmdMsg)
      (hauth : (isCmdAuthorized env.cmdStatus cmdMsg t.info.isCommander).1 = true) :
      ServerStep env t { t with
        toServer := t.toServer.emit (.check cmdMsg t.info.isCommander)
        serverPc := .put cmdMsg }
  | reject (cmdMsg : CommandStream) (cmdStatus : CommandStatus) (hserver : t.server = .loop)
      (hpc : t.serverPc = .check cmdMsg)
      (hauth : isCmdAuthorized env.cmdStatus cmdMsg t.info.isCommander = (false, cmdStatus)) :
      ServerStep env t { t with
        toServer := t.toServer.emit (.check cmdMsg t.info.isCommander)
        serverPc := .mqSend cmdStatus }
  | put (cmdMsg : CommandStream) (r : Bool × CircularBuf) (hserver : t.server = .loop)
      (hpc : t.serverPc = .put cmdMsg)
      (hput : circularBufPut t.info.cmdMsgBuffer cmdMsg = some r) :
      ServerStep env t { t with
        toServer := { t.toServer.emit (.put cmdMsg) with
          info := { t.info with cmdMsgBuffer := r.2 } }
        serverPc := .loopTest }
  | mqSend (cmdStatus : CommandStatus) (hserver : t.server = .loop)
      (hpc : t.serverPc = .mqSend cmdStatus) :
      ServerStep env t { t with
        toServer := { t.toServer.emit (.notOK cmdStatus
            (CmdTlmServer.mqSend env.mqSend t.info.msgQueueCmdStatus cmdStatus).1) with
          info := { t.info with
            msgQueueCmdStatus :=
              (CmdTlmServer.mqSend env.mqSend t.info.msgQueueCmdStatus cmdStatus).2 } }
        serverPc := .loopTest
        origins := t.posted
          (CmdTlmServer.mqSend env.mqSend t.info.msgQueueCmdStatus cmdStatus).1 }
  | closeSocket (hserver : t.server = .loop) (hpc : t.serverPc = .closeSocket) :
      ServerStep env t { t with
        toServer := t.toServer.emit (.close t.info.socketConnect)
        serverPc := .clearSocket
        current := none }
  | clearSocket (hserver : t.server = .loop) (hpc : t.serverPc = .clearSocket) :
      ServerStep env t { t with
        info := { t.info with socketConnect := -1 }
        fdsFd := -1
        serverPc := .setDisconnected }
  | setDisconnected (hserver : t.server = .loop) (hpc : t.serverPc = .setDisconnected) :
      ServerStep env t { t with
        info := { t.info with serverStatus := .disconnected }
        serverPc := .loopTest }
  | setExit (hserver : t.server = .loop) (hpc : t.serverPc = .setExit) :
      ServerStep env t { t with
        info := { t.info with serverStatus := .exit }
        server := .done }

theorem serverStep_step {env : RunEnv} {t u : Threads} (hstep : t.serverStep env = some u) :
    ServerStep env t u := by
  unfold serverStep at hstep
  cases hserver : t.server <;> simp only [hserver] at hstep
  case startWait =>
    cases hstep
    exact .wait hserver
  case done => cases hstep
  case loop =>
    cases hpc : t.serverPc <;> simp only [hpc] at hstep
    case loopTest =>
      by_cases hready : t.info.isReadyServer = true
      · rw [if_pos hready] at hstep
        cases hstatus : t.info.serverStatus <;> simp only [hstatus] at hstep
        case disconnected =>
          cases hstep
          exact .toAccept hserver hpc hstatus
        case connected =>
          cases hstep
          exact .toTestFlag hserver hpc hstatus
        case exit =>
          cases hstep
          exact .exited hserver hpc hstatus
      · rw [if_neg hready] at hstep
        cases hstep
        exact .basicClose hserver hpc (Bool.eq_false_iff.mpr hready)
    case accept =>
      rw [← hserver] at hstep
      generalize hfd : tcpServerAccept env.pollAccept env.accept = fd at hstep
      by_cases hne : fd = -1
      · rw [if_pos hne] at hstep
        cases hstep
        rw [hne]
        exact .noClient hserver hpc
      · rw [if_neg hne] at hstep
        cases hstep
        exact .accept fd hserver hpc hfd hne
    case setsockopt =>
      split at hstep
      · cases hstep
        exact .refused hserver hpc
      · cases hstep
        exact .toSetConnected hserver hpc
    case setConnected =>
      cases hstep
      exact .setConnected hserver hpc
    case testFlag =>
      by_cases hflag : t.info.isCloseConnDetected = true
      · rw [if_pos hflag] at hstep
        cases hstep
        exact .detected hserver hpc hflag
      · rw [if_neg hflag] at hstep
        cases hstep
        exact .toRecv hserver hpc (Bool.eq_false_iff.mpr hflag)
    case recv =>
      by_cases hneg : (CmdTlmServer.recv env).1 < 0
      · rw [if_pos hneg] at hstep
        cases hstep
        exact .nothing hserver hpc
      · rw [if_neg hneg] at hstep
        by_cases hzero : (CmdTlmServer.recv env).1 = 0
        · rw [if_pos hzero] at hstep
          cases hstep
          exact .ended hserver hpc
        · rw [if_neg hzero] at hstep
          cases hstep
          exact .recv hserver hpc (by omega)
    case check cmdMsg =>
      cases hauth : isCmdAuthorized env.cmdStatus cmdMsg t.info.isCommander with
      | mk isAuthorized cmdStatus =>
        cases isAuthorized with
        | true =>
          simp only [hauth, if_true] at hstep
          cases hstep
          exact .permit cmdMsg hserver hpc (congrArg Prod.fst hauth)
        | false =>
          simp only [hauth, Bool.false_eq_true, if_false] at hstep
          cases hstep
          exact .reject cmdMsg cmdStatus hserver hpc hauth
    case put cmdMsg =>
      obtain ⟨r, hput, rfl⟩ := Option.map_eq_some_iff.mp hstep
      exact .put cmdMsg r hserver hpc hput
    case mqSend cmdStatus =>
      cases hstep
      exact .mqSend cmdStatus hserver hpc
    case closeSocket =>
      cases hstep
      exact .closeSocket hserver hpc
    case clearSocket | setDisconnected =>
      rw [← hserver] at hstep
      cases hstep
      constructor
      · exact hserver
      · exact hpc
    case setExit =>
      rw [← hpc] at hstep
      cases hstep
      exact .setExit hserver hpc

/-- What a step of the telemetry thread does. -/
inductive TlmStep (env : TlmEnv) (t : Threads) : Threads → Prop where
  | wait (htlm : t.tlm = .startWait) :
      TlmStep env t (if t.info.isReadyTlm then { t with tlm := .loop } else t)
  | leave (htlm : t.tlm = .loop) (hpc : t.tlmPc = .loopTest) (hready : t.info.isReadyTlm = false) :
      TlmStep env t { t with tlm := .done }
  | toTestEdge (htlm : t.tlm = .loop) (hpc : t.tlmPc = .loopTest)
      (hready : t.info.isReadyTlm = true) : TlmStep env t { t with tlmPc := .testEdge }
  | toClearFlag (htlm : t.tlm = .loop) (hpc : t.tlmPc = .testEdge)
      (hedge : t.lastServerStatus = .disconnected ∧ t.info.serverStatus = .connected) :
      TlmStep env t { t with tlmPc := .clearFlag }
  | toSetLast (htlm : t.tlm = .loop) (hpc : t.tlmPc = .testEdge)
      (hedge : ¬ (t.lastServerStatus = .disconnected ∧ t.info.serverStatus = .connected)) :
      TlmStep env t { t with tlmPc := .setLast }
  | clearFlag (htlm : t.tlm = .loop) (hpc : t.tlmPc = .clearFlag) :
      TlmStep env t { t with
        info := { t.info with isCloseConnDetected := false }
        tlmPc := .setLast }
  | setLast (htlm : t.tlm = .loop) (hpc : t.tlmPc = .setLast) :
      TlmStep env t { t with
        lastServerStatus := t.info.serverStatus
        tlmPc := .testFlag }
  | toReceive (htlm : t.tlm = .loop) (hpc : t.tlmPc = .testFlag)
      (hflag : t.info.isCloseConnDetected = false) : TlmStep env t { t with tlmPc := .receive }
  | toTestFlagTlm (htlm : t.tlm = .loop)
      (hpc : (t.tlmPc = .testFlag ∧ t.info.isCloseConnDetected = true) ∨
        (t.tlmPc = .receive ∧
          mqReceive env.mqReceiveCmdStatus t.info.msgQueueCmdStatus = none) ∨
        (t.tlmPc = .testConnected ∧ t.info.serverStatus ≠ .connected)) :
      TlmStep env t { t with tlmPc := .testFlagTlm }
  | receive (msg : CommandStatus) (queue : MsgQueue CommandStatus) (htlm : t.tlm = .loop)
      (hpc : t.tlmPc = .receive)
      (hreceive : mqReceive env.mqReceiveCmdStatus t.info.msgQueueCmdStatus = some (msg, queue)) :
      TlmStep env t { t with
        info := { t.info with msgQueueCmdStatus := some queue, pMsgCmdStatus := some msg }
        tlmPc := .testConnected
        origins := t.origins.tail
        inHand := t.origins.head?.join }
  | toSend (htlm : t.tlm = .loop) (hpc : t.tlmPc = .testConnected)
      (hstatus : t.info.serverStatus = .connected) : TlmStep env t { t with tlmPc := .send }
  | send (htlm : t.tlm = .loop) (hpc : t.tlmPc = .send) :
      TlmStep env t { t with
        toServer := t.toServer.emit (.sendCmdStatus t.info.socketConnect
          (t.info.pMsgCmdStatus.getD default) env.sendCmdStatus)
        tlmPc := if env.sendCmdStatus < 0 then .setFlag else .testFlagTlm
        sent := t.sent ++ (t.current.map fun c => (t.inHand, c)).toList }
  | toReceiveTlm (htlm : t.tlm = .loop) (hpc : t.tlmPc = .testFlagTlm)
      (hflag : t.info.isCloseConnDetected = false) : TlmStep env t { t with tlmPc := .receiveTlm }
  | toLoopTest (htlm : t.tlm = .loop)
      (hpc : (t.tlmPc = .testFlagTlm ∧ t.info.isCloseConnDetected = true) ∨
        (t.tlmPc = .receiveTlm ∧ mqReceive env.mqReceiveTlm t.info.msgQueueTlm = none) ∨
        ∃ n, t.tlmPc = .testConnectedTlm n ∧ ¬ (0 < n ∧ t.info.serverStatus = .connected)) :
      TlmStep env t { t with tlmPc := .loopTest }
  | receiveTlm (msg : List UInt8) (queue : MsgQueue (List UInt8)) (htlm : t.tlm = .loop)
      (hpc : t.tlmPc = .receiveTlm)
      (hreceive : mqReceive env.mqReceiveTlm t.info.msgQueueTlm = some (msg, queue)) :
      TlmStep env t { t with
        info := { t.info with
          msgQueueTlm := some queue
          pMsgTlm := some (overwrite msg (t.info.pMsgTlm.getD [])) }
        tlmPc := .testConnectedTlm msg.length }
  | toSendTlm (n : Nat) (htlm : t.tlm = .loop) (hpc : t.tlmPc = .testConnectedTlm n) (hpos : 0 < n)
      (hstatus : t.info.serverStatus = .connected) : TlmStep env t { t with tlmPc := .sendTlm n }
  | sendTlm (n : Nat) (htlm : t.tlm = .loop) (hpc : t.tlmPc = .sendTlm n) :
      TlmStep env t { t with
        toServer := t.toServer.emit (.sendTlm t.info.socketConnect
          ((t.info.pMsgTlm.getD []).take n) env.sendTlm)
        tlmPc := if env.sendTlm < 0 then .setFlag else .loopTest }
  | setFlag (htlm : t.tlm = .loop) (hpc : t.tlmPc = .setFlag) :
      TlmStep env t { t with
        info := { t.info with isCloseConnDetected := true }
        tlmPc := .loopTest }

theorem tlmStep_step {env : TlmEnv} {t u : Threads} (hstep : t.tlmStep env = some u) :
    TlmStep env t u := by
  unfold tlmStep at hstep
  cases htlm : t.tlm <;> simp only [htlm] at hstep
  case startWait =>
    cases hstep
    exact .wait htlm
  case done => cases hstep
  case loop =>
    cases hpc : t.tlmPc <;> simp only [hpc] at hstep
    case loopTest =>
      by_cases hready : t.info.isReadyTlm = true
      · rw [if_pos hready] at hstep
        cases hstep
        exact .toTestEdge htlm hpc hready
      · rw [if_neg hready, ← hpc] at hstep
        cases hstep
        exact .leave htlm hpc (Bool.eq_false_iff.mpr hready)
    case testEdge =>
      by_cases hedge : t.lastServerStatus = .disconnected ∧ t.info.serverStatus = .connected
      · rw [if_pos hedge] at hstep
        cases hstep
        exact .toClearFlag htlm hpc hedge
      · rw [if_neg hedge] at hstep
        cases hstep
        exact .toSetLast htlm hpc hedge
    case testFlag =>
      cases hflag : t.info.isCloseConnDetected with
      | true =>
        rw [hflag] at hstep
        cases hstep
        exact .toTestFlagTlm htlm (Or.inl ⟨hpc, hflag⟩)
      | false =>
        rw [hflag] at hstep
        cases hstep
        exact .toReceive htlm hpc hflag
    case receive =>
      split at hstep
      · rename_i hnone
        cases hstep
        exact .toTestFlagTlm htlm (Or.inr (Or.inl ⟨hpc, hnone⟩))
      · rename_i msg queue hsome
        rw [← htlm] at hstep
        cases hstep
        exact .receive msg queue htlm hpc hsome
    case testConnected =>
      by_cases hstatus : t.info.serverStatus = .connected
      · rw [if_pos hstatus] at hstep
        cases hstep
        exact .toSend htlm hpc hstatus
      · rw [if_neg hstatus] at hstep
        cases hstep
        exact .toTestFlagTlm htlm (Or.inr (Or.inr ⟨hpc, hstatus⟩))
    case testFlagTlm =>
      cases hflag : t.info.isCloseConnDetected with
      | true =>
        rw [hflag] at hstep
        cases hstep
        exact .toLoopTest htlm (Or.inl ⟨hpc, hflag⟩)
      | false =>
        rw [hflag] at hstep
        cases hstep
        exact .toReceiveTlm htlm hpc hflag
    case receiveTlm =>
      split at hstep
      · rename_i hnone
        cases hstep
        exact .toLoopTest htlm (Or.inr (Or.inl ⟨hpc, hnone⟩))
      · rename_i msg queue hsome
        rw [← htlm] at hstep
        cases hstep
        exact .receiveTlm msg queue htlm hpc hsome
    case testConnectedTlm n =>
      by_cases hsend : 0 < n ∧ t.info.serverStatus = .connected
      · rw [if_pos hsend] at hstep
        cases hstep
        exact .toSendTlm n htlm hpc hsend.1 hsend.2
      · rw [if_neg hsend] at hstep
        cases hstep
        exact .toLoopTest htlm (Or.inr (Or.inr ⟨n, hpc, hsend⟩))
    case send =>
      cases hstep
      exact .send htlm hpc
    case sendTlm n =>
      cases hstep
      exact .sendTlm n htlm hpc
    case clearFlag | setLast | setFlag =>
      rw [← htlm] at hstep
      cases hstep
      constructor
      · exact htlm
      · exact hpc

/-- The server thread is at the head of its loop or past it, and the server is `s`. -/
def ServerAt (s : Server) (t : Threads) : Prop :=
  (t.server = .done ∨ t.serverPc = .loopTest) ∧ t.toServer = s

/-- The telemetry thread is at the head of its loop or past it, and the server is `s`. -/
def TlmAt (s : Server) (t : Threads) : Prop :=
  (t.tlm = .done ∨ t.tlmPc = .loopTest) ∧ t.toServer = s

section
variable {env : RunEnv} {t : Threads} {s : Server}

theorem closeConn_ends (hserver : t.server = .loop) (hpc : t.serverPc = .closeSocket)
    (hs : t.toServer.closeConn = s) : Runs.Leads (serverStep env) (ServerAt s) t := by
  subst hs
  obtain ⟨⟨info, server, fdsFd, tlm, last, closing, trace⟩, pc, tlmPc, n, c, origins, o, sent⟩ := t
  cases hserver
  cases hpc
  exact .step rfl (.step rfl (.step rfl (.here ⟨Or.inr rfl, rfl⟩)))

theorem acceptConn_ends (hserver : t.server = .loop) (hpc : t.serverPc = .accept)
    (hs : t.toServer.acceptConn env = s) : Runs.Leads (serverStep env) (ServerAt s) t := by
  subst hs
  obtain ⟨⟨info, server, fdsFd, tlm, last, closing, trace⟩, pc, tlmPc, n, c, origins, o, sent⟩ := t
  cases hserver
  cases hpc
  unfold Server.acceptConn
  dsimp only
  split
  · rename_i hfd
    exact .step (if_pos hfd) (.here ⟨Or.inr rfl, rfl⟩)
  · rename_i hfd
    split
    · rename_i hopt
      exact .step (if_neg hfd) (.step (if_pos hopt) (closeConn_ends rfl rfl rfl))
    · rename_i hopt
      exact .step (if_neg hfd) (.step (if_neg hopt) (.step rfl (.here ⟨Or.inr rfl, rfl⟩)))

theorem handleCmd_ends {cmdMsg : CommandStream} (hserver : t.server = .loop)
    (hpc : t.serverPc = .check cmdMsg) (h : t.toServer.handleCmd env cmdMsg = some s) :
    Runs.Leads (serverStep env) (ServerAt s) t := by
  obtain ⟨⟨info, server, fdsFd, tlm, last, closing, trace⟩, pc, tlmPc, n, c, origins, o, sent⟩ := t
  cases hserver
  cases hpc
  unfold Server.handleCmd at h
  dsimp only at h
  split at h
  · rename_i hauth
    obtain ⟨r, hput, rfl⟩ := Option.map_eq_some_iff.mp h
    exact .step (if_pos hauth)
      (.step (Option.map_eq_some_iff.mpr ⟨r, hput, rfl⟩) (.here ⟨Or.inr rfl, rfl⟩))
  · rename_i hauth
    cases h
    exact .step (if_neg hauth) (.step rfl (.here ⟨Or.inr rfl, rfl⟩))

theorem lookForCmd_ends (hserver : t.server = .loop) (hpc : t.serverPc = .testFlag)
    (h : t.toServer.lookForCmd env = some s) : Runs.Leads (serverStep env) (ServerAt s) t := by
  unfold Server.lookForCmd at h
  split at h
  · rename_i hflag
    have hstep : serverStep env t = some { t with serverPc := .closeSocket } := by
      simp [serverStep, hserver, hpc, hflag]
    cases h
    exact .step hstep (closeConn_ends hserver rfl rfl)
  · rename_i hflag
    have hstep : serverStep env t = some { t with serverPc := .recv } := by
      simp [serverStep, hserver, hpc, hflag]
    dsimp only at h
    split at h
    · rename_i hneg
      have hrecv : serverStep env { t with serverPc := .recv } =
          some { t with serverPc := .loopTest } := by
        simp [serverStep, hserver, hneg]
      cases h
      exact .step hstep (.step hrecv (.here ⟨Or.inr rfl, rfl⟩))
    · rename_i hneg
      split at h
      · rename_i hzero
        have hrecv : serverStep env { t with serverPc := .recv } = some { t with
            toServer := t.toServer.emit .recvZero
            serverPc := .closeSocket } := by
          simp [serverStep, hserver, hzero]
        cases h
        exact .step hstep (.step hrecv (closeConn_ends hserver rfl rfl))
      · rename_i hzero
        have hrecv : serverStep env { t with serverPc := .recv } = some { t with
            toServer := t.toServer.emit (.recv ((recv env).2.take (recv env).1.toNat))
            serverPc := .check (CommandStream.ofBytes (recv env).2) } := by
          simp [serverStep, hserver, hneg, hzero]
        exact .step hstep (.step hrecv (handleCmd_ends hserver rfl h))

/-- The steps of the server thread alone make up its turn. -/
theorem server_turn (hserver : t.server = .loop) (hpc : t.serverPc = .loopTest)
    (h : t.toServer.run env = some s) : Runs.Leads (serverStep env) (ServerAt s) t := by
  unfold Server.run at h
  rw [hserver] at h
  dsimp only at h
  split at h
  · rename_i hready
    cases hstatus : t.info.serverStatus with
    | disconnected =>
      have hstep : serverStep env t = some { t with serverPc := .accept } := by
        simp [serverStep, hserver, hpc, hready, hstatus]
      rw [hstatus] at h
      cases h
      exact .step hstep (acceptConn_ends hserver rfl rfl)
    | connected =>
      have hstep : serverStep env t = some { t with serverPc := .testFlag } := by
        simp [serverStep, hserver, hpc, hready, hstatus]
      rw [hstatus] at h
      exact .step hstep (lookForCmd_ends hserver rfl h)
    | exit =>
      rw [hstatus] at h
      cases h
      exact .here ⟨Or.inr hpc, rfl⟩
  · rename_i hready
    have hstep : serverStep env t = some { t.basicClose with serverPc := .setExit } := by
      simp [serverStep, hserver, hpc, hready]
    have hexit : serverStep env { t.basicClose with serverPc := .setExit } = some
        { t.basicClose with
          info := { t.basicClose.info with serverStatus := .exit }
          server := .done
          serverPc := .setExit } := by
      have hloop : t.basicClose.server = .loop := by
        obtain ⟨_, _, _, _, es, hclose, -⟩ := Server.basicClose_cases t.toServer
        rw [basicClose, hclose]
        exact hserver
      simp [serverStep, hloop]
    cases h
    exact .step hstep (.step hexit (.here ⟨Or.inl rfl, rfl⟩))

end

section
variable {env : TlmEnv} {t : Threads} {s : Server}

theorem setFlag_ends (htlm : t.tlm = .loop) (hpc : t.tlmPc = .setFlag)
    (hs : { t.toServer with info := { t.info with isCloseConnDetected := true } } = s) :
    Runs.Leads (tlmStep env) (TlmAt s) t := by
  subst hs
  have hstep : tlmStep env t = some { t with
      info := { t.info with isCloseConnDetected := true }
      tlmPc := .loopTest } := by
    simp [tlmStep, htlm, hpc]
  exact .step hstep (.here ⟨Or.inr rfl, rfl⟩)

/-- The end of a telemetry turn: the flag reports a failed send. -/
def report (r : Int × Server) : Server :=
  if r.1 = -1 then { r.2 with info := { r.2.info with isCloseConnDetected := true } } else r.2

/-- The part of a telemetry turn after the command status. -/
def tlmRest (env : TlmEnv) (s : Server) : Server :=
  if !s.info.isCloseConnDetected then report (s.sendLastTlmInMsgQueue env) else s

theorem tlmTurn_eq_rest (env : TlmEnv) (s : Server) :
    s.tlmTurn env =
      let s := s.updateLastServerStatus
      if !s.info.isCloseConnDetected then
        let r := s.sendLastCmdStateInMsgQueue env
        if r.1 = 0 then tlmRest env r.2 else report r
      else s := by
  unfold Server.tlmTurn tlmRest report
  dsimp only
  cases hflag : s.updateLastServerStatus.info.isCloseConnDetected with
  | true => simp [hflag]
  | false =>
    obtain ⟨error, _, _, _, hr, -, herror⟩ :=
      Server.sendLastCmdStateInMsgQueue_cases env s.updateLastServerStatus
    simp only [Bool.not_false, if_true]
    rw [hr]
    rcases herror with rfl | ⟨rfl, -⟩
    · simp [hflag]
    · simp [hflag]

theorem testConnectedTlm_ends {n : Nat} (htlm : t.tlm = .loop)
    (hpc : t.tlmPc = .testConnectedTlm n)
    (hs : report (if 0 < n ∧ t.info.serverStatus = .connected then
        (if env.sendTlm < 0 then -1 else 0, t.toServer.emit (.sendTlm t.info.socketConnect
          ((t.info.pMsgTlm.getD []).take n) env.sendTlm))
      else (0, t.toServer)) = s) : Runs.Leads (tlmStep env) (TlmAt s) t := by
  subst hs
  split
  · rename_i hsend
    have htest : tlmStep env t = some { t with tlmPc := .sendTlm n } := by
      simp [tlmStep, htlm, hpc, hsend]
    by_cases herror : env.sendTlm < 0
    · have hstep : tlmStep env { t with tlmPc := .sendTlm n } = some { t with
          toServer := t.toServer.emit (.sendTlm t.info.socketConnect
            ((t.info.pMsgTlm.getD []).take n) env.sendTlm)
          tlmPc := .setFlag } := by
        simp [tlmStep, htlm, herror]
      rw [if_pos herror]
      exact .step htest (.step hstep (setFlag_ends htlm rfl rfl))
    · have hstep : tlmStep env { t with tlmPc := .sendTlm n } = some { t with
          toServer := t.toServer.emit (.sendTlm t.info.socketConnect
            ((t.info.pMsgTlm.getD []).take n) env.sendTlm)
          tlmPc := .loopTest } := by
        simp [tlmStep, htlm, herror]
      rw [if_neg herror]
      exact .step htest (.step hstep (.here ⟨Or.inr rfl, rfl⟩))
  · rename_i hsend
    have htest : tlmStep env t = some { t with tlmPc := .loopTest } := by
      simp only [tlmStep, htlm, hpc]
      exact if_neg hsend
    exact .step htest (.here ⟨Or.inr rfl, rfl⟩)

theorem tlmRest_ends (htlm : t.tlm = .loop) (hpc : t.tlmPc = .testFlagTlm)
    (hs : tlmRest env t.toServer = s) : Runs.Leads (tlmStep env) (TlmAt s) t := by
  subst hs
  unfold tlmRest
  cases hflag : t.info.isCloseConnDetected with
  | true =>
    have hstep : tlmStep env t = some { t with tlmPc := .loopTest } := by
      simp [tlmStep, htlm, hpc, hflag]
    exact .step hstep (.here ⟨Or.inr rfl, rfl⟩)
  | false =>
    have hflagStep : tlmStep env t = some { t with tlmPc := .receiveTlm } := by
      simp [tlmStep, htlm, hpc, hflag]
    refine .step hflagStep ?_
    simp only [Bool.not_false, if_true]
    unfold Server.sendLastTlmInMsgQueue
    cases hq : mqReceive env.mqReceiveTlm t.info.msgQueueTlm with
    | none =>
      have hstep : tlmStep env { t with tlmPc := .receiveTlm } =
          some { t with tlmPc := .loopTest } := by
        simp [tlmStep, htlm, hq]
      exact .step hstep (.here ⟨Or.inr rfl, rfl⟩)
    | some r =>
      have hstep : tlmStep env { t with tlmPc := .receiveTlm } = some { t with
          info := { t.info with
            msgQueueTlm := some r.2
            pMsgTlm := some (overwrite r.1 (t.info.pMsgTlm.getD [])) }
          tlmPc := .testConnectedTlm r.1.length } := by
        simp [tlmStep, htlm, hq]
      exact .step hstep (testConnectedTlm_ends htlm rfl rfl)

theorem testConnected_ends (htlm : t.tlm = .loop) (hpc : t.tlmPc = .testConnected)
    (hs : (if t.info.serverStatus = .connected then
        let s := t.toServer.emit (.sendCmdStatus t.info.socketConnect
          (t.info.pMsgCmdStatus.getD default) env.sendCmdStatus)
        if env.sendCmdStatus < 0 then report (-1, s) else tlmRest env s
      else tlmRest env t.toServer) = s) : Runs.Leads (tlmStep env) (TlmAt s) t := by
  subst hs
  split
  · rename_i hstatus
    have htest : tlmStep env t = some { t with tlmPc := .send } := by
      simp [tlmStep, htlm, hpc, hstatus]
    dsimp only
    split
    · rename_i herror
      have hstep : tlmStep env { t with tlmPc := .send } = some { t with
          toServer := t.toServer.emit (.sendCmdStatus t.info.socketConnect
            (t.info.pMsgCmdStatus.getD default) env.sendCmdStatus)
          tlmPc := .setFlag
          sent := t.sent ++ (t.current.map fun c => (t.inHand, c)).toList } := by
        simp [tlmStep, htlm, herror]
      exact .step htest (.step hstep (setFlag_ends htlm rfl rfl))
    · rename_i herror
      have hstep : tlmStep env { t with tlmPc := .send } = some { t with
          toServer := t.toServer.emit (.sendCmdStatus t.info.socketConnect
            (t.info.pMsgCmdStatus.getD default) env.sendCmdStatus)
          tlmPc := .testFlagTlm
          sent := t.sent ++ (t.current.map fun c => (t.inHand, c)).toList } := by
        simp [tlmStep, htlm, herror]
      exact .step htest (.step hstep (tlmRest_ends htlm rfl rfl))
  · rename_i hstatus
    have htest : tlmStep env t = some { t with tlmPc := .testFlagTlm } := by
      simp [tlmStep, htlm, hpc, hstatus]
    exact .step htest (tlmRest_ends htlm rfl rfl)

/-- From the test of the flag before the command status on. -/
theorem testFlag_ends (htlm : t.tlm = .loop) (hpc : t.tlmPc = .testFlag)
    (hs : (if !t.info.isCloseConnDetected then
        let r := t.toServer.sendLastCmdStateInMsgQueue env
        if r.1 = 0 then tlmRest env r.2 else report r
      else t.toServer) = s) : Runs.Leads (tlmStep env) (TlmAt s) t := by
  subst hs
  cases hflag : t.info.isCloseConnDetected with
  | true =>
    have hstep : tlmStep env t = some { t with tlmPc := .testFlagTlm } := by
      simp [tlmStep, htlm, hpc, hflag]
    have hrest : Runs.Leads (tlmStep env) (TlmAt (tlmRest env t.toServer))
        { t with tlmPc := .testFlagTlm } := tlmRest_ends htlm rfl rfl
    unfold tlmRest at hrest
    simp only [hflag, Bool.not_true, Bool.false_eq_true, if_false] at hrest ⊢
    exact .step hstep hrest
  | false =>
    have hflagStep : tlmStep env t = some { t with tlmPc := .receive } := by
      simp [tlmStep, htlm, hpc, hflag]
    refine .step hflagStep ?_
    simp only [Bool.not_false, if_true]
    unfold Server.sendLastCmdStateInMsgQueue
    cases hq : mqReceive env.mqReceiveCmdStatus t.info.msgQueueCmdStatus with
    | none =>
      have hstep : tlmStep env { t with tlmPc := .receive } =
          some { t with tlmPc := .testFlagTlm } := by
        simp [tlmStep, htlm, hq]
      exact .step hstep (tlmRest_ends htlm rfl rfl)
    | some r =>
      have hstep : tlmStep env { t with tlmPc := .receive } = some { t with
          info := { t.info with msgQueueCmdStatus := some r.2, pMsgCmdStatus := some r.1 }
          tlmPc := .testConnected
          origins := t.origins.tail
          inHand := t.origins.head?.join } := by
        simp [tlmStep, htlm, hq]
      refine .step hstep (testConnected_ends htlm rfl ?_)
      by_cases hstatus : t.info.serverStatus = .connected
      · by_cases herror : env.sendCmdStatus < 0
        · simp [hstatus, herror]
        · simp [hstatus, herror]
      · simp [hstatus]

/-- The steps of the telemetry thread alone make up its turn. -/
theorem tlm_turn (htlm : t.tlm = .loop) (hpc : t.tlmPc = .loopTest)
    (h : t.toServer.sendTlmAndCmdStatus env = some s) :
    Runs.Leads (tlmStep env) (TlmAt s) t := by
  unfold Server.sendTlmAndCmdStatus at h
  rw [htlm] at h
  cases h
  split
  · rename_i hready
    have hloop : tlmStep env t = some { t with tlmPc := .testEdge } := by
      simp [tlmStep, htlm, hpc, hready]
    refine .step hloop ?_
    rw [tlmTurn_eq_rest]
    unfold Server.updateLastServerStatus
    by_cases hedge : t.lastServerStatus = .disconnected ∧ t.info.serverStatus = .connected
    · have hstep : tlmStep env { t with tlmPc := .testEdge } =
          some { t with tlmPc := .clearFlag } := by
        simp only [tlmStep, htlm]
        exact if_pos hedge
      have hclear : tlmStep env { t with tlmPc := .clearFlag } = some { t with
          info := { t.info with isCloseConnDetected := false }
          tlmPc := .setLast } := by
        simp [tlmStep, htlm]
      have hlast : tlmStep env { t with
          info := { t.info with isCloseConnDetected := false }
          tlmPc := .setLast } = some { t with
          info := { t.info with isCloseConnDetected := false }
          lastServerStatus := t.info.serverStatus
          tlmPc := .testFlag } := by
        simp [tlmStep, htlm]
      rw [if_pos hedge]
      exact .step hstep (.step hclear (.step hlast (testFlag_ends htlm rfl rfl)))
    · have hstep : tlmStep env { t with tlmPc := .testEdge } =
          some { t with tlmPc := .setLast } := by
        simp only [tlmStep, htlm]
        exact if_neg hedge
      have hlast : tlmStep env { t with tlmPc := .setLast } = some { t with
          lastServerStatus := t.info.serverStatus
          tlmPc := .testFlag } := by
        simp [tlmStep, htlm]
      rw [if_neg hedge]
      exact .step hstep (.step hlast (testFlag_ends htlm rfl rfl))
  · rename_i hready
    have hloop : tlmStep env t = some { t with tlm := .done } := by
      simp [tlmStep, htlm, hpc, hready]
    exact .step hloop (.here ⟨Or.inl rfl, rfl⟩)

end

theorem serverStep_frame {env : RunEnv} {t u : Threads} (hstep : t.serverStep env = some u) :
    u.tlm = t.tlm ∧ u.tlmPc = t.tlmPc := by
  cases serverStep_step hstep with
  | wait =>
    split
    · exact ⟨rfl, rfl⟩
    · exact ⟨rfl, rfl⟩
  | basicClose =>
    obtain ⟨_, _, _, _, _, hclose, -⟩ := Server.basicClose_cases t.toServer
    refine ⟨?_, rfl⟩
    change t.toServer.basicClose.tlm = t.tlm
    rw [hclose]
  | _ => exact ⟨rfl, rfl⟩

theorem tlmStep_frame {env : TlmEnv} {t u : Threads} (hstep : t.tlmStep env = some u) :
    u.server = t.server ∧ u.serverPc = t.serverPc := by
  cases tlmStep_step hstep with
  | wait =>
    split
    · exact ⟨rfl, rfl⟩
    · exact ⟨rfl, rfl⟩
  | _ => exact ⟨rfl, rfl⟩

/-- The fields that only `cmdTlmServer_close` and the starting call change. -/
def SameFlags (t u : Threads) : Prop :=
  u.closing = t.closing ∧ u.info.isReadyServer = t.info.isReadyServer ∧
    u.info.isReadyTlm = t.info.isReadyTlm

theorem serverStep_flags {env : RunEnv} {t u : Threads} (hstep : t.serverStep env = some u) :
    SameFlags t u := by
  cases serverStep_step hstep with
  | wait =>
    split
    · exact ⟨rfl, rfl, rfl⟩
    · exact ⟨rfl, rfl, rfl⟩
  | basicClose =>
    obtain ⟨_, _, _, _, _, hclose, -⟩ := Server.basicClose_cases t.toServer
    unfold SameFlags
    change t.toServer.basicClose.closing = t.closing ∧
      t.toServer.basicClose.info.isReadyServer = t.info.isReadyServer ∧
      t.toServer.basicClose.info.isReadyTlm = t.info.isReadyTlm
    rw [hclose]
    exact ⟨rfl, rfl, rfl⟩
  | _ => exact ⟨rfl, rfl, rfl⟩

theorem tlmStep_flags {env : TlmEnv} {t u : Threads} (hstep : t.tlmStep env = some u) :
    SameFlags t u := by
  cases tlmStep_step hstep with
  | wait =>
    split
    · exact ⟨rfl, rfl, rfl⟩
    · exact ⟨rfl, rfl, rfl⟩
  | _ => exact ⟨rfl, rfl, rfl⟩

/-- Both threads are between two turns, and the server is `s`. -/
def BetweenTurns (s : Server) (t : Threads) : Prop := ServerAt s t ∧ TlmAt s t

theorem run_simulated {env : RunEnv} {t : Threads} {s s' : Server} (h : BetweenTurns s t)
    (hrun : s.run env = some s') : ∃ bs u, Runs.run step t bs = some u ∧ BetweenTurns s' u := by
  obtain ⟨⟨hserver, rfl⟩, htlm, -⟩ := h
  have hends : Runs.Leads (serverStep env) (ServerAt s') t := by
    cases hstate : t.server with
    | startWait =>
      have hpc : t.serverPc = .loopTest := hserver.resolve_left (by rw [hstate]; decide)
      simp only [Server.run, hstate] at hrun
      cases hrun
      refine .step (t := if t.info.isReadyServer then { t with server := .loop } else t) ?_ ?_
      · simp only [serverStep, hstate]
      · split
        · exact .here ⟨Or.inr hpc, rfl⟩
        · exact .here ⟨Or.inr hpc, rfl⟩
    | loop => exact server_turn hstate (hserver.resolve_left (by rw [hstate]; decide)) hrun
    | done =>
      simp only [Server.run, hstate] at hrun
      cases hrun
  have hframe := hends.and (I := fun u => u.tlm = t.tlm ∧ u.tlmPc = t.tlmPc)
    (fun _ _ hi hs => ⟨(serverStep_frame hs).1.trans hi.1, (serverStep_frame hs).2.trans hi.2⟩)
    ⟨rfl, rfl⟩
  obtain ⟨k, u, hsteps, hu, htlm', hpc'⟩ := hframe.run step (.run env)
  refine ⟨_, u, hsteps, hu, ?_, hu.2⟩
  rw [htlm', hpc']
  exact htlm

theorem tlm_simulated {env : TlmEnv} {t : Threads} {s s' : Server} (h : BetweenTurns s t)
    (htlm : s.sendTlmAndCmdStatus env = some s') :
    ∃ bs u, Runs.run step t bs = some u ∧ BetweenTurns s' u := by
  obtain ⟨⟨hserver, rfl⟩, hhead, -⟩ := h
  have hends : Runs.Leads (tlmStep env) (TlmAt s') t := by
    cases hstate : t.tlm with
    | startWait =>
      have hpc : t.tlmPc = .loopTest := hhead.resolve_left (by rw [hstate]; decide)
      simp only [Server.sendTlmAndCmdStatus, hstate] at htlm
      cases htlm
      refine .step (t := if t.info.isReadyTlm then { t with tlm := .loop } else t) ?_ ?_
      · simp only [tlmStep, hstate]
      · split
        · exact .here ⟨Or.inr hpc, rfl⟩
        · exact .here ⟨Or.inr hpc, rfl⟩
    | loop => exact tlm_turn hstate (hhead.resolve_left (by rw [hstate]; decide)) htlm
    | done =>
      simp only [Server.sendTlmAndCmdStatus, hstate] at htlm
      cases htlm
  have hframe := hends.and (I := fun u => u.server = t.server ∧ u.serverPc = t.serverPc)
    (fun _ _ hi hs => ⟨(tlmStep_frame hs).1.trans hi.1, (tlmStep_frame hs).2.trans hi.2⟩)
    ⟨rfl, rfl⟩
  obtain ⟨k, u, hsteps, hu, hserver', hpc'⟩ := hframe.run step (.tlm env)
  refine ⟨_, u, hsteps, ⟨?_, hu.2⟩, hu⟩
  rw [hserver', hpc']
  exact hserver

/-- Every step of the server in turns is a run of the two threads. -/
theorem step_simulated {a : Action} {t : Threads} {s s' : Server} (h : BetweenTurns s t)
    (hstep : s.step a = some s') : ∃ bs u, Runs.run step t bs = some u ∧ BetweenTurns s' u := by
  have hone : ∀ u, step t a = some u → BetweenTurns s' u →
      ∃ bs u, Runs.run step t bs = some u ∧ BetweenTurns s' u := fun u hu hs' =>
    ⟨[a], u, Runs.run_cons_eq_some.mpr ⟨u, hu, rfl⟩, hs'⟩
  cases a with
  | run env => exact run_simulated h hstep
  | tlm env => exact tlm_simulated h hstep
  | sendCmdStatus ok cmdStatusSend counter cmdStatus duration pReason =>
    obtain ⟨⟨hserver, rfl⟩, htlm, -⟩ := h
    cases hstep
    exact hone _ rfl ⟨⟨hserver, rfl⟩, htlm, rfl⟩
  | sendTlm ok msg =>
    obtain ⟨⟨hserver, rfl⟩, htlm, -⟩ := h
    cases hstep
    exact hone _ rfl ⟨⟨hserver, rfl⟩, htlm, rfl⟩
  | getCmd data =>
    obtain ⟨⟨hserver, rfl⟩, htlm, -⟩ := h
    have hget : step t (.getCmd data) = some { t with toServer := s' } :=
      Option.map_eq_some_iff.mpr ⟨s', hstep, rfl⟩
    obtain ⟨r, -, rfl⟩ := Option.map_eq_some_iff.mp hstep
    exact hone _ hget ⟨⟨hserver, rfl⟩, htlm, rfl⟩
  | setCommander isCommander =>
    obtain ⟨⟨hserver, rfl⟩, htlm, -⟩ := h
    cases hstep
    exact hone _ rfl ⟨⟨hserver, rfl⟩, htlm, rfl⟩
  | close =>
    obtain ⟨⟨hserver, rfl⟩, htlm, -⟩ := h
    have hpcs := Server.close_threads hstep
    by_cases hclosing : t.closing = .basicClose
    · have hclose : step t .close = some { t.basicClose with closing := .closed } := if_pos hclosing
      have hs' : s' = { t.toServer.basicClose with closing := .closed } := by
        simp only [Server.step, Server.close, hclosing] at hstep
        cases hstep
        rfl
      subst hs'
      refine hone _ hclose ⟨⟨?_, rfl⟩, ?_, rfl⟩
      · rw [← hpcs.1] at hserver
        exact hserver
      · rw [← hpcs.2] at htlm
        exact htlm
    · have hclose : step t .close = some { t with toServer := s' } :=
        (if_neg hclosing).trans (Option.map_eq_some_iff.mpr ⟨s', hstep, rfl⟩)
      refine hone _ hclose ⟨⟨?_, rfl⟩, ?_, rfl⟩
      · rw [← hpcs.1] at hserver
        exact hserver
      · rw [← hpcs.2] at htlm
        exact htlm

/-- The server in turns is what the two threads do when each turn is left alone. -/
theorem turns_simulated {fdsFd : Int} {info : ServerInfo} {as : List Action} {s : Server}
    (hrun : Runs.run Server.step (.start fdsFd info) as = some s) :
    ∃ bs t, Runs.run Threads.step (.start fdsFd info) bs = some t ∧ t.toServer = s := by
  have hstart : BetweenTurns (.start fdsFd info) (.start fdsFd info) :=
    ⟨⟨Or.inr rfl, rfl⟩, Or.inr rfl, rfl⟩
  obtain ⟨bs, t, hbs, ht⟩ :=
    Runs.run_simulates (fun _ _ _ _ h hs => step_simulated h hs) hrun hstart
  exact ⟨bs, t, hbs, ht.1.2⟩

end Threads

end HexrotPxiCom.CmdTlmServer
