import HexrotPxiCom.Interface.Server
import HexrotPxiCom.Lib.Ledger
import HexrotPxiCom.Lib.Numerals

/-!
# The resources of the server

What `cmdTlmServer_init` acquires and `cmdTlmServer_basicClose` releases. Descriptors and
blocks are numbered in the order in which they are acquired, so a second release of a number
is seen even where the system gives the number out again.
-/

namespace HexrotPxiCom.CmdTlmServer

set_option autoImplicit false

/-- `sizeof(commandStatusStructure_t)`. -/
def sizeofCommandStatus : Nat := (2 * 4 + 2 * 8) + 4 + 8 + lengthCmdStatusReason

/-- `none` is undefined behaviour: `sprintf` writes behind the ten characters of `str`. -/
def genNameMsgQueue (pNameBase : List Char) (identifier : Int) : Option (List Char) :=
  if 10 < (Numerals.decimal identifier).length + 1 then none
  else some (pNameBase ++ Numerals.decimal identifier)

/-- A pointer to a string, and the string. -/
structure CharPtr where
  block : Option Nat
  text : List Char
  deriving Repr, DecidableEq

def CharPtr.empty : CharPtr := ⟨none, []⟩

inductive Resource where
  | socket (fd : Int)
  /-- A name string; the literals of the program have no block and are never acquired. -/
  | name (pName : CharPtr)
  | queue (mqd : Int)
  /-- The name of a message queue in the system. -/
  | registration (name : List Char)
  | buffer (block : Nat)
  deriving DecidableEq

/-- `pQueueNameTlm`, `msgQueueTlm` and `pMsgTlm`, or the same fields of the command status. -/
structure QueueHandles where
  pQueueName : CharPtr
  msgQueue : Int
  pMsg : Option Nat
  deriving Repr, DecidableEq

/-- The fields of `serverInfo_t` that hold resources, the flags of the two threads and the
size of the telemetry message. -/
structure Handles where
  sizeMsgTlm : UInt32
  socketListen : Int
  socketConnect : Int
  isReadyServer : Bool
  isReadyTlm : Bool
  cmdStatus : QueueHandles
  tlm : QueueHandles
  deriving Repr, DecidableEq

/-- What the caller knows: the memory is not set, the server is closed, or
`cmdTlmServer_init` has returned 0. -/
inductive Phase where
  | blank
  | closed
  | opened
  deriving Repr, DecidableEq

structure Host where
  info : Handles
  next : Nat
  phase : Phase
  trace : List (Entry Resource)

/-- Which calls of `cmdTlmServer_init` to the system succeed. -/
structure InitResults where
  tcpServerOpen : Bool := true
  mqOpenCmdStatus : Bool := true
  mqOpenTlm : Bool := true
  deriving Repr, DecidableEq

/-- The names of the two queues that are in the system before `cmdTlmServer_init` is called: the
queues of a process that has ended stay until they are unlinked. -/
structure LeftOver where
  cmdStatus : Bool := false
  tlm : Bool := false
  deriving Repr, DecidableEq

namespace QueueHandles

/-- No name, no queue and no message. -/
def unset : QueueHandles := ⟨.empty, -1, none⟩

/-- The part of `cmdTlmServer_basicClose` that closes one of the queues. -/
def closeMsgQueue (q : QueueHandles) : QueueHandles × List (Entry Resource) :=
  match q.pMsg with
  | some block =>
    ({ q with pMsg := none },
      [.release (.buffer block), .release (.queue q.msgQueue),
        .use (.name q.pQueueName), .release (.registration q.pQueueName.text)])
  | none => (q, [])

/-- The part that frees its name, where `strncmp` looks at one character. -/
def freeQueueName (q : QueueHandles) : QueueHandles × List (Entry Resource) :=
  if q.pQueueName.text.take 1 ≠ [] then
    ({ q with pQueueName := .empty }, [.release (.name q.pQueueName)])
  else (q, [])

end QueueHandles

namespace Host

def emit (es : List (Entry Resource)) (h : Host) : Host := { h with trace := h.trace ++ es }

/-- The number of the next descriptor or block. -/
def take (h : Host) : Nat × Host := (h.next, { h with next := h.next + 1 })

/-- `tcpServer_open`, and `tcpServer_accept` of a client. -/
def openSocket (ok : Bool) (h : Host) : Int × Host :=
  if ok then (h.next, h.take.2.emit [.acquire (.socket h.next)]) else (-1, h)

/-- The string that `joinStr` allocates in `cmdTlmServer_genNameMsgQueue`. -/
def joinName (pNameBase : List Char) (identifier : Int) (h : Host) : Option (CharPtr × Host) :=
  (genNameMsgQueue pNameBase identifier).map fun text =>
    let strJoin : CharPtr := ⟨some h.next, text⟩
    (strJoin, h.take.2.emit [.acquire (.name strJoin)])

/-- `cmdTlmServer_createMsgQueue`. For a new queue `mq_open` fails when `mq_maxmsg` or `mq_msgsize`
is not positive; without `O_EXCL` it opens the queue that `isLeftOver` under the name, whatever the
attributes are, and the name is taken over with it. -/
def createMsgQueue (ok isLeftOver : Bool) (maxNumMsg sizeMsg : Int) (pName : CharPtr)
    (h : Host) : Int × Host :=
  if ok = true ∧ (isLeftOver = true ∨ 0 < maxNumMsg ∧ 0 < sizeMsg) then
    (h.next, h.take.2.emit [.use (.name pName), .acquire (.queue h.next),
      .acquire (.registration pName.text)])
  else (-1, h.emit [.use (.name pName)])

/-- `g_malloc0_n`, which ends the process without memory and has no block for no bytes. -/
def gMalloc0N (nBlocks nBlockBytes : Nat) (h : Host) : Option Nat × Host :=
  if nBlocks * nBlockBytes = 0 then (none, h)
  else (some h.next, h.take.2.emit [.acquire (.buffer h.next)])

def initServerInfo (sizeMsgTlm : UInt32) (h : Host) : Host :=
  { h with
    info :=
      { sizeMsgTlm := sizeMsgTlm, socketListen := -1, socketConnect := -1,
        isReadyServer := false, isReadyTlm := false, cmdStatus := .unset, tlm := .unset } }

def closeSocketConnect (h : Host) : Host :=
  if h.info.socketConnect ≠ -1 then
    { h.emit [.release (.socket h.info.socketConnect)] with
      info := { h.info with socketConnect := -1 } }
  else h

def closeSocketListen (h : Host) : Host :=
  if h.info.socketListen ≠ -1 then
    { h.emit [.release (.socket h.info.socketListen)] with
      info := { h.info with socketListen := -1 } }
  else h

def closeMsgQueueTlm (h : Host) : Host :=
  let r := h.info.tlm.closeMsgQueue
  { h.emit r.2 with info := { h.info with tlm := r.1 } }

def freeQueueNameTlm (h : Host) : Host :=
  let r := h.info.tlm.freeQueueName
  { h.emit r.2 with info := { h.info with tlm := r.1 } }

def closeMsgQueueCmdStatus (h : Host) : Host :=
  let r := h.info.cmdStatus.closeMsgQueue
  { h.emit r.2 with info := { h.info with cmdStatus := r.1 } }

def freeQueueNameCmdStatus (h : Host) : Host :=
  let r := h.info.cmdStatus.freeQueueName
  { h.emit r.2 with info := { h.info with cmdStatus := r.1 } }

/-- `cmdTlmServer_basicClose`, block by block. -/
def basicClose (h : Host) : Host :=
  h.closeSocketConnect.closeSocketListen.closeMsgQueueTlm.freeQueueNameTlm
    |>.closeMsgQueueCmdStatus.freeQueueNameCmdStatus

/-- One half of `cmdTlmServer_prepareMsgQueue` after the names: a queue is opened and,
when it is there, its messages are allocated. -/
def openMsgQueue (ok isLeftOver : Bool) (maxNumMsg : Int) (sizeMsg : Nat) (q : QueueHandles)
    (h : Host) : QueueHandles × Host :=
  let mq := h.createMsgQueue ok isLeftOver maxNumMsg sizeMsg q.pQueueName
  if mq.1 = -1 then ({ q with msgQueue := mq.1 }, mq.2)
  else
    let m := mq.2.gMalloc0N sizeMsg 2
    ({ q with msgQueue := mq.1, pMsg := m.1 }, m.2)

def setCmdStatus (q : QueueHandles) (h : Host) : Host :=
  { h with info := { h.info with cmdStatus := q } }

def setTlm (q : QueueHandles) (h : Host) : Host := { h with info := { h.info with tlm := q } }

def nameCmdStatus (identifier : Int) (h : Host) : Option Host :=
  (h.joinName "/queueCmdStatus".toList identifier).map fun n =>
    n.2.setCmdStatus { n.2.info.cmdStatus with pQueueName := n.1 }

def nameTlm (identifier : Int) (h : Host) : Option Host :=
  (h.joinName "/queueTlm".toList identifier).map fun n =>
    n.2.setTlm { n.2.info.tlm with pQueueName := n.1 }

def openCmdStatus (ok isLeftOver : Bool) (h : Host) : Host :=
  let q := h.openMsgQueue ok isLeftOver 4 sizeofCommandStatus h.info.cmdStatus
  q.2.setCmdStatus q.1

def openTlm (ok isLeftOver : Bool) (maxNumQueueTlm : Int) (h : Host) : Host :=
  let q := h.openMsgQueue ok isLeftOver maxNumQueueTlm h.info.sizeMsgTlm.toNat h.info.tlm
  q.2.setTlm q.1

/-- `cmdTlmServer_prepareMsgQueue` after the names. -/
def openMsgQueues (maxNumQueueTlm : Int) (res : InitResults) (left : LeftOver) (h : Host) :
    Int × Host :=
  let h := h.openCmdStatus res.mqOpenCmdStatus left.cmdStatus
  if h.info.cmdStatus.msgQueue = -1 then (-1, h)
  else
    let h := h.openTlm res.mqOpenTlm left.tlm maxNumQueueTlm
    if h.info.tlm.msgQueue = -1 then (-1, h) else (0, h)

def prepareMsgQueue (identifier maxNumQueueTlm : Int) (res : InitResults) (left : LeftOver)
    (h : Host) : Option (Int × Host) :=
  (h.nameCmdStatus identifier).bind fun h =>
    (h.nameTlm identifier).map fun h => h.openMsgQueues maxNumQueueTlm res left

def init (sizeMsgTlm : UInt32) (port maxNumQueueTlm : Int) (res : InitResults) (left : LeftOver)
    (h : Host) : Option (Int × Host) :=
  let s := (h.initServerInfo sizeMsgTlm).openSocket res.tcpServerOpen
  let h := { s.2 with info := { s.2.info with socketListen := s.1 } }
  if h.info.socketListen = -1 then some (-1, h)
  else
    (h.prepareMsgQueue port maxNumQueueTlm res left).map fun r =>
      if r.1 = -1 then (-1, r.2.basicClose) else (0, r.2)

/-- `cmdTlmServer_exitThread`, for a thread that can be joined. -/
def exitThread (isReady : Bool) : Bool := if isReady then false else isReady

def close (h : Host) : Host :=
  basicClose { h with
    info := { h.info with
      isReadyTlm := exitThread h.info.isReadyTlm
      isReadyServer := exitThread h.info.isReadyServer } }

end Host

/-- The calls of the application, and what the server thread does with the connection. -/
inductive Call where
  | init (sizeMsgTlm : UInt32) (port maxNumQueueTlm : Int) (res : InitResults) (left : LeftOver)
  | runInNewThread
  | accept (ok : Bool)
  | closeConn
  | basicClose
  | close

namespace Host

/-- Before the first call the fields of the server information have any values. -/
def blank (info : Handles) : Host := ⟨info, 0, .blank, []⟩

/-- `cmdTlmServer_init` is called on a server that is not open. -/
def step (h : Host) : Call → Option Host
  | .init sizeMsgTlm port maxNumQueueTlm res left =>
    if h.phase = .opened then none
    else
      (h.init sizeMsgTlm port maxNumQueueTlm res left).map fun r =>
        { r.2 with phase := if r.1 = 0 then .opened else .closed }
  | .runInNewThread =>
    if h.phase = .opened then
      some { h with info := { h.info with isReadyServer := true, isReadyTlm := true } }
    else none
  | .accept ok =>
    if h.phase = .opened ∧ h.info.socketConnect = -1 then
      let s := h.openSocket ok
      some { s.2 with info := { s.2.info with socketConnect := s.1 } }
    else none
  | .closeConn =>
    if h.phase = .opened ∧ h.info.socketConnect ≠ -1 then some h.closeSocketConnect else none
  | .basicClose => if h.phase = .blank then none else some { h.basicClose with phase := .closed }
  | .close => if h.phase = .blank then none else some { h.close with phase := .closed }

end Host

end HexrotPxiCom.CmdTlmServer
