import HexrotPxiCom.Interface.Resources
import HexrotPxiCom.Interface.TcpServer
import HexrotPxiCom.Lib.NamedQueues
import HexrotPxiCom.Lib.Numerals
import HexrotPxiCom.Lib.Runs
import Mathlib.Data.Fintype.Basic

/-!
# The message queues of several servers

All servers of a system share one space of queue names, and `cmdTlmServer_genNameMsgQueue`
makes the names out of the port. As no two servers listen at one port at the same time, every
server has its two queues for itself.
-/

namespace HexrotPxiCom.CmdTlmServer

set_option autoImplicit false

open NamedQueues

universe u

inductive QueueKind where
  | cmdStatus
  | tlm
  deriving Repr, DecidableEq

def QueueKind.pNameBase : QueueKind → List Char
  | .cmdStatus => "/queueCmdStatus".toList
  | .tlm => "/queueTlm".toList

/-- The fields of `serverInfo_t` about one queue; `hasMsg` says that its message is not NULL. -/
structure QueueFields where
  pQueueName : List Char
  msgQueue : Option Nat
  hasMsg : Bool

def QueueFields.unset : QueueFields := ⟨[], none, false⟩

structure QueueInfo where
  sizeMsgTlm : UInt32
  cmdStatus : QueueFields
  tlm : QueueFields

def QueueInfo.fields (info : QueueInfo) : QueueKind → QueueFields
  | .cmdStatus => info.cmdStatus
  | .tlm => info.tlm

/-- The room for a message of each queue. -/
def QueueInfo.room (info : QueueInfo) : QueueKind → Nat
  | .cmdStatus => sizeofCommandStatus
  | .tlm => info.sizeMsgTlm.toNat

abbrev Queues := System (List Char) UInt8

/-- For a new queue `mq_open` fails when `mq_maxmsg` or `mq_msgsize` is not positive. -/
def createMsgQueue (ok : Bool) (maxNumMsg : Int) (sizeMsg : Nat) (pName : List Char)
    (s : Queues) : Option Nat × Queues :=
  if ok = true ∧ (s.names pName ≠ none ∨ 0 < maxNumMsg ∧ 0 < sizeMsg) then
    let r := s.mqOpen pName maxNumMsg.toNat sizeMsg
    (some r.1, r.2)
  else (none, s)

/-- One half of `cmdTlmServer_prepareMsgQueue`: the queue, and its message when it is there. -/
def openMsgQueue (ok : Bool) (maxNumMsg : Int) (sizeMsg : Nat) (q : QueueFields) (s : Queues) :
    QueueFields × Queues :=
  let r := createMsgQueue ok maxNumMsg sizeMsg q.pQueueName s
  match r.1 with
  | none => ({ q with msgQueue := none }, r.2)
  | some mqd => ({ q with msgQueue := some mqd, hasMsg := decide (sizeMsg * 2 ≠ 0) }, r.2)

def prepareMsgQueue (identifier maxNumQueueTlm : Int) (res : InitResults) (info : QueueInfo)
    (s : Queues) : Option (Int × QueueInfo × Queues) :=
  (genNameMsgQueue QueueKind.cmdStatus.pNameBase identifier).bind fun nameCmdStatus =>
    (genNameMsgQueue QueueKind.tlm.pNameBase identifier).map fun nameTlm =>
      let c := openMsgQueue res.mqOpenCmdStatus 4 sizeofCommandStatus
        { info.cmdStatus with pQueueName := nameCmdStatus } s
      let info := { info with cmdStatus := c.1, tlm := { info.tlm with pQueueName := nameTlm } }
      if c.1.msgQueue = none then (-1, info, c.2)
      else
        let q := openMsgQueue res.mqOpenTlm maxNumQueueTlm info.sizeMsgTlm.toNat info.tlm c.2
        let info := { info with tlm := q.1 }
        if q.1.msgQueue = none then (-1, info, q.2) else (0, info, q.2)

/-- The blocks of `cmdTlmServer_basicClose` about one queue; a queue that is closed is `none`. -/
def closeMsgQueue (q : QueueFields) (s : Queues) : QueueFields × Queues :=
  if q.hasMsg then (.unset, s.mqUnlink q.pQueueName) else ({ q with pQueueName := [] }, s)

/-- `cmdTlmServer_basicClose`, without the sockets. -/
def closeMsgQueues (info : QueueInfo) (s : Queues) : QueueInfo × Queues :=
  let t := closeMsgQueue info.tlm s
  let c := closeMsgQueue info.cmdStatus t.2
  ({ info with cmdStatus := c.1, tlm := t.1 }, c.2)

def initMsgQueues (sizeMsgTlm : UInt32) (port maxNumQueueTlm : Int) (res : InitResults)
    (s : Queues) : Option (Int × QueueInfo × Queues) :=
  let info : QueueInfo := ⟨sizeMsgTlm, .unset, .unset⟩
  if !res.tcpServerOpen then some (-1, info, s)
  else
    (prepareMsgQueue port maxNumQueueTlm res info s).map fun r =>
      if r.1 = -1 then (-1, closeMsgQueues r.2.1 r.2.2) else (0, r.2)

def mqSendTo (ok : Bool) (msg : List UInt8) (q : QueueFields) (s : Queues) : Int × Queues :=
  match q.msgQueue with
  | none => (-1, s)
  | some mqd =>
    match if ok then (s.queues mqd).send msg else none with
    | none => (-1, s)
    | some r => (0, s.put mqd r)

def mqReceiveFrom (ok : Bool) (room : Nat) (q : QueueFields) (s : Queues) :
    Option (List UInt8) × Queues :=
  match q.msgQueue with
  | none => (none, s)
  | some mqd =>
    match if ok then (s.queues mqd).receive room else none with
    | none => (none, s)
    | some r => (some r.1, s.put mqd r.2)

inductive QueueCall where
  | init (sizeMsgTlm : UInt32) (maxNumQueueTlm : Int) (res : InitResults)
  | send (kind : QueueKind) (ok : Bool) (msg : List UInt8)
  | receive (kind : QueueKind) (ok : Bool)
  | close

/-- What a call returns to its server. -/
inductive Answer where
  | status (code : Int)
  | message (msg : Option (List UInt8))
  deriving Repr, DecidableEq

structure Servers (ι : Type u) where
  queues : Queues
  info : ι → QueueInfo
  isOpen : ι → Bool
  answers : ι → List Answer

namespace Servers

variable {ι : Type u}

/-- Before the first call the fields of the servers have any values. -/
def start (info : ι → QueueInfo) : Servers ι := ⟨.empty, info, fun _ => false, fun _ => []⟩

variable [DecidableEq ι]

def answer (i : ι) (a : Answer) (s : Servers ι) : Servers ι :=
  { s with answers := Function.update s.answers i (s.answers i ++ [a]) }

/-- A server is initialised when it is not open, and used and closed when it is. -/
def step (port : ι → Int) (s : Servers ι) : ι × QueueCall → Option (Servers ι)
  | (i, .init sizeMsgTlm maxNumQueueTlm res) =>
    if s.isOpen i then none
    else
      (initMsgQueues sizeMsgTlm (port i) maxNumQueueTlm res s.queues).map
        fun (code, info, queues) =>
          answer i (.status code) { s with
            queues := queues
            info := Function.update s.info i info
            isOpen := Function.update s.isOpen i (code == 0) }
  | (i, .send kind ok msg) =>
    if s.isOpen i then
      let r := mqSendTo ok msg ((s.info i).fields kind) s.queues
      some (answer i (.status r.1) { s with queues := r.2 })
    else none
  | (i, .receive kind ok) =>
    if s.isOpen i then
      let r := mqReceiveFrom ok ((s.info i).room kind) ((s.info i).fields kind) s.queues
      some (answer i (.message r.1) { s with queues := r.2 })
    else none
  | (i, .close) =>
    if s.isOpen i then
      let r := closeMsgQueues (s.info i) s.queues
      some { s with
        queues := r.2
        info := Function.update s.info i r.1
        isOpen := Function.update s.isOpen i false }
    else none

end Servers

/-- The queues of a server that has them for itself. -/
structure OwnQueues where
  room : QueueKind → Nat
  queue : QueueKind → Queue UInt8

/-- A server alone in its system. -/
structure Alone where
  queues : Option OwnQueues
  answers : List Answer

def Opens (sizeMsgTlm : UInt32) (maxNumQueueTlm : Int) (res : InitResults) : Prop :=
  res.tcpServerOpen = true ∧ res.mqOpenCmdStatus = true ∧ res.mqOpenTlm = true ∧
    0 < maxNumQueueTlm ∧ 0 < sizeMsgTlm.toNat

instance (sizeMsgTlm : UInt32) (maxNumQueueTlm : Int) (res : InitResults) :
    Decidable (Opens sizeMsgTlm maxNumQueueTlm res) :=
  inferInstanceAs (Decidable (_ ∧ _))

def OwnQueues.fresh (sizeMsgTlm : UInt32) (maxNumQueueTlm : Int) : OwnQueues where
  room
    | .cmdStatus => sizeofCommandStatus
    | .tlm => sizeMsgTlm.toNat
  queue
    | .cmdStatus => .empty 4 sizeofCommandStatus
    | .tlm => .empty maxNumQueueTlm.toNat sizeMsgTlm.toNat

def OwnQueues.set (kind : QueueKind) (r : Queue UInt8) (q : OwnQueues) : OwnQueues :=
  { q with queue := Function.update q.queue kind r }

namespace Alone

def start : Alone := ⟨none, []⟩

def step (p : Alone) : QueueCall → Option Alone
  | .init sizeMsgTlm maxNumQueueTlm res =>
    match p.queues with
    | some _ => none
    | none =>
      if Opens sizeMsgTlm maxNumQueueTlm res then
        some ⟨some (.fresh sizeMsgTlm maxNumQueueTlm), p.answers ++ [.status 0]⟩
      else some ⟨none, p.answers ++ [.status (-1)]⟩
  | .send kind ok msg => p.queues.map fun q =>
    match if ok then (q.queue kind).send msg else none with
    | none => ⟨some q, p.answers ++ [.status (-1)]⟩
    | some r => ⟨some (q.set kind r), p.answers ++ [.status 0]⟩
  | .receive kind ok => p.queues.map fun q =>
    match if ok then (q.queue kind).receive (q.room kind) else none with
    | none => ⟨some q, p.answers ++ [.message none]⟩
    | some r => ⟨some (q.set kind r.2), p.answers ++ [.message (some r.1)]⟩
  | .close => p.queues.map fun _ => ⟨none, p.answers⟩

end Alone

/-- The name of a queue of the server with that port. -/
def queueName (port : Int) (kind : QueueKind) : List Char :=
  kind.pNameBase ++ Numerals.decimal port

def OwnName (port : Int) (n : List Char) : Prop := ∃ kind, n = queueName port kind

theorem queueName_inj {p q : Int} {k l : QueueKind} :
    queueName p k = queueName q l ↔ p = q ∧ k = l := by
  constructor
  · intro h
    unfold queueName at h
    -- the base names differ in their seventh character
    have hseventh : k.pNameBase[6]? = l.pNameBase[6]? := by
      have hget := congrArg (fun n : List Char => n[6]?) h
      rwa [List.getElem?_append_left (by cases k <;> decide),
        List.getElem?_append_left (by cases l <;> decide)] at hget
    have hkind : k = l := by
      cases k <;> cases l <;> first | rfl | exact absurd hseventh (by decide)
    subst hkind
    exact ⟨Numerals.decimal_injective (List.append_cancel_left h), rfl⟩
  · rintro ⟨rfl, rfl⟩
    rfl

theorem genNameMsgQueue_eq {kind : QueueKind} {port : Int} {n : List Char}
    (h : genNameMsgQueue kind.pNameBase port = some n) : n = queueName port kind := by
  unfold genNameMsgQueue at h
  split at h
  · cases h
  · exact (Option.some.inj h).symm

section
variable {s t : Queues} {port : Int} {kind : QueueKind} {ok : Bool} {maxNumMsg : Int}
  {sizeMsg : Nat}

/-- A queue that is there under its name. -/
structure Named (port : Int) (s : Queues) (kind : QueueKind) (q : QueueFields)
    (r : Queue UInt8) : Prop where
  pQueueName : q.pQueueName = queueName port kind
  hasMsg : q.hasMsg = true
  handle : q.msgQueue = s.names (queueName port kind)
  queue : s.named (queueName port kind) = some r

theorem Named.exists_handle {q : QueueFields} {r : Queue UInt8} (h : Named port s kind q r) :
    ∃ mqd, q.msgQueue = some mqd ∧ s.names (queueName port kind) = some mqd ∧
      s.queues mqd = r := by
  obtain ⟨mqd, hmqd, hr⟩ := Option.map_eq_some_iff.mp h.queue
  exact ⟨mqd, h.handle.trans hmqd, hmqd, hr⟩

theorem Named.frame {N : List Char → Prop} {q : QueueFields} {r : Queue UInt8}
    (h : Named port s kind q r) (hframe : System.Frame N s t) (hother : ¬ N (queueName port kind)) :
    Named port t kind q r :=
  ⟨h.pQueueName, h.hasMsg, h.handle.trans (hframe.names _ hother).symm,
    (hframe.named _ hother).trans h.queue⟩

theorem openMsgQueue_failed {q : QueueFields} (hnew : s.names q.pQueueName = none)
    (h : ¬ (ok = true ∧ 0 < maxNumMsg ∧ 0 < sizeMsg)) :
    openMsgQueue ok maxNumMsg sizeMsg q s = ({ q with msgQueue := none }, s) := by
  have hnot : ¬ (ok = true ∧ (s.names q.pQueueName ≠ none ∨ 0 < maxNumMsg ∧ 0 < sizeMsg)) := by
    rintro ⟨hok, htaken | hattr⟩
    · exact htaken hnew
    · exact h ⟨hok, hattr⟩
  simp only [openMsgQueue, createMsgQueue, if_neg hnot]

theorem openMsgQueue_ok (hs : s.WellFormed) (hnew : s.names (queueName port kind) = none)
    (h : ok = true ∧ 0 < maxNumMsg ∧ 0 < sizeMsg) {q : QueueFields}
    (hq : q.pQueueName = queueName port kind) :
    System.Frame (· = queueName port kind) s (openMsgQueue ok maxNumMsg sizeMsg q s).2 ∧
      Named port (openMsgQueue ok maxNumMsg sizeMsg q s).2 kind
        (openMsgQueue ok maxNumMsg sizeMsg q s).1 (.empty maxNumMsg.toNat sizeMsg) := by
  have hpos := h.2.2
  have hopens : ok = true ∧ (s.names (queueName port kind) ≠ none ∨ 0 < maxNumMsg ∧ 0 < sizeMsg) :=
    ⟨h.1, Or.inr h.2⟩
  simp only [openMsgQueue, createMsgQueue, hq, if_pos hopens]
  refine ⟨.mqOpen (N := (· = queueName port kind)) hs hnew rfl _ _, rfl, ?_,
    (System.names_mqOpen_self hnew).symm, System.named_mqOpen_self hnew⟩
  simp only [decide_eq_true_eq]
  omega

theorem own_of_eq {n : List Char} (h : n = queueName port kind) : OwnName port n := ⟨kind, h⟩

/-- Each queue of the server is there under its name, or not at all. -/
def Closable (port : Int) (s : Queues) (info : QueueInfo) : Prop :=
  ∀ kind, ((info.fields kind).hasMsg = true ∧
      (info.fields kind).pQueueName = queueName port kind) ∨
    ((info.fields kind).hasMsg = false ∧ s.names (queueName port kind) = none)

theorem queueName_tlm_ne : queueName port .tlm ≠ queueName port .cmdStatus := by
  intro heq
  cases (queueName_inj.mp heq).2

/-- Both queues of the server are closed, and their names free. -/
theorem closeMsgQueues_spec {info : QueueInfo} (hs : s.WellFormed) (h : Closable port s info) :
    System.Frame (OwnName port) s (closeMsgQueues info s).2 ∧
      ∀ kind, (closeMsgQueues info s).2.names (queueName port kind) = none := by
  have hone : ∀ (kind : QueueKind) (u : Queues), u.WellFormed →
      (u.names (queueName port kind) = s.names (queueName port kind)) →
      System.Frame (· = queueName port kind) u (closeMsgQueue (info.fields kind) u).2 ∧
        (closeMsgQueue (info.fields kind) u).2.names (queueName port kind) = none := by
    intro kind u hu hsame
    unfold closeMsgQueue
    rcases h kind with ⟨hmsg, hname⟩ | ⟨hmsg, hfree⟩
    · rw [if_pos hmsg, hname]
      exact ⟨.mqUnlink (N := (· = queueName port kind)) hu rfl, System.names_mqUnlink_self⟩
    · rw [if_neg (by rw [hmsg]; decide)]
      exact ⟨.refl hu, hsame.trans hfree⟩
  obtain ⟨htlm, htlmFree⟩ := hone .tlm s hs rfl
  obtain ⟨hcmd, hcmdFree⟩ := hone .cmdStatus _ htlm.wellFormed (htlm.names _ queueName_tlm_ne.symm)
  refine ⟨(htlm.mono fun n => own_of_eq).trans (hcmd.mono fun n => own_of_eq), ?_⟩
  intro kind
  cases kind with
  | cmdStatus => exact hcmdFree
  | tlm => exact (hcmd.names _ queueName_tlm_ne).trans htlmFree

section
variable {sizeMsgTlm : UInt32} {maxNumQueueTlm : Int} {res : InitResults} {code : Int}
  {info : QueueInfo}

/-- Where the names of the server are free, `cmdTlmServer_prepareMsgQueue` makes two empty queues,
or fails and leaves what can be closed. -/
theorem prepareMsgQueue_spec (hs : s.WellFormed)
    (hfree : ∀ kind, s.names (queueName port kind) = none)
    (h : prepareMsgQueue port maxNumQueueTlm res ⟨sizeMsgTlm, .unset, .unset⟩ s =
      some (code, info, t)) :
    System.Frame (OwnName port) s t ∧ info.sizeMsgTlm = sizeMsgTlm ∧
      if res.mqOpenCmdStatus = true ∧ res.mqOpenTlm = true ∧ 0 < maxNumQueueTlm ∧
        0 < sizeMsgTlm.toNat then
        code = 0 ∧ ∀ kind, Named port t kind (info.fields kind)
          ((OwnQueues.fresh sizeMsgTlm maxNumQueueTlm).queue kind)
      else code = -1 ∧ Closable port t info := by
  obtain ⟨nameCmdStatus, hnameCmd, hprepare⟩ := Option.bind_eq_some_iff.mp h
  obtain ⟨nameTlm, hnameTlm, hprepare⟩ := Option.map_eq_some_iff.mp hprepare
  obtain rfl := genNameMsgQueue_eq hnameCmd
  obtain rfl := genNameMsgQueue_eq hnameTlm
  by_cases hcmd : res.mqOpenCmdStatus = true ∧ (0 : Int) < 4 ∧ 0 < sizeofCommandStatus
  swap
  · rw [openMsgQueue_failed (hfree .cmdStatus) hcmd, if_pos rfl] at hprepare
    cases hprepare
    rw [if_neg fun hopens => hcmd ⟨hopens.1, by decide, by decide⟩]
    exact ⟨.refl hs, rfl, rfl, fun kind => Or.inr ⟨by cases kind <;> rfl, hfree kind⟩⟩
  obtain ⟨hframe, hnamed⟩ := openMsgQueue_ok hs (hfree .cmdStatus) hcmd
    (q := { QueueFields.unset with pQueueName := queueName port .cmdStatus }) rfl
  dsimp only at hprepare
  generalize openMsgQueue res.mqOpenCmdStatus 4 sizeofCommandStatus
    { QueueFields.unset with pQueueName := queueName port .cmdStatus } s = c at *
  obtain ⟨mqd, hmqd, -⟩ := hnamed.exists_handle
  rw [if_neg (by rw [hmqd]; exact Option.some_ne_none mqd)] at hprepare
  have hown : System.Frame (OwnName port) s c.2 := hframe.mono fun n => own_of_eq
  have hfreeTlm := (hframe.names _ queueName_tlm_ne).trans (hfree .tlm)
  by_cases htlm : res.mqOpenTlm = true ∧ 0 < maxNumQueueTlm ∧ 0 < sizeMsgTlm.toNat
  · obtain ⟨hframe', hnamed'⟩ := openMsgQueue_ok hframe.wellFormed hfreeTlm htlm
      (q := { QueueFields.unset with pQueueName := queueName port .tlm }) rfl
    generalize openMsgQueue res.mqOpenTlm maxNumQueueTlm sizeMsgTlm.toNat
      { QueueFields.unset with pQueueName := queueName port .tlm } c.2 = q at *
    obtain ⟨mqd', hmqd', -⟩ := hnamed'.exists_handle
    rw [if_neg (by rw [hmqd']; exact Option.some_ne_none mqd')] at hprepare
    cases hprepare
    rw [if_pos ⟨hcmd.1, htlm⟩]
    refine ⟨hown.trans (hframe'.mono fun n => own_of_eq), rfl, rfl, ?_⟩
    intro kind
    cases kind with
    | cmdStatus => exact hnamed.frame hframe' queueName_tlm_ne.symm
    | tlm => exact hnamed'
  · rw [openMsgQueue_failed hfreeTlm htlm, if_pos rfl] at hprepare
    cases hprepare
    rw [if_neg fun hopens => htlm hopens.2]
    refine ⟨hown, rfl, rfl, ?_⟩
    intro kind
    cases kind with
    | cmdStatus => exact Or.inl ⟨hnamed.hasMsg, hnamed.pQueueName⟩
    | tlm => exact Or.inr ⟨rfl, hfreeTlm⟩

/-- `cmdTlmServer_init` makes two empty queues, or leaves the names free. -/
theorem initMsgQueues_spec (hs : s.WellFormed)
    (hfree : ∀ kind, s.names (queueName port kind) = none)
    (h : initMsgQueues sizeMsgTlm port maxNumQueueTlm res s = some (code, info, t)) :
    System.Frame (OwnName port) s t ∧
      if Opens sizeMsgTlm maxNumQueueTlm res then
        code = 0 ∧ info.sizeMsgTlm = sizeMsgTlm ∧ ∀ kind, Named port t kind (info.fields kind)
          ((OwnQueues.fresh sizeMsgTlm maxNumQueueTlm).queue kind)
      else code = -1 ∧ ∀ kind, t.names (queueName port kind) = none := by
  unfold initMsgQueues at h
  dsimp only at h
  cases hopen : res.tcpServerOpen with
  | false =>
    rw [hopen] at h
    cases h
    rw [if_neg (by simp [Opens, hopen])]
    exact ⟨.refl hs, rfl, hfree⟩
  | true =>
    rw [hopen, if_neg (by decide)] at h
    obtain ⟨⟨code', info', u⟩, hprepare, hclosed⟩ := Option.map_eq_some_iff.mp h
    obtain ⟨hframe, hsize, hspec⟩ := prepareMsgQueue_spec hs hfree hprepare
    split at hspec
    · rename_i hopens
      obtain ⟨rfl, hnamed⟩ := hspec
      rw [if_neg (by simp)] at hclosed
      cases hclosed
      rw [if_pos ⟨hopen, hopens⟩]
      exact ⟨hframe, rfl, hsize, hnamed⟩
    · rename_i hopens
      obtain ⟨rfl, hclosable⟩ := hspec
      rw [if_pos rfl] at hclosed
      cases hclosed
      obtain ⟨hclose, hnone⟩ := closeMsgQueues_spec hframe.wellFormed hclosable
      rw [if_neg fun hall => hopens hall.2]
      exact ⟨hframe.trans hclose, rfl, hnone⟩

end

end

namespace Servers

variable {ι : Type u} {port : ι → Int} {s t : Servers ι} {i j : ι} {p : Alone} {c : QueueCall}

/-- The server `i` is where it would be alone in its system. -/
inductive Shows (port : ι → Int) (s : Servers ι) (i : ι) : Alone → Prop where
  | closed (hopen : s.isOpen i = false) : Shows port s i ⟨none, s.answers i⟩
  | opened (q : OwnQueues) (hopen : s.isOpen i = true) (hroom : (s.info i).room = q.room)
      (hnamed : ∀ kind, Named (port i) s.queues kind ((s.info i).fields kind) (q.queue kind)) :
      Shows port s i ⟨some q, s.answers i⟩

theorem Shows.of_answers {q : Option OwnQueues} {answers : List Answer}
    (h : s.Shows port i ⟨q, s.answers i⟩) (heq : s.answers i = answers) :
    s.Shows port i ⟨q, answers⟩ := by
  rw [← heq]
  exact h

theorem Shows.frame {N : List Char → Prop} (h : s.Shows port i p)
    (hframe : System.Frame N s.queues t.queues)
    (hother : s.isOpen i = true → ∀ kind, ¬ N (queueName (port i) kind))
    (hinfo : t.info i = s.info i) (hopen : t.isOpen i = s.isOpen i)
    (hanswers : t.answers i = s.answers i) : t.Shows port i p := by
  cases h with
  | closed hclosed =>
    rw [← hanswers]
    exact .closed (hopen.trans hclosed)
  | opened q hopened hroom hnamed =>
    rw [← hanswers]
    refine .opened q (hopen.trans hopened) (by rw [hinfo]; exact hroom) ?_
    intro kind
    rw [hinfo]
    exact (hnamed kind).frame hframe (hother hopened kind)

/-- No other server is open at the port of the server `i`. -/
def Sole (port : ι → Int) (s : Servers ι) (i : ι) : Prop :=
  ∀ j, j ≠ i → s.isOpen j = true → port j ≠ port i

/-- A step of the server `i` leaves the other servers as they are, and their queues: it uses
the names of its port while it is the only one there. -/
structure Only (port : ι → Int) (i : ι) (s t : Servers ι) : Prop where
  frame : System.Frame (fun n => Sole port s i ∧ OwnName (port i) n) s.queues t.queues
  sole : t.isOpen i = true → Sole port s i
  free : t.isOpen i = false → Sole port s i →
    ∀ kind, t.queues.names (queueName (port i) kind) = none
  info : ∀ j, j ≠ i → t.info j = s.info j
  isOpen : ∀ j, j ≠ i → t.isOpen j = s.isOpen j
  answers : ∀ j, j ≠ i → t.answers j = s.answers j

/-- The servers keep out of each other's way. -/
structure Separate (port : ι → Int) (s : Servers ι) (p : ι → Alone) : Prop where
  wellFormed : s.queues.WellFormed
  shows : ∀ i, s.Shows port i (p i)
  sole : ∀ i, s.isOpen i = true → Sole port s i
  free : ∀ n, (∀ i, s.isOpen i = true → port i ≠ n) →
    ∀ kind, s.queues.names (queueName n kind) = none

theorem ownName_iff {m n : Int} {kind : QueueKind} : OwnName m (queueName n kind) ↔ n = m :=
  ⟨fun ⟨_, h⟩ => (queueName_inj.mp h).1, fun h => ⟨kind, by rw [h]⟩⟩

/-- The step lemma: whatever the server `i` does leaves the servers apart. -/
theorem Separate.step [DecidableEq ι] {a : ι → Alone} (h : Separate port s a)
    (honly : Only port i s t) (hi : t.Shows port i p) :
    Separate port t (Function.update a i p) := by
  refine ⟨honly.frame.wellFormed, ?_, ?_, ?_⟩
  · intro k
    by_cases hk : k = i
    · subst hk
      rw [Function.update_self]
      exact hi
    · rw [Function.update_of_ne hk]
      refine (h.shows k).frame honly.frame ?_ (honly.info k hk) (honly.isOpen k hk)
        (honly.answers k hk)
      rintro hopen kind ⟨hsole, hown⟩
      exact hsole k hk hopen (ownName_iff.mp hown)
  · intro k hopen m hm hopenM hport
    by_cases hk : k = i
    · subst hk
      rw [honly.isOpen m hm] at hopenM
      exact honly.sole hopen m hm hopenM hport
    · rw [honly.isOpen k hk] at hopen
      by_cases hmi : m = i
      · subst hmi
        exact honly.sole hopenM k hk hopen hport.symm
      · rw [honly.isOpen m hmi] at hopenM
        exact h.sole k hopen m hm hopenM hport
  · intro n hn
    by_cases hport : n = port i
    · subst hport
      have hclosed : t.isOpen i = false := by
        by_contra hopen
        exact hn i (Bool.eq_true_of_not_eq_false hopen) rfl
      apply honly.free hclosed
      intro k hk hopen
      exact hn k ((honly.isOpen k hk).trans hopen)
    · intro kind
      have hother : ¬ (Sole port s i ∧ OwnName (port i) (queueName n kind)) := by
        rintro ⟨-, hown⟩
        exact hport (ownName_iff.mp hown)
      refine (honly.frame.names _ hother).trans (h.free n ?_ kind)
      intro k hopen
      by_cases hk : k = i
      · subst hk
        exact Ne.symm hport
      · exact hn k ((honly.isOpen k hk).trans hopen)

theorem frame_put {kind : QueueKind} {q : QueueFields} {r : Queue UInt8} {u : Queues}
    (hu : u.WellFormed) (h : Named (port i) u kind q r) {mqd : Nat} (hmqd : q.msgQueue = some mqd)
    (r' : Queue UInt8) :
    System.Frame (· = queueName (port i) kind) u (u.put mqd r') ∧
      Named (port i) (u.put mqd r') kind q r' := by
  obtain ⟨mqd', hmqd', hname, -⟩ := h.exists_handle
  obtain rfl := Option.some.inj (hmqd.symm.trans hmqd')
  exact ⟨.put (N := (· = queueName (port i) kind)) hu hname rfl r',
    h.pQueueName, h.hasMsg, h.handle, System.named_put_self hname⟩

theorem named_set {q : OwnQueues} {kind : QueueKind} {fields : QueueKind → QueueFields}
    {r : Queue UInt8} {u v : Queues}
    (h : ∀ kind, Named (port i) u kind (fields kind) (q.queue kind))
    (hframe : System.Frame (· = queueName (port i) kind) u v)
    (hnew : Named (port i) v kind (fields kind) r) (kind' : QueueKind) :
    Named (port i) v kind' (fields kind') ((q.set kind r).queue kind') := by
  unfold OwnQueues.set
  dsimp only
  by_cases hkind : kind' = kind
  · subst hkind
    rw [Function.update_self]
    exact hnew
  · rw [Function.update_of_ne hkind]
    apply (h kind').frame hframe
    intro heq
    exact hkind (queueName_inj.mp heq).2

variable [DecidableEq ι]

theorem answer_self (a : Answer) : (s.answer i a).answers i = s.answers i ++ [a] :=
  Function.update_self ..

/-- A call on a queue of an open server: what it does to the queue, and what it answers. -/
theorem queue_shows {q : OwnQueues} {kind : QueueKind} {u : Queues}
    (hs : s.queues.WellFormed) (hsole : Sole port s i) (hopen : s.isOpen i = true)
    (hroom : (s.info i).room = q.room)
    (hnamed : ∀ kind, Named (port i) s.queues kind ((s.info i).fields kind) (q.queue kind))
    {mqd : Nat} (hmqd : ((s.info i).fields kind).msgQueue = some mqd) (new : Option (Queue UInt8))
    (a : Answer) (hu : u = new.elim s.queues (s.queues.put mqd)) :
    Only port i s (answer i a { s with queues := u }) ∧
      (answer i a { s with queues := u }).Shows port i
        ⟨some (new.elim q fun r => q.set kind r), s.answers i ++ [a]⟩ := by
  have honly : System.Frame (fun n => Sole port s i ∧ OwnName (port i) n) s.queues u →
      Only port i s (answer i a { s with queues := u }) := by
    intro hframe
    refine ⟨hframe, fun _ => hsole, ?_, fun _ _ => rfl, fun _ _ => rfl,
      fun j hj => Function.update_of_ne hj ..⟩
    intro hclosed
    exact absurd (hopen.symm.trans hclosed) (by decide)
  cases new with
  | none =>
    subst hu
    exact ⟨honly (.refl hs), .of_answers (.opened q hopen hroom hnamed) (answer_self a)⟩
  | some r =>
    subst hu
    obtain ⟨hframe, hnew⟩ := frame_put hs (hnamed kind) hmqd r
    exact ⟨honly (hframe.mono fun n hn => ⟨hsole, own_of_eq hn⟩),
      .of_answers (.opened (q.set kind r) hopen hroom (named_set hnamed hframe hnew))
        (answer_self a)⟩

theorem send_shows {q : OwnQueues} {kind : QueueKind} {ok : Bool} {msg : List UInt8}
    (hs : s.queues.WellFormed) (hsole : Sole port s i) (hopen : s.isOpen i = true)
    (hroom : (s.info i).room = q.room)
    (hnamed : ∀ kind, Named (port i) s.queues kind ((s.info i).fields kind) (q.queue kind))
    (hstep : s.step port (i, .send kind ok msg) = some t) :
    Only port i s t ∧ ∃ p', Alone.step ⟨some q, s.answers i⟩ (.send kind ok msg) = some p' ∧
      t.Shows port i p' := by
  obtain ⟨mqd, hmqd, -, hqueue⟩ := (hnamed kind).exists_handle
  have hall := fun u => queue_shows (u := u) hs hsole hopen hroom hnamed hmqd
  simp only [step, hopen, if_true, mqSendTo, hmqd, hqueue] at hstep
  simp only [Alone.step, Option.map_some]
  generalize (if ok then (q.queue kind).send msg else none) = new at *
  cases new with
  | none =>
    obtain ⟨honly, hshows⟩ := hall _ none (.status (-1)) rfl
    cases hstep
    exact ⟨honly, _, rfl, hshows⟩
  | some r =>
    obtain ⟨honly, hshows⟩ := hall _ (some r) (.status 0) rfl
    cases hstep
    exact ⟨honly, _, rfl, hshows⟩

theorem receive_shows {q : OwnQueues} {kind : QueueKind} {ok : Bool}
    (hs : s.queues.WellFormed) (hsole : Sole port s i) (hopen : s.isOpen i = true)
    (hroom : (s.info i).room = q.room)
    (hnamed : ∀ kind, Named (port i) s.queues kind ((s.info i).fields kind) (q.queue kind))
    (hstep : s.step port (i, .receive kind ok) = some t) :
    Only port i s t ∧ ∃ p', Alone.step ⟨some q, s.answers i⟩ (.receive kind ok) = some p' ∧
      t.Shows port i p' := by
  obtain ⟨mqd, hmqd, -, hqueue⟩ := (hnamed kind).exists_handle
  have hall := fun u => queue_shows (u := u) hs hsole hopen hroom hnamed hmqd
  simp only [step, hopen, if_true, mqReceiveFrom, hmqd, hqueue, hroom] at hstep
  simp only [Alone.step, Option.map_some]
  generalize (if ok then (q.queue kind).receive (q.room kind) else none) = new at *
  cases new with
  | none =>
    obtain ⟨honly, hshows⟩ := hall _ none (.message none) rfl
    cases hstep
    exact ⟨honly, _, rfl, hshows⟩
  | some r =>
    obtain ⟨honly, hshows⟩ := hall _ (some r.2) (.message (some r.1)) rfl
    cases hstep
    exact ⟨honly, _, rfl, hshows⟩

theorem close_shows {q : OwnQueues} (hs : s.queues.WellFormed) (hsole : Sole port s i)
    (hopen : s.isOpen i = true)
    (hnamed : ∀ kind, Named (port i) s.queues kind ((s.info i).fields kind) (q.queue kind))
    (hstep : s.step port (i, .close) = some t) :
    Only port i s t ∧ t.Shows port i ⟨none, s.answers i⟩ := by
  have hclosable : Closable (port i) s.queues (s.info i) := fun kind =>
    Or.inl ⟨(hnamed kind).hasMsg, (hnamed kind).pQueueName⟩
  obtain ⟨hframe, hnone⟩ := closeMsgQueues_spec hs hclosable
  simp only [step, hopen, if_true] at hstep
  cases hstep
  exact ⟨⟨hframe.mono fun n hn => ⟨hsole, hn⟩, fun _ => hsole, fun _ _ => hnone,
    fun j hj => Function.update_of_ne hj .., fun j hj => Function.update_of_ne hj ..,
    fun _ _ => rfl⟩, .closed (Function.update_self ..)⟩

theorem refused_shows {sizeMsgTlm : UInt32} {maxNumQueueTlm : Int} {res : InitResults}
    {a : ι → Alone} (h : Separate port s a) (hclosed : s.isOpen i = false)
    (hrefused : res.tcpServerOpen = false)
    (hstep : s.step port (i, .init sizeMsgTlm maxNumQueueTlm res) = some t) :
    Only port i s t ∧ ∃ p', Alone.step ⟨none, s.answers i⟩
      (.init sizeMsgTlm maxNumQueueTlm res) = some p' ∧ t.Shows port i p' := by
  have hopens : ¬ Opens sizeMsgTlm maxNumQueueTlm res := fun hopens =>
    absurd (hrefused.symm.trans hopens.1) (by decide)
  simp only [step, hclosed, Bool.false_eq_true, if_false, initMsgQueues, hrefused, Bool.not_false,
    if_true, Option.map_some] at hstep
  cases hstep
  have hstill : Function.update s.isOpen i ((-1 : Int) == 0) i = false := Function.update_self ..
  refine ⟨⟨.refl h.wellFormed, ?_, ?_, fun j hj => Function.update_of_ne hj ..,
    fun j hj => Function.update_of_ne hj .., fun j hj => Function.update_of_ne hj ..⟩,
    _, if_neg hopens, .of_answers (.closed hstill) (answer_self _)⟩
  · intro hopen
    exact absurd (hstill.symm.trans hopen) (by decide)
  · intro _ hsole
    apply h.free
    intro j hopen
    have hj : j ≠ i := by
      rintro rfl
      exact absurd (hclosed.symm.trans hopen) (by decide)
    exact hsole j hj hopen

theorem init_shows {sizeMsgTlm : UInt32} {maxNumQueueTlm : Int} {res : InitResults}
    {a : ι → Alone} (h : Separate port s a) (hclosed : s.isOpen i = false) (hsole : Sole port s i)
    (hstep : s.step port (i, .init sizeMsgTlm maxNumQueueTlm res) = some t) :
    Only port i s t ∧ ∃ p', Alone.step ⟨none, s.answers i⟩
      (.init sizeMsgTlm maxNumQueueTlm res) = some p' ∧ t.Shows port i p' := by
  have hfree : ∀ kind, s.queues.names (queueName (port i) kind) = none := by
    apply h.free
    intro j hopen
    have hj : j ≠ i := by
      rintro rfl
      exact absurd (hclosed.symm.trans hopen) (by decide)
    exact hsole j hj hopen
  simp only [step, hclosed, Bool.false_eq_true, if_false] at hstep
  obtain ⟨⟨code, info, u⟩, hinit, rfl⟩ := Option.map_eq_some_iff.mp hstep
  obtain ⟨hframe, hspec⟩ := initMsgQueues_spec h.wellFormed hfree hinit
  dsimp only
  have hcode : Function.update s.isOpen i (code == 0) i = (code == 0) := Function.update_self ..
  split at hspec
  · rename_i hopens
    obtain ⟨rfl, rfl, hnamed⟩ := hspec
    refine ⟨⟨hframe.mono fun n hn => ⟨hsole, hn⟩, fun _ => hsole, ?_,
      fun j hj => Function.update_of_ne hj .., fun j hj => Function.update_of_ne hj ..,
      fun j hj => Function.update_of_ne hj ..⟩,
      _, if_pos hopens, .of_answers (.opened _ hcode ?_ ?_) (answer_self _)⟩
    · intro hnot
      exact absurd (hcode.symm.trans hnot) (by decide)
    · change (Function.update s.info i info i).room = _
      rw [Function.update_self]
      funext kind
      cases kind <;> rfl
    · intro kind
      change Named (port i) u kind ((Function.update s.info i info i).fields kind) _
      rw [Function.update_self]
      exact hnamed kind
  · rename_i hopens
    obtain ⟨rfl, hnone⟩ := hspec
    exact ⟨⟨hframe.mono fun n hn => ⟨hsole, hn⟩, fun _ => hsole, fun _ _ => hnone,
      fun j hj => Function.update_of_ne hj .., fun j hj => Function.update_of_ne hj ..,
      fun j hj => Function.update_of_ne hj ..⟩,
      _, if_neg hopens, .of_answers (.closed hcode) (answer_self _)⟩

/-- The network opens no port that is open. -/
def PortFree (port : ι → Int) (s : Servers ι) : ι × QueueCall → Prop
  | (i, .init _ _ res) => res.tcpServerOpen = true → Sole port s i
  | _ => True

instance [Fintype ι] (s : Servers ι) (i : ι) : Decidable (Sole port s i) :=
  inferInstanceAs (Decidable (∀ _, _))

instance [Fintype ι] (s : Servers ι) : ∀ a, Decidable (PortFree port s a)
  | (i, .init _ _ res) => inferInstanceAs (Decidable (res.tcpServerOpen = true → Sole port s i))
  | (_, .send ..) | (_, .receive ..) | (_, .close) => .isTrue trivial

/-- A call does to its server what it would do alone, and to the other servers nothing. -/
theorem step_shows {a : ι → Alone} (h : Separate port s a) (hok : s.PortFree port (i, c))
    (hstep : s.step port (i, c) = some t) :
    Only port i s t ∧ ∃ p', (a i).step c = some p' ∧ t.Shows port i p' := by
  have hi := h.shows i
  generalize a i = p at hi
  cases hi with
  | closed hclosed =>
    cases c with
    | init sizeMsgTlm maxNumQueueTlm res =>
      cases hopen : res.tcpServerOpen with
      | false => exact refused_shows h hclosed hopen hstep
      | true => exact init_shows h hclosed (hok hopen) hstep
    | send | receive | close => simp [step, hclosed] at hstep
  | opened q hopen hroom hnamed =>
    have hsole := h.sole i hopen
    cases c with
    | init => simp [step, hopen] at hstep
    | send => exact send_shows h.wellFormed hsole hopen hroom hnamed hstep
    | receive => exact receive_shows h.wellFormed hsole hopen hroom hnamed hstep
    | close =>
      obtain ⟨honly, hshows⟩ := close_shows h.wellFormed hsole hopen hnamed hstep
      exact ⟨honly, _, rfl, hshows⟩

def ownCalls (i : ι) (as : List (ι × QueueCall)) : List QueueCall :=
  as.filterMap fun a => if a.1 = i then some a.2 else none

theorem ownCalls_cons_self {as : List (ι × QueueCall)} :
    ownCalls i ((i, c) :: as) = c :: ownCalls i as := by
  simp [ownCalls]

theorem ownCalls_cons_ne {as : List (ι × QueueCall)} (h : j ≠ i) :
    ownCalls i ((j, c) :: as) = ownCalls i as := by
  simp [ownCalls, h]

/-- The run lemma: every server goes through its own calls alone. -/
theorem run_shows {a : ι → Alone} {as : List (ι × QueueCall)} (h : Separate port s a)
    (hok : Runs.Guarded (step port) (PortFree port) s as)
    (hrun : Runs.run (step port) s as = some t) (i : ι) :
    ∃ p, Runs.run Alone.step (a i) (ownCalls i as) = some p ∧ t.Shows port i p := by
  induction as generalizing s a with
  | nil =>
    cases hrun
    exact ⟨a i, rfl, h.shows i⟩
  | cons call as ih =>
    obtain ⟨j, c⟩ := call
    obtain ⟨u, hu, hrun⟩ := Runs.run_cons_eq_some.mp hrun
    obtain ⟨hokJ, hok⟩ := hok.cons_of_step hu
    obtain ⟨honly, p', hp', hshows⟩ := step_shows h hokJ hu
    obtain ⟨p, hp, hlast⟩ := ih (h.step honly hshows) hok hrun
    refine ⟨p, ?_, hlast⟩
    by_cases hi : j = i
    · subst hi
      rw [Function.update_self] at hp
      rw [ownCalls_cons_self]
      exact Runs.run_cons_eq_some.mpr ⟨p', hp', hp⟩
    · rw [Function.update_of_ne (Ne.symm hi)] at hp
      rw [ownCalls_cons_ne hi]
      exact hp

omit [DecidableEq ι] in
theorem start_separate (info : ι → QueueInfo) :
    Separate port (start info) fun _ => Alone.start := by
  refine ⟨System.empty_wellFormed, fun _ => .closed rfl, ?_, fun _ _ _ => rfl⟩
  intro i hopen
  cases hopen

/-- The server is answered as it would be alone. -/
def Private (i : ι) (as : List (ι × QueueCall)) (t : Servers ι) : Prop :=
  ∃ p, Runs.run Alone.step .start (ownCalls i as) = some p ∧ p.answers = t.answers i

/-- A server leaves its port with a message in its queue to another one. -/
def handover : List (Bool × QueueCall) :=
  [(true, .init 8 1 {}), (true, .send .tlm true [7]), (false, .init 8 1 { tcpServerOpen := false }),
    (true, .close), (false, .init 8 1 {}), (false, .receive .tlm true)]

/-- The ports whose number the ten characters hold. -/
theorem genNameMsgQueue_ok {kind : QueueKind} {n : Int} (hn : -99999999 ≤ n ∧ n ≤ 999999999) :
    genNameMsgQueue kind.pNameBase n = some (queueName n kind) := by
  have hlength := (TcpServer.length_decimal_le_iff n).mpr hn
  rw [genNameMsgQueue, if_neg (by omega)]
  rfl

section
variable {n : Int} {u : Queues}

theorem initMsgQueues_free (hu : u.WellFormed) (hn : -99999999 ≤ n ∧ n ≤ 999999999)
    (hfree : ∀ kind, u.names (queueName n kind) = none) :
    ∃ info v, initMsgQueues 8 n 1 {} u = some (0, info, v) ∧
      ∀ kind, Named n v kind (info.fields kind) ((OwnQueues.fresh 8 1).queue kind) := by
  have hsome : ∃ r, initMsgQueues 8 n 1 {} u = some r := by
    simp [initMsgQueues, prepareMsgQueue, genNameMsgQueue_ok hn]
  obtain ⟨⟨code, info, v⟩, hinit⟩ := hsome
  obtain ⟨-, hspec⟩ := initMsgQueues_spec hu hfree hinit
  rw [if_pos (by decide)] at hspec
  obtain ⟨rfl, -, hnamed⟩ := hspec
  exact ⟨info, v, hinit, hnamed⟩

/-- A server whose names are in use gets the queues that have them. -/
theorem initMsgQueues_taken {mqd : QueueKind → Nat} (hn : -99999999 ≤ n ∧ n ≤ 999999999)
    (htaken : ∀ kind, u.names (queueName n kind) = some (mqd kind)) :
    initMsgQueues 8 n 1 {} u = some (0, ⟨8, ⟨queueName n .cmdStatus, some (mqd .cmdStatus), true⟩,
      ⟨queueName n .tlm, some (mqd .tlm), true⟩⟩, u) := by
  have hopen : ∀ (maxNumMsg : Int) (sizeMsg : Nat) (kind : QueueKind), 0 < maxNumMsg →
      0 < sizeMsg → openMsgQueue true maxNumMsg sizeMsg ⟨queueName n kind, none, false⟩ u =
        (⟨queueName n kind, some (mqd kind), true⟩, u) := by
    intro maxNumMsg sizeMsg kind hmax hsize
    have hmsg : ¬ sizeMsg = 0 := by omega
    simp [openMsgQueue, createMsgQueue, hmax, hsize, System.mqOpen, htaken kind, hmsg]
  have hcmd := hopen 4 sizeofCommandStatus .cmdStatus (by decide) (by decide)
  have htlm := hopen 1 8 .tlm (by decide) (by decide)
  unfold initMsgQueues
  simp [prepareMsgQueue, genNameMsgQueue_ok hn, QueueFields.unset, hcmd, htlm]

theorem mqSendTo_eq {q : QueueFields} {mqd : Nat} {msg : List UInt8} {r : Queue UInt8}
    (hmqd : q.msgQueue = some mqd) (hsend : (u.queues mqd).send msg = some r) :
    mqSendTo true msg q u = (0, u.put mqd r) := by
  simp [mqSendTo, hmqd, hsend]

theorem mqReceiveFrom_eq {q : QueueFields} {mqd room : Nat} {msg : List UInt8} {r : Queue UInt8}
    (hmqd : q.msgQueue = some mqd) (hreceive : (u.queues mqd).receive room = some (msg, r)) :
    mqReceiveFrom true room q u = (some msg, u.put mqd r) := by
  simp [mqReceiveFrom, hmqd, hreceive]

end

/-- Two servers are opened, the first sends a message and the second takes one. -/
def sharing (i j : ι) : List (ι × QueueCall) :=
  [(i, .init 8 1 {}), (j, .init 8 1 {}), (i, .send .tlm true [7]), (j, .receive .tlm true)]

/-- With the same port the second server takes the message of the first. -/
theorem sharing_answers (info : ι → QueueInfo) (hn : -99999999 ≤ port i ∧ port i ≤ 999999999)
    (hij : j ≠ i) (hsame : port j = port i) :
    ∃ t, Runs.run (step port) (start info) (sharing i j) = some t ∧
      t.answers j = [.status 0, .message (some [7])] := by
  obtain ⟨infoI, u, hinit, hnamed⟩ := initMsgQueues_free (u := System.empty)
    System.empty_wellFormed hn fun _ => rfl
  choose mqd hmqd hnames hqueue using fun kind => (hnamed kind).exists_handle
  have htaken := initMsgQueues_taken hn hnames
  have htlm : infoI.tlm.msgQueue = some (mqd .tlm) := hmqd .tlm
  have hempty : u.queues (mqd .tlm) = .empty 1 8 := hqueue .tlm
  obtain ⟨r, hr, hreceive⟩ : ∃ r : Queue UInt8, (Queue.empty 1 8).send [7] = some r ∧
      r.receive 8 = some ([7], .empty 1 8) := ⟨_, rfl, rfl⟩
  have hsend := mqSendTo_eq htlm ((congrArg (Queue.send · [7]) hempty).trans hr)
  have htake : ∀ q : QueueFields, q.msgQueue = some (mqd .tlm) →
      mqReceiveFrom true 8 q (u.put (mqd .tlm) r) =
        (some [7], (u.put (mqd .tlm) r).put (mqd .tlm) (.empty 1 8)) := by
    intro q hq
    apply mqReceiveFrom_eq hq
    change (Function.update u.queues (mqd .tlm) r (mqd .tlm)).receive 8 = _
    rw [Function.update_self]
    exact hreceive
  have hrun : (Runs.run (step port) (start info) (sharing i j)).map (fun t => t.answers j) =
      some [.status 0, .message (some [7])] := by
    simp [sharing, Runs.run, step, start, hinit, hsame, htaken, answer, hij, hij.symm,
      QueueInfo.fields, QueueInfo.room, hsend, htake]
  obtain ⟨t, ht, hanswers⟩ := Option.map_eq_some_iff.mp hrun
  exact ⟨t, ht, hanswers⟩

/-- Were a port opened twice, a server could take the messages of another one. -/
theorem not_private_of_same {info : ι → QueueInfo}
    (hn : -99999999 ≤ port i ∧ port i ≤ 999999999) (hij : j ≠ i) (hsame : port j = port i) :
    ∃ t, Runs.run (step port) (start info) (sharing i j) = some t ∧
      ¬ t.Private j (sharing i j) := by
  obtain ⟨t, hrun, hanswers⟩ := sharing_answers info hn hij hsame
  refine ⟨t, hrun, ?_⟩
  rintro ⟨p, hp, hsees⟩
  have hown : ownCalls j (sharing i j) = [.init 8 1 {}, .receive .tlm true] := by
    simp [ownCalls, sharing, hij.symm]
  have hopens : Opens 8 1 {} := by decide
  have hinit : Alone.step .start (.init 8 1 {}) = some ⟨some (.fresh 8 1), [.status 0]⟩ := by
    simp [Alone.step, Alone.start, hopens]
  have halone : Runs.run Alone.step .start [.init 8 1 {}, .receive .tlm true] =
      some ⟨some (.fresh 8 1), [.status 0, .message none]⟩ := by
    exact Runs.run_cons_eq_some.mpr ⟨_, hinit, rfl⟩
  rw [hown, halone] at hp
  cases hp
  rw [hanswers] at hsees
  cases hsees

end Servers

end HexrotPxiCom.CmdTlmServer
