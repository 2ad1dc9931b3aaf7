import HexrotPxiCom.Interface.StatusQueue

/-!
# The outgoing messages

What the two message queues take, what the telemetry thread takes from them, and what it
sends. A turn of the telemetry thread is one step, and so is a turn of the server thread.
-/

namespace HexrotPxiCom.CmdTlmServer

set_option autoImplicit false

open CircularBuffer

universe u
variable {α : Type u}

theorem lastReason_lt : lengthCmdStatusReason - 1 < lengthCmdStatusReason := by decide

/-- The message that `cmdTlmServer_sendCmdStatusToMsgQueue` gives to `mq_send`. -/
def cmdStatusMsg (cmdStatusSend : CommandStatus) (counter cmdStatus : UInt32) (duration : UInt64)
    (pReason : List UInt8) : CommandStatus :=
  { header := { cmdStatusSend.header with
      frameId := FrameId.cmdStatus.toUInt32
      counter := counter }
    cmdStatus := cmdStatus
    duration := duration
    reason := (strncpy lengthCmdStatusReason pReason).set (lengthCmdStatusReason - 1) 0
      lastReason_lt }

theorem sendCmdStatusToMsgQueue_eq (ok : Bool) (cmdStatusSend : CommandStatus)
    (counter cmdStatus : UInt32) (duration : UInt64) (pReason : List UInt8) (info : ServerInfo) :
    info.sendCmdStatusToMsgQueue ok cmdStatusSend counter cmdStatus duration pReason =
      ((mqSend ok info.msgQueueCmdStatus
        (cmdStatusMsg cmdStatusSend counter cmdStatus duration pReason)).1,
        { info with msgQueueCmdStatus := (mqSend ok info.msgQueueCmdStatus
          (cmdStatusMsg cmdStatusSend counter cmdStatus duration pReason)).2 }) := rfl

/-- The sends of command statuses: the socket, the message and the result. -/
def sentCmdStatus (trace : List Event) : List (Int × CommandStatus × Int) :=
  trace.filterMap fun
    | .sendCmdStatus fd msg error => some (fd, msg, error)
    | _ => none

def sentTlm (trace : List Event) : List (Int × List UInt8 × Int) :=
  trace.filterMap fun
    | .sendTlm fd msg error => some (fd, msg, error)
    | _ => none

/-- The answers of `cmdTlmServer_run` whose `mq_send` returned 0. -/
def postedNotOK (trace : List Event) : List CommandStatus :=
  trace.filterMap fun
    | .notOK cmdStatus error => if error = 0 then some cmdStatus else none
    | _ => none

/-- The command statuses whose `mq_send` returns 0 in a step. -/
def postedCmdStatus (s : Server) : Action → Server → List CommandStatus
  | .sendCmdStatus ok cmdStatusSend counter cmdStatus duration pReason, _ =>
    if (s.info.sendCmdStatusToMsgQueue ok cmdStatusSend counter cmdStatus duration pReason).1 = 0
    then [cmdStatusMsg cmdStatusSend counter cmdStatus duration pReason]
    else []
  | _, t => postedNotOK (t.trace.drop s.trace.length)

/-- The telemetry whose `mq_send` returns 0 in a step. -/
def postedTlm (s : Server) : Action → Server → List (List UInt8)
  | .sendTlm ok msg, _ => if (s.info.sendTlmToMsgQueue ok msg).1 = 0 then [msg] else []
  | _, _ => []

/-- A message that the telemetry thread took from its queue, with the server status in that
turn and the sends of the turn. -/
structure Popped (α : Type u) where
  msg : α
  serverStatus : ServerStatus
  sends : List (Int × α × Int)
  deriving DecidableEq

/-- The front of a queue that is gone afterwards. -/
def gone (before after : Option (MsgQueue α)) : List α :=
  let msgs := (before.map MsgQueue.msgs).getD []
  msgs.take (msgs.length - ((after.map MsgQueue.msgs).getD []).length)

def poppedCmdStatus (s : Server) : Action → Server → List (Popped CommandStatus)
  | .tlm _, t => (gone s.info.msgQueueCmdStatus t.info.msgQueueCmdStatus).map fun msg =>
      ⟨msg, s.info.serverStatus, sentCmdStatus (t.trace.drop s.trace.length)⟩
  | _, _ => []

def poppedTlm (s : Server) : Action → Server → List (Popped (List UInt8))
  | .tlm _, t => (gone s.info.msgQueueTlm t.info.msgQueueTlm).map fun msg =>
      ⟨msg, s.info.serverStatus, sentTlm (t.trace.drop s.trace.length)⟩
  | _, _ => []

/-- A message is sent once as it is, or it is not sent: without a connection, or when there
is nothing to send. -/
def Popped.Settled (blank : α → Prop) (p : Popped α) : Prop :=
  (p.serverStatus = .connected ∧ ∃ fd error, p.sends = [(fd, p.msg, error)]) ∨
    (p.sends = [] ∧ (p.serverStatus ≠ .connected ∨ blank p.msg))

/-- The messages leave a queue in the order in which they were accepted, and are sent so. -/
structure Delivered (blank : α → Prop) (accepted : List α) (popped : List (Popped α))
    (sent : List (Int × α × Int)) (queue : Option (MsgQueue α)) : Prop where
  order : ∃ rest, accepted = popped.map Popped.msg ++ rest ∧
    ∀ q, queue = some q → rest = q.msgs
  sends : sent = popped.flatMap Popped.sends
  settled : ∀ p ∈ popped, p.Settled blank
  sublist : (sent.map fun x => x.2.1).Sublist accepted

theorem sends_sublist {blank : α → Prop} {popped : List (Popped α)}
    (h : ∀ p ∈ popped, p.Settled blank) :
    ((popped.flatMap Popped.sends).map fun x => x.2.1).Sublist (popped.map Popped.msg) := by
  induction popped with
  | nil => simp
  | cons p popped ih =>
    have hrest := ih fun p hp => h p (List.mem_cons_of_mem _ hp)
    rw [List.flatMap_cons, List.map_append, List.map_cons]
    rcases h p List.mem_cons_self with ⟨-, fd, error, hsends⟩ | ⟨hsends, -⟩
    · rw [hsends]
      exact hrest.cons_cons p.msg
    · rw [hsends]
      exact hrest.cons p.msg

theorem Delivered.mk' {blank : α → Prop} {accepted : List α} {popped : List (Popped α)}
    {sent : List (Int × α × Int)} {queue : Option (MsgQueue α)}
    (order : ∃ rest, accepted = popped.map Popped.msg ++ rest ∧
      ∀ q, queue.map MsgQueue.msgs = some q → rest = q)
    (sends : sent = popped.flatMap Popped.sends) (settled : ∀ p ∈ popped, p.Settled blank) :
    Delivered blank accepted popped sent queue := by
  obtain ⟨rest, haccepted, hrest⟩ := order
  refine ⟨⟨rest, haccepted, ?_⟩, sends, settled, ?_⟩
  · intro q hq
    exact hrest q.msgs (by rw [hq]; rfl)
  · rw [sends, haccepted]
    exact (sends_sublist settled).trans (List.sublist_append_left _ _)

/-- What one step does with a queue. -/
structure StepDelivers (blank : α → Prop) (before : Option (MsgQueue α)) (posted : List α)
    (popped : List (Popped α)) (sent : List (Int × α × Int)) (after : Option (MsgQueue α)) :
    Prop where
  conserves : Runs.Conserves (before.map MsgQueue.msgs) posted (popped.map Popped.msg)
    (after.map MsgQueue.msgs)
  sends : sent = popped.flatMap Popped.sends
  settled : ∀ p ∈ popped, p.Settled blank

namespace StepDelivers

variable {blank : α → Prop} {before after : Option (MsgQueue α)} {posted : List α}
  {sent : List (Int × α × Int)}

/-- A step that leaves the queue as it is, or closes it. -/
theorem quiet (hposted : posted = []) (hsent : sent = []) (h : after = before ∨ after = none) :
    StepDelivers blank before posted [] sent after := by
  subst hposted
  refine ⟨?_, hsent, by simp⟩
  rcases h with rfl | rfl
  · cases after with
    | none => exact .closed _
    | some q => exact .moved (by simp)
  · exact .closed _

theorem post {ok : Bool} {msg : α} {error : Int} (h : mqSend ok before msg = (error, after))
    (hposted : posted = if error = 0 then [msg] else []) (hsent : sent = []) :
    StepDelivers blank before posted [] sent after := by
  unfold mqSend at h
  split at h
  · rename_i q hq
    obtain ⟨r, hr, hsend⟩ := Option.bind_eq_some_iff.mp hq
    cases h
    rw [if_pos rfl] at hposted
    subst hposted
    refine ⟨?_, hsent, by simp⟩
    split at hr
    · rw [hr]
      exact .moved (by simp [MsgQueue.send_msgs hsend])
    · cases hr
  · cases h
    exact quiet (hposted.trans (if_neg (by decide))) hsent (Or.inl rfl)

end StepDelivers

section
universe v
variable {σ : Type u} {β : Type v} {step : σ → β → Option σ} {s t : σ} {bs : List β}
  {blank : α → Prop} {queue : σ → Option (MsgQueue α)} {posted : σ → β → σ → List α}
  {popped : σ → β → σ → List (Popped α)} {sent : σ → List (Int × α × Int)}

/-- Steps that deliver make a run that delivers. -/
theorem StepDelivers.run
    (hstep : ∀ s b t, step s b = some t → ∃ new, sent t = sent s ++ new ∧
      StepDelivers blank (queue s) (posted s b t) (popped s b t) new (queue t))
    (hrun : Runs.run step s bs = some t) (hqueue : (queue s).map MsgQueue.msgs = some [])
    (hsent : sent s = []) :
    Delivered blank (Runs.observe step posted s bs) (Runs.observe step popped s bs) (sent t)
      (queue t) := by
  have hconserves (s : σ) (b : β) (t : σ) (h : step s b = some t) :
      Runs.Conserves ((queue s).map MsgQueue.msgs) (posted s b t)
        ((popped s b t).map Popped.msg) ((queue t).map MsgQueue.msgs) := by
    obtain ⟨new, -, hnew⟩ := hstep s b t h
    exact hnew.conserves
  have hsends (s : σ) (b : β) (t : σ) (h : step s b = some t) :
      sent t = sent s ++ (popped s b t).flatMap Popped.sends := by
    obtain ⟨new, hsent, hnew⟩ := hstep s b t h
    rw [hsent, hnew.sends]
  refine Delivered.mk' ?_ ?_ ?_
  · obtain ⟨rest, haccepted, hrest⟩ :=
      Runs.run_conserves hconserves hrun hqueue
    refine ⟨rest, ?_, hrest⟩
    rw [Runs.observe_hom rfl fun _ _ => List.map_append]
    exact haccepted
  · rw [Runs.observe_history hsends hrun, hsent, List.nil_append,
      Runs.observe_hom rfl fun _ _ => List.flatMap_append]
  · exact Runs.observe_forall (I := fun _ => True) (fun _ _ _ _ _ => trivial)
      (fun s b t _ h => (hstep s b t h).choose_spec.2.settled) trivial

end

/-- What the telemetry thread does with a queue in a turn: nothing, or it takes the oldest
message and drops or sends it. -/
inductive Takes (blank : α → Prop) (status : ServerStatus) (fd : Int)
    (before : Option (MsgQueue α)) : List (Int × α × Int) → Option (MsgQueue α) → Prop where
  | nothing : Takes blank status fd before [] before
  | dropped (q r : MsgQueue α) (msg : α) (hq : before = some q)
      (hreceive : q.receive = some (msg, r)) (hdrop : status ≠ .connected ∨ blank msg) :
      Takes blank status fd before [] (some r)
  | sent (q r : MsgQueue α) (msg : α) (error : Int) (hq : before = some q)
      (hreceive : q.receive = some (msg, r)) (hstatus : status = .connected) :
      Takes blank status fd before [(fd, msg, error)] (some r)

theorem gone_self (q : Option (MsgQueue α)) : gone q q = [] := by
  simp [gone]

theorem gone_receive {q r : MsgQueue α} {msg : α} (h : q.receive = some (msg, r)) :
    gone (some q) (some r) = [msg] := by
  simp [gone, MsgQueue.receive_msgs h]

theorem Takes.delivers {blank : α → Prop} {status : ServerStatus} {fd : Int}
    {before after : Option (MsgQueue α)} {sent : List (Int × α × Int)}
    (h : Takes blank status fd before sent after) :
    StepDelivers blank before [] ((gone before after).map fun msg => ⟨msg, status, sent⟩) sent
      after := by
  cases h with
  | nothing =>
    rw [gone_self]
    exact .quiet rfl rfl (Or.inl rfl)
  | dropped q r msg hq hreceive hdrop =>
    rw [hq, gone_receive hreceive]
    refine ⟨.moved ?_, rfl, ?_⟩
    · rw [List.append_nil, MsgQueue.receive_msgs hreceive]
      rfl
    · intro p hp
      rw [List.mem_singleton.mp hp]
      exact Or.inr ⟨rfl, hdrop⟩
  | sent q r msg error hq hreceive hstatus =>
    rw [hq, gone_receive hreceive]
    refine ⟨.moved ?_, rfl, ?_⟩
    · rw [List.append_nil, MsgQueue.receive_msgs hreceive]
      rfl
    · intro p hp
      rw [List.mem_singleton.mp hp]
      exact Or.inl ⟨hstatus, fd, error, rfl⟩

namespace Server

theorem mqReceive_some {ok : Bool} {queue : Option (MsgQueue α)} {msg : α} {r : MsgQueue α}
    (h : mqReceive ok queue = some (msg, r)) :
    ∃ q, queue = some q ∧ q.receive = some (msg, r) := by
  obtain ⟨q, hq, hreceive⟩ := Option.bind_eq_some_iff.mp h
  split at hq
  · exact ⟨q, hq, hreceive⟩
  · cases hq

/-- What a turn of the telemetry thread does with the two queues. -/
structure TlmQueues (s t : Server) : Prop where
  cmdStatus : Takes (fun _ => False) s.info.serverStatus s.info.socketConnect
    s.info.msgQueueCmdStatus (sentCmdStatus (t.trace.drop s.trace.length))
    t.info.msgQueueCmdStatus
  tlm : Takes (fun msg => msg = []) s.info.serverStatus s.info.socketConnect
    s.info.msgQueueTlm (sentTlm (t.trace.drop s.trace.length)) t.info.msgQueueTlm

theorem sendLastCmdStateInMsgQueue_takes (env : TlmEnv) (s : Server) :
    ∃ queue msg es, (s.sendLastCmdStateInMsgQueue env).2 = { s with
        info := { s.info with msgQueueCmdStatus := queue, pMsgCmdStatus := msg }
        trace := s.trace ++ es } ∧
      sentTlm es = [] ∧
      Takes (fun _ => False) s.info.serverStatus s.info.socketConnect s.info.msgQueueCmdStatus
        (sentCmdStatus es) queue := by
  unfold sendLastCmdStateInMsgQueue
  split
  · exact ⟨s.info.msgQueueCmdStatus, s.info.pMsgCmdStatus, [], by simp, rfl, .nothing⟩
  · rename_i msg queue hmq
    obtain ⟨q, hq, hreceive⟩ := mqReceive_some hmq
    dsimp only
    split
    · rename_i hstatus
      exact ⟨some queue, some msg, _, rfl, rfl, .sent q queue msg _ hq hreceive hstatus⟩
    · rename_i hstatus
      exact ⟨some queue, some msg, [], by simp, rfl,
        .dropped q queue msg hq hreceive (Or.inl hstatus)⟩

theorem sendLastTlmInMsgQueue_takes (env : TlmEnv) (s : Server) :
    ∃ queue msg es, (s.sendLastTlmInMsgQueue env).2 = { s with
        info := { s.info with msgQueueTlm := queue, pMsgTlm := msg }
        trace := s.trace ++ es } ∧
      sentCmdStatus es = [] ∧
      Takes (fun msg => msg = []) s.info.serverStatus s.info.socketConnect s.info.msgQueueTlm
        (sentTlm es) queue := by
  unfold sendLastTlmInMsgQueue
  split
  · exact ⟨s.info.msgQueueTlm, s.info.pMsgTlm, [], by simp, rfl, .nothing⟩
  · rename_i msg queue hmq
    obtain ⟨q, hq, hreceive⟩ := mqReceive_some hmq
    dsimp only
    rw [take_overwrite]
    split
    · rename_i hsend
      exact ⟨some queue, some _, _, rfl, rfl, .sent q queue msg _ hq hreceive hsend.2⟩
    · rename_i hsend
      refine ⟨some queue, some (overwrite msg (s.info.pMsgTlm.getD [])), [], by simp, rfl,
        .dropped q queue msg hq hreceive ?_⟩
      by_cases hstatus : s.info.serverStatus = .connected
      · right
        by_contra hne
        exact hsend ⟨List.length_pos_of_ne_nil hne, hstatus⟩
      · exact Or.inl hstatus

theorem sentCmdStatus_append (l r : List Event) :
    sentCmdStatus (l ++ r) = sentCmdStatus l ++ sentCmdStatus r := List.filterMap_append

theorem sentTlm_append (l r : List Event) : sentTlm (l ++ r) = sentTlm l ++ sentTlm r :=
  List.filterMap_append

theorem drop_trace {s t : Server} {es : List Event} (htrace : t.trace = s.trace ++ es) :
    t.trace.drop s.trace.length = es := by
  rw [htrace, List.drop_left]

/-- A turn, by what it adds to the trace. -/
theorem TlmQueues.of_events {s t : Server} {es : List Event} (htrace : t.trace = s.trace ++ es)
    (hcmd : Takes (fun _ => False) s.info.serverStatus s.info.socketConnect
      s.info.msgQueueCmdStatus (sentCmdStatus es) t.info.msgQueueCmdStatus)
    (htlm : Takes (fun msg => msg = []) s.info.serverStatus s.info.socketConnect
      s.info.msgQueueTlm (sentTlm es) t.info.msgQueueTlm) : TlmQueues s t := by
  refine ⟨?_, ?_⟩
  · rw [drop_trace htrace]
    exact hcmd
  · rw [drop_trace htrace]
    exact htlm

theorem TlmQueues.idle {s t : Server} (htrace : t.trace = s.trace)
    (hqueue1 : t.info.msgQueueCmdStatus = s.info.msgQueueCmdStatus)
    (hqueue2 : t.info.msgQueueTlm = s.info.msgQueueTlm) : TlmQueues s t := by
  have hnone : t.trace = s.trace ++ [] := htrace.trans (List.append_nil _).symm
  refine .of_events hnone ?_ ?_
  · rw [hqueue1]
    exact .nothing
  · rw [hqueue2]
    exact .nothing

/-- What a turn takes from each queue it has sent, or dropped. -/
theorem tlmTurn_queues (env : TlmEnv) (s : Server) : TlmQueues s (s.tlmTurn env) := by
  generalize hturn : s.tlmTurn env = v
  have hcases := tlmTurn_turn env s
  rw [hturn] at hcases
  cases hcases with
  | detected hd =>
    rw [updateLastServerStatus_eq]
    exact .idle rfl rfl rfl
  | cmdStatusFailed t hd h1 =>
    obtain ⟨queue1, msg1, es1, heq1, htlm1, htakes1⟩ :=
      sendLastCmdStateInMsgQueue_takes env s.updateLastServerStatus
    rw [h1, updateLastServerStatus_eq] at heq1
    rw [updateLastServerStatus_eq] at htakes1
    cases heq1
    exact .of_events rfl htakes1 (htlm1 ▸ .nothing)
  | both t u error hd h1 h2 =>
    obtain ⟨queue1, msg1, es1, heq1, htlm1, htakes1⟩ :=
      sendLastCmdStateInMsgQueue_takes env s.updateLastServerStatus
    obtain ⟨queue2, msg2, es2, heq2, hcmd2, htakes2⟩ := sendLastTlmInMsgQueue_takes env t
    rw [h2] at heq2
    rw [h1, updateLastServerStatus_eq] at heq1
    rw [updateLastServerStatus_eq] at htakes1
    cases heq1
    cases heq2
    have htrace : s.trace ++ es1 ++ es2 = s.trace ++ (es1 ++ es2) := List.append_assoc _ _ _
    have hcmd : sentCmdStatus (es1 ++ es2) = sentCmdStatus es1 := by
      rw [sentCmdStatus_append, hcmd2, List.append_nil]
    have htlm : sentTlm (es1 ++ es2) = sentTlm es2 := by
      rw [sentTlm_append, htlm1, List.nil_append]
    split
    all_goals exact .of_events htrace (hcmd ▸ htakes1) (htlm ▸ htakes2)

/-- What a step does with the two queues. -/
structure Queues (s : Server) (a : Action) (t : Server) : Prop where
  cmdStatus : StepDelivers (fun _ => False) s.info.msgQueueCmdStatus (postedCmdStatus s a t)
    (poppedCmdStatus s a t) (sentCmdStatus (t.trace.drop s.trace.length))
    t.info.msgQueueCmdStatus
  tlm : StepDelivers (fun msg => msg = []) s.info.msgQueueTlm (postedTlm s a t) (poppedTlm s a t)
    (sentTlm (t.trace.drop s.trace.length)) t.info.msgQueueTlm

variable {s t : Server} {a : Action} {es : List Event}

/-- A step without messages, which may close the queues. -/
theorem Queues.quiet (es : List Event) (htrace : t.trace = s.trace ++ es)
    (hsent : sentCmdStatus es = [] ∧ sentTlm es = [] ∧ postedNotOK es = [])
    (hqueue1 : t.info.msgQueueCmdStatus = s.info.msgQueueCmdStatus ∨
      t.info.msgQueueCmdStatus = none)
    (hqueue2 : t.info.msgQueueTlm = s.info.msgQueueTlm ∨ t.info.msgQueueTlm = none)
    (hposted : postedCmdStatus s a t = postedNotOK (t.trace.drop s.trace.length) ∧
      postedTlm s a t = [])
    (hpopped : poppedCmdStatus s a t = [] ∧ poppedTlm s a t = []) : Queues s a t := by
  obtain ⟨h1, h2, h3⟩ := hsent
  have hdrop := drop_trace htrace
  refine ⟨?_, ?_⟩
  · rw [hpopped.1, hdrop]
    apply StepDelivers.quiet _ h1 hqueue1
    rw [hposted.1, hdrop, h3]
  · rw [hpopped.2, hdrop]
    exact StepDelivers.quiet hposted.2 h2 hqueue2

theorem closes_quiet (h : ∀ e ∈ es, ∃ fd, e = Event.close fd) :
    sentCmdStatus es = [] ∧ sentTlm es = [] ∧ postedNotOK es = [] := by
  refine ⟨?_, ?_, ?_⟩
  all_goals
    apply List.filterMap_eq_nil_iff.mpr
    intro e he
    obtain ⟨fd, rfl⟩ := h e he
    rfl

theorem basicClose_queueTlm (s : Server) :
    s.basicClose.info.msgQueueTlm = none ∨
      s.basicClose.info.msgQueueTlm = s.info.msgQueueTlm := by
  have hstatus (s : Server) : s.closeMsgQueueCmdStatus.info.msgQueueTlm = s.info.msgQueueTlm := by
    unfold closeMsgQueueCmdStatus
    split <;> rfl
  have hsockets (s : Server) :
      s.closeSocketConnect.closeSocketListen.info.msgQueueTlm = s.info.msgQueueTlm := by
    unfold closeSocketListen closeSocketConnect
    split <;> split <;> rfl
  unfold basicClose
  rw [hstatus]
  unfold closeMsgQueueTlm
  split
  · exact Or.inl rfl
  · exact Or.inr (hsockets s)

theorem basicClose_queues (s : Server) :
    ∃ es, s.basicClose.trace = s.trace ++ es ∧ (∀ e ∈ es, ∃ fd, e = Event.close fd) ∧
      (s.basicClose.info.msgQueueCmdStatus = s.info.msgQueueCmdStatus ∨
        s.basicClose.info.msgQueueCmdStatus = none) ∧
      (s.basicClose.info.msgQueueTlm = s.info.msgQueueTlm ∨
        s.basicClose.info.msgQueueTlm = none) := by
  obtain ⟨_, _, _, _, es, hclose, hes⟩ := basicClose_cases s
  refine ⟨es, ?_, hes, (basicClose_queue s).symm, (basicClose_queueTlm s).symm⟩
  rw [hclose]

/-- A rejected command and the `mq_send` of its answer. -/
theorem Queues.answered {env : RunEnv} {bytes : List UInt8} {cmdMsg : CommandStream}
    {isCommander : Bool} {msg : CommandStatus} {error : Int}
    (hsend : mqSend env.mqSend s.info.msgQueueCmdStatus msg = (error, t.info.msgQueueCmdStatus))
    (htrace : t.trace = s.trace ++ [.recv bytes, .check cmdMsg isCommander, .notOK msg error])
    (htlm : t.info.msgQueueTlm = s.info.msgQueueTlm) : Queues s (.run env) t := by
  have hdrop := drop_trace htrace
  refine ⟨?_, ?_⟩
  · rw [hdrop]
    refine .post hsend ?_ rfl
    change postedNotOK (t.trace.drop s.trace.length) = _
    rw [hdrop]
    by_cases herror : error = 0 <;> simp [postedNotOK, herror]
  · rw [hdrop]
    exact .quiet rfl rfl (Or.inl htlm)

theorem run_queues {env : RunEnv} (h : RunTurn env s t) : Queues s (.run env) t := by
  cases h with
  | wait hserver =>
    split
    · exact .quiet [] (by simp) ⟨rfl, rfl, rfl⟩ (Or.inl rfl) (Or.inl rfl) ⟨rfl, rfl⟩
        ⟨rfl, rfl⟩
    · exact .quiet [] (by simp) ⟨rfl, rfl, rfl⟩ (Or.inl rfl) (Or.inl rfl) ⟨rfl, rfl⟩
        ⟨rfl, rfl⟩
  | leave hserver hready =>
    obtain ⟨es, htrace, hes, hqueue1, hqueue2⟩ := basicClose_queues s
    exact .quiet es htrace (closes_quiet hes) hqueue1 hqueue2 ⟨rfl, rfl⟩ ⟨rfl, rfl⟩
  | exited | noClient | nothing =>
    exact .quiet [] (by simp) ⟨rfl, rfl, rfl⟩ (Or.inl rfl) (Or.inl rfl) ⟨rfl, rfl⟩
      ⟨rfl, rfl⟩
  | refused fd =>
    exact .quiet [.accept fd, .close fd] (by simp [emit]) ⟨rfl, rfl, rfl⟩ (Or.inl rfl)
      (Or.inl rfl) ⟨rfl, rfl⟩ ⟨rfl, rfl⟩
  | connected fd =>
    exact .quiet [.accept fd, .connect] (by simp) ⟨rfl, rfl, rfl⟩ (Or.inl rfl)
      (Or.inl rfl) ⟨rfl, rfl⟩ ⟨rfl, rfl⟩
  | dropped =>
    exact .quiet [.close s.info.socketConnect] (by simp) ⟨rfl, rfl, rfl⟩ (Or.inl rfl)
      (Or.inl rfl) ⟨rfl, rfl⟩ ⟨rfl, rfl⟩
  | ended =>
    exact .quiet [.recvZero, .close s.info.socketConnect] (by simp) ⟨rfl, rfl, rfl⟩
      (Or.inl rfl) (Or.inl rfl) ⟨rfl, rfl⟩ ⟨rfl, rfl⟩
  | command bytes t hloop hstatus hflag hrecv hpos hcmd =>
    generalize CommandStream.ofBytes _ = cmdMsg at hcmd
    rcases handleCmd_cases hcmd with ⟨r, hauth, hput, rfl⟩ | ⟨error, queue, hauth, hsend, rfl⟩
    · exact .quiet [.recv bytes.val, .check cmdMsg s.info.isCommander, .put cmdMsg]
        (by simp) ⟨rfl, rfl, rfl⟩ (Or.inl rfl) (Or.inl rfl) ⟨rfl, rfl⟩ ⟨rfl, rfl⟩
    · have htrace : s.trace ++ [.recv bytes.val] ++ [.check cmdMsg s.info.isCommander] ++
          [.notOK (isCmdAuthorized env.cmdStatus cmdMsg s.info.isCommander).2 error] =
          s.trace ++ [.recv bytes.val, .check cmdMsg s.info.isCommander,
            .notOK (isCmdAuthorized env.cmdStatus cmdMsg s.info.isCommander).2 error] := by simp
      exact .answered hsend htrace rfl

theorem StepDelivers.post_eq {blank : α → Prop} {ok : Bool} {queue : Option (MsgQueue α)}
    {msg : α} : StepDelivers blank queue (if (mqSend ok queue msg).1 = 0 then [msg] else []) [] []
      (mqSend ok queue msg).2 :=
  .post rfl rfl rfl

theorem tlm_queues {env : TlmEnv} (h : s.sendTlmAndCmdStatus env = some t) :
    Queues s (.tlm env) t := by
  have hturn : TlmQueues s t := by
    unfold sendTlmAndCmdStatus at h
    split at h
    · cases h
      split
      · exact .idle rfl rfl rfl
      · exact .idle rfl rfl rfl
    · cases h
      split
      · exact tlmTurn_queues env s
      · exact .idle rfl rfl rfl
    · cases h
  obtain ⟨es, htrace, hes, -⟩ := sendTlmAndCmdStatus_effect h
  have hposted : postedCmdStatus s (.tlm env) t = [] := by
    change postedNotOK (t.trace.drop s.trace.length) = []
    rw [drop_trace htrace]
    apply List.filterMap_eq_nil_iff.mpr
    intro e he
    have hsend := hes e he
    cases e <;> first | rfl | cases hsend
  exact ⟨hposted ▸ hturn.cmdStatus.delivers, hturn.tlm.delivers⟩

theorem close_queues (h : s.close = some t) : Queues s .close t := by
  rcases close_cases h with ⟨es, _, _, _, rfl, -, hes⟩ | ⟨-, rfl⟩
  · refine .quiet es rfl ?_ (Or.inl rfl) (Or.inl rfl) ⟨rfl, rfl⟩ ⟨rfl, rfl⟩
    rcases hes with ⟨-, rfl⟩ | ⟨-, rfl⟩
    · exact ⟨rfl, rfl, rfl⟩
    · exact ⟨rfl, rfl, rfl⟩
  · obtain ⟨es, htrace, hes, hqueue1, hqueue2⟩ := basicClose_queues s
    exact .quiet es htrace (closes_quiet hes) hqueue1 hqueue2 ⟨rfl, rfl⟩ ⟨rfl, rfl⟩

theorem step_queues (h : s.step a = some t) : Queues s a t := by
  cases a with
  | run env => exact run_queues (run_turn h)
  | tlm env => exact tlm_queues h
  | sendCmdStatus ok cmdStatusSend counter cmdStatus duration pReason =>
    cases h
    have hdrop : s.trace.drop s.trace.length = [] := List.drop_length
    refine ⟨?_, ?_⟩
    · dsimp only
      rw [hdrop]
      exact StepDelivers.post_eq
    · dsimp only
      rw [hdrop]
      exact .quiet rfl rfl (Or.inl rfl)
  | sendTlm ok msg =>
    cases h
    have hdrop : s.trace.drop s.trace.length = [] := List.drop_length
    refine ⟨?_, ?_⟩
    · dsimp only
      rw [hdrop]
      refine .quiet ?_ rfl (Or.inl rfl)
      change postedNotOK (s.trace.drop s.trace.length) = []
      rw [hdrop]
      rfl
    · dsimp only
      rw [hdrop]
      exact StepDelivers.post_eq
  | getCmd data =>
    obtain ⟨r, -, rfl⟩ := Option.map_eq_some_iff.mp h
    exact .quiet [] (by simp) ⟨rfl, rfl, rfl⟩ (Or.inl rfl) (Or.inl rfl) ⟨rfl, rfl⟩
      ⟨rfl, rfl⟩
  | setCommander isCommander =>
    cases h
    exact .quiet [] (by simp) ⟨rfl, rfl, rfl⟩ (Or.inl rfl) (Or.inl rfl) ⟨rfl, rfl⟩
      ⟨rfl, rfl⟩
  | close => exact close_queues h

end Server

/-- The messages of each queue leave it in the order in which they were accepted. One that
leaves it while a client is connected is sent then, once and with its own bytes, unless it is
a telemetry message without bytes. -/
theorem outgoing_delivered {sizeMsgTlm maxNumQueueTlm : Nat} {socketListen fdsFd : Int}
    {cmdMsgBuffer : CircularBuf} {s t : Server} {as : List Action}
    (hstart : s = .start fdsFd (.init sizeMsgTlm socketListen maxNumQueueTlm cmdMsgBuffer))
    (hrun : Runs.run Server.step s as = some t) :
    Delivered (fun _ => False) (Runs.observe Server.step postedCmdStatus s as)
        (Runs.observe Server.step poppedCmdStatus s as) (sentCmdStatus t.trace)
        t.info.msgQueueCmdStatus ∧
      Delivered (fun msg => msg = []) (Runs.observe Server.step postedTlm s as)
        (Runs.observe Server.step poppedTlm s as) (sentTlm t.trace) t.info.msgQueueTlm := by
  have hcmdStatus (s : Server) (a : Action) (t : Server) (h : s.step a = some t) :
      ∃ new, sentCmdStatus t.trace = sentCmdStatus s.trace ++ new ∧
        StepDelivers (fun _ => False) s.info.msgQueueCmdStatus (postedCmdStatus s a t)
          (poppedCmdStatus s a t) new t.info.msgQueueCmdStatus := by
    obtain ⟨es, htrace, -⟩ := Server.step_effect h
    refine ⟨sentCmdStatus es, by rw [htrace, Server.sentCmdStatus_append], ?_⟩
    have hstep := (Server.step_queues h).cmdStatus
    rwa [Server.drop_trace htrace] at hstep
  have htlm (s : Server) (a : Action) (t : Server) (h : s.step a = some t) :
      ∃ new, sentTlm t.trace = sentTlm s.trace ++ new ∧
        StepDelivers (fun msg => msg = []) s.info.msgQueueTlm (postedTlm s a t)
          (poppedTlm s a t) new t.info.msgQueueTlm := by
    obtain ⟨es, htrace, -⟩ := Server.step_effect h
    refine ⟨sentTlm es, by rw [htrace, Server.sentTlm_append], ?_⟩
    have hstep := (Server.step_queues h).tlm
    rwa [Server.drop_trace htrace] at hstep
  subst hstart
  exact ⟨StepDelivers.run hcmdStatus hrun rfl rfl, StepDelivers.run htlm hrun rfl rfl⟩

/-- A client is connected, and the telemetry thread has seen it. -/
def connects : List Action := [.run {}, .run { accept := 5 }, .tlm {}, .tlm {}]

/-- The second message is shorter than the first, whose bytes are still in the buffer. -/
theorem outgoing_delivered_shorter : ∃ t,
    Runs.run Server.step started
      (connects ++ [.sendTlm true [1, 2, 3], .sendTlm true [4], .tlm {}, .tlm {}]) = some t ∧
    sentTlm t.trace = [(5, [1, 2, 3], 1), (5, [4], 1)] ∧
    Delivered (fun msg => msg = [])
      (Runs.observe Server.step postedTlm started
        (connects ++ [.sendTlm true [1, 2, 3], .sendTlm true [4], .tlm {}, .tlm {}]))
      (Runs.observe Server.step poppedTlm started
        (connects ++ [.sendTlm true [1, 2, 3], .sendTlm true [4], .tlm {}, .tlm {}]))
      (sentTlm t.trace) t.info.msgQueueTlm := by
  have hrun : (Runs.run Server.step started
      (connects ++ [.sendTlm true [1, 2, 3], .sendTlm true [4], .tlm {}, .tlm {}])).any (fun t =>
        sentTlm t.trace == [(5, [1, 2, 3], 1), (5, [4], 1)]) = true := by
    decide +kernel
  obtain ⟨t, ht, hsent⟩ := (Option.any_eq_true _ _).mp hrun
  exact ⟨t, ht, beq_iff_eq.mp hsent, (outgoing_delivered rfl ht).2⟩

/-- A telemetry message without bytes is taken while the client is connected, and not sent. -/
theorem outgoing_not_delivered : ∃ t,
    Runs.run Server.step started (connects ++ [.sendTlm true [], .tlm {}]) = some t ∧
    Runs.observe Server.step postedTlm started (connects ++ [.sendTlm true [], .tlm {}]) = [[]] ∧
    ¬ Delivered (fun _ => False)
      (Runs.observe Server.step postedTlm started (connects ++ [.sendTlm true [], .tlm {}]))
      (Runs.observe Server.step poppedTlm started (connects ++ [.sendTlm true [], .tlm {}]))
      (sentTlm t.trace) t.info.msgQueueTlm := by
  obtain ⟨t, ht⟩ := Option.isSome_iff_exists.mp (show (Runs.run Server.step started
    (connects ++ [.sendTlm true [], .tlm {}])).isSome = true by decide +kernel)
  refine ⟨t, ht, by decide +kernel, ?_⟩
  intro h
  have hpopped : ⟨[], .connected, []⟩ ∈ Runs.observe Server.step poppedTlm started
      (connects ++ [.sendTlm true [], .tlm {}]) := by
    decide +kernel
  rcases h.settled _ hpopped with ⟨-, fd, error, hsends⟩ | ⟨-, hstatus | hblank⟩
  · cases hsends
  · exact hstatus rfl
  · exact hblank

end HexrotPxiCom.CmdTlmServer
