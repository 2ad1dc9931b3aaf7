import HexrotPxiCom.Interface.Outgoing
import HexrotPxiCom.Interface.Routing

/-!
# The answers to the rejected commands

`cmdTlmServer_run` answers a rejected command through the bounded queue that the controller
fills as well. Whether the answer gets into the queue depends on how many statuses wait there.
-/

namespace HexrotPxiCom.CmdTlmServer

set_option autoImplicit false

open CircularBuffer

/-- A rejected command, what was given to `mq_send` in that turn and its result, whether
`mq_send` fails for another reason than a full queue, and the queue before and after. -/
structure Rejection where
  cmdMsg : CommandStream
  posts : List (CommandStatus × Int)
  mqSend : Bool
  before : List CommandStatus
  after : List CommandStatus

/-- The NotOK of the command gets into the queue. -/
def Rejection.Reported (r : Rejection) : Prop :=
  ∃ cmdStatus, answerKey cmdStatus = (FrameId.cmdStatus.toUInt32, r.cmdMsg.counter,
    CmdStatus.notOK.toUInt32) ∧ r.after = r.before ++ [cmdStatus]

/-- The NotOK of the command is given to `mq_send` once, and gets into the queue unless that is
full or `mq_send` fails otherwise. -/
def Rejection.Answered (maxmsg : Nat) (r : Rejection) : Prop :=
  ∃ cmdStatus, answerKey cmdStatus = (FrameId.cmdStatus.toUInt32, r.cmdMsg.counter,
    CmdStatus.notOK.toUInt32) ∧
    if r.mqSend = true ∧ r.before.length < maxmsg then
      r.posts = [(cmdStatus, 0)] ∧ r.after = r.before ++ [cmdStatus]
    else r.posts = [(cmdStatus, -1)] ∧ r.after = r.before

theorem Rejection.Answered.reported_iff {maxmsg : Nat} {r : Rejection} (h : r.Answered maxmsg) :
    r.Reported ↔ r.mqSend = true ∧ r.before.length < maxmsg := by
  obtain ⟨cmdStatus, hkey, hposts⟩ := h
  split at hposts
  · rename_i hroom
    exact ⟨fun _ => hroom, fun _ => ⟨cmdStatus, hkey, hposts.2⟩⟩
  · rename_i hroom
    refine ⟨?_, fun h => absurd h hroom⟩
    rintro ⟨msg, -, hafter⟩
    rw [hposts.2] at hafter
    have hlen := congrArg List.length hafter
    simp at hlen

/-- The answers with the result of `mq_send`. -/
def posts (trace : List Event) : List (CommandStatus × Int) :=
  trace.filterMap fun
    | .notOK cmdStatus error => some (cmdStatus, error)
    | _ => none

theorem mqSend_open {α : Type} {ok : Bool} {queue after : Option (MsgQueue α)} {msg : α}
    {error : Int} {q : MsgQueue α} (hq : queue = some q)
    (h : mqSend ok queue msg = (error, after)) : ∃ r, after = some r ∧ r.maxmsg = q.maxmsg := by
  subst hq
  unfold mqSend at h
  split at h
  · rename_i r hsend
    cases h
    obtain ⟨p, hp, hsend⟩ := Option.bind_eq_some_iff.mp hsend
    split at hp
    · cases hp
      exact ⟨r, rfl, MsgQueue.send_maxmsg hsend⟩
    · cases hp
  · cases h
    exact ⟨q, rfl, rfl⟩

theorem Takes.maxmsg {α : Type} {blank : α → Prop} {status : ServerStatus} {fd : Int}
    {before after : Option (MsgQueue α)} {sent : List (Int × α × Int)} {q : MsgQueue α}
    (h : Takes blank status fd before sent after) (hq : before = some q) :
    ∃ r, after = some r ∧ r.maxmsg = q.maxmsg := by
  cases h with
  | nothing => exact ⟨q, hq, rfl⟩
  | dropped p r msg hp hreceive | sent p r msg error hp hreceive =>
    cases hp.symm.trans hq
    exact ⟨r, rfl, MsgQueue.receive_maxmsg hreceive⟩

namespace Server

/-- The command statuses in the queue. -/
def waiting (s : Server) : List CommandStatus :=
  (s.info.msgQueueCmdStatus.map MsgQueue.msgs).getD []

/-- The commands that `cmdTlmServer_isCmdAuthorized` rejects in a turn of `cmdTlmServer_run`. -/
def rejections (s : Server) : Action → Server → List Rejection
  | .run env, t =>
    ((checked (t.trace.drop s.trace.length)).filter fun c =>
      !(isCmdAuthorized env.cmdStatus c.1 c.2).1).map fun c =>
        ⟨c.1, posts (t.trace.drop s.trace.length), env.mqSend, s.waiting, t.waiting⟩
  | _, _ => []

/-- As long as the server thread is not done, its queue of command statuses is open. -/
structure QueueOpen (s : Server) : Prop extends CloseWaits s where
  queue : s.server ≠ .done → ∃ q, s.info.msgQueueCmdStatus = some q ∧ q.maxmsg = 4

namespace QueueOpen

variable {s t : Server}

theorem keep (h : s.QueueOpen) (hclosing : t.closing = s.closing)
    (hready : t.info.isReadyServer = s.info.isReadyServer)
    (hdone : s.server = .done → t.server = .done)
    (hqueue : ∀ q, s.info.msgQueueCmdStatus = some q →
      ∃ r, t.info.msgQueueCmdStatus = some r ∧ r.maxmsg = q.maxmsg) : t.QueueOpen := by
  refine ⟨h.toCloseWaits.keep hclosing hready hdone, ?_⟩
  intro hloop
  obtain ⟨q, hq, hmax⟩ := h.queue fun hd => hloop (hdone hd)
  obtain ⟨r, hr, hrq⟩ := hqueue q hq
  exact ⟨r, hr, hrq.trans hmax⟩

theorem run {env : RunEnv} (h : s.QueueOpen) (hturn : RunTurn env s t) : t.QueueOpen := by
  cases hturn with
  | wait hserver =>
    split
    · refine h.keep rfl rfl (fun hd => ?_) fun q hq => ⟨q, hq, rfl⟩
      rw [hserver] at hd
      cases hd
    · exact h
  | leave hserver hready =>
    refine ⟨h.toCloseWaits.basicClose.keep rfl rfl fun _ => rfl, fun hd => absurd rfl hd⟩
  | exited | noClient | nothing | refused | connected | dropped | ended =>
    exact h.keep rfl rfl id fun q hq => ⟨q, hq, rfl⟩
  | command bytes t hloop hstatus hflag hrecv hpos hcmd =>
    rcases handleCmd_cases hcmd with ⟨r, hauth, hput, rfl⟩ | ⟨error, queue, hauth, hsend, rfl⟩
    · exact h.keep rfl rfl id fun q hq => ⟨q, hq, rfl⟩
    · exact h.keep rfl rfl id fun q hq => mqSend_open hq hsend

theorem close (h : s.QueueOpen) (hstep : s.close = some t) : t.QueueOpen := by
  refine ⟨h.toCloseWaits.close hstep, ?_⟩
  rw [(close_threads hstep).1]
  intro hloop
  rcases close_cases hstep with ⟨_, _, _, _, rfl, -⟩ | ⟨hclosing, rfl⟩
  · exact h.queue hloop
  · exact absurd (h.done (Or.inl hclosing)) hloop

theorem tlm {env : TlmEnv} (h : s.QueueOpen) (hstep : s.sendTlmAndCmdStatus env = some t) :
    t.QueueOpen := by
  unfold sendTlmAndCmdStatus at hstep
  split at hstep
  · cases hstep
    split
    · exact h.keep rfl rfl id fun q hq => ⟨q, hq, rfl⟩
    · exact h
  · cases hstep
    split
    · have htakes := (tlmTurn_queues env s).cmdStatus
      obtain ⟨_, _, _, _, _, es, hturn, -⟩ := tlmTurn_cases env s
      rw [hturn] at htakes ⊢
      exact h.keep rfl rfl id fun q hq => htakes.maxmsg hq
    · exact h.keep rfl rfl id fun q hq => ⟨q, hq, rfl⟩
  · cases hstep

theorem step {a : Action} (h : s.QueueOpen) (hstep : s.step a = some t) : t.QueueOpen := by
  cases a with
  | run env => exact h.run (run_turn hstep)
  | tlm env => exact h.tlm hstep
  | sendCmdStatus ok cmdStatusSend counter cmdStatus duration pReason =>
    cases hstep
    exact h.keep rfl rfl id fun q hq => mqSend_open hq rfl
  | sendTlm ok msg =>
    cases hstep
    exact h.keep rfl rfl id fun q hq => ⟨q, hq, rfl⟩
  | getCmd data =>
    obtain ⟨r, -, rfl⟩ := Option.map_eq_some_iff.mp hstep
    exact h.keep rfl rfl id fun q hq => ⟨q, hq, rfl⟩
  | setCommander isCommander =>
    cases hstep
    exact h.keep rfl rfl id fun q hq => ⟨q, hq, rfl⟩
  | close => exact h.close hstep

end QueueOpen

theorem mqSend_answered {ok : Bool} {q : MsgQueue CommandStatus} {msg : CommandStatus}
    {cmdMsg : CommandStream} {error : Int} {queue : Option (MsgQueue CommandStatus)}
    (hkey : answerKey msg = (FrameId.cmdStatus.toUInt32, cmdMsg.counter,
      CmdStatus.notOK.toUInt32))
    (hsend : mqSend ok (some q) msg = (error, queue)) :
    (Rejection.mk cmdMsg [(msg, error)] ok q.msgs
      ((queue.map MsgQueue.msgs).getD [])).Answered q.maxmsg := by
  refine ⟨msg, hkey, ?_⟩
  have hroom := MsgQueue.send_isSome_iff q msg
  unfold mqSend at hsend
  cases ok with
  | false =>
    cases hsend
    exact ⟨rfl, rfl⟩
  | true =>
    rw [if_pos rfl, Option.bind_some] at hsend
    cases hr : q.send msg with
    | none =>
      rw [hr] at hsend hroom
      cases hsend
      rw [if_neg fun h => by simp [h.2] at hroom]
      exact ⟨rfl, rfl⟩
    | some r =>
      rw [hr] at hsend hroom
      cases hsend
      rw [if_pos ⟨rfl, hroom.mp rfl⟩]
      exact ⟨rfl, MsgQueue.send_msgs hr⟩

variable {s t : Server}

theorem rejections_run {env : RunEnv} (es : List Event) (htrace : t.trace = s.trace ++ es) :
    s.rejections (.run env) t =
      ((checked es).filter fun c => !(isCmdAuthorized env.cmdStatus c.1 c.2).1).map fun c =>
        ⟨c.1, posts es, env.mqSend, s.waiting, t.waiting⟩ := by
  rw [← drop_trace htrace]
  rfl

theorem run_answered {env : RunEnv} (hopen : s.QueueOpen) (hturn : RunTurn env s t) :
    ∀ r ∈ s.rejections (.run env) t, r.Answered 4 := by
  have hquiet (es : List Event) (htrace : t.trace = s.trace ++ es) (h : checked es = []) :
      ∀ r ∈ s.rejections (.run env) t, r.Answered 4 := by
    rw [rejections_run es htrace, h]
    simp
  cases hturn with
  | wait hserver =>
    refine hquiet [] ?_ rfl
    split <;> simp
  | leave hserver hready =>
    obtain ⟨es, htrace, hes, -⟩ := basicClose_queues s
    refine hquiet es htrace (checked_quiet fun e he => ?_)
    obtain ⟨fd, rfl⟩ := hes e he
    rfl
  | exited | noClient | nothing => exact hquiet [] (by simp) rfl
  | refused fd => exact hquiet [.accept fd, .close fd] (by simp [emit]) rfl
  | connected fd => exact hquiet [.accept fd, .connect] (by simp) rfl
  | dropped => exact hquiet [.close s.info.socketConnect] (by simp) rfl
  | ended => exact hquiet [.recvZero, .close s.info.socketConnect] (by simp) rfl
  | command bytes t hloop hstatus hflag hrecv hpos hcmd =>
    generalize CommandStream.ofBytes _ = cmdMsg at hcmd
    rcases handleCmd_cases hcmd with ⟨r, hauth, hput, rfl⟩ | ⟨error, queue, hauth, hsend, rfl⟩
    · intro x hx
      rw [rejections_run [.recv bytes.val, .check cmdMsg s.info.isCommander, .put cmdMsg]
        (by simp)] at hx
      have hnone : ([(cmdMsg, s.info.isCommander)].filter fun c =>
          !(isCmdAuthorized env.cmdStatus c.1 c.2).1) = [] := by
        rw [List.filter_cons_of_neg (by simpa using hauth), List.filter_nil]
      rw [show checked [.recv bytes.val, .check cmdMsg s.info.isCommander, .put cmdMsg] =
        [(cmdMsg, s.info.isCommander)] from rfl, hnone] at hx
      cases hx
    · obtain ⟨q, hq, hmax⟩ := hopen.queue (by rw [hloop.1]; decide)
      have hkey := isCmdAuthorized_answer hauth
      generalize hanswer : (isCmdAuthorized env.cmdStatus cmdMsg _).2 = msg at hsend hkey ⊢
      have hanswered := mqSend_answered hkey (hq ▸ hsend)
      intro x hx
      rw [rejections_run [.recv bytes.val, .check cmdMsg s.info.isCommander,
        .notOK msg error] (by simp)] at hx
      obtain ⟨c, hc, rfl⟩ := List.mem_map.mp hx
      have hpair : c = (cmdMsg, s.info.isCommander) :=
        List.mem_singleton.mp (List.mem_filter.mp hc).1
      subst hpair
      rw [hmax] at hanswered
      have hbefore : s.waiting = q.msgs := by
        unfold waiting
        rw [hq]
        rfl
      rw [hbefore]
      exact hanswered

theorem step_answered {a : Action} (hopen : s.QueueOpen) (h : s.step a = some t) :
    ∀ r ∈ s.rejections a t, r.Answered 4 := by
  cases a with
  | run env => exact run_answered hopen (run_turn h)
  | tlm | sendCmdStatus | sendTlm | getCmd | setCommander | close =>
    intro r hr
    cases hr

theorem QueueOpen.start (fdsFd : Int) (sizeMsgTlm : Nat) (socketListen : Int)
    (maxNumQueueTlm : Nat) (cmdMsgBuffer : CircularBuf) : QueueOpen (.start fdsFd
      (.init sizeMsgTlm socketListen maxNumQueueTlm cmdMsgBuffer)) := by
  refine ⟨⟨fun _ => rfl, ?_⟩, fun _ => ⟨_, rfl, rfl⟩⟩
  rintro (h | h)
  · cases h
  · cases h

end Server

/-- The answer to a rejected command gets into the queue when fewer than four statuses wait
there; a full queue stays as it is. -/
theorem rejections_answered (fdsFd : Int) (sizeMsgTlm : Nat) (socketListen : Int)
    (maxNumQueueTlm : Nat) (cmdMsgBuffer : CircularBuf) (as : List Action) :
    ∀ r ∈ Runs.observe Server.step Server.rejections
        (.start fdsFd (.init sizeMsgTlm socketListen maxNumQueueTlm cmdMsgBuffer)) as,
      r.Answered 4 ∧ (r.Reported ↔ r.mqSend = true ∧ r.before.length < 4) := by
  refine Runs.observe_forall (fun _ _ _ h hs => h.step hs) ?_
    (Server.QueueOpen.start fdsFd sizeMsgTlm socketListen maxNumQueueTlm cmdMsgBuffer)
  intro s a t hopen hs r hr
  have h := Server.step_answered hopen hs r hr
  exact ⟨h, h.reported_iff⟩

/-- A command of the CSC is rejected while the queue is empty. -/
theorem rejections_answered_empty : ∃ r ∈ Runs.observe Server.step Server.rejections started
    (connecting ++ [recvCmd .csc 7]), r.Answered 4 ∧ r.Reported := by
  have hrun : (Runs.observe Server.step Server.rejections started
      (connecting ++ [recvCmd .csc 7])).any (fun r =>
        r.mqSend && decide (r.before.length < 4)) = true := by
    decide +kernel
  obtain ⟨r, hr, h⟩ := List.any_eq_true.mp hrun
  obtain ⟨hsend, hroom⟩ := Bool.and_eq_true_iff.mp h
  obtain ⟨hanswered, hreported⟩ := rejections_answered _ _ _ _ _ _ r hr
  exact ⟨r, hr, hanswered, hreported.mpr ⟨hsend, of_decide_eq_true hroom⟩⟩

/-- The controller has filled the queue when a command of the CSC is rejected. -/
def fullQueue : List Action :=
  connecting ++ [.sendCmdStatus true default 1 1 0 [], .sendCmdStatus true default 2 1 0 [],
    .sendCmdStatus true default 3 1 0 [], .sendCmdStatus true default 4 1 0 [], recvCmd .csc 7]

theorem rejection_dropped : ∃ t,
    Runs.run Server.step started fullQueue = some t ∧ t.info.serverStatus = .connected ∧
    (posts t.trace).map (fun p => (p.1.header.counter, p.2)) = [(7, -1)] ∧
    t.waiting.map (fun m => m.header.counter) = [1, 2, 3, 4] ∧
    ¬ ∀ r ∈ Runs.observe Server.step Server.rejections started fullQueue, r.Reported := by
  have hrun : (Runs.run Server.step started fullQueue).any (fun t =>
      t.info.serverStatus == .connected &&
        (posts t.trace).map (fun p => (p.1.header.counter, p.2)) == [(7, -1)] &&
        t.waiting.map (fun m => m.header.counter) == [1, 2, 3, 4]) = true := by
    decide +kernel
  obtain ⟨t, ht, hall⟩ := (Option.any_eq_true _ _).mp hrun
  simp only [Bool.and_eq_true, beq_iff_eq] at hall
  obtain ⟨⟨hstatus, hposts⟩, hwaiting⟩ := hall
  refine ⟨t, ht, hstatus, hposts, hwaiting, ?_⟩
  have hdropped : (Runs.observe Server.step Server.rejections started fullQueue).any (fun r =>
      r.before == r.after) = true := by
    decide +kernel
  obtain ⟨r, hr, hsame⟩ := List.any_eq_true.mp hdropped
  intro h
  obtain ⟨cmdStatus, -, hafter⟩ := h r hr
  rw [beq_iff_eq.mp hsame] at hafter
  have hlen := congrArg List.length hafter
  simp at hlen

end HexrotPxiCom.CmdTlmServer
