import HexrotPxiCom.Interface.Outgoing
import HexrotPxiCom.Interface.Reconnect

/-!
# How soon a command status is sent

While a client stays connected, each command status that waits is sent to it after a fixed number
of steps of the telemetry thread, whatever the server thread and the callers do in between.
-/

namespace HexrotPxiCom.CmdTlmServer

set_option autoImplicit false

/-- The client does not close the connection. -/
def RunEnv.Stays (env : RunEnv) : Prop := (CmdTlmServer.recv env).1 ≠ 0

/-- The queue can be read, and the sends do not fail. -/
def TlmEnv.Sends (env : TlmEnv) : Prop :=
  env.mqReceiveCmdStatus = true ∧ 0 ≤ env.sendCmdStatus ∧ 0 ≤ env.sendTlm

def Action.isTlm : Action → Bool
  | .tlm _ => true
  | _ => false

/-- What the answers to an action are while the client stays. -/
def Action.Stays : Action → Prop
  | .run env => env.Stays
  | .tlm env => env.Sends
  | .close => False
  | _ => True

theorem Action.Stays.open {a : Action} (h : a.Stays) : a ≠ .close := by
  rintro rfl
  exact h

/-- The server thread is not in `cmdTlmServer_closeConn`, nor in `tcpServer_accept`. -/
def ServerPc.serves : ServerPc → Bool
  | .loopTest | .testFlag | .recv | .check _ | .put _ | .mqSend _ => true
  | _ => false

/-- The sockets and the messages of the sends of command statuses. -/
def sentTo (trace : List Event) : List (Int × CommandStatus) :=
  (sentCmdStatus trace).map fun s => (s.1, s.2.1)

namespace Threads

/-- The telemetry thread is not being closed. -/
structure Telling (t : Threads) : Prop where
  isReadyTlm : t.info.isReadyTlm = true
  tlm : t.tlm ≠ .done
  waiting : t.tlm = .startWait → t.tlmPc = .loopTest

/-- The client on `fd` is connected, and neither thread is about to end that. -/
structure Linked (fd : Int) (t : Threads) : Prop where
  socketConnect : t.info.socketConnect = fd
  serverStatus : t.info.serverStatus = .connected
  isCloseConnDetected : t.info.isCloseConnDetected = false
  tlmPc : t.tlmPc ≠ .setFlag
  serverPc : t.serverPc.serves = true

/-- The command status that the telemetry thread has taken and not sent. -/
def inFlight (t : Threads) : List CommandStatus :=
  match t.tlmPc with
  | .testConnected | .send => [t.info.pMsgCmdStatus.getD default]
  | _ => []

def pending (t : Threads) : List CommandStatus :=
  t.inFlight ++ (t.info.msgQueueCmdStatus.map MsgQueue.msgs).getD []

/-- The steps of the telemetry thread in its loop up to the next send of a command status. -/
def stepsToSend : TlmPc → Nat
  | .loopTest => 8
  | .testEdge => 7
  | .clearFlag => 6
  | .setLast => 5
  | .testFlag => 4
  | .receive => 3
  | .testConnected => 2
  | .send => 1
  | .testFlagTlm => 12
  | .receiveTlm => 11
  | .testConnectedTlm _ => 10
  | .sendTlm _ => 9
  | .setFlag => 9

def toSend (t : Threads) : Nat := stepsToSend t.tlmPc + if t.tlm = .startWait then 1 else 0

section
variable {t u : Threads} {fd : Int}

theorem sentTo_append (events more : List Event) :
    sentTo (events ++ more) = sentTo events ++ sentTo more := by
  rw [sentTo, Server.sentCmdStatus_append, List.map_append]
  rfl

theorem toSend_pos (t : Threads) : 0 < t.toSend := by
  have hpos : 0 < stepsToSend t.tlmPc := by
    cases t.tlmPc with
    | _ => simp [stepsToSend]
  exact Nat.lt_of_lt_of_le hpos (Nat.le_add_right _ _)

theorem Telling.toSend_le (h : Telling t) : t.toSend ≤ 12 := by
  unfold toSend
  split
  · rename_i hwait
    rw [h.waiting hwait]
    decide
  · cases t.tlmPc with
    | _ => simp [stepsToSend]

theorem Telling.loop_or_wait (h : Telling t) : t.tlm = .startWait ∨ t.tlm = .loop := by
  cases htlm : t.tlm with
  | startWait => exact Or.inl rfl
  | loop => exact Or.inr rfl
  | done => exact absurd htlm h.tlm

/-- What the server thread and the callers leave to the telemetry thread. -/
structure Waits (t u : Threads) : Prop where
  tlm : u.tlm = t.tlm
  tlmPc : u.tlmPc = t.tlmPc
  pending : t.pending <+: u.pending
  trace : ∃ events, u.trace = t.trace ++ events ∧ sentTo events = []

theorem Telling.of_same (h : Telling t) (hready : u.info.isReadyTlm = t.info.isReadyTlm)
    (htlm : u.tlm = t.tlm) (hpc : u.tlmPc = t.tlmPc) : Telling u := by
  refine ⟨hready.trans h.isReadyTlm, ?_, ?_⟩
  · rw [htlm]
    exact h.tlm
  · rw [htlm, hpc]
    exact h.waiting

theorem Waits.toSend (h : Waits t u) : u.toSend = t.toSend := by
  rw [Threads.toSend, h.tlm, h.tlmPc]
  rfl

theorem Linked.not_ended {env : RunEnv} (hstays : env.Stays) (hserver : t.server = .loop)
    (hpc : t.serverPc = .recv) (hstep : t.serverStep env = some u) : u.serverPc ≠ .closeSocket := by
  simp only [serverStep, hserver, hpc] at hstep
  split at hstep
  · cases hstep
    exact ServerPc.noConfusion
  · rw [if_neg hstays] at hstep
    cases hstep
    exact ServerPc.noConfusion

theorem pending_mqSend {ok : Bool} {msg : CommandStatus} (hinFlight : u.inFlight = t.inFlight)
    (hqueue : u.info.msgQueueCmdStatus =
      (CmdTlmServer.mqSend ok t.info.msgQueueCmdStatus msg).2) : t.pending <+: u.pending := by
  rw [pending, pending, hinFlight, hqueue]
  apply List.prefix_append_right_inj _ |>.mpr
  unfold CmdTlmServer.mqSend
  cases hsend : (if ok then t.info.msgQueueCmdStatus else none).bind fun q => q.send msg with
  | none => exact List.prefix_refl _
  | some q' =>
    obtain ⟨q, hq, hsend⟩ := Option.bind_eq_some_iff.mp hsend
    have hopen : t.info.msgQueueCmdStatus = some q := by
      cases ok with
      | true => exact hq
      | false => cases hq
    rw [hopen]
    simp only [Option.map_some, Option.getD_some, MsgQueue.send_msgs hsend]
    exact List.prefix_append _ _

theorem Linked.serverStep {env : RunEnv} (h : Linked fd t) (ht : Serving t)
    (hstays : env.Stays) (hstep : t.serverStep env = some u) : Linked fd u ∧ Waits t u := by
  obtain ⟨hconnect, hstatus, hflag, htlmPc, hserves⟩ := h
  obtain ⟨htlm, hsame⟩ := serverStep_frame hstep
  obtain ⟨-, -, hready⟩ := serverStep_flags hstep
  cases serverStep_step hstep with
  | wait hserver =>
    rw [if_pos ht.isReadyServer]
    exact ⟨⟨hconnect, hstatus, hflag, htlmPc, hserves⟩,
      ⟨rfl, rfl, List.prefix_refl _, [], (List.append_nil _).symm, rfl⟩⟩
  | toAccept hserver hpc hnot =>
    rw [hstatus] at hnot
    cases hnot
  | exited hserver hpc hnot =>
    rw [hstatus] at hnot
    cases hnot
  | basicClose hserver hpc hnotReady =>
    rw [ht.isReadyServer] at hnotReady
    cases hnotReady
  | detected hserver hpc hdetected =>
    rw [hflag] at hdetected
    cases hdetected
  | ended hserver hpc => exact absurd rfl (Linked.not_ended hstays hserver hpc hstep)
  | noClient hserver hpc | accept _ hserver hpc | refused hserver hpc
  | toSetConnected hserver hpc | setConnected hserver hpc | closeSocket hserver hpc
  | clearSocket hserver hpc | setDisconnected hserver hpc | setExit hserver hpc =>
    rw [hpc] at hserves
    cases hserves
  | toTestFlag | toRecv | nothing =>
    exact ⟨⟨hconnect, hstatus, hflag, htlmPc, rfl⟩,
      ⟨rfl, rfl, List.prefix_refl _, [], (List.append_nil _).symm, rfl⟩⟩
  | recv | permit | reject | put =>
    exact ⟨⟨hconnect, hstatus, hflag, htlmPc, rfl⟩,
      ⟨rfl, rfl, List.prefix_refl _, [_], rfl, rfl⟩⟩
  | mqSend =>
    exact ⟨⟨hconnect, hstatus, hflag, htlmPc, rfl⟩,
      ⟨rfl, rfl, pending_mqSend rfl rfl, [_], rfl, rfl⟩⟩

theorem Linked.callStep {a : Action} (h : Linked fd t) (hrun : a.isRun = false)
    (htlm : a.isTlm = false) (hstays : a.Stays) (hstep : t.step a = some u) :
    Linked fd u ∧ Waits t u := by
  obtain ⟨hconnect, hstatus, hflag, htlmPc, hserves⟩ := h
  cases a with
  | run env => cases hrun
  | tlm env => cases htlm
  | close => cases hstays
  | sendCmdStatus =>
    cases hstep
    exact ⟨⟨hconnect, hstatus, hflag, htlmPc, hserves⟩,
      ⟨rfl, rfl, pending_mqSend rfl rfl, [], (List.append_nil _).symm, rfl⟩⟩
  | sendTlm | setCommander =>
    cases hstep
    exact ⟨⟨hconnect, hstatus, hflag, htlmPc, hserves⟩,
      ⟨rfl, rfl, List.prefix_refl _, [], (List.append_nil _).symm, rfl⟩⟩
  | getCmd data =>
    obtain ⟨s, hs, rfl⟩ := Option.map_eq_some_iff.mp hstep
    obtain ⟨r, -, rfl⟩ := Option.map_eq_some_iff.mp hs
    exact ⟨⟨hconnect, hstatus, hflag, htlmPc, hserves⟩,
      ⟨rfl, rfl, List.prefix_refl _, [], (List.append_nil _).symm, rfl⟩⟩

/-- What a step of the telemetry thread does for the command statuses. -/
inductive SendStep (fd : Int) (t : Threads) : Threads → Prop where
  | nearer {u : Threads} (hlt : u.toSend < t.toSend) (hpending : u.pending = t.pending)
      (htrace : ∃ events, u.trace = t.trace ++ events ∧ sentTo events = []) : SendStep fd t u
  | empty {u : Threads} (hpending : t.pending = [])
      (htrace : u.trace = t.trace) : SendStep fd t u
  | sent {u : Threads} (msg : CommandStatus) (hone : t.toSend = 1) (hle : u.toSend ≤ 12)
      (hpending : t.pending = msg :: u.pending)
      (htrace : ∃ event, u.trace = t.trace ++ [event] ∧ sentTo [event] = [(fd, msg)]) :
      SendStep fd t u

theorem pending_nil {env : TlmEnv} (hpc : t.tlmPc = .receive)
    (hopen : env.mqReceiveCmdStatus = true)
    (hnone : mqReceive env.mqReceiveCmdStatus t.info.msgQueueCmdStatus = none) :
    t.pending = [] := by
  rw [hopen] at hnone
  rw [pending, inFlight, hpc]
  cases hqueue : t.info.msgQueueCmdStatus with
  | none => rfl
  | some q =>
    rw [hqueue] at hnone
    obtain ⟨maxmsg, msgs, hb⟩ := q
    cases msgs with
    | nil => rfl
    | cons msg msgs => cases hnone

theorem Telling.goOn (h : Telling t) (htlm : t.tlm = .loop) (hsame : u.tlm = t.tlm)
    (hready : u.info.isReadyTlm = t.info.isReadyTlm) : Telling u := by
  rw [htlm] at hsame
  refine ⟨hready.trans h.isReadyTlm, ?_, ?_⟩
  · rw [hsame]
    exact ThreadState.noConfusion
  · rw [hsame]
    exact ThreadState.noConfusion

theorem toSend_lt (htlm : t.tlm = .loop) (hsame : u.tlm = t.tlm)
    (hlt : stepsToSend u.tlmPc < stepsToSend t.tlmPc) : u.toSend < t.toSend := by
  rw [Threads.toSend, Threads.toSend, hsame, htlm]
  exact hlt

theorem Telling.tlmStep {env : TlmEnv} (h : Telling t) (hstep : t.tlmStep env = some u) :
    Telling u := by
  obtain ⟨-, -, hready⟩ := tlmStep_flags hstep
  cases tlmStep_step hstep with
  | wait htlm =>
    rw [if_pos h.isReadyTlm]
    exact ⟨h.isReadyTlm, ThreadState.noConfusion, ThreadState.noConfusion⟩
  | leave htlm hpc hnotReady =>
    rw [h.isReadyTlm] at hnotReady
    cases hnotReady
  | _ => exact h.goOn (by assumption) rfl hready

theorem Linked.tlmStep {env : TlmEnv} (h : Linked fd t) (ht : Telling t)
    (hsends : env.Sends) (hstep : t.tlmStep env = some u) : Linked fd u ∧ SendStep fd t u := by
  obtain ⟨hconnect, hstatus, hflag, htlmPc, hserves⟩ := h
  obtain ⟨hopen, hsend, hsendTlm⟩ := hsends
  have hsilent : ∃ events, t.trace = t.trace ++ events ∧ sentTo events = [] :=
    ⟨[], (List.append_nil _).symm, rfl⟩
  cases tlmStep_step hstep with
  | wait htlm =>
    rw [if_pos ht.isReadyTlm]
    refine ⟨⟨hconnect, hstatus, hflag, htlmPc, hserves⟩, .nearer ?_ rfl hsilent⟩
    simp [Threads.toSend, htlm]
  | leave htlm hpc hnotReady =>
    rw [ht.isReadyTlm] at hnotReady
    cases hnotReady
  | toTestFlagTlm htlm hpc =>
    rcases hpc with ⟨hpc, hdetected⟩ | ⟨hpc, hnone⟩ | ⟨hpc, hnot⟩
    · rw [hflag] at hdetected
      cases hdetected
    · exact ⟨⟨hconnect, hstatus, hflag, TlmPc.noConfusion, hserves⟩,
        .empty (pending_nil hpc hopen hnone) rfl⟩
    · exact absurd hstatus hnot
  | receive msg queue htlm hpc hreceive =>
    refine ⟨⟨hconnect, hstatus, hflag, TlmPc.noConfusion, hserves⟩, .nearer ?_ ?_ hsilent⟩
    · exact toSend_lt htlm rfl (by simp [hpc, stepsToSend])
    · obtain ⟨q, hq, hmsgs⟩ := Server.mqReceive_some hreceive
      simp [pending, inFlight, hpc, hq, MsgQueue.receive_msgs hmsgs]
  | send htlm hpc =>
    have hnot : ¬ env.sendCmdStatus < 0 := Int.not_lt.mpr hsend
    refine ⟨⟨hconnect, hstatus, hflag, ?_, hserves⟩,
      .sent (t.info.pMsgCmdStatus.getD default) ?_ ?_ ?_ ⟨_, rfl, ?_⟩⟩
    · simp [hnot]
    · simp [Threads.toSend, hpc, htlm, stepsToSend]
    · exact (ht.tlmStep hstep).toSend_le
    · simp [pending, inFlight, hpc, hnot]
    · simp [sentTo, sentCmdStatus, hconnect]
  | sendTlm n htlm hpc =>
    have hnot : ¬ env.sendTlm < 0 := Int.not_lt.mpr hsendTlm
    refine ⟨⟨hconnect, hstatus, hflag, ?_, hserves⟩, .nearer ?_ ?_ ⟨[_], rfl, rfl⟩⟩
    · simp [hnot]
    · exact toSend_lt htlm rfl (by simp [hpc, hnot, stepsToSend])
    · simp [pending, inFlight, hpc, hnot]
  | setFlag htlm hpc => exact absurd hpc htlmPc
  | toLoopTest htlm hpc =>
    refine ⟨⟨hconnect, hstatus, hflag, TlmPc.noConfusion, hserves⟩, .nearer ?_ ?_ hsilent⟩
    · rcases hpc with ⟨hpc, -⟩ | ⟨hpc, -⟩ | ⟨n, hpc, -⟩
      · exact toSend_lt htlm rfl (by simp [hpc, stepsToSend])
      · exact toSend_lt htlm rfl (by simp [hpc, stepsToSend])
      · exact toSend_lt htlm rfl (by simp [hpc, stepsToSend])
    · rcases hpc with ⟨hpc, -⟩ | ⟨hpc, -⟩ | ⟨n, hpc, -⟩
      · simp [pending, inFlight, hpc]
      · simp [pending, inFlight, hpc]
      · simp [pending, inFlight, hpc]
  | toTestEdge htlm hpc | toClearFlag htlm hpc | toSetLast htlm hpc | clearFlag htlm hpc
  | setLast htlm hpc | toReceive htlm hpc | toSend htlm hpc | toReceiveTlm htlm hpc
  | receiveTlm _ _ htlm hpc | toSendTlm n htlm hpc =>
    refine ⟨⟨hconnect, hstatus, by simp [hflag], TlmPc.noConfusion, hserves⟩,
      .nearer ?_ ?_ hsilent⟩
    · exact toSend_lt htlm rfl (by simp [hpc, stepsToSend])
    · simp [pending, inFlight, hpc]

/-- Since the trace was `old`, the messages `msgs` have been sent on `fd` or are pending, in their
order, and `k` more steps of the telemetry thread are enough to send them all. -/
def Left (fd : Int) (old : List Event) (msgs : List CommandStatus) (k : Nat) (t : Threads) : Prop :=
  ∃ events, t.trace = old ++ events ∧
    msgs.map (Prod.mk fd) <+: sentTo events ++ t.pending.map (Prod.mk fd) ∧
    (msgs.length ≤ (sentTo events).length ∨
      12 * (msgs.length - (sentTo events).length) + t.toSend ≤ k + 12)

variable {old : List Event} {msgs : List CommandStatus} {k : Nat}

theorem Telling.left (ht : Telling t) (fd : Int) :
    Left fd t.trace t.pending (12 * t.pending.length) t := by
  refine ⟨[], (List.append_nil _).symm, List.prefix_refl _, Or.inr ?_⟩
  exact Nat.add_le_add_left ht.toSend_le _

theorem Left.zero (h : Left fd old msgs 0 t) :
    ∃ events, t.trace = old ++ events ∧ msgs.map (Prod.mk fd) <+: sentTo events := by
  obtain ⟨events, htrace, hprefix, hleft⟩ := h
  refine ⟨events, htrace, List.prefix_of_prefix_length_le hprefix (List.prefix_append _ _) ?_⟩
  rw [List.length_map]
  rcases hleft with hall | hmore
  · exact hall
  · have hpos := t.toSend_pos
    omega

theorem Left.waits (h : Left fd old msgs k t) (hwaits : Waits t u) : Left fd old msgs k u := by
  obtain ⟨events, htrace, hprefix, hleft⟩ := h
  obtain ⟨more, hmore, hsilent⟩ := hwaits.trace
  have hsent : sentTo (events ++ more) = sentTo events := by
    rw [sentTo_append, hsilent, List.append_nil]
  refine ⟨events ++ more, ?_, ?_, ?_⟩
  · rw [hmore, htrace, List.append_assoc]
  · rw [hsent]
    exact hprefix.trans ((List.prefix_append_right_inj _).mpr (hwaits.pending.map _))
  · rw [hsent, hwaits.toSend]
    exact hleft

theorem Left.sendStep (h : Left fd old msgs k t) (hstep : SendStep fd t u) :
    Left fd old msgs (k - 1) u := by
  obtain ⟨events, htrace, hprefix, hleft⟩ := h
  have hpos := u.toSend_pos
  cases hstep with
  | nearer hlt hpending hmore =>
    obtain ⟨more, hmore, hsilent⟩ := hmore
    have hsent : sentTo (events ++ more) = sentTo events := by
      rw [sentTo_append, hsilent, List.append_nil]
    refine ⟨events ++ more, ?_, ?_, ?_⟩
    · rw [hmore, htrace, List.append_assoc]
    · rw [hsent, hpending]
      exact hprefix
    · rw [hsent]
      omega
  | empty hpending hsame =>
    rw [hpending, List.map_nil, List.append_nil] at hprefix
    have hall := hprefix.length_le
    rw [List.length_map] at hall
    exact ⟨events, hsame.trans htrace, hprefix.trans (List.prefix_append _ _), Or.inl hall⟩
  | sent msg hone hle hpending hmore =>
    obtain ⟨event, hmore, hsend⟩ := hmore
    have hsent : sentTo (events ++ [event]) = sentTo events ++ [(fd, msg)] := by
      rw [sentTo_append, hsend]
    refine ⟨events ++ [event], ?_, ?_, ?_⟩
    · rw [hmore, htrace, List.append_assoc]
    · rw [hsent, List.append_assoc]
      rw [hpending] at hprefix
      exact hprefix
    · rw [hsent, List.length_append, List.length_singleton]
      omega

theorem Telling.start {sizeMsgTlm maxNumQueueTlm : Nat} {socketListen fdsFd : Int}
    {cmdMsgBuffer : CircularBuffer.CircularBuf} :
    Telling (.start fdsFd (.init sizeMsgTlm socketListen maxNumQueueTlm cmdMsgBuffer)) := by
  refine ⟨rfl, ?_, fun _ => rfl⟩
  exact ThreadState.noConfusion

/-- Whatever the client does, the telemetry thread leaves its loop only when it is closed. -/
theorem Telling.step {a : Action} (h : Telling t) (hopen : a ≠ .close)
    (hstep : t.step a = some u) : Telling u := by
  cases a with
  | run env =>
    obtain ⟨htlm, hpc⟩ := serverStep_frame hstep
    exact h.of_same (serverStep_flags hstep).2.2 htlm hpc
  | tlm env => exact h.tlmStep hstep
  | sendCmdStatus | sendTlm | setCommander =>
    cases hstep
    exact h.of_same rfl rfl rfl
  | getCmd data =>
    obtain ⟨s, hs, rfl⟩ := Option.map_eq_some_iff.mp hstep
    obtain ⟨r, -, rfl⟩ := Option.map_eq_some_iff.mp hs
    exact h.of_same rfl rfl rfl
  | close => exact absurd rfl hopen

theorem Linked.otherStep {a : Action} (h : Linked fd t) (ht : Serving t)
    (htlm : a.isTlm = false) (hstays : a.Stays) (hstep : t.step a = some u) :
    Linked fd u ∧ Waits t u := by
  cases hrun : a.isRun with
  | true =>
    cases a with
    | run env => exact h.serverStep ht hstays hstep
    | _ => cases hrun
  | false => exact h.callStep hrun htlm hstays hstep

theorem Left.run {as : List Action} (h : Left fd old msgs k t) (hlinked : Linked fd t)
    (hserving : Serving t) (htelling : Telling t) (hstays : ∀ a ∈ as, a.Stays)
    (hrun : Runs.run step t as = some u) : Left fd old msgs (k - as.countP Action.isTlm) u := by
  refine (Runs.run_countdown
    (fun k s => Left fd old msgs k s ∧ Linked fd s ∧ Serving s ∧ Telling s) Action.Stays
    ?_ ?_ hstays hrun ⟨h, hlinked, hserving, htelling⟩).1
  · rintro k s a v hmine hok ⟨hleft, hlinked, hserving, htelling⟩ hstep
    have hopen := Action.Stays.open hok
    cases a with
    | tlm env =>
      obtain ⟨hlinked', hsend⟩ := hlinked.tlmStep htelling hok hstep
      exact ⟨hleft.sendStep hsend, hlinked', hserving.step hopen hstep,
        htelling.tlmStep hstep⟩
    | _ => cases hmine
  · rintro k s a v hother hok ⟨hleft, hlinked, hserving, htelling⟩ hstep
    have hopen := Action.Stays.open hok
    obtain ⟨hlinked', hwaits⟩ := hlinked.otherStep hserving hother hok hstep
    exact ⟨hleft.waits hwaits, hlinked', hserving.step hopen hstep,
      htelling.step hopen hstep⟩

theorem Telling.run {as : List Action} (h : Telling t) (hrun : Runs.run Threads.step t as = some u)
    (hopen : .close ∉ as) : Telling u := by
  refine Runs.run_mem_invariant ?_ hrun h
  intro s a v hmem hs hstep
  exact hs.step (fun heq => hopen (heq ▸ hmem)) hstep

end

/-- While the client stays and `cmdTlmServer_close` is not called, neither before nor meanwhile,
twelve steps of the telemetry thread for each pending command status are enough to send them all to
this client, in their order. -/
theorem statuses_sent {sizeMsgTlm maxNumQueueTlm : Nat} {socketListen fdsFd fd : Int}
    {cmdMsgBuffer : CircularBuffer.CircularBuf} {as bs : List Action} {t u : Threads}
    (hbefore : Runs.run step
      (.start fdsFd (.init sizeMsgTlm socketListen maxNumQueueTlm cmdMsgBuffer)) as = some t)
    (hopen : .close ∉ as) (hlinked : t.Linked fd)
    (hafter : Runs.run step t bs = some u) (hstays : ∀ a ∈ bs, a.Stays)
    (hsteps : 12 * t.pending.length ≤ bs.countP Action.isTlm) :
    ∃ events, u.trace = t.trace ++ events ∧ t.pending.map (Prod.mk fd) <+: sentTo events := by
  have hserving := Serving.start.run hbefore hopen
  have htelling := Telling.start.run hbefore hopen
  have hleft := (htelling.left fd).run hlinked hserving htelling hstays hafter
  rw [Nat.sub_eq_zero_of_le hsteps] at hleft
  exact hleft.zero

/-- Two statuses are queued, and the server thread looks for commands while they are sent. -/
def twoWaiting : List Action :=
  List.replicate 5 (.run { accept := 5 }) ++
    [.sendCmdStatus true default 1 1 0 [], .sendCmdStatus true default 2 1 0 []]

def sending : List Action :=
  List.replicate 12 (.tlm {}) ++ List.replicate 5 (.run {}) ++ List.replicate 12 (.tlm {})

theorem statuses_sent_two : ∃ t u,
    Runs.run step (.start 0 (.init 64 3 10 ⟨[default, default, default], 0, 0, 3⟩)) twoWaiting =
      some t ∧ t.pending.length = 2 ∧ Runs.run step t sending = some u ∧
    ∃ events, u.trace = t.trace ++ events ∧ t.pending.map (Prod.mk 5) <+: sentTo events := by
  have hrun : (Runs.run step (.start 0 (.init 64 3 10 ⟨[default, default, default], 0, 0, 3⟩))
      (twoWaiting ++ sending)).isSome = true := by
    decide +kernel
  have hwaiting : (Runs.run step (.start 0 (.init 64 3 10 ⟨[default, default, default], 0, 0, 3⟩))
      twoWaiting).any (fun t => t.info.socketConnect = 5 ∧ t.info.serverStatus = .connected ∧
        t.info.isCloseConnDetected = false ∧ t.tlmPc ≠ .setFlag ∧ t.serverPc.serves = true ∧
        t.pending.length = 2) = true := by
    decide +kernel
  obtain ⟨u, hu⟩ := Option.isSome_iff_exists.mp hrun
  obtain ⟨t, hbefore, hafter⟩ := Runs.run_append_eq_some.mp hu
  rw [hbefore] at hwaiting
  obtain ⟨hfd, hstatus, hflag, hpc, hserves, htwo⟩ := of_decide_eq_true hwaiting
  refine ⟨t, u, hbefore, htwo, hafter, statuses_sent hbefore (by simp [twoWaiting])
    ⟨hfd, hstatus, hflag, hpc, hserves⟩ hafter ?_ (by rw [htwo]; decide)⟩
  intro a ha
  simp only [sending, List.mem_append, List.mem_replicate] at ha
  rcases ha with (⟨-, rfl⟩ | ⟨-, rfl⟩) | ⟨-, rfl⟩
  · exact ⟨rfl, by decide, by decide⟩
  · exact fun hzero => by cases hzero
  · exact ⟨rfl, by decide, by decide⟩

end Threads

end HexrotPxiCom.CmdTlmServer
