import HexrotPxiCom.Interface.Server

/-!
# What a step of the server does

Every way a turn of `cmdTlmServer_run` can go, and what a step of any thread adds to the
trace.
-/

namespace HexrotPxiCom.CmdTlmServer

set_option autoImplicit false

open CircularBuffer

/-- A `send` on the connected socket. -/
def Event.isSend : Event → Bool
  | .sendCmdStatus _ _ _ | .sendTlm _ _ _ => true
  | _ => false

def Event.sendFailed : Event → Bool
  | .sendCmdStatus _ _ error | .sendTlm _ _ error => decide (error < 0)
  | _ => false

/-- The new bytes stand in front of the old ones. -/
theorem take_overwrite (bytes memory : List UInt8) :
    (overwrite bytes memory).take bytes.length = bytes := by
  simp [overwrite]

/-- Nothing that concerns a received command. -/
def Event.isQuiet : Event → Bool
  | .recv _ | .check _ _ | .put _ | .notOK _ _ => false
  | _ => true

namespace Server

@[simp] theorem emit_trace (e : Event) (s : Server) : (s.emit e).trace = s.trace ++ [e] := rfl

@[simp] theorem emit_info (e : Event) (s : Server) : (s.emit e).info = s.info := rfl

@[simp] theorem closeConn_trace (s : Server) :
    s.closeConn.trace = s.trace ++ [.close s.info.socketConnect] := rfl

def Looping (s : Server) : Prop := s.server = .loop ∧ s.info.isReadyServer = true

/-- The ways a turn of `cmdTlmServer_run` goes. -/
inductive RunTurn (env : RunEnv) (s : Server) : Server → Prop where
  | wait (hserver : s.server = .startWait) :
      RunTurn env s (if s.info.isReadyServer then { s with server := .loop } else s)
  | leave (hserver : s.server = .loop) (hready : s.info.isReadyServer = false) :
      RunTurn env s { s.basicClose with
        info := { s.basicClose.info with serverStatus := .exit }
        server := .done }
  | exited (hloop : s.Looping) (hstatus : s.info.serverStatus = .exit) : RunTurn env s s
  | noClient (hloop : s.Looping) (hstatus : s.info.serverStatus = .disconnected) :
      RunTurn env s { s with info := { s.info with socketConnect := -1 } }
  | refused (fd : Int) (hloop : s.Looping) (hstatus : s.info.serverStatus = .disconnected)
      (hfd : tcpServerAccept env.pollAccept env.accept = fd) (hne : fd ≠ -1)
      (hopt : env.setsockopt = -1) :
      RunTurn env s (emit (.accept fd)
        { s with info := { s.info with socketConnect := fd } }).closeConn
  | connected (fd : Int) (hloop : s.Looping) (hstatus : s.info.serverStatus = .disconnected)
      (hfd : tcpServerAccept env.pollAccept env.accept = fd) (hne : fd ≠ -1)
      (hopt : env.setsockopt ≠ -1) :
      RunTurn env s { emit .connect (emit (.accept fd) s) with
        info := { s.info with socketConnect := fd, serverStatus := .connected }
        fdsFd := fd }
  | dropped (hloop : s.Looping) (hstatus : s.info.serverStatus = .connected)
      (hflag : s.info.isCloseConnDetected = true) : RunTurn env s s.closeConn
  | nothing (hloop : s.Looping) (hstatus : s.info.serverStatus = .connected)
      (hflag : s.info.isCloseConnDetected = false) : RunTurn env s s
  | ended (hloop : s.Looping) (hstatus : s.info.serverStatus = .connected)
      (hflag : s.info.isCloseConnDetected = false) : RunTurn env s (s.emit .recvZero).closeConn
  | command (bytes : Segment) (t : Server) (hloop : s.Looping)
      (hstatus : s.info.serverStatus = .connected)
      (hflag : s.info.isCloseConnDetected = false) (hrecv : env.recv = some bytes)
      (hpos : 0 < bytes.val.length)
      (hcmd : (s.emit (.recv bytes.val)).handleCmd env
        (CommandStream.ofBytes (overwrite bytes.val env.cmdMsg.toList)) = some t) :
      RunTurn env s t

theorem lookForCmd_turn {env : RunEnv} {s t : Server} (hloop : s.Looping)
    (hstatus : s.info.serverStatus = .connected) (h : s.lookForCmd env = some t) :
    RunTurn env s t := by
  cases hflag : s.info.isCloseConnDetected with
  | true =>
    rw [lookForCmd, hflag, if_pos rfl] at h
    cases h
    exact .dropped hloop hstatus hflag
  | false =>
    rw [lookForCmd, hflag, if_neg (by decide)] at h
    by_cases hpoll : env.poll ≤ 0
    · have hrecv : recv env = (-1, env.cmdMsg.toList) := by simp [recv, hpoll]
      rw [hrecv] at h
      cases h
      exact .nothing hloop hstatus hflag
    cases hbytes : env.recv with
    | none =>
      have hrecv : recv env = (-1, env.cmdMsg.toList) := by simp [recv, hpoll, hbytes]
      rw [hrecv] at h
      cases h
      exact .nothing hloop hstatus hflag
    | some bytes =>
      have hrecv : recv env = ((bytes.val.length : Int),
          overwrite bytes.val env.cmdMsg.toList) := by simp [recv, hpoll, hbytes]
      rw [hrecv] at h
      dsimp only at h
      rw [if_neg (by omega)] at h
      split at h
      · cases h
        exact .ended hloop hstatus hflag
      · rw [Int.toNat_natCast, take_overwrite] at h
        exact .command bytes t hloop hstatus hflag hbytes (by omega) h

theorem run_turn {env : RunEnv} {s t : Server} (h : s.run env = some t) : RunTurn env s t := by
  unfold run at h
  split at h
  · rename_i hserver
    cases h
    exact .wait hserver
  · rename_i hserver
    cases hready : s.info.isReadyServer with
    | false =>
      rw [hready, if_neg (by decide)] at h
      cases h
      exact .leave hserver hready
    | true =>
      rw [hready, if_pos rfl] at h
      have hloop : s.Looping := ⟨hserver, hready⟩
      split at h
      · rename_i hstatus
        cases h
        unfold acceptConn
        dsimp only
        split
        · rename_i hfd
          rw [hfd]
          exact .noClient hloop hstatus
        · rename_i hfd
          split
          · rename_i hopt
            exact .refused _ hloop hstatus rfl hfd hopt
          · rename_i hopt
            exact .connected _ hloop hstatus rfl hfd hopt
      · rename_i hstatus
        exact lookForCmd_turn hloop hstatus h
      · rename_i hstatus
        cases h
        exact .exited hloop hstatus
  · cases h

/-- A received command is put into the buffer or answered. -/
theorem handleCmd_cases {env : RunEnv} {cmdMsg : CommandStream} {s t : Server}
    (h : s.handleCmd env cmdMsg = some t) :
    (∃ r, (isCmdAuthorized env.cmdStatus cmdMsg s.info.isCommander).1 = true ∧
      circularBufPut s.info.cmdMsgBuffer cmdMsg = some r ∧
      t = { s with
        info := { s.info with cmdMsgBuffer := r.2 }
        trace := s.trace ++ [.check cmdMsg s.info.isCommander] ++ [.put cmdMsg] }) ∨
    (∃ error queue, (isCmdAuthorized env.cmdStatus cmdMsg s.info.isCommander).1 = false ∧
      mqSend env.mqSend s.info.msgQueueCmdStatus
        (isCmdAuthorized env.cmdStatus cmdMsg s.info.isCommander).2 = (error, queue) ∧
      t = { s with
        info := { s.info with msgQueueCmdStatus := queue }
        trace := s.trace ++ [.check cmdMsg s.info.isCommander] ++
          [.notOK (isCmdAuthorized env.cmdStatus cmdMsg s.info.isCommander).2 error] }) := by
  cases ha : (isCmdAuthorized env.cmdStatus cmdMsg s.info.isCommander).1 with
  | true =>
    simp only [handleCmd, ha, if_true] at h
    obtain ⟨r, hput, rfl⟩ := Option.map_eq_some_iff.mp h
    exact Or.inl ⟨r, rfl, hput, rfl⟩
  | false =>
    simp only [handleCmd, ha, Bool.false_eq_true, if_false] at h
    cases h
    exact Or.inr ⟨_, _, rfl, rfl, rfl⟩

/-- A message taken from the queue is sent on the current connection or dropped. -/
theorem sendLastCmdStateInMsgQueue_cases (env : TlmEnv) (s : Server) :
    ∃ error queue msg es, s.sendLastCmdStateInMsgQueue env = (error, { s with
        info := { s.info with msgQueueCmdStatus := queue, pMsgCmdStatus := msg }
        trace := s.trace ++ es }) ∧
      (∀ e ∈ es, e.isSend = true) ∧
      (error = 0 ∨ error = -1 ∧ s.info.serverStatus = .connected ∧
        ∃ e ∈ es, e.sendFailed = true) := by
  unfold sendLastCmdStateInMsgQueue
  split
  · exact ⟨0, s.info.msgQueueCmdStatus, s.info.pMsgCmdStatus, [], by simp, by simp, Or.inl rfl⟩
  · rename_i msg queue _
    dsimp only
    split
    · rename_i hstatus
      refine ⟨_, some queue, some msg, [_], rfl, by simp [Event.isSend], ?_⟩
      by_cases herror : env.sendCmdStatus < 0
      · exact Or.inr ⟨if_pos herror, hstatus, by simp [Event.sendFailed, herror]⟩
      · exact Or.inl (if_neg herror)
    · exact ⟨0, some queue, some msg, [], by simp, by simp, Or.inl rfl⟩

theorem sendLastTlmInMsgQueue_cases (env : TlmEnv) (s : Server) :
    ∃ error queue msg es, s.sendLastTlmInMsgQueue env = (error, { s with
        info := { s.info with msgQueueTlm := queue, pMsgTlm := msg }
        trace := s.trace ++ es }) ∧
      (∀ e ∈ es, e.isSend = true) ∧
      (error = 0 ∨ error = -1 ∧ s.info.serverStatus = .connected ∧
        ∃ e ∈ es, e.sendFailed = true) := by
  unfold sendLastTlmInMsgQueue
  split
  · exact ⟨0, s.info.msgQueueTlm, s.info.pMsgTlm, [], by simp, by simp, Or.inl rfl⟩
  · rename_i msg queue _
    dsimp only
    split
    · rename_i hsend
      refine ⟨_, some queue, some _, [_], rfl, by simp [Event.isSend], ?_⟩
      by_cases herror : env.sendTlm < 0
      · exact Or.inr ⟨if_pos herror, hsend.2, by simp [Event.sendFailed, herror]⟩
      · exact Or.inl (if_neg herror)
    · exact ⟨0, some queue, some (overwrite msg (s.info.pMsgTlm.getD [])), [], by simp, by simp,
        Or.inl rfl⟩

/-- `isCloseConnDetected` after the reset at the head of a telemetry turn. -/
def detected (s : Server) : Bool :=
  if s.lastServerStatus = .disconnected ∧ s.info.serverStatus = .connected then false
  else s.info.isCloseConnDetected

theorem updateLastServerStatus_eq (s : Server) :
    s.updateLastServerStatus = { s with
      info := { s.info with isCloseConnDetected := s.detected }
      lastServerStatus := s.info.serverStatus } := by
  unfold updateLastServerStatus detected
  dsimp only
  split
  · rfl
  · rfl

/-- The ways a turn of the telemetry thread goes in its loop. -/
inductive TlmTurn (env : TlmEnv) (s : Server) : Server → Prop where
  | detected (hd : s.detected = true) : TlmTurn env s s.updateLastServerStatus
  | cmdStatusFailed (t : Server) (hd : s.detected = false)
      (h1 : s.updateLastServerStatus.sendLastCmdStateInMsgQueue env = (-1, t)) :
      TlmTurn env s { t with info := { t.info with isCloseConnDetected := true } }
  | both (t u : Server) (error : Int) (hd : s.detected = false)
      (h1 : s.updateLastServerStatus.sendLastCmdStateInMsgQueue env = (0, t))
      (h2 : t.sendLastTlmInMsgQueue env = (error, u)) :
      TlmTurn env s (if error = -1 then
        { u with info := { u.info with isCloseConnDetected := true } } else u)

/-- The command status first, then the telemetry, unless the first send failed. -/
theorem tlmTurn_turn (env : TlmEnv) (s : Server) : TlmTurn env s (s.tlmTurn env) := by
  have hflag : s.updateLastServerStatus.info.isCloseConnDetected = s.detected := by
    rw [updateLastServerStatus_eq]
  unfold tlmTurn
  dsimp only
  cases hd : s.detected with
  | true =>
    simp only [hflag, hd, Bool.not_true, Bool.false_and, Bool.false_eq_true, if_false]
    exact .detected hd
  | false =>
    obtain ⟨error1, queue1, msg1, es1, heq1, -, herror1⟩ :=
      sendLastCmdStateInMsgQueue_cases env s.updateLastServerStatus
    generalize ht : ({ s.updateLastServerStatus with
      info := { s.updateLastServerStatus.info with
        msgQueueCmdStatus := queue1
        pMsgCmdStatus := msg1 }
      trace := s.updateLastServerStatus.trace ++ es1 } : Server) = t at heq1
    have hkept : t.info.isCloseConnDetected = false := by
      rw [← ht]
      exact hflag.trans hd
    simp only [hflag, hd, Bool.not_false, if_true, heq1]
    rcases herror1 with rfl | ⟨rfl, -⟩
    · simp only [hkept, Bool.not_false, Bool.true_and, beq_self_eq_true, if_true]
      exact .both t _ _ hd heq1 rfl
    · have hstop : ((-1 : Int) == 0) = false := by decide
      simp only [hkept, hstop, Bool.not_false, Bool.true_and, Bool.false_eq_true, if_false, if_true]
      exact .cmdStatusFailed t hd heq1

/-- A telemetry turn changes the queues and the flag. The flag is set afterwards only when it
was set and not reset, or when a send on the current connection failed. -/
theorem tlmTurn_cases (env : TlmEnv) (s : Server) :
    ∃ queue1 msg1 queue2 msg2 flag es, s.tlmTurn env = { s with
        info := { s.info with
          msgQueueCmdStatus := queue1
          pMsgCmdStatus := msg1
          msgQueueTlm := queue2
          pMsgTlm := msg2
          isCloseConnDetected := flag }
        lastServerStatus := s.info.serverStatus
        trace := s.trace ++ es } ∧
      (∀ e ∈ es, e.isSend = true) ∧
      (flag = true → s.detected = true ∨
        (s.info.serverStatus = .connected ∧ ∃ e ∈ es, e.sendFailed = true)) := by
  generalize hturn : s.tlmTurn env = v
  have hcases := tlmTurn_turn env s
  rw [hturn] at hcases
  cases hcases with
  | detected hd =>
    rw [updateLastServerStatus_eq, hd]
    exact ⟨s.info.msgQueueCmdStatus, s.info.pMsgCmdStatus, s.info.msgQueueTlm, s.info.pMsgTlm,
      true, [], by simp, by simp, fun _ => Or.inl rfl⟩
  | cmdStatusFailed t hd h1 =>
    obtain ⟨error1, queue1, msg1, es1, heq1, hsend1, herror1⟩ :=
      sendLastCmdStateInMsgQueue_cases env s.updateLastServerStatus
    rw [h1, updateLastServerStatus_eq] at heq1
    rw [updateLastServerStatus_eq] at herror1
    cases heq1
    obtain ⟨-, hstatus, hfail⟩ := herror1.resolve_left (by decide)
    exact ⟨queue1, msg1, s.info.msgQueueTlm, s.info.pMsgTlm, true, es1, rfl, hsend1,
      fun _ => Or.inr ⟨hstatus, hfail⟩⟩
  | both t u error hd h1 h2 =>
    obtain ⟨error1, queue1, msg1, es1, heq1, hsend1, -⟩ :=
      sendLastCmdStateInMsgQueue_cases env s.updateLastServerStatus
    rw [h1, updateLastServerStatus_eq, hd] at heq1
    cases heq1
    obtain ⟨error2, queue2, msg2, es2, heq2, hsend2, herror2⟩ := sendLastTlmInMsgQueue_cases env
      { s with
        info := { s.info with
          msgQueueCmdStatus := queue1
          pMsgCmdStatus := msg1
          isCloseConnDetected := false }
        lastServerStatus := s.info.serverStatus
        trace := s.trace ++ es1 }
    have hsend : ∀ e ∈ es1 ++ es2, e.isSend = true := by
      intro e he
      exact (List.mem_append.mp he).elim (hsend1 e) (hsend2 e)
    rw [h2] at heq2
    cases heq2
    rcases herror2 with rfl | ⟨rfl, hstatus, e, he, hfail⟩
    · exact ⟨queue1, msg1, queue2, msg2, false, es1 ++ es2, by simp, hsend, by simp⟩
    · exact ⟨queue1, msg1, queue2, msg2, true, es1 ++ es2, by simp, hsend,
        fun _ => Or.inr ⟨hstatus, e, List.mem_append_right es1 he, hfail⟩⟩

theorem closeSocketConnect_cases (s : Server) :
    ∃ es, s.closeSocketConnect = { s with
        info := { s.info with socketConnect := -1 }
        trace := s.trace ++ es } ∧ ∀ e ∈ es, ∃ fd, e = Event.close fd := by
  unfold closeSocketConnect
  split
  · exact ⟨[_], rfl, by simp⟩
  · rename_i h
    have hfd : s.info.socketConnect = -1 := not_not.mp h
    exact ⟨[], by rw [List.append_nil, ← hfd], by simp⟩

theorem closeSocketListen_cases (s : Server) :
    ∃ es, s.closeSocketListen = { s with
        info := { s.info with socketListen := -1 }
        trace := s.trace ++ es } ∧ ∀ e ∈ es, ∃ fd, e = Event.close fd := by
  unfold closeSocketListen
  split
  · exact ⟨[_], rfl, by simp⟩
  · rename_i h
    have hfd : s.info.socketListen = -1 := not_not.mp h
    exact ⟨[], by rw [List.append_nil, ← hfd], by simp⟩

/-- `cmdTlmServer_basicClose` closes the two sockets and the queues. -/
theorem basicClose_cases (s : Server) :
    ∃ queue1 msg1 queue2 msg2 es, s.basicClose = { s with
        info := { s.info with
          socketConnect := -1
          socketListen := -1
          msgQueueTlm := queue1
          pMsgTlm := msg1
          msgQueueCmdStatus := queue2
          pMsgCmdStatus := msg2 }
        trace := s.trace ++ es } ∧ ∀ e ∈ es, ∃ fd, e = Event.close fd := by
  obtain ⟨es1, h1, hclose1⟩ := closeSocketConnect_cases s
  obtain ⟨es2, h2, hclose2⟩ := closeSocketListen_cases s.closeSocketConnect
  have hclose : ∀ e ∈ es1 ++ es2, ∃ fd, e = Event.close fd := by
    intro e he
    exact (List.mem_append.mp he).elim (hclose1 e) (hclose2 e)
  rw [h1] at h2
  unfold basicClose
  rw [h1, h2]
  unfold closeMsgQueueTlm closeMsgQueueCmdStatus
  split
  · split
    · exact ⟨none, none, none, none, es1 ++ es2, by rw [List.append_assoc], hclose⟩
    · exact ⟨none, none, _, _, es1 ++ es2, by rw [List.append_assoc], hclose⟩
  · split
    · exact ⟨_, _, none, none, es1 ++ es2, by rw [List.append_assoc], hclose⟩
    · exact ⟨_, _, _, _, es1 ++ es2, by rw [List.append_assoc], hclose⟩

/-- What a step does for the commands: nothing, or the consumer takes one, or a received one
is put into the buffer or answered. -/
inductive Effect (a : Action) (s t : Server) : List Event → Prop where
  | quiet (es : List Event) (hquiet : ∀ e ∈ es, e.isQuiet = true)
      (hbuffer : t.info.cmdMsgBuffer = s.info.cmdMsgBuffer) : Effect a s t es
  | get (data : CommandStream) (r : Bool × CommandStream × CircularBuf)
      (hget : circularBufGet s.info.cmdMsgBuffer data = some r)
      (hbuffer : t.info.cmdMsgBuffer = r.2.2) : Effect a s t []
  | put (env : RunEnv) (bytes : Segment) (r : Bool × CircularBuf) (cmdMsg : CommandStream)
      (haction : a = .run env) (hrecv : env.recv = some bytes) (hpos : 0 < bytes.val.length)
      (hcmd : cmdMsg = CommandStream.ofBytes (overwrite bytes.val env.cmdMsg.toList))
      (hauth : (isCmdAuthorized env.cmdStatus cmdMsg s.info.isCommander).1 = true)
      (hput : circularBufPut s.info.cmdMsgBuffer cmdMsg = some r)
      (hbuffer : t.info.cmdMsgBuffer = r.2) :
      Effect a s t [.recv bytes.val, .check cmdMsg s.info.isCommander, .put cmdMsg]
  | notOK (env : RunEnv) (bytes : Segment) (error : Int) (cmdMsg : CommandStream)
      (haction : a = .run env) (hrecv : env.recv = some bytes) (hpos : 0 < bytes.val.length)
      (hcmd : cmdMsg = CommandStream.ofBytes (overwrite bytes.val env.cmdMsg.toList))
      (hauth : (isCmdAuthorized env.cmdStatus cmdMsg s.info.isCommander).1 = false)
      (hbuffer : t.info.cmdMsgBuffer = s.info.cmdMsgBuffer) :
      Effect a s t [.recv bytes.val, .check cmdMsg s.info.isCommander,
        .notOK (isCmdAuthorized env.cmdStatus cmdMsg s.info.isCommander).2 error]

theorem run_effect {env : RunEnv} {s t : Server} (h : RunTurn env s t) :
    ∃ es, t.trace = s.trace ++ es ∧ Effect (.run env) s t es := by
  cases h with
  | wait hserver =>
    refine ⟨[], ?_, .quiet [] (by simp) ?_⟩
    · rw [List.append_nil]
      split <;> rfl
    · split <;> rfl
  | leave hserver hready =>
    obtain ⟨_, _, _, _, es, hclose, hes⟩ := basicClose_cases s
    rw [hclose]
    refine ⟨es, rfl, .quiet es ?_ rfl⟩
    intro e he
    obtain ⟨fd, rfl⟩ := hes e he
    rfl
  | exited | noClient | nothing => exact ⟨[], by simp, .quiet [] (by simp) rfl⟩
  | refused fd hloop hstatus hfd hne hopt =>
    exact ⟨[.accept fd, .close fd], by simp [emit], .quiet _ (by simp [Event.isQuiet]) rfl⟩
  | connected fd hloop hstatus hfd hne hopt =>
    exact ⟨[.accept fd, .connect], by simp, .quiet _ (by simp [Event.isQuiet]) rfl⟩
  | dropped hloop hstatus hflag => exact ⟨[_], rfl, .quiet _ (by simp [Event.isQuiet]) rfl⟩
  | ended hloop hstatus hflag =>
    exact ⟨[.recvZero, .close s.info.socketConnect], by simp,
      .quiet _ (by simp [Event.isQuiet]) rfl⟩
  | command bytes t hloop hstatus hflag hrecv hpos hcmd =>
    rcases handleCmd_cases hcmd with ⟨r, hauth, hput, rfl⟩ | ⟨error, queue, hauth, -, rfl⟩
    · exact ⟨_, by simp, .put env bytes r _ rfl hrecv hpos rfl hauth hput rfl⟩
    · exact ⟨_, by simp, .notOK env bytes error _ rfl hrecv hpos rfl hauth rfl⟩

theorem sendTlmAndCmdStatus_effect {env : TlmEnv} {s t : Server}
    (h : s.sendTlmAndCmdStatus env = some t) :
    ∃ es, t.trace = s.trace ++ es ∧ (∀ e ∈ es, e.isSend = true) ∧
      t.info.cmdMsgBuffer = s.info.cmdMsgBuffer := by
  unfold sendTlmAndCmdStatus at h
  split at h
  · cases h
    refine ⟨[], ?_, by simp, ?_⟩
    · rw [List.append_nil]
      split <;> rfl
    · split <;> rfl
  · cases h
    split
    · obtain ⟨_, _, _, _, _, es, hturn, hes, -⟩ := tlmTurn_cases env s
      rw [hturn]
      exact ⟨es, rfl, hes, rfl⟩
    · exact ⟨[], by simp, by simp, rfl⟩
  · cases h

/-- What a step of `cmdTlmServer_close` does. -/
inductive CloseStep (s : Server) : Server → Prop where
  | clearTlm (hclosing : s.closing = .notCalled) (hready : s.info.isReadyTlm = true) :
      CloseStep s { s.emit .closeServer with
        info := { s.info with isReadyTlm := false }
        closing := .joinTlm }
  | noTlm (hclosing : s.closing = .notCalled) (hready : s.info.isReadyTlm = false) :
      CloseStep s { s.emit .closeServer with closing := .clearServer }
  | joinedTlm (hclosing : s.closing = .joinTlm) (hdone : s.tlm = .done) :
      CloseStep s { s with closing := .clearServer }
  | clearServer (hclosing : s.closing = .clearServer) (hready : s.info.isReadyServer = true) :
      CloseStep s { s with
        info := { s.info with isReadyServer := false }
        closing := .joinServer }
  | noServer (hclosing : s.closing = .clearServer) (hready : s.info.isReadyServer = false) :
      CloseStep s { s with closing := .basicClose }
  | joinedServer (hclosing : s.closing = .joinServer) (hdone : s.server = .done) :
      CloseStep s { s with closing := .basicClose }
  | basicClose (hclosing : s.closing = .basicClose) :
      CloseStep s { s.basicClose with closing := .closed }

theorem close_step {s t : Server} (h : s.close = some t) : CloseStep s t := by
  unfold close at h
  cases hclosing : s.closing <;> simp only [hclosing] at h
  case notCalled =>
    split at h
    · rename_i hready
      cases h
      exact .clearTlm hclosing hready
    · rename_i hready
      cases h
      exact .noTlm hclosing (Bool.eq_false_iff.mpr hready)
  case joinTlm =>
    split at h
    · rename_i hdone
      cases h
      exact .joinedTlm hclosing hdone
    · cases h
  case clearServer =>
    split at h
    · rename_i hready
      cases h
      exact .clearServer hclosing hready
    · rename_i hready
      cases h
      exact .noServer hclosing (Bool.eq_false_iff.mpr hready)
  case joinServer =>
    split at h
    · rename_i hdone
      cases h
      exact .joinedServer hclosing hdone
    · cases h
  case basicClose =>
    cases h
    exact .basicClose hclosing
  case closed => cases h

/-- Up to its last step `cmdTlmServer_close` changes the two ready flags only. -/
theorem close_cases {s t : Server} (h : s.close = some t) :
    (∃ es readyTlm readyServer closing, t = { s with
        info := { s.info with isReadyTlm := readyTlm, isReadyServer := readyServer }
        closing := closing
        trace := s.trace ++ es } ∧
      s.closing ≠ .basicClose ∧
      (s.closing = .notCalled ∧ es = [.closeServer] ∨ s.closing ≠ .notCalled ∧ es = [])) ∨
    (s.closing = .basicClose ∧ t = { s.basicClose with closing := .closed }) := by
  cases close_step h with
  | clearTlm hclosing | noTlm hclosing =>
    exact Or.inl ⟨[.closeServer], _, _, _, rfl, by simp [hclosing], Or.inl ⟨hclosing, rfl⟩⟩
  | joinedTlm hclosing | clearServer hclosing | noServer hclosing | joinedServer hclosing =>
    refine Or.inl ⟨[], _, _, _, by rw [List.append_nil], by simp [hclosing], Or.inr ⟨?_, rfl⟩⟩
    simp [hclosing]
  | basicClose hclosing => exact Or.inr ⟨hclosing, rfl⟩

theorem close_effect {s t : Server} (h : s.close = some t) :
    ∃ es, t.trace = s.trace ++ es ∧
      (∀ e ∈ es, e = .closeServer ∨ ∃ fd, e = Event.close fd) ∧
      t.info.cmdMsgBuffer = s.info.cmdMsgBuffer := by
  rcases close_cases h with ⟨es, _, _, _, rfl, -, hes⟩ | ⟨-, rfl⟩
  · refine ⟨es, rfl, ?_, rfl⟩
    rcases hes with ⟨-, rfl⟩ | ⟨-, rfl⟩ <;> simp
  · obtain ⟨_, _, _, _, es, hclose, hes⟩ := basicClose_cases s
    rw [hclose]
    exact ⟨es, rfl, fun e he => Or.inr (hes e he), rfl⟩

theorem close_threads {s t : Server} (h : s.close = some t) :
    t.server = s.server ∧ t.tlm = s.tlm := by
  rcases close_cases h with ⟨_, _, _, _, rfl, -⟩ | ⟨-, rfl⟩
  · exact ⟨rfl, rfl⟩
  · obtain ⟨_, _, _, _, _, hclose, -⟩ := basicClose_cases s
    rw [hclose]
    exact ⟨rfl, rfl⟩

/-- `cmdTlmServer_close` reaches its `cmdTlmServer_basicClose` only after the server thread. -/
structure CloseWaits (s : Server) : Prop where
  ready : s.closing = .notCalled ∨ s.closing = .joinTlm ∨ s.closing = .clearServer →
    s.info.isReadyServer = true
  done : s.closing = .basicClose ∨ s.closing = .closed → s.server = .done

namespace CloseWaits

variable {s t : Server}

theorem keep (h : s.CloseWaits) (hclosing : t.closing = s.closing)
    (hready : t.info.isReadyServer = s.info.isReadyServer)
    (hdone : s.server = .done → t.server = .done) : t.CloseWaits := by
  refine ⟨?_, ?_⟩
  · rw [hclosing, hready]
    exact h.ready
  · rw [hclosing]
    exact fun hc => hdone (h.done hc)

theorem basicClose (h : s.CloseWaits) : s.basicClose.CloseWaits := by
  obtain ⟨_, _, _, _, _, hclose, -⟩ := basicClose_cases s
  rw [hclose]
  exact h.keep rfl rfl id

theorem close (h : s.CloseWaits) (hstep : s.close = some t) : t.CloseWaits := by
  cases close_step hstep with
  | clearTlm hclosing | noTlm hclosing =>
    exact ⟨fun _ => h.ready (Or.inl hclosing), fun hc => by simp at hc⟩
  | joinedTlm hclosing =>
    exact ⟨fun _ => h.ready (Or.inr (Or.inl hclosing)), fun hc => by simp at hc⟩
  | clearServer => exact ⟨fun hc => by simp at hc, fun hc => by simp at hc⟩
  | noServer hclosing hready =>
    have hset := h.ready (Or.inr (Or.inr hclosing))
    rw [hset] at hready
    cases hready
  | joinedServer hclosing hdone => exact ⟨fun hc => by simp at hc, fun _ => hdone⟩
  | basicClose hclosing =>
    refine ⟨fun hc => by simp at hc, fun _ => h.basicClose.done (Or.inl ?_)⟩
    obtain ⟨_, _, _, _, _, hclose, -⟩ := basicClose_cases s
    rw [hclose]
    exact hclosing

end CloseWaits

theorem step_effect {a : Action} {s t : Server} (h : s.step a = some t) :
    ∃ es, t.trace = s.trace ++ es ∧ Effect a s t es := by
  cases a with
  | run env => exact run_effect (run_turn h)
  | tlm env =>
    obtain ⟨es, htrace, hes, hbuffer⟩ := sendTlmAndCmdStatus_effect h
    refine ⟨es, htrace, .quiet es ?_ hbuffer⟩
    intro e he
    have hsend := hes e he
    cases e <;> first | rfl | cases hsend
  | sendCmdStatus ok cmdStatusSend counter cmdStatus duration pReason =>
    cases h
    exact ⟨[], by simp, .quiet [] (by simp) rfl⟩
  | sendTlm ok msg =>
    cases h
    exact ⟨[], by simp, .quiet [] (by simp) rfl⟩
  | getCmd data =>
    obtain ⟨r, hget, rfl⟩ := Option.map_eq_some_iff.mp h
    exact ⟨[], by simp, .get data r hget rfl⟩
  | setCommander isCommander =>
    cases h
    exact ⟨[], by simp, .quiet [] (by simp) rfl⟩
  | close =>
    obtain ⟨es, htrace, hes, hbuffer⟩ := close_effect h
    refine ⟨es, htrace, .quiet es ?_ hbuffer⟩
    intro e he
    rcases hes e he with rfl | ⟨fd, rfl⟩
    · rfl
    · rfl

end Server

end HexrotPxiCom.CmdTlmServer
