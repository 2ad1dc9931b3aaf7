import HexrotPxiCom.Interface.Outgoing

/-!
# The command statuses of a connection

The queue of command statuses outlives a connection, and the telemetry thread stops popping
it after a failed send. No client gets the status of an earlier connection as long as
nothing of that connection is left when the next one is set up.
-/

namespace HexrotPxiCom.CmdTlmServer

set_option autoImplicit false

open CircularBuffer

/-- Queued on the connection `n`, or between connections. -/
def OwnStatus (n : Nat) (origin : Option Nat) : Prop := origin = none ∨ origin = some n

instance (n : Nat) (origin : Option Nat) : Decidable (OwnStatus n origin) :=
  inferInstanceAs (Decidable (_ ∨ _))

/-- Before the server thread has set up the connection that it accepts. -/
def ServerPc.accepting : ServerPc → Bool
  | .accept | .setsockopt | .setConnected => true
  | _ => false

/-- A status in the hands of the telemetry thread. -/
def TlmPc.holding : TlmPc → Bool
  | .testConnected | .send => true
  | _ => false

namespace Threads

/-- A connection is accepted while the telemetry thread is not about to send a status of an
earlier one, and it is set up while no such status is in the queue or taken from it. -/
def Drained (t : Threads) : Action → Prop
  | .run env => t.server = .loop →
      (t.serverPc = .accept → tcpServerAccept env.pollAccept env.accept ≠ -1 →
        t.tlmPc = .send → t.inHand = none) ∧
      (t.serverPc = .setConnected → (∀ o ∈ t.origins, OwnStatus t.connections o) ∧
        (t.tlmPc = .testConnected → OwnStatus t.connections t.inHand))
  | _ => True

instance (t : Threads) : ∀ a, Decidable (t.Drained a)
  | .run _ => inferInstanceAs (Decidable (_ → (_ → _ → _ → _) ∧ (_ → _ ∧ (_ → _))))
  | .tlm _ | .sendCmdStatus _ _ _ _ _ _ | .sendTlm _ _ | .getCmd _ | .setCommander _ | .close =>
    .isTrue trivial

/-- The connections, the origins and the status. -/
def sessions (t : Threads) :
    List (Option Nat × Nat) × Option Nat × Nat × List (Option Nat) × ServerStatus :=
  (t.sent, t.current, t.connections, t.origins, t.info.serverStatus)

/-- While a connection is set up, whatever waits to be sent was queued on it or between
connections. -/
structure Isolated (t : Threads) : Prop where
  sent : ∀ p ∈ t.sent, OwnStatus p.2 p.1
  current : ∀ c, t.current = some c → c = t.connections
  connected : t.info.serverStatus = .connected → ∀ o ∈ t.origins, OwnStatus t.connections o
  tested : t.info.serverStatus = .connected → t.tlmPc = .testConnected →
    OwnStatus t.connections t.inHand
  sending : t.tlmPc = .send → OwnStatus t.connections t.inHand
  accepting : t.serverPc.accepting = true → t.info.serverStatus = .disconnected

namespace Isolated

variable {t u : Threads}

theorem own_current (h : t.Isolated) : OwnStatus t.connections t.current := by
  cases hc : t.current with
  | none => exact Or.inl rfl
  | some c => exact Or.inr (by rw [h.current c hc])

theorem own_posted (h : t.Isolated) (error : Int) (hstatus : t.info.serverStatus = .connected) :
    ∀ o ∈ t.posted error, OwnStatus t.connections o := by
  intro o ho
  unfold posted at ho
  split at ho
  · rcases List.mem_append.mp ho with ho | ho
    · exact h.connected hstatus o ho
    · rw [List.mem_singleton.mp ho]
      exact h.own_current
  · exact h.connected hstatus o ho

theorem own_head (h : t.Isolated) (hstatus : t.info.serverStatus = .connected) :
    OwnStatus t.connections t.origins.head?.join := by
  cases horigins : t.origins with
  | nil => exact Or.inl rfl
  | cons o origins => exact h.connected hstatus o (by rw [horigins]; exact List.mem_cons_self)

/-- A step that leaves the connections, the origins and the status as they are. -/
theorem keep (h : t.Isolated) (heq : u.sessions = t.sessions)
    (htlm : u.tlmPc = t.tlmPc ∧ u.inHand = t.inHand ∨ u.tlmPc.holding = false)
    (hpc : u.serverPc.accepting = true → t.info.serverStatus = .disconnected) :
    u.Isolated := by
  obtain ⟨hsent, hcurrent, hconnections, horigins, hstatus⟩ : u.sent = t.sent ∧
      u.current = t.current ∧ u.connections = t.connections ∧ u.origins = t.origins ∧
      u.info.serverStatus = t.info.serverStatus := by
    simpa only [sessions, Prod.mk.injEq] using heq
  refine ⟨?_, ?_, ?_, ?_, ?_, ?_⟩
  · rw [hsent]
    exact h.sent
  · rw [hcurrent, hconnections]
    exact h.current
  · rw [hstatus, horigins, hconnections]
    exact h.connected
  · rcases htlm with ⟨hpc, hhand⟩ | hpc
    · rw [hstatus, hpc, hhand, hconnections]
      exact h.tested
    · intro _ htest
      rw [htest] at hpc
      cases hpc
  · rcases htlm with ⟨hpc, hhand⟩ | hpc
    · rw [hpc, hhand, hconnections]
      exact h.sending
    · intro hsend
      rw [hsend] at hpc
      cases hpc
  · rw [hstatus]
    exact hpc

/-- A step of the server thread to a place where no connection is being accepted. -/
theorem keep_server (h : t.Isolated) (heq : u.sessions = t.sessions) (htlm : u.tlmPc = t.tlmPc)
    (hhand : u.inHand = t.inHand) (hpc : u.serverPc.accepting = false) : u.Isolated := by
  apply h.keep heq (Or.inl ⟨htlm, hhand⟩)
  intro haccepting
  rw [hpc] at haccepting
  cases haccepting

/-- A step of the telemetry thread to a place where it holds no status. -/
theorem keep_tlm (h : t.Isolated) (heq : u.sessions = t.sessions)
    (hserver : u.serverPc = t.serverPc) (hpc : u.tlmPc.holding = false) : u.Isolated := by
  apply h.keep heq (Or.inr hpc)
  intro haccepting
  rw [hserver] at haccepting
  exact h.accepting haccepting

/-- `cmdTlmServer_basicClose` closes the connection and perhaps the queue. -/
theorem basicClose (h : t.Isolated) (hpc : u.serverPc = t.serverPc ∨ u.serverPc.accepting = false)
    (hu : u = { t.basicClose with serverPc := u.serverPc, closing := u.closing }) :
    u.Isolated := by
  obtain ⟨_, _, _, _, _, hclose, -⟩ := Server.basicClose_cases t.toServer
  have hstatus : t.basicClose.info.serverStatus = t.info.serverStatus := by
    rw [Threads.basicClose, hclose]
  have horigins : ∀ o ∈ t.basicClose.origins, o ∈ t.origins := by
    intro o ho
    unfold Threads.basicClose at ho
    dsimp only at ho
    split at ho
    · exact ho
    · cases ho
  rw [hu]
  refine ⟨h.sent, ?_, ?_, ?_, h.sending, ?_⟩
  · intro c hc
    cases hc
  · intro hs o ho
    exact h.connected (hstatus.symm.trans hs) o (horigins o ho)
  · intro hs
    exact h.tested (hstatus.symm.trans hs)
  · intro hacc
    rcases hpc with hpc | hpc
    · exact hstatus.trans (h.accepting (hpc ▸ hacc))
    · rw [hpc] at hacc
      cases hacc

theorem serverStep {env : RunEnv} (h : t.Isolated) (hdrained : t.Drained (.run env))
    (hstep : t.serverStep env = some u) : u.Isolated := by
  cases serverStep_step hstep with
  | wait =>
    split
    · exact h.keep rfl (Or.inl ⟨rfl, rfl⟩) h.accepting
    · exact h
  | toAccept _ _ hstatus => exact h.keep rfl (Or.inl ⟨rfl, rfl⟩) fun _ => hstatus
  | exited => exact h
  | basicClose => exact h.basicClose (Or.inr rfl) rfl
  | accept fd hserver hpc hfd hne =>
    have hdisc := h.accepting (by rw [hpc]; rfl)
    have hhand := (hdrained hserver).1 hpc (hfd ▸ hne)
    refine ⟨h.sent, ?_, ?_, ?_, ?_, fun _ => hdisc⟩
    · intro c hc
      cases hc
      rfl
    · intro hconnected
      exact absurd (hdisc.symm.trans hconnected) (by decide)
    · intro hconnected
      exact absurd (hdisc.symm.trans hconnected) (by decide)
    · intro hsend
      exact Or.inl (hhand hsend)
  | refused _ hpc | toSetConnected _ hpc =>
    have hdisc := h.accepting (by rw [hpc]; rfl)
    exact h.keep rfl (Or.inl ⟨rfl, rfl⟩) fun _ => hdisc
  | setConnected hserver hpc =>
    obtain ⟨hqueue, hhand⟩ := (hdrained hserver).2 hpc
    exact ⟨h.sent, h.current, fun _ => hqueue, fun _ => hhand, h.sending,
      by simp [ServerPc.accepting]⟩
  | mqSend =>
    exact ⟨h.sent, h.current, h.own_posted _, h.tested, h.sending, by simp [ServerPc.accepting]⟩
  | closeSocket =>
    exact ⟨h.sent, by simp, h.connected, h.tested, h.sending, by simp [ServerPc.accepting]⟩
  | setDisconnected => exact ⟨h.sent, h.current, by simp, by simp, h.sending, fun _ => rfl⟩
  | setExit _ hpc =>
    exact ⟨h.sent, h.current, by simp, by simp, h.sending, by simp [ServerPc.accepting, hpc]⟩
  | _ => exact h.keep_server rfl rfl rfl rfl

/-- A status is sent after the telemetry thread has seen `ServerStatus_Connected`. -/
theorem tlmStep {env : TlmEnv} (h : t.Isolated) (hstep : t.tlmStep env = some u) :
    u.Isolated := by
  cases tlmStep_step hstep with
  | wait =>
    split
    · exact h.keep rfl (Or.inl ⟨rfl, rfl⟩) h.accepting
    · exact h
  | leave => exact h.keep rfl (Or.inl ⟨rfl, rfl⟩) h.accepting
  | receive =>
    refine ⟨h.sent, h.current, ?_, ?_, by simp, h.accepting⟩
    · intro hstatus o ho
      exact h.connected hstatus o (List.mem_of_mem_tail ho)
    · intro hstatus _
      exact h.own_head hstatus
  | toSend _ hpc hstatus =>
    exact ⟨h.sent, h.current, h.connected, by simp, fun _ => h.tested hstatus hpc, h.accepting⟩
  | send _ hpc =>
    refine ⟨?_, h.current, h.connected, ?_, ?_, h.accepting⟩
    · intro p hp
      rcases List.mem_append.mp hp with hp | hp
      · exact h.sent p hp
      · obtain ⟨c, hc, rfl⟩ := Option.map_eq_some_iff.mp (Option.mem_toList.mp hp)
        rw [h.current c hc]
        exact h.sending hpc
    · intro _ htest
      dsimp only at htest
      split at htest <;> cases htest
    · intro hsend
      dsimp only at hsend
      split at hsend <;> cases hsend
  | sendTlm =>
    refine h.keep_tlm rfl rfl ?_
    dsimp only
    split <;> rfl
  | _ => exact h.keep_tlm rfl rfl rfl

theorem step {a : Action} (h : t.Isolated) (hdrained : t.Drained a) (hstep : t.step a = some u) :
    u.Isolated := by
  cases a with
  | run env => exact h.serverStep hdrained hstep
  | tlm env => exact h.tlmStep hstep
  | sendCmdStatus ok cmdStatusSend counter cmdStatus duration pReason =>
    cases hstep
    exact ⟨h.sent, h.current, h.own_posted _, h.tested, h.sending, h.accepting⟩
  | sendTlm ok msg =>
    cases hstep
    exact h.keep rfl (Or.inl ⟨rfl, rfl⟩) h.accepting
  | getCmd data =>
    obtain ⟨s, hget, rfl⟩ := Option.map_eq_some_iff.mp hstep
    obtain ⟨r, -, rfl⟩ := Option.map_eq_some_iff.mp hget
    exact h.keep rfl (Or.inl ⟨rfl, rfl⟩) h.accepting
  | setCommander isCommander =>
    cases hstep
    exact h.keep rfl (Or.inl ⟨rfl, rfl⟩) h.accepting
  | close =>
    unfold Threads.step at hstep
    dsimp only at hstep
    split at hstep
    · cases hstep
      exact h.basicClose (Or.inl rfl) rfl
    · rename_i hclosing
      obtain ⟨s, hclose, rfl⟩ := Option.map_eq_some_iff.mp hstep
      have hstatus := (Server.close_keeps hclosing hclose).1
      exact h.keep (by simp [sessions, hstatus]) (Or.inl ⟨rfl, rfl⟩) h.accepting

end Isolated

end Threads

/-- As long as nothing of an earlier connection waits when a connection is set up, a command
status is sent only on the connection during which it was queued. -/
theorem statuses_isolated {sizeMsgTlm maxNumQueueTlm : Nat} {socketListen fdsFd : Int}
    {cmdMsgBuffer : CircularBuf} {as : List Action} {t : Threads}
    (hguard : Runs.Guarded Threads.step Threads.Drained
      (.start fdsFd (.init sizeMsgTlm socketListen maxNumQueueTlm cmdMsgBuffer)) as)
    (hrun : Runs.run Threads.step
      (.start fdsFd (.init sizeMsgTlm socketListen maxNumQueueTlm cmdMsgBuffer)) as = some t) :
    ∀ origin n, (origin, n) ∈ t.sent → OwnStatus n origin := by
  have hstart : (Threads.start fdsFd
      (.init sizeMsgTlm socketListen maxNumQueueTlm cmdMsgBuffer)).Isolated := by
    refine ⟨?_, ?_, ?_, ?_, ?_, ?_⟩
    · intro p hp
      cases hp
    · intro c hc
      cases hc
    · intro hstatus
      cases hstatus
    · intro hstatus
      cases hstatus
    · intro hsend
      cases hsend
    · intro _
      rfl
  intro origin n hsent
  exact (Runs.Guarded.invariant (fun _ _ _ h hdrained hs => h.step hdrained hs) hguard hrun
    hstart).sent (origin, n) hsent

namespace Threads

/-- The threads of `started`, before their first steps. -/
def started : Threads :=
  .start 0 (.init 64 3 10 ⟨[default, default, default], 0, 0, 3⟩)

/-- The server thread accepts a client and goes back to the head of its loop. -/
def acceptSteps (fd : Int) : List Action := List.replicate 4 (.run { accept := fd })

/-- The telemetry thread pops a command status that a send on the first connection does not
take, and reports that; the server thread closes the connection, and the telemetry thread
sees it. -/
def sendFails : List Action :=
  List.replicate 9 (.tlm { sendCmdStatus := -1 }) ++ [.tlm {}] ++ List.replicate 5 (.run {}) ++
    List.replicate 5 (.tlm {})

def queueStatus (counter : UInt32) : Action := .sendCmdStatus true default counter 1 0 []

end Threads

theorem statuses_isolated_second : ∃ t,
    Runs.run Threads.step Threads.started ([.run {}] ++ Threads.acceptSteps 5 ++
      [Threads.queueStatus 1] ++ Threads.sendFails ++ Threads.acceptSteps 6 ++
      [Threads.queueStatus 2] ++ List.replicate 8 (.tlm {})) = some t ∧
    t.sent = [(some 1, 1), (some 2, 2)] ∧
    ∀ origin n, (origin, n) ∈ t.sent → OwnStatus n origin := by
  have hrun : (Runs.run Threads.step Threads.started ([.run {}] ++ Threads.acceptSteps 5 ++
      [Threads.queueStatus 1] ++ Threads.sendFails ++ Threads.acceptSteps 6 ++
      [Threads.queueStatus 2] ++ List.replicate 8 (.tlm {}))).any (fun t =>
        t.sent == [(some 1, 1), (some 2, 2)]) = true := by
    decide +kernel
  obtain ⟨t, ht, hsent⟩ := (Option.any_eq_true _ _).mp hrun
  exact ⟨t, ht, beq_iff_eq.mp hsent, statuses_isolated (by decide +kernel) ht⟩

/-- The second of two statuses stays in the queue after the failed send of the first, and goes
to the next client. -/
theorem statuses_not_isolated : ∃ t msg,
    Runs.run Threads.step Threads.started ([.run {}] ++ Threads.acceptSteps 5 ++
      [Threads.queueStatus 1, Threads.queueStatus 2] ++ Threads.sendFails ++
      Threads.acceptSteps 6 ++ List.replicate 8 (.tlm {})) = some t ∧
    .sendCmdStatus 6 msg 1 ∈ t.trace ∧ msg.header.counter = 2 ∧ (some 1, 2) ∈ t.sent ∧
    ¬ ∀ origin n, (origin, n) ∈ t.sent → OwnStatus n origin := by
  have hrun : (Runs.run Threads.step Threads.started ([.run {}] ++ Threads.acceptSteps 5 ++
      [Threads.queueStatus 1, Threads.queueStatus 2] ++ Threads.sendFails ++
      Threads.acceptSteps 6 ++ List.replicate 8 (.tlm {}))).any (fun t =>
        t.sent.contains (some 1, 2) &&
          t.trace.contains (.sendCmdStatus 6 (cmdStatusMsg default 2 1 0 []) 1)) = true := by
    decide +kernel
  obtain ⟨t, ht, hall⟩ := (Option.any_eq_true _ _).mp hrun
  obtain ⟨hsent, htrace⟩ := Bool.and_eq_true_iff.mp hall
  have hmem : (some 1, 2) ∈ t.sent := List.contains_iff_mem.mp hsent
  refine ⟨t, _, ht, List.contains_iff_mem.mp htrace, rfl, hmem, ?_⟩
  intro hown
  rcases hown (some 1) 2 hmem with h | h
  · cases h
  · cases h

end HexrotPxiCom.CmdTlmServer
