import HexrotPxiCom.Interface.ServerThreads

/-!
# The queue of command statuses

The statuses leave the queue in the order in which they came, so `origins` speaks of the
statuses that are in it.
-/

namespace HexrotPxiCom.CmdTlmServer

set_option autoImplicit false

open CircularBuffer

namespace Server

variable {s t : Server}

/-- Before its `cmdTlmServer_basicClose`, `cmdTlmServer_close` changes the two flags only. -/
theorem close_keeps (hclosing : s.closing ≠ .basicClose) (h : s.close = some t) :
    t.info.serverStatus = s.info.serverStatus ∧
      t.info.msgQueueCmdStatus = s.info.msgQueueCmdStatus := by
  rcases close_cases h with ⟨_, _, _, _, rfl, -⟩ | ⟨hbasic, -⟩
  · exact ⟨rfl, rfl⟩
  · exact absurd hbasic hclosing

theorem basicClose_queue (s : Server) :
    s.basicClose.info.msgQueueCmdStatus = none ∨
      s.basicClose.info.msgQueueCmdStatus = s.info.msgQueueCmdStatus := by
  unfold Server.basicClose closeMsgQueueCmdStatus
  split
  · exact Or.inl rfl
  · right
    unfold closeMsgQueueTlm closeSocketListen closeSocketConnect
    split <;> split <;> split <;> rfl

end Server

namespace Threads

/-- The command statuses in the queue. -/
def queued (t : Threads) : List CommandStatus :=
  (t.info.msgQueueCmdStatus.map MsgQueue.msgs).getD []

/-- An origin for each command status in the queue. -/
def Aligned (t : Threads) : Prop := t.origins.length = t.queued.length

namespace Aligned

variable {t u : Threads}

theorem posted (h : t.Aligned) {ok : Bool} {msg : CommandStatus}
    {r : Int × Option (MsgQueue CommandStatus)}
    (hr : mqSend ok t.info.msgQueueCmdStatus msg = r)
    (horigins : u.origins = t.posted r.1) (hqueue : u.info.msgQueueCmdStatus = r.2) :
    u.Aligned := by
  unfold Aligned queued at h ⊢
  rw [horigins, hqueue]
  unfold mqSend at hr
  split at hr
  · rename_i q hq
    obtain ⟨q', hq', hsend⟩ := Option.bind_eq_some_iff.mp hq
    split at hq'
    · subst hr
      rw [hq'] at h
      simp [Threads.posted, MsgQueue.send_msgs hsend, h]
    · cases hq'
  · subst hr
    exact h

theorem basicClose (h : t.Aligned) (horigins : u.origins = t.basicClose.origins)
    (hqueue : u.info.msgQueueCmdStatus = t.basicClose.info.msgQueueCmdStatus) : u.Aligned := by
  unfold Aligned queued Threads.basicClose at *
  rw [horigins, hqueue]
  dsimp only
  rcases Server.basicClose_queue t.toServer with hq | hq
  · rw [hq]
    rfl
  · rw [hq]
    cases hsome : t.info.msgQueueCmdStatus with
    | none => rfl
    | some q =>
      rw [hsome] at h
      exact h

theorem serverStep {env : RunEnv} (h : t.Aligned) (hstep : t.serverStep env = some u) :
    u.Aligned := by
  cases serverStep_step hstep with
  | wait =>
    split
    · exact h
    · exact h
  | basicClose => exact h.basicClose rfl rfl
  | mqSend => exact h.posted rfl rfl rfl
  | _ => exact h

theorem receive (h : t.Aligned) {ok : Bool} {r : CommandStatus × MsgQueue CommandStatus}
    (hr : mqReceive ok t.info.msgQueueCmdStatus = some r)
    (horigins : u.origins = t.origins.tail) (hqueue : u.info.msgQueueCmdStatus = some r.2) :
    u.Aligned := by
  obtain ⟨q, hq, hreceive⟩ := Option.bind_eq_some_iff.mp hr
  split at hq
  · unfold Aligned queued at h ⊢
    rw [hq] at h
    rw [horigins, hqueue, List.length_tail, h]
    simp [MsgQueue.receive_msgs hreceive]
  · cases hq

theorem tlmStep {env : TlmEnv} (h : t.Aligned) (hstep : t.tlmStep env = some u) :
    u.Aligned := by
  cases tlmStep_step hstep with
  | wait =>
    split
    · exact h
    · exact h
  | receive msg queue _ _ hreceive => exact h.receive hreceive rfl rfl
  | _ => exact h

theorem step {a : Action} (h : t.Aligned) (hstep : t.step a = some u) : u.Aligned := by
  cases a with
  | run env => exact h.serverStep hstep
  | tlm env => exact h.tlmStep hstep
  | sendCmdStatus ok cmdStatusSend counter cmdStatus duration pReason =>
    cases hstep
    exact h.posted rfl rfl rfl
  | sendTlm ok msg =>
    cases hstep
    exact h
  | getCmd data =>
    obtain ⟨s, hget, rfl⟩ := Option.map_eq_some_iff.mp hstep
    obtain ⟨r, -, rfl⟩ := Option.map_eq_some_iff.mp hget
    exact h
  | setCommander isCommander =>
    cases hstep
    exact h
  | close =>
    unfold Threads.step at hstep
    dsimp only at hstep
    split at hstep
    · cases hstep
      exact h.basicClose rfl rfl
    · rename_i hclosing
      obtain ⟨s, hclose, rfl⟩ := Option.map_eq_some_iff.mp hstep
      unfold Aligned queued
      dsimp only
      rw [(Server.close_keeps hclosing hclose).2]
      exact h

end Aligned

/-- Each command status in the queue has its origin. -/
theorem origins_aligned {fdsFd : Int} {info : ServerInfo} {as : List Action} {t : Threads}
    (hqueue : info.msgQueueCmdStatus.map MsgQueue.msgs = some [])
    (hrun : Runs.run Threads.step (.start fdsFd info) as = some t) : t.Aligned := by
  have hstart : (Threads.start fdsFd info).Aligned := by
    unfold Aligned queued
    change 0 = ((info.msgQueueCmdStatus.map MsgQueue.msgs).getD []).length
    rw [hqueue]
    rfl
  exact Runs.run_invariant (fun _ _ _ h hs => h.step hs) hrun hstart

end Threads

end HexrotPxiCom.CmdTlmServer
