import HexrotPxiCom.Interface.ServerThreads

/-!
# The next client

Once the client is gone and another one waits, the server takes the new one after a fixed number
of its own steps, whatever the telemetry thread and the callers do in between.
-/

namespace HexrotPxiCom.CmdTlmServer

set_option autoImplicit false

/-- `recv` says that the client has closed the connection, and a new client waits. -/
def RunEnv.Gone (env : RunEnv) : Prop :=
  (CmdTlmServer.recv env).1 = 0 ∧ tcpServerAccept env.pollAccept env.accept ≠ -1 ∧
    env.setsockopt ≠ -1

def Action.isRun : Action → Bool
  | .run _ => true
  | _ => false

namespace Threads

/-- The server is not being closed. -/
structure Serving (t : Threads) : Prop where
  isReadyServer : t.info.isReadyServer = true
  serverStatus : t.info.serverStatus ≠ .exit
  server : t.server ≠ .done
  serverPc : t.serverPc ≠ .setExit
  waiting : t.server = .startWait → t.serverPc = .loopTest

/-- The steps of the server thread in its loop up to the next `accept`. -/
def stepsToAccept (serverStatus : ServerStatus) : ServerPc → Nat
  | .loopTest => if serverStatus = .connected then 8 else 2
  | .accept => 1
  | .setsockopt => 10
  | .setConnected => 9
  | .testFlag => 7
  | .recv => 6
  | .check _ => 10
  | .put _ => 9
  | .mqSend _ => 9
  | .closeSocket => 5
  | .clearSocket => 4
  | .setDisconnected => 3
  | .setExit => 0

def toAccept (t : Threads) : Nat :=
  stepsToAccept t.info.serverStatus t.serverPc + if t.server = .startWait then 1 else 0

section
variable {t u : Threads} {env : RunEnv}

theorem loopTest_le (serverStatus : ServerStatus) : stepsToAccept serverStatus .loopTest ≤ 8 := by
  rw [stepsToAccept]
  split
  · exact Nat.le_refl _
  · decide

theorem Serving.toAccept_le (h : Serving t) : t.toAccept ≤ 10 := by
  have hloop := loopTest_le t.info.serverStatus
  unfold toAccept
  split
  · rename_i hwait
    rw [h.waiting hwait]
    omega
  · cases t.serverPc with
    | loopTest => omega
    | _ => simp [stepsToAccept]

theorem Serving.loop_or_wait (h : Serving t) : t.server = .startWait ∨ t.server = .loop := by
  cases hserver : t.server with
  | startWait => exact Or.inl rfl
  | loop => exact Or.inr rfl
  | done => exact absurd hserver h.server

/-- What a step of the server thread does once the client is gone. -/
inductive GoneStep (t : Threads) : Threads → Prop where
  | nearer {u : Threads} (hlt : u.toAccept < t.toAccept) (htrace : t.trace <+: u.trace) :
      GoneStep t u
  | accepted {u : Threads} (fd : Int) (hpc : u.serverPc = .setsockopt)
      (hconnect : u.info.socketConnect = fd) (htrace : u.trace = t.trace ++ [.accept fd]) :
      GoneStep t u

theorem Serving.kept (h : Serving t) (hserver : t.server = .loop) (hloop : u.server = t.server)
    (hflags : SameFlags t u) (hstatus : u.info.serverStatus ≠ .exit)
    (hpc : u.serverPc ≠ .setExit) : Serving u := by
  obtain ⟨-, hready, -⟩ := hflags
  rw [hserver] at hloop
  refine ⟨hready.trans h.isReadyServer, hstatus, ?_, hpc, ?_⟩
  · rw [hloop]
    exact ThreadState.noConfusion
  · rw [hloop]
    exact ThreadState.noConfusion

/-- Whatever the client does, the server thread leaves its loop only when it is closed. -/
theorem Serving.serverStep (h : Serving t) (hstep : t.serverStep env = some u) : Serving u := by
  have hflags := serverStep_flags hstep
  have hstatus := h.serverStatus
  cases serverStep_step hstep with
  | wait hserver =>
    rw [if_pos h.isReadyServer]
    exact ⟨h.isReadyServer, hstatus, ThreadState.noConfusion, h.serverPc,
      ThreadState.noConfusion⟩
  | basicClose hserver hpc hnotReady =>
    rw [h.isReadyServer] at hnotReady
    cases hnotReady
  | exited hserver hpc hexit => exact absurd hexit hstatus
  | setExit hserver hpc => exact absurd hpc h.serverPc
  | setConnected hserver hpc | setDisconnected hserver hpc =>
    exact h.kept hserver rfl hflags ServerStatus.noConfusion ServerPc.noConfusion
  | _ => exact h.kept (by assumption) rfl hflags hstatus ServerPc.noConfusion

theorem toAccept_lt (hserver : t.server = .loop) (hloop : u.server = t.server)
    (hlt : stepsToAccept u.info.serverStatus u.serverPc <
      stepsToAccept t.info.serverStatus t.serverPc) : u.toAccept < t.toAccept := by
  rw [toAccept, toAccept, hloop, hserver]
  exact hlt

theorem Serving.goneStep (h : Serving t) (hgone : env.Gone)
    (hstep : t.serverStep env = some u) : GoneStep t u := by
  obtain ⟨hrecv, haccept, hsetsockopt⟩ := hgone
  have hready := h.isReadyServer
  have hstatus := h.serverStatus
  unfold Threads.serverStep at hstep
  rcases h.loop_or_wait with hserver | hserver
  · rw [hserver] at hstep
    simp only [hready, if_true] at hstep
    cases hstep
    refine .nearer ?_ (List.prefix_refl _)
    simp [toAccept, hserver]
  have hnear := fun u hloop hlt => GoneStep.nearer (toAccept_lt (u := u) hserver hloop hlt)
  rw [hserver] at hstep
  cases hpc : t.serverPc with
  | loopTest =>
    simp only [hpc, hready, if_true] at hstep
    cases hs : t.info.serverStatus with
    | disconnected =>
      simp only [hs] at hstep
      cases hstep
      exact hnear _ rfl (by simp [hpc, hs, stepsToAccept]) (List.prefix_refl _)
    | connected =>
      simp only [hs] at hstep
      cases hstep
      exact hnear _ rfl (by simp [hpc, hs, stepsToAccept]) (List.prefix_refl _)
    | exit => exact absurd hs hstatus
  | accept =>
    simp only [hpc, if_neg haccept] at hstep
    cases hstep
    exact .accepted _ rfl rfl rfl
  | setsockopt =>
    simp only [hpc, if_neg hsetsockopt] at hstep
    cases hstep
    exact hnear _ rfl (by simp [hpc, stepsToAccept]) (List.prefix_refl _)
  | setConnected =>
    simp only [hpc] at hstep
    cases hstep
    exact hnear _ rfl (by simp [hpc, stepsToAccept]) (List.prefix_append _ _)
  | testFlag =>
    simp only [hpc] at hstep
    split at hstep
    · cases hstep
      exact hnear _ rfl (by simp [hpc, stepsToAccept]) (List.prefix_refl _)
    · cases hstep
      exact hnear _ rfl (by simp [hpc, stepsToAccept]) (List.prefix_refl _)
  | recv =>
    have hnotNeg : ¬ (CmdTlmServer.recv env).1 < 0 := by omega
    simp only [hpc, if_neg hnotNeg, if_pos hrecv] at hstep
    cases hstep
    exact hnear _ rfl (by simp [hpc, stepsToAccept]) (List.prefix_append _ _)
  | check cmdMsg =>
    simp only [hpc] at hstep
    split at hstep
    · cases hstep
      exact hnear _ rfl (by simp [hpc, stepsToAccept]) (List.prefix_append _ _)
    · cases hstep
      exact hnear _ rfl (by simp [hpc, stepsToAccept]) (List.prefix_append _ _)
  | put cmdMsg =>
    simp only [hpc] at hstep
    obtain ⟨r, -, rfl⟩ := Option.map_eq_some_iff.mp hstep
    have hle := loopTest_le t.info.serverStatus
    exact hnear _ rfl
      (by rw [hpc]; exact Nat.lt_succ_of_le hle) (List.prefix_append _ _)
  | mqSend cmdStatus =>
    simp only [hpc] at hstep
    cases hstep
    have hle := loopTest_le t.info.serverStatus
    exact hnear _ rfl
      (by rw [hpc]; exact Nat.lt_succ_of_le hle) (List.prefix_append _ _)
  | closeSocket =>
    simp only [hpc] at hstep
    cases hstep
    exact hnear _ rfl (by simp [hpc, stepsToAccept]) (List.prefix_append _ _)
  | clearSocket =>
    simp only [hpc] at hstep
    cases hstep
    exact hnear _ hserver.symm (by simp [hpc, stepsToAccept])
      (List.prefix_refl _)
  | setDisconnected =>
    simp only [hpc] at hstep
    cases hstep
    exact hnear _ hserver.symm (by simp [hpc, stepsToAccept])
      (List.prefix_refl _)
  | setExit => exact absurd hpc h.serverPc

/-- What the telemetry thread and the callers leave to the server thread. -/
structure Beside (t u : Threads) : Prop where
  isReadyServer : u.info.isReadyServer = t.info.isReadyServer
  server : u.server = t.server
  serverPc : u.serverPc = t.serverPc
  serverStatus : u.info.serverStatus = t.info.serverStatus
  socketConnect : u.info.socketConnect = t.info.socketConnect
  trace : t.trace <+: u.trace

theorem Beside.serving (h : Beside t u) (ht : Serving t) : Serving u := by
  refine ⟨h.isReadyServer.trans ht.isReadyServer, ?_, ?_, ?_, ?_⟩
  · rw [h.serverStatus]
    exact ht.serverStatus
  · rw [h.server]
    exact ht.server
  · rw [h.serverPc]
    exact ht.serverPc
  · rw [h.server, h.serverPc]
    exact ht.waiting

theorem tlmStep_beside {env : TlmEnv} (hstep : t.tlmStep env = some u) : Beside t u := by
  obtain ⟨hserver, hpc⟩ := tlmStep_frame hstep
  refine ⟨(tlmStep_flags hstep).2.1, hserver, hpc, ?_, ?_, ?_⟩
  · cases tlmStep_step hstep with
    | wait =>
      split
      · rfl
      · rfl
    | _ => rfl
  · cases tlmStep_step hstep with
    | wait =>
      split
      · rfl
      · rfl
    | _ => rfl
  · cases tlmStep_step hstep with
    | wait =>
      split
      · exact List.prefix_refl _
      · exact List.prefix_refl _
    | send | sendTlm => exact List.prefix_append _ _
    | _ => exact List.prefix_refl _

theorem step_beside {a : Action} (hrun : a.isRun = false) (hclose : a ≠ .close)
    (hstep : t.step a = some u) : Beside t u := by
  cases a with
  | run env => cases hrun
  | tlm env => exact tlmStep_beside hstep
  | sendCmdStatus | sendTlm | setCommander =>
    cases hstep
    exact ⟨rfl, rfl, rfl, rfl, rfl, List.prefix_refl _⟩
  | getCmd data =>
    obtain ⟨s, hs, rfl⟩ := Option.map_eq_some_iff.mp hstep
    obtain ⟨r, -, rfl⟩ := Option.map_eq_some_iff.mp hs
    exact ⟨rfl, rfl, rfl, rfl, rfl, List.prefix_refl _⟩
  | close => exact absurd rfl hclose

/-- Since `old`, the events `es` have been in the trace, in this order. -/
def Saw (old es : List Event) (t : Threads) : Prop :=
  ∃ events, t.trace = old ++ events ∧ es.Sublist events

theorem Saw.mono {old es : List Event} (h : Saw old es t) (htrace : t.trace <+: u.trace) :
    Saw old es u := by
  obtain ⟨events, heq, hsub⟩ := h
  obtain ⟨more, hmore⟩ := htrace
  refine ⟨events ++ more, ?_, hsub.trans (List.sublist_append_left _ _)⟩
  rw [← hmore, heq, List.append_assoc]

theorem Saw.emit {old es : List Event} (h : Saw old es t) {e : Event}
    (htrace : u.trace = t.trace ++ [e]) : Saw old (es ++ [e]) u := by
  obtain ⟨events, heq, hsub⟩ := h
  refine ⟨events ++ [e], ?_, hsub.append (List.Sublist.refl _)⟩
  rw [htrace, heq, List.append_assoc]

/-- The server is connected with a client that it has accepted since the trace was `old`. -/
structure ConnectedWith (old : List Event) (fd : Int) (t : Threads) : Prop where
  server : t.server = .loop
  serverPc : t.serverPc = .loopTest
  serverStatus : t.info.serverStatus = .connected
  socketConnect : t.info.socketConnect = fd
  trace : Saw old [.accept fd, .connect] t

/-- At most `k` steps of the server thread are left until it is connected with the next client,
counted from where the trace was `old`. -/
inductive Within (old : List Event) : Nat → Threads → Prop where
  | waiting {k : Nat} {t : Threads} (hsaw : Saw old [] t) (hle : t.toAccept ≤ k) :
      Within old (k + 2) t
  | accepted {k : Nat} {t : Threads} (fd : Int) (hsaw : Saw old [.accept fd] t)
      (hserver : t.server = .loop) (hpc : t.serverPc = .setsockopt)
      (hconnect : t.info.socketConnect = fd) : Within old (k + 2) t
  | opened {k : Nat} {t : Threads} (fd : Int) (hsaw : Saw old [.accept fd] t)
      (hserver : t.server = .loop) (hpc : t.serverPc = .setConnected)
      (hconnect : t.info.socketConnect = fd) : Within old (k + 1) t

theorem Serving.toAccept_pos (h : Serving t) : 0 < t.toAccept := by
  have hpos : 0 < stepsToAccept t.info.serverStatus t.serverPc := by
    cases hpc : t.serverPc with
    | loopTest =>
      rw [stepsToAccept]
      split
      · decide
      · decide
    | setExit => exact absurd hpc h.serverPc
    | _ => simp [stepsToAccept]
  exact Nat.lt_of_lt_of_le hpos (Nat.le_add_right _ _)

theorem Serving.loop_of_setsockopt (h : Serving t) (hpc : t.serverPc = .setsockopt) :
    t.server = .loop := by
  rcases h.loop_or_wait with hwait | hloop
  · have hpc' := h.waiting hwait
    rw [hpc] at hpc'
    cases hpc'
  · exact hloop

theorem setsockopt_step (hsetsockopt : env.setsockopt ≠ -1) (hserver : t.server = .loop)
    (hpc : t.serverPc = .setsockopt) (hstep : t.serverStep env = some u) :
    u = { t with serverPc := .setConnected } := by
  simp only [serverStep, hserver, hpc, if_neg hsetsockopt] at hstep
  exact (Option.some.inj hstep).symm

theorem setConnected_step {old : List Event} {fd : Int} (hsaw : Saw old [.accept fd] t)
    (hserver : t.server = .loop) (hpc : t.serverPc = .setConnected)
    (hconnect : t.info.socketConnect = fd) (hstep : t.serverStep env = some u) :
    ConnectedWith old fd u := by
  simp only [serverStep, hserver, hpc] at hstep
  cases hstep
  exact ⟨hserver, rfl, rfl, hconnect, hsaw.emit rfl⟩

theorem Within.serverStep {old : List Event} {k : Nat} (h : Within old (k + 1) t) (ht : Serving t)
    (hgone : env.Gone) (hstep : t.serverStep env = some u) :
    (∃ fd, ConnectedWith old fd u) ∨ Within old k u := by
  have hu := ht.serverStep hstep
  cases h with
  | @waiting k _ hsaw hle =>
    have hpos := ht.toAccept_pos
    obtain ⟨j, rfl⟩ : ∃ j, k = j + 1 := Nat.exists_eq_succ_of_ne_zero (by omega)
    cases ht.goneStep hgone hstep with
    | nearer hlt htrace => exact Or.inr (.waiting (hsaw.mono htrace) (by omega))
    | accepted fd hpc hconnect htrace =>
      exact Or.inr (.accepted fd (hsaw.emit htrace) (hu.loop_of_setsockopt hpc) hpc hconnect)
  | accepted fd hsaw hserver hpc hconnect =>
    cases setsockopt_step hgone.2.2 hserver hpc hstep
    exact Or.inr (.opened fd hsaw hserver rfl hconnect)
  | opened fd hsaw hserver hpc hconnect =>
    exact Or.inl ⟨fd, setConnected_step hsaw hserver hpc hconnect hstep⟩

theorem Within.beside {old : List Event} {k : Nat} (h : Within old k t) (hbeside : Beside t u) :
    Within old k u := by
  cases h with
  | waiting hsaw hle =>
    refine .waiting (hsaw.mono hbeside.trace) ?_
    rw [toAccept, hbeside.server, hbeside.serverPc, hbeside.serverStatus]
    exact hle
  | accepted fd hsaw hserver hpc hconnect =>
    exact .accepted fd (hsaw.mono hbeside.trace) (hbeside.server.trans hserver)
      (hbeside.serverPc.trans hpc) (hbeside.socketConnect.trans hconnect)
  | opened fd hsaw hserver hpc hconnect =>
    exact .opened fd (hsaw.mono hbeside.trace) (hbeside.server.trans hserver)
      (hbeside.serverPc.trans hpc) (hbeside.socketConnect.trans hconnect)

theorem Serving.start {sizeMsgTlm maxNumQueueTlm : Nat} {socketListen fdsFd : Int}
    {cmdMsgBuffer : CircularBuffer.CircularBuf} :
    Serving (.start fdsFd (.init sizeMsgTlm socketListen maxNumQueueTlm cmdMsgBuffer)) := by
  refine ⟨rfl, ?_, ?_, ?_, fun _ => rfl⟩
  · exact ServerStatus.noConfusion
  · exact ThreadState.noConfusion
  · exact ServerPc.noConfusion

theorem Serving.step {a : Action} (h : Serving t) (hopen : a ≠ .close)
    (hstep : t.step a = some u) : Serving u := by
  cases hrun : a.isRun with
  | true =>
    cases a with
    | run env => exact h.serverStep hstep
    | _ => cases hrun
  | false => exact (step_beside hrun hopen hstep).serving h

theorem Serving.run {as : List Action} (hrun : Runs.run Threads.step t as = some u)
    (hopen : .close ∉ as) (ht : Serving t) : Serving u := by
  refine Runs.run_mem_invariant ?_ hrun ht
  intro s a v hmem hs hstep
  exact hs.step (fun heq => hopen (heq ▸ hmem)) hstep

theorem Serving.within (h : Serving t) : Within t.trace 12 t :=
  .waiting ⟨[], (List.append_nil _).symm, List.Sublist.refl _⟩ h.toAccept_le

theorem Within.run {as : List Action} {old : List Event} {k : Nat} (h : Within old k t)
    (ht : Serving t) (hopen : .close ∉ as) (hgone : ∀ env, .run env ∈ as → env.Gone)
    (hrun : Runs.run step t as = some u) (hk : k ≤ as.countP Action.isRun) :
    ∃ bs cs v, as = bs ++ cs ∧ Runs.run step t bs = some v ∧ ∃ fd, ConnectedWith old fd v := by
  refine Runs.run_reaches (fun k s => Within old k s ∧ Serving s)
    (fun s => ∃ fd, ConnectedWith old fd s)
    (fun a => a ≠ .close ∧ ∀ env, a = .run env → env.Gone) ?_ ?_ ?_ ?_ hrun ⟨h, ht⟩ hk
  · rintro s ⟨hzero, -⟩
    cases hzero
  · rintro k s a v hmine ⟨-, hok⟩ ⟨hwithin, hserving⟩ hstep
    cases a with
    | run env =>
      exact (hwithin.serverStep hserving (hok env rfl) hstep).imp_right fun hless =>
        ⟨hless, hserving.serverStep hstep⟩
    | _ => cases hmine
  · rintro k s a v hother ⟨hclose, -⟩ ⟨hwithin, hserving⟩ hstep
    have hbeside := step_beside hother hclose hstep
    exact ⟨hwithin.beside hbeside, hbeside.serving hserving⟩
  · intro a ha
    exact ⟨fun heq => hopen (heq ▸ ha), fun env heq => hgone env (heq ▸ ha)⟩

end

/-- Wherever the threads are when the client is gone, at the latest twelve steps of the server
thread later the next client has been accepted and the server is connected with it. When
`isCloseConnDetected` is still set at that moment, the next turn closes this connection. -/
theorem reconnects {sizeMsgTlm maxNumQueueTlm : Nat} {socketListen fdsFd : Int}
    {cmdMsgBuffer : CircularBuffer.CircularBuf} {as bs : List Action} {t u : Threads}
    (hbefore : Runs.run step
      (.start fdsFd (.init sizeMsgTlm socketListen maxNumQueueTlm cmdMsgBuffer)) as = some t)
    (hafter : Runs.run step t bs = some u) (hopen : .close ∉ as ++ bs)
    (hgone : ∀ env, .run env ∈ bs → env.Gone) (hsteps : 12 ≤ bs.countP Action.isRun) :
    ∃ cs ds v, bs = cs ++ ds ∧ Runs.run step t cs = some v ∧ ∃ fd, v.ConnectedWith t.trace fd := by
  have ht := Serving.start.run hbefore (fun hmem => hopen (List.mem_append_left _ hmem))
  exact ht.within.run ht (fun hmem => hopen (List.mem_append_right _ hmem)) hgone hafter hsteps

/-- The answers when the client is gone and the next one gets the socket `fd`. -/
def goneEnv (fd : Int) : RunEnv := { recv := some ⟨[], Nat.zero_le _⟩, accept := fd }

/-- A status is queued and sent to the next client while the server thread goes round. -/
def nextClient (fd : Int) : List Action :=
  List.replicate 6 (.run (goneEnv fd)) ++ [.sendCmdStatus true default 1 1 0 []] ++
    List.replicate 3 (.tlm {}) ++ List.replicate 6 (.run (goneEnv fd)) ++
    List.replicate 5 (.tlm {})

theorem reconnects_next : ∃ t u,
    Runs.run step (.start 0 (.init 64 3 10 ⟨[default, default, default], 0, 0, 3⟩))
      (List.replicate 6 (.run { accept := 5 })) = some t ∧
    Runs.run step t (nextClient 6) = some u ∧
    ∃ cs ds v, nextClient 6 = cs ++ ds ∧ Runs.run step t cs = some v ∧
      ∃ fd, v.ConnectedWith t.trace fd := by
  have hrun : (Runs.run step (.start 0 (.init 64 3 10 ⟨[default, default, default], 0, 0, 3⟩))
      (List.replicate 6 (.run { accept := 5 }) ++ nextClient 6)).isSome = true := by
    decide +kernel
  obtain ⟨u, hu⟩ := Option.isSome_iff_exists.mp hrun
  obtain ⟨t, hbefore, hafter⟩ := Runs.run_append_eq_some.mp hu
  have hgone : (goneEnv 6).Gone := ⟨rfl, by decide, by decide⟩
  refine ⟨t, u, hbefore, hafter, reconnects hbefore hafter (by simp [nextClient]) ?_ (by decide)⟩
  intro env hmem
  simp only [nextClient, List.mem_append, List.mem_replicate, List.mem_singleton] at hmem
  rcases hmem with (((⟨-, heq⟩ | heq) | ⟨-, heq⟩) | ⟨-, heq⟩) | ⟨-, heq⟩
  · cases heq
    exact hgone
  · cases heq
  · cases heq
  · cases heq
    exact hgone
  · cases heq

end Threads

end HexrotPxiCom.CmdTlmServer
