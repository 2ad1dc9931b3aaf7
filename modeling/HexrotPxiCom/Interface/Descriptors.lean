import HexrotPxiCom.Interface.Sessions

/-!
# The descriptor of the connection

It stands in `serverInfo_t` and in the `pollfd` of `cmdTlmServer_run`, and is closed on four
paths. `Owns` says for each place in the loop where the descriptor is.
-/

namespace HexrotPxiCom.CmdTlmServer

set_option autoImplicit false

open CircularBuffer

/-- The descriptors that `accept` returned and those that were closed, as they came. -/
def sockets (trace : List Event) : List Event :=
  trace.filter fun
    | .accept _ | .close _ => true
    | _ => false

theorem sockets_append (l r : List Event) : sockets (l ++ r) = sockets l ++ sockets r :=
  List.filter_append l r

/-- Descriptors that were accepted and closed one after the other. -/
def acceptedClosed (fds : List Int) : List Event :=
  fds.flatMap fun fd => [.accept fd, .close fd]

theorem acceptedClosed_append (fds : List Int) (fd : Int) :
    acceptedClosed (fds ++ [fd]) = acceptedClosed fds ++ [.accept fd] ++ [.close fd] := by
  simp [acceptedClosed]

/-- The close of a descriptor that is not -1. -/
def closeOf (fd : Int) : List Event := if fd ≠ -1 then [.close fd] else []

namespace Server

theorem basicClose_sockets (s : Server) :
    s.basicClose.info.socketConnect = -1 ∧ s.basicClose.info.socketListen = -1 ∧
      s.basicClose.trace =
        s.trace ++ closeOf s.info.socketConnect ++ closeOf s.info.socketListen := by
  have hqueues (s : Server) :
      s.closeMsgQueueTlm.closeMsgQueueCmdStatus.info.socketConnect = s.info.socketConnect ∧
        s.closeMsgQueueTlm.closeMsgQueueCmdStatus.info.socketListen = s.info.socketListen ∧
        s.closeMsgQueueTlm.closeMsgQueueCmdStatus.trace = s.trace := by
    unfold closeMsgQueueCmdStatus closeMsgQueueTlm
    split <;> split <;> exact ⟨rfl, rfl, rfl⟩
  obtain ⟨h1, h2, h3⟩ := hqueues s.closeSocketConnect.closeSocketListen
  unfold basicClose
  rw [h1, h2, h3]
  unfold closeSocketListen closeSocketConnect closeOf
  by_cases hconnect : s.info.socketConnect = -1
  · by_cases hlisten : s.info.socketListen = -1
    · simp [hconnect, hlisten]
    · simp [hconnect, hlisten]
  · by_cases hlisten : s.info.socketListen = -1
    · simp [hconnect, hlisten]
    · simp [hconnect, hlisten]

end Server

namespace Threads

variable (socketListen : Int)

/-- No connection is open. -/
def Unheld (t : Threads) : Prop :=
  t.info.socketListen = socketListen ∧ ∃ fds, sockets t.trace = acceptedClosed fds

/-- The connection in `socketConnect` is open, and no other one. -/
def Held (t : Threads) : Prop :=
  t.info.socketListen = socketListen ∧ t.info.socketConnect ≠ -1 ∧
    ∃ fds, sockets t.trace = acceptedClosed fds ++ [.accept t.info.socketConnect]

/-- After `cmdTlmServer_basicClose`. -/
def Released (t : Threads) : Prop :=
  t.info.socketConnect = -1 ∧ t.info.socketListen = -1 ∧
    ∃ fds, sockets t.trace = acceptedClosed fds ++ closeOf socketListen

def Disconnected (t : Threads) : Prop :=
  t.info.serverStatus = .disconnected ∧ t.info.socketConnect = -1 ∧ t.Unheld socketListen

/-- A client is connected, and its descriptor is the one that is polled. -/
def Connected (t : Threads) : Prop :=
  t.info.serverStatus = .connected ∧ t.fdsFd = t.info.socketConnect ∧ t.Held socketListen

/-- Where the descriptor is, for each place in the loop. -/
def OwnsInLoop (t : Threads) : Prop :=
  match t.serverPc with
  | .loopTest => t.Disconnected socketListen ∨ t.Connected socketListen
  | .accept => t.Disconnected socketListen
  | .setsockopt | .setConnected | .closeSocket => t.Held socketListen
  | .testFlag | .recv | .check _ | .put _ | .mqSend _ => t.Connected socketListen
  | .clearSocket => t.Unheld socketListen
  | .setDisconnected => t.info.socketConnect = -1 ∧ t.Unheld socketListen
  | .setExit => t.Released socketListen

def Owns (t : Threads) : Prop :=
  match t.server with
  | .startWait => t.serverPc = .loopTest ∧ t.Disconnected socketListen
  | .loop => t.OwnsInLoop socketListen
  | .done => t.Released socketListen

variable {socketListen} {t u : Threads}

theorem OwnsInLoop.owns (h : t.OwnsInLoop socketListen) (hserver : t.server = .loop) :
    t.Owns socketListen := by
  unfold Owns
  rw [hserver]
  exact h

theorem Owns.inLoop (h : t.Owns socketListen) (hserver : t.server = .loop) :
    t.OwnsInLoop socketListen := by
  unfold Owns at h
  rw [hserver] at h
  exact h

theorem Released.owns (h : t.Released socketListen) (hserver : t.server = .done) :
    t.Owns socketListen := by
  unfold Owns
  rw [hserver]
  exact h

theorem Owns.released (h : t.Owns socketListen) (hserver : t.server = .done) :
    t.Released socketListen := by
  unfold Owns at h
  rw [hserver] at h
  exact h

theorem Owns.keep (h : t.Owns socketListen) (hserver : u.server = t.server)
    (hpc : u.serverPc = t.serverPc) (hfds : u.fdsFd = t.fdsFd)
    (hconnect : u.info.socketConnect = t.info.socketConnect)
    (hlisten : u.info.socketListen = t.info.socketListen)
    (hstatus : u.info.serverStatus = t.info.serverStatus)
    (htrace : sockets u.trace = sockets t.trace) : u.Owns socketListen := by
  unfold Owns OwnsInLoop Disconnected Connected Released Held Unheld at *
  rw [hserver, hpc, hfds, hconnect, hlisten, hstatus, htrace]
  exact h

/-- Another call than `accept` and `close`. -/
theorem Held.emit (h : t.Held socketListen) (hlisten : u.info.socketListen = t.info.socketListen)
    (hconnect : u.info.socketConnect = t.info.socketConnect)
    (htrace : sockets u.trace = sockets t.trace) : u.Held socketListen := by
  unfold Held at *
  rw [hlisten, hconnect, htrace]
  exact h

theorem Held.close (h : t.Held socketListen) (hlisten : u.info.socketListen = t.info.socketListen)
    (htrace : u.trace = t.trace ++ [.close t.info.socketConnect]) : u.Unheld socketListen := by
  obtain ⟨hsame, -, fds, hfds⟩ := h
  refine ⟨hlisten.trans hsame, fds ++ [t.info.socketConnect], ?_⟩
  rw [htrace, sockets_append, hfds, acceptedClosed_append]
  rfl

theorem Unheld.accept {fd : Int} (h : t.Unheld socketListen) (hfd : fd ≠ -1)
    (hlisten : u.info.socketListen = t.info.socketListen) (hconnect : u.info.socketConnect = fd)
    (htrace : u.trace = t.trace ++ [.accept fd]) : u.Held socketListen := by
  obtain ⟨hsame, fds, hfds⟩ := h
  refine ⟨hlisten.trans hsame, by rw [hconnect]; exact hfd, fds, ?_⟩
  rw [htrace, sockets_append, hfds, hconnect]
  rfl

/-- At the head of the loop `cmdTlmServer_basicClose` closes what is open. -/
theorem Owns.basicClose (h : t.Disconnected socketListen ∨ t.Connected socketListen)
    (hinfo : u.toServer = t.toServer.basicClose) : u.Released socketListen := by
  obtain ⟨hconnect, hlisten, htrace⟩ := Server.basicClose_sockets t.toServer
  unfold Released
  rw [hinfo]
  refine ⟨hconnect, hlisten, ?_⟩
  rw [htrace, sockets_append, sockets_append]
  have hclose (fd : Int) : sockets (closeOf fd) = closeOf fd := by
    unfold closeOf
    split <;> rfl
  rw [hclose, hclose]
  rcases h with ⟨-, hnone, hsame, fds, hfds⟩ | ⟨-, -, hsame, hsome, fds, hfds⟩
  · refine ⟨fds, ?_⟩
    rw [hfds, hsame, hnone]
    simp [closeOf]
  · refine ⟨fds ++ [t.info.socketConnect], ?_⟩
    rw [hfds, hsame, acceptedClosed_append]
    simp [closeOf, hsome]

/-- A further `cmdTlmServer_basicClose` closes no socket. -/
theorem Released.basicClose (h : t.Released socketListen)
    (hinfo : u.info = t.toServer.basicClose.info) (htrace : u.trace = t.toServer.basicClose.trace) :
    u.Released socketListen := by
  obtain ⟨hconnect, hlisten, hclosed⟩ := h
  obtain ⟨hconnect', hlisten', htrace'⟩ := Server.basicClose_sockets t.toServer
  refine ⟨by rw [hinfo, hconnect'], by rw [hinfo, hlisten'], ?_⟩
  rw [htrace, htrace', hconnect, hlisten]
  simpa [closeOf] using hclosed

theorem Owns.serverStep {env : RunEnv} (h : t.Owns socketListen)
    (hstep : t.serverStep env = some u) : u.Owns socketListen := by
  cases serverStep_step hstep with
  | wait hserver =>
    split
    · unfold Owns at h
      rw [hserver] at h
      refine OwnsInLoop.owns ?_ rfl
      rw [OwnsInLoop, h.1]
      exact Or.inl h.2
    · exact h
  | toAccept hserver hpc hstatus =>
    have hplace := h.inLoop hserver
    rw [OwnsInLoop, hpc] at hplace
    refine OwnsInLoop.owns (hplace.resolve_right ?_) hserver
    rintro ⟨hconnected, -⟩
    rw [hstatus] at hconnected
    cases hconnected
  | toTestFlag hserver hpc hstatus =>
    have hplace := h.inLoop hserver
    rw [OwnsInLoop, hpc] at hplace
    refine OwnsInLoop.owns (hplace.resolve_left ?_) hserver
    rintro ⟨hdisconnected, -⟩
    rw [hstatus] at hdisconnected
    cases hdisconnected
  | exited => exact h
  | basicClose hserver hpc =>
    have hplace := h.inLoop hserver
    rw [OwnsInLoop, hpc] at hplace
    refine OwnsInLoop.owns (Owns.basicClose hplace rfl) ?_
    obtain ⟨_, _, _, _, _, hclose, -⟩ := Server.basicClose_cases t.toServer
    change t.toServer.basicClose.server = .loop
    rw [hclose]
    exact hserver
  | noClient hserver hpc =>
    have hplace := h.inLoop hserver
    rw [OwnsInLoop, hpc] at hplace
    obtain ⟨hstatus, -, hunheld⟩ := hplace
    exact OwnsInLoop.owns (Or.inl ⟨hstatus, rfl, hunheld⟩) hserver
  | accept fd hserver hpc hfd hne =>
    have hplace := h.inLoop hserver
    rw [OwnsInLoop, hpc] at hplace
    obtain ⟨-, -, hunheld⟩ := hplace
    exact OwnsInLoop.owns (hunheld.accept hne rfl rfl rfl) hserver
  | refused hserver hpc | toSetConnected hserver hpc =>
    have hplace := h.inLoop hserver
    rw [OwnsInLoop, hpc] at hplace
    exact OwnsInLoop.owns hplace hserver
  | setConnected hserver hpc =>
    have hplace := h.inLoop hserver
    rw [OwnsInLoop, hpc] at hplace
    obtain ⟨hlisten, hsome, fds, hfds⟩ := hplace
    refine OwnsInLoop.owns (Or.inr ⟨rfl, rfl, hlisten, hsome, fds, ?_⟩) hserver
    change sockets (t.trace ++ [.connect]) = _
    rw [sockets_append, hfds]
    simp [sockets]
  | detected hserver hpc =>
    have hplace := h.inLoop hserver
    rw [OwnsInLoop, hpc] at hplace
    exact OwnsInLoop.owns hplace.2.2 hserver
  | toRecv hserver hpc =>
    have hplace := h.inLoop hserver
    rw [OwnsInLoop, hpc] at hplace
    exact OwnsInLoop.owns hplace hserver
  | nothing hserver hpc =>
    have hplace := h.inLoop hserver
    rw [OwnsInLoop, hpc] at hplace
    exact OwnsInLoop.owns (Or.inr hplace) hserver
  | ended hserver hpc =>
    have hplace := h.inLoop hserver
    rw [OwnsInLoop, hpc] at hplace
    obtain ⟨-, -, hheld⟩ := hplace
    exact OwnsInLoop.owns (hheld.emit rfl rfl (by simp [sockets])) hserver
  | recv hserver hpc | permit cmdMsg hserver hpc | reject cmdMsg cmdStatus hserver hpc =>
    have hplace := h.inLoop hserver
    rw [OwnsInLoop, hpc] at hplace
    obtain ⟨hstatus, hfds, hheld⟩ := hplace
    exact OwnsInLoop.owns ⟨hstatus, hfds, hheld.emit rfl rfl (by simp [sockets])⟩ hserver
  | put cmdMsg r hserver hpc | mqSend cmdStatus hserver hpc =>
    have hplace := h.inLoop hserver
    rw [OwnsInLoop, hpc] at hplace
    obtain ⟨hstatus, hfds, hheld⟩ := hplace
    exact OwnsInLoop.owns (Or.inr ⟨hstatus, hfds, hheld.emit rfl rfl (by simp [sockets])⟩) hserver
  | closeSocket hserver hpc =>
    have hplace := h.inLoop hserver
    rw [OwnsInLoop, hpc] at hplace
    exact OwnsInLoop.owns (hplace.close rfl rfl) hserver
  | clearSocket hserver hpc =>
    have hplace := h.inLoop hserver
    rw [OwnsInLoop, hpc] at hplace
    exact OwnsInLoop.owns ⟨rfl, hplace⟩ hserver
  | setDisconnected hserver hpc =>
    have hplace := h.inLoop hserver
    rw [OwnsInLoop, hpc] at hplace
    exact OwnsInLoop.owns (Or.inl ⟨rfl, hplace⟩) hserver
  | setExit hserver hpc =>
    have hplace := h.inLoop hserver
    rw [OwnsInLoop, hpc] at hplace
    exact Released.owns hplace rfl

theorem tlmStep_keeps {env : TlmEnv} (h : t.Owns socketListen) (hstep : t.tlmStep env = some u) :
    u.Owns socketListen := by
  cases tlmStep_step hstep with
  | wait =>
    split
    · exact h.keep rfl rfl rfl rfl rfl rfl rfl
    · exact h
  | send | sendTlm => exact h.keep rfl rfl rfl rfl rfl rfl (by simp [sockets])
  | _ => exact h.keep rfl rfl rfl rfl rfl rfl rfl

theorem serverStep_waits {env : RunEnv} (h : t.toServer.CloseWaits)
    (hstep : t.serverStep env = some u) : u.toServer.CloseWaits := by
  obtain ⟨hclosing, hready, -⟩ := serverStep_flags hstep
  refine h.keep hclosing hready fun hdone => ?_
  simp [Threads.serverStep, hdone] at hstep

theorem tlmStep_waits {env : TlmEnv} (h : t.toServer.CloseWaits) (hstep : t.tlmStep env = some u) :
    u.toServer.CloseWaits := by
  obtain ⟨hclosing, hready, -⟩ := tlmStep_flags hstep
  exact h.keep hclosing hready fun hdone => (tlmStep_frame hstep).1.trans hdone

/-- The descriptor is where `Owns` says, and `cmdTlmServer_close` waits for the server thread. -/
structure Settled (socketListen : Int) (t : Threads) : Prop where
  owns : t.Owns socketListen
  waits : t.toServer.CloseWaits

namespace Settled

theorem keep (h : t.Settled socketListen) (hserver : u.server = t.server)
    (hpc : u.serverPc = t.serverPc) (hfds : u.fdsFd = t.fdsFd) (hclosing : u.closing = t.closing)
    (hconnect : u.info.socketConnect = t.info.socketConnect)
    (hlisten : u.info.socketListen = t.info.socketListen)
    (hstatus : u.info.serverStatus = t.info.serverStatus)
    (hready : u.info.isReadyServer = t.info.isReadyServer)
    (htrace : u.trace = t.trace) : u.Settled socketListen :=
  ⟨h.owns.keep hserver hpc hfds hconnect hlisten hstatus (by rw [htrace]),
    h.waits.keep hclosing hready fun hd => hserver.trans hd⟩

theorem close (h : t.Settled socketListen) (hstep : t.step .close = some u) :
    u.Settled socketListen := by
  unfold Threads.step at hstep
  dsimp only at hstep
  split at hstep
  · rename_i hclosing
    have hdone := h.waits.done (Or.inl hclosing)
    have hbasic : t.toServer.basicClose.server = .done := by
      obtain ⟨_, _, _, _, _, hclose, -⟩ := Server.basicClose_cases t.toServer
      rw [hclose]
      exact hdone
    cases hstep
    refine ⟨Released.owns ?_ hbasic, ⟨fun hc => by simp at hc, fun _ => hbasic⟩⟩
    exact (h.owns.released hdone).basicClose rfl rfl
  · rename_i hclosing
    obtain ⟨s, hclose, rfl⟩ := Option.map_eq_some_iff.mp hstep
    refine ⟨?_, h.waits.close hclose⟩
    rcases Server.close_cases hclose with ⟨es, _, _, _, rfl, -, hes⟩ | ⟨hbasic, -⟩
    · refine h.owns.keep rfl rfl rfl rfl rfl rfl ?_
      rcases hes with ⟨-, rfl⟩ | ⟨-, rfl⟩
      · simp [sockets]
      · simp
    · exact absurd hbasic hclosing

theorem step {a : Action} (h : t.Settled socketListen) (hstep : t.step a = some u) :
    u.Settled socketListen := by
  cases a with
  | run env => exact ⟨h.owns.serverStep hstep, serverStep_waits h.waits hstep⟩
  | tlm env => exact ⟨tlmStep_keeps h.owns hstep, tlmStep_waits h.waits hstep⟩
  | sendCmdStatus ok cmdStatusSend counter cmdStatus duration pReason =>
    cases hstep
    exact h.keep rfl rfl rfl rfl rfl rfl rfl rfl rfl
  | sendTlm ok msg =>
    cases hstep
    exact h.keep rfl rfl rfl rfl rfl rfl rfl rfl rfl
  | getCmd data =>
    obtain ⟨s, hget, rfl⟩ := Option.map_eq_some_iff.mp hstep
    obtain ⟨r, -, rfl⟩ := Option.map_eq_some_iff.mp hget
    exact h.keep rfl rfl rfl rfl rfl rfl rfl rfl rfl
  | setCommander isCommander =>
    cases hstep
    exact h.keep rfl rfl rfl rfl rfl rfl rfl rfl rfl
  | close => exact h.close hstep

end Settled

/-- The threads with a telemetry thread that may set the flag at any time. -/
def stepFlag (t : Threads) : Bool ⊕ Action → Option Threads
  | .inl flag => some { t with info := { t.info with isCloseConnDetected := flag } }
  | .inr a => t.step a

/-- At most one accepted descriptor is open, and none was closed twice. -/
def OneOpen (socketListen : Int) (t : Threads) : Prop :=
  ∃ fds, sockets t.trace = acceptedClosed fds ∨
    (∃ fd, sockets t.trace = acceptedClosed fds ++ [.accept fd]) ∨
    sockets t.trace = acceptedClosed fds ++ closeOf socketListen

/-- What holds for the descriptors; at the head of the loop they agree with `serverStatus`. -/
structure Descriptors (socketListen : Int) (t : Threads) : Prop where
  disconnected : t.server = .loop → t.serverPc = .loopTest → t.info.serverStatus = .disconnected →
    t.info.socketConnect = -1
  connected : t.server = .loop → t.serverPc = .loopTest → t.info.serverStatus = .connected →
    t.fdsFd = t.info.socketConnect ∧ t.info.socketConnect ≠ -1 ∧
      ∃ fds, sockets t.trace = acceptedClosed fds ++ [.accept t.info.socketConnect]
  oneOpen : t.OneOpen socketListen
  released : t.server = .done →
    ∃ fds, sockets t.trace = acceptedClosed fds ++ closeOf socketListen

theorem Unheld.oneOpen (h : t.Unheld socketListen) : t.OneOpen socketListen := by
  obtain ⟨-, fds, hfds⟩ := h
  exact ⟨fds, Or.inl hfds⟩

theorem Held.oneOpen (h : t.Held socketListen) : t.OneOpen socketListen := by
  obtain ⟨-, -, fds, hfds⟩ := h
  exact ⟨fds, Or.inr (Or.inl ⟨_, hfds⟩)⟩

theorem Released.oneOpen (h : t.Released socketListen) : t.OneOpen socketListen := by
  obtain ⟨-, -, fds, hfds⟩ := h
  exact ⟨fds, Or.inr (Or.inr hfds)⟩

theorem OwnsInLoop.oneOpen (h : t.OwnsInLoop socketListen) : t.OneOpen socketListen := by
  unfold OwnsInLoop at h
  cases hpc : t.serverPc <;> simp only [hpc] at h
  case loopTest =>
    rcases h with h | h
    · exact h.2.2.oneOpen
    · exact h.2.2.oneOpen
  case accept => exact h.2.2.oneOpen
  case setsockopt | setConnected | closeSocket => exact h.oneOpen
  case testFlag | recv | check | put | mqSend => exact h.2.2.oneOpen
  case clearSocket => exact h.oneOpen
  case setDisconnected => exact h.2.oneOpen
  case setExit => exact h.oneOpen

theorem Owns.descriptors (h : t.Owns socketListen) : t.Descriptors socketListen := by
  refine ⟨?_, ?_, ?_, ?_⟩
  · intro hserver hpc hstatus
    have hhead := h.inLoop hserver
    unfold OwnsInLoop at hhead
    rw [hpc] at hhead
    rcases hhead with hd | hc
    · exact hd.2.1
    · rw [hc.1] at hstatus
      cases hstatus
  · intro hserver hpc hstatus
    have hhead := h.inLoop hserver
    unfold OwnsInLoop at hhead
    rw [hpc] at hhead
    rcases hhead with hd | ⟨-, hfds, -, hsome, hopen⟩
    · rw [hd.1] at hstatus
      cases hstatus
    · exact ⟨hfds, hsome, hopen⟩
  · cases hserver : t.server with
    | startWait =>
      unfold Owns at h
      rw [hserver] at h
      exact h.2.2.2.oneOpen
    | loop => exact (h.inLoop hserver).oneOpen
    | done => exact (h.released hserver).oneOpen
  · intro hserver
    exact (h.released hserver).2.2

end Threads

/-- At any moment at most one accepted descriptor is open, and it is the one that the server
uses; when the server thread has ended, each one has been closed once. -/
theorem descriptors_settled {sizeMsgTlm maxNumQueueTlm : Nat} {socketListen fdsFd : Int}
    {cmdMsgBuffer : CircularBuf} {as : List (Bool ⊕ Action)} {t : Threads}
    (hrun : Runs.run Threads.stepFlag
      (.start fdsFd (.init sizeMsgTlm socketListen maxNumQueueTlm cmdMsgBuffer)) as = some t) :
    t.Descriptors socketListen := by
  have hstart : (Threads.start fdsFd
      (.init sizeMsgTlm socketListen maxNumQueueTlm cmdMsgBuffer)).Settled socketListen := by
    refine ⟨⟨rfl, rfl, rfl, rfl, [], rfl⟩, ⟨fun _ => rfl, ?_⟩⟩
    rintro (h | h)
    · cases h
    · cases h
  have hstep (t : Threads) (a : Bool ⊕ Action) (u : Threads) (h : t.Settled socketListen)
      (hs : t.stepFlag a = some u) : u.Settled socketListen := by
    cases a with
    | inl flag =>
      cases hs
      exact h.keep rfl rfl rfl rfl rfl rfl rfl rfl rfl
    | inr a => exact h.step hs
  exact (Runs.run_invariant hstep hrun hstart).owns.descriptors

/-- Two connections, of which the telemetry thread reports the first; then the server is
closed. -/
def Threads.twoConnections : List (Bool ⊕ Action) :=
  let first : List Action := [.run {}] ++ acceptSteps 5
  let second : List Action := List.replicate 5 (.run {}) ++ acceptSteps 6
  let closes : List Action :=
    [.tlm {}, .close, .tlm {}, .close, .close, .run {}, .run {}, .close, .close]
  first.map .inr ++ [.inl true] ++ (second ++ closes).map .inr

theorem descriptors_settled_two : ∃ t,
    Runs.run Threads.stepFlag Threads.started Threads.twoConnections = some t ∧
    t.closing = .closed ∧
    sockets t.trace = [.accept 5, .close 5, .accept 6, .close 6, .close 3] ∧
    t.Descriptors 3 := by
  have hrun : (Runs.run Threads.stepFlag Threads.started Threads.twoConnections).any (fun t =>
      t.closing == .closed &&
        sockets t.trace == [.accept 5, .close 5, .accept 6, .close 6, .close 3]) = true := by
    decide +kernel
  obtain ⟨t, ht, hall⟩ := (Option.any_eq_true _ _).mp hrun
  simp only [Bool.and_eq_true, beq_iff_eq] at hall
  exact ⟨t, ht, hall.1, hall.2, descriptors_settled ht⟩

end HexrotPxiCom.CmdTlmServer
