import Mathlib.Data.List.DropRight
import HexrotPxiCom.Interface.ServerSteps
import HexrotPxiCom.Lib.Runs

/-!
# Why connections are closed

The telemetry thread reports a failed send in `isCloseConnDetected`, and only its turn that
sees the next connection resets it. A connection is closed for a cause of its own as long
as the telemetry thread has a turn after each close and after each connect of the server
thread while the flag is set.
-/

namespace HexrotPxiCom.CmdTlmServer

set_option autoImplicit false

open CircularBuffer

def Event.isAccept : Event → Bool
  | .accept _ => true
  | _ => false

/-- What happened on the newest connection. -/
def sinceAccept (trace : List Event) : List Event := trace.rtakeWhile fun e => !e.isAccept

/-- A connection that was set up is closed only after the client closed it, a send on it
failed, or the server is being closed. -/
def HasCause (pre : List Event) : Prop :=
  .connect ∈ sinceAccept pre → .recvZero ∈ sinceAccept pre ∨
    (∃ e ∈ sinceAccept pre, e.sendFailed = true) ∨ .closeServer ∈ pre

def Justified (trace : List Event) : Prop :=
  ∀ pre fd post, trace = pre ++ .close fd :: post → HasCause pre

/-- Before the server is closed, the server thread takes no turn on a new connection, and
accepts none, while the flag is set and the telemetry thread has not seen the last change of
the status. -/
def Seen (s : Server) : Action → Prop
  | .run env => s.closing = .notCalled → s.info.isCloseConnDetected = true → s.server = .loop →
      s.info.isReadyServer = true →
      (s.info.serverStatus = .connected → s.lastServerStatus ≠ .disconnected) ∧
      (s.info.serverStatus = .disconnected →
        tcpServerAccept env.pollAccept env.accept ≠ -1 → env.setsockopt ≠ -1 →
          s.lastServerStatus = .disconnected)
  | _ => True

instance (s : Server) : ∀ a, Decidable (Seen s a)
  | .run _ => inferInstanceAs (Decidable (_ → _ → _ → _ → _ ∧ _))
  | .tlm _ | .sendCmdStatus _ _ _ _ _ _ | .sendTlm _ _ | .getCmd _ | .setCommander _ | .close =>
    .isTrue trivial

section
variable {l es : List Event} {e : Event}

theorem sinceAccept_append (h : ∀ e ∈ es, e.isAccept = false) :
    sinceAccept (l ++ es) = sinceAccept l ++ es := by
  induction es using List.reverseRecOn with
  | nil => simp
  | append_singleton es e ih =>
    have he : e.isAccept = false := h e (by simp)
    have hes := ih fun e he => h e (List.mem_append_left _ he)
    unfold sinceAccept at hes ⊢
    rw [← List.append_assoc, List.rtakeWhile_concat_pos _ _ _ (by simp [he]), hes,
      List.append_assoc]

theorem sinceAccept_accept (fd : Int) : sinceAccept (l ++ [.accept fd]) = [] :=
  List.rtakeWhile_concat_neg _ _ _ (by simp [Event.isAccept])

theorem Justified.nil : Justified [] := by
  intro pre fd post h
  simp at h

theorem Justified.concat (h : Justified l) (he : ∀ fd, e = .close fd → HasCause l) :
    Justified (l ++ [e]) := by
  intro pre fd post heq
  rcases List.eq_nil_or_concat post with rfl | ⟨post', x, rfl⟩
  · obtain ⟨rfl, hlast⟩ := List.append_inj' heq rfl
    exact he fd (List.singleton_inj.mp hlast)
  · rw [List.concat_eq_append, ← List.cons_append, ← List.append_assoc] at heq
    exact h pre fd post' (List.append_inj' heq rfl).1

theorem Justified.append (h : Justified l) (hes : ∀ e ∈ es, ∀ fd, e ≠ .close fd) :
    Justified (l ++ es) := by
  induction es using List.reverseRecOn with
  | nil =>
    rw [List.append_nil]
    exact h
  | append_singleton es e ih =>
    rw [← List.append_assoc]
    apply (ih fun e he => hes e (List.mem_append_left _ he)).concat
    intro fd he
    exact absurd he (hes e (by simp) fd)

/-- Whatever is closed while the server is being closed has a cause. -/
theorem Justified.append_closing (h : Justified l) (hclose : .closeServer ∈ l) :
    Justified (l ++ es) := by
  induction es using List.reverseRecOn with
  | nil =>
    rw [List.append_nil]
    exact h
  | append_singleton es e ih =>
    rw [← List.append_assoc]
    exact ih.concat fun _ _ _ => Or.inr (Or.inr (List.mem_append_left _ hclose))

end

namespace Server

/-- The flag speaks of the newest connection once the telemetry thread has seen it. -/
structure OwnFault (s : Server) : Prop where
  justified : Justified s.trace
  closing : s.info.isReadyServer = false ∨ s.closing ≠ .notCalled → .closeServer ∈ s.trace
  failed : .closeServer ∉ s.trace → s.info.serverStatus = .connected →
    s.lastServerStatus ≠ .disconnected → s.info.isCloseConnDetected = true →
      ∃ e ∈ sinceAccept s.trace, e.sendFailed = true

/-- The status, the status that the telemetry thread has seen, and the flag. -/
def watched (s : Server) : ServerStatus × ServerStatus × Bool :=
  (s.info.serverStatus, s.lastServerStatus, s.info.isCloseConnDetected)

theorem watched_eq {s t : Server} (h : t.watched = s.watched) :
    t.info.serverStatus = s.info.serverStatus ∧ t.lastServerStatus = s.lastServerStatus ∧
      t.info.isCloseConnDetected = s.info.isCloseConnDetected := by
  simpa only [watched, Prod.mk.injEq] using h

namespace OwnFault

variable {s t : Server}

theorem notCalled (h : s.OwnFault) (hopen : .closeServer ∉ s.trace) : s.closing = .notCalled := by
  by_contra hcalled
  exact hopen (h.closing (Or.inr hcalled))

/-- A step that closes nothing and leaves the status and the flag as they are. -/
theorem keep (h : s.OwnFault) (es : List Event) (htrace : t.trace = s.trace ++ es)
    (hes : ∀ e ∈ es, (∀ fd, e ≠ .close fd) ∧ e.isAccept = false)
    (hready : t.info.isReadyServer = s.info.isReadyServer) (hclosing : t.closing = s.closing)
    (heq : t.watched = s.watched) : t.OwnFault := by
  obtain ⟨hstatus, hlast, hflag⟩ := watched_eq heq
  refine ⟨?_, ?_, ?_⟩
  · rw [htrace]
    exact h.justified.append fun e he => (hes e he).1
  · rw [hready, hclosing, htrace]
    intro hc
    exact List.mem_append_left _ (h.closing hc)
  · rw [hstatus, hlast, hflag, htrace, sinceAccept_append fun e he => (hes e he).2]
    intro hopen h1 h2 h3
    obtain ⟨e, he, hfail⟩ := h.failed (fun hc => hopen (List.mem_append_left _ hc)) h1 h2 h3
    exact ⟨e, List.mem_append_left _ he, hfail⟩

theorem closeConn (h : s.OwnFault) (hcause : HasCause s.trace) : s.closeConn.OwnFault := by
  refine ⟨?_, ?_, ?_⟩
  · rw [closeConn_trace]
    exact h.justified.concat fun _ _ => hcause
  · intro hc
    rw [closeConn_trace]
    exact List.mem_append_left _ (h.closing hc)
  · intro _ hstatus
    cases hstatus

/-- Once `cmdTlmServer_close` is called, closing needs no other cause. -/
theorem afterClose (h : s.OwnFault) (es : List Event) (hclose : .closeServer ∈ s.trace)
    (htrace : t.trace = s.trace ++ es) : t.OwnFault := by
  have hcalled : .closeServer ∈ t.trace := by
    rw [htrace]
    exact List.mem_append_left _ hclose
  refine ⟨?_, fun _ => hcalled, fun hopen => absurd hcalled hopen⟩
  rw [htrace]
  exact h.justified.append_closing hclose

theorem run {env : RunEnv} (h : s.OwnFault) (hseen : Seen s (.run env))
    (hturn : RunTurn env s t) : t.OwnFault := by
  cases hturn with
  | wait hserver =>
    split
    · exact h.keep [] (by simp) (by simp) rfl rfl rfl
    · exact h
  | leave hserver hready =>
    obtain ⟨_, _, _, _, es, hclose, -⟩ := basicClose_cases s
    rw [hclose]
    exact h.afterClose es (h.closing (Or.inl hready)) rfl
  | exited | nothing => exact h
  | noClient => exact h.keep [] (by simp) (by simp) rfl rfl rfl
  | refused fd hloop hstatus hfd hne hopt =>
    have haccept : (emit (.accept fd)
        { s with info := { s.info with socketConnect := fd } }).OwnFault := by
      refine ⟨?_, ?_, ?_⟩
      · exact h.justified.concat (by simp)
      · intro hc
        exact List.mem_append_left _ (h.closing hc)
      · intro _ hc
        rw [emit_info] at hc
        exact absurd (hstatus.symm.trans hc) (by decide)
    apply haccept.closeConn
    intro hconnect
    rw [emit_trace, sinceAccept_accept] at hconnect
    cases hconnect
  | connected fd hloop hstatus hfd hne hopt =>
    refine ⟨?_, ?_, ?_⟩
    · exact (h.justified.concat (by simp)).concat (by simp)
    · intro hc
      exact List.mem_append_left _ (List.mem_append_left _ (h.closing hc))
    · intro hopen _ hlast hflag
      have hclosing := h.notCalled fun hc =>
        hopen (List.mem_append_left _ (List.mem_append_left _ hc))
      exact absurd ((hseen hclosing hflag hloop.1 hloop.2).2 hstatus (hfd.symm ▸ hne) hopt) hlast
  | dropped hloop hstatus hflag =>
    apply h.closeConn
    intro _
    by_cases hopen : .closeServer ∈ s.trace
    · exact Or.inr (Or.inr hopen)
    · have hlast := (hseen (h.notCalled hopen) hflag hloop.1 hloop.2).1 hstatus
      exact Or.inr (Or.inl (h.failed hopen hstatus hlast hflag))
  | ended hloop hstatus hflag =>
    have hzero : (s.emit .recvZero).OwnFault :=
      h.keep [.recvZero] rfl (by simp [Event.isAccept]) rfl rfl rfl
    apply hzero.closeConn
    intro _
    rw [emit_trace, sinceAccept_append (by simp [Event.isAccept])]
    exact Or.inl (by simp)
  | command bytes t hloop hstatus hflag hrecv hpos hcmd =>
    rcases handleCmd_cases hcmd with ⟨r, hauth, hput, rfl⟩ | ⟨error, queue, hauth, -, rfl⟩
    · exact h.keep _ (by simp; rfl) (by simp [Event.isAccept]) rfl rfl rfl
    · exact h.keep _ (by simp; rfl) (by simp [Event.isAccept]) rfl rfl rfl

/-- A telemetry turn sets the flag for the connection on which its send failed. -/
theorem tlmTurn (h : s.OwnFault) (env : TlmEnv) : (s.tlmTurn env).OwnFault := by
  obtain ⟨_, _, _, _, flag, es, hturn, hes, hflag⟩ := tlmTurn_cases env s
  have hquiet : ∀ e ∈ es, (∀ fd, e ≠ .close fd) ∧ e.isAccept = false := by
    intro e he
    have hsend := hes e he
    cases e <;> simp [Event.isSend, Event.isAccept] at hsend ⊢
  rw [hturn]
  refine ⟨?_, ?_, ?_⟩
  · exact h.justified.append fun e he => (hquiet e he).1
  · intro hc
    exact List.mem_append_left _ (h.closing hc)
  · intro hopen hstatus hlast hset
    change ∃ e ∈ sinceAccept (s.trace ++ es), e.sendFailed = true
    rw [sinceAccept_append fun e he => (hquiet e he).2]
    rcases hflag hset with hdetected | ⟨-, e, he, hfail⟩
    · -- the flag was set before, and this turn saw no new connection
      unfold detected at hdetected
      split at hdetected
      · cases hdetected
      · rename_i hedge
        have hseen : s.lastServerStatus ≠ .disconnected := fun hd => hedge ⟨hd, hstatus⟩
        obtain ⟨e, he, hfail⟩ :=
          h.failed (fun hc => hopen (List.mem_append_left _ hc)) hstatus hseen hdetected
        exact ⟨e, List.mem_append_left _ he, hfail⟩
    · exact ⟨e, List.mem_append_right _ he, hfail⟩

theorem tlm {env : TlmEnv} (h : s.OwnFault) (hstep : s.sendTlmAndCmdStatus env = some t) :
    t.OwnFault := by
  unfold sendTlmAndCmdStatus at hstep
  split at hstep
  · cases hstep
    split
    · exact h.keep [] (by simp) (by simp) rfl rfl rfl
    · exact h
  · cases hstep
    split
    · exact h.tlmTurn env
    · exact h.keep [] (by simp) (by simp) rfl rfl rfl
  · cases hstep

theorem close (h : s.OwnFault) (hstep : s.close = some t) : t.OwnFault := by
  rcases close_cases hstep with ⟨es, _, _, _, rfl, -, hes⟩ | ⟨hclosing, rfl⟩
  · rcases hes with ⟨-, rfl⟩ | ⟨hcalled, rfl⟩
    · have hemit : (s.emit .closeServer).OwnFault :=
        h.keep [.closeServer] rfl (by simp [Event.isAccept]) rfl rfl rfl
      exact hemit.afterClose [] (by simp) (List.append_nil _).symm
    · exact h.afterClose [] (h.closing (Or.inr hcalled)) rfl
  · obtain ⟨_, _, _, _, es, hclose, -⟩ := basicClose_cases s
    have hcalled : .closeServer ∈ s.trace := h.closing (Or.inr (by rw [hclosing]; decide))
    rw [hclose]
    exact h.afterClose es hcalled rfl

theorem step {a : Action} (h : s.OwnFault) (hseen : Seen s a) (hstep : s.step a = some t) :
    t.OwnFault := by
  cases a with
  | run env => exact h.run hseen (run_turn hstep)
  | tlm env => exact h.tlm hstep
  | sendCmdStatus ok cmdStatusSend counter cmdStatus duration pReason =>
    cases hstep
    exact h.keep [] (by simp) (by simp) rfl rfl rfl
  | sendTlm ok msg =>
    cases hstep
    exact h.keep [] (by simp) (by simp) rfl rfl rfl
  | getCmd data =>
    obtain ⟨r, hget, rfl⟩ := Option.map_eq_some_iff.mp hstep
    exact h.keep [] (by simp) (by simp) rfl rfl rfl
  | setCommander isCommander =>
    cases hstep
    exact h.keep [] (by simp) (by simp) rfl rfl rfl
  | close => exact h.close hstep

end OwnFault

end Server

/-- As long as the telemetry thread sees each change of the status while its flag is set, no
connection that was set up is closed for the fault of another one. -/
theorem close_justified {sizeMsgTlm maxNumQueueTlm : Nat} {socketListen fdsFd : Int}
    {cmdMsgBuffer : CircularBuf} {as : List Action} {t : Server}
    (hguard : Runs.Guarded Server.step Seen
      (.start fdsFd (.init sizeMsgTlm socketListen maxNumQueueTlm cmdMsgBuffer)) as)
    (hrun : Runs.run Server.step
      (.start fdsFd (.init sizeMsgTlm socketListen maxNumQueueTlm cmdMsgBuffer)) as = some t) :
    Justified t.trace := by
  have hstart : (Server.start fdsFd
      (.init sizeMsgTlm socketListen maxNumQueueTlm cmdMsgBuffer)).OwnFault := by
    refine ⟨Justified.nil, ?_, ?_⟩
    · rintro (hready | hclosing)
      · cases hready
      · exact absurd rfl hclosing
    · intro _ hstatus
      cases hstatus
  exact (Runs.Guarded.invariant (fun _ _ _ h hseen hs => h.step hseen hs) hguard hrun
    hstart).justified

/-- A send on the first connection fails, and the server thread closes it. -/
def sendFails : List Action :=
  [.run {}, .run { accept := 5 }, .tlm {}, .tlm {}, .sendCmdStatus true default 1 1 0 [],
    .tlm { sendCmdStatus := -1 }, .run {}]

theorem close_justified_seen : ∃ t,
    Runs.run Server.step started (sendFails ++ [.tlm {}, .run { accept := 6 }, .tlm {}, .run {}]) =
      some t ∧
    t.info.serverStatus = .connected ∧ Justified t.trace := by
  have hrun : (Runs.run Server.step started
      (sendFails ++ [.tlm {}, .run { accept := 6 }, .tlm {}, .run {}])).any (fun t =>
        t.info.serverStatus == .connected) = true := by
    decide +kernel
  obtain ⟨t, ht, hstatus⟩ := (Option.any_eq_true _ _).mp hrun
  exact ⟨t, ht, beq_iff_eq.mp hstatus, close_justified (by decide +kernel) ht⟩

/-- Without a telemetry turn in between, the flag of the first connection closes the second. -/
theorem close_not_justified : ∃ t pre,
    Runs.run Server.step started (sendFails ++ [.run { accept := 6 }, .run {}]) = some t ∧
    t.trace = pre ++ [.accept 6, .connect, .close 6] ∧ .closeServer ∉ pre ∧
    ¬ Justified t.trace := by
  have hrun : (Runs.run Server.step started (sendFails ++ [.run { accept := 6 }, .run {}])).any
      (fun t => t.trace == t.trace.take 4 ++ [.accept 6, .connect, .close 6] &&
        !(t.trace.take 4).contains .closeServer) = true := by
    decide +kernel
  obtain ⟨t, ht, hall⟩ := (Option.any_eq_true _ _).mp hrun
  simp only [Bool.and_eq_true, beq_iff_eq, Bool.not_eq_true', List.contains_eq_mem,
    decide_eq_false_iff_not] at hall
  obtain ⟨htrace, hopen⟩ := hall
  refine ⟨t, t.trace.take 4, ht, htrace, hopen, ?_⟩
  intro hjust
  have hsince : sinceAccept (t.trace.take 4 ++ [.accept 6] ++ [.connect]) = [.connect] := by
    rw [sinceAccept_append (by simp [Event.isAccept]), sinceAccept_accept, List.nil_append]
  have hcause := hjust (t.trace.take 4 ++ [.accept 6] ++ [.connect]) 6 []
    (by simpa using htrace)
  unfold HasCause at hcause
  rw [hsince] at hcause
  rcases hcause (by simp) with h | ⟨e, he, hfail⟩ | h
  · simp at h
  · rw [List.mem_singleton.mp he] at hfail
    cases hfail
  · simp [hopen] at h

end HexrotPxiCom.CmdTlmServer
