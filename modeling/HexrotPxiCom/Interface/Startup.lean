import HexrotPxiCom.Interface.ServerThreads
import HexrotPxiCom.Lib.Handshake

/-!
# Starting and stopping the threads of the server

`cmdTlmServer_runInNewThread` step by step, with the threads it creates and a later
`cmdTlmServer_close`. Each ready flag starts its thread and stops it.
-/

namespace HexrotPxiCom.CmdTlmServer

set_option autoImplicit false

open CircularBuffer

/-- Where the caller of `cmdTlmServer_runInNewThread` is, when every call in it succeeds. -/
inductive StartState where
  | createServer
  | setPriority
  | createTlm
  | setReadyServer
  | setReadyTlm
  | returned
  deriving Repr, DecidableEq

namespace StartState

def serverCreated : StartState → Bool
  | .createServer => false
  | _ => true

def tlmCreated : StartState → Bool
  | .createServer | .setPriority | .createTlm => false
  | _ => true

end StartState

section
variable {s t : Server}

/-- Before it waits for the telemetry thread, `cmdTlmServer_close` clears its flag. -/
theorem Server.close_joinTlm (h : s.close = some t) (hjoin : t.closing = .joinTlm) :
    s.closing = .notCalled ∧ s.info.isReadyTlm = true ∧ t.info.isReadyTlm = false := by
  cases Server.close_step h with
  | clearTlm hclosing hready => exact ⟨hclosing, hready, rfl⟩
  | _ => cases hjoin

theorem Server.close_joinServer (h : s.close = some t) (hjoin : t.closing = .joinServer) :
    s.closing = .clearServer ∧ s.info.isReadyServer = true ∧ t.info.isReadyServer = false := by
  cases Server.close_step h with
  | clearServer hclosing hready => exact ⟨hclosing, hready, rfl⟩
  | _ => cases hjoin

/-- The joins return after their threads. -/
theorem Server.close_joined (h : s.close = some t) :
    (s.closing = .joinTlm → s.tlm = .done) ∧ (s.closing = .joinServer → s.server = .done) := by
  cases Server.close_step h with
  | joinedTlm hclosing hdone => exact ⟨fun _ => hdone, by simp [hclosing]⟩
  | joinedServer hclosing hdone => exact ⟨by simp [hclosing], fun _ => hdone⟩
  | clearTlm hclosing | noTlm hclosing | clearServer hclosing | noServer hclosing
  | basicClose hclosing => simp [hclosing]

end

theorem Threads.close_cases {t u : Threads} (h : t.step .close = some u) :
    (t.closing = .basicClose ∧ u.closing = .closed ∧ u.tlm = t.tlm ∧ u.server = t.server) ∨
      t.toServer.close = some u.toServer := by
  unfold Threads.step at h
  dsimp only at h
  split at h
  · rename_i hclosing
    obtain ⟨_, _, _, _, _, hclose, -⟩ := Server.basicClose_cases t.toServer
    cases h
    refine Or.inl ⟨hclosing, rfl, ?_⟩
    change t.toServer.basicClose.tlm = t.tlm ∧ t.toServer.basicClose.server = t.server
    rw [hclose]
    exact ⟨rfl, rfl⟩
  · obtain ⟨s, hs, rfl⟩ := Option.map_eq_some_iff.mp h
    exact Or.inr hs

/-- A step of another thread than the closing one leaves its place and the flags. -/
theorem Threads.step_flags {t u : Threads} {a : Action} (ha : a ≠ .close)
    (h : t.step a = some u) : SameFlags t u := by
  cases a with
  | run env => exact serverStep_flags h
  | tlm env => exact tlmStep_flags h
  | sendCmdStatus | sendTlm | setCommander =>
    cases h
    exact ⟨rfl, rfl, rfl⟩
  | getCmd data =>
    obtain ⟨s, hget, rfl⟩ := Option.map_eq_some_iff.mp h
    obtain ⟨r, -, rfl⟩ := Option.map_eq_some_iff.mp hget
    exact ⟨rfl, rfl, rfl⟩
  | close => exact absurd rfl ha

section
variable {t u : Threads} {a : Action}

theorem Threads.tlmStep_left {env : TlmEnv} (h : t.tlmStep env = some u)
    (hleft : t.tlm ≠ .startWait) : u.tlm ≠ .startWait := by
  cases tlmStep_step h with
  | wait htlm => exact absurd htlm hleft
  | leave =>
    intro hwaits
    cases hwaits
  | _ => exact hleft

theorem Threads.serverStep_left {env : RunEnv} (h : t.serverStep env = some u)
    (hleft : t.server ≠ .startWait) : u.server ≠ .startWait := by
  cases serverStep_step h with
  | wait hserver => exact absurd hserver hleft
  | basicClose =>
    obtain ⟨_, _, _, _, _, hclose, -⟩ := Server.basicClose_cases t.toServer
    change t.toServer.basicClose.server ≠ .startWait
    rw [hclose]
    exact hleft
  | setExit =>
    intro hwaits
    cases hwaits
  | _ => exact hleft

/-- A thread does not come back to the wait before its loop. -/
theorem Threads.waiting_back (h : t.step a = some u) :
    (u.tlm = .startWait → t.tlm = .startWait) ∧ (u.server = .startWait → t.server = .startWait) := by
  cases a with
  | run env =>
    refine ⟨fun hw => (serverStep_frame h).1 ▸ hw, fun hw => ?_⟩
    by_contra hleft
    exact serverStep_left h hleft hw
  | tlm env =>
    refine ⟨fun hw => ?_, fun hw => (tlmStep_frame h).1 ▸ hw⟩
    by_contra hleft
    exact tlmStep_left h hleft hw
  | sendCmdStatus | sendTlm | setCommander =>
    cases h
    exact ⟨id, id⟩
  | getCmd data =>
    obtain ⟨s, hget, rfl⟩ := Option.map_eq_some_iff.mp h
    obtain ⟨r, -, rfl⟩ := Option.map_eq_some_iff.mp hget
    exact ⟨id, id⟩
  | close =>
    rcases close_cases h with ⟨-, -, htlm, hserver⟩ | hclose
    · rw [htlm, hserver]
      exact ⟨id, id⟩
    · obtain ⟨hserver, htlm⟩ := Server.close_threads hclose
      rw [htlm, hserver]
      exact ⟨id, id⟩

/-- A thread whose flag is clear stays in the wait before its loop. -/
theorem Threads.waiting_stays (h : t.step a = some u) :
    (t.tlm = .startWait → t.info.isReadyTlm = false → u.tlm = .startWait) ∧
      (t.server = .startWait → t.info.isReadyServer = false → u.server = .startWait) := by
  cases a with
  | run env =>
    refine ⟨fun hw _ => (serverStep_frame h).1.trans hw, fun hw hready => ?_⟩
    simp only [step, serverStep, hw, hready] at h
    cases h
    exact hw
  | tlm env =>
    refine ⟨fun hw hready => ?_, fun hw _ => (tlmStep_frame h).1.trans hw⟩
    simp only [step, tlmStep, hw, hready] at h
    cases h
    exact hw
  | sendCmdStatus | sendTlm | setCommander =>
    cases h
    exact ⟨fun hw _ => hw, fun hw _ => hw⟩
  | getCmd data =>
    obtain ⟨s, hget, rfl⟩ := Option.map_eq_some_iff.mp h
    obtain ⟨r, -, rfl⟩ := Option.map_eq_some_iff.mp hget
    exact ⟨fun hw _ => hw, fun hw _ => hw⟩
  | close =>
    rcases close_cases h with ⟨-, -, htlm, hserver⟩ | hclose
    · rw [htlm, hserver]
      exact ⟨fun hw _ => hw, fun hw _ => hw⟩
    · obtain ⟨hserver, htlm⟩ := Server.close_threads hclose
      rw [htlm, hserver]
      exact ⟨fun hw _ => hw, fun hw _ => hw⟩

end

structure Startup extends Threads where
  starting : StartState

inductive StartupAction where
  | start
  | thread (a : Action)

namespace Startup

/-- After `cmdTlmServer_init`, before the starting call. -/
def init (fdsFd : Int) (info : ServerInfo) : Startup where
  toThreads := { Threads.start fdsFd info with info := info }
  starting := .createServer

/-- One step of `cmdTlmServer_runInNewThread`. -/
def startStep (t : Startup) : Option Startup :=
  match t.starting with
  | .createServer => some { t with starting := .setPriority }
  | .setPriority => some { t with starting := .createTlm }
  | .createTlm => some { t with starting := .setReadyServer }
  | .setReadyServer => some { t with
      info := { t.info with isReadyServer := true }
      starting := .setReadyTlm }
  | .setReadyTlm => some { t with
      info := { t.info with isReadyTlm := true }
      starting := .returned }
  | .returned => none

/-- A thread steps after it was created, and the server is closed after the starting call. -/
def allowed (t : Startup) : Action → Bool
  | .run _ => t.starting.serverCreated
  | .tlm _ => t.starting.tlmCreated
  | .close => t.starting == .returned
  | _ => true

def step (t : Startup) : StartupAction → Option Startup
  | .start => t.startStep
  | .thread a =>
    if t.allowed a then (t.toThreads.step a).map fun u => { t with toThreads := u } else none

/-- `cmdTlmServer_exitThread` clears a ready flag only when the thread has left the wait before
its loop. -/
def ClearsLate (t : Startup) : StartupAction → Prop
  | .thread .close =>
    (t.starting = .returned → t.closing = .notCalled → t.info.isReadyTlm = true →
      t.tlm ≠ .startWait) ∧
    (t.starting = .returned → t.closing = .clearServer → t.info.isReadyServer = true →
      t.server ≠ .startWait)
  | _ => True

instance (t : Startup) : ∀ a, Decidable (t.ClearsLate a)
  | .start => .isTrue trivial
  | .thread .close => inferInstanceAs (Decidable (_ ∧ _))
  | .thread (.run _) | .thread (.tlm _) | .thread (.sendCmdStatus ..) | .thread (.sendTlm ..)
  | .thread (.getCmd _) | .thread (.setCommander _) => .isTrue trivial

/-- The closing thread waits in `pthread_join` for the telemetry thread, which waits for its
flag. -/
def TlmStuck (t : Startup) : Prop :=
  t.closing = .joinTlm ∧ t.tlm = .startWait ∧ t.info.isReadyTlm = false

def ServerStuck (t : Startup) : Prop :=
  t.closing = .joinServer ∧ t.server = .startWait ∧ t.info.isReadyServer = false

/-- While the closing thread waits, the flag is clear and the starting call has returned. -/
structure Begun (t : Startup) : Prop where
  returned : t.closing ≠ .notCalled → t.starting = .returned
  tlm : t.closing = .joinTlm → t.info.isReadyTlm = false
  server : t.closing = .joinServer → t.info.isReadyServer = false

variable {t u : Startup} {a : Action}

theorem start_cases (h : t.startStep = some u) :
    t.starting ≠ .returned ∧ u.closing = t.closing ∧ u.tlm = t.tlm ∧ u.server = t.server := by
  unfold startStep at h
  cases hstarting : t.starting <;> simp only [hstarting] at h
  case returned => cases h
  all_goals
    cases h
    exact ⟨by simp, rfl, rfl, rfl⟩

theorem thread_cases (h : t.step (.thread a) = some u) :
    t.allowed a = true ∧ t.toThreads.step a = some u.toThreads ∧ u.starting = t.starting := by
  simp only [step] at h
  split at h
  · rename_i hallowed
    obtain ⟨v, hv, rfl⟩ := Option.map_eq_some_iff.mp h
    exact ⟨hallowed, hv, rfl⟩
  · cases h

theorem close_returned (h : t.step (.thread .close) = some u) : t.starting = .returned :=
  beq_iff_eq.mp (thread_cases h).1

theorem Begun.step {b : StartupAction} (h : t.Begun) (hstep : t.step b = some u) : u.Begun := by
  cases b with
  | start =>
    obtain ⟨hnot, hclosing, -, -⟩ := start_cases hstep
    have hcalled : t.closing = .notCalled := by
      by_contra hne
      exact hnot (h.returned hne)
    rw [hcalled] at hclosing
    refine ⟨?_, ?_, ?_⟩
    · exact fun hne => absurd hclosing hne
    · rw [hclosing]
      exact fun hj => by cases hj
    · rw [hclosing]
      exact fun hj => by cases hj
  | thread a =>
    obtain ⟨hallowed, hthread, hstarting⟩ := thread_cases hstep
    by_cases ha : a = .close
    · subst ha
      have hreturned : u.starting = .returned := hstarting.trans (beq_iff_eq.mp hallowed)
      refine ⟨fun _ => hreturned, fun hj => ?_, fun hj => ?_⟩
      · rcases Threads.close_cases hthread with ⟨-, hclosed, -⟩ | hclose
        · rw [hj] at hclosed
          cases hclosed
        · exact (Server.close_joinTlm hclose hj).2.2
      · rcases Threads.close_cases hthread with ⟨-, hclosed, -⟩ | hclose
        · rw [hj] at hclosed
          cases hclosed
        · exact (Server.close_joinServer hclose hj).2.2
    · obtain ⟨hclosing, hserver, htlm⟩ := Threads.step_flags ha hthread
      refine ⟨?_, ?_, ?_⟩
      · rw [hclosing, hstarting]
        exact h.returned
      · rw [hclosing, htlm]
        exact h.tlm
      · rw [hclosing, hserver]
        exact h.server

section
variable {b : StartupAction}

theorem waiting_back (h : t.step b = some u) :
    (u.tlm = .startWait → t.tlm = .startWait) ∧ (u.server = .startWait → t.server = .startWait) := by
  cases b with
  | start =>
    obtain ⟨-, -, htlm, hserver⟩ := start_cases h
    rw [htlm, hserver]
    exact ⟨id, id⟩
  | thread a => exact Threads.waiting_back (thread_cases h).2.1

/-- A join does not return, and its thread stays in the wait. -/
theorem joining_stays (hbegun : t.Begun) (h : t.step b = some u) :
    (t.closing = .joinTlm → t.tlm = .startWait → u.closing = .joinTlm ∧ u.tlm = .startWait) ∧
      (t.closing = .joinServer → t.server = .startWait →
        u.closing = .joinServer ∧ u.server = .startWait) := by
  cases b with
  | start =>
    obtain ⟨hnot, -⟩ := start_cases h
    refine ⟨fun hj => ?_, fun hj => ?_⟩
    · exact absurd (hbegun.returned (by rw [hj]; decide)) hnot
    · exact absurd (hbegun.returned (by rw [hj]; decide)) hnot
  | thread a =>
    obtain ⟨-, hthread, -⟩ := thread_cases h
    obtain ⟨htlm, hserver⟩ := Threads.waiting_stays hthread
    by_cases ha : a = .close
    · subst ha
      rcases Threads.close_cases hthread with ⟨hbasic, -⟩ | hclose
      · rw [hbasic]
        exact ⟨fun hj => (by cases hj), fun hj => (by cases hj)⟩
      · obtain ⟨hdoneTlm, hdoneServer⟩ := Server.close_joined hclose
        refine ⟨fun hj hw => ?_, fun hj hw => ?_⟩
        · rw [hdoneTlm hj] at hw
          cases hw
        · rw [hdoneServer hj] at hw
          cases hw
    · obtain ⟨hclosing, -⟩ := Threads.step_flags ha hthread
      rw [hclosing]
      exact ⟨fun hj hw => ⟨hj, htlm hw (hbegun.tlm hj)⟩,
        fun hj hw => ⟨hj, hserver hw (hbegun.server hj)⟩⟩

/-- The close is what makes the closing thread wait, and it leaves the threads in place. -/
theorem joining_begins (h : t.step b = some u) :
    (u.closing = .joinTlm → t.closing ≠ .joinTlm → b = .thread .close ∧ t.closing = .notCalled ∧
      t.info.isReadyTlm = true ∧ u.tlm = t.tlm) ∧
    (u.closing = .joinServer → t.closing ≠ .joinServer → b = .thread .close ∧
      t.closing = .clearServer ∧ t.info.isReadyServer = true ∧ u.server = t.server) := by
  cases b with
  | start =>
    obtain ⟨-, hclosing, -⟩ := start_cases h
    rw [hclosing]
    exact ⟨fun hj hne => absurd hj hne, fun hj hne => absurd hj hne⟩
  | thread a =>
    obtain ⟨-, hthread, -⟩ := thread_cases h
    by_cases ha : a = .close
    · subst ha
      rcases Threads.close_cases hthread with ⟨-, hclosed, -⟩ | hclose
      · rw [hclosed]
        exact ⟨fun hj => (by cases hj), fun hj => (by cases hj)⟩
      · obtain ⟨hserver, htlm⟩ := Server.close_threads hclose
        refine ⟨fun hj _ => ?_, fun hj _ => ?_⟩
        · obtain ⟨hcalled, hready, -⟩ := Server.close_joinTlm hclose hj
          exact ⟨rfl, hcalled, hready, htlm⟩
        · obtain ⟨hcalled, hready, -⟩ := Server.close_joinServer hclose hj
          exact ⟨rfl, hcalled, hready, hserver⟩
    · obtain ⟨hclosing, -⟩ := Threads.step_flags ha hthread
      rw [hclosing]
      exact ⟨fun hj hne => absurd hj hne, fun hj hne => absurd hj hne⟩

end

def tlmHandshake : Handshake Startup.step where
  Reachable := Begun
  ready t := t.info.isReadyTlm
  Waiting t := t.tlm = .startWait
  Joining t := t.closing = .joinTlm
  reachable h hstep := h.step hstep
  cleared h hj := h.tlm hj
  begins _ hstep hj hne hw := ((joining_begins hstep).1 hj hne).2.2.2.trans hw
  back _ hstep hw := (waiting_back hstep).1 hw
  stays h hstep hj hw := (joining_stays h hstep).1 hj hw

def serverHandshake : Handshake Startup.step where
  Reachable := Begun
  ready t := t.info.isReadyServer
  Waiting t := t.server = .startWait
  Joining t := t.closing = .joinServer
  reachable h hstep := h.step hstep
  cleared h hj := h.server hj
  begins _ hstep hj hne hw := ((joining_begins hstep).2 hj hne).2.2.2.trans hw
  back _ hstep hw := (waiting_back hstep).2 hw
  stays h hstep hj hw := (joining_stays h hstep).2 hj hw

/-- `cmdTlmServer_close` begins to wait for a thread whose flag is set. -/
theorem close_begins (hreturned : t.starting = .returned) :
    (t.closing = .notCalled → t.info.isReadyTlm = true →
      ∃ u, t.step (.thread .close) = some u ∧ u.closing = .joinTlm) ∧
    (t.closing = .clearServer → t.info.isReadyServer = true →
      ∃ u, t.step (.thread .close) = some u ∧ u.closing = .joinServer) := by
  refine ⟨fun hclosing hready => ?_, fun hclosing hready => ?_⟩
  · refine ⟨{ t with
      toServer := { t.toServer.emit .closeServer with
        info := { t.info with isReadyTlm := false }
        closing := .joinTlm } }, ?_, rfl⟩
    simp [step, allowed, hreturned, Threads.step, hclosing, Server.close, Server.emit, hready]
  · refine ⟨{ t with
      info := { t.info with isReadyServer := false }
      closing := .joinServer }, ?_, rfl⟩
    simp [step, allowed, hreturned, Threads.step, hclosing, Server.close, hready]

theorem clearsLate_iff (t : Startup) (b : StartupAction) :
    t.ClearsLate b ↔ tlmHandshake.Late t b ∧ serverHandshake.Late t b := by
  constructor
  · intro hlate
    refine ⟨?_, ?_⟩
    · intro u hstep hj hne hw
      obtain ⟨rfl, hcalled, hready, -⟩ := (joining_begins hstep).1 hj hne
      exact hlate.1 (close_returned hstep) hcalled hready hw
    · intro u hstep hj hne hw
      obtain ⟨rfl, hcalled, hready, -⟩ := (joining_begins hstep).2 hj hne
      exact hlate.2 (close_returned hstep) hcalled hready hw
  · rintro ⟨htlm, hserver⟩
    by_cases hb : b = .thread .close
    · subst hb
      refine ⟨fun hreturned hclosing hready => ?_, fun hreturned hclosing hready => ?_⟩
      · obtain ⟨u, hu, hj⟩ := (close_begins hreturned).1 hclosing hready
        exact htlm u hu hj (by simp [tlmHandshake, hclosing])
      · obtain ⟨u, hu, hj⟩ := (close_begins hreturned).2 hclosing hready
        exact hserver u hu hj (by simp [serverHandshake, hclosing])
    · unfold ClearsLate
      split
      · exact absurd rfl hb
      · trivial

theorem begun_init (fdsFd : Int) (info : ServerInfo) : (init fdsFd info).Begun := by
  refine ⟨fun hne => absurd rfl hne, fun hj => ?_, fun hj => ?_⟩
  · cases hj
  · cases hj

/-- Neither join of `cmdTlmServer_close` gets stuck exactly when the flags are cleared late. -/
theorem never_stuck_iff (fdsFd : Int) (info : ServerInfo) (as : List StartupAction) :
    Runs.Along step (fun t => ¬ t.TlmStuck ∧ ¬ t.ServerStuck) (.init fdsFd info) as ↔
      Runs.Guarded step ClearsLate (.init fdsFd info) as := by
  have hbegun := begun_init fdsFd info
  have hguard : Runs.Guarded step ClearsLate (.init fdsFd info) as ↔
      Runs.Guarded step (fun t b => tlmHandshake.Late t b ∧ serverHandshake.Late t b)
        (.init fdsFd info) as := by
    have heq : ClearsLate = fun t b => tlmHandshake.Late t b ∧ serverHandshake.Late t b := by
      funext t b
      exact propext (clearsLate_iff t b)
    rw [heq]
  rw [hguard, Runs.Guarded.and_iff, Runs.Along.and_iff,
    ← tlmHandshake.never_stuck_iff hbegun (by rintro ⟨hj, -⟩; cases hj),
    ← serverHandshake.never_stuck_iff hbegun (by rintro ⟨hj, -⟩; cases hj)]
  exact Iff.rfl

/-- No later step of any thread ends a stuck join. -/
theorem stuck_run {fdsFd : Int} {info : ServerInfo} {as bs : List StartupAction}
    (hr : Runs.run step (.init fdsFd info) as = some t) (hrest : Runs.run step t bs = some u) :
    (t.TlmStuck → u.TlmStuck) ∧ (t.ServerStuck → u.ServerStuck) := by
  have hbegun : t.Begun :=
    Runs.run_invariant (fun _ _ _ h ha => Begun.step h ha) hr (begun_init fdsFd info)
  refine ⟨fun hstuck => ?_, fun hstuck => ?_⟩
  · exact tlmHandshake.stuck_run hbegun hstuck hrest
  · exact serverHandshake.stuck_run hbegun hstuck hrest

end Startup

end HexrotPxiCom.CmdTlmServer
