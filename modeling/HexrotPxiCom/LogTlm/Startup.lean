import HexrotPxiCom.LogTlm.FileUsers
import HexrotPxiCom.Lib.Handshake

/-!
# Starting and stopping the flush thread

`logTlm_runFlushInNewThread` step by step, with the thread it creates and the later calls,
`logTlm_closeThread` among them. `isThreadReady` starts the thread and stops it.
-/

namespace HexrotPxiCom.LogTlm

set_option autoImplicit false

universe u
variable {ρ : Type u}

/-- Where the caller of `logTlm_runFlushInNewThread` is, when every call in it succeeds. -/
inductive StartState where
  | create
  | setPriority
  | setReady
  | returned
  deriving Repr, DecidableEq

def StartState.created : StartState → Bool
  | .create => false
  | _ => true

structure Startup (ρ : Type u) extends Users ρ where
  starting : StartState

inductive StartupAction (ρ : Type u) where
  | start
  | user (a : UserAction ρ)

namespace Users

variable {env : Env} {t u : Users ρ}

theorem runStep_frame (h : t.runStep env = some u) :
    u.app = t.app ∧ u.log.isThreadReady = t.log.isThreadReady ∧
      (u.run = .startWait → t.run = .startWait) ∧
      (t.run = .startWait → t.log.isThreadReady = false → u.run = .startWait) := by
  have hfile (io : Stdio) (p : Option Nat) (next : RunPc) (hnext : next ≠ .startWait)
      (hrun : t.run ≠ .startWait) : (t.runToFile io p next).app = t.app ∧
      (t.runToFile io p next).log.isThreadReady = t.log.isThreadReady ∧
      (t.runToFile io p next).run ≠ .startWait := by
    unfold runToFile
    split
    · exact ⟨rfl, rfl, hrun⟩
    · refine ⟨rfl, rfl, ?_⟩
      dsimp only
      split
      · exact hnext
      · exact hrun
  cases runStep_step h with
  | snapshot hrun =>
    refine ⟨rfl, rfl, fun hw => ?_, fun hw => ?_⟩
    · dsimp only at hw
      split at hw
      · cases hw
      · split at hw <;> cases hw
    · rw [hrun] at hw
      cases hw
  | flush1 b hrun =>
    obtain ⟨happ, hready, hout⟩ :=
      hfile env.stdio t.log.pBuffer1 (.clear1 b) (by simp) (by simp [hrun])
    exact ⟨happ, hready, fun hw => absurd hw hout, fun hw => absurd hw (by simp [hrun])⟩
  | flush2 hrun =>
    obtain ⟨happ, hready, hout⟩ :=
      hfile env.stdio t.log.pBuffer2 .clear2 (by simp) (by simp [hrun])
    exact ⟨happ, hready, fun hw => absurd hw hout, fun hw => absurd hw (by simp [hrun])⟩
  | loop v hstep =>
    cases hstep with
    | wait hrun => exact ⟨rfl, rfl, fun _ => hrun, fun _ _ => hrun⟩
    | enter hrun hready =>
      refine ⟨rfl, rfl, fun _ => hrun, fun _ hstop => ?_⟩
      rw [hready] at hstop
      cases hstop
    | flush1 b hrun =>
      exact ⟨rfl, rfl, fun hw => (by cases hw), fun hw => absurd hw (by simp [hrun])⟩
    | _ hrun => exact ⟨rfl, rfl, fun hw => (by cases hw), fun hw => absurd hw (by simp [hrun])⟩

theorem retFlush_frame (result : Int) (t : Users ρ) :
    (t.retFlush result).run = t.run ∧
      (t.retFlush result).log.isThreadReady = t.log.isThreadReady ∧
      ((t.retFlush result).app = .closeJoin ↔ t.app = .closeJoin) := by
  unfold retFlush
  split
  · rename_i r happ
    refine ⟨rfl, rfl, ?_⟩
    simp [Threads.ret, happ]
  · exact ⟨rfl, rfl, Iff.rfl⟩

theorem callStep_frame (hcall : t.call ≠ .none) (h : t.appStep env = some u) :
    u.run = t.run ∧ u.log.isThreadReady = t.log.isThreadReady ∧
      (u.app = .closeJoin ↔ t.app = .closeJoin) := by
  unfold appStep at h
  cases hc : t.call <;> simp only [hc] at h
  case none => exact absurd hc hcall
  case isFlushing pc =>
    split at h
    all_goals
      cases h
      exact ⟨rfl, rfl, Iff.rfl⟩
  case flush pc =>
    cases h
    cases pc with
    | testFile =>
      unfold flushStep
      dsimp only
      split
      · exact retFlush_frame (-1) t
      · exact ⟨rfl, rfl, Iff.rfl⟩
    | testReady =>
      unfold flushStep
      dsimp only
      split
      · exact ⟨rfl, rfl, Iff.rfl⟩
      · exact ⟨rfl, rfl, Iff.rfl⟩
    | isFlushing pc =>
      unfold flushStep
      dsimp only
      split
      · exact ⟨rfl, rfl, Iff.rfl⟩
      · exact retFlush_frame (-1) t
      · exact ⟨rfl, rfl, Iff.rfl⟩
    | toFile pc => exact ⟨rfl, rfl, Iff.rfl⟩
    | resetCount =>
      exact retFlush_frame 0 { t with log := { t.log with countBufferCurrent := 0 } }
  case openLog pc filename recordPerFile =>
    cases h
    cases pc with
    | testSize | close | fopen =>
      unfold openStep
      dsimp only
      split
      · exact ⟨rfl, rfl, Iff.rfl⟩
      · exact ⟨rfl, rfl, Iff.rfl⟩
    | isFlushing pc =>
      unfold openStep
      dsimp only
      split
      · exact ⟨rfl, rfl, Iff.rfl⟩
      · exact ⟨rfl, rfl, Iff.rfl⟩
      · exact ⟨rfl, rfl, Iff.rfl⟩
    | setCounts | setBuffer | clearFull => exact ⟨rfl, rfl, Iff.rfl⟩

/-- The application thread comes to the join by clearing the flag, and leaves it after the flush
thread. -/
theorem appStep_frame (h : t.appStep env = some u) :
    u.run = t.run ∧
      (u.app = .closeJoin → t.app ≠ .closeJoin →
        t.call = .none ∧ t.app = .closeClear ∧ u.log.isThreadReady = false) ∧
      (t.app = .closeJoin → u.log.isThreadReady = t.log.isThreadReady ∧
        (t.run ≠ .done → u.app = .closeJoin)) := by
  by_cases hcall : t.call = .none
  · unfold appStep at h
    rw [hcall] at h
    dsimp only at h
    split at h
    · rename_i r happ
      cases h
      refine ⟨rfl, fun hj => ?_, fun hj => ?_⟩
      · change t.app = _ at hj
        rw [happ] at hj
        cases hj
      · rw [happ] at hj
        cases hj
    · obtain ⟨v, hv, rfl⟩ := Option.map_eq_some_iff.mp h
      cases Threads.appStep_step hv with
      | closeClear happ =>
        exact ⟨rfl, fun _ _ => ⟨hcall, happ, rfl⟩, fun hj => absurd hj (by simp [happ])⟩
      | joined happ hdone =>
        exact ⟨rfl, fun _ hne => absurd happ hne, fun _ => ⟨rfl, fun hrun => absurd hdone hrun⟩⟩
      | toCloseClear happ | noThread happ =>
        exact ⟨rfl, fun hj => (by cases hj), fun hj => absurd hj (by simp [happ])⟩
      | _ r happ => exact ⟨rfl, fun hj => (by cases hj), fun hj => absurd hj (by simp [happ])⟩
  · obtain ⟨hrun, hready, happ⟩ := callStep_frame hcall h
    exact ⟨hrun, fun hj hne => absurd (happ.mp hj) hne, fun hj => ⟨hready, fun _ => happ.mpr hj⟩⟩

end Users

namespace Startup

/-- The log before the starting call. -/
def init (s : State ρ) : Startup ρ where
  toUsers := .start s
  starting := .create

/-- One step of `logTlm_runFlushInNewThread`. -/
def startStep (t : Startup ρ) : Option (Startup ρ) :=
  match t.starting with
  | .create => some { t with starting := .setPriority }
  | .setPriority => some { t with starting := .setReady }
  | .setReady => some { t with
      log := { t.log with isThreadReady := true }
      starting := .returned }
  | .returned => none

/-- The flush thread steps after it was created, and the application thread after its starting
call. -/
def allowed (t : Startup ρ) : UserAction ρ → Bool
  | .run _ => t.starting.created
  | _ => t.starting == .returned

def step (t : Startup ρ) : StartupAction ρ → Option (Startup ρ)
  | .start => t.startStep
  | .user a =>
    if t.allowed a then (t.toUsers.step a).map fun u => { t with toUsers := u } else none

/-- `logTlm_closeThread` clears the flag only when the thread has left the wait before its
loop. -/
def ClearsLate (t : Startup ρ) : StartupAction ρ → Prop
  | .user (.app _) =>
    t.starting = .returned → t.call = .none → t.app = .closeClear → t.run ≠ .startWait
  | _ => True

/-- The application thread waits in `pthread_join` for the flush thread, which waits for its
flag. -/
def Stuck (t : Startup ρ) : Prop :=
  t.app = .closeJoin ∧ t.run = .startWait ∧ t.log.isThreadReady = false

/-- While the application thread waits, the flag is clear and the starting call has returned. -/
structure Begun (t : Startup ρ) : Prop where
  returned : t.app = .closeJoin → t.starting = .returned
  ready : t.app = .closeJoin → t.log.isThreadReady = false

variable {t u : Startup ρ}

theorem start_cases (h : t.startStep = some u) :
    t.starting ≠ .returned ∧ u.app = t.app ∧ u.run = t.run := by
  unfold startStep at h
  cases hstarting : t.starting <;> simp only [hstarting] at h
  case returned => cases h
  all_goals
    cases h
    exact ⟨by simp, rfl, rfl⟩

theorem user_cases {a : UserAction ρ} (h : t.step (.user a) = some u) :
    t.allowed a = true ∧ t.toUsers.step a = some u.toUsers ∧ u.starting = t.starting := by
  simp only [step] at h
  split at h
  · rename_i hallowed
    obtain ⟨v, hv, rfl⟩ := Option.map_eq_some_iff.mp h
    exact ⟨hallowed, hv, rfl⟩
  · cases h

theorem call_begins {t u : Users ρ} {a : UserAction ρ} (happ : ∀ env, a ≠ .app env)
    (hrun : ∀ env, a ≠ .run env) (h : t.step a = some u) :
    t.app ≠ .closeJoin ∧ u.app ≠ .closeJoin ∧ u.run = t.run := by
  have hidle (ht : t.isIdle = true) : t.app ≠ .closeJoin := by
    intro hj
    simp [Users.isIdle, hj, AppPc.isIdle] at ht
  cases a with
  | app env => exact absurd rfl (happ env)
  | run env => exact absurd rfl (hrun env)
  | write | closeThread =>
    simp only [Users.step] at h
    split at h
    · rename_i ht
      cases h
      exact ⟨hidle ht, by simp, rfl⟩
    · cases h
  | flush | openLog | isFlushing =>
    simp only [Users.step] at h
    split at h
    · rename_i ht
      cases h
      exact ⟨hidle ht, hidle ht, rfl⟩
    · cases h

section
variable {b : StartupAction ρ}

/-- What a step does with the places of the two threads. -/
theorem step_cases (h : t.step b = some u) :
    (b = .start ∧ t.starting ≠ .returned ∧ u.app = t.app ∧ u.run = t.run) ∨
    (u.starting = t.starting ∧ t.app ≠ .closeJoin ∧ u.app ≠ .closeJoin ∧ u.run = t.run) ∨
    (∃ env, b = .user (.app env) ∧ t.starting = .returned ∧ u.starting = t.starting ∧
      t.toUsers.appStep env = some u.toUsers) ∨
    (∃ env, b = .user (.run env) ∧ u.starting = t.starting ∧
      t.toUsers.runStep env = some u.toUsers) := by
  cases b with
  | start => exact Or.inl ⟨rfl, start_cases h⟩
  | user a =>
    obtain ⟨hallowed, huser, hstarting⟩ := user_cases h
    cases a with
    | app env =>
      exact Or.inr (Or.inr (Or.inl ⟨env, rfl, beq_iff_eq.mp hallowed, hstarting, huser⟩))
    | run env => exact Or.inr (Or.inr (Or.inr ⟨env, rfl, hstarting, huser⟩))
    | write | closeThread | flush | openLog | isFlushing =>
      exact Or.inr (Or.inl ⟨hstarting, call_begins (by simp) (by simp) huser⟩)

theorem Begun.step (h : t.Begun) (hstep : t.step b = some u) : u.Begun := by
  rcases step_cases hstep with ⟨-, hnot, happ, -⟩ | ⟨-, -, hout, -⟩ |
    ⟨env, -, hreturned, hstarting, happ⟩ | ⟨env, -, hstarting, hrun⟩
  · have hout : t.app ≠ .closeJoin := fun hj => hnot (h.returned hj)
    rw [← happ] at hout
    exact ⟨fun hj => absurd hj hout, fun hj => absurd hj hout⟩
  · exact ⟨fun hj => absurd hj hout, fun hj => absurd hj hout⟩
  · obtain ⟨-, hcome, hgo⟩ := Users.appStep_frame happ
    refine ⟨fun _ => hstarting.trans hreturned, fun hj => ?_⟩
    by_cases hjt : t.app = .closeJoin
    · exact (hgo hjt).1.trans (h.ready hjt)
    · exact (hcome hj hjt).2.2
  · obtain ⟨happ, hready, -⟩ := Users.runStep_frame hrun
    refine ⟨fun hj => ?_, fun hj => ?_⟩
    · exact hstarting.trans (h.returned (happ ▸ hj))
    · exact hready.trans (h.ready (happ ▸ hj))

theorem joining_begins (h : t.step b = some u) (hj : u.app = .closeJoin)
    (hne : t.app ≠ .closeJoin) : (∃ env, b = .user (.app env)) ∧ t.starting = .returned ∧
      t.call = .none ∧ t.app = .closeClear ∧ u.run = t.run := by
  rcases step_cases h with ⟨-, -, happ, -⟩ | ⟨-, -, hout, -⟩ |
    ⟨env, hb, hreturned, -, happ⟩ | ⟨env, -, -, hrun⟩
  · exact absurd (happ ▸ hj) hne
  · exact absurd hj hout
  · obtain ⟨hrun, hcome, -⟩ := Users.appStep_frame happ
    obtain ⟨hcall, hclear, -⟩ := hcome hj hne
    exact ⟨⟨env, hb⟩, hreturned, hcall, hclear, hrun⟩
  · exact absurd ((Users.runStep_frame hrun).1 ▸ hj) hne

theorem waiting_back (h : t.step b = some u) (hw : u.run = .startWait) : t.run = .startWait := by
  rcases step_cases h with ⟨-, -, -, hrun⟩ | ⟨-, -, -, hrun⟩ | ⟨env, -, -, -, happ⟩ |
    ⟨env, -, -, hrun⟩
  · exact hrun ▸ hw
  · exact hrun ▸ hw
  · exact (Users.appStep_frame happ).1 ▸ hw
  · exact (Users.runStep_frame hrun).2.2.1 hw

theorem joining_stays (hbegun : t.Begun) (h : t.step b = some u) (hj : t.app = .closeJoin)
    (hw : t.run = .startWait) : u.app = .closeJoin ∧ u.run = .startWait := by
  rcases step_cases h with ⟨-, hnot, -⟩ | ⟨-, hout, -⟩ | ⟨env, -, -, -, happ⟩ | ⟨env, -, -, hrun⟩
  · exact absurd (hbegun.returned hj) hnot
  · exact absurd hj hout
  · obtain ⟨hrun, -, hgo⟩ := Users.appStep_frame happ
    exact ⟨(hgo hj).2 (by rw [hw]; decide), hrun.trans hw⟩
  · obtain ⟨happ, -, -, hstay⟩ := Users.runStep_frame hrun
    exact ⟨happ.trans hj, hstay hw (hbegun.ready hj)⟩

end

def handshake (ρ : Type u) : Handshake (Startup.step (ρ := ρ)) where
  Reachable := Begun
  ready t := t.log.isThreadReady
  Waiting t := t.run = .startWait
  Joining t := t.app = .closeJoin
  reachable h hstep := h.step hstep
  cleared h hj := h.ready hj
  begins _ hstep hj hne hw := (joining_begins hstep hj hne).2.2.2.2.trans hw
  back _ hstep hw := waiting_back hstep hw
  stays h hstep hj hw := joining_stays h hstep hj hw

theorem clearsLate_iff (t : Startup ρ) (b : StartupAction ρ) :
    t.ClearsLate b ↔ (handshake ρ).Late t b := by
  constructor
  · intro hlate u hstep hj hne hw
    obtain ⟨⟨env, rfl⟩, hreturned, hcall, hclear, -⟩ := joining_begins hstep hj hne
    exact hlate hreturned hcall hclear hw
  · intro hlate
    unfold ClearsLate
    split
    · rename_i env
      intro hreturned hcall hclear
      have hstep : t.step (.user (.app env)) = some { t with
          log := { t.log with isThreadReady := false }
          app := .closeJoin } := by
        simp [step, allowed, hreturned, Users.step, Users.appStep, hcall, hclear, Threads.appStep]
      exact hlate _ hstep rfl (by simp [handshake, hclear])
    · trivial

theorem begun_init (s : State ρ) : (init s).Begun :=
  ⟨fun hj => (by cases hj), fun hj => (by cases hj)⟩

/-- The join of `logTlm_closeThread` never gets stuck exactly when the flag is cleared late. -/
theorem never_stuck_iff (s : State ρ) (as : List (StartupAction ρ)) :
    Runs.Along step (fun t => ¬ t.Stuck) (.init s) as ↔
      Runs.Guarded step ClearsLate (.init s) as := by
  have heq : ClearsLate = (handshake ρ).Late := by
    funext t b
    exact propext (clearsLate_iff t b)
  rw [heq]
  exact (handshake ρ).never_stuck_iff (begun_init s) (by rintro ⟨hj, -⟩; cases hj)

/-- No later step of the two threads ends a stuck join. -/
theorem stuck_run {s : State ρ} {as bs : List (StartupAction ρ)}
    (hr : Runs.run step (.init s) as = some t) (hrest : Runs.run step t bs = some u)
    (hstuck : t.Stuck) : u.Stuck := by
  have hbegun : t.Begun :=
    Runs.run_invariant (fun _ _ _ h ha => Begun.step h ha) hr (begun_init s)
  exact (handshake ρ).stuck_run hbegun hstuck hrest

end Startup

end HexrotPxiCom.LogTlm
