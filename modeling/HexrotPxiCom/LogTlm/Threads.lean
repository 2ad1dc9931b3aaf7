import HexrotPxiCom.Lib.Runs
import HexrotPxiCom.LogTlm.Setup

/-!
# The application thread and the flush thread of the telemetry log

`logTlm_write`, `logTlm_closeThread` and `logTlm_run` as two threads on the globals. Every
lock section, every `logTlm_flushToFile` and every unlocked test or assignment is one
step. A `pthread_mutex_trylock` of the flush thread fails only while the application
thread is at a lock section.
-/

namespace HexrotPxiCom.LogTlm

set_option autoImplicit false

universe u
variable {ρ : Type u}

/-- Where the application thread is: between calls, in `logTlm_write` or in
`logTlm_closeThread`. -/
inductive AppPc (ρ : Type u) where
  | idle
  | testBuffer (pData : ρ)
  | testFile (pData : ρ)
  | testSpace (pData : ρ)
  | copy (pData : ρ)
  | addCount (pData : ρ)
  | testFull (pData : ρ)
  | testThread (pData : ρ)
  | flush (pData : ρ)
  | testWhich (pData : ρ)
  | lock1 (pData : ρ)
  | lock2 (pData : ρ)
  | swapTo2 (pData : ρ)
  | swapTo1 (pData : ρ)
  | resetCount (pData : ρ)
  | setNull (pData : ρ)
  | closeTest
  | closeClear
  | closeJoin

/-- Where the flush thread is in `logTlm_run`; `doFlushBuffer2` is the local of that name. -/
inductive RunPc where
  | startWait
  | loopTest
  | snapshot
  | flush1 (doFlushBuffer2 : Bool)
  | clear1 (doFlushBuffer2 : Bool)
  | flush2
  | clear2
  | testCurrent
  | setCurrent
  | resetCount
  | sleep
  | done
  deriving Repr, DecidableEq

/-- The two threads; `accepted` are the records whose `logTlm_write` returned 0 or -1. -/
structure Threads (ρ : Type u) where
  log : State ρ
  app : AppPc ρ
  run : RunPc
  accepted : List ρ

inductive Action (ρ : Type u) where
  | write (pData : ρ)
  | closeThread
  | app (env : Env)
  | run (env : Env)

/-- The test of `pBufferCurrent` by `logTlm_write` is still to come. -/
def AppPc.beforeTest : AppPc ρ → Bool
  | .idle | .testBuffer _ | .closeTest | .closeClear | .closeJoin => true
  | _ => false

/-- Between two calls. -/
def AppPc.isIdle : AppPc ρ → Bool
  | .idle => true
  | _ => false

def AppPc.inLockSection : AppPc ρ → Bool
  | .lock1 _ | .lock2 _ => true
  | _ => false

namespace Threads

/-- The state in which `logTlm_runFlushInNewThread` has returned. -/
def start (s : State ρ) : Threads ρ := ⟨s, .idle, .startWait, []⟩

/-- `logTlm_write` returns. -/
def ret (code : Int) (pData : ρ) (t : Threads ρ) : Threads ρ :=
  { t with
    app := .idle
    accepted := if code = -2 then t.accepted else t.accepted ++ [pData] }

def appStep (env : Env) (t : Threads ρ) : Option (Threads ρ) :=
  match t.app with
  | .idle => none
  | .testBuffer r =>
    if t.log.pBufferCurrent = none then some (t.ret (-2) r) else some { t with app := .testFile r }
  | .testFile r =>
    if t.log.file.pFile = none then some (t.ret (-2) r) else some { t with app := .testSpace r }
  | .testSpace r =>
    if t.log.countBufferCurrent < t.log.countBufferMax then some { t with app := .copy r }
    else some { t with app := .testFull r }
  | .copy r => some { t with log := t.log.copyRecord r, app := .addCount r }
  | .addCount r => some { t with
      log := { t.log with countBufferCurrent := t.log.countBufferCurrent + 1 }
      app := .testFull r }
  | .testFull r =>
    if t.log.countBufferCurrent < t.log.countBufferMax then some (t.ret 0 r)
    else some { t with app := .testThread r }
  | .testThread r =>
    if t.log.isThreadReady then some { t with app := .testWhich r }
    else some { t with app := .flush r }
  | .flush r => some (ret 0 r { t with log := (t.log.flush env).2 })
  | .testWhich r =>
    if t.log.pBufferCurrent = t.log.pBuffer1 then some { t with app := .lock1 r }
    else some { t with app := .lock2 r }
  | .lock1 r =>
    if t.log.isFullBuffer2 then
      some { t with log := { t.log with isFullBuffer1 := true }, app := .setNull r }
    else some { t with log := { t.log with isFullBuffer1 := true }, app := .swapTo2 r }
  | .lock2 r =>
    if t.log.isFullBuffer1 then
      some { t with log := { t.log with isFullBuffer2 := true }, app := .setNull r }
    else some { t with log := { t.log with isFullBuffer2 := true }, app := .swapTo1 r }
  | .swapTo2 r => some { t with
      log := { t.log with pBufferCurrent := t.log.pBuffer2 }
      app := .resetCount r }
  | .swapTo1 r => some { t with
      log := { t.log with pBufferCurrent := t.log.pBuffer1 }
      app := .resetCount r }
  | .resetCount r => some (ret 0 r { t with log := { t.log with countBufferCurrent := 0 } })
  | .setNull r => some (ret (-1) r { t with log := { t.log with pBufferCurrent := none } })
  | .closeTest =>
    if t.log.isThreadReady then some { t with app := .closeClear } else some { t with app := .idle }
  | .closeClear => some { t with
      log := { t.log with isThreadReady := false }
      app := .closeJoin }
  | .closeJoin => if t.run = .done then some { t with app := .idle } else none

def runStep (env : Env) (t : Threads ρ) : Option (Threads ρ) :=
  match t.run with
  | .startWait => if t.log.isThreadReady then some { t with run := .loopTest } else some t
  | .loopTest =>
    if t.log.isThreadReady then some { t with run := .snapshot } else some { t with run := .done }
  | .snapshot =>
    if !env.tryLock && !t.app.inLockSection then none
    else
      let doFlushBuffer1 := env.tryLock && t.log.isFullBuffer1
      let doFlushBuffer2 := env.tryLock && t.log.isFullBuffer2
      if doFlushBuffer1 then some { t with run := .flush1 doFlushBuffer2 }
      else if doFlushBuffer2 then some { t with run := .flush2 }
      else some { t with run := .sleep }
  | .flush1 b => some { t with
      log := t.log.flushToFile env.stdio t.log.pBuffer1 t.log.countBufferMax
      run := .clear1 b }
  | .clear1 b =>
    if b then some { t with log := { t.log with isFullBuffer1 := false }, run := .flush2 }
    else some { t with log := { t.log with isFullBuffer1 := false }, run := .testCurrent }
  | .flush2 => some { t with
      log := t.log.flushToFile env.stdio t.log.pBuffer2 t.log.countBufferMax
      run := .clear2 }
  | .clear2 => some { t with log := { t.log with isFullBuffer2 := false }, run := .testCurrent }
  | .testCurrent =>
    if t.log.pBufferCurrent = none then some { t with run := .setCurrent }
    else some { t with run := .loopTest }
  | .setCurrent => some { t with
      log := { t.log with pBufferCurrent := t.log.pBuffer1 }
      run := .resetCount }
  | .resetCount => some { t with
      log := { t.log with countBufferCurrent := 0 }
      run := .loopTest }
  | .sleep => some { t with run := .loopTest }
  | .done => none

def step (t : Threads ρ) : Action ρ → Option (Threads ρ)
  | .write r => if t.app.isIdle then some { t with app := .testBuffer r } else none
  | .closeThread => if t.app.isIdle then some { t with app := .closeTest } else none
  | .app env => t.appStep env
  | .run env => t.runStep env

/-- What a step of the flush thread does. -/
inductive RunStep (env : Env) (t : Threads ρ) : Threads ρ → Prop where
  | wait (hrun : t.run = .startWait) (hready : t.log.isThreadReady = false) : RunStep env t t
  | enter (hrun : t.run = .startWait) (hready : t.log.isThreadReady = true) :
      RunStep env t { t with run := .loopTest }
  | toSnapshot (hrun : t.run = .loopTest) (hready : t.log.isThreadReady = true) :
      RunStep env t { t with run := .snapshot }
  | leave (hrun : t.run = .loopTest) (hready : t.log.isThreadReady = false) :
      RunStep env t { t with run := .done }
  | toFlush1 (hrun : t.run = .snapshot) (hlock : env.tryLock = true)
      (hfull1 : t.log.isFullBuffer1 = true) :
      RunStep env t { t with run := .flush1 t.log.isFullBuffer2 }
  | toFlush2 (hrun : t.run = .snapshot) (hlock : env.tryLock = true)
      (hfull1 : t.log.isFullBuffer1 = false) (hfull2 : t.log.isFullBuffer2 = true) :
      RunStep env t { t with run := .flush2 }
  | toSleep (hrun : t.run = .snapshot)
      (hnone : (env.tryLock = false ∧ t.app.inLockSection = true) ∨
        (env.tryLock = true ∧ t.log.isFullBuffer1 = false ∧ t.log.isFullBuffer2 = false)) :
      RunStep env t { t with run := .sleep }
  | flush1 (b : Bool) (hrun : t.run = .flush1 b) :
      RunStep env t { t with
        log := t.log.flushToFile env.stdio t.log.pBuffer1 t.log.countBufferMax
        run := .clear1 b }
  | clear1ToFlush2 (hrun : t.run = .clear1 true) :
      RunStep env t { t with
        log := { t.log with isFullBuffer1 := false }
        run := .flush2 }
  | clear1 (hrun : t.run = .clear1 false) :
      RunStep env t { t with
        log := { t.log with isFullBuffer1 := false }
        run := .testCurrent }
  | flush2 (hrun : t.run = .flush2) :
      RunStep env t { t with
        log := t.log.flushToFile env.stdio t.log.pBuffer2 t.log.countBufferMax
        run := .clear2 }
  | clear2 (hrun : t.run = .clear2) :
      RunStep env t { t with
        log := { t.log with isFullBuffer2 := false }
        run := .testCurrent }
  | toSetCurrent (hrun : t.run = .testCurrent) (hnone : t.log.pBufferCurrent = none) :
      RunStep env t { t with run := .setCurrent }
  | inUse (hrun : t.run = .testCurrent) (hsome : t.log.pBufferCurrent ≠ none) :
      RunStep env t { t with run := .loopTest }
  | setCurrent (hrun : t.run = .setCurrent) :
      RunStep env t { t with
        log := { t.log with pBufferCurrent := t.log.pBuffer1 }
        run := .resetCount }
  | resetCount (hrun : t.run = .resetCount) :
      RunStep env t { t with
        log := { t.log with countBufferCurrent := 0 }
        run := .loopTest }
  | sleep (hrun : t.run = .sleep) : RunStep env t { t with run := .loopTest }

theorem runStep_step {env : Env} {t u : Threads ρ} (hstep : t.runStep env = some u) :
    RunStep env t u := by
  unfold runStep at hstep
  cases hrun : t.run <;> simp only [hrun] at hstep
  case startWait =>
    cases hready : t.log.isThreadReady with
    | true =>
      rw [hready] at hstep
      cases hstep
      exact .enter hrun hready
    | false =>
      rw [hready] at hstep
      cases hstep
      exact .wait hrun hready
  case loopTest =>
    cases hready : t.log.isThreadReady with
    | true =>
      rw [hready] at hstep
      cases hstep
      exact .toSnapshot hrun hready
    | false =>
      rw [hready] at hstep
      cases hstep
      exact .leave hrun hready
  case snapshot =>
    cases hlock : env.tryLock with
    | false =>
      cases hsection : t.app.inLockSection with
      | false => simp [hlock, hsection] at hstep
      | true =>
        simp only [hlock, hsection, Bool.not_false, Bool.not_true, Bool.and_false, Bool.false_and,
          Bool.false_eq_true, if_false] at hstep
        cases hstep
        exact .toSleep hrun (Or.inl ⟨hlock, hsection⟩)
    | true =>
      simp only [hlock, Bool.not_true, Bool.false_and, Bool.true_and, Bool.false_eq_true,
        if_false] at hstep
      cases hfull1 : t.log.isFullBuffer1 with
      | true =>
        rw [hfull1] at hstep
        cases hstep
        exact .toFlush1 hrun hlock hfull1
      | false =>
        rw [hfull1] at hstep
        cases hfull2 : t.log.isFullBuffer2 with
        | true =>
          rw [hfull2] at hstep
          cases hstep
          exact .toFlush2 hrun hlock hfull1 hfull2
        | false =>
          rw [hfull2] at hstep
          cases hstep
          exact .toSleep hrun (Or.inr ⟨hlock, hfull1, hfull2⟩)
  case flush1 b =>
    cases hstep
    exact .flush1 b hrun
  case clear1 b =>
    cases b with
    | true =>
      cases hstep
      exact .clear1ToFlush2 hrun
    | false =>
      cases hstep
      exact .clear1 hrun
  case testCurrent =>
    by_cases hnone : t.log.pBufferCurrent = none
    · rw [if_pos hnone] at hstep
      cases hstep
      exact .toSetCurrent hrun hnone
    · rw [if_neg hnone] at hstep
      cases hstep
      exact .inUse hrun hnone
  case flush2 =>
    cases hstep
    exact .flush2 hrun
  case clear2 =>
    cases hstep
    exact .clear2 hrun
  case setCurrent =>
    cases hstep
    exact .setCurrent hrun
  case resetCount =>
    cases hstep
    exact .resetCount hrun
  case sleep =>
    cases hstep
    exact .sleep hrun
  case done => cases hstep

/-- What a step of the application thread does. -/
inductive AppStep (env : Env) (t : Threads ρ) : Threads ρ → Prop where
  | noBuffer (r : ρ) (happ : t.app = .testBuffer r) (hnone : t.log.pBufferCurrent = none) :
      AppStep env t (t.ret (-2) r)
  | toTestFile (r : ρ) (happ : t.app = .testBuffer r) (hsome : t.log.pBufferCurrent ≠ none) :
      AppStep env t { t with app := .testFile r }
  | noFile (r : ρ) (happ : t.app = .testFile r) (hnone : t.log.file.pFile = none) :
      AppStep env t (t.ret (-2) r)
  | toTestSpace (r : ρ) (happ : t.app = .testFile r) (hsome : t.log.file.pFile ≠ none) :
      AppStep env t { t with app := .testSpace r }
  | toCopy (r : ρ) (happ : t.app = .testSpace r)
      (hlt : t.log.countBufferCurrent < t.log.countBufferMax) :
      AppStep env t { t with app := .copy r }
  | noSpace (r : ρ) (happ : t.app = .testSpace r)
      (hge : ¬ t.log.countBufferCurrent < t.log.countBufferMax) :
      AppStep env t { t with app := .testFull r }
  | copy (r : ρ) (happ : t.app = .copy r) :
      AppStep env t { t with log := t.log.copyRecord r, app := .addCount r }
  | addCount (r : ρ) (happ : t.app = .addCount r) :
      AppStep env t { t with
        log := { t.log with countBufferCurrent := t.log.countBufferCurrent + 1 }
        app := .testFull r }
  | notFull (r : ρ) (happ : t.app = .testFull r)
      (hlt : t.log.countBufferCurrent < t.log.countBufferMax) : AppStep env t (t.ret 0 r)
  | toTestThread (r : ρ) (happ : t.app = .testFull r)
      (hge : ¬ t.log.countBufferCurrent < t.log.countBufferMax) :
      AppStep env t { t with app := .testThread r }
  | toTestWhich (r : ρ) (happ : t.app = .testThread r) (hready : t.log.isThreadReady = true) :
      AppStep env t { t with app := .testWhich r }
  | toFlush (r : ρ) (happ : t.app = .testThread r) (hready : t.log.isThreadReady = false) :
      AppStep env t { t with app := .flush r }
  | flush (r : ρ) (happ : t.app = .flush r) :
      AppStep env t (ret 0 r { t with log := (t.log.flush env).2 })
  | toLock1 (r : ρ) (happ : t.app = .testWhich r) (hone : t.log.pBufferCurrent = t.log.pBuffer1) :
      AppStep env t { t with app := .lock1 r }
  | toLock2 (r : ρ) (happ : t.app = .testWhich r)
      (hother : t.log.pBufferCurrent ≠ t.log.pBuffer1) :
      AppStep env t { t with app := .lock2 r }
  | lock1ToSetNull (r : ρ) (happ : t.app = .lock1 r) (hfull2 : t.log.isFullBuffer2 = true) :
      AppStep env t { t with
        log := { t.log with isFullBuffer1 := true }
        app := .setNull r }
  | lock1 (r : ρ) (happ : t.app = .lock1 r) (hfull2 : t.log.isFullBuffer2 = false) :
      AppStep env t { t with
        log := { t.log with isFullBuffer1 := true }
        app := .swapTo2 r }
  | lock2ToSetNull (r : ρ) (happ : t.app = .lock2 r) (hfull1 : t.log.isFullBuffer1 = true) :
      AppStep env t { t with
        log := { t.log with isFullBuffer2 := true }
        app := .setNull r }
  | lock2 (r : ρ) (happ : t.app = .lock2 r) (hfull1 : t.log.isFullBuffer1 = false) :
      AppStep env t { t with
        log := { t.log with isFullBuffer2 := true }
        app := .swapTo1 r }
  | swapTo2 (r : ρ) (happ : t.app = .swapTo2 r) :
      AppStep env t { t with
        log := { t.log with pBufferCurrent := t.log.pBuffer2 }
        app := .resetCount r }
  | swapTo1 (r : ρ) (happ : t.app = .swapTo1 r) :
      AppStep env t { t with
        log := { t.log with pBufferCurrent := t.log.pBuffer1 }
        app := .resetCount r }
  | resetCount (r : ρ) (happ : t.app = .resetCount r) :
      AppStep env t (ret 0 r { t with log := { t.log with countBufferCurrent := 0 } })
  | setNull (r : ρ) (happ : t.app = .setNull r) :
      AppStep env t (ret (-1) r { t with log := { t.log with pBufferCurrent := none } })
  | toCloseClear (happ : t.app = .closeTest) (hready : t.log.isThreadReady = true) :
      AppStep env t { t with app := .closeClear }
  | noThread (happ : t.app = .closeTest) (hready : t.log.isThreadReady = false) :
      AppStep env t { t with app := .idle }
  | closeClear (happ : t.app = .closeClear) :
      AppStep env t { t with
        log := { t.log with isThreadReady := false }
        app := .closeJoin }
  | joined (happ : t.app = .closeJoin) (hdone : t.run = .done) :
      AppStep env t { t with app := .idle }

theorem appStep_step {env : Env} {t u : Threads ρ} (hstep : t.appStep env = some u) :
    AppStep env t u := by
  unfold appStep at hstep
  cases happ : t.app <;> simp only [happ] at hstep
  case idle => cases hstep
  case testBuffer r =>
    by_cases hnone : t.log.pBufferCurrent = none
    · rw [if_pos hnone] at hstep
      cases hstep
      exact .noBuffer r happ hnone
    · rw [if_neg hnone] at hstep
      cases hstep
      exact .toTestFile r happ hnone
  case testFile r =>
    by_cases hnone : t.log.file.pFile = none
    · rw [if_pos hnone] at hstep
      cases hstep
      exact .noFile r happ hnone
    · rw [if_neg hnone] at hstep
      cases hstep
      exact .toTestSpace r happ hnone
  case testSpace r =>
    by_cases hlt : t.log.countBufferCurrent < t.log.countBufferMax
    · rw [if_pos hlt] at hstep
      cases hstep
      exact .toCopy r happ hlt
    · rw [if_neg hlt] at hstep
      cases hstep
      exact .noSpace r happ hlt
  case copy r =>
    cases hstep
    exact .copy r happ
  case addCount r =>
    cases hstep
    exact .addCount r happ
  case testFull r =>
    by_cases hlt : t.log.countBufferCurrent < t.log.countBufferMax
    · rw [if_pos hlt] at hstep
      cases hstep
      exact .notFull r happ hlt
    · rw [if_neg hlt] at hstep
      cases hstep
      exact .toTestThread r happ hlt
  case testThread r =>
    cases hready : t.log.isThreadReady with
    | true =>
      rw [hready] at hstep
      cases hstep
      exact .toTestWhich r happ hready
    | false =>
      rw [hready] at hstep
      cases hstep
      exact .toFlush r happ hready
  case flush r =>
    rw [← happ] at hstep
    cases hstep
    exact .flush r happ
  case testWhich r =>
    by_cases hone : t.log.pBufferCurrent = t.log.pBuffer1
    · rw [if_pos hone] at hstep
      cases hstep
      exact .toLock1 r happ hone
    · rw [if_neg hone] at hstep
      cases hstep
      exact .toLock2 r happ hone
  case lock1 r =>
    by_cases hfull2 : t.log.isFullBuffer2 = true
    · rw [if_pos hfull2] at hstep
      cases hstep
      exact .lock1ToSetNull r happ hfull2
    · rw [if_neg hfull2] at hstep
      cases hstep
      exact .lock1 r happ (Bool.eq_false_iff.mpr hfull2)
  case lock2 r =>
    by_cases hfull1 : t.log.isFullBuffer1 = true
    · rw [if_pos hfull1] at hstep
      cases hstep
      exact .lock2ToSetNull r happ hfull1
    · rw [if_neg hfull1] at hstep
      cases hstep
      exact .lock2 r happ (Bool.eq_false_iff.mpr hfull1)
  case swapTo2 r =>
    cases hstep
    exact .swapTo2 r happ
  case swapTo1 r =>
    cases hstep
    exact .swapTo1 r happ
  case resetCount r =>
    rw [← happ] at hstep
    cases hstep
    exact .resetCount r happ
  case setNull r =>
    rw [← happ] at hstep
    cases hstep
    exact .setNull r happ
  case closeTest =>
    cases hready : t.log.isThreadReady with
    | true =>
      rw [hready] at hstep
      cases hstep
      exact .toCloseClear happ hready
    | false =>
      rw [hready] at hstep
      cases hstep
      exact .noThread happ hready
  case closeClear =>
    cases hstep
    exact .closeClear happ
  case closeJoin =>
    by_cases hdone : t.run = .done
    · rw [if_pos hdone] at hstep
      cases hstep
      exact .joined happ hdone
    · rw [if_neg hdone] at hstep
      cases hstep

end Threads

/-- The globals of a new log with its flush thread, for the runs on fixed inputs. -/
def started (sizeBuffer recordPerFile : Int) : State Nat :=
  let s := (State.createBuffer {} sizeBuffer 8 State.initial).2
  ((s.openLog {} "log" recordPerFile).2.runFlushInNewThread true true 500).2

theorem started_setup {n recordPerFile : Int} (hn : 0 < n) (hle : n ≤ recordPerFile)
    (hfit : n * 8 < sizeTRange) : ∃ s t : State Nat,
    State.initial.createBuffer {} n 8 = (0, s) ∧ s.pBuffer1 ≠ none ∧
      s.openLog {} "log" recordPerFile = (0, t) ∧
      t.runFlushInNewThread true true 500 = (0, started n recordPerFile) := by
  have hcreate : (State.initial : State Nat).createBuffer {} n 8 =
      (0, State.initial.createdBoth n 8) := by
    have hcalloc : State.callocs true n 8 := ⟨rfl, hfit⟩
    rw [State.createBuffer_both hn (by decide) hcalloc hcalloc]
    rfl
  have hopen : (State.createdBoth n 8 State.initial : State Nat).openLog {} "log" recordPerFile =
      (0, ((State.createdBoth n 8 State.initial : State Nat).openLog {} "log"
        recordPerFile).2) := by
    have hcount : ¬ (recordPerFile ≤ 0 ∨ recordPerFile < n) := by omega
    simp [State.openLog, State.createdBoth, State.addBlock, State.initial, State.isFlushing,
      State.close, LogFile.close, hcount]
  refine ⟨_, _, hcreate, Option.some_ne_none _, hopen, ?_⟩
  rw [started, hcreate]
  rfl

/-- The state after a run from `started`. -/
def reached (sizeBuffer recordPerFile : Int) (as : List (Action Nat)) : Threads Nat :=
  (Runs.run Threads.step (Threads.start (started sizeBuffer recordPerFile)) as).getD
    (Threads.start State.initial)

def appSteps (k : Nat) : List (Action Nat) := List.replicate k (.app {})

def runSteps (k : Nat) : List (Action Nat) := List.replicate k (.run {})

end HexrotPxiCom.LogTlm
