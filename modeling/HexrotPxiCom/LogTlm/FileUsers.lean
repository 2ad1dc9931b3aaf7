import HexrotPxiCom.LogTlm.Threads

/-!
# The users of the log file

The application thread may call `logTlm_flush`, `logTlm_open` and `logTlm_isFlushing` too, and
every call of stdio is one step. The lock does not guard the file: the two flags do.
-/

namespace HexrotPxiCom.LogTlm

set_option autoImplicit false

universe u
variable {ρ : Type u}

/-- The locals of `logTlm_flushToFile` about the space in the current file. -/
structure ToFileLocals where
  spaceAvailable : Int
  isSpaceEnough : Bool
  numToFile : Int
  deriving Repr, DecidableEq

/-- Where a thread is in `logTlm_flushToFile`. -/
inductive ToFilePc where
  | testFile
  | write (l : ToFileLocals)
  | close (l : ToFileLocals)
  | rename (l : ToFileLocals)
  | fopen (l : ToFileLocals)
  | writeLeft (l : ToFileLocals)
  | closeError
  | setCount (isRotated : Bool) (l : ToFileLocals)
  deriving Repr, DecidableEq

namespace LogFile

/-- One step of `logTlm_flushToFile`; without a place it has returned. -/
def toFileStep (io : Stdio) (sizeElementInBuffer : Nat) (pBuffer : List ρ) (countBuffer : Int)
    (f : LogFile ρ) : ToFilePc → Option ToFilePc × LogFile ρ
  | .testFile =>
    if f.pFile = none then (none, f)
    else
      let spaceAvailable := f.countFileMax - f.countFile
      let isSpaceEnough := decide (countBuffer ≤ spaceAvailable)
      let numToFile := if isSpaceEnough then countBuffer else spaceAvailable
      (some (.write ⟨spaceAvailable, isSpaceEnough, numToFile⟩), f)
  | .write l =>
    let w := f.writeToFile io.fwrite io.fcloseError (sizeT (l.numToFile * sizeElementInBuffer))
      (pBuffer.take l.numToFile.toNat)
    if w.1 = 0 then
      (some (if l.spaceAvailable = l.numToFile then .close l else .setCount false l), w.2)
    else (some .closeError, w.2)
  | .close l =>
    let c := f.close io.fclose
    (some (if c.1 ≠ 0 then .closeError else .rename l), c.2)
  | .rename l =>
    if !io.rename then (some .closeError, f)
    else (some (.fopen l), { f with
      disk := f.renameCurrent
      countRotatingFile := intSucc f.countRotatingFile })
  | .fopen l =>
    if !io.fopen then (some .closeError, f)
    else (some (if !l.isSpaceEnough then .writeLeft l else .setCount true l), f.fopen)
  | .writeLeft l =>
    let w := f.writeToFile io.fwriteLeft io.fcloseError
      (sizeT ((countBuffer - l.numToFile) * sizeElementInBuffer))
      ((pBuffer.drop l.numToFile.toNat).take (countBuffer - l.numToFile).toNat)
    (some (if w.1 = 0 then .setCount true l else .closeError), w.2)
  | .closeError => (none, (f.close io.fcloseError).2)
  | .setCount isRotated l => (none, { f with
      countFile := if isRotated then countBuffer - l.numToFile else f.countFile + l.numToFile })

/-- The steps left alone. -/
def toFileNext (io : Stdio) (size : Nat) (pBuffer : List ρ) (countBuffer : Int) :
    Option ToFilePc × LogFile ρ → Option (Option ToFilePc × LogFile ρ)
  | (none, _) => none
  | (some pc, f) => some (f.toFileStep io size pBuffer countBuffer pc)

section
variable {io : Stdio} {size : Nat} {pBuffer : List ρ} {countBuffer : Int} {f g : LogFile ρ}

theorem writeToFile_result (size : Nat) (r : WriteResult) (c : CloseResult) (rs : List ρ)
    (f : LogFile ρ) :
    (f.writeToFile r c size rs).1 = 0 ∨ (f.writeToFile r c size rs).1 = -1 := by
  unfold writeToFile
  dsimp only
  split
  · exact Or.inr rfl
  · exact Or.inl rfl

theorem closeError_ends (h : g = (f.close io.fcloseError).2) :
    Runs.Leads (toFileNext io size pBuffer countBuffer) (fun x => x = (none, g))
      (some .closeError, f) := by
  subst h
  exact .step rfl (.here rfl)

theorem setCount_ends {isRotated : Bool} {l : ToFileLocals} (h : g = { f with
      countFile := if isRotated then countBuffer - l.numToFile else f.countFile + l.numToFile }) :
    Runs.Leads (toFileNext io size pBuffer countBuffer) (fun x => x = (none, g))
      (some (.setCount isRotated l), f) := by
  subst h
  exact .step rfl (.here rfl)

/-- The end of `logTlm_flushToFile` after the write of what is left. -/
theorem writeLeft_ends {l : ToFileLocals} {w : Int × LogFile ρ}
    (hw : f.writeToFile io.fwriteLeft io.fcloseError (sizeT ((countBuffer - l.numToFile) * size))
      ((pBuffer.drop l.numToFile.toNat).take (countBuffer - l.numToFile).toNat) = w)
    (h : g = if w.1 = -1 then (w.2.close io.fcloseError).2
      else { w.2 with countFile := countBuffer - l.numToFile }) :
    Runs.Leads (toFileNext io size pBuffer countBuffer) (fun x => x = (none, g))
      (some (.writeLeft l), f) := by
  have hstep : toFileNext io size pBuffer countBuffer (some (.writeLeft l), f) =
      some (some (if w.1 = 0 then .setCount true l else .closeError), w.2) := by
    rw [← hw]
    rfl
  refine .step hstep ?_
  subst h
  have hresult := writeToFile_result (sizeT ((countBuffer - l.numToFile) * size))
    io.fwriteLeft io.fcloseError
    ((pBuffer.drop l.numToFile.toNat).take (countBuffer - l.numToFile).toNat) f
  rw [hw] at hresult
  rcases hresult with hzero | herror
  · have hne : w.1 ≠ -1 := by rw [hzero]; decide
    rw [if_pos hzero, if_neg hne]
    exact setCount_ends rfl
  · have hne : w.1 ≠ 0 := by rw [herror]; decide
    rw [if_neg hne, if_pos herror]
    exact closeError_ends rfl

/-- The end of `logTlm_flushToFile` from `logTlm_rotateFile` on. -/
def rotateRest (io : Stdio) (size : Nat) (pBuffer : List ρ) (countBuffer : Int)
    (l : ToFileLocals) (f : LogFile ρ) : LogFile ρ :=
  let r := f.rotateFile io
  let isRotated := decide (r.1 = 0)
  let w :=
    if !l.isSpaceEnough && isRotated then
      r.2.writeToFile io.fwriteLeft io.fcloseError (sizeT ((countBuffer - l.numToFile) * size))
        ((pBuffer.drop l.numToFile.toNat).take (countBuffer - l.numToFile).toNat)
    else r
  if w.1 = -1 then (w.2.close io.fcloseError).2
  else { w.2 with
    countFile := if isRotated then countBuffer - l.numToFile else w.2.countFile + l.numToFile }

theorem rotate_ends {l : ToFileLocals} (h : g = rotateRest io size pBuffer countBuffer l f) :
    Runs.Leads (toFileNext io size pBuffer countBuffer) (fun x => x = (none, g))
      (some (.close l), f) := by
  subst h
  unfold rotateRest rotateFile
  dsimp only
  by_cases hclose : (f.close io.fclose).1 = 0
  · have hstep : toFileNext io size pBuffer countBuffer (some (.close l), f) =
        some (some (.rename l), (f.close io.fclose).2) := by
      simp [toFileNext, toFileStep, hclose]
    refine .step hstep ?_
    generalize (f.close io.fclose).2 = c
    simp only [hclose, ne_eq, not_true_eq_false, if_false]
    cases hrename : io.rename with
    | false =>
      refine .step (t := (some .closeError, c)) (by simp [toFileNext, toFileStep, hrename]) ?_
      exact closeError_ends (by simp)
    | true =>
      obtain ⟨d, hd⟩ : ∃ d : LogFile ρ, d = { c with
        disk := c.renameCurrent
        countRotatingFile := intSucc c.countRotatingFile } := ⟨_, rfl⟩
      refine .step (t := (some (.fopen l), d)) (by simp [toFileNext, toFileStep, hrename, hd]) ?_
      simp only [Bool.not_true, Bool.false_eq_true, if_false]
      rw [← hd]
      cases hfopen : io.fopen with
      | false =>
        refine .step (t := (some .closeError, d)) (by simp [toFileNext, toFileStep, hfopen]) ?_
        exact closeError_ends (by simp)
      | true =>
        have hstep : toFileNext io size pBuffer countBuffer (some (.fopen l), d) =
            some (some (if !l.isSpaceEnough then .writeLeft l else .setCount true l), d.fopen) := by
          simp [toFileNext, toFileStep, hfopen]
        refine .step hstep ?_
        cases hspace : l.isSpaceEnough with
        | false => exact writeLeft_ends rfl (by rw [hd]; simp)
        | true => exact setCount_ends (by rw [hd]; simp)
  · have hstep : toFileNext io size pBuffer countBuffer (some (.close l), f) =
        some (some .closeError, (f.close io.fclose).2) := by
      simp [toFileNext, toFileStep, hclose]
    refine .step hstep (closeError_ends ?_)
    simp [hclose]

/-- The steps left alone make up `logTlm_flushToFile`. -/
theorem toFile_ends (io : Stdio) (size : Nat) (pBuffer : List ρ) (countBuffer : Int)
    (f : LogFile ρ) : Runs.Leads (toFileNext io size pBuffer countBuffer)
      (fun x => x = (none, f.flushToFile io size pBuffer countBuffer)) (some .testFile, f) := by
  unfold flushToFile
  by_cases hnone : f.pFile = none
  · rw [if_pos hnone]
    exact .step (congrArg some (if_pos hnone)) (.here rfl)
  rw [if_neg hnone]
  refine .step (congrArg some (if_neg hnone)) ?_
  dsimp only
  generalize f.countFileMax - f.countFile = space
  generalize hnum : (if decide (countBuffer ≤ space) = true then countBuffer else space) = num
  have hresult := writeToFile_result (sizeT (num * size)) io.fwrite io.fcloseError
    (pBuffer.take num.toNat) f
  generalize hw : f.writeToFile io.fwrite io.fcloseError (sizeT (num * size))
    (pBuffer.take num.toNat) = w at hresult ⊢
  have hwrite : toFileNext io size pBuffer countBuffer
      (some (.write ⟨space, decide (countBuffer ≤ space), num⟩), f) =
      some (if w.1 = 0 then
        (some (if space = num then .close ⟨space, decide (countBuffer ≤ space), num⟩
          else .setCount false ⟨space, decide (countBuffer ≤ space), num⟩), w.2)
      else (some .closeError, w.2)) := by
    rw [← hw]
    rfl
  refine .step hwrite ?_
  rcases hresult with hzero | herror
  · rw [if_pos hzero]
    by_cases hfull : space = num
    · rw [if_pos hfull]
      refine rotate_ends ?_
      simp only [hzero, hfull, and_self, if_true, true_and]
      rfl
    · rw [if_neg hfull]
      refine setCount_ends ?_
      simp [hzero, hfull]
  · have hne : w.1 ≠ 0 := by rw [herror]; decide
    rw [if_neg hne]
    refine closeError_ends ?_
    simp [herror]

end

end LogFile

/-- Where a thread is in `logTlm_isFlushing`. -/
inductive IsFlushingPc where
  | testReady
  | tryLock
  deriving Repr, DecidableEq

/-- Where the application thread is in `logTlm_flush`. -/
inductive FlushPc where
  | testFile
  | testReady
  | isFlushing (pc : IsFlushingPc)
  | toFile (pc : ToFilePc)
  | resetCount
  deriving Repr, DecidableEq

/-- Where the application thread is in `logTlm_open`. -/
inductive OpenPc where
  | testSize
  | isFlushing (pc : IsFlushingPc)
  | close
  | fopen
  | setCounts
  | setBuffer
  | clearFull
  deriving Repr, DecidableEq

/-- The call of the application thread besides `logTlm_write` and `logTlm_closeThread`;
`logTlm_flush` is also called by `logTlm_write`. -/
inductive UserCall where
  | none
  | isFlushing (pc : IsFlushingPc)
  | flush (pc : FlushPc)
  | openLog (pc : OpenPc) (filename : String) (recordPerFile : Int)
  deriving Repr, DecidableEq

/-- The two threads with all the calls; `toFile` is where the flush thread is in
`logTlm_flushToFile`, and `result` is what the last call returned. -/
structure Users (ρ : Type u) extends Threads ρ where
  toFile : Option ToFilePc
  call : UserCall
  result : Int

inductive UserAction (ρ : Type u) where
  | write (pData : ρ)
  | closeThread
  | flush
  | openLog (filename : String) (recordPerFile : Int)
  | isFlushing
  | app (env : Env)
  | run (env : Env)

/-- One step of `logTlm_isFlushing`: the next place, or the result. -/
def State.isFlushingStep (tryLock : Bool) (s : State ρ) : IsFlushingPc → IsFlushingPc ⊕ Bool
  | .testReady => if s.isThreadReady then .inl .tryLock else .inr false
  | .tryLock => .inr (if tryLock then s.isFullBuffer1 || s.isFullBuffer2 else true)

namespace Users

/-- The state in which `logTlm_runFlushInNewThread` has returned. -/
def start (s : State ρ) : Users ρ := ⟨.start s, none, .none, 0⟩

/-- A call other than `logTlm_write` returns. -/
def ret (result : Int) (t : Users ρ) : Users ρ := { t with call := .none, result := result }

/-- `logTlm_flush` returns to the application or to `logTlm_write`, which returns 0. -/
def retFlush (result : Int) (t : Users ρ) : Users ρ :=
  match t.app with
  | .flush r => { t with toThreads := t.toThreads.ret 0 r, call := .none }
  | _ => t.ret result

def flushStep (env : Env) (t : Users ρ) : FlushPc → Users ρ
  | .testFile =>
    if t.log.file.pFile = none ∨ t.log.pBufferCurrent = none then t.retFlush (-1)
    else { t with call := .flush .testReady }
  | .testReady =>
    if t.log.isThreadReady then { t with call := .flush (.isFlushing .testReady) }
    else { t with call := .flush (.toFile .testFile) }
  | .isFlushing pc =>
    match t.log.isFlushingStep env.tryLock pc with
    | .inl pc => { t with call := .flush (.isFlushing pc) }
    | .inr true => t.retFlush (-1)
    | .inr false => { t with call := .flush (.toFile .testFile) }
  | .toFile pc =>
    let r := t.log.file.toFileStep env.stdio t.log.sizeElementInBuffer
      (t.log.cellsAt t.log.pBufferCurrent) t.log.countBufferCurrent pc
    { t with
      log := { t.log with file := r.2 }
      call := .flush (match r.1 with
        | some pc => .toFile pc
        | none => .resetCount) }
  | .resetCount =>
    retFlush 0 { t with log := { t.log with countBufferCurrent := 0 } }

def openStep (env : Env) (filename : String) (recordPerFile : Int) (t : Users ρ) :
    OpenPc → Users ρ
  | .testSize =>
    if recordPerFile ≤ 0 ∨ recordPerFile < t.log.countBufferMax then t.ret (-1)
    else { t with call := .openLog (.isFlushing .testReady) filename recordPerFile }
  | .isFlushing pc =>
    match t.log.isFlushingStep env.tryLock pc with
    | .inl pc => { t with call := .openLog (.isFlushing pc) filename recordPerFile }
    | .inr true => t.ret (-1)
    | .inr false => { t with call := .openLog .close filename recordPerFile }
  | .close =>
    let c := t.log.close env.stdio.fclose
    if c.1 ≠ 0 then ret (-1) { t with log := c.2 }
    else { t with log := c.2, call := .openLog .fopen filename recordPerFile }
  | .fopen =>
    let file := { t.log.file with filename := filename }
    if !env.stdio.fopen then ret (-1) { t with log := { t.log with file := file } }
    else { t with
      log := { t.log with file := file.fopen }
      call := .openLog .setCounts filename recordPerFile }
  | .setCounts => { t with
      log := { t.log with
        file := { t.log.file with
          countFileMax := recordPerFile
          countFile := 0
          countRotatingFile := 0 }
        countBufferCurrent := 0 }
      call := .openLog .setBuffer filename recordPerFile }
  | .setBuffer => { t with
      log := { t.log with pBufferCurrent := t.log.pBuffer1 }
      call := .openLog .clearFull filename recordPerFile }
  | .clearFull =>
    ret 0 { t with log := { t.log with isFullBuffer1 := false, isFullBuffer2 := false } }

def appStep (env : Env) (t : Users ρ) : Option (Users ρ) :=
  match t.call with
  | .none =>
    match t.app with
    | .flush _ => some { t with call := .flush .testFile }
    | _ => (t.toThreads.appStep env).map fun u => { t with toThreads := u }
  | .isFlushing pc =>
    match t.log.isFlushingStep env.tryLock pc with
    | .inl pc => some { t with call := .isFlushing pc }
    | .inr b => some (t.ret (if b then 1 else 0))
  | .flush pc => some (t.flushStep env pc)
  | .openLog pc filename recordPerFile => some (t.openStep env filename recordPerFile pc)

/-- One step of the flush thread in `logTlm_flushToFile`, and where it is afterwards. -/
def runToFile (io : Stdio) (pBuffer : Option Nat) (next : RunPc) (t : Users ρ) : Users ρ :=
  match t.toFile with
  | none => { t with toFile := some .testFile }
  | some pc =>
    let r := t.log.file.toFileStep io t.log.sizeElementInBuffer (t.log.cellsAt pBuffer)
      t.log.countBufferMax pc
    { t with
      log := { t.log with file := r.2 }
      toFile := r.1
      run := if r.1 = none then next else t.run }

/-- One step of `logTlm_run`; its `pthread_mutex_trylock` may fail at any time. -/
def runStep (env : Env) (t : Users ρ) : Option (Users ρ) :=
  match t.run with
  | .snapshot =>
    let doFlushBuffer1 := env.tryLock && t.log.isFullBuffer1
    let doFlushBuffer2 := env.tryLock && t.log.isFullBuffer2
    some { t with
      run := if doFlushBuffer1 then .flush1 doFlushBuffer2
        else if doFlushBuffer2 then .flush2
        else .sleep }
  | .flush1 b => some (t.runToFile env.stdio t.log.pBuffer1 (.clear1 b))
  | .flush2 => some (t.runToFile env.stdio t.log.pBuffer2 .clear2)
  | _ => (t.toThreads.runStep env).map fun u => { t with toThreads := u }

/-- The application thread is between two calls. -/
def isIdle (t : Users ρ) : Bool := t.app.isIdle && t.call == .none

def step (t : Users ρ) : UserAction ρ → Option (Users ρ)
  | .write r => if t.isIdle then some { t with app := .testBuffer r } else none
  | .closeThread => if t.isIdle then some { t with app := .closeTest } else none
  | .flush => if t.isIdle then some { t with call := .flush .testFile } else none
  | .openLog filename recordPerFile =>
    if t.isIdle then some { t with call := .openLog .testSize filename recordPerFile } else none
  | .isFlushing => if t.isIdle then some { t with call := .isFlushing .testReady } else none
  | .app env => t.appStep env
  | .run env => t.runStep env

/-- What a step of the flush thread does: in its test of the flags, in the file or elsewhere. -/
inductive RunStep (env : Env) (t : Users ρ) : Users ρ → Prop where
  | snapshot (hrun : t.run = .snapshot) :
      RunStep env t { t with
        run := if env.tryLock && t.log.isFullBuffer1 then
            .flush1 (env.tryLock && t.log.isFullBuffer2)
          else if env.tryLock && t.log.isFullBuffer2 then .flush2
          else .sleep }
  | flush1 (b : Bool) (hrun : t.run = .flush1 b) :
      RunStep env t (t.runToFile env.stdio t.log.pBuffer1 (.clear1 b))
  | flush2 (hrun : t.run = .flush2) :
      RunStep env t (t.runToFile env.stdio t.log.pBuffer2 .clear2)
  | loop (v : Threads ρ) (hstep : t.toThreads.RunStep env v) :
      RunStep env t { t with toThreads := v }

theorem runStep_step {env : Env} {t u : Users ρ} (hstep : t.runStep env = some u) :
    RunStep env t u := by
  unfold runStep at hstep
  split at hstep
  · rename_i hrun
    cases hstep
    exact .snapshot hrun
  · rename_i b hrun
    cases hstep
    exact .flush1 b hrun
  · rename_i hrun
    cases hstep
    exact .flush2 hrun
  · obtain ⟨v, hv, rfl⟩ := Option.map_eq_some_iff.mp hstep
    exact .loop v (Threads.runStep_step hv)

section
variable {env : Env} {t : Users ρ}

/-- `logTlm_flushToFile` in `logTlm_flush`. -/
theorem flushToFile_ends {size : Nat} {pBuffer : List ρ} {countBuffer : Int}
    {x : Option ToFilePc × LogFile ρ} {f : LogFile ρ} {pc : ToFilePc}
    (h : Runs.Leads (LogFile.toFileNext env.stdio size pBuffer countBuffer)
      (fun y => y = (none, f)) x)
    (hx : x = (some pc, t.log.file)) (hcall : t.call = .flush (.toFile pc))
    (hsize : t.log.sizeElementInBuffer = size)
    (hbuffer : t.log.cellsAt t.log.pBufferCurrent = pBuffer)
    (hcount : t.log.countBufferCurrent = countBuffer) :
    Runs.Leads (appStep env) (fun u => u = { t with
      log := { t.log with file := f }
      call := .flush .resetCount }) t := by
  induction h generalizing t pc with
  | here hend =>
    rw [hx] at hend
    cases hend
  | step hnext hrest ih =>
    subst hx
    cases hnext
    have hstep : appStep env t = some (t.flushStep env (.toFile pc)) := by
      simp [appStep, hcall]
    refine .step hstep ?_
    generalize hr : t.log.file.toFileStep env.stdio size pBuffer countBuffer pc = r at hrest ih
    have hfile : t.log.file.toFileStep env.stdio t.log.sizeElementInBuffer
        (t.log.cellsAt t.log.pBufferCurrent) t.log.countBufferCurrent pc = r := by
      rw [hsize, hbuffer, hcount, hr]
    unfold flushStep
    dsimp only
    rw [hfile]
    obtain ⟨next, g⟩ := r
    cases next with
    | none =>
      cases hrest with
      | here hend =>
        cases hend
        exact .here rfl
      | step hnext => cases hnext
    | some pc =>
      exact ih (t := { t with log := { t.log with file := g }, call := .flush (.toFile pc) }) rfl
        rfl hsize hbuffer hcount

theorem toFile_ends (hcall : t.call = .flush (.toFile .testFile)) :
    Runs.Leads (appStep env) (fun u => u = retFlush 0 { t with
      log := { t.log.flushToFile env.stdio t.log.pBufferCurrent t.log.countBufferCurrent with
        countBufferCurrent := 0 } }) t := by
  have hends := flushToFile_ends (LogFile.toFile_ends env.stdio t.log.sizeElementInBuffer
    (t.log.cellsAt t.log.pBufferCurrent) t.log.countBufferCurrent t.log.file) rfl hcall rfl rfl rfl
  refine hends.trans ?_
  rintro u rfl
  exact .step rfl (.here rfl)

theorem isFlushing_ready {tryLock : Bool} (hready : t.log.isThreadReady = true) :
    t.log.isFlushingStep tryLock .tryLock = .inr (t.log.isFlushing tryLock) := by
  simp [State.isFlushingStep, State.isFlushing, hready]

theorem isFlushing_stopped {tryLock : Bool} (hready : t.log.isThreadReady = false) :
    t.log.isFlushing tryLock = false := by
  simp [State.isFlushing, hready]

/-- The steps left alone make up `logTlm_flush`. -/
theorem flush_ends (hcall : t.call = .flush .testFile) :
    Runs.Leads (appStep env) (fun u => u = retFlush (t.log.flush env).1
      { t with log := (t.log.flush env).2 }) t := by
  have hstep (t : Users ρ) (pc : FlushPc) (h : t.call = .flush pc) :
      appStep env t = some (t.flushStep env pc) := by
    simp [appStep, h]
  unfold State.flush
  split
  · rename_i hnone
    exact .step (hstep t _ hcall) (.here (if_pos hnone))
  · rename_i hnone
    have htest : t.flushStep env .testFile = { t with call := .flush .testReady } := if_neg hnone
    refine .step (hstep t _ hcall) ?_
    rw [htest]
    cases hready : t.log.isThreadReady with
    | false =>
      have hgo : flushStep env { t with call := .flush .testReady } .testReady =
          { t with call := .flush (.toFile .testFile) } := if_neg (by simp [hready])
      refine .step (hstep _ _ rfl) ?_
      rw [hgo, Bool.false_and, if_neg (by decide)]
      exact toFile_ends (t := { t with call := .flush (.toFile .testFile) }) rfl
    | true =>
      have hgo : flushStep env { t with call := .flush .testReady } .testReady =
          { t with call := .flush (.isFlushing .testReady) } := if_pos hready
      have htry : flushStep env { t with call := .flush (.isFlushing .testReady) }
          (.isFlushing .testReady) = { t with call := .flush (.isFlushing .tryLock) } := by
        simp [flushStep, State.isFlushingStep, hready]
      refine .step (hstep _ _ rfl) ?_
      rw [hgo]
      refine .step (hstep _ _ rfl) ?_
      rw [htry, Bool.true_and]
      refine .step (hstep _ _ rfl) ?_
      unfold flushStep
      dsimp only
      rw [isFlushing_ready hready]
      cases t.log.isFlushing env.tryLock with
      | true =>
        rw [if_pos rfl]
        exact .here rfl
      | false =>
        rw [if_neg (by decide)]
        exact toFile_ends (t := { t with call := .flush (.toFile .testFile) }) rfl

section
variable {filename : String} {recordPerFile : Int}

theorem appStep_open {pc : OpenPc} (h : t.call = .openLog pc filename recordPerFile) :
    appStep env t = some (t.openStep env filename recordPerFile pc) := by
  simp [appStep, h]

/-- `logTlm_open` after its tests. -/
theorem reopen_ends (hcall : t.call = .openLog .close filename recordPerFile)
    (hsize : ¬ (recordPerFile ≤ 0 ∨ recordPerFile < t.log.countBufferMax))
    (hflushing : t.log.isFlushing env.tryLock = false) :
    Runs.Leads (appStep env) (fun u => u = ret (t.log.openLog env filename recordPerFile).1
      { t with log := (t.log.openLog env filename recordPerFile).2 }) t := by
  unfold State.openLog
  rw [if_neg hsize, hflushing, if_neg (by decide)]
  refine .step (appStep_open hcall) ?_
  unfold openStep
  dsimp only
  split
  · exact .here rfl
  · refine .step (appStep_open rfl) ?_
    unfold openStep
    dsimp only
    split
    · exact .here rfl
    · exact .step (appStep_open rfl) (.step (appStep_open rfl) (.step (appStep_open rfl)
        (.here rfl)))

/-- The steps left alone make up `logTlm_open`. -/
theorem open_ends (hcall : t.call = .openLog .testSize filename recordPerFile) :
    Runs.Leads (appStep env) (fun u => u = ret (t.log.openLog env filename recordPerFile).1
      { t with log := (t.log.openLog env filename recordPerFile).2 }) t := by
  refine .step (appStep_open hcall) ?_
  by_cases hsize : recordPerFile ≤ 0 ∨ recordPerFile < t.log.countBufferMax
  · have htest : t.openStep env filename recordPerFile .testSize = t.ret (-1) := if_pos hsize
    have hopen : t.log.openLog env filename recordPerFile = (-1, t.log) := if_pos hsize
    rw [htest, hopen]
    exact .here rfl
  have htest : t.openStep env filename recordPerFile .testSize =
      { t with call := .openLog (.isFlushing .testReady) filename recordPerFile } := if_neg hsize
  rw [htest]
  refine .step (appStep_open rfl) ?_
  cases hready : t.log.isThreadReady with
  | false =>
    have hgo : openStep env filename recordPerFile
        { t with call := .openLog (.isFlushing .testReady) filename recordPerFile }
        (.isFlushing .testReady) = { t with call := .openLog .close filename recordPerFile } := by
      simp [openStep, State.isFlushingStep, hready]
    rw [hgo]
    exact reopen_ends (t := { t with call := .openLog .close filename recordPerFile }) rfl hsize
      (isFlushing_stopped hready)
  | true =>
    have hgo : openStep env filename recordPerFile
        { t with call := .openLog (.isFlushing .testReady) filename recordPerFile }
        (.isFlushing .testReady) =
        { t with call := .openLog (.isFlushing .tryLock) filename recordPerFile } := by
      simp [openStep, State.isFlushingStep, hready]
    rw [hgo]
    refine .step (appStep_open rfl) ?_
    unfold openStep
    dsimp only
    rw [isFlushing_ready hready]
    cases hflushing : t.log.isFlushing env.tryLock with
    | true =>
      have hopen : t.log.openLog env filename recordPerFile = (-1, t.log) := by
        unfold State.openLog
        rw [if_neg hsize, hflushing, if_pos rfl]
      rw [hopen]
      exact .here rfl
    | false =>
      exact reopen_ends (t := { t with call := .openLog .close filename recordPerFile }) rfl hsize
        hflushing

end

/-- The flush thread inside `logTlm_flushToFile`. -/
def within (f : LogFile ρ) (pc : ToFilePc) (t : Users ρ) : Users ρ :=
  { t with log := { t.log with file := f }, toFile := some pc }

theorem within_ends {pBuffer : Option Nat} {next : RunPc} {f g : LogFile ρ} {pc : ToFilePc}
    {x : Option ToFilePc × LogFile ρ}
    (hstep : ∀ g pc, runStep env (t.within g pc) =
      some (runToFile env.stdio pBuffer next (t.within g pc)))
    (h : Runs.Leads (LogFile.toFileNext env.stdio t.log.sizeElementInBuffer
      (t.log.cellsAt pBuffer) t.log.countBufferMax) (fun y => y = (none, f)) x)
    (hx : x = (some pc, g)) :
    Runs.Leads (runStep env) (fun u => u = { t with
      log := { t.log with file := f }
      toFile := none
      run := next }) (t.within g pc) := by
  induction h generalizing g pc with
  | here hend =>
    rw [hx] at hend
    cases hend
  | step hnext hrest ih =>
    subst hx
    cases hnext
    refine .step (hstep g pc) ?_
    unfold runToFile
    change Runs.Leads (runStep env) _ { t with
      log := { t.log with
        file := (g.toFileStep env.stdio t.log.sizeElementInBuffer (t.log.cellsAt pBuffer)
          t.log.countBufferMax pc).2 }
      toFile := (g.toFileStep env.stdio t.log.sizeElementInBuffer (t.log.cellsAt pBuffer)
        t.log.countBufferMax pc).1
      run := if (g.toFileStep env.stdio t.log.sizeElementInBuffer (t.log.cellsAt pBuffer)
        t.log.countBufferMax pc).1 = none then next else t.run }
    generalize g.toFileStep env.stdio t.log.sizeElementInBuffer (t.log.cellsAt pBuffer)
      t.log.countBufferMax pc = r at hrest ih
    obtain ⟨place, f'⟩ := r
    cases place with
    | none =>
      cases hrest with
      | here hend =>
        cases hend
        exact .here rfl
      | step hnext => cases hnext
    | some pc => exact ih rfl

/-- The steps left alone make up the flush of a buffer. -/
theorem runToFile_ends {pBuffer : Option Nat} {next : RunPc} (hout : t.toFile = none)
    (hfirst : runStep env t = some (runToFile env.stdio pBuffer next t))
    (hstep : ∀ g pc, runStep env (t.within g pc) =
      some (runToFile env.stdio pBuffer next (t.within g pc))) :
    Runs.Leads (runStep env) (fun u => u = { t with
      log := t.log.flushToFile env.stdio pBuffer t.log.countBufferMax
      run := next }) t := by
  have hbegin : runStep env t = some (t.within t.log.file .testFile) := by
    rw [hfirst]
    simp only [runToFile, hout]
    rfl
  refine .step hbegin ?_
  have hends := within_ends hstep (LogFile.toFile_ends env.stdio t.log.sizeElementInBuffer
    (t.log.cellsAt pBuffer) t.log.countBufferMax t.log.file) rfl
  rw [← hout] at hends
  exact hends

theorem flush1_ends {b : Bool} (hrun : t.run = .flush1 b) (hout : t.toFile = none) :
    Runs.Leads (runStep env) (fun u => u = { t with
      log := t.log.flushToFile env.stdio t.log.pBuffer1 t.log.countBufferMax
      run := .clear1 b }) t :=
  runToFile_ends hout (by simp [runStep, hrun]) fun g pc => by simp [runStep, within, hrun]

theorem flush2_ends (hrun : t.run = .flush2) (hout : t.toFile = none) :
    Runs.Leads (runStep env) (fun u => u = { t with
      log := t.log.flushToFile env.stdio t.log.pBuffer2 t.log.countBufferMax
      run := .clear2 }) t :=
  runToFile_ends hout (by simp [runStep, hrun]) fun g pc => by simp [runStep, within, hrun]

end

end Users

end HexrotPxiCom.LogTlm
