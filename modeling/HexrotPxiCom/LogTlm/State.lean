import HexrotPxiCom.LogTlm.File

/-!
# The globals of the telemetry log and its functions

The two record buffers are blocks of a heap, so that `pBufferCurrent`, `pBuffer1` and
`pBuffer2` are pointers that are compared and may dangle as in the source. Every lock
section of the source is one update here. A failing `pthread_mutex_lock` ends the process
and is not modelled; `pthread_mutex_trylock` may fail at every call.
-/

namespace HexrotPxiCom.LogTlm

set_option autoImplicit false

universe u
variable {ρ : Type u}

/-- A block of the heap: its size in bytes and the element slots in it. -/
structure Block (ρ : Type u) where
  size : Nat
  cells : List ρ

def Block.set (b : Block ρ) (i : Nat) (r : ρ) : Block ρ := { b with cells := b.cells.set i r }

structure State (ρ : Type u) where
  file : LogFile ρ
  pBufferCurrent : Option Nat
  pBuffer1 : Option Nat
  pBuffer2 : Option Nat
  heap : Nat → Block ρ
  allocated : Nat
  sizeElementInBuffer : Nat
  countBufferMax : Int
  countBufferCurrent : Int
  isFullBuffer1 : Bool
  isFullBuffer2 : Bool
  isThreadReady : Bool

/-- The answers of `pthread_mutex_trylock` and of stdio to one call. -/
structure Env where
  tryLock : Bool := true
  stdio : Stdio := {}
  deriving Repr, DecidableEq

def Env.Success (e : Env) : Prop := e.tryLock = true ∧ e.stdio.Success

instance (e : Env) : Decidable e.Success := inferInstanceAs (Decidable (_ ∧ _))

/-- Which of the allocations of `logTlm_createBuffer` succeed. -/
structure Alloc where
  calloc1 : Bool := true
  calloc2 : Bool := true
  mutexInit : Bool := true
  deriving Repr, DecidableEq

namespace State

/-- The static initialisers of `logTlm.c`. -/
def initial : State ρ where
  file :=
    { filename := "", pFile := none, stream := [], disk := fun _ => none,
      countRotatingFile := 0, countFileMax := 0, countFile := 0 }
  pBufferCurrent := none
  pBuffer1 := none
  pBuffer2 := none
  heap := fun _ => ⟨0, []⟩
  allocated := 0
  sizeElementInBuffer := 0
  countBufferMax := 0
  countBufferCurrent := 0
  isFullBuffer1 := false
  isFullBuffer2 := false
  isThreadReady := false

/-- The slots a pointer leads to. -/
def cellsAt (s : State ρ) : Option Nat → List ρ
  | none => []
  | some p => (s.heap p).cells

/-- `free`: the block has no bytes any more. -/
def freeBlock (p : Option Nat) (s : State ρ) : State ρ :=
  match p with
  | none => s
  | some p => { s with heap := Function.update s.heap p ⟨0, []⟩ }

/-- `logTlm_freeBuffer`, where destroying the mutex succeeds. -/
def freeBuffer (s : State ρ) : State ρ :=
  { (s.freeBlock s.pBuffer1).freeBlock s.pBuffer2 with
    pBuffer1 := none
    pBuffer2 := none
    pBufferCurrent := none }

/-- The heap after a successful `calloc`, with its slots zeroed. -/
def addBlock [Inhabited ρ] (sizeBuffer : Int) (sizeElement : Nat) (s : State ρ) : State ρ :=
  { s with
    heap := Function.update s.heap s.allocated
      ⟨sizeBuffer.toNat * sizeElement, List.replicate sizeBuffer.toNat default⟩
    allocated := s.allocated + 1 }

/-- `calloc` fails without memory and when the byte count overflows. -/
def calloc [Inhabited ρ] (ok : Bool) (sizeBuffer : Int) (sizeElement : Nat) (s : State ρ) :
    Option Nat × State ρ :=
  if ok = true ∧ sizeBuffer * sizeElement < sizeTRange then
    (some s.allocated, s.addBlock sizeBuffer sizeElement)
  else (none, s)

/-- `logTlm_createBufferSingle(&pBuffer1, ..)`. -/
def createBufferSingle1 [Inhabited ρ] (ok : Bool) (sizeBuffer : Int) (sizeElement : Nat)
    (s : State ρ) : Int × State ρ :=
  let a := s.calloc ok sizeBuffer sizeElement
  (if a.1 = none then -1 else 0, { a.2 with pBuffer1 := a.1 })

/-- `logTlm_createBufferSingle(&pBuffer2, ..)`. -/
def createBufferSingle2 [Inhabited ρ] (ok : Bool) (sizeBuffer : Int) (sizeElement : Nat)
    (s : State ρ) : Int × State ρ :=
  let a := s.calloc ok sizeBuffer sizeElement
  (if a.1 = none then -1 else 0, { a.2 with pBuffer2 := a.1 })

def createBuffer [Inhabited ρ] (env : Alloc) (sizeBuffer : Int) (sizeElement : Nat)
    (s : State ρ) : Int × State ρ :=
  if sizeBuffer ≤ 0 ∨ sizeElement ≤ 0 then (-1, s)
  else
    let a := s.createBufferSingle1 env.calloc1 sizeBuffer sizeElement
    let b := if a.1 = 0 then a.2.createBufferSingle2 env.calloc2 sizeBuffer sizeElement else a
    if b.1 = -1 ∧ b.2.pBuffer1 ≠ none then
      (-1, { b.2.freeBlock b.2.pBuffer1 with pBuffer1 := none })
    else if !env.mutexInit then (-1, b.2)
    else (0, { b.2 with countBufferMax := sizeBuffer, sizeElementInBuffer := sizeElement })

def close (fclose : CloseResult) (s : State ρ) : Int × State ρ :=
  ((s.file.close fclose).1, { s with file := (s.file.close fclose).2 })

def isFlushing (tryLock : Bool) (s : State ρ) : Bool :=
  if !s.isThreadReady then false
  else if tryLock then s.isFullBuffer1 || s.isFullBuffer2
  else true

/-- `logTlm_open`, where `filename` is what `logTlm_setFilename` makes of the directory,
the format and the time. -/
def openLog (env : Env) (filename : String) (recordPerFile : Int) (s : State ρ) :
    Int × State ρ :=
  if recordPerFile ≤ 0 ∨ recordPerFile < s.countBufferMax then (-1, s)
  else if s.isFlushing env.tryLock then (-1, s)
  else
    let c := s.close env.stdio.fclose
    if c.1 ≠ 0 then (-1, c.2)
    else
      let file := { c.2.file with filename := filename }
      if !env.stdio.fopen then (-1, { c.2 with file := file })
      else (0, { c.2 with
        file := { file.fopen with
          countFileMax := recordPerFile
          countFile := 0
          countRotatingFile := 0 }
        countBufferCurrent := 0
        pBufferCurrent := c.2.pBuffer1
        isFullBuffer1 := false
        isFullBuffer2 := false })

/-- `logTlm_flushToFile` on the slots a pointer leads to. -/
def flushToFile (io : Stdio) (pBuffer : Option Nat) (countBuffer : Int) (s : State ρ) : State ρ :=
  { s with
    file := s.file.flushToFile io s.sizeElementInBuffer (s.cellsAt pBuffer) countBuffer }

def flush (env : Env) (s : State ρ) : Int × State ρ :=
  if s.file.pFile = none ∨ s.pBufferCurrent = none then (-1, s)
  else if s.isThreadReady && s.isFlushing env.tryLock then (-1, s)
  else (0, { s.flushToFile env.stdio s.pBufferCurrent s.countBufferCurrent with
    countBufferCurrent := 0 })

/-- The `memcpy` of `logTlm_write`. -/
def copyRecord (pData : ρ) (s : State ρ) : State ρ :=
  match s.pBufferCurrent with
  | none => s
  | some p => { s with
      heap := Function.update s.heap p ((s.heap p).set s.countBufferCurrent.toNat pData) }

def write (env : Env) (pData : ρ) (s : State ρ) : Int × State ρ :=
  if s.pBufferCurrent = none ∨ s.file.pFile = none then (-2, s)
  else
    let s :=
      if s.countBufferCurrent < s.countBufferMax then
        { s.copyRecord pData with countBufferCurrent := s.countBufferCurrent + 1 }
      else s
    if s.countBufferCurrent < s.countBufferMax then (0, s)
    else if !s.isThreadReady then (0, (s.flush env).2)
    else if s.pBufferCurrent = s.pBuffer1 then
      if !s.isFullBuffer2 then (0, { s with
        isFullBuffer1 := true
        pBufferCurrent := s.pBuffer2
        countBufferCurrent := 0 })
      else (-1, { s with isFullBuffer1 := true, pBufferCurrent := none })
    else
      if !s.isFullBuffer1 then (0, { s with
        isFullBuffer2 := true
        pBufferCurrent := s.pBuffer1
        countBufferCurrent := 0 })
      else (-1, { s with isFullBuffer2 := true, pBufferCurrent := none })

/-- One turn of the loop of `logTlm_run`; `io2` answers the flush of buffer 2. -/
def runTurn (env : Env) (io2 : Stdio) (s : State ρ) : State ρ :=
  let doFlushBuffer1 := env.tryLock && s.isFullBuffer1
  let doFlushBuffer2 := env.tryLock && s.isFullBuffer2
  if doFlushBuffer1 || doFlushBuffer2 then
    let s1 :=
      if doFlushBuffer1 then
        { s.flushToFile env.stdio s.pBuffer1 s.countBufferMax with isFullBuffer1 := false }
      else s
    let s2 :=
      if doFlushBuffer2 then
        { s1.flushToFile io2 s1.pBuffer2 s1.countBufferMax with isFullBuffer2 := false }
      else s1
    if s2.pBufferCurrent = none then
      { s2 with pBufferCurrent := s2.pBuffer1, countBufferCurrent := 0 }
    else s2
  else s

/-- `logTlm_runFlushInNewThread`, by the answers of `pthread_create` and
`pthread_setschedparam`. -/
def runFlushInNewThread (created scheduled : Bool) (timeInMs : Int) (s : State ρ) :
    Int × State ρ :=
  if timeInMs ≤ 0 then (-1, s)
  else if !created then (-1, s)
  else if !scheduled then (-1, s)
  else (0, { s with isThreadReady := true })

end State

end HexrotPxiCom.LogTlm
