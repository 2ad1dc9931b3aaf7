import HexrotPxiCom.CircularBuffer
import Mathlib.Logic.Function.Basic

/-!
# The lock that all circular buffers share

`circular_buffer.c` with any number of buffers and threads. `lock` and the pointer `buffer` are
statics of the file: every `circular_buf_init` writes `buffer` and initialises `lock`, every
`circular_buf_free` destroys `lock`. A thread steps from one access of what is shared to the
next one.
-/

namespace HexrotPxiCom.CircularBuffer

set_option autoImplicit false

open BoundedFifo

/-- `circular_buf_t`, with its pointer to the slots. -/
structure Cbuf where
  buffer : Nat
  head : Nat
  tail : Nat
  max : Nat
  deriving Repr, DecidableEq

variable {k : Nat}

inductive Mutex (k : Nat) where
  | unlocked
  | locked (i : Fin k)
  | destroyed
  deriving Repr, DecidableEq

/-- What a thread does next. `initRead` stands between the assignment to `buffer` and its
reading; `slots` are those that `malloc` returned. -/
inductive Pc where
  | idle
  | initStore (size : Nat)
  | initRead (size : Nat) (slots : Nat → CommandStream)
  | initMutex (cbuf : Nat)
  | hold (cbuf : Nat) (op : Op CommandStream)
  | body (cbuf : Nat) (op : Op CommandStream)
  | advance (cbuf : Nat) (data : CommandStream) (lostData : Bool)
  | retreat (cbuf : Nat) (data found : CommandStream)
  | release
  | freeBlocks (cbuf : Nat)
  | destroy

namespace Pc

def isIdle : Pc → Bool
  | .idle => true
  | _ => false

/-- Between `hold_lock` and `release_lock`. -/
def inside : Pc → Bool
  | .body .. | .advance .. | .retreat .. | .release => true
  | _ => false

/-- Between the assignment to the static `buffer` and its reading. -/
def storing : Pc → Bool
  | .initRead .. => true
  | _ => false

/-- In a put, get or size of the buffer. -/
def uses (cbuf : Nat) : Pc → Bool
  | .hold c _ | .body c _ | .advance c .. | .retreat c .. => c == cbuf
  | _ => false

end Pc

/-- What the callers know of a handle. -/
inductive Stage (k : Nat) where
  | absent
  | preparing (i : Fin k)
  | live
  | freeing (i : Fin k)
  | gone
  deriving Repr, DecidableEq

/-- The statics, the blocks, the threads, and what was returned. Slots and handles are numbered
in the order in which they are allocated. -/
structure Process (k : Nat) where
  buffer : Option Nat
  lock : Mutex k
  slots : Nat → Option (List CommandStream)
  cbufs : Nat → Option Cbuf
  next : Nat
  pc : Fin k → Pc
  stage : Nat → Stage k
  made : Nat → Option (Nat × (Nat → CommandStream))
  history : Nat → List ((Nat × Op CommandStream) × Result CommandStream)
  exited : Bool

/-- `step` has the slots that a `malloc` returns, and the result of destroying a mutex that is
destroyed already. -/
inductive Action (k : Nat) where
  | init (i : Fin k) (size : Nat)
  | call (i : Fin k) (cbuf : Nat) (op : Op CommandStream)
  | free (i : Fin k) (cbuf : Nat)
  | step (i : Fin k) (slots : Nat → CommandStream) (destroyOk : Bool)

namespace Process

def start (k : Nat) : Process k where
  buffer := none
  lock := .unlocked
  slots := fun _ => none
  cbufs := fun _ => none
  next := 0
  pc := fun _ => .idle
  stage := fun _ => .absent
  made := fun _ => none
  history := fun _ => []
  exited := false

def goto (i : Fin k) (pc : Pc) (s : Process k) : Process k :=
  { s with pc := Function.update s.pc i pc }

/-- The buffer of a handle, as the functions on one buffer see it. -/
def view (cbuf : Nat) (s : Process k) : Option CircularBuf :=
  (s.cbufs cbuf).bind fun c =>
    (s.slots c.buffer).map fun slots => ⟨slots, c.head, c.tail, c.max⟩

def write (cbuf : Nat) (b : CircularBuf) (s : Process k) : Process k :=
  match s.cbufs cbuf with
  | none => s
  | some c => { s with
      slots := Function.update s.slots c.buffer (some b.buffer)
      cbufs := Function.update s.cbufs cbuf (some ⟨c.buffer, b.head, b.tail, b.max⟩) }

/-- The result of a call is there, and the lock is released next. -/
def done (i : Fin k) (cbuf : Nat) (op : Op CommandStream) (r : Result CommandStream)
    (s : Process k) : Process k :=
  { s.goto i .release with
    history := Function.update s.history cbuf (s.history cbuf ++ [((i.val, op), r)]) }

/-- `exit(1)`. -/
def exit (s : Process k) : Process k := { s with exited := true }

/-- The assignment `buffer = malloc(..)` of `circular_buf_init`. -/
def initStore (i : Fin k) (size : Nat) (slots : Nat → CommandStream) (s : Process k) : Process k :=
  if size < 1 then s.goto i .idle
  else
    let sizePlusOne := sizeT (size + 1 : Nat)
    let bytes := sizeT (sizePlusOne * sizeofCommandStream : Nat)
    { s.goto i (.initRead size slots) with
      buffer := some s.next
      slots := Function.update s.slots s.next
        (some ((List.range (bytes / sizeofCommandStream)).map slots))
      next := s.next + 1 }

/-- The test of the pointers and `cbuf->buffer = buffer`. -/
def initRead (i : Fin k) (size : Nat) (slots : Nat → CommandStream) (s : Process k) : Process k :=
  match s.buffer with
  | none => s.goto i .idle
  | some buffer =>
    { s.goto i (.initMutex s.next) with
      cbufs := Function.update s.cbufs s.next (some ⟨buffer, 0, 0, sizeT (size + 1 : Nat)⟩)
      next := s.next + 1
      stage := Function.update s.stage s.next (.preparing i)
      made := Function.update s.made s.next (some (size, slots)) }

/-- What stands between `hold_lock` and `release_lock`, up to the move of an index. -/
def body (i : Fin k) (cbuf : Nat) (op : Op CommandStream) (s : Process k) : Option (Process k) :=
  (s.view cbuf).bind fun b =>
    match op with
    | .put data =>
      if b.head < b.buffer.length then
        some ((s.write cbuf { b with buffer := b.buffer.set b.head data }).goto i
          (.advance cbuf data (circularBufFull b)))
      else none
    | .get data =>
      if circularBufEmpty b then some (s.done i cbuf op (.get true data))
      else (b.buffer[b.tail]?).map fun found => s.goto i (.retreat cbuf data found)
    | .size => some (s.done i cbuf op (.size (circularBufSize b)))

/-- The next step of a thread. -/
def threadStep (i : Fin k) (slots : Nat → CommandStream) (destroyOk : Bool) (s : Process k) :
    Option (Process k) :=
  match s.pc i with
  | .idle => none
  | .initStore size => some (s.initStore i size slots)
  | .initRead size slots => some (s.initRead i size slots)
  | .initMutex cbuf => some { s.goto i .idle with
      lock := .unlocked
      stage := Function.update s.stage cbuf .live }
  | .hold cbuf op =>
    match s.lock with
    | .unlocked => some { s.goto i (.body cbuf op) with lock := .locked i }
    | .locked _ => none
    | .destroyed => some s.exit
  | .body cbuf op => s.body i cbuf op
  | .advance cbuf data lostData => (s.view cbuf).map fun b =>
      (s.write cbuf (advancePointer b)).done i cbuf (.put data) (.put lostData)
  | .retreat cbuf data found => (s.view cbuf).map fun b =>
      (s.write cbuf (retreatPointer b)).done i cbuf (.get data) (.get false found)
  | .release =>
    match s.lock with
    | .destroyed => some s.exit
    | _ => some { s.goto i .idle with lock := .unlocked }
  | .freeBlocks cbuf => (s.cbufs cbuf).map fun c => { s.goto i .destroy with
      slots := Function.update s.slots c.buffer none
      cbufs := Function.update s.cbufs cbuf none
      stage := Function.update s.stage cbuf .gone }
  | .destroy =>
    match s.lock with
    | .unlocked => some { s.goto i .idle with lock := .destroyed }
    | .locked _ => some s.exit
    | .destroyed => some (if destroyOk then s.goto i .idle else s.exit)

/-- A handle is used after its init and before its free, which is not called while it is in
use. -/
def step (s : Process k) (a : Action k) : Option (Process k) :=
  if s.exited then none
  else
    match a with
    | .init i size => if (s.pc i).isIdle then some (s.goto i (.initStore size)) else none
    | .call i cbuf op =>
      if (s.pc i).isIdle ∧ s.stage cbuf = .live then some (s.goto i (.hold cbuf op)) else none
    | .free i cbuf =>
      if (s.pc i).isIdle ∧ s.stage cbuf = .live ∧ ∀ j, (s.pc j).uses cbuf = false then
        some { s.goto i (.freeBlocks cbuf) with
          stage := Function.update s.stage cbuf (.freeing i) }
      else none
    | .step i slots destroyOk => s.threadStep i slots destroyOk

/-- What the shared statics need: no `circular_buf_init` assigns `buffer` while another one has
not read it, and its byte count does not wrap; the lock is initialised and destroyed while
nobody holds it; a call comes only while the lock is not destroyed. -/
def Unshared (s : Process k) : Action k → Prop
  | .step i _ destroyOk =>
    match s.pc i with
    | .initStore size => 1 ≤ size → (∀ j, (s.pc j).storing = false) ∧
        (((size + 1) * sizeofCommandStream : Nat) : Int) < sizeTRange
    | .initMutex _ => ∀ j, s.lock ≠ .locked j
    | .hold .. => s.lock ≠ .destroyed
    | .destroy => (∀ j, s.lock ≠ .locked j) ∧ (s.lock = .destroyed → destroyOk = true)
    | _ => True
  | _ => True

instance Unshared.decidable (s : Process k) : ∀ a, Decidable (s.Unshared a)
  | .init .. => .isTrue trivial
  | .call .. => .isTrue trivial
  | .free .. => .isTrue trivial
  | .step i slots destroyOk => by
    delta Unshared
    dsimp only
    exact match s.pc i with
      | .initStore _ | .initMutex _ | .hold .. | .destroy => inferInstance
      | .idle | .initRead .. | .body .. | .advance .. | .retreat .. | .release | .freeBlocks _ =>
        .isTrue trivial

end Process

end HexrotPxiCom.CircularBuffer
