import HexrotPxiCom.Interface.CommandStructure
import HexrotPxiCom.Lib.BoundedFifo
import HexrotPxiCom.Lib.Ring
import HexrotPxiCom.Lib.SizeT

/-!
# The circular buffer of commands

`circular_buffer.c`. Each access is one section under the lock, so the calls of all the
threads form one sequence. An access outside of the block that `malloc` returned is
undefined: there the functions have no value.
-/

namespace HexrotPxiCom.CircularBuffer

set_option autoImplicit false

open BoundedFifo

/-- `circular_buf_t`. The slots are those that fit into the block of `malloc`. -/
structure CircularBuf where
  buffer : List CommandStream
  head : Nat
  tail : Nat
  max : Nat

/-- The answers of the two `malloc` calls; the slots of the first one are not set. -/
structure InitEnv where
  mallocBuffer : Option (Nat → CommandStream)
  mallocCbuf : Bool

def circularBufFull (cbuf : CircularBuf) : Bool :=
  let head := sizeT (cbuf.head + 1 : Nat)
  let head := if head = cbuf.max then 0 else head
  decide (head = cbuf.tail)

def circularBufEmpty (cbuf : CircularBuf) : Bool := decide (cbuf.head = cbuf.tail)

def advancePointer (cbuf : CircularBuf) : CircularBuf :=
  let cbuf :=
    if circularBufFull cbuf then
      let tail := sizeT (cbuf.tail + 1 : Nat)
      { cbuf with tail := if tail = cbuf.max then 0 else tail }
    else cbuf
  let head := sizeT (cbuf.head + 1 : Nat)
  { cbuf with head := if head = cbuf.max then 0 else head }

def retreatPointer (cbuf : CircularBuf) : CircularBuf :=
  let tail := sizeT (cbuf.tail + 1 : Nat)
  { cbuf with tail := if tail = cbuf.max then 0 else tail }

def circularBufReset (cbuf : CircularBuf) : CircularBuf := { cbuf with head := 0, tail := 0 }

def circularBufInit (env : InitEnv) (size : Nat) : Option CircularBuf :=
  if size < 1 then none
  else
    let sizePlusOne := sizeT (size + 1 : Nat)
    match env.mallocBuffer, env.mallocCbuf with
    | some slots, true =>
      let bytes := sizeT (sizePlusOne * sizeofCommandStream : Nat)
      some (circularBufReset
        ⟨(List.range (bytes / sizeofCommandStream)).map slots, 0, 0, sizePlusOne⟩)
    | _, _ => none

def circularBufCapacity (cbuf : CircularBuf) : Nat := sizeT (cbuf.max - 1)

def circularBufSize (cbuf : CircularBuf) : Nat :=
  if !circularBufFull cbuf then
    if cbuf.tail ≤ cbuf.head then sizeT (cbuf.head - cbuf.tail)
    else sizeT (cbuf.max + cbuf.head - cbuf.tail)
  else sizeT (cbuf.max - 1)

def circularBufPut (cbuf : CircularBuf) (data : CommandStream) : Option (Bool × CircularBuf) :=
  let lostData := circularBufFull cbuf
  if cbuf.head < cbuf.buffer.length then
    some (lostData, advancePointer { cbuf with buffer := cbuf.buffer.set cbuf.head data })
  else none

/-- The result, what `*data` is afterwards, and the buffer. -/
def circularBufGet (cbuf : CircularBuf) (data : CommandStream) :
    Option (Bool × CommandStream × CircularBuf) :=
  if circularBufEmpty cbuf then some (true, data, cbuf)
  else (cbuf.buffer[cbuf.tail]?).map fun a => (false, a, retreatPointer cbuf)

/-- One call by some thread. -/
def call (cbuf : CircularBuf) : Nat × Op CommandStream → Option (Result CommandStream × CircularBuf)
  | (_, .put a) => (circularBufPut cbuf a).map fun r => (.put r.1, r.2)
  | (_, .get data) => (circularBufGet cbuf data).map fun r => (.get r.1 r.2.1, r.2.2)
  | (_, .size) => some (.size (circularBufSize cbuf), cbuf)

/-- The results of the calls in the order of their lock sections, and the buffer. -/
def calls (cbuf : CircularBuf) :
    List (Nat × Op CommandStream) → Option (List (Result CommandStream) × CircularBuf)
  | [] => some ([], cbuf)
  | op :: ops => (call cbuf op).bind fun r => (calls r.2 ops).map fun rs => (r.1 :: rs.1, rs.2)

theorem calls_append {cbuf cbuf' : CircularBuf} {ops ops' : List (Nat × Op CommandStream)}
    {rs : List (Result CommandStream)} (h : calls cbuf ops = some (rs, cbuf')) :
    calls cbuf (ops ++ ops') = (calls cbuf' ops').map fun r => (rs ++ r.1, r.2) := by
  induction ops generalizing cbuf rs with
  | nil =>
    cases h
    simp
  | cons op ops ih =>
    obtain ⟨r, hr, h⟩ := Option.bind_eq_some_iff.mp h
    obtain ⟨r', hr', h⟩ := Option.map_eq_some_iff.mp h
    cases h
    rw [List.cons_append, calls, hr, Option.bind_some, ih hr', Option.map_map]
    rfl

theorem wrap_eq {m i : Nat} (hmax : (m : Int) < sizeTRange) (hi : i < m) :
    (if sizeT (i + 1 : Nat) = m then 0 else sizeT (i + 1 : Nat)) = Ring.next m i := by
  have hfit : ((i + 1 : Nat) : Int) < sizeTRange := by omega
  rw [sizeT_natCast hfit]
  rfl

section
variable {cbuf : CircularBuf}

theorem circularBufFull_eq (hmax : (cbuf.max : Int) < sizeTRange) (hhead : cbuf.head < cbuf.max) :
    circularBufFull cbuf = decide (Ring.next cbuf.max cbuf.head = cbuf.tail) := by
  rw [← wrap_eq hmax hhead]
  rfl

theorem retreatPointer_eq (hmax : (cbuf.max : Int) < sizeTRange) (htail : cbuf.tail < cbuf.max) :
    retreatPointer cbuf = { cbuf with tail := Ring.next cbuf.max cbuf.tail } := by
  rw [← wrap_eq hmax htail]
  rfl

theorem advancePointer_eq (hmax : (cbuf.max : Int) < sizeTRange) (hhead : cbuf.head < cbuf.max)
    (htail : cbuf.tail < cbuf.max) :
    advancePointer cbuf = { cbuf with
      head := Ring.next cbuf.max cbuf.head
      tail := if circularBufFull cbuf then Ring.next cbuf.max cbuf.tail else cbuf.tail } := by
  rw [← wrap_eq hmax hhead, ← wrap_eq hmax htail]
  unfold advancePointer
  cases circularBufFull cbuf <;> rfl

end

/-- The slots hold the queue `q` of at most `n` commands, the oldest one at `tail`. -/
structure Queued (n : Nat) (cbuf : CircularBuf) (q : List CommandStream) : Prop where
  max_eq : cbuf.max = n + 1
  max_lt : (cbuf.max : Int) < sizeTRange
  ring : Ring.Holds cbuf.buffer cbuf.max cbuf.head cbuf.tail q

/-- The buffer holds the queue `q`, and all the slots are there. -/
structure Stores (n : Nat) (cbuf : CircularBuf) (q : List CommandStream) : Prop
    extends Queued n cbuf q where
  slots : cbuf.max ≤ cbuf.buffer.length

@[simp] theorem buffer_advancePointer (cbuf : CircularBuf) :
    (advancePointer cbuf).buffer = cbuf.buffer := by
  unfold advancePointer
  cases circularBufFull cbuf <;> rfl

@[simp] theorem max_advancePointer (cbuf : CircularBuf) : (advancePointer cbuf).max = cbuf.max := by
  unfold advancePointer
  cases circularBufFull cbuf <;> rfl

namespace Queued
variable {n : Nat} {cbuf : CircularBuf} {q : List CommandStream}

theorem full_iff (h : Queued n cbuf q) : circularBufFull cbuf = decide (q.length = n) := by
  have hmax := h.max_eq
  rw [circularBufFull_eq h.max_lt h.ring.head_lt]
  apply decide_eq_decide.mpr
  rw [h.ring.next_head_eq_tail_iff]
  omega

theorem empty_iff (h : Queued n cbuf q) : circularBufEmpty cbuf = decide (q = []) :=
  decide_eq_decide.mpr h.ring.head_eq_tail_iff

theorem size_eq (h : Queued n cbuf q) : circularBufSize cbuf = q.length := by
  have hlen := h.ring.length_eq
  have hlt := h.ring.length_lt
  have hmax := h.max_lt
  have htail := h.ring.tail_lt
  have hfit : (q.length : Int) < sizeTRange := by omega
  unfold circularBufSize
  rw [h.full_iff]
  by_cases hfull : q.length = n
  · have hn : (cbuf.max : Int) - 1 = (q.length : Int) := by
      rw [h.max_eq, hfull]
      omega
    rw [decide_eq_true hfull, hn]
    exact sizeT_natCast hfit
  · simp only [hfull, decide_false, Bool.not_false, if_true]
    split
    · rename_i hle
      rw [if_pos hle] at hlen
      have hn : (cbuf.head : Int) - cbuf.tail = (q.length : Int) := by omega
      rw [hn, sizeT_natCast hfit]
    · rename_i hle
      rw [if_neg hle] at hlen
      have hn : (cbuf.max : Int) + cbuf.head - cbuf.tail = (q.length : Int) := by omega
      rw [hn, sizeT_natCast hfit]

theorem put (h : Queued n cbuf q) (hn : 1 ≤ n) (a : CommandStream) {r : Bool × CircularBuf}
    (hput : circularBufPut cbuf a = some r) :
    r.1 = decide (q.length = n) ∧
      Queued n r.2 (if q.length = n then q.tail ++ [a] else q ++ [a]) := by
  have hmax := h.max_eq
  have hfullSet : circularBufFull { cbuf with buffer := cbuf.buffer.set cbuf.head a } =
      decide (q.length = n) := h.full_iff
  have hadvance : advancePointer { cbuf with buffer := cbuf.buffer.set cbuf.head a } = _ :=
    advancePointer_eq h.max_lt h.ring.head_lt h.ring.tail_lt
  rw [hfullSet] at hadvance
  unfold circularBufPut at hput
  dsimp only at hput
  split at hput
  · rename_i hslot
    cases hput
    refine ⟨h.full_iff, ?_⟩
    rw [hadvance]
    by_cases hfull : q.length = n
    · simp only [hfull, decide_true, if_true]
      exact ⟨hmax, h.max_lt, h.ring.push_full a (by omega) (by omega) hslot⟩
    · have hlt := h.ring.length_lt
      simp only [hfull, decide_false, Bool.false_eq_true, if_false]
      exact ⟨hmax, h.max_lt, h.ring.push a (by omega) hslot⟩
  · cases hput

theorem get_empty (h : Queued n cbuf []) (data : CommandStream) :
    circularBufGet cbuf data = some (true, data, cbuf) := by
  have he : circularBufEmpty cbuf = true := by
    rw [h.empty_iff]
    exact decide_eq_true rfl
  simp [circularBufGet, he]

theorem get_cons {a : CommandStream} (h : Queued n cbuf (a :: q)) (data : CommandStream) :
    circularBufGet cbuf data = some (false, a, retreatPointer cbuf) ∧
      Queued n (retreatPointer cbuf) q := by
  have he : circularBufEmpty cbuf = false := by
    rw [h.empty_iff]
    exact decide_eq_false (List.cons_ne_nil a q)
  obtain ⟨hslot, hring⟩ := h.ring.pop rfl
  refine ⟨by simp [circularBufGet, he, hslot], ?_⟩
  rw [retreatPointer_eq h.max_lt h.ring.tail_lt]
  exact ⟨h.max_eq, h.max_lt, hring⟩

/-- A call that only accesses slots that are there. -/
theorem call_eq (h : Queued n cbuf q) (hn : 1 ≤ n) {i : Nat} {op : Op CommandStream}
    {r : Result CommandStream × CircularBuf} (hcall : call cbuf (i, op) = some r) :
    r.1 = (step n q op).1 ∧ Queued n r.2 (step n q op).2 := by
  cases op with
  | put a =>
    obtain ⟨r, hput, rfl⟩ := Option.map_eq_some_iff.mp hcall
    obtain ⟨hlost, hqueued⟩ := h.put hn a hput
    by_cases hfull : q.length = n
    · simp only [hfull, decide_true, if_true] at hlost hqueued
      simpa [step, hfull, hlost] using hqueued
    · simp only [hfull, decide_false, if_false] at hlost hqueued
      simpa [step, hfull, hlost] using hqueued
  | get data =>
    obtain ⟨r, hget, rfl⟩ := Option.map_eq_some_iff.mp hcall
    cases q with
    | nil =>
      rw [h.get_empty] at hget
      cases hget
      exact ⟨rfl, h⟩
    | cons a q =>
      obtain ⟨hcons, hrest⟩ := h.get_cons data
      rw [hcons] at hget
      cases hget
      exact ⟨rfl, hrest⟩
  | size =>
    cases hcall
    exact ⟨congrArg _ h.size_eq, h⟩

/-- The results of the calls and what is in the slots after them. -/
theorem calls_eq (h : Queued n cbuf q) (hn : 1 ≤ n) {ops : List (Nat × Op CommandStream)}
    {rs : List (Result CommandStream)} {t : CircularBuf} (hcalls : calls cbuf ops = some (rs, t)) :
    rs = (results n q (ops.map Prod.snd)).1 ∧ Queued n t (results n q (ops.map Prod.snd)).2 := by
  induction ops generalizing cbuf q rs with
  | nil =>
    cases hcalls
    exact ⟨rfl, h⟩
  | cons op ops ih =>
    obtain ⟨r, hcall, hcalls⟩ := Option.bind_eq_some_iff.mp hcalls
    obtain ⟨⟨rest, u⟩, hrest, heq⟩ := Option.map_eq_some_iff.mp hcalls
    cases heq
    obtain ⟨hresult, hqueued⟩ := h.call_eq hn hcall
    obtain ⟨hresults, ht⟩ := ih hqueued hrest
    refine ⟨?_, ht⟩
    rw [hresult, hresults]
    rfl

end Queued

namespace Stores
variable {n : Nat} {cbuf : CircularBuf} {q : List CommandStream}

theorem put (h : Stores n cbuf q) (hn : 1 ≤ n) (a : CommandStream) :
    ∃ t, circularBufPut cbuf a = some (decide (q.length = n), t) ∧
      Stores n t (if q.length = n then q.tail ++ [a] else q ++ [a]) := by
  have hslot : cbuf.head < cbuf.buffer.length := Nat.lt_of_lt_of_le h.ring.head_lt h.slots
  have hput : circularBufPut cbuf a = some (circularBufFull cbuf,
      advancePointer { cbuf with buffer := cbuf.buffer.set cbuf.head a }) := if_pos hslot
  obtain ⟨-, hqueued⟩ := h.toQueued.put hn a hput
  rw [h.full_iff] at hput
  refine ⟨_, hput, hqueued, ?_⟩
  simpa using h.slots

theorem get_cons {a : CommandStream} (h : Stores n cbuf (a :: q)) (data : CommandStream) :
    circularBufGet cbuf data = some (false, a, retreatPointer cbuf) ∧
      Stores n (retreatPointer cbuf) q := by
  obtain ⟨hget, hqueued⟩ := h.toQueued.get_cons data
  exact ⟨hget, hqueued, h.slots⟩

theorem call_eq (h : Stores n cbuf q) (hn : 1 ≤ n) (i : Nat) (op : Op CommandStream) :
    ∃ t, call cbuf (i, op) = some ((step n q op).1, t) ∧ Stores n t (step n q op).2 := by
  cases op with
  | put a =>
    obtain ⟨t, hput, ht⟩ := h.put hn a
    refine ⟨t, ?_, ?_⟩
    · by_cases hfull : q.length = n <;> simp [call, hput, step, hfull]
    · by_cases hfull : q.length = n <;> simpa [step, hfull] using ht
  | get data =>
    cases q with
    | nil => exact ⟨cbuf, by simp [call, h.get_empty, step], h⟩
    | cons a r =>
      obtain ⟨hget, ht⟩ := h.get_cons data
      exact ⟨retreatPointer cbuf, by simp [call, hget, step], ht⟩
  | size => exact ⟨cbuf, by simp [call, h.size_eq, step], h⟩

theorem calls_eq (h : Stores n cbuf q) (hn : 1 ≤ n) (ops : List (Nat × Op CommandStream)) :
    ∃ t, calls cbuf ops = some ((results n q (ops.map Prod.snd)).1, t) ∧
      Stores n t (results n q (ops.map Prod.snd)).2 := by
  induction ops generalizing cbuf q with
  | nil => exact ⟨cbuf, rfl, h⟩
  | cons op ops ih =>
    obtain ⟨t, hcall, ht⟩ := h.call_eq hn op.1 op.2
    obtain ⟨u, hcalls, hu⟩ := ih ht
    refine ⟨u, ?_, hu⟩
    simp [calls, hcall, hcalls, results]

end Stores

/-- Whatever the threads call, the results are those of a queue of at most `n` commands
that drops its oldest one, and no command is lost, doubled or moved without notice. -/
def FifoOf (n : Nat) (cbuf : CircularBuf) : Prop :=
  ∀ ops : List (Nat × Op CommandStream), ∃ t,
    calls cbuf ops = some ((results n [] (ops.map Prod.snd)).1, t) ∧
    circularBufSize t = (results n [] (ops.map Prod.snd)).2.length ∧
    (puts (ops.map Prod.snd)).length =
      (delivered (results n [] (ops.map Prod.snd)).1).length +
        lost (results n [] (ops.map Prod.snd)).1 + circularBufSize t ∧
    (delivered (results n [] (ops.map Prod.snd)).1).Sublist (puts (ops.map Prod.snd))

section
variable {env : InitEnv} {n : Nat} {cbuf : CircularBuf}

theorem Stores.fifoOf (h : Stores n cbuf []) (hn : 1 ≤ n) : FifoOf n cbuf := by
  intro ops
  obtain ⟨t, hcalls, ht⟩ := h.calls_eq hn ops
  have hsize := ht.size_eq
  have hcount := results_count hn [] (ops.map Prod.snd)
  have hsub := results_sublist n [] (ops.map Prod.snd)
  refine ⟨t, hcalls, hsize, ?_, ?_⟩
  · rw [hsize]
    simpa using hcount
  · exact (List.sublist_append_left _ _).trans hsub

/-- What `circular_buf_init` returns: the slots are those that fit into the wrapped size. -/
theorem circularBufInit_cases (hn : ((n + 1 : Nat) : Int) < sizeTRange)
    (h : circularBufInit env n = some cbuf) :
    1 ≤ n ∧ cbuf.head = 0 ∧ cbuf.tail = 0 ∧ cbuf.max = n + 1 ∧
      cbuf.buffer.length =
        sizeT ((n + 1) * sizeofCommandStream : Nat) / sizeofCommandStream := by
  unfold circularBufInit at h
  rw [sizeT_natCast hn] at h
  split at h
  · cases h
  · split at h
    · cases h
      exact ⟨by omega, rfl, rfl, rfl, by simp [circularBufReset]⟩
    · cases h

theorem queued_init (hn : ((n + 1 : Nat) : Int) < sizeTRange)
    (h : circularBufInit env n = some cbuf) : Queued n cbuf [] := by
  obtain ⟨-, hhead, htail, hmax, -⟩ := circularBufInit_cases hn h
  refine ⟨hmax, by rw [hmax]; exact hn, ?_⟩
  rw [hhead, htail, hmax]
  exact Ring.Holds.empty (Nat.succ_pos n)

theorem stores_init (hn : ((n + 1 : Nat) : Int) < sizeTRange)
    (h : circularBufInit env n = some cbuf)
    (hfit : (((n + 1) * sizeofCommandStream : Nat) : Int) < sizeTRange) : Stores n cbuf [] := by
  obtain ⟨-, -, -, hmax, hlen⟩ := circularBufInit_cases hn h
  rw [sizeT_natCast hfit, Nat.mul_div_cancel _ (by decide)] at hlen
  exact ⟨queued_init hn h, Nat.le_of_eq (hmax.trans hlen.symm)⟩

theorem put_new (hlt : (cbuf.max : Int) < sizeTRange) (htail : cbuf.tail = 0)
    (hroom : cbuf.head + 1 < cbuf.max) (hslot : cbuf.head < cbuf.buffer.length)
    (a : CommandStream) :
    circularBufPut cbuf a = some (false,
      { cbuf with buffer := cbuf.buffer.set cbuf.head a, head := cbuf.head + 1 }) := by
  have hnext : Ring.next cbuf.max cbuf.head = cbuf.head + 1 := by
    unfold Ring.next
    exact if_neg (by omega)
  have hnotfull : circularBufFull cbuf = false := by
    rw [circularBufFull_eq hlt (by omega), hnext, htail]
    exact decide_eq_false (Nat.succ_ne_zero _)
  have hnotfullSet : circularBufFull { cbuf with buffer := cbuf.buffer.set cbuf.head a } =
      false := hnotfull
  have hadvance : advancePointer { cbuf with buffer := cbuf.buffer.set cbuf.head a } = _ :=
    advancePointer_eq hlt (Nat.lt_of_succ_lt hroom) (by change cbuf.tail < cbuf.max; omega)
  simp only [circularBufPut, hslot, if_true, hnotfull, hadvance, hnotfullSet, hnext,
    Bool.false_eq_true, if_false]

/-- Puts into a new buffer fill its slots in order, and the next one is out of bounds. -/
theorem puts_overflow (hlt : (cbuf.max : Int) < sizeTRange) (htail : cbuf.tail = 0)
    (hshort : cbuf.buffer.length < cbuf.max) (a : CommandStream) {k : Nat}
    (hk : cbuf.head + k = cbuf.buffer.length) :
    calls cbuf (List.replicate (k + 1) (0, .put a)) = none := by
  induction k generalizing cbuf with
  | zero =>
    have hout : ¬ cbuf.head < cbuf.buffer.length := by omega
    simp [List.replicate, calls, call, circularBufPut, hout]
  | succ k ih =>
    have hput := put_new hlt htail (by omega) (by omega) a
    have hrest : calls { cbuf with
        buffer := cbuf.buffer.set cbuf.head a, head := cbuf.head + 1 } _ = none := ih hlt htail
      (by simpa using hshort) (by
        change cbuf.head + 1 + k = _
        rw [List.length_set, ← hk]
        omega)
    rw [List.replicate_succ]
    simp [calls, call, hput, hrest]

/-- A buffer is such a queue exactly when the size handed to `malloc` did not wrap. -/
theorem circularBuf_fifo_iff (hn : ((n + 1 : Nat) : Int) < sizeTRange)
    (h : circularBufInit env n = some cbuf) :
    FifoOf n cbuf ↔ (((n + 1) * sizeofCommandStream : Nat) : Int) < sizeTRange := by
  obtain ⟨hpos, hhead, htail, hmax, hlen⟩ := circularBufInit_cases hn h
  constructor
  · intro hfifo
    by_contra hwrap
    have hshort : cbuf.buffer.length < cbuf.max := by
      rw [hlen, hmax]
      have hlt : ¬ (n + 1) * sizeofCommandStream ≤ sizeT ((n + 1) * sizeofCommandStream : Nat) :=
        fun hle => hwrap (le_sizeT_iff.mp hle)
      apply Nat.div_lt_of_lt_mul
      rw [Nat.mul_comm sizeofCommandStream (n + 1)]
      exact Nat.lt_of_not_le hlt
    obtain ⟨t, hcalls, _⟩ :=
      hfifo (List.replicate (cbuf.buffer.length + 1) (0, .put default))
    have hlt : (cbuf.max : Int) < sizeTRange := by
      rw [hmax]
      exact hn
    rw [puts_overflow hlt htail hshort default (by omega)] at hcalls
    cases hcalls
  · intro hfit
    exact (stores_init hn h hfit).fifoOf hpos

end

/-- `size_plus_one * sizeof(commandStreamStructure_t)` wraps to 0 at this size, so the
first put is already outside of the block. -/
theorem circularBuf_not_fifo : ∃ cbuf,
    circularBufInit ⟨some fun _ => default, true⟩ (2 ^ 62 - 1) = some cbuf ∧
    circularBufPut cbuf default = none ∧ ¬ FifoOf (2 ^ 62 - 1) cbuf := by
  have hinit : circularBufInit ⟨some fun _ => default, true⟩ (2 ^ 62 - 1) =
      some ⟨[], 0, 0, 2 ^ 62⟩ := by
    simp [circularBufInit, circularBufReset, sizeT, sizeTRange, sizeofCommandStream]
  refine ⟨⟨[], 0, 0, 2 ^ 62⟩, hinit, rfl, ?_⟩
  intro hfifo
  obtain ⟨t, hcalls, _⟩ := hfifo [(0, .put default)]
  cases hcalls

theorem circularBuf_fifo_three : ∃ cbuf,
    circularBufInit ⟨some fun _ => default, true⟩ 3 = some cbuf ∧ FifoOf 3 cbuf := by
  have hinit : circularBufInit ⟨some fun _ => default, true⟩ 3 = some _ := rfl
  exact ⟨_, hinit, (circularBuf_fifo_iff (by decide) hinit).mpr (by decide)⟩

end HexrotPxiCom.CircularBuffer
