import HexrotPxiCom.LogTlm.FileInvariant
import HexrotPxiCom.LogTlm.State

/-!
# The state after `logTlm_createBuffer` and `logTlm_open`

`logTlm_createBuffer` can report success without a first buffer (when its first `calloc`
fails), so every statement about the buffers is about the pointers that are not NULL.
-/

namespace HexrotPxiCom.LogTlm.State

set_option autoImplicit false

universe u
variable {ρ : Type u} {s t : State ρ}

@[simp] theorem cellsAt_some (p : Nat) : s.cellsAt (some p) = (s.heap p).cells := rfl

@[simp] theorem copyRecord_file (r : ρ) : (s.copyRecord r).file = s.file := by
  unfold copyRecord
  split <;> rfl

@[simp] theorem copyRecord_pBufferCurrent (r : ρ) :
    (s.copyRecord r).pBufferCurrent = s.pBufferCurrent := by
  unfold copyRecord
  split <;> simp_all

@[simp] theorem copyRecord_pBuffer1 (r : ρ) : (s.copyRecord r).pBuffer1 = s.pBuffer1 := by
  unfold copyRecord
  split <;> rfl

@[simp] theorem copyRecord_pBuffer2 (r : ρ) : (s.copyRecord r).pBuffer2 = s.pBuffer2 := by
  unfold copyRecord
  split <;> rfl

@[simp] theorem copyRecord_sizeElementInBuffer (r : ρ) :
    (s.copyRecord r).sizeElementInBuffer = s.sizeElementInBuffer := by
  unfold copyRecord
  split <;> rfl

@[simp] theorem copyRecord_countBufferMax (r : ρ) :
    (s.copyRecord r).countBufferMax = s.countBufferMax := by
  unfold copyRecord
  split <;> rfl

@[simp] theorem copyRecord_countBufferCurrent (r : ρ) :
    (s.copyRecord r).countBufferCurrent = s.countBufferCurrent := by
  unfold copyRecord
  split <;> rfl

@[simp] theorem copyRecord_isFullBuffer1 (r : ρ) :
    (s.copyRecord r).isFullBuffer1 = s.isFullBuffer1 := by
  unfold copyRecord
  split <;> rfl

@[simp] theorem copyRecord_isFullBuffer2 (r : ρ) :
    (s.copyRecord r).isFullBuffer2 = s.isFullBuffer2 := by
  unfold copyRecord
  split <;> rfl

@[simp] theorem copyRecord_isThreadReady (r : ρ) :
    (s.copyRecord r).isThreadReady = s.isThreadReady := by
  unfold copyRecord
  split <;> rfl

theorem copyRecord_cells (r : ρ) {p : Nat} (hp : s.pBufferCurrent = some p) :
    ((s.copyRecord r).heap p).cells = (s.heap p).cells.set s.countBufferCurrent.toNat r := by
  simp [copyRecord, hp, Block.set]

theorem copyRecord_heap_of_ne (r : ρ) {q : Nat} (hq : s.pBufferCurrent ≠ some q) :
    (s.copyRecord r).heap q = s.heap q := by
  unfold copyRecord
  split
  · rfl
  · rename_i p hp
    have hne : q ≠ p := fun h => hq (h ▸ hp)
    simp [hne]

theorem copyRecord_cells_length (r : ρ) (q : Nat) :
    ((s.copyRecord r).heap q).cells.length = (s.heap q).cells.length := by
  by_cases hq : s.pBufferCurrent = some q
  · rw [copyRecord_cells r hq, List.length_set]
  · rw [copyRecord_heap_of_ne r hq]

/-- The slot written by the `memcpy` extends the filled part of the buffer by the record. -/
theorem copyRecord_take (r : ρ) {p : Nat} (hp : s.pBufferCurrent = some p)
    (h0 : 0 ≤ s.countBufferCurrent) (hlt : s.countBufferCurrent < (s.heap p).cells.length) :
    ((s.copyRecord r).heap p).cells.take (s.countBufferCurrent + 1).toNat =
      (s.heap p).cells.take s.countBufferCurrent.toNat ++ [r] := by
  have hlt' : s.countBufferCurrent.toNat < (s.heap p).cells.length := by omega
  have hsucc : (s.countBufferCurrent + 1).toNat = s.countBufferCurrent.toNat + 1 := by omega
  rw [copyRecord_cells r hp, hsucc, List.take_add_one, List.take_set_of_le (Nat.le_refl _),
    List.getElem?_set_self hlt', Option.toList_some]

@[simp] theorem flushToFile_isFullBuffer1 (io : Stdio) (b : Option Nat) (c : Int) :
    (s.flushToFile io b c).isFullBuffer1 = s.isFullBuffer1 := rfl

@[simp] theorem flushToFile_isFullBuffer2 (io : Stdio) (b : Option Nat) (c : Int) :
    (s.flushToFile io b c).isFullBuffer2 = s.isFullBuffer2 := rfl

theorem flush_cases (s : State ρ) (env : Env) :
    (s.flush env).2 = s ∨ (s.flush env).2 =
      { s.flushToFile env.stdio s.pBufferCurrent s.countBufferCurrent with
        countBufferCurrent := 0 } := by
  unfold flush
  split
  · exact Or.inl rfl
  · split
    · exact Or.inl rfl
    · exact Or.inr rfl

/-- Buffer geometry: the sizes are positive and a nonnull buffer has a slot for every record. -/
structure Allocated (n : Int) (size : Nat) (s : State ρ) : Prop where
  count_pos : 0 < n
  size_pos : 0 < size
  countBufferMax : s.countBufferMax = n
  sizeElement : s.sizeElementInBuffer = size
  both : s.pBuffer1 ≠ none → n * size < sizeTRange ∧
    ∃ a b, a ≠ b ∧ s.pBuffer1 = some a ∧ s.pBuffer2 = some b ∧
      ((s.heap a).cells.length : Int) = n ∧ ((s.heap b).cells.length : Int) = n

theorem Allocated.copyRecord {n c : Int} {size : Nat} (h : s.Allocated n size) (r : ρ) :
    Allocated n size { s.copyRecord r with countBufferCurrent := c } where
  count_pos := h.count_pos
  size_pos := h.size_pos
  countBufferMax := by simpa using h.countBufferMax
  sizeElement := by simpa using h.sizeElement
  both := by
    intro hne
    obtain ⟨hfit, a, b, hab, ha, hb, hla, hlb⟩ := h.both (by simpa using hne)
    refine ⟨hfit, a, b, hab, by simpa using ha, by simpa using hb, ?_, ?_⟩
    · rw [copyRecord_cells_length]
      exact hla
    · rw [copyRecord_cells_length]
      exact hlb

/-- The two buffers of a successful creation, when neither `calloc` failed. -/
def createdBoth [Inhabited ρ] (n : Int) (size : Nat) (s : State ρ) : State ρ :=
  { (s.addBlock n size).addBlock n size with
    pBuffer1 := some s.allocated
    pBuffer2 := some (s.allocated + 1)
    countBufferMax := n
    sizeElementInBuffer := size }

/-- A `calloc` with this answer succeeds: the byte count must not overflow. -/
def callocs (ok : Bool) (n : Int) (size : Nat) : Prop := ok = true ∧ n * size < sizeTRange

instance (ok : Bool) (n : Int) (size : Nat) : Decidable (callocs ok n size) :=
  inferInstanceAs (Decidable (_ ∧ _))

section
variable [Inhabited ρ] {env : Alloc} {n : Int} {size : Nat}

theorem calloc_ok {ok : Bool} (h : callocs ok n size) :
    s.calloc ok n size = (some s.allocated, s.addBlock n size) := if_pos h

theorem calloc_failed {ok : Bool} (h : ¬ callocs ok n size) : s.calloc ok n size = (none, s) :=
  if_neg h

theorem createBufferSingle1_ok {ok : Bool} (h : callocs ok n size) :
    s.createBufferSingle1 ok n size =
      (0, { s.addBlock n size with pBuffer1 := some s.allocated }) := by
  rw [createBufferSingle1, calloc_ok h]
  rfl

theorem createBufferSingle1_failed {ok : Bool} (h : ¬ callocs ok n size) :
    s.createBufferSingle1 ok n size = (-1, { s with pBuffer1 := none }) := by
  rw [createBufferSingle1, calloc_failed h]
  rfl

theorem createBufferSingle2_ok {ok : Bool} (h : callocs ok n size) :
    s.createBufferSingle2 ok n size =
      (0, { s.addBlock n size with pBuffer2 := some s.allocated }) := by
  rw [createBufferSingle2, calloc_ok h]
  rfl

theorem createBufferSingle2_failed {ok : Bool} (h : ¬ callocs ok n size) :
    s.createBufferSingle2 ok n size = (-1, { s with pBuffer2 := none }) := by
  rw [createBufferSingle2, calloc_failed h]
  rfl

/-- The first `calloc` fails: the clean-up is passed over, and with it the return. -/
theorem createBuffer_first_failed (hn : 0 < n) (hsize : 0 < size)
    (h1 : ¬ callocs env.calloc1 n size) :
    s.createBuffer env n size =
      if env.mutexInit then
        (0, { s with pBuffer1 := none, countBufferMax := n, sizeElementInBuffer := size })
      else (-1, { s with pBuffer1 := none }) := by
  rw [createBuffer, if_neg (by omega), createBufferSingle1_failed h1]
  cases env.mutexInit <;> simp

/-- The second `calloc` fails: the first buffer is freed. -/
theorem createBuffer_second_failed (hn : 0 < n) (hsize : 0 < size)
    (h1 : callocs env.calloc1 n size) (h2 : ¬ callocs env.calloc2 n size) :
    s.createBuffer env n size = (-1, { (s.addBlock n size).freeBlock (some s.allocated) with
      pBuffer1 := none
      pBuffer2 := none }) := by
  rw [createBuffer, if_neg (by omega), createBufferSingle1_ok h1]
  simp only [if_true, createBufferSingle2_failed h2]
  simp [freeBlock]

/-- Both succeed: without the mutex the buffers are left behind. -/
theorem createBuffer_both (hn : 0 < n) (hsize : 0 < size) (h1 : callocs env.calloc1 n size)
    (h2 : callocs env.calloc2 n size) :
    s.createBuffer env n size =
      if env.mutexInit then (0, s.createdBoth n size)
      else (-1, { (s.addBlock n size).addBlock n size with
        pBuffer1 := some s.allocated
        pBuffer2 := some (s.allocated + 1) }) := by
  rw [createBuffer, if_neg (by omega), createBufferSingle1_ok h1]
  simp only [if_true, createBufferSingle2_ok h2]
  cases env.mutexInit <;> simp [createdBoth, addBlock]

theorem createBuffer_cases (h : s.createBuffer env n size = (0, t)) :
    0 < n ∧ 0 < size ∧
      ((n * size < sizeTRange ∧ t = s.createdBoth n size) ∨
        t = { s with pBuffer1 := none, countBufferMax := n, sizeElementInBuffer := size }) := by
  by_cases hneg : n ≤ 0 ∨ size ≤ 0
  · rw [createBuffer, if_pos hneg] at h
    simp at h
  have hn : 0 < n := by omega
  have hsize : 0 < size := by omega
  refine ⟨hn, hsize, ?_⟩
  by_cases h1 : callocs env.calloc1 n size
  · by_cases h2 : callocs env.calloc2 n size
    · rw [createBuffer_both hn hsize h1 h2] at h
      split at h
      · cases h
        exact Or.inl ⟨h1.2, rfl⟩
      · cases h
    · rw [createBuffer_second_failed hn hsize h1 h2] at h
      cases h
  · rw [createBuffer_first_failed hn hsize h1] at h
    split at h
    · cases h
      exact Or.inr rfl
    · cases h

end

theorem createBuffer_allocated [Inhabited ρ] {env : Alloc} {n : Int} {size : Nat}
    (h : s.createBuffer env n size = (0, t)) :
    t.Allocated n size ∧ t.isThreadReady = s.isThreadReady := by
  obtain ⟨hn, hsize, ⟨hfit, rfl⟩ | rfl⟩ := createBuffer_cases h
  · refine ⟨⟨hn, hsize, rfl, rfl, fun _ => ⟨hfit, s.allocated, s.allocated + 1, by omega, rfl,
      rfl, ?_, ?_⟩⟩, rfl⟩
    · simp [createdBoth, addBlock]
      omega
    · simp [createdBoth, addBlock]
      omega
  · exact ⟨⟨hn, hsize, rfl, rfl, fun hne => absurd rfl hne⟩, rfl⟩

/-- The state after a successful `logTlm_open`. -/
def opened (filename : String) (recordPerFile : Int) (s : State ρ) : State ρ :=
  { s with
    file := { LogFile.fopen { (s.file.close .done).2 with filename := filename } with
      countFileMax := recordPerFile
      countFile := 0
      countRotatingFile := 0 }
    countBufferCurrent := 0
    pBufferCurrent := s.pBuffer1
    isFullBuffer1 := false
    isFullBuffer2 := false }

theorem openLog_cases {env : Env} {filename : String} {recordPerFile : Int}
    (h : s.openLog env filename recordPerFile = (0, t)) :
    0 < recordPerFile ∧ s.countBufferMax ≤ recordPerFile ∧ t = s.opened filename recordPerFile := by
  by_cases hneg : recordPerFile ≤ 0 ∨ recordPerFile < s.countBufferMax
  · rw [openLog, if_pos hneg] at h
    simp at h
  rw [openLog, if_neg hneg] at h
  refine ⟨by omega, by omega, ?_⟩
  cases h1 : s.isFlushing env.tryLock with
  | true => simp [h1] at h
  | false =>
    have hclose : (s.close env.stdio.fclose).1 = 0 →
        s.file.close env.stdio.fclose = s.file.close .done := by
      unfold State.close LogFile.close
      cases s.file.pFile with
      | none => simp
      | some n => cases env.stdio.fclose <;> simp [CloseResult.status]
    rcases Decidable.em ((s.close env.stdio.fclose).1 = 0) with hc | hc
    · cases h2 : env.stdio.fopen with
      | false => simp [h1, h2, hc] at h
      | true =>
        simp [h1, h2, hc] at h
        rw [← h]
        simp [opened, close, hclose hc]
    · simp [h1, hc] at h

theorem opened_contents {filename : String} {recordPerFile : Int} :
    (s.opened filename recordPerFile).file.contents
      (s.opened filename recordPerFile).file.current = [] := by
  simp [opened, LogFile.fopen, LogFile.contents, LogFile.current]

theorem opened_open {filename : String} {recordPerFile : Int} (h : 0 < recordPerFile) :
    (s.opened filename recordPerFile).file.Open where
  pFile := rfl
  count_nonneg := Int.le_refl 0
  count_lt := h
  rotating_nonneg := Int.le_refl 0
  current_length := by
    rw [opened_contents]
    rfl
  rotated_length := by
    intro i hi
    have hi : (i : Int) < 0 := hi
    omega

theorem opened_logContents {filename : String} {recordPerFile : Int} :
    (s.opened filename recordPerFile).file.logContents = [] :=
  (List.nil_append _).trans opened_contents

theorem runFlushInNewThread_cases {created scheduled : Bool} {timeInMs : Int}
    (h : s.runFlushInNewThread created scheduled timeInMs = (0, t)) :
    t = { s with isThreadReady := true } := by
  unfold runFlushInNewThread at h
  split at h
  · simp at h
  · split at h
    · simp at h
    · split at h
      · simp at h
      · cases h
        rfl

end HexrotPxiCom.LogTlm.State
