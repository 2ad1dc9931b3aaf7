import HexrotPxiCom.LogTlm.Creation
import HexrotPxiCom.LogTlm.FlushResult

/-!
# The current buffer over the whole life of the log

Every order of creating and freeing the buffers, opening and closing the file, writing and
flushing, without the thread. The code takes it that the current buffer is buffer 1, buffer 2 or
NULL. Creating the buffers again does not see to that: the pointer is left on a block that is
lost, and the capacity is that of the new ones.
-/

namespace HexrotPxiCom.LogTlm

set_option autoImplicit false

open State

universe u
variable {ρ : Type u}

namespace LogFile
variable {f : LogFile ρ} (io : Stdio) (size : Nat) (pBuffer : List ρ) {n : Int}

/-- A flush keeps the count of the current file below its maximum, or closes it. -/
theorem flushToFile_count (hf : f.pFile ≠ none) (hcount : 0 ≤ f.countFile)
    (hroom : f.countFile < f.countFileMax) (hn : 0 ≤ n) (hmax : n ≤ f.countFileMax) :
    (f.flushToFile io size pBuffer n).pFile = none ∨
      0 ≤ (f.flushToFile io size pBuffer n).countFile ∧
      (f.flushToFile io size pBuffer n).countFile < f.countFileMax ∧
      (f.flushToFile io size pBuffer n).countFileMax = f.countFileMax := by
  generalize hg : f.flushToFile io size pBuffer n = g
  have hflushed := flushToFile_flushed io size pBuffer n hf
  rw [hg] at hflushed
  cases hflushed with
  | closed g hclosed => exact Or.inl hclosed
  | short _ hlt =>
    apply Or.inr
    simp only [append_countFileMax, and_true]
    omega
  | boundary _ heq =>
    apply Or.inr
    simp only [rotateTo_countFileMax, append_countFileMax, and_true]
    omega
  | across hgt =>
    apply Or.inr
    simp only [rotateTo_countFileMax, append_countFileMax, and_true]
    omega

end LogFile

/-- A call of the log; the allocations succeed. -/
inductive LogCall (ρ : Type u) where
  | createBuffer (mutexInit : Bool) (sizeBuffer : Int) (sizeElement : Nat)
  | openLog (env : Env) (filename : String) (recordPerFile : Int)
  | write (env : Env) (pData : ρ)
  | flush (env : Env)
  | close (fclose : CloseResult)
  | freeBuffer
  deriving Repr, DecidableEq

/-- The state after a call. -/
def State.after [Inhabited ρ] (s : State ρ) : LogCall ρ → State ρ
  | .createBuffer mutexInit sizeBuffer sizeElement =>
    (s.createBuffer { mutexInit := mutexInit } sizeBuffer sizeElement).2
  | .openLog env filename recordPerFile => (s.openLog env filename recordPerFile).2
  | .write env pData => (s.write env pData).2
  | .flush env => (s.flush env).2
  | .close fclose => (s.close fclose).2
  | .freeBuffer => s.freeBuffer

def State.step [Inhabited ρ] (s : State ρ) (c : LogCall ρ) : Option (State ρ) := some (s.after c)

/-- What the code takes for granted: the current buffer is one of the two, the next record is
copied to its block, and the file is not overfull. -/
structure CurrentBuffer (s : State ρ) : Prop where
  current : ∀ p, s.pBufferCurrent = some p → s.pBuffer1 = some p ∨ s.pBuffer2 = some p
  live : ∀ p, s.pBufferCurrent = some p → 0 < (s.heap p).size
  counted : s.pBufferCurrent ≠ none → 0 ≤ s.countBufferCurrent
  inside : ∀ p, s.pBufferCurrent = some p → s.countBufferCurrent < s.countBufferMax →
    (s.countBufferCurrent + 1) * s.sizeElementInBuffer ≤ (s.heap p).size
  file : s.file.pFile ≠ none → 0 ≤ s.file.countFile ∧ s.file.countFile ≤ s.file.countFileMax

/-- Buffers are created while no buffer is in use. When the mutex fails then, the counters stay as
they are, and the new buffers must have room for them. -/
def Unused (s : State ρ) : LogCall ρ → Prop
  | .createBuffer mutexInit n size => n ≤ 0 ∨ size = 0 ∨
    (s.pBufferCurrent = none ∧
      (mutexInit = true ∨ s.countBufferMax * s.sizeElementInBuffer ≤ n * size))
  | _ => True

instance (s : State ρ) : ∀ c : LogCall ρ, Decidable (Unused s c)
  | .createBuffer _ _ _ => inferInstanceAs (Decidable (_ ∨ _ ∨ (_ ∧ (_ ∨ _))))
  | .openLog _ _ _ => .isTrue trivial
  | .write _ _ => .isTrue trivial
  | .flush _ => .isTrue trivial
  | .close _ => .isTrue trivial
  | .freeBuffer => .isTrue trivial

/-- What holds between two calls. -/
structure Sound (s : State ρ) : Prop where
  noThread : s.isThreadReady = false
  current : ∀ p, s.pBufferCurrent = some p → s.pBuffer1 = some p
  live : ∀ p, s.pBuffer1 = some p → 0 < (s.heap p).size
  fits : ∀ p, s.pBuffer1 = some p →
    s.countBufferMax * s.sizeElementInBuffer ≤ (s.heap p).size
  max_nonneg : 0 ≤ s.countBufferMax
  counted : s.pBufferCurrent ≠ none →
    0 ≤ s.countBufferCurrent ∧ s.countBufferCurrent ≤ s.countBufferMax
  file : s.file.pFile ≠ none → 0 ≤ s.file.countFile ∧ s.file.countFile < s.file.countFileMax
  fileMax : s.file.pFile ≠ none → s.pBufferCurrent ≠ none →
    s.countBufferMax ≤ s.file.countFileMax

namespace Sound
variable {s : State ρ}

theorem initial : Sound (State.initial : State ρ) where
  noThread := rfl
  current := by
    intro p hp
    cases hp
  live := by
    intro p hp
    cases hp
  fits := by
    intro p hp
    cases hp
  max_nonneg := Int.le_refl 0
  counted := fun h => absurd rfl h
  file := fun h => absurd rfl h
  fileMax := fun h => absurd rfl h

theorem currentBuffer (h : Sound s) : CurrentBuffer s where
  current := fun p hp => Or.inl (h.current p hp)
  live := fun p hp => h.live p (h.current p hp)
  counted := fun hne => (h.counted hne).1
  inside := by
    intro p hp hlt
    have hle : (s.countBufferCurrent + 1) * s.sizeElementInBuffer ≤
        s.countBufferMax * s.sizeElementInBuffer :=
      Int.mul_le_mul_of_nonneg_right hlt (Int.natCast_nonneg _)
    exact Int.le_trans hle (h.fits p (h.current p hp))
  file := fun hne => ⟨(h.file hne).1, Int.le_of_lt (h.file hne).2⟩

theorem withFile (h : Sound s) {file : LogFile ρ} (hfile : file.pFile = none ∨ file = s.file) :
    Sound { s with file := file } := by
  obtain hnone | rfl := hfile
  · exact ⟨h.noThread, h.current, h.live, h.fits, h.max_nonneg, h.counted,
      fun hne => absurd hnone hne, fun hne => absurd hnone hne⟩
  · exact h

/-- The pointers are unset, and the rest but the blocks stays. -/
theorem freeBuffer_eq (s : State ρ) : ∃ heap, s.freeBuffer = { s with
    pBuffer1 := none
    pBuffer2 := none
    pBufferCurrent := none
    heap := heap } := by
  unfold State.freeBuffer State.freeBlock
  cases s.pBuffer1 <;> cases s.pBuffer2 <;> exact ⟨_, rfl⟩

theorem freeBuffer (h : Sound s) : Sound s.freeBuffer := by
  obtain ⟨heap, heq⟩ := freeBuffer_eq s
  rw [heq]
  refine ⟨h.noThread, ?_, ?_, ?_, h.max_nonneg, fun hne => absurd rfl hne, h.file,
    fun _ hne => absurd rfl hne⟩
  · intro p hp
    cases hp
  · intro p hp
    cases hp
  · intro p hp
    cases hp

theorem created [Inhabited ρ] (h : Sound s) (hunused : s.pBufferCurrent = none) {b1 b2 : Option Nat}
    {heap : Nat → Block ρ} {allocated size : Nat} {n : Int} (hn : 0 ≤ n)
    (hblock : ∀ p, b1 = some p → 0 < (heap p).size ∧ n * size ≤ (heap p).size) :
    Sound { s with
      pBuffer1 := b1
      pBuffer2 := b2
      heap := heap
      allocated := allocated
      countBufferMax := n
      sizeElementInBuffer := size } := by
  have hnot : ∀ p, s.pBufferCurrent ≠ some p := by
    intro p hp
    rw [hunused] at hp
    cases hp
  exact ⟨h.noThread, fun p hp => absurd hp (hnot p), fun p hp => (hblock p hp).1,
    fun p hp => (hblock p hp).2, hn, fun hne => absurd hunused hne, h.file,
    fun _ hne => absurd hunused hne⟩

theorem createBuffer [Inhabited ρ] (h : Sound s) (mutexInit : Bool) (n : Int) (size : Nat)
    (hunused : Unused s (.createBuffer mutexInit n size)) :
    Sound (s.createBuffer { mutexInit := mutexInit } n size).2 := by
  by_cases hsizes : n ≤ 0 ∨ size ≤ 0
  · rw [State.createBuffer, if_pos hsizes]
    exact h
  · obtain ⟨hcurrent, hroom⟩ : s.pBufferCurrent = none ∧
        (mutexInit = true ∨ s.countBufferMax * s.sizeElementInBuffer ≤ n * size) := by
      rcases hunused with hn | hsize | hunused
      · exact absurd (Or.inl hn) hsizes
      · exact absurd (Or.inr (Nat.le_of_eq hsize)) hsizes
      · exact hunused
    have hn : 0 < n := by omega
    have hsize : 0 < size := by omega
    have hbytes : ((n.toNat * size : Nat) : Int) = n * size := by
      push_cast
      rw [Int.toNat_of_nonneg (Int.le_of_lt hn)]
    have hpos : 0 < n.toNat * size := Nat.mul_pos (by omega) hsize
    by_cases hfits : callocs true n size
    · -- the blocks have room for the new counters and for those that stay
      have hblock (m : Int) (size' : Nat) (hle : m * size' ≤ n * size) : ∀ p,
          some s.allocated = some p →
          0 < (((s.addBlock n size).addBlock n size).heap p).size ∧
            m * size' ≤ (((s.addBlock n size).addBlock n size).heap p).size := by
        intro p hp
        cases hp
        have hheap : ((s.addBlock n size).addBlock n size).heap s.allocated =
            ⟨n.toNat * size, List.replicate n.toNat default⟩ := by
          simp [State.addBlock]
        rw [hheap]
        refine ⟨hpos, ?_⟩
        rw [hbytes]
        exact hle
      rw [createBuffer_both hn hsize hfits hfits]
      cases mutexInit with
      | true =>
        exact h.created hcurrent (Int.le_of_lt hn) (hblock n size (Int.le_refl _))
      | false =>
        have hroom := hroom.resolve_left (by decide)
        exact h.created hcurrent h.max_nonneg
          (hblock s.countBufferMax s.sizeElementInBuffer hroom)
    · rw [createBuffer_first_failed hn hsize hfits]
      cases mutexInit with
      | true =>
        refine h.created hcurrent (Int.le_of_lt hn) ?_
        intro p hp
        cases hp
      | false =>
        refine h.created hcurrent h.max_nonneg ?_
        intro p hp
        cases hp

/-- A file is opened only for at least as many records as the buffer holds. -/
theorem opened (h : Sound s) (filename : String) {recordPerFile : Int} (hpos : 0 < recordPerFile)
    (hle : s.countBufferMax ≤ recordPerFile) : Sound (s.opened filename recordPerFile) where
  noThread := h.noThread
  current := fun _ hp => hp
  live := h.live
  fits := h.fits
  max_nonneg := h.max_nonneg
  counted := fun _ => ⟨Int.le_refl 0, h.max_nonneg⟩
  file := fun _ => ⟨Int.le_refl 0, hpos⟩
  fileMax := fun _ _ => hle

theorem openLog_refused {env : Env} {filename : String} {recordPerFile : Int}
    (hrefused : (s.openLog env filename recordPerFile).1 ≠ 0) :
    ∃ file, (s.openLog env filename recordPerFile).2 = { s with file := file } ∧
      (file.pFile = none ∨ file = s.file) := by
  unfold State.openLog at *
  by_cases hcount : recordPerFile ≤ 0 ∨ recordPerFile < s.countBufferMax
  · rw [if_pos hcount]
    exact ⟨s.file, rfl, Or.inr rfl⟩
  · rw [if_neg hcount] at hrefused ⊢
    by_cases hflushing : s.isFlushing env.tryLock = true
    · rw [if_pos hflushing]
      exact ⟨s.file, rfl, Or.inr rfl⟩
    · rw [if_neg hflushing] at hrefused ⊢
      by_cases hclose : (s.close env.stdio.fclose).1 ≠ 0
      · rw [if_pos hclose]
        exact ⟨_, rfl, Or.inl (LogFile.close_pFile _)⟩
      · rw [if_neg hclose] at hrefused ⊢
        cases hopen : env.stdio.fopen with
        | false => exact ⟨_, rfl, Or.inl (LogFile.close_pFile _)⟩
        | true =>
          rw [hopen] at hrefused
          exact absurd rfl hrefused

theorem openLog (h : Sound s) (env : Env) (filename : String) (recordPerFile : Int) :
    Sound (s.openLog env filename recordPerFile).2 := by
  by_cases hok : (s.openLog env filename recordPerFile).1 = 0
  · have hsplit : s.openLog env filename recordPerFile =
        (0, (s.openLog env filename recordPerFile).2) := Prod.ext hok rfl
    obtain ⟨hpos, hle, heq⟩ := State.openLog_cases hsplit
    rw [heq]
    exact h.opened filename hpos hle
  · obtain ⟨file, heq, hfile⟩ := openLog_refused hok
    rw [heq]
    exact h.withFile hfile

theorem flush (h : Sound s) (env : Env) : Sound (s.flush env).2 := by
  unfold State.flush
  by_cases hidle : s.file.pFile = none ∨ s.pBufferCurrent = none
  · rw [if_pos hidle]
    exact h
  · rw [if_neg hidle, h.noThread]
    obtain ⟨hfile, hbuffer⟩ := not_or.mp hidle
    obtain ⟨hnonneg, hle⟩ := h.counted hbuffer
    obtain ⟨hcount, hroom⟩ := h.file hfile
    have hmax := h.fileMax hfile hbuffer
    have hflush := LogFile.flushToFile_count env.stdio s.sizeElementInBuffer
      (s.cellsAt s.pBufferCurrent) hfile hcount hroom hnonneg (Int.le_trans hle hmax)
    refine ⟨h.noThread, h.current, h.live, h.fits, h.max_nonneg,
      fun _ => ⟨Int.le_refl 0, h.max_nonneg⟩, ?_, ?_⟩
    · intro hne
      obtain hnone | ⟨hcount', hroom', hmax'⟩ := hflush
      · exact absurd hnone hne
      · exact ⟨hcount', hmax'.symm ▸ hroom'⟩
    · intro hne _
      obtain hnone | ⟨_, _, hmax'⟩ := hflush
      · exact absurd hnone hne
      · exact Int.le_trans hmax (Int.le_of_eq hmax'.symm)

theorem copyRecord_size (r : ρ) (q : Nat) : ((s.copyRecord r).heap q).size = (s.heap q).size := by
  unfold State.copyRecord
  split
  · rfl
  · rename_i p hp
    by_cases hq : q = p
    · subst hq
      simp [Block.set]
    · simp [hq]

theorem copyRecord (h : Sound s) (r : ρ) (hnonneg : 0 ≤ s.countBufferCurrent)
    (hlt : s.countBufferCurrent < s.countBufferMax) :
    Sound { s.copyRecord r with countBufferCurrent := s.countBufferCurrent + 1 } := by
  refine ⟨?_, ?_, ?_, ?_, ?_, ?_, ?_, ?_⟩
  · simpa using h.noThread
  · simpa using h.current
  · simpa [copyRecord_size] using h.live
  · simpa [copyRecord_size] using h.fits
  · simpa using h.max_nonneg
  · intro _
    dsimp only
    rw [State.copyRecord_countBufferMax]
    omega
  · simpa using h.file
  · simpa using h.fileMax

theorem write (h : Sound s) (env : Env) (r : ρ) : Sound (s.write env r).2 := by
  unfold State.write
  by_cases hidle : s.pBufferCurrent = none ∨ s.file.pFile = none
  · rw [if_pos hidle]
    exact h
  · rw [if_neg hidle]
    obtain ⟨hnonneg, -⟩ := h.counted (not_or.mp hidle).1
    dsimp only
    generalize hcopy : (if s.countBufferCurrent < s.countBufferMax then
      { s.copyRecord r with countBufferCurrent := s.countBufferCurrent + 1 } else s) = t
    have ht : Sound t := by
      rw [← hcopy]
      by_cases hlt : s.countBufferCurrent < s.countBufferMax
      · rw [if_pos hlt]
        exact h.copyRecord r hnonneg hlt
      · rw [if_neg hlt]
        exact h
    by_cases hmore : t.countBufferCurrent < t.countBufferMax
    · rw [if_pos hmore]
      exact ht
    · rw [if_neg hmore, ht.noThread]
      exact ht.flush env

theorem after [Inhabited ρ] (h : Sound s) {c : LogCall ρ} (hunused : Unused s c) :
    Sound (s.after c) := by
  cases c with
  | createBuffer mutexInit n size => exact h.createBuffer mutexInit n size hunused
  | openLog env filename recordPerFile => exact h.openLog env filename recordPerFile
  | write env r => exact h.write env r
  | flush env => exact h.flush env
  | close fclose => exact h.withFile (Or.inl (LogFile.close_pFile fclose))
  | freeBuffer => exact h.freeBuffer

end Sound

/-- Over every sequence of calls: as long as buffers are created only while none is in use, the
current buffer is what the code takes it for. -/
theorem currentBuffer_of_unused [Inhabited ρ] {calls : List (LogCall ρ)} {s : State ρ}
    (hrun : Runs.run State.step State.initial calls = some s)
    (hunused : Runs.Guarded State.step Unused State.initial calls) : CurrentBuffer s := by
  refine Sound.currentBuffer (Runs.Guarded.invariant ?_ hunused hrun Sound.initial)
  intro s c t hs hc hstep
  cases hstep
  exact hs.after hc

/-- Two lives of the log, the second with larger buffers. -/
def twoLives : List (LogCall Nat) :=
  [.createBuffer true 1 8, .openLog {} "log" 4, .write {} 10, .flush {}, .close .done, .freeBuffer,
    .createBuffer true 4 8, .openLog {} "log" 4, .write {} 11]

theorem currentBuffer_twoLives : ∃ s : State Nat,
    Runs.run State.step State.initial twoLives = some s ∧ s.pBufferCurrent = some 2 ∧
      CurrentBuffer s := by
  have hrun : Runs.run State.step State.initial twoLives = some _ := rfl
  exact ⟨_, hrun, rfl, currentBuffer_of_unused hrun (by decide)⟩

/-- Buffers of four records are created while the buffer of one is in use: it is neither of them,
and after one write the next record is copied behind its eight bytes. -/
def createdAgain : List (LogCall Nat) :=
  [.createBuffer true 1 8, .openLog {} "log" 4, .createBuffer true 4 8, .write {} 10]

theorem createdAgain_not_currentBuffer : ∃ s : State Nat,
    Runs.run State.step State.initial createdAgain = some s ∧ s.pBufferCurrent = some 0 ∧
      s.pBuffer1 = some 2 ∧ s.pBuffer2 = some 3 ∧ s.countBufferCurrent = 1 ∧
      s.countBufferMax = 4 ∧ (s.heap 0).size = 8 ∧ ¬ CurrentBuffer s := by
  have hrun : Runs.run State.step State.initial createdAgain = some _ := rfl
  refine ⟨_, hrun, rfl, rfl, rfl, rfl, rfl, rfl, ?_⟩
  intro h
  obtain h1 | h2 := h.current 0 rfl
  · cases h1
  · cases h2

end HexrotPxiCom.LogTlm
