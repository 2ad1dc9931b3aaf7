import HexrotPxiCom.LogTlm.Setup

/-!
# The two record buffers and the open file

The geometry that the calls of a running log leave as it is, and what the flush of a full
buffer does to the log files when stdio succeeds.
-/

namespace HexrotPxiCom.LogTlm.State

set_option autoImplicit false

universe u
variable {ρ : Type u} {n recordPerFile : Int} {size p q : Nat} {s t : State ρ}

/-- Two buffers `p` and `q` of `n` slots, and an open file that takes `n` records. -/
structure Buffers (n : Int) (size : Nat) (recordPerFile : Int) (p q : Nat) (s : State ρ) :
    Prop where
  buffer1 : s.pBuffer1 = some p
  buffer2 : s.pBuffer2 = some q
  distinct : p ≠ q
  count_pos : 0 < n
  size_pos : 0 < size
  fits : n * size < sizeTRange
  n_le : n ≤ recordPerFile
  countBufferMax : s.countBufferMax = n
  sizeElement : s.sizeElementInBuffer = size
  length1 : ((s.heap p).cells.length : Int) = n
  length2 : ((s.heap q).cells.length : Int) = n
  opened : s.file.Open
  fileMax : s.file.countFileMax = recordPerFile

/-- What `Buffers` is about. -/
def storage (s : State ρ) :
    LogFile ρ × Option Nat × Option Nat × (Nat → Block ρ) × Int × Nat :=
  (s.file, s.pBuffer1, s.pBuffer2, s.heap, s.countBufferMax, s.sizeElementInBuffer)

theorem storage_eq (h : t.storage = s.storage) :
    t.file = s.file ∧ t.pBuffer1 = s.pBuffer1 ∧ t.pBuffer2 = s.pBuffer2 ∧ t.heap = s.heap ∧
      t.countBufferMax = s.countBufferMax ∧ t.sizeElementInBuffer = s.sizeElementInBuffer := by
  simpa only [storage, Prod.mk.injEq] using h

namespace Buffers

theorem of_eq (h : Buffers n size recordPerFile p q s) (heq : t.storage = s.storage) :
    Buffers n size recordPerFile p q t := by
  obtain ⟨hfile, h1, h2, hheap, hmax, hsize⟩ := storage_eq heq
  refine ⟨h1.trans h.buffer1, h2.trans h.buffer2, h.distinct, h.count_pos, h.size_pos, h.fits,
    h.n_le, hmax.trans h.countBufferMax, hsize.trans h.sizeElement, ?_, ?_, ?_, ?_⟩
  · rw [hheap]
    exact h.length1
  · rw [hheap]
    exact h.length2
  · rw [hfile]
    exact h.opened
  · rw [hfile]
    exact h.fileMax

theorem copyRecord (h : Buffers n size recordPerFile p q s) (r : ρ) :
    Buffers n size recordPerFile p q (s.copyRecord r) where
  buffer1 := (copyRecord_pBuffer1 r).trans h.buffer1
  buffer2 := (copyRecord_pBuffer2 r).trans h.buffer2
  distinct := h.distinct
  count_pos := h.count_pos
  size_pos := h.size_pos
  fits := h.fits
  n_le := h.n_le
  countBufferMax := (copyRecord_countBufferMax r).trans h.countBufferMax
  sizeElement := (copyRecord_sizeElementInBuffer r).trans h.sizeElement
  length1 := by
    rw [copyRecord_cells_length]
    exact h.length1
  length2 := by
    rw [copyRecord_cells_length]
    exact h.length2
  opened := by
    rw [copyRecord_file]
    exact h.opened
  fileMax := by
    rw [copyRecord_file]
    exact h.fileMax

theorem length_eq (h : Buffers n size recordPerFile p q s) {r : Nat} (hr : r = p ∨ r = q) :
    ((s.heap r).cells.length : Int) = n := by
  rcases hr with rfl | rfl
  · exact h.length1
  · exact h.length2

/-- A full buffer goes to the log files as a whole. -/
theorem flush_full (h : Buffers n size recordPerFile p q s) {io : Stdio} (hio : io.Success)
    (hnumber : s.file.CanNumber s.countBufferMax) {r : Nat} (hr : r = p ∨ r = q) :
    Buffers n size recordPerFile p q (s.flushToFile io (some r) s.countBufferMax) ∧
      (s.flushToFile io (some r) s.countBufferMax).file.logContents =
        s.file.logContents ++ (s.heap r).cells ∧
      (s.flushToFile io (some r) s.countBufferMax).file.total = s.file.total + n := by
  have hlen := h.length_eq hr
  have hmax := h.countBufferMax
  have hsize := h.sizeElement
  have hle := h.n_le
  have hfull : (s.heap r).cells.take s.countBufferMax.toNat = (s.heap r).cells := by
    apply List.take_of_length_le
    omega
  rcases LogFile.flushToFile_cases io s.sizeElementInBuffer (s.heap r).cells s.countBufferMax
    h.opened (by rw [hmax]; exact h.count_pos) (by rw [hmax, h.fileMax]; exact hle) (by omega)
    (by rw [hsize]; exact h.size_pos) (by rw [hmax, hsize]; exact h.fits)
    (fun _ => hnumber) with
    ⟨_, hbad⟩ | ⟨hopen, hlog, hcount, htotal⟩
  · exact absurd hio hbad
  · rw [hfull] at hlog
    rw [hmax] at htotal
    refine ⟨?_, hlog, by rw [← htotal, hmax]; rfl⟩
    exact ⟨h.buffer1, h.buffer2, h.distinct, h.count_pos, h.size_pos, h.fits, hle, hmax, hsize,
      h.length1, h.length2, hopen, hcount.trans h.fileMax⟩

/-- What is in the current buffer goes to the log files by `logTlm_flush`. -/
theorem flush_current (h : Buffers n size recordPerFile p q s) {env : Env} (henv : env.Success)
    {r : Nat} (hr : r = p ∨ r = q) (hcur : s.pBufferCurrent = some r)
    (hfull1 : s.isFullBuffer1 = false) (hfull2 : s.isFullBuffer2 = false)
    (hpos : 0 < s.countBufferCurrent) (hle : s.countBufferCurrent ≤ n)
    (hnumber : s.file.CanNumber s.countBufferCurrent) :
    (s.flush env).1 = 0 ∧ (s.flush env).2.file.logContents =
      s.file.logContents ++ (s.heap r).cells.take s.countBufferCurrent.toNat := by
  have hlen := h.length_eq hr
  have hsize := h.sizeElement
  have hnle := h.n_le
  have hfile : s.file.pFile ≠ none := by simp [h.opened.pFile]
  have hidle : (s.isThreadReady && s.isFlushing env.tryLock) = false := by
    simp [isFlushing, henv.1, hfull1, hfull2]
  have hflush : s.flush env = (0, { s.flushToFile env.stdio (some r) s.countBufferCurrent with
      countBufferCurrent := 0 }) := by
    simp [State.flush, hcur, hfile, hidle]
  have hfit : s.countBufferCurrent * s.sizeElementInBuffer < sizeTRange := by
    rw [hsize]
    exact mul_lt_sizeTRange hle h.fits
  rw [hflush]
  refine ⟨rfl, ?_⟩
  rcases LogFile.flushToFile_cases env.stdio s.sizeElementInBuffer (s.heap r).cells
    s.countBufferCurrent h.opened hpos (by rw [h.fileMax]; omega) (by omega)
    (by rw [hsize]; exact h.size_pos) hfit (fun _ => hnumber) with ⟨_, hbad⟩ | ⟨_, hlog, _⟩
  · exact absurd henv.2 hbad
  · exact hlog

theorem opened_of_create [Inhabited ρ] {alloc : Alloc} {env : Env} {filename : String}
    {created scheduled : Bool} {timeInMs : Int} {s₀ s₁ s₂ s₃ : State ρ}
    (hcreate : s₀.createBuffer alloc n size = (0, s₁)) (hbuffer : s₁.pBuffer1 ≠ none)
    (hopen : s₁.openLog env filename recordPerFile = (0, s₂))
    (hthread : s₂.runFlushInNewThread created scheduled timeInMs = (0, s₃)) :
    ∃ p q, Buffers n size recordPerFile p q s₃ := by
  obtain ⟨hall, -⟩ := createBuffer_allocated hcreate
  obtain ⟨hfit, p, q, hpq, hp, hq, hlp, hlq⟩ := hall.both hbuffer
  obtain ⟨hpos, hle, rfl⟩ := openLog_cases hopen
  obtain rfl := runFlushInNewThread_cases hthread
  rw [hall.countBufferMax] at hle
  exact ⟨p, q, hp, hq, hpq, hall.count_pos, hall.size_pos, hfit, hle, hall.countBufferMax,
    hall.sizeElement, hlp, hlq, opened_open hpos, rfl⟩

end Buffers

end HexrotPxiCom.LogTlm.State
