import HexrotPxiCom.Lib.Runs
import HexrotPxiCom.LogTlm.Setup
import Mathlib.Algebra.Group.Nat.Defs

/-!
# The telemetry log without its thread

Any sequence of `logTlm_write` and `logTlm_flush` calls after a successful `logTlm_open`,
with any answers of stdio. While the file stays open, the rotated files, the current file
and the filled part of the current buffer hold exactly the accepted records, in order. This
ends with the numbers: `countRotatingFile` is an `int`.
-/

namespace HexrotPxiCom.LogTlm

set_option autoImplicit false

universe u
variable {ρ : Type u}

open State

inductive Call (ρ : Type u) where
  | write (env : Env) (pData : ρ)
  | flush (env : Env)

/-- The globals, and the records whose `logTlm_write` returned 0. -/
structure Session (ρ : Type u) where
  state : State ρ
  accepted : List ρ

def Session.step (s : Session ρ) : Call ρ → Option (Session ρ)
  | .write env pData =>
    let w := s.state.write env pData
    some ⟨w.2, if w.1 = 0 then s.accepted ++ [pData] else s.accepted⟩
  | .flush env => some ⟨(s.state.flush env).2, s.accepted⟩

/-- The flush that this call makes finds a number for the file that it fills. -/
def Session.Numbered (s : Session ρ) : Call ρ → Prop
  | .write env _ => s.state.file.pFile ≠ none →
      s.state.countBufferCurrent + 1 = s.state.countBufferMax → env.stdio.Renames →
      s.state.file.CanNumber s.state.countBufferMax
  | .flush env => s.state.file.pFile ≠ none → env.stdio.Renames →
      s.state.file.CanNumber s.state.countBufferCurrent

instance (s : Session ρ) : ∀ a, Decidable (s.Numbered a)
  | .write _ _ => inferInstanceAs (Decidable (_ → _ → _ → _))
  | .flush _ => inferInstanceAs (Decidable (_ → _ → _))

/-- The log files and the first `countBufferCurrent` slots of the current buffer hold
exactly the records of `acc`. -/
structure Holds (n : Int) (size : Nat) (recordPerFile : Int) (s : State ρ) (acc : List ρ) :
    Prop where
  noThread : s.isThreadReady = false
  allocated : s.Allocated n size
  n_le : n ≤ recordPerFile
  opened : s.file.Open
  fileMax : s.file.countFileMax = recordPerFile
  current : s.pBufferCurrent = s.pBuffer1
  count_nonneg : 0 ≤ s.countBufferCurrent
  count_le : s.countBufferCurrent ≤ n
  records : s.file.logContents ++
    (s.cellsAt s.pBufferCurrent).take s.countBufferCurrent.toNat = acc

section
variable {n recordPerFile : Int} {size : Nat} {s : State ρ} {acc : List ρ}

theorem Holds.cells_length (h : Holds n size recordPerFile s acc) {p : Nat}
    (hp : s.pBufferCurrent = some p) :
    ((s.heap p).cells.length : Int) = n ∧ n * size < sizeTRange := by
  have h1 : s.pBuffer1 = some p := h.current ▸ hp
  obtain ⟨hfit, a, b, _, ha, _, hlen, _⟩ := h.allocated.both (by simp [h1])
  have hpa : p = a := Option.some.inj (h1.symm.trans ha)
  exact ⟨hpa ▸ hlen, hfit⟩

theorem Holds.copy (h : Holds n size recordPerFile s acc) {p : Nat}
    (hp : s.pBufferCurrent = some p) (hlt : s.countBufferCurrent < n) (pData : ρ) :
    Holds n size recordPerFile
      { s.copyRecord pData with countBufferCurrent := s.countBufferCurrent + 1 }
      (acc ++ [pData]) := by
  obtain ⟨hlen, -⟩ := h.cells_length hp
  have hnonneg := h.count_nonneg
  refine ⟨by simpa using h.noThread, h.allocated.copyRecord pData, h.n_le, ?_, ?_, ?_, ?_, ?_, ?_⟩
  · simpa using h.opened
  · simpa using h.fileMax
  · simpa using h.current
  · change 0 ≤ s.countBufferCurrent + 1
    omega
  · change s.countBufferCurrent + 1 ≤ n
    omega
  · have hrec := h.records
    rw [hp, cellsAt_some] at hrec
    have htake := copyRecord_take pData hp hnonneg (by omega)
    change (s.copyRecord pData).file.logContents ++
      ((s.copyRecord pData).cellsAt (s.copyRecord pData).pBufferCurrent).take
        (s.countBufferCurrent + 1).toNat = _
    rw [copyRecord_pBufferCurrent, copyRecord_file, hp, cellsAt_some, htake,
      ← List.append_assoc, hrec]

/-- A flush empties the current buffer into the log, or closes the file. -/
theorem Holds.flush (h : Holds n size recordPerFile s acc) (env : Env)
    (hnumber : env.stdio.Renames → s.file.CanNumber s.countBufferCurrent) :
    (s.flush env).2.file.pFile = none ∨
    (Holds n size recordPerFile (s.flush env).2 acc ∧
      (s.pBufferCurrent ≠ none → (s.flush env).2.countBufferCurrent = 0) ∧
      (s.pBufferCurrent = none → (s.flush env).2 = s)) := by
  have hopen : s.file.pFile ≠ none := by simp [h.opened.pFile]
  cases hp : s.pBufferCurrent with
  | none => exact Or.inr ⟨by simpa [State.flush, hp] using h, by simp, by simp [State.flush, hp]⟩
  | some p =>
    obtain ⟨hlen, hfit⟩ := h.cells_length hp
    have heq : (s.flush env).2 =
        { s.flushToFile env.stdio (some p) s.countBufferCurrent with countBufferCurrent := 0 } := by
      simp [State.flush, hp, hopen, h.noThread]
    rw [heq]
    rcases Int.lt_or_eq_of_le h.count_nonneg with hpos | hzero
    · have hle := h.count_le
      have hfit' : s.countBufferCurrent * s.sizeElementInBuffer < sizeTRange := by
        rw [h.allocated.sizeElement]
        exact mul_lt_sizeTRange hle hfit
      have hmax : s.countBufferCurrent ≤ s.file.countFileMax := by
        rw [h.fileMax]
        exact Int.le_trans hle h.n_le
      have hsize : 0 < s.sizeElementInBuffer := by
        rw [h.allocated.sizeElement]
        exact h.allocated.size_pos
      rcases LogFile.flushToFile_cases env.stdio s.sizeElementInBuffer (s.heap p).cells
        s.countBufferCurrent h.opened hpos hmax (by omega) hsize hfit' hnumber with
        ⟨hnone, _⟩ | ⟨ho, hl, hm, -⟩
      · exact Or.inl hnone
      · refine Or.inr ⟨⟨h.noThread, ?_, h.n_le, ho, hm.trans h.fileMax, hp ▸ h.current,
          Int.le_refl 0, Int.le_of_lt h.allocated.count_pos, ?_⟩, fun _ => rfl, by simp⟩
        · exact ⟨h.allocated.count_pos, h.allocated.size_pos, h.allocated.countBufferMax,
            h.allocated.sizeElement, h.allocated.both⟩
        · have hrec := h.records
          rw [hp] at hrec
          change (s.file.flushToFile _ _ _ _).logContents ++ _ = _
          rw [cellsAt_some, hl]
          simpa using hrec
    · rw [← hzero]
      exact Or.inl (LogFile.flushToFile_zero env.stdio _ _ h.opened)

/-- What a write does to the accepted records: a full buffer is flushed at once. -/
theorem Holds.write (h : Holds n size recordPerFile s acc)
    (hlt : s.countBufferCurrent < n) (env : Env) (pData : ρ)
    (hnumber : s.countBufferCurrent + 1 = s.countBufferMax → env.stdio.Renames →
      s.file.CanNumber s.countBufferMax) :
    (s.write env pData).2.file.pFile = none ∨
    (Holds n size recordPerFile (s.write env pData).2
        (if (s.write env pData).1 = 0 then acc ++ [pData] else acc) ∧
      (s.write env pData).2.countBufferCurrent < n) := by
  have hopen : s.file.pFile ≠ none := by simp [h.opened.pFile]
  cases hp : s.pBufferCurrent with
  | none =>
    have hw : s.write env pData = (-2, s) := by simp [State.write, hp]
    rw [hw]
    exact Or.inr ⟨h, hlt⟩
  | some p =>
    obtain ⟨hlen, -⟩ := h.cells_length hp
    -- the state after the `memcpy` and the increment
    have hcopy : Holds n size recordPerFile
        { s.copyRecord pData with countBufferCurrent := s.countBufferCurrent + 1 }
        (acc ++ [pData]) := h.copy hp hlt pData
    have hroom : s.countBufferCurrent < s.countBufferMax := by
      rw [h.allocated.countBufferMax]
      exact hlt
    rcases Int.lt_or_le (s.countBufferCurrent + 1) s.countBufferMax with hmore | hfull
    · have hw : s.write env pData =
          (0, { s.copyRecord pData with countBufferCurrent := s.countBufferCurrent + 1 }) := by
        simp [State.write, hp, hopen, hroom, hmore]
      rw [hw]
      refine Or.inr ⟨by simpa using hcopy, ?_⟩
      rw [h.allocated.countBufferMax] at hmore
      exact hmore
    · have hw : s.write env pData = (0, (State.flush env
          { s.copyRecord pData with countBufferCurrent := s.countBufferCurrent + 1 }).2) := by
        simp [State.write, hp, hopen, hroom, Int.not_lt.mpr hfull, h.noThread]
      rw [hw]
      have hlast : s.countBufferCurrent + 1 = s.countBufferMax := by omega
      have hnumber' (hio : env.stdio.Renames) :
          (s.copyRecord pData).file.CanNumber (s.countBufferCurrent + 1) := by
        rw [copyRecord_file, hlast]
        exact hnumber hlast hio
      rcases hcopy.flush env hnumber' with hnone | ⟨hh, hzero, -⟩
      · exact Or.inl hnone
      · refine Or.inr ⟨by simpa using hh, ?_⟩
        rw [hzero (by simp [hp])]
        exact h.allocated.count_pos

/-- Between two calls: the file is closed for good, or nothing accepted is missing. -/
def Session.Ok (n : Int) (size : Nat) (recordPerFile : Int) (t : Session ρ) : Prop :=
  t.state.file.pFile = none ∨
    (Holds n size recordPerFile t.state t.accepted ∧ t.state.countBufferCurrent < n)

theorem write_closed (h : s.file.pFile = none) (env : Env) (pData : ρ) :
    s.write env pData = (-2, s) := by
  simp [State.write, h]

theorem flush_closed (h : s.file.pFile = none) (env : Env) : s.flush env = (-1, s) := by
  simp [State.flush, h]

theorem Session.step_ok {t u : Session ρ} {a : Call ρ} (h : t.Ok n size recordPerFile)
    (hnumber : t.Numbered a) (hstep : t.step a = some u) : u.Ok n size recordPerFile := by
  cases a with
  | write env pData =>
    cases hstep
    rcases h with hnone | ⟨hh, hlt⟩
    · apply Or.inl
      change (t.state.write env pData).2.file.pFile = none
      rw [write_closed hnone]
      exact hnone
    · exact hh.write hlt env pData (hnumber (by simp [hh.opened.pFile]))
  | flush env =>
    cases hstep
    rcases h with hnone | ⟨hh, hlt⟩
    · apply Or.inl
      change (t.state.flush env).2.file.pFile = none
      rw [flush_closed hnone]
      exact hnone
    · have hnumber := hnumber (by simp [hh.opened.pFile])
      rcases hh.flush env hnumber with hnone | ⟨hf, hzero, hsame⟩
      · exact Or.inl hnone
      · refine Or.inr ⟨hf, ?_⟩
        change (t.state.flush env).2.countBufferCurrent < n
        cases hp : t.state.pBufferCurrent with
        | none =>
          rw [hsame hp]
          exact hlt
        | some p =>
          rw [hzero (by simp [hp])]
          exact hf.allocated.count_pos

theorem opened_holds {alloc : Alloc} {env : Env} {filename : String} [Inhabited ρ]
    {s₀ s₁ s₂ : State ρ} (hcreate : s₀.createBuffer alloc n size = (0, s₁))
    (hthread : s₀.isThreadReady = false)
    (hopen : s₁.openLog env filename recordPerFile = (0, s₂)) :
    Holds n size recordPerFile s₂ [] ∧ s₂.countBufferCurrent = 0 := by
  obtain ⟨hall, hready⟩ := createBuffer_allocated hcreate
  obtain ⟨hpos, hle, rfl⟩ := openLog_cases hopen
  rw [hall.countBufferMax] at hle
  refine ⟨⟨hready.trans hthread, ?_, hle, opened_open hpos, rfl, rfl, Int.le_refl 0,
    Int.le_of_lt hall.count_pos, ?_⟩, rfl⟩
  · exact ⟨hall.count_pos, hall.size_pos, hall.countBufferMax, hall.sizeElement, hall.both⟩
  · rw [opened_logContents]
    rfl

end

section
variable [Inhabited ρ] {alloc : Alloc} {env : Env} {filename : String}
  {n recordPerFile : Int} {size : Nat} {s₀ s₁ s₂ : State ρ} {calls : List (Call ρ)}
  {t : Session ρ}

/-- As long as no flush runs out of numbers: while the file is open, the rotated files are full,
the current file holds `countFile` records, and the files with the filled part of the buffer hold
the accepted records. -/
theorem rotation_loses_nothing (hcreate : s₀.createBuffer alloc n size = (0, s₁))
    (hthread : s₀.isThreadReady = false)
    (hopen : s₁.openLog env filename recordPerFile = (0, s₂))
    (hnumber : Runs.Guarded Session.step Session.Numbered ⟨s₂, []⟩ calls)
    (hrun : Runs.run Session.step ⟨s₂, []⟩ calls = some t) (hfile : t.state.file.pFile ≠ none) :
    (∀ i : Nat, (i : Int) < t.state.file.countRotatingFile →
      ((t.state.file.contents (t.state.file.rotated i)).length : Int) = recordPerFile) ∧
    ((t.state.file.contents t.state.file.current).length : Int) = t.state.file.countFile ∧
    0 ≤ t.state.file.countFile ∧ t.state.file.countFile < recordPerFile ∧
    t.state.file.rotatedContents ++ t.state.file.contents t.state.file.current ++
      (t.state.cellsAt t.state.pBufferCurrent).take t.state.countBufferCurrent.toNat =
        t.accepted := by
  obtain ⟨hholds, hzero⟩ := opened_holds hcreate hthread hopen
  have hstart : Session.Ok n size recordPerFile (⟨s₂, []⟩ : Session ρ) := by
    refine Or.inr ⟨hholds, ?_⟩
    change s₂.countBufferCurrent < n
    rw [hzero]
    exact hholds.allocated.count_pos
  have hok : t.Ok n size recordPerFile :=
    Runs.Guarded.invariant (fun _ _ _ h hok hs => Session.step_ok h hok hs) hnumber hrun hstart
  rcases hok with hnone | ⟨h, -⟩
  · exact absurd hnone hfile
  · have hmax := h.fileMax
    refine ⟨?_, h.opened.current_length, h.opened.count_nonneg, ?_, h.records⟩
    · intro i hi
      rw [← hmax]
      exact h.opened.rotated_length i hi
    · rw [← hmax]
      exact h.opened.count_lt

end

/-- Three slots of eight bytes and four records per file: the second flush rotates. -/
def threeFour : State Nat :=
  ((State.createBuffer {} 3 8 State.initial).2.openLog {} "log" 4).2

def threeFourCalls : List (Call Nat) :=
  [.write {} 10, .write {} 11, .flush {}, .write {} 12, .write {} 13, .write {} 14, .write {} 15]

theorem rotation_loses_nothing_three_four :
    ∃ t, Runs.run Session.step ⟨threeFour, []⟩ threeFourCalls = some t ∧
      t.accepted = [10, 11, 12, 13, 14, 15] ∧ t.state.file.countRotatingFile = 1 ∧
      t.state.file.rotatedContents ++ t.state.file.contents t.state.file.current ++
        (t.state.cellsAt t.state.pBufferCurrent).take t.state.countBufferCurrent.toNat =
          t.accepted := by
  have hcreate : State.createBuffer {} 3 8 State.initial =
      (0, (State.createBuffer {} 3 8 (State.initial : State Nat)).2) := rfl
  have hopen : (State.createBuffer {} 3 8 (State.initial : State Nat)).2.openLog {} "log" 4 =
      (0, threeFour) := rfl
  have hrun : Runs.run Session.step ⟨threeFour, []⟩ threeFourCalls = some _ := rfl
  refine ⟨_, hrun, by decide, by decide, ?_⟩
  exact (rotation_loses_nothing hcreate rfl hopen (by decide) hrun (by decide)).2.2.2.2

def oneOne : State Nat := ((State.createBuffer {} 1 8 State.initial).2.openLog {} "log" 1).2

/-- Every write fills a file, and `c` is the number of the next one. -/
structure OneByOne (c : Int) (s : State Nat) : Prop where
  noThread : s.isThreadReady = false
  pFile : s.file.pFile = some s.file.current
  empty : s.file.contents s.file.current = []
  fileMax : s.file.countFileMax = 1
  countFile : s.file.countFile = 0
  number : s.file.countRotatingFile = c
  current : s.pBufferCurrent = some 0
  countBufferMax : s.countBufferMax = 1
  countBufferCurrent : s.countBufferCurrent = 0
  sizeElement : s.sizeElementInBuffer = 8

theorem OneByOne.write {c : Int} {s : State Nat} (h : OneByOne c s) (r : Nat) :
    (s.write {} r).1 = 0 ∧ OneByOne (intSucc c) (s.write {} r).2 := by
  have hopen : s.file.pFile ≠ none := by simp [h.pFile]
  obtain ⟨g, hg⟩ : ∃ g, s.file.flushToFile {} 8 ((s.copyRecord r).heap 0).cells 1 = g := ⟨_, rfl⟩
  have hwrite : s.write {} r =
      (0, { s.copyRecord r with file := g, countBufferCurrent := 0 }) := by
    simp [State.write, State.flush, State.flushToFile, h.current, hopen, h.countBufferCurrent,
      h.countBufferMax, h.noThread, h.sizeElement, hg]
  have hflushed := LogFile.flushToFile_flushed {} 8 ((s.copyRecord r).heap 0).cells 1 hopen
  rw [hg] at hflushed
  have hmax := h.fileMax
  have hcount := h.countFile
  rw [hwrite]
  refine ⟨rfl, ?_⟩
  cases hflushed with
  | closed _ _ hfail =>
    refine absurd (by decide) (hfail ?_ fun hgt => ?_)
    · rw [hmax, hcount]
      decide
    · omega
  | short _ hlt => omega
  | across hgt => omega
  | boundary =>
    refine ⟨?_, rfl, ?_, ?_, rfl, ?_, ?_, ?_, rfl, ?_⟩
    · simpa using h.noThread
    · change (LogFile.rotateTo _).contents (LogFile.rotateTo _).current = []
      rw [LogFile.rotateTo_current, LogFile.rotateTo_contents_current]
    · simpa using hmax
    · simp [h.number]
    · simpa using h.current
    · simpa using h.countBufferMax
    · simpa using h.sizeElement

theorem oneOne_oneByOne : OneByOne 0 oneOne := by
  constructor <;> rfl

theorem oneByOne_run (r k : Nat) : ∃ t, Runs.run Session.step ⟨oneOne, []⟩
      (List.replicate k (.write {} r)) = some t ∧
    t.accepted = List.replicate k r ∧ OneByOne (intSucc^[k] 0) t.state := by
  induction k with
  | zero => exact ⟨_, rfl, rfl, oneOne_oneByOne⟩
  | succ k ih =>
    obtain ⟨t, hrun, hacc, ht⟩ := ih
    obtain ⟨hcode, hnext⟩ := ht.write r
    have hlast : Runs.run Session.step t [.write {} r] =
        some ⟨(t.state.write {} r).2, t.accepted ++ [r]⟩ := by
      simp [Runs.run, Session.step, hcode]
    refine ⟨⟨(t.state.write {} r).2, t.accepted ++ [r]⟩, ?_, ?_, ?_⟩
    · rw [List.replicate_succ']
      exact Runs.run_append_eq_some.mpr ⟨t, hrun, hlast⟩
    · rw [hacc, List.replicate_succ']
    · rw [Function.iterate_succ_apply']
      exact hnext

/-- The rotation number 2^31 leaves no file that `countRotatingFile` counts. -/
theorem rotation_runs_out_of_numbers : ∃ t,
    Runs.run Session.step ⟨oneOne, []⟩ (List.replicate (2 ^ 31) (.write {} 10)) = some t ∧
    t.state.file.pFile ≠ none ∧ t.accepted = List.replicate (2 ^ 31) 10 ∧
    t.state.file.countRotatingFile = -2 ^ 31 ∧
    t.state.file.rotatedContents ++ t.state.file.contents t.state.file.current ++
      (t.state.cellsAt t.state.pBufferCurrent).take t.state.countBufferCurrent.toNat = [] ∧
    t.state.file.rotatedContents ++ t.state.file.contents t.state.file.current ++
      (t.state.cellsAt t.state.pBufferCurrent).take t.state.countBufferCurrent.toNat ≠
        t.accepted := by
  obtain ⟨t, hrun, hacc, ht⟩ := oneByOne_run 10 (2 ^ 31)
  have hnumber : t.state.file.countRotatingFile = -2 ^ 31 :=
    ht.number.trans (intSucc_iterate_wraps (by decide))
  have hempty : t.state.file.rotatedContents ++ t.state.file.contents t.state.file.current ++
      (t.state.cellsAt t.state.pBufferCurrent).take t.state.countBufferCurrent.toNat = [] := by
    rw [ht.empty, ht.countBufferCurrent, LogFile.rotatedContents, hnumber]
    simp
  refine ⟨t, hrun, by simp [ht.pFile], hacc, hnumber, hempty, ?_⟩
  rw [hempty, hacc]
  intro h
  have hlength := congrArg List.length h
  rw [List.length_nil, List.length_replicate] at hlength
  omega

end HexrotPxiCom.LogTlm
