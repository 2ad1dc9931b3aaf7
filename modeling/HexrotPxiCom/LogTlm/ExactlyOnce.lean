import HexrotPxiCom.LogTlm.WriterSteps

/-!
# Every accepted record is in the log files once

Both threads keep the balance of the records, so a run in which each buffer has one owner
ends, after a final flush, with exactly the accepted records in the log files.
-/

namespace HexrotPxiCom.LogTlm

set_option autoImplicit false

open State

universe u
variable {ρ : Type u}

namespace Threads.Owned
variable {n : Int} {p q : Nat} {t : Threads ρ}

/-- At rest the balance is between the log files with the current buffer and the records. -/
theorem balance_idle (h : Owned n p q t) (hidle : t.app = .idle)
    (hfull1 : t.log.isFullBuffer1 = false) (hfull2 : t.log.isFullBuffer2 = false)
    (hreset : t.run ≠ .resetCount) :
    (t.log.file.logContents ++ (t.log.cellsAt t.log.pBufferCurrent).take
      t.log.countBufferCurrent.toNat).Perm t.accepted := by
  have hr : t.run.atReset = false := by
    cases hrun : t.run <;> first | rfl | exact absurd hrun hreset
  have hbal := h.balance
  simp only [total, owed1, owed2, filled, hfull1, hfull2, hidle, hr, AppPc.leaving, AppPc.stored,
    Bool.false_and, Bool.or_self, Bool.false_eq_true, if_false, add_zero, Multiset.coe_add] at hbal
  exact Multiset.coe_eq_coe.mp hbal

end Threads.Owned

namespace Threads

theorem start_owned {n recordPerFile : Int} {size p q : Nat} {s : State ρ}
    (hb : s.Buffers n size recordPerFile p q) (hcount : s.countBufferCurrent = 0)
    (hcur : s.pBufferCurrent = s.pBuffer1) (hfull1 : s.isFullBuffer1 = false)
    (hfull2 : s.isFullBuffer2 = false) (hlog : s.file.logContents = []) :
    Owned n p q (start s) := by
  have hpos := hb.count_pos
  have hp : s.pBufferCurrent = some p := hcur.trans hb.buffer1
  refine ⟨?_, ?_, Or.inr (Or.inl hp), fun _ => rfl, by simp [start], by simp [start, RunPc.atReset],
    by simp [start, RunPc.flushing1], by simp [start, RunPc.flushing2], ?_, ?_, trivial, ?_⟩
  · exact Int.le_of_eq hcount.symm
  · change s.countBufferCurrent ≤ n
    omega
  · intro hq
    exact absurd (Option.some.inj (hp.symm.trans hq)) hb.distinct
  · intro _ _ _
    change s.countBufferCurrent < n
    omega
  · simp [total, owed1, owed2, filled, start, hfull1, hfull2, hlog, hcount, AppPc.stored]

/-- Without a first buffer, which `logTlm_createBuffer` may leave NULL, no call of
`logTlm_write` gets past its first test, and nothing is ever flushed. -/
structure Unbuffered (t : Threads ρ) : Prop where
  buffer1 : t.log.pBuffer1 = none
  current : t.log.pBufferCurrent = none
  app : t.app.beforeTest = true
  full1 : t.log.isFullBuffer1 = false
  full2 : t.log.isFullBuffer2 = false
  flushing1 : t.run.flushing1 = false
  flushing2 : t.run.flushing2 = false
  contents : t.log.file.logContents = []
  accepted : t.accepted = []

namespace Unbuffered
variable {t u : Threads ρ} {env : Env}

theorem move_app (h : t.Unbuffered) {a : AppPc ρ} (ha : a.beforeTest = true) :
    Unbuffered { t with app := a } :=
  ⟨h.buffer1, h.current, ha, h.full1, h.full2, h.flushing1, h.flushing2, h.contents, h.accepted⟩

theorem move_run (h : t.Unbuffered) {pc : RunPc} (h1 : pc.flushing1 = false)
    (h2 : pc.flushing2 = false) : Unbuffered { t with run := pc } :=
  ⟨h.buffer1, h.current, h.app, h.full1, h.full2, h1, h2, h.contents, h.accepted⟩

theorem appStep (h : t.Unbuffered) (hstep : t.appStep env = some u) : u.Unbuffered := by
  have happ := h.app
  cases appStep_step hstep with
  | noBuffer | noThread | joined | toCloseClear => exact h.move_app rfl
  | toTestFile _ _ hsome => exact absurd h.current hsome
  | closeClear =>
    exact ⟨h.buffer1, h.current, rfl, h.full1, h.full2, h.flushing1, h.flushing2, h.contents,
      h.accepted⟩
  | _ _ ha => simp [ha, AppPc.beforeTest] at happ

theorem runStep (h : t.Unbuffered) (hstep : t.runStep env = some u) : u.Unbuffered := by
  have h1 := h.flushing1
  have h2 := h.flushing2
  cases runStep_step hstep with
  | wait => exact h
  | toFlush1 _ _ hfull1 =>
    rw [h.full1] at hfull1
    cases hfull1
  | toFlush2 _ _ _ hfull2 =>
    rw [h.full2] at hfull2
    cases hfull2
  | flush1 b hrun => simp [hrun, RunPc.flushing1] at h1
  | clear1ToFlush2 hrun | clear1 hrun => simp [hrun, RunPc.flushing1] at h1
  | flush2 hrun | clear2 hrun => simp [hrun, RunPc.flushing2] at h2
  | setCurrent =>
    exact ⟨h.buffer1, h.buffer1, h.app, h.full1, h.full2, rfl, rfl, h.contents, h.accepted⟩
  | resetCount =>
    exact ⟨h.buffer1, h.current, h.app, h.full1, h.full2, rfl, rfl, h.contents, h.accepted⟩
  | _ => exact h.move_run rfl rfl

theorem step {a : Action ρ} (h : t.Unbuffered) (hstep : Threads.step t a = some u) :
    u.Unbuffered := by
  cases a with
  | write r =>
    cases ha : t.app <;> simp only [Threads.step, ha] at hstep <;> cases hstep
    exact h.move_app rfl
  | closeThread =>
    cases ha : t.app <;> simp only [Threads.step, ha] at hstep <;> cases hstep
    exact h.move_app rfl
  | app env => exact h.appStep hstep
  | run env => exact h.runStep hstep

end Unbuffered

end Threads

section
variable [Inhabited ρ] {alloc : Alloc} {env env' : Env} {filename : String}
  {n recordPerFile : Int} {size : Nat} {created scheduled : Bool} {timeInMs : Int}
  {s₀ s₁ s₂ s₃ : State ρ} {as : List (Action ρ)} {t : Threads ρ}

theorem reached_owned (hcreate : s₀.createBuffer alloc n size = (0, s₁))
    (hbuffer : s₁.pBuffer1 ≠ none)
    (hopen : s₁.openLog env filename recordPerFile = (0, s₂))
    (hthread : s₂.runFlushInNewThread created scheduled timeInMs = (0, s₃))
    (hguard : Runs.Guarded Threads.step Threads.Guard (Threads.start s₃) as)
    (hrun : Runs.run Threads.step (Threads.start s₃) as = some t) :
    ∃ p q, t.Owned n p q ∧ t.log.Buffers n size recordPerFile p q ∧
      t.log.isThreadReady = true := by
  obtain ⟨p, q, hb⟩ := Buffers.opened_of_create hcreate hbuffer hopen hthread
  obtain ⟨-, -, rfl⟩ := openLog_cases hopen
  obtain rfl := runFlushInNewThread_cases hthread
  have hstart := Threads.start_owned hb rfl rfl rfl rfl opened_logContents
  refine ⟨p, q, ?_⟩
  exact Runs.Guarded.invariant
    (I := fun t => t.Owned n p q ∧ t.log.Buffers n size recordPerFile p q ∧
      t.log.isThreadReady = true)
    (fun _ _ _ h hg hs => h.1.step h.2.1 h.2.2 hg.1 hg.2.1 hg.2.2 hs) hguard hrun ⟨hstart, hb, rfl⟩

omit [Inhabited ρ] in
theorem reached_unbuffered (hbuffer : s₁.pBuffer1 = none)
    (hopen : s₁.openLog env filename recordPerFile = (0, s₂))
    (hthread : s₂.runFlushInNewThread created scheduled timeInMs = (0, s₃))
    (hrun : Runs.run Threads.step (Threads.start s₃) as = some t) : t.Unbuffered := by
  obtain ⟨-, -, rfl⟩ := openLog_cases hopen
  obtain rfl := runFlushInNewThread_cases hthread
  exact Runs.run_invariant (fun _ _ _ h hs => h.step hs) hrun
    ⟨hbuffer, hbuffer, rfl, rfl, rfl, rfl, rfl, opened_logContents, rfl⟩

/-- When each buffer has one owner all the time, and the numbers of the rotated files do not run
out, the log files hold every accepted record once and no other, after the flush that follows a
run ended with both full flags false. -/
theorem records_exactly_once (hcreate : s₀.createBuffer alloc n size = (0, s₁))
    (hopen : s₁.openLog env filename recordPerFile = (0, s₂))
    (hthread : s₂.runFlushInNewThread created scheduled timeInMs = (0, s₃))
    (hguard : Runs.Guarded Threads.step Threads.Guard (Threads.start s₃) as)
    (hrun : Runs.run Threads.step (Threads.start s₃) as = some t)
    (hidle : t.app = .idle) (hfull1 : t.log.isFullBuffer1 = false)
    (hfull2 : t.log.isFullBuffer2 = false) (hreset : t.run ≠ .resetCount)
    (hcur : t.log.pBufferCurrent ≠ none) (hcount : 0 < t.log.countBufferCurrent)
    (henv : env'.Success) (hnumber : t.log.file.CanNumber t.log.countBufferCurrent) :
    (t.log.flush env').1 = 0 ∧ (t.log.flush env').2.file.logContents.Perm t.accepted := by
  by_cases hbuffer : s₁.pBuffer1 = none
  · -- the allocation of buffer 1 failed, and no record is pending
    exact absurd (reached_unbuffered hbuffer hopen hthread hrun).current hcur
  · obtain ⟨p, q, h, hb, -⟩ := reached_owned hcreate hbuffer hopen hthread hguard hrun
    obtain ⟨c, hc, hcpq⟩ := h.current_some hcur
    obtain ⟨hcode, hlog⟩ := hb.flush_current henv hcpq hc hfull1 hfull2 hcount h.count_le
      hnumber
    have hperm := h.balance_idle hidle hfull1 hfull2 hreset
    rw [hc, cellsAt_some] at hperm
    rw [hlog]
    exact ⟨hcode, hperm⟩

end

/-- Two slots. Buffer 1 goes out, then buffer 2 is marked full and snapshot, and buffer 1
fills up before the flush thread goes on. -/
def refilled : List (Action Nat) :=
  runSteps 2 ++ .write 10 :: appSteps 6 ++ .write 11 :: appSteps 11 ++ runSteps 5 ++
    .write 12 :: appSteps 6 ++ .write 13 :: appSteps 11 ++ runSteps 1 ++
    .write 14 :: appSteps 6 ++ .write 15 :: appSteps 10 ++ runSteps 5

/-- The next turn flushes buffer 1 before the writer uses it again. -/
theorem records_exactly_once_refilled : ∃ t,
    Runs.run Threads.step (Threads.start (started 2 2))
      (refilled ++ runSteps 5 ++ .write 16 :: appSteps 6) = some t ∧
    (t.log.flush {}).1 = 0 ∧ (t.log.flush {}).2.file.logContents.Perm t.accepted ∧
    t.accepted = [10, 11, 12, 13, 14, 15, 16] := by
  obtain ⟨_, _, hcreate, -, hopen, hthread⟩ :=
    @started_setup 2 2 (by decide) (by decide) (by decide)
  have hrun : Runs.run Threads.step (Threads.start (started 2 2))
      (refilled ++ runSteps 5 ++ .write 16 :: appSteps 6) = some _ := rfl
  have henv : Env.Success {} := by decide
  obtain ⟨hcode, hperm⟩ := records_exactly_once hcreate hopen hthread (by decide) hrun rfl rfl rfl
    (by decide) (by decide) (by decide) henv (by decide)
  exact ⟨_, hrun, hcode, hperm, rfl⟩

/-- The writer uses the re-armed buffer 1 while it is still owed to the log: 14 is lost and
16 is written twice. -/
theorem records_not_exactly_once : ∃ t,
    Runs.run Threads.step (Threads.start (started 2 2))
      (refilled ++ .write 16 :: appSteps 6 ++ runSteps 5) = some t ∧
    t.app.isIdle = true ∧ t.log.isFullBuffer1 = false ∧ t.log.isFullBuffer2 = false ∧
    t.run = .loopTest ∧ 0 < t.log.countBufferCurrent ∧ (t.log.flush {}).1 = 0 ∧
    t.accepted = [10, 11, 12, 13, 14, 15, 16] ∧
    (t.log.flush {}).2.file.logContents = [10, 11, 12, 13, 16, 15, 16] ∧
    ¬ (t.log.flush {}).2.file.logContents.Perm t.accepted := by
  have hrun : (Runs.run Threads.step (Threads.start (started 2 2))
      (refilled ++ .write 16 :: appSteps 6 ++ runSteps 5)).any (fun t =>
        t.app.isIdle && !t.log.isFullBuffer1 && !t.log.isFullBuffer2 && t.run == .loopTest &&
          decide (0 < t.log.countBufferCurrent) && (t.log.flush {}).1 == 0 &&
          t.accepted == [10, 11, 12, 13, 14, 15, 16] &&
          (t.log.flush {}).2.file.logContents == [10, 11, 12, 13, 16, 15, 16]) = true := by
    decide +kernel
  obtain ⟨t, ht, hall⟩ := (Option.any_eq_true _ _).mp hrun
  simp only [Bool.and_eq_true, Bool.not_eq_true', beq_iff_eq, decide_eq_true_eq] at hall
  obtain ⟨⟨⟨⟨⟨⟨⟨hidle, hfull1⟩, hfull2⟩, hloop⟩, hcount⟩, hcode⟩, hacc⟩, hlog⟩ := hall
  refine ⟨t, ht, hidle, hfull1, hfull2, hloop, hcount, hcode, hacc, hlog, ?_⟩
  rw [hlog, hacc]
  decide

end HexrotPxiCom.LogTlm
