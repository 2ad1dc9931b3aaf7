import HexrotPxiCom.LogTlm.FlushRate
import HexrotPxiCom.LogTlm.Order

/-!
# A flush thread that does not keep up

When two windows hold as many calls as a buffer has slots, a buffer can fill up right after
the flush thread got the lock, and the other one while the flush is still going on. The
current buffer is NULL then, so the bound of the flush rate is exact.
-/

namespace HexrotPxiCom.LogTlm

set_option autoImplicit false

open State

universe u
variable {ρ : Type u}

namespace Paced

/-- Between two calls, the current buffer `b` holds `k` records, and buffer 2 is not waiting. -/
structure Filling (n recordPerFile : Int) (size p q : Nat) (k calls b : Nat) (full1 : Bool)
    (pc : RunPc) (c : Paced ρ) : Prop where
  buffers : c.threads.log.Buffers n size recordPerFile p q
  ready : c.threads.log.isThreadReady = true
  app : c.threads.app = .idle
  run : c.threads.run = pc
  current : c.threads.log.pBufferCurrent = some b
  full1 : c.threads.log.isFullBuffer1 = full1
  full2 : c.threads.log.isFullBuffer2 = false
  count : c.threads.log.countBufferCurrent = k
  calls : c.calls = calls

section
variable {n recordPerFile : Int} {size p q w k m b : Nat} {full1 : Bool} {pc : RunPc}
  {c : Paced ρ} {r : ρ}

/-- The schedules in which at most `w` calls fall into a window. -/
abbrev Reaches (w : Nat) (c d : Paced ρ) : Prop := Runs.Reach step (InTime w) d c

theorem io_success : ({} : Env).stdio.Success := by decide

/-- None of these steps flushes, so none needs a number. -/
theorem run_inTime (hflush : c.threads.run.atFlush = false) : InTime w c (.run {}) := by
  refine ⟨io_success, fun h => ?_⟩
  rw [hflush] at h
  cases h

theorem run_step {t : Threads ρ} (hrun : c.threads.run ≠ .snapshot)
    (hflush : c.threads.run.atFlush = false) (hstep : c.threads.runStep {} = some t) :
    Reaches w c { c with threads := t } := by
  refine .head (a := .run {}) (run_inTime hflush) ?_ .refl
  simp [step, Threads.step, hstep, hrun]

theorem lock_step {t : Threads ρ} (hrun : c.threads.run = .snapshot)
    (hstep : c.threads.runStep {} = some t) :
    Reaches w c ⟨t, c.records, 0, c.calls⟩ := by
  refine .head (a := .run {}) (run_inTime (by rw [hrun]; rfl)) ?_ .refl
  simp [step, Threads.step, hstep, hrun]

theorem app_leads {P : Threads ρ → Prop} {t : Threads ρ} (records : List ρ) (calls before : Nat)
    (h : Runs.Leads (Threads.appStep {}) P t) :
    ∃ u, P u ∧ Reaches w ⟨t, records, calls, before⟩ ⟨u, records, calls, before⟩ := by
  induction h with
  | here h => exact ⟨_, h, .refl⟩
  | step h _ ih =>
    obtain ⟨u, hu, hreach⟩ := ih
    refine ⟨u, hu, .head (a := .app {}) io_success ?_ hreach⟩
    simp [step, Threads.step, h]

theorem call_step (hidle : c.threads.app = .idle) (hcalls : c.calls < w) (r : ρ) :
    Reaches w c ⟨{ c.threads with app := .testBuffer r }, c.records ++ [r], c.calls + 1,
      c.callsBefore⟩ := by
  refine .head (a := .write r) hcalls ?_ .refl
  simp [step, Threads.step, hidle, AppPc.isIdle]

/-- A call that the flush thread does not interrupt. -/
theorem call {v : State ρ} {code : Int} (hidle : c.threads.app = .idle) (hcalls : c.calls < w)
    (hv : c.threads.log.write {} r = (code, v)) :
    Reaches w c ⟨Threads.ret code r { c.threads with log := v }, c.records ++ [r], c.calls + 1,
      c.callsBefore⟩ := by
  refine (call_step hidle hcalls r).trans ?_
  obtain ⟨u, rfl, hreach⟩ := app_leads (w := w) (c.records ++ [r]) (c.calls + 1) c.callsBefore
    (Threads.write_ends c.threads.run c.threads.accepted hv)
  rw [show Threads.ret code r { c.threads with log := v } =
    Threads.ret code r ⟨v, .idle, c.threads.run, c.threads.accepted⟩ by rw [← hidle]]
  exact hreach

theorem idle_turn (hrun : c.threads.run = .snapshot) (hready : c.threads.log.isThreadReady = true)
    (h1 : c.threads.log.isFullBuffer1 = false) (h2 : c.threads.log.isFullBuffer2 = false) :
    Reaches w c ⟨c.threads, c.records, 0, c.calls⟩ := by
  have hsleep : c.threads.runStep {} = some { c.threads with run := .sleep } := by
    simp [Threads.runStep, hrun, h1, h2]
  refine (lock_step hrun hsleep).trans ?_
  refine (run_step (by simp) rfl rfl).trans ?_
  have hlast := run_step (w := w) (c := ⟨{ c.threads with run := .loopTest }, c.records, 0,
    c.calls⟩) (by simp) rfl (if_pos hready)
  rw [show c.threads = { c.threads with run := .snapshot } by rw [← hrun]]
  exact hlast

/-- A call with the last slot of buffer 1, up to its lock section. -/
theorem to_lock1 {s : State ρ} (pc : RunPc) (acc : List ρ) (r : ρ)
    (hb : s.Buffers n size recordPerFile p q)
    (hready : s.isThreadReady = true) (hcur : s.pBufferCurrent = some p)
    (hfull : s.countBufferCurrent + 1 = n) :
    Runs.Leads (Threads.appStep {}) (· = ⟨Turns.copied r s, .lock1 r, pc, acc⟩)
      ⟨s, .testBuffer r, pc, acc⟩ := by
  have hspace : s.countBufferCurrent < s.countBufferMax := by
    rw [hb.countBufferMax]
    omega
  have hused : ¬ (s.copyRecord r).countBufferCurrent + 1 < (s.copyRecord r).countBufferMax := by
    rw [copyRecord_countBufferCurrent, copyRecord_countBufferMax, hb.countBufferMax]
    omega
  have hone : (s.copyRecord r).pBufferCurrent = (s.copyRecord r).pBuffer1 := by
    rw [copyRecord_pBufferCurrent, copyRecord_pBuffer1, hcur, hb.buffer1]
  have hcopied : Turns.copied r s = { s.copyRecord r with
      countBufferCurrent := (s.copyRecord r).countBufferCurrent + 1 } := by
    rw [copyRecord_countBufferCurrent]
    rfl
  rw [hcopied]
  refine .step (if_neg (by simp [hcur])) (.step (if_neg (by simp [hb.opened.pFile])) ?_)
  refine .step (if_pos hspace) (.step rfl (.step rfl (.step (if_neg hused) ?_)))
  refine .step (if_pos ((copyRecord_isThreadReady r).trans hready)) ?_
  exact .step (if_pos hone) (.here rfl)

namespace Filling

theorem one (h : c.Filling n recordPerFile size p q k m b full1 pc) (hroom : (k : Int) + 1 < n)
    (hm : m < w) (r : ρ) : ∃ d, Reaches w c d ∧
      d.Filling n recordPerFile size p q (k + 1) (m + 1) b full1 pc := by
  have hcur : c.threads.log.pBufferCurrent ≠ none := by
    rw [h.current]
    exact Option.some_ne_none b
  have hv := Turns.write_space h.buffers hcur (by rw [h.count]; exact hroom) {} r
  refine ⟨_, call h.app (by rw [h.calls]; exact hm) hv, ?_⟩
  refine ⟨Turns.copied_buffers h.buffers r, ?_, rfl, h.run, ?_, ?_, ?_, ?_, ?_⟩
  · exact (copyRecord_isThreadReady r).trans h.ready
  · exact (copyRecord_pBufferCurrent r).trans h.current
  · exact (copyRecord_isFullBuffer1 r).trans h.full1
  · exact (copyRecord_isFullBuffer2 r).trans h.full2
  · change c.threads.log.countBufferCurrent + 1 = ((k + 1 : Nat) : Int)
    rw [h.count, Nat.cast_succ]
  · change c.calls + 1 = m + 1
    rw [h.calls]

theorem many (h : c.Filling n recordPerFile size p q k m b full1 pc) (r : ρ) (j : Nat)
    (hroom : (k + j : Int) < n) (hm : m + j ≤ w) : ∃ d, Reaches w c d ∧
      d.Filling n recordPerFile size p q (k + j) (m + j) b full1 pc := by
  induction j with
  | zero => exact ⟨c, .refl, h⟩
  | succ j ih =>
    obtain ⟨d, hd, hfill⟩ := ih (by omega) (by omega)
    obtain ⟨e, he, hlast⟩ := hfill.one (w := w) (by omega) (by omega) r
    exact ⟨e, hd.trans he, hlast⟩

/-- The flush thread gets the lock between any two calls, and finds nothing to flush. -/
theorem slowly (h : c.Filling n recordPerFile size p q k 0 b false .snapshot) (hw : 0 < w) (r : ρ)
    (j : Nat) (hroom : (k + j : Int) < n) : ∃ d, Reaches w c d ∧
      d.Filling n recordPerFile size p q (k + j) 0 b false .snapshot := by
  induction j with
  | zero => exact ⟨c, .refl, h⟩
  | succ j ih =>
    obtain ⟨d, hd, hfill⟩ := ih (by omega)
    obtain ⟨e, he, hone⟩ := hfill.one (w := w) (by omega) hw r
    refine ⟨_, hd.trans (he.trans (idle_turn hone.run hone.ready hone.full1 hone.full2)), ?_⟩
    exact ⟨hone.buffers, hone.ready, hone.app, hone.run, hone.current, hone.full1, hone.full2,
      hone.count, rfl⟩

/-- Buffer 1 is marked full right after the flush thread got the lock. -/
theorem mark (h : c.Filling n recordPerFile size p q k 0 p false .snapshot) (hw : 0 < w) (r : ρ)
    (hfull : (k : Int) + 1 = n) : ∃ d, Reaches w c d ∧
      d.Filling n recordPerFile size p q 0 0 q true .snapshot := by
  have hb := Turns.copied_buffers h.buffers r
  have h1 : (Turns.copied r c.threads.log).isFullBuffer1 = false :=
    (copyRecord_isFullBuffer1 r).trans h.full1
  have h2 : (Turns.copied r c.threads.log).isFullBuffer2 = false :=
    (copyRecord_isFullBuffer2 r).trans h.full2
  have hready : (Turns.copied r c.threads.log).isThreadReady = true :=
    (copyRecord_isThreadReady r).trans h.ready
  obtain ⟨t, rfl, hlock⟩ := app_leads (w := w) (c.records ++ [r]) (c.calls + 1) c.callsBefore
    (to_lock1 c.threads.run c.threads.accepted r h.buffers h.ready h.current
      (by rw [h.count]; exact hfull))
  have hturn := idle_turn (w := w) (c := ⟨⟨Turns.copied r c.threads.log, .lock1 r, c.threads.run,
    c.threads.accepted⟩, c.records ++ [r], c.calls + 1, c.callsBefore⟩) h.run hready h1 h2
  have hswap : Runs.Leads (Threads.appStep {})
      (· = Threads.ret 0 r ⟨{ Turns.copied r c.threads.log with
        isFullBuffer1 := true
        pBufferCurrent := (Turns.copied r c.threads.log).pBuffer2
        countBufferCurrent := 0 }, .idle, c.threads.run, c.threads.accepted⟩)
      ⟨Turns.copied r c.threads.log, .lock1 r, c.threads.run, c.threads.accepted⟩ :=
    .step (if_neg (by simp [h2])) (.step rfl (.step rfl (.here rfl)))
  obtain ⟨t, rfl, hlast⟩ := app_leads (w := w) (c.records ++ [r]) 0 (c.calls + 1) hswap
  refine ⟨_, (call_step h.app (by rw [h.calls]; exact hw) r).trans (hlock.trans
    (hturn.trans hlast)), ?_⟩
  exact ⟨hb.of_eq rfl, hready, rfl, h.run, hb.buffer2, rfl, h2, rfl, rfl⟩

/-- The flush thread gets the lock and is about to flush buffer 1. -/
theorem take (h : c.Filling n recordPerFile size p q k m b true .snapshot) :
    ∃ d, Reaches w c d ∧ d.Filling n recordPerFile size p q k 0 b true (.flush1 false) := by
  have hstep : c.threads.runStep {} = some { c.threads with run := .flush1 false } := by
    simp [Threads.runStep, h.run, h.full1, h.full2]
  refine ⟨_, lock_step h.run hstep, ?_⟩
  exact ⟨h.buffers, h.ready, h.app, rfl, h.current, h.full1, h.full2, h.count, rfl⟩

/-- Buffer 2 fills up while buffer 1 is still marked full. -/
theorem overrun (h : c.Filling n recordPerFile size p q k m q true pc) (hm : m < w) (r : ρ)
    (hfull : (k : Int) + 1 = n) :
    ∃ d, Reaches w c d ∧ d.threads.log.pBufferCurrent = none := by
  have hcur : c.threads.log.pBufferCurrent ≠ none := by
    rw [h.current]
    exact Option.some_ne_none q
  have hother : c.threads.log.pBufferCurrent ≠ c.threads.log.pBuffer1 := by
    rw [h.current, h.buffers.buffer1]
    exact fun heq => h.buffers.distinct (Option.some.inj heq).symm
  have hv := Turns.write_full h.buffers h.ready hcur (by rw [h.count]; exact hfull) {} r
  rw [if_neg hother, if_pos h.full1] at hv
  exact ⟨_, call h.app (by rw [h.calls]; exact hm) hv, rfl⟩

/-- With `n ≤ 2 * w` some schedule fills both buffers before one of them is flushed. -/
theorem exists_overrun (h : c.Filling n recordPerFile size p q 0 0 p false .snapshot) (r : ρ)
    (hpos : 0 < n) (hw : n ≤ (2 * w : Nat)) :
    ∃ d, Reaches w c d ∧ d.threads.log.pBufferCurrent = none := by
  obtain ⟨k, rfl⟩ : ∃ k : Nat, n = k + 1 := ⟨(n - 1).toNat, by omega⟩
  obtain ⟨c₁, h₁, hfill⟩ := h.slowly (w := w) (by omega) r k (by omega)
  rw [Nat.zero_add] at hfill
  obtain ⟨c₂, h₂, hmark⟩ := hfill.mark (w := w) (by omega) r rfl
  -- as many calls as one window allows, and the rest of buffer 2 in the next one
  obtain ⟨c₃, h₃, hfirst⟩ := hmark.many (w := w) r (min w k) (by omega) (by omega)
  obtain ⟨c₄, h₄, htake⟩ := hfirst.take (w := w)
  obtain ⟨c₅, h₅, hsecond⟩ := htake.many (w := w) r (k - min w k) (by omega) (by omega)
  obtain ⟨d, h₆, hnone⟩ := hsecond.overrun (w := w) (by omega) r (by omega)
  exact ⟨d, h₁.trans (h₂.trans (h₃.trans (h₄.trans (h₅.trans h₆)))), hnone⟩

end Filling

theorem threads_run {d : Paced ρ} {as : List (Action ρ)} (hrun : Runs.run step c as = some d) :
    Runs.run Threads.step c.threads as = some d.threads := by
  induction as generalizing c with
  | nil =>
    cases hrun
    rfl
  | cons a as ih =>
    obtain ⟨e, he, hrun⟩ := Runs.run_cons_eq_some.mp hrun
    obtain ⟨t, ht, hnote⟩ := Option.map_eq_some_iff.mp he
    refine Runs.run_cons_eq_some.mpr ⟨t, ht, ?_⟩
    have hthreads : e.threads = t := by
      rw [← hnote]
      cases a with
      | write r | closeThread | app env => rfl
      | run env =>
        dsimp only
        split <;> rfl
    rw [← hthreads]
    exact ih hrun

theorem start_filling {s : State ρ} (hb : s.Buffers n size recordPerFile p q)
    (hready : s.isThreadReady = true) (hcount : s.countBufferCurrent = 0)
    (hcur : s.pBufferCurrent = s.pBuffer1) (hfull1 : s.isFullBuffer1 = false)
    (hfull2 : s.isFullBuffer2 = false) : ∃ c, Reaches w (start s) c ∧
      c.Filling n recordPerFile size p q 0 0 p false .snapshot := by
  refine ⟨_, (run_step (c := start s) (by simp [start, Threads.start]) rfl
    (if_pos hready)).trans (run_step (by simp) rfl (if_pos hready)), ?_⟩
  exact ⟨hb, hready, rfl, rfl, hcur.trans hb.buffer1, hfull1, hfull2, hcount, rfl⟩

end

end Paced

section
variable [Inhabited ρ] {alloc : Alloc} {env : Env} {filename : String} {n recordPerFile : Int}
  {size : Nat} {created scheduled : Bool} {timeInMs : Int} {s₀ s₁ s₂ s₃ : State ρ}

end

/-- Three slots and one call in a window: buffer 1 is flushed while buffer 2 fills up. -/
def keepingUp : List (Action Nat) :=
  runSteps 2 ++ .write 10 :: appSteps 6 ++ runSteps 3 ++ .write 11 :: appSteps 6 ++ runSteps 3 ++
    .write 12 :: appSteps 11 ++ runSteps 1 ++ .write 13 :: appSteps 6 ++ runSteps 5 ++
    .write 14 :: appSteps 6 ++ runSteps 3 ++ .write 15 :: appSteps 11

end HexrotPxiCom.LogTlm
