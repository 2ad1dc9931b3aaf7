import HexrotPxiCom.LogTlm.Threads

/-!
# Whole calls and whole turns

`logTlm_write` as one step of the application and a turn of the loop of `logTlm_run` as one
step of the flush thread. Each of these steps is a run of the two threads in which the
other one waits.
-/

namespace HexrotPxiCom.LogTlm

set_option autoImplicit false

open State

universe u
variable {ρ : Type u}

/-- The globals, and the records whose `logTlm_write` returned 0 or -1. -/
structure Turns (ρ : Type u) where
  log : State ρ
  accepted : List ρ

/-- A call by the application, or a turn of the flush thread; `io2` answers the flush of
buffer 2. -/
inductive Turn (ρ : Type u) where
  | write (env : Env) (pData : ρ)
  | run (env : Env) (io2 : Stdio)

namespace Turns

def step (t : Turns ρ) : Turn ρ → Option (Turns ρ)
  | .write env r =>
    let w := t.log.write env r
    some ⟨w.2, if w.1 = -2 then t.accepted else t.accepted ++ [r]⟩
  | .run env io2 => some { t with log := t.log.runTurn env io2 }

end Turns

namespace Turns

/-- The flush of buffer 1 in a turn that found it full. -/
def flushOne (io : Stdio) (s : State ρ) : State ρ :=
  if s.isFullBuffer1 then
    { s.flushToFile io s.pBuffer1 s.countBufferMax with isFullBuffer1 := false }
  else s

def flushTwo (io : Stdio) (s : State ρ) : State ρ :=
  if s.isFullBuffer2 then
    { s.flushToFile io s.pBuffer2 s.countBufferMax with isFullBuffer2 := false }
  else s

def rearm (s : State ρ) : State ρ :=
  if s.pBufferCurrent = none then
    { s with pBufferCurrent := s.pBuffer1, countBufferCurrent := 0 }
  else s

theorem runTurn_eq (env : Env) (io2 : Stdio) (s : State ρ) :
    s.runTurn env io2 =
      if env.tryLock && (s.isFullBuffer1 || s.isFullBuffer2) then
        rearm (flushTwo io2 (flushOne env.stdio s))
      else s := by
  cases hl : env.tryLock <;> cases h1 : s.isFullBuffer1 <;> cases h2 : s.isFullBuffer2 <;>
    simp [State.runTurn, rearm, flushOne, flushTwo, hl, h1, h2]

/-- What `logTlm_write` does with a full current buffer when there is the flush thread. -/
def takeOther (s : State ρ) : Int × State ρ :=
  if s.pBufferCurrent = s.pBuffer1 then
    if !s.isFullBuffer2 then (0, { s with
      isFullBuffer1 := true
      pBufferCurrent := s.pBuffer2
      countBufferCurrent := 0 })
    else (-1, { s with isFullBuffer1 := true, pBufferCurrent := none })
  else
    if !s.isFullBuffer1 then (0, { s with
      isFullBuffer2 := true
      pBufferCurrent := s.pBuffer1
      countBufferCurrent := 0 })
    else (-1, { s with isFullBuffer2 := true, pBufferCurrent := none })

/-- `logTlm_write` after the copy of the record. -/
def finish (env : Env) (s : State ρ) : Int × State ρ :=
  if s.countBufferCurrent < s.countBufferMax then (0, s)
  else if !s.isThreadReady then (0, (s.flush env).2)
  else takeOther s

theorem write_eq (env : Env) (r : ρ) (s : State ρ) :
    s.write env r =
      if s.pBufferCurrent = none ∨ s.file.pFile = none then (-2, s)
      else finish env (if s.countBufferCurrent < s.countBufferMax then
        { s.copyRecord r with countBufferCurrent := s.countBufferCurrent + 1 } else s) := rfl

theorem write_isThreadReady (env : Env) (r : ρ) (s : State ρ) :
    (s.write env r).2.isThreadReady = s.isThreadReady := by
  have hfinish : ∀ s : State ρ, (finish env s).2.isThreadReady = s.isThreadReady := by
    intro s
    unfold finish takeOther
    split
    · rfl
    · split
      · rcases flush_cases s env with hflush | hflush
        · rw [hflush]
        · rw [hflush]
          rfl
      · split <;> split <;> rfl
  rw [write_eq]
  split
  · rfl
  · rw [hfinish]
    split
    · exact copyRecord_isThreadReady r
    · rfl

theorem runTurn_isThreadReady (env : Env) (io2 : Stdio) (s : State ρ) :
    (s.runTurn env io2).isThreadReady = s.isThreadReady := by
  rw [runTurn_eq]
  split
  · unfold rearm flushTwo flushOne
    split <;> split <;> split <;> rfl
  · rfl

end Turns

namespace Threads
variable {env : Env} {r : ρ} {s v : State ρ} {pc : RunPc} {app : AppPc ρ} {acc : List ρ}
  {code : Int}

/-- The call of `logTlm_write` has returned `code`, and the globals are `s`. -/
def Returned (code : Int) (s : State ρ) (r : ρ) (pc : RunPc) (acc : List ρ) (t : Threads ρ) :
    Prop :=
  t = ret code r ⟨s, .idle, pc, acc⟩

/-- The lock section of a full current buffer and what follows it. -/
theorem testWhich_ends (hv : Turns.takeOther s = (code, v)) :
    Runs.Leads (appStep env) (Returned code v r pc acc) ⟨s, .testWhich r, pc, acc⟩ := by
  unfold Turns.takeOther at hv
  split at hv
  · rename_i hone
    refine .step (if_pos hone) ?_
    cases hfull : s.isFullBuffer2 with
    | false =>
      rw [if_pos (by simp [hfull])] at hv
      cases hv
      exact .step (if_neg (by simp [hfull])) (.step rfl (.step rfl (.here rfl)))
    | true =>
      rw [if_neg (by simp [hfull])] at hv
      cases hv
      exact .step (if_pos hfull) (.step rfl (.here rfl))
  · rename_i hother
    refine .step (if_neg hother) ?_
    cases hfull : s.isFullBuffer1 with
    | false =>
      rw [if_pos (by simp [hfull])] at hv
      cases hv
      exact .step (if_neg (by simp [hfull])) (.step rfl (.step rfl (.here rfl)))
    | true =>
      rw [if_neg (by simp [hfull])] at hv
      cases hv
      exact .step (if_pos hfull) (.step rfl (.here rfl))

theorem testFull_ends (hv : Turns.finish env s = (code, v)) :
    Runs.Leads (appStep env) (Returned code v r pc acc) ⟨s, .testFull r, pc, acc⟩ := by
  unfold Turns.finish at hv
  split at hv
  · rename_i hspace
    cases hv
    exact .step (if_pos hspace) (.here rfl)
  · rename_i hspace
    refine .step (if_neg hspace) ?_
    cases hready : s.isThreadReady with
    | false =>
      rw [if_pos (by simp [hready])] at hv
      cases hv
      exact .step (if_neg (by simp [hready])) (.step rfl (.here rfl))
    | true =>
      rw [if_neg (by simp [hready])] at hv
      exact .step (if_pos hready) (testWhich_ends hv)

/-- A call of `logTlm_write` that the flush thread does not interrupt. -/
theorem write_ends (pc : RunPc) (acc : List ρ) (hv : s.write env r = (code, v)) :
    Runs.Leads (appStep env) (Returned code v r pc acc) ⟨s, .testBuffer r, pc, acc⟩ := by
  rw [Turns.write_eq] at hv
  split at hv
  · rename_i hclosed
    cases hv
    by_cases hnull : s.pBufferCurrent = none
    · exact .step (if_pos hnull) (.here rfl)
    · have hfile : s.file.pFile = none := hclosed.resolve_left hnull
      exact .step (if_neg hnull) (.step (if_pos hfile) (.here rfl))
  · rename_i hopen
    obtain ⟨hnull, hfile⟩ := not_or.mp hopen
    refine .step (if_neg hnull) (.step (if_neg hfile) ?_)
    split at hv
    · rename_i hspace
      have hcount : (s.copyRecord r).countBufferCurrent = s.countBufferCurrent :=
        copyRecord_countBufferCurrent r
      rw [← hcount] at hv
      exact .step (if_pos hspace) (.step rfl (.step rfl (testFull_ends hv)))
    · rename_i hspace
      exact .step (if_neg hspace) (testFull_ends hv)

theorem rearm_ends :
    Runs.Leads (runStep env) (· = ⟨Turns.rearm s, app, .loopTest, acc⟩)
      ⟨s, app, .testCurrent, acc⟩ := by
  unfold Turns.rearm
  split
  · rename_i hnull
    exact .step (if_pos hnull) (.step rfl (.step rfl (.here rfl)))
  · rename_i hnull
    exact .step (if_neg hnull) (.here rfl)

theorem flushTwo_ends (hfull : s.isFullBuffer2 = true) :
    Runs.Leads (runStep env) (· = ⟨Turns.rearm (Turns.flushTwo env.stdio s), app, .loopTest, acc⟩)
      ⟨s, app, .flush2, acc⟩ := by
  unfold Turns.flushTwo
  rw [if_pos hfull]
  exact .step rfl (.step rfl rearm_ends)

/-- The flag snapshot of a turn with something to flush, and the flush of buffer 1. -/
theorem flushOne_ends (hready : s.isThreadReady = true) (hlock : env.tryLock = true)
    (hfull : s.isFullBuffer1 = true ∨ s.isFullBuffer2 = true) :
    Runs.Leads (runStep env)
      (· = ⟨Turns.flushOne env.stdio s, app,
        if s.isFullBuffer2 then .flush2 else .testCurrent, acc⟩)
      ⟨s, app, .loopTest, acc⟩ := by
  refine .step (if_pos hready) ?_
  cases h1 : s.isFullBuffer1 with
  | false =>
    have h2 : s.isFullBuffer2 = true := hfull.resolve_left (by rw [h1]; decide)
    have hsnap : runStep env ⟨s, app, .snapshot, acc⟩ = some ⟨s, app, .flush2, acc⟩ := by
      simp [runStep, hlock, h1, h2]
    rw [Turns.flushOne, if_neg (by rw [h1]; decide), if_pos h2]
    exact .step hsnap (.here rfl)
  | true =>
    have hsnap : runStep env ⟨s, app, .snapshot, acc⟩ =
        some ⟨s, app, .flush1 s.isFullBuffer2, acc⟩ := by
      simp [runStep, hlock, h1]
    rw [Turns.flushOne, if_pos h1]
    refine .step hsnap (.step rfl ?_)
    cases h2 : s.isFullBuffer2 with
    | false => exact .step rfl (.here rfl)
    | true => exact .step rfl (.here rfl)

/-- A turn of the loop of `logTlm_run` that no other thread interrupts. -/
theorem run_turn (env : Env) (io2 : Stdio) (app : AppPc ρ) (acc : List ρ)
    (hready : s.isThreadReady = true) :
    ∃ bs, Runs.run step ⟨s, app, .loopTest, acc⟩ bs =
      some ⟨s.runTurn env io2, app, .loopTest, acc⟩ := by
  rw [Turns.runTurn_eq]
  split
  · rename_i hturn
    obtain ⟨hlock, hfull⟩ := Bool.and_eq_true_iff.mp hturn
    obtain ⟨k, u, hflush, rfl⟩ :=
      (flushOne_ends hready hlock (Bool.or_eq_true_iff.mp hfull)).run step (.run env)
    have hflag2 : (Turns.flushOne env.stdio s).isFullBuffer2 = s.isFullBuffer2 := by
      unfold Turns.flushOne
      split
      · rfl
      · rfl
    have hrest : Runs.Leads (runStep { env with stdio := io2 })
        (· = ⟨Turns.rearm (Turns.flushTwo io2 (Turns.flushOne env.stdio s)), app, .loopTest, acc⟩)
        ⟨Turns.flushOne env.stdio s, app, if s.isFullBuffer2 then .flush2 else .testCurrent,
          acc⟩ := by
      cases h2 : s.isFullBuffer2 with
      | false =>
        rw [Turns.flushTwo, if_neg (by rw [hflag2, h2]; decide), if_neg (by decide)]
        exact rearm_ends
      | true =>
        rw [if_pos rfl]
        exact flushTwo_ends (hflag2.trans h2)
    obtain ⟨k', u, hlast, rfl⟩ := hrest.run step (.run { env with stdio := io2 })
    exact ⟨_, Runs.run_append_eq_some.mpr ⟨_, hflush, hlast⟩⟩
  · -- nothing to flush, or the lock is taken: the globals stay as they are
    exact ⟨[], rfl⟩

/-- The threads between two turns. -/
def ofTurns (t : Turns ρ) : Threads ρ := ⟨t.log, .idle, .loopTest, t.accepted⟩

theorem step_simulated {a : Turn ρ} {t t' : Turns ρ} {u : Threads ρ}
    (h : u = ofTurns t ∧ t.log.isThreadReady = true) (hstep : t.step a = some t') :
    ∃ bs u', Runs.run step u bs = some u' ∧ u' = ofTurns t' ∧ t'.log.isThreadReady = true := by
  obtain ⟨rfl, hready⟩ := h
  cases a with
  | write env r =>
    cases hstep
    obtain ⟨k, u', hrun, rfl⟩ := (write_ends .loopTest t.accepted rfl).run step (.app env)
    exact ⟨.write r :: List.replicate k (.app env), _,
      Runs.run_cons_eq_some.mpr ⟨_, rfl, hrun⟩, rfl,
      (Turns.write_isThreadReady env r t.log).trans hready⟩
  | run env io2 =>
    cases hstep
    obtain ⟨bs, hrun⟩ := run_turn env io2 .idle t.accepted hready
    exact ⟨bs, _, hrun, rfl, (Turns.runTurn_isThreadReady env io2 t.log).trans hready⟩

/-- Whole calls and whole turns are what the two threads do when each of them is left alone
until its call or turn ends. -/
theorem turns_simulated {as : List (Turn ρ)} {t : Turns ρ} (hready : s.isThreadReady = true)
    (hrun : Runs.run Turns.step ⟨s, []⟩ as = some t) :
    ∃ bs, Runs.run step (start s) bs = some (ofTurns t) := by
  have hloop : Runs.run step (start s) [.run {}] = some (ofTurns ⟨s, []⟩) :=
    Runs.run_cons_eq_some.mpr ⟨_, if_pos hready, rfl⟩
  obtain ⟨bs, u, hbs, rfl, -⟩ :=
    Runs.run_simulates (fun _ _ _ _ h hs => step_simulated h hs) hrun ⟨rfl, hready⟩
  exact ⟨_, Runs.run_append_eq_some.mpr ⟨_, hloop, hbs⟩⟩

end Threads

end HexrotPxiCom.LogTlm
