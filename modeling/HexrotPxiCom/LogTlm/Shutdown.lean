import HexrotPxiCom.LogTlm.ExactlyOnce

/-!
# Stopping the flush thread

`logTlm_closeThread` clears the ready flag and waits for the flush thread, which finishes
the turn it is in and leaves the loop. A full buffer is written before that exactly when
the turn in progress still comes to it.
-/

namespace HexrotPxiCom.LogTlm

set_option autoImplicit false

open State

universe u
variable {ρ : Type u}

/-- The turn of the flush thread in progress still clears `isFullBuffer1`. -/
def RunPc.willClear1 : RunPc → Bool
  | .snapshot | .flush1 _ | .clear1 _ => true
  | _ => false

def RunPc.willClear2 : RunPc → Bool
  | .flush1 b | .clear1 b => b
  | .snapshot | .flush2 | .clear2 => true
  | _ => false

namespace Threads

/-- Every full buffer is flushed in the turn in progress. -/
def Drains (t : Threads ρ) : Prop :=
  (t.log.isFullBuffer1 = true → t.run.willClear1 = true) ∧
    (t.log.isFullBuffer2 = true → t.run.willClear2 = true)

instance (t : Threads ρ) : Decidable t.Drains := inferInstanceAs (Decidable (_ ∧ _))

theorem drains_of_not_full {t : Threads ρ} (h1 : t.log.isFullBuffer1 = false)
    (h2 : t.log.isFullBuffer2 = false) : t.Drains := by
  constructor
  · intro hf
    rw [h1] at hf
    cases hf
  · intro hf
    rw [h2] at hf
    cases hf

/-- Once the ready flag is cleared and the application thread waits, no step of the flush
thread changes whether the full buffers are flushed in time. -/
theorem drains_runStep {t u : Threads ρ} {env : Env} (hready : t.log.isThreadReady = false)
    (hlock : t.app.inLockSection = false) (hstart : t.run ≠ .startWait)
    (hstep : t.runStep env = some u) : u.Drains ↔ t.Drains := by
  unfold Drains
  cases runStep_step hstep with
  | wait hrun | enter hrun => exact absurd hrun hstart
  | toSnapshot _ hrunning =>
    rw [hready] at hrunning
    cases hrunning
  | toFlush1 hrun _ h1 => simp [hrun, h1, RunPc.willClear1, RunPc.willClear2]
  | toFlush2 hrun _ h1 h2 => simp [hrun, h1, h2, RunPc.willClear1, RunPc.willClear2]
  | toSleep _ hnone =>
    -- nobody else holds the lock, so both flags are read
    obtain ⟨-, hsection⟩ | ⟨-, h1, h2⟩ := hnone
    · rw [hlock] at hsection
      cases hsection
    · simp [h1, h2]
  | flush1 b hrun => simp [hrun, RunPc.willClear1, RunPc.willClear2]
  | _ hrun => simp [hrun, RunPc.willClear1, RunPc.willClear2]

theorem runStep_frame {t u : Threads ρ} {env : Env} (hstep : t.runStep env = some u)
    (hstart : t.run ≠ .startWait) : u.app = t.app ∧ u.run ≠ .startWait := by
  cases runStep_step hstep with
  | wait hrun | enter hrun => exact absurd hrun hstart
  | _ => exact ⟨rfl, by simp⟩

/-- The application thread waits in `pthread_join`, or its call has returned. -/
structure Closing (n recordPerFile : Int) (size p q : Nat) (D : Prop) (t : Threads ρ) : Prop where
  ready : t.log.isThreadReady = false
  started : t.run ≠ .startWait
  joined : t.app = .closeJoin ∨ (t.app = .idle ∧ t.run = .done)
  drains : t.Drains ↔ D
  owned : t.Owned n p q
  buffers : t.log.Buffers n size recordPerFile p q

/-- After the ready flag is cleared only the two threads step, and stdio succeeds. -/
def ClosingStep : Action ρ → Prop
  | .app env | .run env => env.stdio.Success
  | .write _ | .closeThread => False

instance : ∀ a : Action ρ, Decidable (ClosingStep a)
  | .app env | .run env => inferInstanceAs (Decidable env.stdio.Success)
  | .write _ | .closeThread => .isFalse id

section
variable {n recordPerFile : Int} {size p q : Nat} {D : Prop} {t u : Threads ρ}

theorem Closing.step {a : Action ρ} (h : Closing n recordPerFile size p q D t)
    (ha : ClosingStep a) (hnumber : t.Numbered a) (hstep : Threads.step t a = some u) :
    Closing n recordPerFile size p q D u := by
  cases a with
  | write r => exact ha.elim
  | closeThread => exact ha.elim
  | app env =>
    rcases h.joined with hjoin | ⟨hidle, _⟩
    · simp only [Threads.step, appStep, hjoin] at hstep
      split at hstep <;> cases hstep
      rename_i hdone
      refine ⟨h.ready, h.started, Or.inr ⟨rfl, hdone⟩, h.drains, ?_, h.buffers⟩
      exact h.owned.move_before hjoin rfl (fun _ => rfl) rfl
    · simp only [Threads.step, appStep, hidle] at hstep
      cases hstep
  | run env =>
    have hlock : t.app.inLockSection = false := by
      rcases h.joined with hjoin | ⟨hidle, _⟩
      · rw [hjoin]
        rfl
      · rw [hidle]
        rfl
    obtain ⟨happ, hstarted⟩ := runStep_frame hstep h.started
    obtain ⟨howned, hbuffers⟩ := h.owned.runStep h.buffers ha hnumber hstep
    have hdrains := drains_runStep h.ready hlock h.started hstep
    refine ⟨(Owned.runStep_isThreadReady hstep).trans h.ready, hstarted, ?_,
      hdrains.trans h.drains, howned, hbuffers⟩
    rcases h.joined with hjoin | ⟨_, hdone⟩
    · exact Or.inl (happ.trans hjoin)
    · simp only [Threads.step, runStep, hdone] at hstep
      cases hstep

/-- The step that clears the ready flag. -/
theorem Closing.start (h : t.Owned n p q) (hb : t.log.Buffers n size recordPerFile p q)
    (happ : t.app = .closeClear) (hstarted : t.run ≠ .startWait) :
    Closing n recordPerFile size p q t.Drains { t with
      log := { t.log with isThreadReady := false }
      app := .closeJoin } := by
  refine ⟨rfl, hstarted, Or.inl rfl, Iff.rfl, ?_, hb.of_eq rfl⟩
  have hstored : t.app.stored = 0 := by
    rw [happ]
    rfl
  have hbal := h.balance
  rw [hstored] at hbal
  refine ⟨h.count_nonneg, h.count_le, h.current, fun _ => rfl, h.null_run,
    fun hr => ⟨(h.reset_run hr).1, rfl⟩, h.flushing1, h.flushing2, ?_,
    fun hc _ hr => h.room hc (by rw [happ]; rfl) hr, trivial, ?_⟩
  · intro hcur hfull
    have hfull' : t.log.isFullBuffer2 = true := hfull
    rw [h.not_full2 happ rfl hcur] at hfull'
    cases hfull'
  · have hfilled : filled { t with
        log := { t.log with isThreadReady := false }, app := .closeJoin } = t.filled :=
      filled_congr (by rw [happ]; rfl) rfl rfl rfl rfl
    refine Eq.trans ?_ hbal
    change _ + t.owed1 + t.owed2 + filled _ = _
    rw [hfilled]
    rfl

/-- No full flag is left, and after the final flush, when records are pending, the log files
hold the accepted records. -/
def Kept (env : Env) (t : Threads ρ) : Prop :=
  t.log.isFullBuffer1 = false ∧ t.log.isFullBuffer2 = false ∧
    if t.log.pBufferCurrent ≠ none ∧ 0 < t.log.countBufferCurrent then
      (t.log.flush env).2.file.logContents.Perm t.accepted
    else t.log.file.logContents.Perm t.accepted

theorem Closing.kept_iff {env : Env} (h : Closing n recordPerFile size p q D t)
    (hidle : t.app = .idle) (henv : env.Success)
    (hnumber : t.log.pBufferCurrent ≠ none → t.log.file.CanNumber t.log.countBufferCurrent) :
    Kept env t ↔ D := by
  have hdone : t.run = .done := by
    rcases h.joined with hjoin | ⟨_, hdone⟩
    · rw [hidle] at hjoin
      cases hjoin
    · exact hdone
  rw [← h.drains]
  constructor
  · rintro ⟨h1, h2, -⟩
    exact drains_of_not_full h1 h2
  · rintro ⟨h1, h2⟩
    have hfull1 : t.log.isFullBuffer1 = false := by
      cases hf : t.log.isFullBuffer1 with
      | false => rfl
      | true => simp [hdone, RunPc.willClear1, hf] at h1
    have hfull2 : t.log.isFullBuffer2 = false := by
      cases hf : t.log.isFullBuffer2 with
      | false => rfl
      | true => simp [hdone, RunPc.willClear2, hf] at h2
    have hperm := h.owned.balance_idle hidle hfull1 hfull2 (by rw [hdone]; decide)
    refine ⟨hfull1, hfull2, ?_⟩
    split
    · rename_i hpending
      obtain ⟨c, hc, hcpq⟩ := h.owned.current_some hpending.1
      rw [(h.buffers.flush_current henv hcpq hc hfull1 hfull2 hpending.2 h.owned.count_le
        (hnumber hpending.1)).2]
      rwa [hc, cellsAt_some] at hperm
    · rename_i hnot
      have hempty : (t.log.cellsAt t.log.pBufferCurrent).take t.log.countBufferCurrent.toNat =
          [] := by
        by_cases hn : t.log.pBufferCurrent = none
        · simp [hn, cellsAt]
        · have hle : t.log.countBufferCurrent ≤ 0 := by
            by_contra hpos
            exact hnot ⟨hn, by omega⟩
          simp [Int.toNat_of_nonpos hle]
      rwa [hempty, List.append_nil] at hperm

end

end Threads

section
variable [Inhabited ρ] {alloc : Alloc} {env env₁ env₂ : Env} {filename : String}
  {n recordPerFile : Int} {size : Nat} {created scheduled : Bool} {timeInMs : Int}
  {s₀ s₁ s₂ s₃ : State ρ} {as bs : List (Action ρ)} {t₁ t : Threads ρ}

/-- In the state `t₁` `logTlm_closeThread` clears the ready flag, in `t` it has returned.
As long as the numbers of the rotated files do not run out, the log keeps its data exactly when
the turn in progress in `t₁` comes to every full buffer. -/
theorem closeThread_keeps_iff (hcreate : s₀.createBuffer alloc n size = (0, s₁))
    (hopen : s₁.openLog env filename recordPerFile = (0, s₂))
    (hthread : s₂.runFlushInNewThread created scheduled timeInMs = (0, s₃))
    (hguard : Runs.Guarded Threads.step Threads.Guard (Threads.start s₃) as)
    (hreach : Runs.run Threads.step (Threads.start s₃) as = some t₁)
    (happ : t₁.app = .closeClear) (hstarted : t₁.run ≠ .startWait)
    (hclosing : ∀ a ∈ bs, Threads.ClosingStep a)
    (hnumber : Runs.Guarded Threads.step Threads.Numbered t₁ (.app env₁ :: bs))
    (hrun : Runs.run Threads.step t₁ (.app env₁ :: bs) = some t) (hidle : t.app = .idle)
    (henv : env₂.Success)
    (hlast : t.log.pBufferCurrent ≠ none → t.log.file.CanNumber t.log.countBufferCurrent) :
    t.Kept env₂ ↔ t₁.Drains := by
  by_cases hbuffer : s₁.pBuffer1 = none
  · -- the allocation of buffer 1 failed, and no record was ever accepted
    have h₁ := reached_unbuffered hbuffer hopen hthread hreach
    have h : t.Unbuffered :=
      reached_unbuffered hbuffer hopen hthread
        (Runs.run_append_eq_some.mpr ⟨t₁, hreach, hrun⟩)
    constructor
    · intro _
      exact Threads.drains_of_not_full h₁.full1 h₁.full2
    · intro _
      refine ⟨h.full1, h.full2, ?_⟩
      rw [if_neg (fun hpending => hpending.1 h.current), h.contents, h.accepted]
  · obtain ⟨p, q, h, hb, -⟩ := reached_owned hcreate hbuffer hopen hthread hguard hreach
    obtain ⟨t₂, hclear, hrun⟩ := Runs.run_cons_eq_some.mp hrun
    obtain ⟨-, hnumber⟩ := Runs.Guarded.cons_of_step hnumber hclear
    simp only [Threads.step, Threads.appStep, happ] at hclear
    cases hclear
    have hstart := Threads.Closing.start h hb happ hstarted
    have hguarded := Runs.Guarded.mem hnumber hclosing
    have hclosed := Runs.Guarded.invariant (fun _ _ _ hi ha hs => hi.step ha.2 ha.1 hs)
      hguarded hrun hstart
    exact hclosed.kept_iff hidle henv hlast

end

/-- One slot: buffer 1 is full, and the flush thread is at the snapshot of its turn. -/
def closingInTurn : List (Action Nat) :=
  runSteps 2 ++ .write 10 :: appSteps 11 ++ .closeThread :: appSteps 1

theorem closeThread_keeps_in_turn : ∃ t,
    Runs.run Threads.step (reached 1 1 closingInTurn)
      (.app {} :: (runSteps 5 ++ appSteps 1)) = some t ∧
    t.app = .idle ∧ t.Kept {} ∧ t.accepted = [10] := by
  obtain ⟨_, _, hcreate, -, hopen, hthread⟩ :=
    @started_setup 1 1 (by decide) (by decide) (by decide)
  have hreach : Runs.run Threads.step (Threads.start (started 1 1)) closingInTurn =
      some (reached 1 1 closingInTurn) := rfl
  have hrun : Runs.run Threads.step (reached 1 1 closingInTurn)
      (.app {} :: (runSteps 5 ++ appSteps 1)) = some _ := rfl
  have henv : Env.Success {} := by decide
  have hkept := (closeThread_keeps_iff hcreate hopen hthread (by decide) hreach rfl (by decide)
    (by decide) (by decide) hrun rfl henv (by decide)).mpr (by decide)
  exact ⟨_, hrun, rfl, hkept, rfl⟩

/-- The flush thread is at its loop test when the ready flag is cleared. -/
def closingAtTest : List (Action Nat) :=
  runSteps 1 ++ .write 10 :: appSteps 11 ++ .closeThread :: appSteps 1

/-- It leaves the loop with buffer 1 still full, and no record is pending. -/
theorem closeThread_loses_buffer :
    Runs.run Threads.step (Threads.start (started 1 1)) closingAtTest =
      some (reached 1 1 closingAtTest) ∧
    (reached 1 1 closingAtTest).app = .closeClear ∧
    (reached 1 1 closingAtTest).run = .loopTest ∧ ∃ t,
    Runs.run Threads.step (reached 1 1 closingAtTest)
      (appSteps 1 ++ runSteps 1 ++ appSteps 1) = some t ∧
    t.app = .idle ∧ t.log.isFullBuffer1 = true ∧ t.log.countBufferCurrent = 0 ∧
    t.accepted = [10] ∧ t.log.file.logContents = [] ∧ ¬ t.Kept {} := by
  have hrun : Runs.run Threads.step (reached 1 1 closingAtTest)
      (appSteps 1 ++ runSteps 1 ++ appSteps 1) = some _ := rfl
  refine ⟨rfl, rfl, rfl, _, hrun, rfl, rfl, rfl, rfl, rfl, ?_⟩
  intro hkept
  cases hkept.1

end HexrotPxiCom.LogTlm
