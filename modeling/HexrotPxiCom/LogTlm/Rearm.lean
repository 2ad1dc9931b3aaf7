import HexrotPxiCom.LogTlm.Threads

/-!
# A NULL current buffer is re-armed

Both buffers full, the writer decides under the lock and stores NULL afterwards. When the
flush thread never passes its test of `pBufferCurrent` between these two steps with both
flags already cleared, a NULL `pBufferCurrent` always has its re-arm still to come.
-/

namespace HexrotPxiCom.LogTlm

set_option autoImplicit false

open State

universe u
variable {ρ : Type u}

/-- Inside the flushing branch, before the test of `pBufferCurrent`. -/
def RunPc.beforeTest : RunPc → Bool
  | .flush1 _ | .clear1 _ | .flush2 | .clear2 | .testCurrent => true
  | _ => false

def AppPc.atSetNull : AppPc ρ → Bool
  | .setNull _ => true
  | _ => false

/-- A full flag is set, or the flush thread has its test of `pBufferCurrent` to come. -/
def Threads.Pending (t : Threads ρ) : Prop :=
  t.log.isFullBuffer1 = true ∨ t.log.isFullBuffer2 = true ∨ t.run.beforeTest = true

/-- The flush thread does not test `pBufferCurrent` with both flags false while the writer
is about to store NULL. -/
def TestAfterStore (t : Threads ρ) : Action ρ → Prop
  | .run _ => t.run = .testCurrent → t.app.atSetNull = true →
      t.log.isFullBuffer1 = true ∨ t.log.isFullBuffer2 = true
  | _ => True

instance (t : Threads ρ) : ∀ a, Decidable (TestAfterStore t a)
  | .run _ => inferInstanceAs (Decidable (_ → _ → _))
  | .write _ | .closeThread | .app _ => .isTrue trivial

/-- A NULL current buffer is seen by the flush thread, which then stores a buffer. -/
structure Threads.Rearm (t : Threads ρ) : Prop where
  buffer1 : t.log.pBuffer1 ≠ none
  buffer2 : t.log.pBuffer2 ≠ none
  null_app : t.log.pBufferCurrent = none → t.app.beforeTest = true
  null : t.log.pBufferCurrent = none → t.Pending ∨ t.run = .setCurrent
  null_run : t.run = .setCurrent → t.log.pBufferCurrent = none
  storing : t.app.atSetNull = true → t.Pending

namespace Threads.Rearm
variable {t u : Threads ρ} {env : Env}

theorem pending_of_flags (h : t.Pending) (hrun : t.run.beforeTest = false)
    (h1 : u.log.isFullBuffer1 = t.log.isFullBuffer1)
    (h2 : u.log.isFullBuffer2 = t.log.isFullBuffer2) : u.Pending := by
  rcases h with hf | hf | hf
  · exact Or.inl (h1.trans hf)
  · exact Or.inr (Or.inl (h2.trans hf))
  · rw [hrun] at hf
    cases hf

/-- A step of the flush thread other than its test and the assignment after it. -/
theorem keep_run (h : t.Rearm) (happ : u.app = t.app)
    (hcur : u.log.pBufferCurrent = t.log.pBufferCurrent)
    (h1 : u.log.pBuffer1 = t.log.pBuffer1) (h2 : u.log.pBuffer2 = t.log.pBuffer2)
    (hrun : t.run ≠ .setCurrent) (hrun' : u.run ≠ .setCurrent) (hpend : t.Pending → u.Pending) :
    u.Rearm where
  buffer1 := h1 ▸ h.buffer1
  buffer2 := h2 ▸ h.buffer2
  null_app := by
    rw [happ, hcur]
    exact h.null_app
  null := by
    rw [hcur]
    intro hnone
    rcases h.null hnone with hp | hs
    · exact Or.inl (hpend hp)
    · exact absurd hs hrun
  null_run := fun hs => absurd hs hrun'
  storing := by
    rw [happ]
    exact fun hset => hpend (h.storing hset)

theorem runStep (h : t.Rearm) (hsafe : TestAfterStore t (.run env))
    (hstep : t.runStep env = some u) : u.Rearm := by
  cases runStep_step hstep with
  | wait => exact h
  | enter hrun | toSnapshot hrun | leave hrun | toSleep hrun | resetCount hrun | sleep hrun =>
    exact h.keep_run rfl rfl rfl rfl (by simp [hrun]) (by simp) fun hp =>
      pending_of_flags hp (by simp [hrun, RunPc.beforeTest]) rfl rfl
  | toFlush1 hrun | toFlush2 hrun | clear1ToFlush2 hrun | clear1 hrun | flush2 hrun
  | clear2 hrun =>
    exact h.keep_run rfl rfl rfl rfl (by simp [hrun]) (by simp) fun _ => Or.inr (Or.inr rfl)
  | flush1 b hrun =>
    exact h.keep_run rfl rfl rfl rfl (by simp [hrun]) (by simp) fun _ => Or.inr (Or.inr rfl)
  -- where the branch ends: a NULL goes on to the assignment, else a writer about to
  -- store NULL has left a full flag for the next turn
  | toSetCurrent hrun hnone =>
    exact ⟨h.buffer1, h.buffer2, h.null_app, fun _ => Or.inr rfl, fun _ => hnone,
      fun hset => (hsafe hrun hset).imp_right Or.inl⟩
  | inUse hrun hsome =>
    exact ⟨h.buffer1, h.buffer2, h.null_app, fun hnone => absurd hnone hsome, by simp,
      fun hset => (hsafe hrun hset).imp_right Or.inl⟩
  | setCurrent hrun =>
    have happ := h.null_app (h.null_run hrun)
    refine ⟨h.buffer1, h.buffer2, fun hnone => absurd hnone h.buffer1,
      fun hnone => absurd hnone h.buffer1, by simp, ?_⟩
    intro hset
    cases ha : t.app <;> simp [ha, AppPc.beforeTest, AppPc.atSetNull] at happ hset

/-- A step of the application thread that leaves `pBufferCurrent` as it is. -/
theorem keep_app (h : t.Rearm) (hrun : u.run = t.run)
    (hcur : u.log.pBufferCurrent = t.log.pBufferCurrent)
    (h1 : u.log.pBuffer1 = t.log.pBuffer1) (h2 : u.log.pBuffer2 = t.log.pBuffer2)
    (hf1 : t.log.isFullBuffer1 = true → u.log.isFullBuffer1 = true)
    (hf2 : t.log.isFullBuffer2 = true → u.log.isFullBuffer2 = true)
    (hnull : t.log.pBufferCurrent = none → u.app.beforeTest = true)
    (hset : u.app.atSetNull = true → u.Pending) : u.Rearm where
  buffer1 := h1 ▸ h.buffer1
  buffer2 := h2 ▸ h.buffer2
  null_app := by
    rw [hcur]
    exact hnull
  null := by
    rw [hcur, hrun]
    intro hnone
    rcases h.null hnone with (hf | hf | hf) | hs
    · exact Or.inl (Or.inl (hf1 hf))
    · exact Or.inl (Or.inr (Or.inl (hf2 hf)))
    · exact Or.inl (Or.inr (Or.inr (hrun ▸ hf)))
    · exact Or.inr hs
  null_run := by
    rw [hcur, hrun]
    exact h.null_run
  storing := hset

theorem current_ne_none (h : t.Rearm) (happ : t.app.beforeTest = false) :
    t.log.pBufferCurrent ≠ none := by
  intro hnone
  rw [h.null_app hnone] at happ
  cases happ

/-- A swap of the buffers stores a pointer that is not NULL. -/
theorem arm (h : t.Rearm) (happ : t.app.beforeTest = false) (hrun : u.run = t.run)
    (hcur : u.log.pBufferCurrent ≠ none) (h1 : u.log.pBuffer1 = t.log.pBuffer1)
    (h2 : u.log.pBuffer2 = t.log.pBuffer2) (hset : u.app.atSetNull = false) : u.Rearm where
  buffer1 := h1 ▸ h.buffer1
  buffer2 := h2 ▸ h.buffer2
  null_app := fun hnone => absurd hnone hcur
  null := fun hnone => absurd hnone hcur
  null_run := by
    rw [hrun]
    exact fun hs => absurd (h.null_run hs) (h.current_ne_none happ)
  storing := by
    rw [hset]
    exact fun hfalse => absurd hfalse (by decide)

theorem appStep (h : t.Rearm) (hstep : t.appStep env = some u) : u.Rearm := by
  -- past the first test of the call the current buffer is not NULL
  have hpast : t.app.beforeTest = false → t.log.pBufferCurrent = none → u.app.beforeTest = true :=
    fun happ hnone => absurd hnone (h.current_ne_none happ)
  cases appStep_step hstep with
  | noBuffer =>
    exact h.keep_app rfl rfl rfl rfl id id (fun _ => rfl) (by simp [ret, AppPc.atSetNull])
  | toTestFile r _ hsome =>
    exact h.keep_app rfl rfl rfl rfl id id (fun hnone => absurd hnone hsome)
      (by simp [AppPc.atSetNull])
  | noFile r ha | toTestSpace r ha | toCopy r ha | noSpace r ha | addCount r ha | notFull r ha
  | toTestThread r ha | toTestWhich r ha | toFlush r ha | toLock1 r ha | toLock2 r ha =>
    exact h.keep_app rfl rfl rfl rfl id id (hpast (by simp [ha, AppPc.beforeTest]))
      (by simp [ret, AppPc.atSetNull])
  | copy r ha =>
    exact h.keep_app rfl (State.copyRecord_pBufferCurrent _) (State.copyRecord_pBuffer1 _)
      (State.copyRecord_pBuffer2 _) (by simp) (by simp) (hpast (by simp [ha, AppPc.beforeTest]))
      (by simp [AppPc.atSetNull])
  | flush r =>
    have hflush : ∀ s : State ρ, s = t.log ∨ s = { t.log.flushToFile env.stdio
        t.log.pBufferCurrent t.log.countBufferCurrent with countBufferCurrent := 0 } →
        Threads.Rearm (ret 0 r { t with log := s }) := by
      rintro s (rfl | rfl) <;>
        exact h.keep_app rfl rfl rfl rfl id id (fun _ => rfl) (by simp [ret, AppPc.atSetNull])
    exact hflush _ (State.flush_cases t.log env)
  | lock1ToSetNull r ha =>
    exact h.keep_app rfl rfl rfl rfl (fun _ => rfl) id (hpast (by simp [ha, AppPc.beforeTest]))
      fun _ => Or.inl rfl
  | lock1 r ha =>
    exact h.keep_app rfl rfl rfl rfl (fun _ => rfl) id (hpast (by simp [ha, AppPc.beforeTest]))
      (by simp [AppPc.atSetNull])
  | lock2ToSetNull r ha =>
    exact h.keep_app rfl rfl rfl rfl id (fun _ => rfl) (hpast (by simp [ha, AppPc.beforeTest]))
      fun _ => Or.inr (Or.inl rfl)
  | lock2 r ha =>
    exact h.keep_app rfl rfl rfl rfl id (fun _ => rfl) (hpast (by simp [ha, AppPc.beforeTest]))
      (by simp [AppPc.atSetNull])
  | swapTo2 r ha => exact h.arm (by simp [ha, AppPc.beforeTest]) rfl h.buffer2 rfl rfl rfl
  | swapTo1 r ha => exact h.arm (by simp [ha, AppPc.beforeTest]) rfl h.buffer1 rfl rfl rfl
  | resetCount =>
    exact h.keep_app rfl rfl rfl rfl id id (fun _ => rfl) (by simp [ret, AppPc.atSetNull])
  | setNull r ha =>
    have hpend : t.Pending := h.storing (by simp [ha, AppPc.atSetNull])
    exact ⟨h.buffer1, h.buffer2, fun _ => rfl, fun _ => Or.inl hpend, fun _ => rfl,
      by simp [ret, AppPc.atSetNull]⟩
  | toCloseClear | noThread | closeClear | joined =>
    exact h.keep_app rfl rfl rfl rfl id id (fun _ => rfl) (by simp [AppPc.atSetNull])

theorem step {a : Action ρ} (h : t.Rearm) (hsafe : TestAfterStore t a)
    (hstep : Threads.step t a = some u) : u.Rearm := by
  cases a with
  | write r =>
    simp only [Threads.step] at hstep
    split at hstep <;> cases hstep
    exact h.keep_app rfl rfl rfl rfl id id (fun _ => rfl) (by simp [AppPc.atSetNull])
  | closeThread =>
    simp only [Threads.step] at hstep
    split at hstep <;> cases hstep
    exact h.keep_app rfl rfl rfl rfl id id (fun _ => rfl) (by simp [AppPc.atSetNull])
  | app env => exact h.appStep hstep
  | run env => exact h.runStep hsafe hstep

/-- The flush thread's own steps left until it stores a buffer, when a flag is set. -/
def stepsLeft : RunPc → Nat
  | .setCurrent => 1
  | .testCurrent => 2
  | .clear2 => 3
  | .flush2 => 4
  | .clear1 _ => 5
  | .flush1 _ => 6
  | .snapshot => 7
  | .loopTest => 8
  | .startWait | .resetCount | .sleep => 9
  | .done => 0

/-- One step of the flush thread alone, with a NULL current buffer. -/
theorem next_run (h : t.Rearm) (hidle : t.app = .idle) (hnull : t.log.pBufferCurrent = none)
    (hready : t.log.isThreadReady = true) (hdone : t.run ≠ .done) :
    ∃ u, t.runStep {} = some u ∧ u.app = .idle ∧ u.log.isThreadReady = true ∧
      (u.log.pBufferCurrent ≠ none ∨ (u.run ≠ .done ∧ stepsLeft u.run < stepsLeft t.run)) := by
  cases hr : t.run
  case snapshot =>
    have hflag : t.log.isFullBuffer1 = true ∨ t.log.isFullBuffer2 = true := by
      rcases h.null hnull with (hf | hf | hf) | hs
      · exact Or.inl hf
      · exact Or.inr hf
      · simp [hr, RunPc.beforeTest] at hf
      · simp [hr] at hs
    cases h1 : t.log.isFullBuffer1 with
    | true => simp [Threads.runStep, hr, h1, hidle, hready, stepsLeft]
    | false =>
      have h2 : t.log.isFullBuffer2 = true := by simpa [h1] using hflag
      simp [Threads.runStep, hr, h1, h2, hidle, hready, stepsLeft]
  case clear1 b =>
    cases b <;> simp [Threads.runStep, hr, hidle, hready, stepsLeft]
  case setCurrent =>
    have h1 := h.buffer1
    simp [Threads.runStep, hr, hidle, hready, h1]
  case done => exact absurd hr hdone
  all_goals simp [Threads.runStep, hr, hidle, hready, hnull, stepsLeft, State.flushToFile]

theorem rearmed (h : t.Rearm) (hidle : t.app = .idle) (hready : t.log.isThreadReady = true)
    (hdone : t.run ≠ .done) :
    Runs.Leads (Threads.runStep {}) (fun u => u.log.pBufferCurrent ≠ none) t := by
  apply Runs.Leads.of_measure (I := fun t : Threads ρ => t.Rearm ∧ t.app = .idle ∧
    t.log.isThreadReady = true ∧ t.run ≠ .done) (fun t => stepsLeft t.run) _
    ⟨h, hidle, hready, hdone⟩
  rintro t ⟨h, hidle, hready, hdone⟩ hcur
  obtain ⟨u, hstep, hidle', hready', hnext⟩ := h.next_run hidle (not_not.mp hcur) hready hdone
  have hsafe : TestAfterStore t (.run {}) := by
    intro _ hset
    simp [hidle, AppPc.atSetNull] at hset
  refine ⟨u, hstep, ?_⟩
  rcases hnext with hsome | ⟨hdone', hlt⟩
  · exact Or.inl hsome
  · exact Or.inr ⟨⟨h.runStep hsafe hstep, hidle', hready', hdone'⟩, hlt⟩

end Threads.Rearm

section
variable [Inhabited ρ] {alloc : Alloc} {env : Env} {filename : String} {n recordPerFile : Int}
  {size : Nat} {created scheduled : Bool} {timeInMs : Int} {s₀ s₁ s₂ s₃ : State ρ}
  {as : List (Action ρ)} {t : Threads ρ}

theorem start_rearm (hcreate : s₀.createBuffer alloc n size = (0, s₁))
    (hbuffer : s₁.pBuffer1 ≠ none)
    (hopen : s₁.openLog env filename recordPerFile = (0, s₂))
    (hthread : s₂.runFlushInNewThread created scheduled timeInMs = (0, s₃)) :
    (Threads.start s₃).Rearm := by
  obtain ⟨hall, -⟩ := createBuffer_allocated hcreate
  obtain ⟨-, a, b, -, ha, hb, -, -⟩ := hall.both hbuffer
  obtain ⟨-, -, rfl⟩ := openLog_cases hopen
  obtain rfl := runFlushInNewThread_cases hthread
  have h1 : s₁.pBuffer1 ≠ none := hbuffer
  have h2 : s₁.pBuffer2 ≠ none := by simp [hb]
  exact ⟨h1, h2, fun _ => rfl, fun hnone => absurd hnone h1, by simp [Threads.start],
    by simp [Threads.start, AppPc.atSetNull]⟩

/-- As long as no test of the flush thread falls between the writer's decision and its
store, a NULL current buffer between two calls is re-armed by the flush thread alone. -/
theorem null_buffer_rearmed (hcreate : s₀.createBuffer alloc n size = (0, s₁))
    (hbuffer : s₁.pBuffer1 ≠ none)
    (hopen : s₁.openLog env filename recordPerFile = (0, s₂))
    (hthread : s₂.runFlushInNewThread created scheduled timeInMs = (0, s₃))
    (hguard : Runs.Guarded Threads.step TestAfterStore (Threads.start s₃) as)
    (hrun : Runs.run Threads.step (Threads.start s₃) as = some t)
    (hidle : t.app = .idle) (hnull : t.log.pBufferCurrent = none) :
    (t.Pending ∨ t.run = .setCurrent) ∧
      (t.log.isThreadReady = true → t.run ≠ .done → ∃ k u,
        Runs.run Threads.step t (List.replicate k (.run {})) = some u ∧
          u.log.pBufferCurrent ≠ none) := by
  have hstart := start_rearm hcreate hbuffer hopen hthread
  have h : t.Rearm :=
    Runs.Guarded.invariant (fun _ _ _ ht hsafe hs => ht.step hsafe hs) hguard hrun hstart
  refine ⟨h.null hnull, ?_⟩
  intro hready hdone
  exact (h.rearmed hidle hready hdone).run Threads.step (.run {})

end

/-- One slot: both buffers fill up before the flush thread flushes both of them. -/
def bothFull : List (Action Nat) :=
  runSteps 2 ++ .write 10 :: appSteps 11 ++ .write 11 :: appSteps 9 ++ runSteps 1

theorem null_buffer_rearmed_both : ∃ t,
    Runs.run Threads.step (Threads.start (started 1 1)) (bothFull ++ appSteps 1) = some t ∧
    t.app = .idle ∧ t.log.pBufferCurrent = none ∧ (t.Pending ∨ t.run = .setCurrent) := by
  obtain ⟨_, _, hcreate, hne, hopen, hthread⟩ :=
    @started_setup 1 1 (by decide) (by decide) (by decide)
  have hrun : Runs.run Threads.step (Threads.start (started 1 1)) (bothFull ++ appSteps 1) =
      some _ := rfl
  refine ⟨_, hrun, rfl, rfl, ?_⟩
  exact (null_buffer_rearmed hcreate hne hopen hthread (by decide) hrun rfl rfl).1

/-- The flush thread flushes and clears both buffers and passes its test before the writer
stores NULL: no flag is set, and no re-arm is to come. -/
theorem null_buffer_stuck : ∃ t,
    Runs.run Threads.step (Threads.start (started 1 1))
      (bothFull ++ runSteps 5 ++ appSteps 1) = some t ∧
    t.app = .idle ∧ t.log.pBufferCurrent = none ∧ t.log.isThreadReady = true ∧
    t.run = .loopTest ∧ ¬ t.Pending := by
  have hrun : Runs.run Threads.step (Threads.start (started 1 1))
      (bothFull ++ runSteps 5 ++ appSteps 1) = some _ := rfl
  refine ⟨_, hrun, rfl, rfl, rfl, rfl, ?_⟩
  rintro (hf | hf | hf) <;> cases hf

end HexrotPxiCom.LogTlm
