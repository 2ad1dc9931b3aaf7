import HexrotPxiCom.LogTlm.FileUsers
import HexrotPxiCom.LogTlm.Ownership

/-!
# The log file has one user at a time

The writer alone sets the flags of the full buffers, and the flush thread clears them after it
has left the file. So the flags that are seen clear at the head of a call stay clear in it.
-/

namespace HexrotPxiCom.LogTlm

set_option autoImplicit false

universe u
variable {ρ : Type u}

namespace Users

/-- The flush thread is inside `logTlm_flushToFile`. -/
def FlushThreadInFile (t : Users ρ) : Prop := t.run = .flush2 ∨ ∃ b, t.run = .flush1 b

/-- The application thread is inside `logTlm_flushToFile` or between the `logTlm_close` and the
new counters of `logTlm_open`. -/
def AppInFile (t : Users ρ) : Prop :=
  match t.call with
  | .flush (.toFile _) | .openLog .close _ _ | .openLog .fopen _ _ | .openLog .setCounts _ _ => True
  | _ => False

/-- The application thread has seen in its call that nothing is being flushed, and still relies
on it. -/
def PastTest (t : Users ρ) : Prop :=
  match t.call with
  | .flush (.toFile _) | .openLog .close _ _ | .openLog .fopen _ _ | .openLog .setCounts _ _
  | .openLog .setBuffer _ _ | .openLog .clearFull _ _ => True
  | _ => False

theorem AppInFile.pastTest {t : Users ρ} (h : t.AppInFile) : t.PastTest := by
  unfold AppInFile at h
  unfold PastTest
  split at h
  · rename_i hcall
    simp [hcall]
  · rename_i hcall
    simp [hcall]
  · rename_i hcall
    simp [hcall]
  · rename_i hcall
    simp [hcall]
  · cases h

/-- The flush thread does not start a flush: no buffer is full, or the thread does not run. -/
def Quiet (t : Users ρ) : Prop :=
  (t.log.isFullBuffer1 = false ∧ t.log.isFullBuffer2 = false) ∨
    (t.log.isThreadReady = false ∧ (t.run = .startWait ∨ t.run = .done))

/-- Why the two threads are not in the file together. -/
structure Exclusive (t : Users ρ) : Prop where
  full1 : t.run.flushing1 = true → t.log.isFullBuffer1 = true
  full2 : t.run.flushing2 = true → t.log.isFullBuffer2 = true
  quiet : t.PastTest → t.Quiet
  stopped : t.log.isThreadReady = false → t.app = .closeJoin ∨ t.run = .startWait ∨ t.run = .done
  calling : t.call ≠ .none → t.app = .idle ∨ ∃ r, t.app = .flush r

namespace Exclusive

variable {t u : Users ρ}

theorem oneUser (h : t.Exclusive) : ¬ (t.FlushThreadInFile ∧ t.AppInFile) := by
  rintro ⟨hrun, happ⟩
  rcases h.quiet happ.pastTest with ⟨hnone1, hnone2⟩ | ⟨-, hout⟩
  · rcases hrun with hr | ⟨b, hr⟩
    · rw [h.full2 (by rw [hr]; rfl)] at hnone2
      cases hnone2
    · rw [h.full1 (by rw [hr]; rfl)] at hnone1
      cases hnone1
  · rcases hrun with hr | ⟨b, hr⟩
    · rw [hr] at hout
      rcases hout with hout | hout <;> cases hout
    · rw [hr] at hout
      rcases hout with hout | hout <;> cases hout

theorem runKeep (h : t.Exclusive) (hcall : u.call = t.call) (happ : u.app = t.app)
    (hready : u.log.isThreadReady = t.log.isThreadReady)
    (hflag1 : t.log.isFullBuffer1 = false → u.log.isFullBuffer1 = false)
    (hflag2 : t.log.isFullBuffer2 = false → u.log.isFullBuffer2 = false)
    (hfull1 : u.run.flushing1 = true → u.log.isFullBuffer1 = true)
    (hfull2 : u.run.flushing2 = true → u.log.isFullBuffer2 = true)
    (hout : t.log.isThreadReady = false → t.run = .startWait ∨ t.run = .done →
      u.run = .startWait ∨ u.run = .done) : u.Exclusive := by
  refine ⟨hfull1, hfull2, ?_, ?_, ?_⟩
  · unfold PastTest Quiet
    rw [hcall, hready]
    intro hpast
    rcases h.quiet hpast with ⟨hnone1, hnone2⟩ | ⟨hstop, hrun⟩
    · exact Or.inl ⟨hflag1 hnone1, hflag2 hnone2⟩
    · exact Or.inr ⟨hstop, hout hstop hrun⟩
  · rw [hready, happ]
    intro hstop
    rcases h.stopped hstop with hjoin | hrun
    · exact Or.inl hjoin
    · exact Or.inr (hout hstop hrun)
  · rw [hcall, happ]
    exact h.calling

theorem runLoop (h : t.Exclusive) (hrun : t.run ≠ .startWait ∧ t.run ≠ .done)
    (hcall : u.call = t.call) (happ : u.app = t.app)
    (hready : u.log.isThreadReady = t.log.isThreadReady)
    (hflag1 : t.log.isFullBuffer1 = false → u.log.isFullBuffer1 = false)
    (hflag2 : t.log.isFullBuffer2 = false → u.log.isFullBuffer2 = false)
    (hfull1 : u.run.flushing1 = true → u.log.isFullBuffer1 = true)
    (hfull2 : u.run.flushing2 = true → u.log.isFullBuffer2 = true) : u.Exclusive :=
  h.runKeep hcall happ hready hflag1 hflag2 hfull1 hfull2
    fun _ hor => absurd hor (not_or.mpr hrun)

theorem runToFile {io : Stdio} {pBuffer : Option Nat} {next : RunPc} (h : t.Exclusive)
    (hrun : t.run ≠ .startWait ∧ t.run ≠ .done)
    (hnext1 : next.flushing1 = true → t.log.isFullBuffer1 = true)
    (hnext2 : next.flushing2 = true → t.log.isFullBuffer2 = true) :
    (t.runToFile io pBuffer next).Exclusive := by
  unfold Users.runToFile
  split
  · exact h.runLoop hrun rfl rfl rfl id id h.full1 h.full2
  · refine h.runLoop hrun rfl rfl rfl id id ?_ ?_
    · dsimp only
      split
      · exact hnext1
      · exact h.full1
    · dsimp only
      split
      · exact hnext2
      · exact h.full2

theorem runStep {env : Env} (h : t.Exclusive) (hstep : t.runStep env = some u) :
    u.Exclusive := by
  cases Users.runStep_step hstep with
  | snapshot hrun =>
    refine h.runLoop (by simp [hrun]) rfl rfl rfl id id ?_ ?_
    all_goals
      cases env.tryLock <;> cases h1 : t.log.isFullBuffer1 <;> cases h2 : t.log.isFullBuffer2 <;>
        simp [RunPc.flushing1, RunPc.flushing2]
  | flush1 b hrun =>
    refine h.runToFile (by simp [hrun]) (fun _ => ?_) (fun hb => ?_)
    · exact h.full1 (by rw [hrun]; rfl)
    · exact h.full2 (by rw [hrun]; exact hb)
  | flush2 hrun =>
    refine h.runToFile (by simp [hrun]) (fun hb => by cases hb) (fun _ => ?_)
    exact h.full2 (by rw [hrun]; rfl)
  | loop v hv =>
    cases hv with
    | wait => exact h
    | enter hrun hready =>
      refine h.runKeep rfl rfl rfl id id (fun hb => by cases hb) (fun hb => by cases hb) ?_
      intro hstop
      rw [hready] at hstop
      cases hstop
    | toFlush1 hrun _ hfull1 =>
      exact h.runLoop (by simp [hrun]) rfl rfl rfl id id (fun _ => hfull1) id
    | toFlush2 hrun _ _ hfull2 =>
      exact h.runLoop (by simp [hrun]) rfl rfl rfl id id (fun hb => by cases hb) fun _ => hfull2
    | flush1 b hrun =>
      exact h.runLoop (by simp [hrun]) rfl rfl rfl id id (fun _ => h.full1 (by rw [hrun]; rfl))
        fun hb => h.full2 (by rw [hrun]; exact hb)
    | clear1ToFlush2 hrun =>
      exact h.runLoop (by simp [hrun]) rfl rfl rfl (fun _ => rfl) id (fun hb => by cases hb)
        fun _ => h.full2 (by rw [hrun]; rfl)
    | clear1 hrun =>
      exact h.runLoop (by simp [hrun]) rfl rfl rfl (fun _ => rfl) id (fun hb => by cases hb)
        fun hb => by cases hb
    | flush2 hrun =>
      exact h.runLoop (by simp [hrun]) rfl rfl rfl id id (fun hb => by cases hb)
        fun _ => h.full2 (by rw [hrun]; rfl)
    | clear2 hrun =>
      exact h.runLoop (by simp [hrun]) rfl rfl rfl id (fun _ => rfl) (fun hb => by cases hb)
        fun hb => by cases hb
    | _ hrun =>
      exact h.runLoop (by simp [hrun]) rfl rfl rfl id id (fun hb => by cases hb)
        fun hb => by cases hb

/-- A step of the application thread in or into a call that changes no flag. -/
theorem callKeep (h : t.Exclusive) (hrun : u.run = t.run)
    (hflags : u.log.isFullBuffer1 = t.log.isFullBuffer1 ∧
      u.log.isFullBuffer2 = t.log.isFullBuffer2 ∧ u.log.isThreadReady = t.log.isThreadReady)
    (hpast : u.PastTest → t.Quiet) (hjoin : t.app = .closeJoin → u.app = .closeJoin)
    (hcalling : u.call ≠ .none → u.app = .idle ∨ ∃ r, u.app = .flush r) : u.Exclusive := by
  obtain ⟨hflag1, hflag2, hready⟩ := hflags
  refine ⟨?_, ?_, ?_, ?_, hcalling⟩
  · rw [hrun, hflag1]
    exact h.full1
  · rw [hrun, hflag2]
    exact h.full2
  · unfold Quiet
    rw [hflag1, hflag2, hready, hrun]
    exact hpast
  · rw [hready, hrun]
    intro hstop
    rcases h.stopped hstop with hclose | hout
    · exact Or.inl (hjoin hclose)
    · exact Or.inr hout

theorem not_closeJoin (h : t.Exclusive) (hcall : t.call ≠ .none) : t.app ≠ .closeJoin := by
  intro hclose
  rcases h.calling hcall with happ | ⟨r, happ⟩
  · rw [hclose] at happ
    cases happ
  · rw [hclose] at happ
    cases happ

theorem quiet_of_stopped (h : t.Exclusive) (hcall : t.call ≠ .none)
    (hstop : t.log.isThreadReady = false) : t.Quiet :=
  Or.inr ⟨hstop, (h.stopped hstop).resolve_left (h.not_closeJoin hcall)⟩

/-- When `logTlm_isFlushing` returns false, no flush is going on. -/
theorem quiet_of_isFlushing {tryLock : Bool} {pc : IsFlushingPc} (h : t.Exclusive)
    (hcall : t.call ≠ .none) (hfalse : t.log.isFlushingStep tryLock pc = .inr false) :
    t.Quiet := by
  cases pc with
  | testReady =>
    apply h.quiet_of_stopped hcall
    simp only [State.isFlushingStep] at hfalse
    split at hfalse
    · cases hfalse
    · rename_i hready
      exact Bool.eq_false_iff.mpr hready
  | tryLock =>
    left
    unfold State.isFlushingStep at hfalse
    cases tryLock with
    | false => cases hfalse
    | true =>
      have hor : (t.log.isFullBuffer1 || t.log.isFullBuffer2) = false := Sum.inr.inj hfalse
      exact Bool.or_eq_false_iff.mp hor

theorem ret (h : t.Exclusive) (result : Int) : (t.ret result).Exclusive :=
  h.callKeep rfl ⟨rfl, rfl, rfl⟩ (fun hpast => hpast.elim) id fun hcall => absurd rfl hcall

theorem retFlush (h : t.Exclusive) (hcall : t.call ≠ .none) (result : Int) :
    (t.retFlush result).Exclusive := by
  have hclose := h.not_closeJoin hcall
  unfold Users.retFlush
  split
  · exact h.callKeep rfl ⟨rfl, rfl, rfl⟩ (fun hpast => hpast.elim) (fun hj => absurd hj hclose)
      fun hcall => absurd rfl hcall
  · exact h.ret result

theorem flushStep {env : Env} {pc : FlushPc} (h : t.Exclusive) (hpc : t.call = .flush pc) :
    (t.flushStep env pc).Exclusive := by
  have hcall : t.call ≠ .none := by simp [hpc]
  have hcalling := h.calling hcall
  cases pc with
  | testFile =>
    unfold Users.flushStep
    dsimp only
    split
    · exact h.retFlush hcall (-1)
    · exact h.callKeep rfl ⟨rfl, rfl, rfl⟩ (fun hpast => hpast.elim) id fun _ => hcalling
  | testReady =>
    unfold Users.flushStep
    dsimp only
    split
    · exact h.callKeep rfl ⟨rfl, rfl, rfl⟩ (fun hpast => hpast.elim) id fun _ => hcalling
    · rename_i hready
      have hstop : t.log.isThreadReady = false := Bool.eq_false_iff.mpr hready
      exact h.callKeep rfl ⟨rfl, rfl, rfl⟩ (fun _ => h.quiet_of_stopped hcall hstop) id
        fun _ => hcalling
  | isFlushing pc =>
    unfold Users.flushStep
    dsimp only
    split
    · exact h.callKeep rfl ⟨rfl, rfl, rfl⟩ (fun hpast => hpast.elim) id fun _ => hcalling
    · exact h.retFlush hcall (-1)
    · rename_i hfalse
      exact h.callKeep rfl ⟨rfl, rfl, rfl⟩ (fun _ => h.quiet_of_isFlushing hcall hfalse) id
        fun _ => hcalling
  | toFile pc =>
    have hquiet : t.Quiet := h.quiet (by unfold PastTest; rw [hpc]; trivial)
    exact h.callKeep rfl ⟨rfl, rfl, rfl⟩ (fun _ => hquiet) id fun _ => hcalling
  | resetCount =>
    have hkeep : Exclusive { t with log := { t.log with countBufferCurrent := 0 } } :=
      h.callKeep rfl ⟨rfl, rfl, rfl⟩ (fun hpast => h.quiet hpast) id fun _ => hcalling
    exact hkeep.retFlush hcall 0

theorem clearFull (h : t.Exclusive) (hquiet : t.Quiet) :
    Exclusive { t with log := { t.log with isFullBuffer1 := false, isFullBuffer2 := false } } := by
  have hnone : t.run.flushing1 = false ∧ t.run.flushing2 = false := by
    rcases hquiet with ⟨hnone1, hnone2⟩ | ⟨-, hr | hr⟩
    · refine ⟨Bool.eq_false_iff.mpr fun hf => ?_, Bool.eq_false_iff.mpr fun hf => ?_⟩
      · rw [h.full1 hf] at hnone1
        cases hnone1
      · rw [h.full2 hf] at hnone2
        cases hnone2
    · rw [hr]
      exact ⟨rfl, rfl⟩
    · rw [hr]
      exact ⟨rfl, rfl⟩
  refine ⟨?_, ?_, fun _ => Or.inl ⟨rfl, rfl⟩, h.stopped, h.calling⟩
  · dsimp only
    rw [hnone.1]
    exact fun hf => hf
  · dsimp only
    rw [hnone.2]
    exact fun hf => hf

theorem openStep {env : Env} {filename : String} {recordPerFile : Int} {pc : OpenPc}
    (h : t.Exclusive) (hpc : t.call = .openLog pc filename recordPerFile) :
    (t.openStep env filename recordPerFile pc).Exclusive := by
  have hcall : t.call ≠ .none := by simp [hpc]
  have hcalling := h.calling hcall
  have hquiet : t.PastTest → t.Quiet := h.quiet
  unfold PastTest at hquiet
  rw [hpc] at hquiet
  cases pc with
  | testSize =>
    unfold Users.openStep
    dsimp only
    split
    · exact h.ret (-1)
    · exact h.callKeep rfl ⟨rfl, rfl, rfl⟩ (fun hpast => hpast.elim) id fun _ => hcalling
  | isFlushing pc =>
    unfold Users.openStep
    dsimp only
    split
    · exact h.callKeep rfl ⟨rfl, rfl, rfl⟩ (fun hpast => hpast.elim) id fun _ => hcalling
    · exact h.ret (-1)
    · rename_i hfalse
      exact h.callKeep rfl ⟨rfl, rfl, rfl⟩ (fun _ => h.quiet_of_isFlushing hcall hfalse) id
        fun _ => hcalling
  | close | fopen =>
    have hq := hquiet trivial
    unfold Users.openStep
    dsimp only
    split
    · exact h.callKeep rfl ⟨rfl, rfl, rfl⟩ (fun hpast => hpast.elim) id
        fun hcall => absurd rfl hcall
    · exact h.callKeep rfl ⟨rfl, rfl, rfl⟩ (fun _ => hq) id fun _ => hcalling
  | setCounts | setBuffer =>
    have hq := hquiet trivial
    exact h.callKeep rfl ⟨rfl, rfl, rfl⟩ (fun _ => hq) id fun _ => hcalling
  | clearFull => exact (h.clearFull (hquiet trivial)).ret 0

/-- A step of `logTlm_write` or `logTlm_closeThread` outside of `logTlm_flush`. -/
theorem threadsStep {env : Env} {v : Threads ρ} (h : t.Exclusive) (hcall : t.call = .none)
    (hstep : t.toThreads.appStep env = some v) : Exclusive { t with toThreads := v } := by
  have hkeep (v : Threads ρ) (hrun : v.run = t.run)
      (hflags : v.log.isFullBuffer1 = t.log.isFullBuffer1 ∧
        v.log.isFullBuffer2 = t.log.isFullBuffer2 ∧ v.log.isThreadReady = t.log.isThreadReady)
      (hjoin : t.app ≠ .closeJoin) : Exclusive { t with toThreads := v } := by
    refine h.callKeep hrun hflags (fun hpast => ?_) (fun hj => absurd hj hjoin)
      fun hne => absurd hcall hne
    simp [PastTest, hcall] at hpast
  have hnone : ∀ u : Users ρ, u.call = .none → u.PastTest → u.Quiet := by
    intro u hu hpast
    simp [PastTest, hu] at hpast
  cases Threads.appStep_step hstep with
  | copy r happ => exact hkeep _ rfl ⟨by simp, by simp, by simp⟩ (by simp [happ])
  | flush r happ =>
    refine hkeep _ rfl ?_ (by simp [happ])
    rcases State.flush_cases t.log env with heq | heq
    · simp [Threads.ret, heq]
    · simp [Threads.ret, heq, State.flushToFile]
  | lock1ToSetNull r happ | lock1 r happ =>
    have hstopped := fun hstop => (h.stopped hstop).resolve_left (by simp [happ])
    exact ⟨fun _ => rfl, h.full2, hnone _ hcall, fun hstop => Or.inr (hstopped hstop), fun hne =>
      absurd hcall hne⟩
  | lock2ToSetNull r happ | lock2 r happ =>
    have hstopped := fun hstop => (h.stopped hstop).resolve_left (by simp [happ])
    exact ⟨h.full1, fun _ => rfl, hnone _ hcall, fun hstop => Or.inr (hstopped hstop), fun hne =>
      absurd hcall hne⟩
  | toCloseClear happ | noThread happ => exact hkeep _ rfl ⟨rfl, rfl, rfl⟩ (by simp [happ])
  | closeClear =>
    exact ⟨h.full1, h.full2, hnone _ hcall, fun _ => Or.inl rfl, fun hne => absurd hcall hne⟩
  | joined happ hdone =>
    exact ⟨h.full1, h.full2, hnone _ hcall, fun _ => Or.inr (Or.inr hdone), fun hne =>
      absurd hcall hne⟩
  | _ r happ => exact hkeep _ rfl ⟨rfl, rfl, rfl⟩ (by simp [happ])

theorem appStep {env : Env} (h : t.Exclusive) (hstep : t.appStep env = some u) :
    u.Exclusive := by
  unfold Users.appStep at hstep
  cases hcall : t.call <;> simp only [hcall] at hstep
  case none =>
    split at hstep
    · rename_i r happ
      cases hstep
      refine h.callKeep rfl ⟨rfl, rfl, rfl⟩ (fun hpast => hpast.elim) id fun _ => Or.inr ⟨r, happ⟩
    · obtain ⟨v, hv, rfl⟩ := Option.map_eq_some_iff.mp hstep
      have hv' := h.threadsStep hcall hv
      rw [hcall] at hv'
      exact hv'
  case isFlushing pc =>
    split at hstep
    · cases hstep
      exact h.callKeep rfl ⟨rfl, rfl, rfl⟩ (fun hpast => hpast.elim) id
        fun _ => h.calling (by simp [hcall])
    · cases hstep
      exact h.ret _
  case flush pc =>
    cases hstep
    exact h.flushStep hcall
  case openLog pc filename recordPerFile =>
    cases hstep
    exact h.openStep hcall

theorem step {a : UserAction ρ} (h : t.Exclusive) (hstep : t.step a = some u) :
    u.Exclusive := by
  have hidle (ht : t.isIdle = true) : t.app = .idle ∧ t.call = .none := by
    unfold isIdle at ht
    obtain ⟨happ, hcall⟩ := Bool.and_eq_true_iff.mp ht
    refine ⟨?_, beq_iff_eq.mp hcall⟩
    cases ha : t.app <;> simp [ha, AppPc.isIdle] at happ ⊢
  cases a with
  | app env => exact h.appStep hstep
  | run env => exact h.runStep hstep
  | write r | closeThread =>
    unfold Users.step at hstep
    dsimp only at hstep
    split at hstep
    · rename_i ht
      obtain ⟨happ, hcall⟩ := hidle ht
      cases hstep
      refine h.callKeep rfl ⟨rfl, rfl, rfl⟩ (fun hpast => ?_) (fun hj => ?_) fun hne =>
        absurd hcall hne
      · simp [PastTest, hcall] at hpast
      · rw [happ] at hj
        cases hj
    · cases hstep
  | flush | openLog | isFlushing =>
    unfold Users.step at hstep
    dsimp only at hstep
    split at hstep
    · rename_i ht
      cases hstep
      exact h.callKeep rfl ⟨rfl, rfl, rfl⟩ (fun hpast => hpast.elim) id
        fun _ => Or.inl (hidle ht).1
    · cases hstep

end Exclusive

section
variable {env : Env} {t u : Users ρ}

/-- Outside of `logTlm_flushToFile` the flush thread leaves the file alone. -/
theorem runStep_file (hstep : t.runStep env = some u) (hout : ¬ t.FlushThreadInFile) :
    u.log.file = t.log.file := by
  cases runStep_step hstep with
  | snapshot => rfl
  | flush1 b hrun => exact absurd (Or.inr ⟨b, hrun⟩) hout
  | flush2 hrun => exact absurd (Or.inl hrun) hout
  | loop v hv =>
    cases hv with
    | flush1 b hrun => exact absurd (Or.inr ⟨b, hrun⟩) hout
    | flush2 hrun => exact absurd (Or.inl hrun) hout
    | _ => rfl

theorem retFlush_file (result : Int) (t : Users ρ) :
    (t.retFlush result).log.file = t.log.file := by
  unfold retFlush
  split <;> rfl

theorem threadsStep_file {v : Threads ρ} {w : Threads ρ} (hflush : ∀ r, w.app ≠ .flush r)
    (hstep : w.appStep env = some v) : v.log.file = w.log.file := by
  cases Threads.appStep_step hstep with
  | flush r happ => exact absurd happ (hflush r)
  | copy => simp
  | _ => rfl

theorem appStep_file (hstep : t.appStep env = some u) (hout : ¬ t.AppInFile) :
    u.log.file = t.log.file := by
  unfold AppInFile at hout
  unfold appStep at hstep
  cases hcall : t.call <;> simp only [hcall] at hstep hout
  case none =>
    split at hstep
    · cases hstep
      rfl
    · rename_i hflush
      obtain ⟨v, hv, rfl⟩ := Option.map_eq_some_iff.mp hstep
      exact threadsStep_file (fun r hr => hflush r hr) hv
  case isFlushing pc =>
    split at hstep
    · cases hstep
      rfl
    · cases hstep
      rfl
  case flush pc =>
    cases hstep
    cases pc with
    | testFile | testReady =>
      unfold flushStep
      dsimp only
      split
      · first | exact retFlush_file _ t | rfl
      · rfl
    | isFlushing pc =>
      unfold flushStep
      dsimp only
      split
      · rfl
      · exact retFlush_file _ t
      · rfl
    | toFile pc => exact absurd trivial hout
    | resetCount => exact retFlush_file _ _
  case openLog pc filename recordPerFile =>
    cases hstep
    cases pc with
    | testSize =>
      unfold openStep
      dsimp only
      split
      · rfl
      · rfl
    | isFlushing pc =>
      unfold openStep
      dsimp only
      split
      · rfl
      · rfl
      · rfl
    | close | fopen | setCounts => exact absurd trivial hout
    | setBuffer | clearFull => rfl

/-- The two threads are not in the file together, and a step that changes the file is one of
the thread that is in it alone. -/
structure OneUser (t : Users ρ) : Prop where
  apart : ¬ (t.FlushThreadInFile ∧ t.AppInFile)
  changed : ∀ a u, t.step a = some u → u.log.file ≠ t.log.file →
    ((∃ env, a = .run env) ∧ t.FlushThreadInFile ∧ ¬ t.AppInFile) ∨
      ((∃ env, a = .app env) ∧ t.AppInFile ∧ ¬ t.FlushThreadInFile)

theorem Exclusive.users (h : t.Exclusive) : t.OneUser := by
  have hapart := h.oneUser
  refine ⟨hapart, ?_⟩
  intro a u hstep hchanged
  cases a with
  | run env =>
    have hin : t.FlushThreadInFile := by
      by_contra hout
      exact hchanged (runStep_file hstep hout)
    exact Or.inl ⟨⟨env, rfl⟩, hin, fun happ => hapart ⟨hin, happ⟩⟩
  | app env =>
    have hin : t.AppInFile := by
      by_contra hout
      exact hchanged (appStep_file hstep hout)
    exact Or.inr ⟨⟨env, rfl⟩, hin, fun hrun => hapart ⟨hrun, hin⟩⟩
  | write | closeThread | flush | openLog | isFlushing =>
    simp only [Users.step] at hstep
    split at hstep
    · cases hstep
      exact absurd rfl hchanged
    · cases hstep

theorem Exclusive.start (s : State ρ) : (Users.start s).Exclusive := by
  refine ⟨?_, ?_, fun hpast => hpast.elim, fun _ => Or.inr (Or.inl rfl), fun hcall => ?_⟩
  · intro hfull
    cases hfull
  · intro hfull
    cases hfull
  · exact absurd rfl hcall

end

end Users

/-- The log file has one user at a time, in every run from the start of the flush thread on. -/
theorem one_user {s : State ρ} {as : List (UserAction ρ)} {t : Users ρ}
    (hrun : Runs.run Users.step (.start s) as = some t) : t.OneUser :=
  (Runs.run_invariant (fun _ _ _ h hs => h.step hs) hrun (Users.Exclusive.start s)).users

/-- A full buffer is being flushed when `logTlm_flush` is called, which returns -1. -/
def flushWhileFlushing : List (UserAction Nat) :=
  [.write 10] ++ List.replicate 11 (.app {}) ++ List.replicate 4 (.run {}) ++ [.flush] ++
    List.replicate 4 (.app {})

theorem one_user_flushing : ∃ t,
    Runs.run Users.step (.start (started 1 1)) flushWhileFlushing = some t ∧
    t.run = .flush1 false ∧ t.call = .none ∧ t.result = -1 ∧ t.OneUser := by
  have hrun : (Runs.run Users.step (.start (started 1 1)) flushWhileFlushing).any (fun t =>
      t.run == .flush1 false && t.call == .none && t.result == -1) = true := by
    decide +kernel
  obtain ⟨t, ht, hall⟩ := (Option.any_eq_true _ _).mp hrun
  simp only [Bool.and_eq_true, beq_iff_eq] at hall
  exact ⟨t, ht, hall.1.1, hall.1.2, hall.2, one_user ht⟩

end HexrotPxiCom.LogTlm
