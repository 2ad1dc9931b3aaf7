import HexrotPxiCom.Lib.Double
import HexrotPxiCom.Lib.Timespec
import HexrotPxiCom.LogTlm.Threads

/-!
# The loop delay time of the flush thread

The two threads together with the local `sleepTime` of `logTlm_run` and the answers of its
`nanosleep`. The caller of `logTlm_runFlushInNewThread` leaves the checking time as it is.
-/

namespace HexrotPxiCom.LogTlm

set_option autoImplicit false

universe u
variable {ρ : Type u}

def nsPerMs : Int := 1000000

/-- `tv_nsec` is computed as a double, and `tv_sec` is 0. -/
def loopDelay (timeInMs : Int32) : Option Timespec := do
  return ⟨0, ← ((Double.ofInt timeInMs.toInt).mul (Double.ofInt 1000000)).toLong⟩

/-- A call of `nanosleep` and for how long it suspends the thread, unless it fails. -/
structure Nap where
  rqtp : Timespec
  suspended : Option Int
  deriving Repr, DecidableEq

/-- `sleepTime` is set when the thread is ready. -/
structure Delayed (ρ : Type u) where
  threads : Threads ρ
  sleepTime : Option Timespec
  naps : List Nap

namespace Delayed

/-- The state in which `logTlm_runFlushInNewThread` has returned. -/
def start (s : State ρ) : Delayed ρ := ⟨Threads.start s, none, []⟩

def runStep (timeInMs : Int32) (env : Env) (t : Delayed ρ) : Option (Delayed ρ) :=
  (t.threads.runStep env).bind fun threads =>
    match t.threads.run with
    | .startWait =>
      if t.threads.log.isThreadReady then
        (loopDelay timeInMs).map fun sleepTime =>
          { t with threads := threads, sleepTime := some sleepTime }
      else some { t with threads := threads }
    | .sleep => t.sleepTime.map fun sleepTime =>
      { t with threads := threads, naps := t.naps ++ [⟨sleepTime, sleepTime.nanosleep⟩] }
    | _ => some { t with threads := threads }

def step (timeInMs : Int32) (t : Delayed ρ) : Action ρ → Option (Delayed ρ)
  | .run env => t.runStep timeInMs env
  | a => (t.threads.step a).map fun threads => { t with threads := threads }

/-- The time is one that `nanosleep` takes, and stands for the milliseconds. -/
def StandsFor (timeInMs : Int32) (t : Timespec) : Prop :=
  t.Valid ∧ t.toNs = timeInMs.toInt * nsPerMs

/-- Every turn without a full buffer sleeps for the checking time. -/
structure Sleeps (timeInMs : Int32) (t : Delayed ρ) : Prop where
  naps : ∀ nap ∈ t.naps, StandsFor timeInMs nap.rqtp ∧
    nap.suspended = some (timeInMs.toInt * nsPerMs)
  turn : t.threads.run = .sleep → ∀ env, ∃ u nap, t.step timeInMs (.run env) = some u ∧
    u.naps = t.naps ++ [nap] ∧ nap.suspended = some (timeInMs.toInt * nsPerMs)

end Delayed

theorem loopDelay_eq (timeInMs : Int32) : ∃ t, loopDelay timeInMs = some t ∧ t.tvSec = 0 ∧
    t.tvNsec.toInt = timeInMs.toInt * nsPerMs := by
  have hlow := timeInMs.le_toInt
  have hhigh := timeInMs.toInt_lt
  have hmul : ((Double.ofInt timeInMs.toInt).mul (Double.ofInt 1000000)).toInt =
      timeInMs.toInt * nsPerMs := by
    have hone : (Double.ofInt 1000000).toInt = nsPerMs := by decide
    rw [Double.mul, hone, Double.toInt_ofInt (z := timeInMs.toInt) (by omega)]
    apply Double.toInt_ofInt
    unfold nsPerMs
    omega
  have hfits : Long.Fits (timeInMs.toInt * nsPerMs) := by
    unfold Long.Fits nsPerMs
    omega
  obtain ⟨nsec, hnsec⟩ := Long.exists_toInt hfits
  refine ⟨⟨0, nsec⟩, ?_, rfl, hnsec⟩
  rw [loopDelay, Double.toLong, hmul, Long.ofInt_eq_some_iff.mpr hnsec]
  rfl

section
variable {timeInMs : Int32} {d : Timespec}

theorem loopDelay_toNs (hd : loopDelay timeInMs = some d) :
    d.toNs = timeInMs.toInt * nsPerMs := by
  obtain ⟨d', hd', hsec, hnsec⟩ := loopDelay_eq timeInMs
  rw [hd] at hd'
  cases hd'
  rw [Timespec.toNs, hsec, hnsec, Int64.toInt_zero, Int.zero_mul, Int.zero_add]

/-- From one second on the nanoseconds are too many. -/
theorem loopDelay_valid_iff (hpos : 0 < timeInMs.toInt) (hd : loopDelay timeInMs = some d) :
    d.Valid ↔ timeInMs.toInt < 1000 := by
  obtain ⟨d', hd', hsec, hnsec⟩ := loopDelay_eq timeInMs
  rw [hd] at hd'
  cases hd'
  have hzero : (0 : Int64).toInt = 0 := Int64.toInt_zero
  unfold Timespec.Valid Timespec.Normalised Timespec.nsPerSec
  rw [hsec, hnsec, hzero]
  unfold nsPerMs
  omega

end

theorem Threads.run_eq_of_appStep {env : Env} {t u : Threads ρ} (h : t.appStep env = some u) :
    u.run = t.run := by
  cases appStep_step h <;> rfl

namespace Delayed

section
variable {timeInMs : Int32} {t u : Delayed ρ} {a : Action ρ} {env : Env} {d : Timespec}

/-- What a step does to `sleepTime` and to the naps. -/
inductive Step (timeInMs : Int32) (t u : Delayed ρ) : Prop where
  | keep (hsleep : u.sleepTime = t.sleepTime) (hnaps : u.naps = t.naps)
      (hwait : t.threads.run = .startWait → u.threads.run = .startWait)
  | enter (d : Timespec) (hd : loopDelay timeInMs = some d) (hsleep : u.sleepTime = some d)
      (hnaps : u.naps = t.naps)
  | nap (d : Timespec) (hrun : t.threads.run = .sleep) (hd : t.sleepTime = some d)
      (hsleep : u.sleepTime = t.sleepTime) (hnaps : u.naps = t.naps ++ [⟨d, d.nanosleep⟩])

theorem runStep_step (h : t.runStep timeInMs env = some u) :
    t.threads.runStep env = some u.threads ∧ Step timeInMs t u := by
  obtain ⟨threads, hthreads, h⟩ := Option.bind_eq_some_iff.mp h
  cases hrun : t.threads.run with
  | startWait =>
    rw [hrun] at h
    cases hready : t.threads.log.isThreadReady with
    | true =>
      rw [hready] at h
      obtain ⟨d, hd, rfl⟩ := Option.map_eq_some_iff.mp h
      exact ⟨hthreads, .enter d hd rfl rfl⟩
    | false =>
      rw [hready] at h
      cases h
      refine ⟨hthreads, .keep rfl rfl ?_⟩
      rw [Threads.runStep, hrun, hready] at hthreads
      cases hthreads
      exact id
  | sleep =>
    rw [hrun] at h
    obtain ⟨d, hd, rfl⟩ := Option.map_eq_some_iff.mp h
    exact ⟨hthreads, .nap d hrun hd rfl rfl⟩
  | _ =>
    rw [hrun] at h
    cases h
    refine ⟨hthreads, .keep rfl rfl ?_⟩
    intro hwait
    rw [hrun] at hwait
    cases hwait

theorem step_step (h : t.step timeInMs a = some u) :
    t.threads.step a = some u.threads ∧ Step timeInMs t u := by
  cases a with
  | run env => exact runStep_step h
  | app env =>
    obtain ⟨threads, hthreads, rfl⟩ := Option.map_eq_some_iff.mp h
    refine ⟨hthreads, .keep rfl rfl ?_⟩
    intro hwait
    exact (Threads.run_eq_of_appStep hthreads).trans hwait
  | write r | closeThread =>
    obtain ⟨threads, hthreads, rfl⟩ := Option.map_eq_some_iff.mp h
    refine ⟨hthreads, .keep rfl rfl ?_⟩
    simp only [Threads.step] at hthreads
    split at hthreads <;> cases hthreads
    exact id

/-- Once it is set, `sleepTime` stays, and all naps are for it. -/
structure Ready (d : Timespec) (t : Delayed ρ) : Prop where
  sleepTime : t.threads.run = .startWait ∨ t.sleepTime = some d
  naps : ∀ nap ∈ t.naps, nap = ⟨d, d.nanosleep⟩

theorem Ready.start (d : Timespec) (s : State ρ) : Ready d (Delayed.start s) where
  sleepTime := Or.inl rfl
  naps := by simp [Delayed.start]

theorem Ready.sleepTime_of_ne (ht : Ready d t) (hrun : t.threads.run ≠ .startWait) :
    t.sleepTime = some d := ht.sleepTime.resolve_left hrun

theorem Ready.of_step (ht : Ready d t) (hd : loopDelay timeInMs = some d)
    (h : t.step timeInMs a = some u) : Ready d u := by
  cases (step_step h).2 with
  | keep hsleep hnaps hwait =>
    refine ⟨?_, by rw [hnaps]; exact ht.naps⟩
    rcases ht.sleepTime with hrun | hset
    · exact Or.inl (hwait hrun)
    · exact Or.inr (hsleep.trans hset)
  | enter d' hd' hsleep hnaps =>
    refine ⟨Or.inr ?_, by rw [hnaps]; exact ht.naps⟩
    rw [hsleep, ← hd', hd]
  | nap d' hrun hd' hsleep hnaps =>
    have hset : t.sleepTime = some d := ht.sleepTime_of_ne (by simp [hrun])
    have hsame : d' = d := Option.some.inj (hd'.symm.trans hset)
    refine ⟨Or.inr (hsleep.trans hset), ?_⟩
    intro nap hnap
    rw [hnaps, hsame] at hnap
    rcases List.mem_append.mp hnap with hold | hnew
    · exact ht.naps nap hold
    · exact List.mem_singleton.mp hnew

theorem Ready.nap (ht : Ready d t) (hrun : t.threads.run = .sleep) (env : Env) :
    ∃ u, t.step timeInMs (.run env) = some u ∧ u.naps = t.naps ++ [⟨d, d.nanosleep⟩] := by
  have hset : t.sleepTime = some d := ht.sleepTime_of_ne (by simp [hrun])
  have hthreads : t.threads.runStep env = some { t.threads with run := .loopTest } := by
    rw [Threads.runStep, hrun]
  refine ⟨⟨{ t.threads with run := .loopTest }, t.sleepTime, t.naps ++ [⟨d, d.nanosleep⟩]⟩, ?_,
    rfl⟩
  rw [step, runStep, hthreads, Option.bind_some, hrun, hset]
  rfl

/-- The delay time is there whenever it is needed. -/
theorem Ready.lift (ht : Ready d t) (hd : loopDelay timeInMs = some d) {v : Threads ρ}
    (h : t.threads.step a = some v) : ∃ u, t.step timeInMs a = some u ∧ u.threads = v := by
  cases a with
  | run env =>
    have hthreads : t.threads.runStep env = some v := h
    rw [step, runStep, hthreads, Option.bind_some]
    cases hrun : t.threads.run with
    | startWait =>
      rw [hd]
      cases t.threads.log.isThreadReady with
      | true => exact ⟨⟨v, some d, t.naps⟩, rfl, rfl⟩
      | false => exact ⟨⟨v, t.sleepTime, t.naps⟩, rfl, rfl⟩
    | sleep =>
      rw [ht.sleepTime_of_ne (by simp [hrun])]
      exact ⟨⟨v, some d, t.naps ++ [⟨d, d.nanosleep⟩]⟩, rfl, rfl⟩
    | _ => exact ⟨⟨v, t.sleepTime, t.naps⟩, rfl, rfl⟩
  | _ =>
    rw [step, h]
    · exact ⟨_, rfl, rfl⟩
    · simp

end

section
variable {timeInMs : Int32} {t : Delayed ρ} {s : State ρ} {d : Timespec} {as : List (Action ρ)}

theorem ready_of_run (hd : loopDelay timeInMs = some d)
    (hrun : Runs.run (step timeInMs) (start s) as = some t) : Ready d t :=
  Runs.run_invariant (fun _ _ _ ht h => Ready.of_step ht hd h) hrun (Ready.start d s)

/-- Every run is one of the two threads. -/
theorem threads_of_run (hrun : Runs.run (step timeInMs) (start s) as = some t) :
    ∃ bs, Runs.run Threads.step (Threads.start s) bs = some t.threads := by
  have hsim : ∀ (t u : Delayed ρ) (v : Threads ρ) (a : Action ρ), t.threads = v →
      t.step timeInMs a = some u →
      ∃ bs w, Runs.run Threads.step v bs = some w ∧ u.threads = w := by
    rintro t u v a rfl h
    exact ⟨[a], u.threads, Runs.run_cons_eq_some.mpr ⟨_, (step_step h).1, rfl⟩, rfl⟩
  obtain ⟨bs, v, hbs, hthreads⟩ := Runs.run_simulates hsim hrun rfl
  exact ⟨bs, hthreads ▸ hbs⟩

/-- The delay time does not take a run from the two threads. -/
theorem run_of_threads (hd : loopDelay timeInMs = some d) {v : Threads ρ}
    (hrun : Runs.run Threads.step (Threads.start s) as = some v) :
    ∃ bs t, Runs.run (step timeInMs) (start s) bs = some t ∧ t.threads = v := by
  have hsim : ∀ (v w : Threads ρ) (t : Delayed ρ) (a : Action ρ), t.threads = v ∧ Ready d t →
      v.step a = some w →
      ∃ bs u, Runs.run (step timeInMs) t bs = some u ∧ u.threads = w ∧ Ready d u := by
    rintro v w t a ⟨rfl, ht⟩ hstep
    obtain ⟨u, hu, hthreads⟩ := ht.lift hd hstep
    refine ⟨[a], u, ?_, hthreads, ht.of_step hd hu⟩
    exact Runs.run_cons_eq_some.mpr ⟨u, hu, rfl⟩
  obtain ⟨bs, t, hbs, hthreads, -⟩ :=
    Runs.run_simulates (R := fun v t => t.threads = v ∧ Ready d t) hsim hrun
      ⟨rfl, Ready.start d s⟩
  exact ⟨bs, t, hbs, hthreads⟩

theorem Ready.sleeps (ht : Ready d t) (hd : loopDelay timeInMs = some d)
    (hpos : 0 < timeInMs.toInt) (hlt : timeInMs.toInt < 1000) : Sleeps timeInMs t := by
  have hvalid : d.Valid := (loopDelay_valid_iff hpos hd).mpr hlt
  have hnap : d.nanosleep = some (timeInMs.toInt * nsPerMs) :=
    Timespec.nanosleep_eq_some_iff.mpr ⟨hvalid, loopDelay_toNs hd⟩
  constructor
  · intro nap hmem
    rw [ht.naps nap hmem]
    exact ⟨⟨hvalid, loopDelay_toNs hd⟩, hnap⟩
  · intro hrun env
    obtain ⟨u, hu, hnaps⟩ := ht.nap hrun env
    exact ⟨u, _, hu, hnaps, hnap⟩

/-- A turn that sleeps for the checking time has less than a second to sleep. -/
theorem Ready.lt_of_sleeps (ht : Ready d t) (hd : loopDelay timeInMs = some d)
    (hpos : 0 < timeInMs.toInt) (hrun : t.threads.run = .sleep) (h : Sleeps timeInMs t) :
    timeInMs.toInt < 1000 := by
  obtain ⟨u, hu, hnaps⟩ := ht.nap hrun {}
  obtain ⟨u', nap, hu', hnaps', hsuspended⟩ := h.turn hrun {}
  rw [hu] at hu'
  cases hu'
  rw [hnaps] at hnaps'
  have hnap : nap = ⟨d, d.nanosleep⟩ :=
    (List.singleton_inj.mp (List.append_cancel_left hnaps')).symm
  rw [hnap] at hsuspended
  exact (loopDelay_valid_iff hpos hd).mp (Timespec.nanosleep_eq_some_iff.mp hsuspended).1

end

end Delayed

namespace Threads

section
variable {t : Threads ρ}

/-- The steps of the flush thread alone until it sleeps, with flags that are set counted in. -/
def stepsToSleep (t : Threads ρ) : Nat :=
  (match t.run with
  | .sleep | .done => 0
  | .clear1 _ | .clear2 => 1
  | .flush1 _ | .flush2 => 2
  | .snapshot => 3
  | .loopTest => 4
  | .startWait | .resetCount => 5
  | .setCurrent => 6
  | .testCurrent => 7) + (if t.log.isFullBuffer1 then 8 else 0) +
    if t.log.isFullBuffer2 then 8 else 0

/-- The flags that the flush thread is at are set. -/
def FlagsSet (t : Threads ρ) : Prop :=
  match t.run with
  | .flush1 b | .clear1 b => t.log.isFullBuffer1 = true ∧ (b = true → t.log.isFullBuffer2 = true)
  | .flush2 | .clear2 => t.log.isFullBuffer2 = true
  | .done => False
  | _ => True

theorem next_toward_sleep (hready : t.log.isThreadReady = true) (hflags : t.FlagsSet)
    (hawake : t.run ≠ .sleep) : ∃ u, t.runStep {} = some u ∧ u.log.isThreadReady = true ∧
      u.FlagsSet ∧ u.stepsToSleep < t.stepsToSleep := by
  cases hr : t.run <;> simp only [FlagsSet, hr] at hflags
  case snapshot =>
    cases h1 : t.log.isFullBuffer1 <;> cases h2 : t.log.isFullBuffer2 <;>
      simp [runStep, FlagsSet, stepsToSleep, hr, hready, h1, h2]
  case flush1 b =>
    simpa [runStep, FlagsSet, stepsToSleep, hr, hready, State.flushToFile, hflags.1]
      using hflags.2
  case clear1 b =>
    obtain ⟨h1, h2⟩ := hflags
    cases b with
    | true => simp [runStep, FlagsSet, stepsToSleep, hr, hready, h1, h2 rfl]
    | false => simp [runStep, FlagsSet, stepsToSleep, hr, hready, h1]
  case flush2 => simp [runStep, FlagsSet, stepsToSleep, hr, hready, State.flushToFile, hflags]
  case clear2 =>
    simp only [runStep, FlagsSet, stepsToSleep, hr, hready, hflags, Option.some.injEq,
      exists_eq_left', if_true, Bool.false_eq_true, if_false, true_and]
    omega
  case testCurrent =>
    by_cases hnone : t.log.pBufferCurrent = none <;>
      simp [runStep, FlagsSet, stepsToSleep, hr, hready, hnone]
  case sleep => exact absurd hr hawake
  all_goals simp [runStep, FlagsSet, stepsToSleep, hr, hready]

theorem leads_to_sleep (hready : t.log.isThreadReady = true) (hflags : t.FlagsSet) :
    Runs.Leads (runStep {}) (fun u => u.run = .sleep) t := by
  apply Runs.Leads.of_measure (I := fun t : Threads ρ => t.log.isThreadReady = true ∧ t.FlagsSet)
    stepsToSleep _ ⟨hready, hflags⟩
  rintro t ⟨hready, hflags⟩ hawake
  obtain ⟨u, hu, hready', hflags', hlt⟩ := next_toward_sleep hready hflags hawake
  exact ⟨u, hu, Or.inr ⟨⟨hready', hflags'⟩, hlt⟩⟩

end

end Threads

theorem State.pos_of_runFlushInNewThread {created scheduled : Bool} {timeInMs : Int}
    {s s' : State ρ} (h : s.runFlushInNewThread created scheduled timeInMs = (0, s')) :
    0 < timeInMs := by
  by_contra hle
  rw [State.runFlushInNewThread, if_pos (by omega)] at h
  cases h

/-- The accepted checking times under a second are those that the flush thread sleeps for. -/
theorem flushThread_sleeps_iff (created scheduled : Bool) (timeInMs : Int32) (s s' : State ρ)
    (haccepted : s.runFlushInNewThread created scheduled timeInMs.toInt = (0, s')) :
    (∀ as t, Runs.run (Delayed.step timeInMs) (Delayed.start s') as = some t →
      Delayed.Sleeps timeInMs t) ↔ timeInMs.toInt < 1000 := by
  have hpos := State.pos_of_runFlushInNewThread haccepted
  obtain ⟨d, hd, -, -⟩ := loopDelay_eq timeInMs
  constructor
  · intro hall
    have hready : s'.isThreadReady = true := by
      rw [State.runFlushInNewThread_cases haccepted]
    obtain ⟨k, v, hrun, hsleep⟩ :=
      (Threads.leads_to_sleep (t := Threads.start s') hready trivial).run Threads.step (.run {})
    obtain ⟨bs, t, hbs, rfl⟩ := Delayed.run_of_threads hd hrun
    exact (Delayed.ready_of_run hd hbs).lt_of_sleeps hd hpos hsleep (hall bs t hbs)
  · intro hlt as t hrun
    exact (Delayed.ready_of_run hd hrun).sleeps hd hpos hlt

theorem flushThread_sleeps_500 :
    (∀ as t, Runs.run (Delayed.step 500) (Delayed.start (started 1 1)) as = some t →
      Delayed.Sleeps 500 t) ↔ (500 : Int32).toInt < 1000 := by
  obtain ⟨_, t, -, -, -, haccepted⟩ := @started_setup 1 1 (by decide) (by decide) (by decide)
  exact flushThread_sleeps_iff true true 500 t (started 1 1) haccepted

/-- With a checking time of a second, every turn fails to sleep. -/
theorem flushThread_spins : ∃ s t,
    (State.initial : State Nat).runFlushInNewThread true true (1000 : Int32).toInt = (0, s) ∧
    Runs.run (Delayed.step 1000) (Delayed.start s) (runSteps 7) = some t ∧
    t.naps = [⟨⟨0, 1000000000⟩, none⟩, ⟨⟨0, 1000000000⟩, none⟩] ∧
    ¬ (⟨0, 1000000000⟩ : Timespec).Valid ∧ ¬ Delayed.Sleeps 1000 t := by
  refine ⟨{ State.initial with isThreadReady := true }, _, rfl, rfl, rfl, by decide, ?_⟩
  intro h
  have hnap := (h.naps ⟨⟨0, 1000000000⟩, none⟩ List.mem_cons_self).2
  cases hnap

end HexrotPxiCom.LogTlm
