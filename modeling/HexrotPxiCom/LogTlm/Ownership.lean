import HexrotPxiCom.LogTlm.Buffers
import HexrotPxiCom.LogTlm.Threads
import Mathlib.Algebra.Order.Group.Multiset
import Mathlib.Tactic.Abel

/-!
# Every record is in one place

The records accepted so far and the one in the hands of the writer are those in the log
files, in a full buffer that is not flushed yet, and in the filled part of the current
buffer. The steps of both threads keep this balance as long as the writer never uses
buffer 1 while it is still owed to the log.
-/

namespace HexrotPxiCom.LogTlm

set_option autoImplicit false

universe u
variable {ρ : Type u}

/-- Between the decision to flush buffer 1 and its clear. -/
def RunPc.flushing1 : RunPc → Bool
  | .flush1 _ | .clear1 _ => true
  | _ => false

def RunPc.flushing2 : RunPc → Bool
  | .flush1 b | .clear1 b => b
  | .flush2 | .clear2 => true
  | _ => false

/-- Buffer 1 is in the files already, and its flag not cleared yet. -/
def RunPc.flushed1 : RunPc → Bool
  | .clear1 _ => true
  | _ => false

def RunPc.flushed2 : RunPc → Bool
  | .clear2 => true
  | _ => false

/-- Between the two assignments of the re-arm. -/
def RunPc.atReset : RunPc → Bool
  | .resetCount => true
  | _ => false

theorem RunPc.flushing1_of_flushed1 {pc : RunPc} (h : pc.flushed1 = true) :
    pc.flushing1 = true := by
  cases pc <;> first | rfl | cases h

theorem RunPc.flushing2_of_flushed2 {pc : RunPc} (h : pc.flushed2 = true) :
    pc.flushing2 = true := by
  cases pc <;> first | rfl | cases h

namespace AppPc

/-- The count test of `logTlm_write` is still to come. -/
def beforeSpace : AppPc ρ → Bool
  | .idle | .testBuffer _ | .testFile _ | .testSpace _ | .closeTest | .closeClear | .closeJoin =>
    true
  | _ => false

theorem beforeSpace_of_beforeTest {a : AppPc ρ} (h : a.beforeTest = true) :
    a.beforeSpace = true := by
  cases a <;> first | rfl | cases h

/-- The current buffer is marked full, and `countBufferCurrent` not reset yet. -/
def leaving : AppPc ρ → Bool
  | .swapTo2 _ | .swapTo1 _ | .resetCount _ | .setNull _ => true
  | _ => false

/-- Buffer 2 may be the current buffer and marked full. -/
def leaving2 : AppPc ρ → Bool
  | .swapTo1 _ | .setNull _ => true
  | _ => false

/-- The record that the call in progress has stored. -/
def stored : AppPc ρ → Multiset ρ
  | .testFull r | .testThread r | .flush r | .testWhich r | .lock1 r | .lock2 r | .swapTo2 r
  | .swapTo1 r | .resetCount r | .setNull r => {r}
  | _ => 0

/-- What the tests already made say about the globals. -/
def Facts (n : Int) (s : State ρ) : AppPc ρ → Prop
  | .copy _ => s.countBufferCurrent < n
  | .addCount r => s.countBufferCurrent < n ∧
      (s.cellsAt s.pBufferCurrent)[s.countBufferCurrent.toNat]? = some r
  | .testThread _ | .testWhich _ => s.countBufferCurrent = n
  | .flush _ => False
  | .lock1 _ => s.countBufferCurrent = n ∧ s.pBufferCurrent = s.pBuffer1
  | .lock2 _ => s.countBufferCurrent = n ∧ s.pBufferCurrent = s.pBuffer2
  | .swapTo2 _ => s.isFullBuffer2 = false
  | _ => True

theorem of_beforeSpace {a : AppPc ρ} (h : a.beforeSpace = true) :
    a.leaving = false ∧ a.leaving2 = false ∧ a.stored = 0 := by
  cases a <;> first | exact ⟨rfl, rfl, rfl⟩ | cases h

end AppPc

namespace Threads

/-- The records of buffer 1 that are owed to the log. -/
def owed1 (t : Threads ρ) : Multiset ρ :=
  if t.log.isFullBuffer1 && !t.run.flushed1 then ↑(t.log.cellsAt t.log.pBuffer1) else 0

def owed2 (t : Threads ρ) : Multiset ρ :=
  if t.log.isFullBuffer2 && !t.run.flushed2 then ↑(t.log.cellsAt t.log.pBuffer2) else 0

/-- The records of the current buffer that are not handed over. -/
def filled (t : Threads ρ) : Multiset ρ :=
  if t.app.leaving || t.run.atReset then 0
  else ↑((t.log.cellsAt t.log.pBufferCurrent).take t.log.countBufferCurrent.toNat)

def total (t : Threads ρ) : Multiset ρ :=
  ↑t.log.file.logContents + t.owed1 + t.owed2 + t.filled

section
variable {t u : Threads ρ}

theorem owed1_congr (hfull : u.log.isFullBuffer1 = t.log.isFullBuffer1)
    (hrun : u.run.flushed1 = t.run.flushed1) (hb : u.log.pBuffer1 = t.log.pBuffer1)
    (hheap : u.log.heap = t.log.heap) : u.owed1 = t.owed1 := by
  unfold owed1 State.cellsAt
  rw [hfull, hrun, hb, hheap]

theorem owed2_congr (hfull : u.log.isFullBuffer2 = t.log.isFullBuffer2)
    (hrun : u.run.flushed2 = t.run.flushed2) (hb : u.log.pBuffer2 = t.log.pBuffer2)
    (hheap : u.log.heap = t.log.heap) : u.owed2 = t.owed2 := by
  unfold owed2 State.cellsAt
  rw [hfull, hrun, hb, hheap]

theorem filled_congr (happ : u.app.leaving = t.app.leaving)
    (hrun : u.run.atReset = t.run.atReset)
    (hcur : u.log.pBufferCurrent = t.log.pBufferCurrent)
    (hcount : u.log.countBufferCurrent = t.log.countBufferCurrent)
    (hheap : u.log.heap = t.log.heap) : u.filled = t.filled := by
  unfold filled State.cellsAt
  rw [happ, hrun, hcur, hcount, hheap]

end

/-- One owner for each buffer: the writer does not copy into a buffer 1 that is owed to
the log, does not mark it full twice, does not test the count between the two assignments
of the re-arm, and the thread is not told to stop. -/
def OneOwner (t : Threads ρ) : Action ρ → Prop
  | .app _ =>
    match t.app with
    | .copy _ => t.log.pBufferCurrent = t.log.pBuffer1 → t.log.isFullBuffer1 = true →
        t.run.flushed1 = true
    | .lock1 _ => t.log.isFullBuffer1 = false
    | .testSpace _ => t.run.atReset = false
    | .closeClear => False
    | _ => True
  | _ => True

end Threads

instance Threads.OneOwner.decidable : ∀ (t : Threads ρ) (a : Action ρ), Decidable (t.OneOwner a)
  | ⟨_, .copy _, _, _⟩, .app _ => inferInstanceAs (Decidable (_ → _ → _))
  | ⟨log, .lock1 _, _, _⟩, .app _ => inferInstanceAs (Decidable (log.isFullBuffer1 = false))
  | ⟨_, .testSpace _, run, _⟩, .app _ => inferInstanceAs (Decidable (run.atReset = false))
  | ⟨_, .closeClear, _, _⟩, .app _ => inferInstanceAs (Decidable False)
  | ⟨_, .idle, _, _⟩, .app _ | ⟨_, .testBuffer _, _, _⟩, .app _ | ⟨_, .testFile _, _, _⟩, .app _
  | ⟨_, .addCount _, _, _⟩, .app _ | ⟨_, .testFull _, _, _⟩, .app _
  | ⟨_, .testThread _, _, _⟩, .app _ | ⟨_, .flush _, _, _⟩, .app _
  | ⟨_, .testWhich _, _, _⟩, .app _ | ⟨_, .lock2 _, _, _⟩, .app _ | ⟨_, .swapTo2 _, _, _⟩, .app _
  | ⟨_, .swapTo1 _, _, _⟩, .app _ | ⟨_, .resetCount _, _, _⟩, .app _
  | ⟨_, .setNull _, _, _⟩, .app _ | ⟨_, .closeTest, _, _⟩, .app _ | ⟨_, .closeJoin, _, _⟩, .app _
  | _, .write _ | _, .closeThread | _, .run _ => .isTrue trivial

/-- stdio succeeds in this step. -/
def Action.Success : Action ρ → Prop
  | .app env | .run env => env.stdio.Success
  | .write _ | .closeThread => True

instance Action.Success.decidable : ∀ a : Action ρ, Decidable a.Success
  | .app env | .run env => inferInstanceAs (Decidable env.stdio.Success)
  | .write _ | .closeThread => .isTrue trivial

/-- The next step of the flush thread is a `logTlm_flushToFile`. -/
def RunPc.atFlush : RunPc → Bool
  | .flush1 _ | .flush2 => true
  | _ => false

/-- A flush of the thread finds a number for the file that it fills. -/
def Threads.Numbered (t : Threads ρ) : Action ρ → Prop
  | .run _ => t.run.atFlush = true → t.log.file.CanNumber t.log.countBufferMax
  | .write _ | .closeThread | .app _ => True

instance Threads.Numbered.decidable (t : Threads ρ) : ∀ a : Action ρ, Decidable (t.Numbered a)
  | .run _ => inferInstanceAs (Decidable (_ → _))
  | .write _ | .closeThread | .app _ => .isTrue trivial

/-- stdio succeeds, the rotated files can be numbered, and each buffer has one owner. -/
def Threads.Guard (t : Threads ρ) (a : Action ρ) : Prop :=
  a.Success ∧ t.Numbered a ∧ t.OneOwner a

instance (t : Threads ρ) (a : Action ρ) : Decidable (t.Guard a) :=
  inferInstanceAs (Decidable (_ ∧ _))

namespace Threads

/-- Who uses which buffer, and the balance of the records. -/
structure Owned (n : Int) (p q : Nat) (t : Threads ρ) : Prop where
  count_nonneg : 0 ≤ t.log.countBufferCurrent
  count_le : t.log.countBufferCurrent ≤ n
  current : t.log.pBufferCurrent = none ∨ t.log.pBufferCurrent = some p ∨
    t.log.pBufferCurrent = some q
  null_app : t.log.pBufferCurrent = none → t.app.beforeTest = true
  null_run : t.run = .setCurrent → t.log.pBufferCurrent = none
  reset_run : t.run.atReset = true → t.log.pBufferCurrent = some p ∧ t.app.beforeSpace = true
  flushing1 : t.run.flushing1 = true → t.log.isFullBuffer1 = true
  flushing2 : t.run.flushing2 = true → t.log.isFullBuffer2 = true
  two : t.log.pBufferCurrent = some q → t.log.isFullBuffer2 = true → t.app.leaving2 = true
  room : t.log.pBufferCurrent ≠ none → t.app.beforeSpace = true → t.run.atReset = false →
    t.log.countBufferCurrent < n
  facts : t.app.Facts n t.log
  balance : t.total = ↑t.accepted + t.app.stored

namespace Owned
variable {n recordPerFile : Int} {size p q : Nat} {t u : Threads ρ} {env : Env}

/-- A step of the flush thread that changes nothing but its place. -/
theorem move_run (h : Owned n p q t) {pc : RunPc} (hreset : t.run.atReset = false)
    (hreset' : pc.atReset = false)
    (hset : pc = .setCurrent → t.log.pBufferCurrent = none)
    (h1 : pc.flushing1 = true → t.log.isFullBuffer1 = true)
    (h2 : pc.flushing2 = true → t.log.isFullBuffer2 = true)
    (hf1 : pc.flushed1 = t.run.flushed1) (hf2 : pc.flushed2 = t.run.flushed2) :
    Owned n p q { t with run := pc } where
  count_nonneg := h.count_nonneg
  count_le := h.count_le
  current := h.current
  null_app := h.null_app
  null_run := hset
  reset_run := by
    intro hr
    rw [hreset'] at hr
    cases hr
  flushing1 := h1
  flushing2 := h2
  two := h.two
  room := fun hc hb _ => h.room hc hb hreset
  facts := h.facts
  balance := by
    have hb := h.balance
    simpa only [total, owed1, owed2, filled, hf1, hf2, hreset, hreset'] using hb

theorem facts_of_eq (h : t.app.Facts n t.log) {s : State ρ}
    (hcur : s.pBufferCurrent = t.log.pBufferCurrent) (h1 : s.pBuffer1 = t.log.pBuffer1)
    (h2 : s.pBuffer2 = t.log.pBuffer2) (hheap : s.heap = t.log.heap)
    (hcount : s.countBufferCurrent = t.log.countBufferCurrent)
    (hf2 : t.log.isFullBuffer2 = false → s.isFullBuffer2 = false) : t.app.Facts n s := by
  have hcells : s.cellsAt s.pBufferCurrent = t.log.cellsAt t.log.pBufferCurrent := by
    rw [hcur]
    unfold State.cellsAt
    rw [hheap]
  cases ha : t.app <;> rw [ha] at h <;> simp only [AppPc.Facts] at h ⊢
  case copy | testThread | testWhich => rwa [hcount]
  case addCount => rwa [hcount, hcells]
  case lock1 => rwa [hcount, hcur, h1]
  case lock2 => rwa [hcount, hcur, h2]
  case swapTo2 => exact hf2 h

/-- A step that keeps both sides keeps the balance. -/
theorem balance_of_eq (h : Owned n p q t) (htotal : u.total = t.total)
    (hacc : (↑u.accepted : Multiset ρ) + u.app.stored = ↑t.accepted + t.app.stored) :
    u.total = ↑u.accepted + u.app.stored := by
  rw [htotal, hacc]
  exact h.balance

theorem balance_run (h : Owned n p q t) (happ : u.app = t.app) (hacc : u.accepted = t.accepted)
    (howed : (↑u.log.file.logContents : Multiset ρ) + u.owed1 + u.owed2 =
      ↑t.log.file.logContents + t.owed1 + t.owed2) (hfilled : u.filled = t.filled) :
    u.total = ↑u.accepted + u.app.stored := by
  apply h.balance_of_eq
  · rw [total, total, howed, hfilled]
  · rw [happ, hacc]

theorem flush1 {b : Bool} (h : Owned n p q t) (hb : t.log.Buffers n size recordPerFile p q)
    (hr : t.run = .flush1 b) (hio : env.stdio.Success)
    (hnumber : t.log.file.CanNumber t.log.countBufferMax)
    (hu : u = { t with
      log := t.log.flushToFile env.stdio t.log.pBuffer1 t.log.countBufferMax
      run := .clear1 b }) : Owned n p q u := by
  have hfull := h.flushing1 (by rw [hr]; rfl)
  have hlog : u.log.file.logContents = t.log.file.logContents ++ (t.log.heap p).cells := by
    rw [hu]
    change (t.log.flushToFile _ _ _).file.logContents = _
    rw [hb.buffer1]
    exact (hb.flush_full hio hnumber (Or.inl rfl)).2.1
  have howed : t.owed1 = ↑(t.log.heap p).cells := by
    simp [owed1, hfull, hr, RunPc.flushed1, hb.buffer1]
  have howed' : u.owed1 = 0 := by simp [hu, owed1, RunPc.flushed1]
  have howed2 : u.owed2 = t.owed2 :=
    owed2_congr (by rw [hu]; rfl) (by rw [hu, hr]; rfl) (by rw [hu]; rfl) (by rw [hu]; rfl)
  have hfilled : u.filled = t.filled :=
    filled_congr (by rw [hu]) (by rw [hu, hr]; rfl) (by rw [hu]; rfl) (by rw [hu]; rfl)
      (by rw [hu]; rfl)
  have hbal := h.balance_run (u := u) (by rw [hu]) (by rw [hu]) (by
    rw [hlog, howed, howed', howed2, ← Multiset.coe_add, add_zero]) hfilled
  subst hu
  refine ⟨h.count_nonneg, h.count_le, h.current, h.null_app, by simp, by simp [RunPc.atReset],
    fun _ => hfull, ?_, h.two, ?_, facts_of_eq h.facts rfl rfl rfl rfl rfl id, hbal⟩
  · intro hb2
    exact h.flushing2 (by rw [hr]; exact hb2)
  · intro hc happ _
    exact h.room hc happ (by rw [hr]; rfl)

theorem flush2 (h : Owned n p q t) (hb : t.log.Buffers n size recordPerFile p q)
    (hr : t.run = .flush2) (hio : env.stdio.Success)
    (hnumber : t.log.file.CanNumber t.log.countBufferMax)
    (hu : u = { t with
      log := t.log.flushToFile env.stdio t.log.pBuffer2 t.log.countBufferMax
      run := .clear2 }) : Owned n p q u := by
  have hfull := h.flushing2 (by rw [hr]; rfl)
  have hlog : u.log.file.logContents = t.log.file.logContents ++ (t.log.heap q).cells := by
    rw [hu]
    change (t.log.flushToFile _ _ _).file.logContents = _
    rw [hb.buffer2]
    exact (hb.flush_full hio hnumber (Or.inr rfl)).2.1
  have howed : t.owed2 = ↑(t.log.heap q).cells := by
    simp [owed2, hfull, hr, RunPc.flushed2, hb.buffer2]
  have howed' : u.owed2 = 0 := by simp [hu, owed2, RunPc.flushed2]
  have howed1 : u.owed1 = t.owed1 :=
    owed1_congr (by rw [hu]; rfl) (by rw [hu, hr]; rfl) (by rw [hu]; rfl) (by rw [hu]; rfl)
  have hfilled : u.filled = t.filled :=
    filled_congr (by rw [hu]) (by rw [hu, hr]; rfl) (by rw [hu]; rfl) (by rw [hu]; rfl)
      (by rw [hu]; rfl)
  have hbal := h.balance_run (u := u) (by rw [hu]) (by rw [hu]) (by
    rw [hlog, howed, howed', howed1, ← Multiset.coe_add, add_zero, add_right_comm]) hfilled
  subst hu
  refine ⟨h.count_nonneg, h.count_le, h.current, h.null_app, by simp, by simp [RunPc.atReset],
    by simp [RunPc.flushing1], fun _ => hfull, h.two, ?_,
    facts_of_eq h.facts rfl rfl rfl rfl rfl id, hbal⟩
  intro hc happ _
  exact h.room hc happ (by rw [hr]; rfl)

/-- Once the flag is cleared the branch goes on to buffer 2, or to its last test. -/
theorem clear1 {b : Bool} {pc : RunPc} (h : Owned n p q t) (hr : t.run = .clear1 b)
    (hpc : (b = true ∧ pc = .flush2) ∨ pc = .testCurrent)
    (hu : u = { t with log := { t.log with isFullBuffer1 := false }, run := pc }) :
    Owned n p q u := by
  have hreset : pc.atReset = false := by rcases hpc with ⟨_, rfl⟩ | rfl <;> rfl
  have hflushed : pc.flushed2 = false := by rcases hpc with ⟨_, rfl⟩ | rfl <;> rfl
  have howed : t.owed1 = 0 := by simp [owed1, hr, RunPc.flushed1]
  have howed' : u.owed1 = 0 := by simp [hu, owed1]
  have howed2 : u.owed2 = t.owed2 :=
    owed2_congr (by rw [hu]) (by rw [hu, hr]; exact hflushed) (by rw [hu]) (by rw [hu])
  have hfilled : u.filled = t.filled :=
    filled_congr (by rw [hu]) (by rw [hu, hr]; exact hreset) (by rw [hu]) (by rw [hu]) (by rw [hu])
  have hbal := h.balance_run (u := u) (by rw [hu]) (by rw [hu]) (by
    rw [howed, howed', howed2, hu]) hfilled
  subst hu
  refine ⟨h.count_nonneg, h.count_le, h.current, h.null_app, ?_, ?_, ?_, ?_, h.two, ?_,
    facts_of_eq h.facts rfl rfl rfl rfl rfl id, hbal⟩
  · rcases hpc with ⟨_, rfl⟩ | rfl <;> simp
  · simp [hreset]
  · rcases hpc with ⟨_, rfl⟩ | rfl <;> simp [RunPc.flushing1]
  · rcases hpc with ⟨hb, rfl⟩ | rfl
    · intro _
      exact h.flushing2 (by rw [hr]; exact hb)
    · simp [RunPc.flushing2]
  · intro hc happ _
    exact h.room hc happ (by rw [hr]; rfl)

theorem clear2 (h : Owned n p q t) (hr : t.run = .clear2)
    (hu : u = { t with log := { t.log with isFullBuffer2 := false }, run := .testCurrent }) :
    Owned n p q u := by
  have howed : t.owed2 = 0 := by simp [owed2, hr, RunPc.flushed2]
  have howed' : u.owed2 = 0 := by simp [hu, owed2]
  have howed1 : u.owed1 = t.owed1 :=
    owed1_congr (by rw [hu]) (by rw [hu, hr]; rfl) (by rw [hu]) (by rw [hu])
  have hfilled : u.filled = t.filled :=
    filled_congr (by rw [hu]) (by rw [hu, hr]; rfl) (by rw [hu]) (by rw [hu]) (by rw [hu])
  have hbal := h.balance_run (u := u) (by rw [hu]) (by rw [hu]) (by
    rw [howed, howed', howed1, hu]) hfilled
  subst hu
  refine ⟨h.count_nonneg, h.count_le, h.current, h.null_app, by simp, by simp [RunPc.atReset],
    by simp [RunPc.flushing1], by simp [RunPc.flushing2], by simp, ?_,
    facts_of_eq h.facts rfl rfl rfl rfl rfl (fun _ => rfl), hbal⟩
  intro hc happ _
  exact h.room hc happ (by rw [hr]; rfl)

theorem facts_of_beforeSpace {a : AppPc ρ} (ha : a.beforeSpace = true) (s : State ρ) :
    a.Facts n s := by
  cases a <;> trivial

theorem setCurrent (h : Owned n p q t) (hb : t.log.Buffers n size recordPerFile p q)
    (hr : t.run = .setCurrent)
    (hu : u = { t with
      log := { t.log with pBufferCurrent := t.log.pBuffer1 }
      run := .resetCount }) : Owned n p q u := by
  have hnone := h.null_run hr
  have hspace := AppPc.beforeSpace_of_beforeTest (h.null_app hnone)
  have howed1 : u.owed1 = t.owed1 :=
    owed1_congr (by rw [hu]) (by rw [hu, hr]; rfl) (by rw [hu]) (by rw [hu])
  have howed2 : u.owed2 = t.owed2 :=
    owed2_congr (by rw [hu]) (by rw [hu, hr]; rfl) (by rw [hu]) (by rw [hu])
  have hfilled : u.filled = t.filled := by
    simp [hu, filled, hr, RunPc.atReset, hnone, State.cellsAt]
  have hbal := h.balance_run (u := u) (by rw [hu]) (by rw [hu]) (by
    rw [howed1, howed2, hu]) hfilled
  subst hu
  refine ⟨h.count_nonneg, h.count_le, Or.inr (Or.inl hb.buffer1), ?_, by simp, ?_,
    by simp [RunPc.flushing1], by simp [RunPc.flushing2], ?_, by simp [RunPc.atReset],
    facts_of_beforeSpace hspace _, hbal⟩
  · intro hn
    have hp : some p = none := hb.buffer1.symm.trans hn
    cases hp
  · exact fun _ => ⟨hb.buffer1, hspace⟩
  · intro hcur
    have hq : t.log.pBuffer1 = some q := hcur
    rw [hb.buffer1] at hq
    exact absurd (Option.some.inj hq) hb.distinct

theorem resetCount (h : Owned n p q t) (hb : t.log.Buffers n size recordPerFile p q)
    (hr : t.run = .resetCount)
    (hu : u = { t with log := { t.log with countBufferCurrent := 0 }, run := .loopTest }) :
    Owned n p q u := by
  obtain ⟨hcur, hspace⟩ := h.reset_run (by rw [hr]; rfl)
  have hpos := hb.count_pos
  have howed1 : u.owed1 = t.owed1 :=
    owed1_congr (by rw [hu]) (by rw [hu, hr]; rfl) (by rw [hu]) (by rw [hu])
  have howed2 : u.owed2 = t.owed2 :=
    owed2_congr (by rw [hu]) (by rw [hu, hr]; rfl) (by rw [hu]) (by rw [hu])
  have hfilled : u.filled = t.filled := by
    simp [hu, filled, hr, RunPc.atReset]
  have hbal := h.balance_run (u := u) (by rw [hu]) (by rw [hu]) (by
    rw [howed1, howed2, hu]) hfilled
  subst hu
  exact ⟨Int.le_refl 0, Int.le_of_lt hpos, h.current, h.null_app, by simp,
    by simp [RunPc.atReset], by simp [RunPc.flushing1], by simp [RunPc.flushing2], h.two,
    fun _ _ _ => hpos, facts_of_beforeSpace hspace _, hbal⟩

theorem runStep_isThreadReady (hstep : t.runStep env = some u) :
    u.log.isThreadReady = t.log.isThreadReady := by
  cases runStep_step hstep with
  | _ => rfl

/-- A step of the flush thread, guarded only by stdio and the number of the files. -/
theorem runStep (h : Owned n p q t) (hb : t.log.Buffers n size recordPerFile p q)
    (hio : env.stdio.Success) (hnumber : t.Numbered (.run env)) (hstep : t.runStep env = some u) :
    Owned n p q u ∧ u.log.Buffers n size recordPerFile p q := by
  cases runStep_step hstep with
  | wait => exact ⟨h, hb⟩
  | enter hrun | toSnapshot hrun | leave hrun | toSleep hrun | inUse hrun | sleep hrun =>
    exact ⟨h.move_run (by rw [hrun]; rfl) rfl (by simp) (by simp [RunPc.flushing1])
      (by simp [RunPc.flushing2]) (by rw [hrun]; rfl) (by rw [hrun]; rfl), hb⟩
  | toFlush1 hrun _ hfull1 =>
    exact ⟨h.move_run (by rw [hrun]; rfl) rfl (by simp) (fun _ => hfull1) (fun hfull2 => hfull2)
      (by rw [hrun]; rfl) (by rw [hrun]; rfl), hb⟩
  | toFlush2 hrun _ _ hfull2 =>
    exact ⟨h.move_run (by rw [hrun]; rfl) rfl (by simp) (by simp [RunPc.flushing1])
      (fun _ => hfull2) (by rw [hrun]; rfl) (by rw [hrun]; rfl), hb⟩
  | flush1 b hrun =>
    have hnumber := hnumber (by rw [hrun]; rfl)
    refine ⟨h.flush1 hb hrun hio hnumber rfl, ?_⟩
    rw [hb.buffer1]
    exact (hb.flush_full hio hnumber (Or.inl rfl)).1
  | clear1ToFlush2 hrun => exact ⟨h.clear1 hrun (Or.inl ⟨rfl, rfl⟩) rfl, hb.of_eq rfl⟩
  | clear1 hrun => exact ⟨h.clear1 hrun (Or.inr rfl) rfl, hb.of_eq rfl⟩
  | flush2 hrun =>
    have hnumber := hnumber (by rw [hrun]; rfl)
    refine ⟨h.flush2 hb hrun hio hnumber rfl, ?_⟩
    rw [hb.buffer2]
    exact (hb.flush_full hio hnumber (Or.inr rfl)).1
  | clear2 hrun => exact ⟨h.clear2 hrun rfl, hb.of_eq rfl⟩
  | toSetCurrent hrun hnone =>
    exact ⟨h.move_run (by rw [hrun]; rfl) rfl (fun _ => hnone) (by simp [RunPc.flushing1])
      (by simp [RunPc.flushing2]) (by rw [hrun]; rfl) (by rw [hrun]; rfl), hb⟩
  | setCurrent hrun => exact ⟨h.setCurrent hb hrun rfl, hb.of_eq rfl⟩
  | resetCount hrun => exact ⟨h.resetCount hb hrun rfl, hb.of_eq rfl⟩

end Owned

end Threads

end HexrotPxiCom.LogTlm
