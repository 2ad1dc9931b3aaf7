import HexrotPxiCom.LogTlm.ExactlyOnce
import HexrotPxiCom.LogTlm.Rearm

/-!
# A flush thread that keeps up with the writer

The calls of `logTlm_write` are counted from one turn of `logTlm_run` that gets the lock to
the next. When two such windows hold fewer calls than a buffer has slots, a full buffer is
in the files before the other one is full, and the log is one queue between the calls and
the files.
-/

namespace HexrotPxiCom.LogTlm

set_option autoImplicit false

open State

universe u
variable {ρ : Type u}

/-- The threads with the records of all calls of `logTlm_write`, the number of calls since
the flush thread last got the lock, and the number in the window before. -/
structure Paced (ρ : Type u) where
  threads : Threads ρ
  records : List ρ
  calls : Nat
  callsBefore : Nat

namespace Paced

def step (c : Paced ρ) (a : Action ρ) : Option (Paced ρ) :=
  (c.threads.step a).map fun t =>
    match a with
    | .write r => ⟨t, c.records ++ [r], c.calls + 1, c.callsBefore⟩
    | .run env =>
      if c.threads.run = .snapshot ∧ env.tryLock = true then ⟨t, c.records, 0, c.calls⟩
      else { c with threads := t }
    | _ => { c with threads := t }

def start (s : State ρ) : Paced ρ := ⟨Threads.start s, [], 0, 0⟩

end Paced

/-- At most `w` calls fall into a window, stdio succeeds, the rotated files can be numbered, and
the thread is not closed. -/
def InTime (w : Nat) (c : Paced ρ) : Action ρ → Prop
  | .write _ => c.calls < w
  | .closeThread => False
  | .app env => env.stdio.Success
  | .run env => env.stdio.Success ∧ c.threads.Numbered (.run env)

instance (w : Nat) (c : Paced ρ) : ∀ a, Decidable (InTime w c a)
  | .write _ => inferInstanceAs (Decidable (c.calls < w))
  | .closeThread => inferInstanceAs (Decidable False)
  | .app env => inferInstanceAs (Decidable env.stdio.Success)
  | .run env => inferInstanceAs (Decidable (env.stdio.Success ∧ c.threads.Numbered (.run env)))

/-- The records of the calls of `logTlm_write` in a schedule. -/
def written (as : List (Action ρ)) : List ρ :=
  as.filterMap fun a =>
    match a with
    | .write r => some r
    | _ => none

namespace AppPc

/-- The record of a call that is not counted yet. -/
def inHand : AppPc ρ → List ρ
  | .testBuffer r | .testFile r | .testSpace r | .copy r | .addCount r => [r]
  | _ => []

/-- The record of the call in progress. -/
def record : AppPc ρ → List ρ
  | .testBuffer r | .testFile r | .testSpace r | .copy r | .addCount r | .testFull r
  | .testThread r | .flush r | .testWhich r | .lock1 r | .lock2 r | .swapTo2 r | .swapTo1 r
  | .resetCount r | .setNull r => [r]
  | _ => []

/-- Neither closing the thread nor about to store NULL. -/
def keepsPace : AppPc ρ → Bool
  | .flush _ | .setNull _ | .closeTest | .closeClear | .closeJoin => false
  | _ => true

/-- Buffer 1 may be the current buffer and marked full. -/
def leaving1 : AppPc ρ → Bool
  | .swapTo2 _ => true
  | _ => false

def atSwapTo1 : AppPc ρ → Bool
  | .swapTo1 _ => true
  | _ => false

end AppPc

namespace RunPc

def flushing (pc : RunPc) : Bool := pc.flushing1 || pc.flushing2

end RunPc

namespace Threads

/-- The full buffers that a turn has still to write to the files. -/
def waiting (t : Threads ρ) : List ρ :=
  (if t.log.isFullBuffer1 && !t.run.flushed1 then t.log.cellsAt t.log.pBuffer1 else []) ++
    if t.log.isFullBuffer2 && !t.run.flushed2 then t.log.cellsAt t.log.pBuffer2 else []

/-- The counted records of the current buffer, unless it is marked full already. -/
def inCurrent (t : Threads ρ) : List ρ :=
  if t.app.leaving then []
  else (t.log.cellsAt t.log.pBufferCurrent).take t.log.countBufferCurrent.toNat

/-- No call is refused, and the files, the waiting buffer, the current buffer and the call in
progress hold the records of all calls in their order. -/
structure Lossless (as : List (Action ρ)) (t : Threads ρ) : Prop where
  armed : t.log.pBufferCurrent ≠ none
  notFailing : t.app.atSetNull = false
  accepted : t.accepted ++ t.app.record = written as
  order : t.log.file.logContents ++ t.waiting ++ t.inCurrent ++ t.app.inHand = written as

/-- What the calls since the last swap of the buffers have used of the current buffer. -/
def used (t : Threads ρ) : Int :=
  (if t.app.leaving then 0 else t.log.countBufferCurrent) + t.app.inHand.length

/-- The calls that a full buffer may have seen since it was marked full. -/
def grace (calls callsBefore : Nat) (pc : RunPc) : Nat :=
  calls + if pc.flushing then callsBefore else 0

/-- At most one buffer is waiting, and the current one fills up no faster than the calls of
the windows since it was marked full. -/
structure OnTime (w p calls callsBefore : Nat) (records : List ρ) (t : Threads ρ) : Prop where
  calls_le : calls ≤ w
  before_le : callsBefore ≤ w
  armed : t.log.pBufferCurrent ≠ none
  app : t.app.keepsPace = true
  noReset : t.run.atReset = false
  one : t.log.pBufferCurrent = some p → t.log.isFullBuffer1 = true → t.app.leaving1 = true
  empty1 : t.app.atSwapTo1 = true → t.log.isFullBuffer1 = false
  single : t.log.isFullBuffer1 = true → t.log.isFullBuffer2 = false
  pace : t.log.isFullBuffer1 = true ∨ t.log.isFullBuffer2 = true →
    t.used ≤ grace calls callsBefore t.run
  accepted : t.accepted ++ t.app.record = records
  order : t.log.file.logContents ++ t.waiting ++ t.inCurrent ++ t.app.inHand = records

namespace OnTime
variable {w p q size calls callsBefore : Nat} {n recordPerFile : Int} {records : List ρ}
  {t u : Threads ρ} {a b : AppPc ρ} {env : Env} {r : ρ}

theorem grace_le (h : OnTime w p calls callsBefore records t) :
    grace calls callsBefore t.run ≤ 2 * w := by
  have hcalls := h.calls_le
  have hbefore := h.before_le
  unfold grace
  split <;> omega

/-- When the last slot of the current buffer is taken, the other one is in the files. -/
theorem none_full (h : OnTime w p calls callsBefore records t) (hw : (2 * w : Nat) < n)
    (hcount : t.log.countBufferCurrent = n) (hleave : t.app.leaving = false) :
    t.log.isFullBuffer1 = false ∧ t.log.isFullBuffer2 = false := by
  have hgrace := h.grace_le
  by_contra hfull
  have hpace := h.pace (by
    cases h1 : t.log.isFullBuffer1 <;> cases h2 : t.log.isFullBuffer2 <;> simp [h1, h2] at hfull ⊢)
  rw [used, hleave, if_neg (by decide), hcount] at hpace
  omega

theorem oneOwner (h : OnTime w p calls callsBefore records t) (hown : Owned n p q t)
    (hb : t.log.Buffers n size recordPerFile p q) (hw : (2 * w : Nat) < n) :
    t.OneOwner (.app env) := by
  have hfacts := hown.facts
  have hone := h.one
  have hkeep := h.app
  unfold OneOwner
  cases ha : t.app <;> rw [ha] at hfacts hone hkeep <;> try trivial
  case testSpace => exact h.noReset
  case copy =>
    intro hcur hfull
    exact absurd (hone (hcur.trans hb.buffer1) hfull) (by simp [AppPc.leaving1])
  case lock1 => exact (h.none_full hw hfacts.1 (by rw [ha]; rfl)).1

/-- A step of a call that leaves the globals as they are. -/
theorem move_app (h : OnTime w p calls callsBefore records t) {acc : List ρ} (ha : t.app = a)
    (hkeep : b.keepsPace = true) (hleave : b.leaving = a.leaving) (hone : a.leaving1 = false)
    (hswap : b.atSwapTo1 = false) (hhand : b.inHand = a.inHand)
    (hacc : acc ++ b.record = t.accepted ++ a.record) :
    OnTime w p calls callsBefore records { t with app := b, accepted := acc } := by
  subst ha
  refine ⟨h.calls_le, h.before_le, h.armed, hkeep, h.noReset, ?_, ?_, h.single, ?_,
    hacc.trans h.accepted, ?_⟩
  · intro hcur hfull
    have htrue := h.one hcur hfull
    rw [hone] at htrue
    cases htrue
  · intro htrue
    rw [hswap] at htrue
    cases htrue
  · intro hfull
    have hpace := h.pace hfull
    simp only [used, hleave, hhand] at hpace ⊢
    exact hpace
  · have horder := h.order
    simp only [waiting, inCurrent, hleave, hhand] at horder ⊢
    exact horder

theorem current_ne (h : OnTime w p calls callsBefore records t) (hone : t.app.leaving1 = false)
    (hfull : t.log.isFullBuffer1 = true) : t.log.pBufferCurrent ≠ some p := by
  intro hcur
  have htrue := h.one hcur hfull
  rw [hone] at htrue
  cases htrue

/-- The `memcpy` writes behind the counted records of a buffer that is not waiting. -/
theorem copy (h : OnTime w p calls callsBefore records t) (hown : Owned n p q t)
    (hb : t.log.Buffers n size recordPerFile p q) (ha : t.app = .copy r) :
    OnTime w p calls callsBefore records
      { t with log := t.log.copyRecord r, app := .addCount r } := by
  obtain ⟨c, hc, -⟩ := hown.current_some h.armed
  have hwaiting : waiting { t with log := t.log.copyRecord r, app := .addCount r } =
      t.waiting := by
    have h1 : t.log.isFullBuffer1 = true →
        (t.log.copyRecord r).cellsAt t.log.pBuffer1 = t.log.cellsAt t.log.pBuffer1 := by
      intro hfull
      rw [hb.buffer1, cellsAt_some, cellsAt_some,
        copyRecord_heap_of_ne r (h.current_ne (by rw [ha]; rfl) hfull)]
    have h2 : t.log.isFullBuffer2 = true →
        (t.log.copyRecord r).cellsAt t.log.pBuffer2 = t.log.cellsAt t.log.pBuffer2 := by
      intro hfull
      have hne : t.log.pBufferCurrent ≠ some q := by
        intro hq
        rw [hown.not_full2 ha rfl hq] at hfull
        cases hfull
      rw [hb.buffer2, cellsAt_some, cellsAt_some, copyRecord_heap_of_ne r hne]
    simp only [waiting, copyRecord_isFullBuffer1, copyRecord_isFullBuffer2, copyRecord_pBuffer1,
      copyRecord_pBuffer2]
    congr 1
    · split
      · rename_i hfull
        exact h1 (Bool.and_eq_true_iff.mp hfull).1
      · rfl
    · split
      · rename_i hfull
        exact h2 (Bool.and_eq_true_iff.mp hfull).1
      · rfl
  have hcurrent : inCurrent { t with log := t.log.copyRecord r, app := .addCount r } =
      t.inCurrent := by
    simp only [inCurrent, ha, AppPc.leaving, copyRecord_pBufferCurrent,
      copyRecord_countBufferCurrent, hc, cellsAt_some, copyRecord_cells r hc]
    rw [if_neg (by decide), if_neg (by decide), List.take_set_of_le (Nat.le_refl _)]
  refine ⟨h.calls_le, h.before_le, ?_, rfl, h.noReset, ?_, by simp [AppPc.atSwapTo1], ?_, ?_, ?_,
    ?_⟩
  · rw [copyRecord_pBufferCurrent]
    exact h.armed
  · intro hcur hfull
    rw [copyRecord_pBufferCurrent] at hcur
    rw [copyRecord_isFullBuffer1] at hfull
    exact absurd hcur (h.current_ne (by rw [ha]; rfl) hfull)
  · rw [copyRecord_isFullBuffer1, copyRecord_isFullBuffer2]
    exact h.single
  · intro hfull
    rw [copyRecord_isFullBuffer1, copyRecord_isFullBuffer2] at hfull
    have hpace := h.pace hfull
    rw [used, ha] at hpace
    rw [used, copyRecord_countBufferCurrent]
    exact hpace
  · have hacc := h.accepted
    rw [ha] at hacc
    exact hacc
  · have horder := h.order
    rw [ha] at horder
    rw [hwaiting, hcurrent, copyRecord_file]
    exact horder

theorem addCount (h : OnTime w p calls callsBefore records t) (hown : Owned n p q t)
    (ha : t.app = .addCount r) :
    OnTime w p calls callsBefore records { t with
      log := { t.log with countBufferCurrent := t.log.countBufferCurrent + 1 }
      app := .testFull r } := by
  have hnonneg := hown.count_nonneg
  obtain ⟨-, hcell⟩ : t.log.countBufferCurrent < n ∧
      (t.log.cellsAt t.log.pBufferCurrent)[t.log.countBufferCurrent.toNat]? = some r := by
    have hfacts := hown.facts
    rw [ha] at hfacts
    exact hfacts
  have hcurrent : inCurrent { t with
      log := { t.log with countBufferCurrent := t.log.countBufferCurrent + 1 }
      app := .testFull r } = t.inCurrent ++ [r] := by
    have hsucc : (t.log.countBufferCurrent + 1).toNat = t.log.countBufferCurrent.toNat + 1 := by
      omega
    simp only [inCurrent, ha, AppPc.leaving, Bool.false_eq_true, if_false]
    change List.take (t.log.countBufferCurrent + 1).toNat (t.log.cellsAt t.log.pBufferCurrent) = _
    rw [hsucc, List.take_add_one, hcell, Option.toList_some]
  refine ⟨h.calls_le, h.before_le, h.armed, rfl, h.noReset, ?_, by simp [AppPc.atSwapTo1],
    h.single, ?_, ?_, ?_⟩
  · intro hcur hfull
    exact absurd hcur (h.current_ne (by rw [ha]; rfl) hfull)
  · intro hfull
    have hpace := h.pace hfull
    simp only [used, ha, AppPc.leaving, AppPc.inHand, Bool.false_eq_true, if_false, List.length_nil,
      List.length_singleton] at hpace ⊢
    omega
  · have hacc := h.accepted
    rw [ha] at hacc
    exact hacc
  · have horder := h.order
    rw [ha] at horder
    rw [hcurrent]
    simp only [AppPc.inHand, List.append_nil, List.append_assoc] at horder ⊢
    exact horder

theorem inCurrent_full (h : OnTime w p calls callsBefore records t) (hown : Owned n p q t)
    (hb : t.log.Buffers n size recordPerFile p q) (hcount : t.log.countBufferCurrent = n)
    (hleave : t.app.leaving = false) : t.inCurrent = t.log.cellsAt t.log.pBufferCurrent := by
  obtain ⟨c, hc, hcpq⟩ := hown.current_some h.armed
  have hlen := hb.length_eq hcpq
  rw [inCurrent, hleave, if_neg (by decide), hc, cellsAt_some]
  apply List.take_of_length_le
  omega

/-- The records of a buffer that fills up go over from the current ones to the waiting ones. -/
theorem mark (h : OnTime w p calls callsBefore records t) (hown : Owned n p q t)
    (hnone : t.log.isFullBuffer1 = false ∧ t.log.isFullBuffer2 = false)
    (hhand : t.app.inHand = []) (hkeep : b.keepsPace = true) (hleave' : b.leaving = true)
    (hhand' : b.inHand = [])
    (hrecord : b.record = t.app.record) {full1 full2 : Bool}
    (hfull : (full1 = true ∧ full2 = false ∧ b.leaving1 = true ∧ b.atSwapTo1 = false) ∨
      (full1 = false ∧ full2 = true))
    (hcells : (if full1 then t.log.cellsAt t.log.pBuffer1 else []) ++
      (if full2 then t.log.cellsAt t.log.pBuffer2 else []) = t.inCurrent) :
    OnTime w p calls callsBefore records { t with
      log := { t.log with isFullBuffer1 := full1, isFullBuffer2 := full2 }
      app := b } := by
  have hwait : t.waiting = [] := by simp [waiting, hnone]
  have hwait' : waiting { t with
      log := { t.log with isFullBuffer1 := full1, isFullBuffer2 := full2 }
      app := b } = t.inCurrent := by
    rw [← hcells]
    simp [waiting, hown.flushed1_eq_false hnone.1, hown.flushed2_eq_false hnone.2, State.cellsAt]
  refine ⟨h.calls_le, h.before_le, h.armed, hkeep, h.noReset, ?_, ?_, ?_, ?_, ?_, ?_⟩
  · intro _ hf
    rcases hfull with ⟨-, -, hl, -⟩ | ⟨hl, -⟩
    · exact hl
    · rw [show full1 = true from hf] at hl
      cases hl
  · intro hb
    rcases hfull with ⟨-, -, -, hl⟩ | ⟨hl, -⟩
    · rw [hl] at hb
      cases hb
    · exact hl
  · intro hf
    rcases hfull with ⟨-, hl, -⟩ | ⟨hl, -⟩
    · exact hl
    · rw [show full1 = true from hf] at hl
      cases hl
  · intro _
    simp [used, hleave', hhand']
  · rw [hrecord]
    exact h.accepted
  · have horder := h.order
    rw [hwait, hhand] at horder
    rw [hwait']
    simp only [inCurrent, hleave', hhand', if_true, List.append_nil] at horder ⊢
    exact horder

/-- The writer goes over to the other buffer. -/
theorem swap (h : OnTime w p calls callsBefore records t) (hleave : t.app.leaving = true)
    (hrecord : t.app.record = [r]) (hhand : t.app.inHand = []) {c : Nat}
    (hone : c = p → t.log.isFullBuffer1 = false) :
    OnTime w p calls callsBefore records { t with
      log := { t.log with pBufferCurrent := some c }
      app := .resetCount r } := by
  refine ⟨h.calls_le, h.before_le, Option.some_ne_none c, rfl, h.noReset, ?_,
    by simp [AppPc.atSwapTo1], h.single, ?_, ?_, ?_⟩
  · intro hcur hfull
    have hempty := hone (Option.some.inj hcur)
    rw [show t.log.isFullBuffer1 = true from hfull] at hempty
    cases hempty
  · intro _
    simp [used, AppPc.leaving, AppPc.inHand]
  · have hacc := h.accepted
    rw [hrecord] at hacc
    exact hacc
  · have horder := h.order
    simp only [inCurrent, hleave, hhand] at horder ⊢
    exact horder

/-- The call that filled a buffer returns. -/
theorem resetCount (h : OnTime w p calls callsBefore records t) (ha : t.app = .resetCount r) :
    OnTime w p calls callsBefore records
      (ret 0 r { t with log := { t.log with countBufferCurrent := 0 } }) := by
  refine ⟨h.calls_le, h.before_le, h.armed, rfl, h.noReset, ?_, by simp [ret, AppPc.atSwapTo1],
    h.single, ?_, ?_, ?_⟩
  · intro hcur hfull
    exact absurd hcur (h.current_ne (by rw [ha]; rfl) hfull)
  · intro _
    simp [used, ret, AppPc.leaving, AppPc.inHand]
  · have hacc := h.accepted
    rw [ha] at hacc
    simpa [ret, AppPc.record] using hacc
  · have horder := h.order
    rw [ha] at horder
    simp only [inCurrent, ha, AppPc.leaving, AppPc.inHand, if_true, List.append_nil] at horder
    simpa [inCurrent, ret, AppPc.inHand, waiting, State.cellsAt] using horder

theorem appStep (h : OnTime w p calls callsBefore records t) (hown : Owned n p q t)
    (hb : t.log.Buffers n size recordPerFile p q) (hready : t.log.isThreadReady = true)
    (hw : (2 * w : Nat) < n) (hstep : t.appStep env = some u) :
    OnTime w p calls callsBefore records u := by
  have hmax := hb.countBufferMax
  have hkeep := h.app
  have hfacts := hown.facts
  cases appStep_step hstep with
  | noBuffer r _ hnone => exact absurd hnone h.armed
  | toTestFile r ha | toTestSpace r ha | toCopy r ha | toTestThread r ha | toTestWhich r ha
  | toLock1 r ha | toLock2 r ha => exact h.move_app ha rfl rfl rfl rfl rfl rfl
  | noFile r _ hnone =>
    rw [hb.opened.pFile] at hnone
    cases hnone
  | noSpace r ha hge =>
    have hlt := hown.room h.armed (by rw [ha]; rfl) h.noReset
    rw [hmax] at hge
    exact absurd hlt hge
  | copy r ha => exact h.copy hown hb ha
  | addCount r ha => exact h.addCount hown ha
  | notFull r ha =>
    refine h.move_app (b := .idle) ha rfl rfl rfl rfl rfl ?_
    simp [AppPc.record]
  | toFlush r _ hstopped =>
    rw [hready] at hstopped
    cases hstopped
  | lock1ToSetNull r ha hfull2 =>
    rw [ha] at hfacts
    rw [(h.none_full hw hfacts.1 (by rw [ha]; rfl)).2] at hfull2
    cases hfull2
  | lock2ToSetNull r ha hfull1 =>
    rw [ha] at hfacts
    rw [(h.none_full hw hfacts.1 (by rw [ha]; rfl)).1] at hfull1
    cases hfull1
  | lock1 r ha =>
    rw [ha] at hfacts
    obtain ⟨hcount, hcur⟩ := hfacts
    have hnone := h.none_full hw hcount (by rw [ha]; rfl)
    refine h.mark (b := .swapTo2 r) hown hnone (by rw [ha]; rfl) rfl rfl rfl (by rw [ha]; rfl)
      (Or.inl ⟨rfl, hnone.2, rfl, rfl⟩) ?_
    rw [hnone.2, ← hcur, if_pos rfl, if_neg (by decide), List.append_nil]
    exact (h.inCurrent_full hown hb hcount (by rw [ha]; rfl)).symm
  | lock2 r ha =>
    rw [ha] at hfacts
    obtain ⟨hcount, hcur⟩ := hfacts
    have hnone := h.none_full hw hcount (by rw [ha]; rfl)
    refine h.mark (b := .swapTo1 r) hown hnone (by rw [ha]; rfl) rfl rfl rfl (by rw [ha]; rfl)
      (Or.inr ⟨hnone.1, rfl⟩) ?_
    rw [hnone.1, ← hcur, if_pos rfl, if_neg (by decide), List.nil_append]
    exact (h.inCurrent_full hown hb hcount (by rw [ha]; rfl)).symm
  | swapTo2 r ha =>
    rw [hb.buffer2]
    exact h.swap (by rw [ha]; rfl) (by rw [ha]; rfl) (by rw [ha]; rfl)
      fun hq => absurd hq.symm hb.distinct
  | swapTo1 r ha =>
    rw [hb.buffer1]
    exact h.swap (by rw [ha]; rfl) (by rw [ha]; rfl) (by rw [ha]; rfl)
      fun _ => h.empty1 (by rw [ha]; rfl)
  | resetCount r ha => exact h.resetCount ha
  | flush _ ha | setNull _ ha | toCloseClear ha | noThread ha | closeClear ha | joined ha =>
    simp [ha, AppPc.keepsPace] at hkeep

/-- A step of the flush thread that changes nothing but its place. -/
theorem move_run (h : OnTime w p calls callsBefore records t) {pc : RunPc}
    (hreset : pc.atReset = false) (hflush : pc.flushing = t.run.flushing)
    (h1 : pc.flushed1 = t.run.flushed1) (h2 : pc.flushed2 = t.run.flushed2) :
    OnTime w p calls callsBefore records { t with run := pc } := by
  refine ⟨h.calls_le, h.before_le, h.armed, h.app, hreset, h.one, h.empty1, h.single, ?_,
    h.accepted, ?_⟩
  · intro hfull
    have hpace := h.pace hfull
    rw [grace] at hpace ⊢
    rw [hflush]
    exact hpace
  · have horder := h.order
    simp only [waiting, h1, h2] at horder ⊢
    exact horder

/-- The flush thread gets the lock: a full buffer has seen the calls of one window only. -/
theorem snapshot (h : OnTime w p calls callsBefore records t) (hrun : t.run = .snapshot)
    {pc : RunPc} (hreset : pc.atReset = false)
    (hflush : t.log.isFullBuffer1 = true ∨ t.log.isFullBuffer2 = true → pc.flushing = true)
    (h1 : pc.flushed1 = t.run.flushed1) (h2 : pc.flushed2 = t.run.flushed2) :
    OnTime w p 0 calls records { t with run := pc } := by
  refine ⟨Nat.zero_le w, h.calls_le, h.armed, h.app, hreset, h.one, h.empty1, h.single, ?_,
    h.accepted, ?_⟩
  · intro hfull
    have hpace := h.pace hfull
    rw [hrun] at hpace
    rw [grace, hflush hfull, if_pos rfl, Nat.zero_add]
    exact hpace
  · have horder := h.order
    simp only [waiting, h1, h2] at horder ⊢
    exact horder

/-- The flush of the waiting buffer. -/
theorem flush (h : OnTime w p calls callsBefore records t) {io : Stdio} {pBuffer : Option Nat}
    {pc : RunPc} (hreset : pc.atReset = false) (hflush : pc.flushing = t.run.flushing)
    (hlog : (t.log.flushToFile io pBuffer t.log.countBufferMax).file.logContents =
      t.log.file.logContents ++ t.waiting)
    (hwait : waiting { t with
      log := t.log.flushToFile io pBuffer t.log.countBufferMax
      run := pc } = []) :
    OnTime w p calls callsBefore records { t with
      log := t.log.flushToFile io pBuffer t.log.countBufferMax
      run := pc } := by
  refine ⟨h.calls_le, h.before_le, h.armed, h.app, hreset, h.one, h.empty1, h.single, ?_,
    h.accepted, ?_⟩
  · intro hfull
    have hpace := h.pace hfull
    rw [grace] at hpace ⊢
    rw [hflush]
    exact hpace
  · rw [hwait, hlog, List.append_nil]
    exact h.order

/-- The clear of the only full flag. -/
theorem clear (h : OnTime w p calls callsBefore records t) {pc : RunPc}
    (hreset : pc.atReset = false) (hwait : t.waiting = []) {full1 full2 : Bool}
    (h1 : full1 = false) (h2 : full2 = false) :
    OnTime w p calls callsBefore records { t with
      log := { t.log with isFullBuffer1 := full1, isFullBuffer2 := full2 }
      run := pc } := by
  subst h1 h2
  refine ⟨h.calls_le, h.before_le, h.armed, h.app, hreset, ?_, fun _ => rfl, fun _ => rfl, ?_,
    h.accepted, ?_⟩
  · intro _ hfull
    cases hfull
  · rintro (hfull | hfull) <;> cases hfull
  · have horder := h.order
    rw [hwait] at horder
    simpa [waiting, inCurrent, State.cellsAt] using horder

theorem waiting1 (h : OnTime w p calls callsBefore records t) (hfull : t.log.isFullBuffer1 = true)
    (hrun : t.run.flushed1 = false) : t.waiting = t.log.cellsAt t.log.pBuffer1 := by
  simp [waiting, hfull, hrun, h.single hfull]

theorem not_full1 (h : OnTime w p calls callsBefore records t)
    (hfull : t.log.isFullBuffer2 = true) : t.log.isFullBuffer1 = false := by
  cases h1 : t.log.isFullBuffer1 with
  | false => rfl
  | true =>
    rw [h.single h1] at hfull
    cases hfull

theorem waiting2 (h : OnTime w p calls callsBefore records t) (hfull : t.log.isFullBuffer2 = true)
    (hrun : t.run.flushed2 = false) : t.waiting = t.log.cellsAt t.log.pBuffer2 := by
  simp [waiting, hfull, hrun, h.not_full1 hfull]

theorem runStep (h : OnTime w p calls callsBefore records t) (hown : Owned n p q t)
    (hb : t.log.Buffers n size recordPerFile p q) (hready : t.log.isThreadReady = true)
    (hio : env.stdio.Success) (hnumber : t.Numbered (.run env))
    (hstep : t.runStep env = some u) :
    if t.run = .snapshot ∧ env.tryLock = true then OnTime w p 0 calls records u
    else OnTime w p calls callsBefore records u := by
  cases runStep_step hstep with
  | wait hrun =>
    rw [if_neg (by simp [hrun])]
    exact h
  | enter hrun | toSnapshot hrun | inUse hrun | sleep hrun =>
    rw [if_neg (by simp [hrun])]
    exact h.move_run rfl (by rw [hrun]; rfl) (by rw [hrun]; rfl) (by rw [hrun]; rfl)
  | leave _ hstopped =>
    rw [hready] at hstopped
    cases hstopped
  | toFlush1 hrun hlock =>
    rw [if_pos ⟨hrun, hlock⟩]
    exact h.snapshot hrun rfl (fun _ => rfl) (by rw [hrun]; rfl) (by rw [hrun]; rfl)
  | toFlush2 hrun hlock =>
    rw [if_pos ⟨hrun, hlock⟩]
    exact h.snapshot hrun rfl (fun _ => rfl) (by rw [hrun]; rfl) (by rw [hrun]; rfl)
  | toSleep hrun hnone =>
    rcases hnone with ⟨hlock, -⟩ | ⟨hlock, hfull1, hfull2⟩
    · rw [if_neg (by simp [hlock])]
      exact h.move_run rfl (by rw [hrun]; rfl) (by rw [hrun]; rfl) (by rw [hrun]; rfl)
    · rw [if_pos ⟨hrun, hlock⟩]
      exact h.snapshot hrun rfl (by simp [hfull1, hfull2]) (by rw [hrun]; rfl) (by rw [hrun]; rfl)
  | flush1 b hrun =>
    have hfull := hown.flushing1 (by rw [hrun]; rfl)
    have hwait := h.waiting1 hfull (by rw [hrun]; rfl)
    rw [if_neg (by simp [hrun])]
    refine h.flush rfl (by rw [hrun]; rfl) ?_ ?_
    · rw [hwait, hb.buffer1, cellsAt_some]
      exact (hb.flush_full hio (hnumber (by rw [hrun]; rfl)) (Or.inl rfl)).2.1
    · have hfull2 := h.single hfull
      simp [waiting, State.flushToFile, RunPc.flushed1, hfull2]
  | flush2 hrun =>
    have hfull := hown.flushing2 (by rw [hrun]; rfl)
    have hwait := h.waiting2 hfull (by rw [hrun]; rfl)
    rw [if_neg (by simp [hrun])]
    refine h.flush rfl (by rw [hrun]; rfl) ?_ ?_
    · rw [hwait, hb.buffer2, cellsAt_some]
      exact (hb.flush_full hio (hnumber (by rw [hrun]; rfl)) (Or.inr rfl)).2.1
    · have hfull1 := h.not_full1 hfull
      simp [waiting, State.flushToFile, RunPc.flushed2, hfull1]
  | clear1ToFlush2 hrun =>
    have hfull2 := hown.flushing2 (by rw [hrun]; rfl)
    rw [h.single (hown.flushing1 (by rw [hrun]; rfl))] at hfull2
    cases hfull2
  | clear1 hrun =>
    have hfull2 := h.single (hown.flushing1 (by rw [hrun]; rfl))
    rw [if_neg (by simp [hrun])]
    exact h.clear rfl (by simp [waiting, hrun, RunPc.flushed1, hfull2]) rfl hfull2
  | clear2 hrun =>
    have hfull1 := h.not_full1 (hown.flushing2 (by rw [hrun]; rfl))
    rw [if_neg (by simp [hrun])]
    exact h.clear rfl (by simp [waiting, hrun, RunPc.flushed2, hfull1]) hfull1 rfl
  | toSetCurrent _ hnone => exact absurd hnone h.armed
  | setCurrent hrun => exact absurd (hown.null_run hrun) h.armed
  | resetCount hrun =>
    have hreset := h.noReset
    rw [hrun] at hreset
    cases hreset

theorem write (h : OnTime w p calls callsBefore records t) (hidle : t.app = .idle)
    (hcalls : calls < w) (r : ρ) :
    OnTime w p (calls + 1) callsBefore (records ++ [r]) { t with app := .testBuffer r } := by
  refine ⟨hcalls, h.before_le, h.armed, rfl, h.noReset, ?_, by simp [AppPc.atSwapTo1], h.single,
    ?_, ?_, ?_⟩
  · intro hcur hfull
    exact absurd hcur (h.current_ne (by rw [hidle]; rfl) hfull)
  · intro hfull
    have hpace := h.pace hfull
    simp only [used, grace, hidle, AppPc.leaving, AppPc.inHand, Bool.false_eq_true, if_false,
      List.length_nil, List.length_singleton] at hpace ⊢
    omega
  · have hacc := h.accepted
    rw [hidle] at hacc
    rw [← hacc]
    simp [AppPc.record]
  · have horder := h.order
    rw [hidle] at horder
    rw [← horder]
    simp [waiting, inCurrent, hidle, AppPc.inHand, AppPc.leaving]

end OnTime

end Threads

namespace Threads

theorem start_onTime {n recordPerFile : Int} {size p q : Nat} {s : State ρ} (w : Nat)
    (hb : s.Buffers n size recordPerFile p q) (hcount : s.countBufferCurrent = 0)
    (hcur : s.pBufferCurrent = s.pBuffer1) (hfull1 : s.isFullBuffer1 = false)
    (hfull2 : s.isFullBuffer2 = false) (hlog : s.file.logContents = []) :
    OnTime w p 0 0 [] (start s) := by
  refine ⟨Nat.zero_le w, Nat.zero_le w, ?_, rfl, rfl, ?_, by simp [start, AppPc.atSwapTo1],
    fun _ => hfull2, ?_, rfl, ?_⟩
  · change s.pBufferCurrent ≠ none
    rw [hcur, hb.buffer1]
    exact Option.some_ne_none p
  · simp [start, hfull1]
  · simp [start, hfull1, hfull2]
  · simp [start, waiting, inCurrent, hfull1, hfull2, hlog, hcount, AppPc.inHand]

end Threads

namespace Paced

/-- The steps of both threads in time keep the queue. -/
structure Kept (w : Nat) (n recordPerFile : Int) (size p q : Nat) (c : Paced ρ) : Prop where
  owned : c.threads.Owned n p q
  buffers : c.threads.log.Buffers n size recordPerFile p q
  ready : c.threads.log.isThreadReady = true
  onTime : c.threads.OnTime w p c.calls c.callsBefore c.records

section
variable {w size p q : Nat} {n recordPerFile : Int} {c d : Paced ρ} {a : Action ρ}

theorem Kept.step (h : c.Kept w n recordPerFile size p q) (hw : (2 * w : Nat) < n)
    (hsafe : InTime w c a) (hstep : c.step a = some d) : d.Kept w n recordPerFile size p q := by
  obtain ⟨hown, hb, hready, hon⟩ := h
  obtain ⟨t, ht, rfl⟩ := Option.map_eq_some_iff.mp hstep
  have hio : a.Success := by
    cases a with
    | app env => exact hsafe
    | run env => exact hsafe.1
    | _ => trivial
  have hnumber : c.threads.Numbered a := by
    cases a with
    | run env => exact hsafe.2
    | _ => trivial
  have howner : c.threads.OneOwner a := by
    cases a with
    | app env => exact hon.oneOwner hown hb hw
    | _ => trivial
  obtain ⟨hown', hb', hready'⟩ := hown.step hb hready hio hnumber howner ht
  cases a with
  | write r =>
    refine ⟨hown', hb', hready', ?_⟩
    cases ha : c.threads.app <;> simp only [Threads.step, ha] at ht <;> cases ht
    exact hon.write ha hsafe r
  | closeThread => exact hsafe.elim
  | app env => exact ⟨hown', hb', hready', hon.appStep hown hb hready hw ht⟩
  | run env =>
    have hrun := hon.runStep hown hb hready hsafe.1 hsafe.2 ht
    by_cases hlock : c.threads.run = .snapshot ∧ env.tryLock = true
    · rw [if_pos hlock] at hrun
      simp only [if_pos hlock]
      exact ⟨hown', hb', hready', hrun⟩
    · rw [if_neg hlock] at hrun
      simp only [if_neg hlock]
      exact ⟨hown', hb', hready', hrun⟩

/-- The counts follow a run of the threads, whatever it does. -/
theorem run_of_threads {as : List (Action ρ)} {t : Threads ρ}
    (hrun : Runs.run Threads.step c.threads as = some t) :
    ∃ d, Runs.run step c as = some d ∧ d.threads = t ∧ d.records = c.records ++ written as := by
  induction as generalizing c with
  | nil =>
    cases hrun
    exact ⟨c, rfl, rfl, (List.append_nil _).symm⟩
  | cons a as ih =>
    obtain ⟨u, hu, hrun⟩ := Runs.run_cons_eq_some.mp hrun
    obtain ⟨d, hd, hthreads, hrecords⟩ : ∃ d, c.step a = some d ∧ d.threads = u ∧
        d.records = c.records ++ written [a] := by
      refine ⟨_, by rw [step, hu]; rfl, ?_⟩
      cases a with
      | write r => exact ⟨rfl, rfl⟩
      | closeThread | app env => exact ⟨rfl, (List.append_nil _).symm⟩
      | run env =>
        dsimp only
        split
        · exact ⟨rfl, (List.append_nil _).symm⟩
        · exact ⟨rfl, (List.append_nil _).symm⟩
    obtain ⟨e, he, hlast, hall⟩ := ih (c := d) (by rw [hthreads]; exact hrun)
    refine ⟨e, Runs.run_cons_eq_some.mpr ⟨d, hd, he⟩, hlast, ?_⟩
    rw [hall, hrecords, List.append_assoc, written, written, written, ← List.filterMap_append]
    rfl

end

end Paced

section
variable [Inhabited ρ] {alloc : Alloc} {env : Env} {filename : String} {n recordPerFile : Int}
  {size w : Nat} {created scheduled : Bool} {timeInMs : Int} {s₀ s₁ s₂ s₃ : State ρ}
  {as : List (Action ρ)} {t : Threads ρ}

theorem start_kept (hcreate : s₀.createBuffer alloc n size = (0, s₁))
    (hbuffer : s₁.pBuffer1 ≠ none)
    (hopen : s₁.openLog env filename recordPerFile = (0, s₂))
    (hthread : s₂.runFlushInNewThread created scheduled timeInMs = (0, s₃)) :
    ∃ p q, (Paced.start s₃).Kept w n recordPerFile size p q := by
  obtain ⟨p, q, hb⟩ := Buffers.opened_of_create hcreate hbuffer hopen hthread
  obtain ⟨-, -, rfl⟩ := openLog_cases hopen
  obtain rfl := runFlushInNewThread_cases hthread
  exact ⟨p, q, Threads.start_owned hb rfl rfl rfl rfl opened_logContents, hb, rfl,
    Threads.start_onTime w hb rfl rfl rfl rfl opened_logContents⟩

theorem lossless_of_rate (hcreate : s₀.createBuffer alloc n size = (0, s₁))
    (hbuffer : s₁.pBuffer1 ≠ none)
    (hopen : s₁.openLog env filename recordPerFile = (0, s₂))
    (hthread : s₂.runFlushInNewThread created scheduled timeInMs = (0, s₃))
    (hw : (2 * w : Nat) < n)
    (hguard : Runs.Guarded Paced.step (InTime w) (Paced.start s₃) as)
    (hrun : Runs.run Threads.step (Threads.start s₃) as = some t) : t.Lossless as := by
  obtain ⟨p, q, hstart⟩ := start_kept (w := w) hcreate hbuffer hopen hthread
  obtain ⟨c, hc, rfl, hrecords⟩ := Paced.run_of_threads (c := Paced.start s₃) hrun
  have h := (Runs.Guarded.invariant (fun _ _ _ h hsafe hs => h.step hw hsafe hs) hguard hc
    hstart).onTime
  rw [show c.records = written as from hrecords] at h
  refine ⟨h.armed, ?_, h.accepted, h.order⟩
  have hkeep := h.app
  cases ha : c.threads.app <;> first | rfl | simp [ha, AppPc.keepsPace] at hkeep

end

end HexrotPxiCom.LogTlm
